import Velox.Integrations.GitSite
import Velox.Integrations.WorkProductSafety
import Velox.Lib.Run

/-!
# Discarding again

A discard removes the worktree, then the branch, and records itself last. When it is cut
short, another one follows. That one has to find the worktree in place, to prove the
identity of what it removes.

## Main definitions

* `RunState.Disposable` — a row whose work product may be disposed of
* `Disturbed` — how commands may go wrong while a discard is cut short
* `DiscardAttempt`, `discardAttempt` — a discard that is stopped somewhere
* `Discarded` — what a completed discard has come to

## Main results

* `yields_discard` — a discard of a pair that is in place
* `discardable_after` — what attempts leave behind
* `discard_completes_iff`
-/

set_option autoImplicit false

namespace Velox

/-! ### What attempts leave behind -/

/-- The row of an action that has finished on the canonical route. -/
structure RunState.Disposable (state : RunState) : Prop where
  canonical : IsCanonicalState state
  status : ∃ status ∈ state.executionStatus,
    status ∈ WorkProductDispositionService.terminalExecutionStatuses
  finished : state.executionFinishedAt ≠ none

theorem RunState.Disposable.disposed {state : RunState} (h : state.Disposable)
    (result : WorkProductDispositionResult) (now : DateTime) :
    (state.disposed result now).Disposable :=
  ⟨h.canonical, h.status, h.finished⟩

/-- Nothing was added to the pair, and its branch was kept. -/
structure Pair.Remains (pair pair' : Pair) : Prop where
  directory : pair'.directory = true → pair.directory = true
  checkout : pair'.checkout = true → pair.checkout = true
  registered : pair'.registered = true → pair.registered = true
  branch : pair'.branch = pair.branch
  commits : pair'.commits = pair.commits

/-- Commands may answer anything and may stop half way: questions leave the pair as it is,
the removal of the worktree removes no more than that, and git does not delete the branch
of a registered worktree. -/
structure Disturbed {V : Type} (workspace : TrustedGitWorkspace) (actionId : UUID)
    (h : Handler Host V) (pair : V → Pair) : Prop where
  query : ∀ call, IsQuery call → ∀ v, pair (h call v).2 = pair v
  removal : ∀ v, (pair v).Remains (pair (h (removeWorktree workspace actionId) v).2)
  deletion : ∀ v, pair (h (removeBranch workspace actionId) v).2 = pair v ∨
    (pair v).registered = false ∧
      pair (h (removeBranch workspace actionId) v).2 = { pair v with branch := false }

/-- The branch has no commits, and a registered worktree has its branch. -/
structure Pair.Sound (pair : Pair) : Prop where
  commits : pair.commits = 0
  branch : pair.registered = true → pair.branch = true

theorem Pair.Sound.remains {pair pair' : Pair} (h : pair.Sound) (hremains : pair.Remains pair') :
    pair'.Sound where
  commits := hremains.commits.trans h.commits
  branch hregistered := hremains.branch.trans (h.branch (hremains.registered hregistered))

theorem Pair.Sound.delete {pair : Pair} (h : pair.Sound) (hregistered : pair.registered = false) :
    { pair with branch := false }.Sound where
  commits := h.commits
  branch hregistered' := absurd (hregistered.symm.trans hregistered') (by decide)

/-- The calls of a discard, with every command it runs. -/
def DiscardCall (workspace : TrustedGitWorkspace) (actionId : UUID) : (Outside.sum Host).Call → Prop
  | .inl (.store (.get _)) => True
  | .inl .utcnow => True
  | .inl (.store (.write (.recordDisposition ..))) => True
  | .inl _ => False
  | .inr call =>
    IsQuery call ∨ call = removeWorktree workspace actionId ∨ call = removeBranch workspace actionId

/-- The calls of a discard as the service makes them. -/
def DispositionCall (actionId : UUID) : OutsideCall → Prop
  | .store (.get _) => True
  | .utcnow => True
  | .store (.write (.recordDisposition ..)) => True
  | .disposeWorkProduct id disposition => id = actionId ∧ disposition = .discard
  | _ => False

section Calls

theorem calls_apply (actionId : UUID) :
    (WorkProductDispositionService.apply true actionId .discard).Calls (DispositionCall actionId)
      fun _ => True := by
  refine Proc.Calls.seq (Proc.Calls.request trivial fun _ => trivial) fun state => ?_
  cases state with
  | none => exact Proc.Calls.throw trivial
  | some state =>
    refine Proc.Calls.seq (Proc.Calls.ofExcept trivial) fun _ => ?_
    refine Proc.Calls.seq (Proc.Calls.ofExcept trivial) fun _ => ?_
    refine Proc.Calls.seq (Proc.Calls.ofExcept trivial) fun _ => Proc.Calls.seq ?_ fun result => ?_
    · refine Proc.Calls.tryCatch (A := fun _ => True) (Proc.Calls.request ⟨rfl, rfl⟩ fun _ => trivial)
        (fun _ _ => trivial) fun e _ => ?_
      by_cases he : e.kind = .workProductIdentityError
      · rw [if_pos he]
        exact Proc.Calls.throw trivial
      · rw [if_neg he]
        exact Proc.Calls.throw trivial
    · by_cases hsucceeded : result.succeeded = true
      · rw [if_pos hsucceeded]
        refine Proc.Calls.seq ?_ fun _ => Proc.Calls.pure trivial
        exact Proc.Calls.seq (Proc.Calls.request trivial fun _ => trivial) fun _ =>
          Proc.Calls.request trivial fun _ => trivial
      · rw [if_neg hsucceeded]
        exact Proc.Calls.pure trivial

/-- The commands of a discard. -/
theorem calls_discard (service : WorkProductService) (actionId : UUID) :
    (service.apply actionId .discard ()).Calls (fun call => IsQuery call ∨
      call = removeWorktree service.workspace actionId ∨
        call = removeBranch service.workspace actionId) fun _ => True := by
  refine Prog.Traced.calls (finds_discard service actionId) fun log call h => ?_
  cases h with
  | query hquery => exact Or.inl hquery
  | worktree => exact Or.inr (Or.inl rfl)
  | branch => exact Or.inr (Or.inr rfl)

theorem calls_dispose [PyJson] (settings : PromotionSettings) (actionId : UUID) :
    (settings.dispose actionId .discard ()).Calls (DiscardCall settings.workspace actionId)
      fun _ => True := by
  refine Prog.Calls.mono (Prog.Calls.expand (calls_apply actionId ()) fun call hcall => ?_)
    fun _ _ => trivial
  cases call with
  | utcnow => exact ⟨trivial, fun _ => trivial⟩
  | store call =>
    cases call with
    | get id => exact ⟨trivial, fun _ => trivial⟩
    | write write =>
      cases write with
      | recordDisposition => exact ⟨trivial, fun _ => trivial⟩
      | _ => exact hcall.elim
    | _ => exact hcall.elim
  | disposeWorkProduct id disposition =>
    obtain ⟨rfl, rfl⟩ := hcall
    have hcalls := Proc.calls_outcome (calls_discard ⟨settings.workspace⟩ id)
    exact Prog.Calls.inr (K := DiscardCall settings.workspace id) hcalls
  | _ => exact hcall.elim

end Calls

/-- A discard, with the outside it meets. -/
structure DiscardAttempt (V : Type) where
  env : Environment
  host : Handler Host V
  /-- After how many calls the process is stopped, if it is. -/
  stop : Option ℕ

/-- What an attempt leaves behind. -/
def discardAttempt [PyJson] (settings : PromotionSettings) (actionId : UUID) {R : RunRepository}
    {V : Type} (x : World R × V) (attempt : DiscardAttempt V) : World R × V :=
  let h := Handler.both (outside attempt.env R) attempt.host
  match attempt.stop with
  | some n => (settings.dispose actionId .discard ()).interrupt h n x
  | none => ((settings.dispose actionId .discard ()).run h x).2

theorem discardAttempt_of_run [PyJson] {settings : PromotionSettings} {actionId : UUID}
    {R : RunRepository} {V : Type} {x : World R × V} {attempt : DiscardAttempt V}
    (h : attempt.stop = none) :
    discardAttempt settings actionId x attempt = ((settings.dispose actionId .discard).run
      (Handler.both (outside attempt.env R) attempt.host) () x).2 := by
  rw [discardAttempt, h]
  rfl

/-- The row permits a disposition, and nothing but the worktree stands for the branch. -/
structure Discardable (actionId : UUID) {R : RunRepository} {V : Type} (pair : V → Pair)
    (x : World R × V) : Prop where
  row : ∃ state, x.1.row actionId = some state ∧ state.Disposable
  sound : (pair x.2).Sound

section Attempts

variable {actionId : UUID} {R : RunRepository} {V : Type} {pair : V → Pair} {x : World R × V}

/-- No call of a disposition makes a row one that permits none. -/
theorem disposable_recordDisposition (env : Environment) {w : World R} {now : DateTime}
    {result : WorkProductDispositionResult}
    (h : ∃ state, w.row actionId = some state ∧ state.Disposable) :
    ∃ state, (outside env R (.store (.write (.recordDisposition now result))) w).2.row actionId =
      some state ∧ state.Disposable := by
  obtain ⟨state, hrow, hstate⟩ := h
  show ∃ state, R.row (R.handle (.write (.recordDisposition now result)) w.repository).2 actionId =
    some state ∧ state.Disposable
  rcases hreply : (R.handle (.write (.recordDisposition now result)) w.repository).1 with e | state'
  · rw [(R.handle_write_error hreply).1]
    exact ⟨state, hrow, hstate⟩
  · obtain ⟨happly, hnext⟩ := R.handle_write_ok hreply
    obtain ⟨current, hcurrent, rfl⟩ := recordDisposition_eq_ok_iff.mp happly
    rw [hnext]
    by_cases hid : actionId = result.actionId
    · subst hid
      obtain rfl := Option.some.inj (hcurrent.symm.trans hrow)
      exact ⟨_, Function.update_self .., hstate.disposed result now⟩
    · exact ⟨state, (Function.update_of_ne hid ..).trans hrow, hstate⟩

/-- One call of an attempt. -/
theorem Discardable.call {workspace : TrustedGitWorkspace} {env : Environment}
    {host : Handler Host V} (hhost : Disturbed workspace actionId host pair)
    {c : (Outside.sum Host).Call} (hc : DiscardCall workspace actionId c)
    (hx : Discardable actionId pair x) :
    Discardable actionId pair (Handler.both (outside env R) host c x).2 := by
  cases c with
  | inl call =>
    refine ⟨?_, hx.sound⟩
    cases call with
    | utcnow => exact hx.row
    | store call =>
      cases call with
      | get id =>
        show ∃ state, R.row (R.handle (.get id) x.1.repository).2 actionId = some state ∧ _
        rw [R.handle_get]
        exact hx.row
      | write write =>
        cases write with
        | recordDisposition => exact disposable_recordDisposition env hx.row
        | _ => exact hc.elim
      | _ => exact hc.elim
    | _ => exact hc.elim
  | inr call =>
    refine ⟨hx.row, ?_⟩
    show (pair (host call x.2).2).Sound
    rcases hc with hquery | rfl | rfl
    · rw [hhost.query call hquery]
      exact hx.sound
    · exact hx.sound.remains (hhost.removal x.2)
    · rcases hhost.deletion x.2 with hkept | ⟨hregistered, hdeleted⟩
      · rw [hkept]
        exact hx.sound
      · rw [hdeleted]
        exact hx.sound.delete hregistered

/-- Wherever attempts are stopped, and however git answers them. -/
theorem discardable_after [PyJson] {settings : PromotionSettings}
    {attempts : List (DiscardAttempt V)}
    (hattempts : ∀ attempt ∈ attempts,
      Disturbed settings.workspace actionId attempt.host pair)
    (hx : Discardable actionId pair x) :
    Discardable actionId pair (Run.after (discardAttempt settings actionId) x attempts) := by
  have hrun : Run.Along (discardAttempt settings actionId)
      (fun _ attempt => Disturbed settings.workspace actionId attempt.host pair) x attempts :=
    Run.along_of_forall (fun attempt hmem _ => hattempts attempt hmem) x
  refine hrun.invariant (fun x attempt hattempt hx => ?_) hx
  have hcalls := (calls_dispose settings actionId).always
    (h := Handler.both (outside attempt.env R) attempt.host)
    (P := fun c _ => DiscardCall settings.workspace actionId c)
    (I := Discardable actionId pair) (fun _ _ hc => hc)
    (fun _ _ hc hx => hx.call hattempt hc) hx
  rw [discardAttempt]
  cases attempt.stop with
  | some n => exact hcalls.interrupt (fun _ _ hc hx => hx.call hattempt hc) hx n
  | none => exact hcalls.run.1

end Attempts

/-! ### Discarding in the end -/

section Discard

open TrustedGitWorkspace (readOutput gitOutput_eq)

variable {settings : PromotionSettings} {actionId : UUID} {site : GitSite settings actionId}
  {V : Type} {k : Handler Host V} {view : V → SiteState} {s : SiteState}

/-- The state without the derived worktree. -/
def SiteState.removed (s : SiteState) : SiteState :=
  { s with
    directory := false
    checkout := false
    registered := false
    changes := false
    staged := false }

/-- The state without the derived pair. -/
def SiteState.discarded (s : SiteState) : SiteState := { s.removed with branch := false }

theorem yields_faultless {α : Type} (c : SiteCall)
    (hc : site.machine.FollowsAt False (k.restrict site.host) view c)
    (unpack : Host.Reply (site.host c) → Except Raised α) {a : α} {s' : SiteState}
    (hreply : unpack (site.answer c s) = .ok a) (hnext : site.effect c s = s') :
    (Proc.request Host (site.host c) unpack : HostTask α).Yields k view False (fun _ => True) s a
      s' :=
  Proc.yields_request_faultless hc trivial hreply hnext

theorem yields_branchExists (hM : site.Answers False k view) :
    (WorkProductService.branchExists settings.workspace.root site.worktree.branch).Yields k view False
      (fun _ => True) s s.branch s := by
  refine Proc.Yields.bind (Proc.Yields.tryCatch
    (yields_faultless .branchExists (hM _ trivial) id rfl rfl)) ?_
  cases s.branch
  · exact Proc.yields_pure false
  · exact Proc.yields_pure true

/-- A discard of a pair that is in place, whatever becomes of the branch. -/
theorem yields_removal (hM : site.Answers False k view)
    (hremove : site.machine.FollowsAt False (k.restrict site.host) view .removeWorktree)
    (hplace : s.InPlace) (hsound : s.Sound) {result : ProcessResult} {s' : SiteState}
    (hdelete : (TrustedGitWorkspace.runGit (.deleteBranch site.worktree.branch)
      settings.workspace.root).Yields k view False (fun _ => True) s.removed result s')
    (hstatus : s'.canonicalStatus = s.canonicalStatus) :
    ((WorkProductService.mk settings.workspace).apply actionId .discard).Yields k view False
      (fun _ => True) s
      { actionId, disposition := .discard, worktreePresent := false, branchPresent := s'.branch
        canonicalUnchanged := true } s' := by
  obtain ⟨hdirectory, hcheckout, hregistered⟩ := id hplace
  have hbranch : s.branch = true := hsound.branch hregistered
  have hremoved : site.effect .removeWorktree s = s.removed := by
    simp [GitSite.effect, hregistered, hcheckout, SiteState.removed]
  rw [WorkProductService.apply]
  refine Proc.Yields.bind (GitSite.yields_verified (I := fun _ => True) hM trivial hplace) ?_
  dsimp only
  -- the branch has no commits of its own
  rw [WorkProductService.git, gitOutput_eq]
  refine Proc.Yields.bind (a := "0\n")
    (yields_faultless .commitsBeyondHead (hM _ trivial) (readOutput _) ?_ rfl) ?_
  · rw [GitSite.answer, if_pos hbranch, hsound.commits]
    exact GitSite.readOutput_printed
  refine Proc.Yields.bind_check (not_not_intro (by decide)) ?_
  refine Proc.Yields.bind (Proc.Yields.tryCatch
    (yields_faultless .removeWorktree hremove id rfl hremoved)) ?_
  refine Proc.Yields.bind (yields_faultless .worktreeExists (hM _ trivial) id rfl rfl) ?_
  refine Proc.Yields.bind (Proc.Yields.bind hdelete (Proc.yields_pure ())) ?_
  refine Proc.Yields.bind (Proc.Yields.handled (Proc.Yields.bind
    (GitSite.yields_status hM trivial) (Proc.yields_pure (some s'.canonicalStatus)))) ?_
  refine Proc.Yields.bind (yields_branchExists hM) ?_
  · have hunchanged : decide (some s'.canonicalStatus = some s.canonicalStatus) = true := by
      simp [hstatus]
    rw [hunchanged]
    exact Proc.yields_pure _

/-- With git working normally the pair is discarded. -/
theorem yields_discard (hM : site.machine.Follows False (k.restrict site.host) view)
    (hplace : s.InPlace) (hsound : s.Sound) :
    ((WorkProductService.mk settings.workspace).apply actionId .discard).Yields k view False
      (fun _ => True) s
      { actionId, disposition := .discard, worktreePresent := false, branchPresent := false
        canonicalUnchanged := true } s.discarded := by
  have hbranch : s.branch = true := hsound.branch hplace.2.2
  have hdeleted : site.effect .deleteBranch s.removed = s.discarded := by
    simp [GitSite.effect, SiteState.discarded, SiteState.removed, hbranch]
  exact yields_removal (fun c _ => hM c) (hM _) hplace hsound
    (Proc.Yields.tryCatch (yields_faultless .deleteBranch (hM _) id rfl hdeleted)) rfl

/-! ### The whole disposition -/

variable [PyJson] {R : RunRepository} {env : Environment} {w : World R} {v : V}

/-- A discard of a row that permits it comes to what its commands come to. -/
theorem ensures_dispose {Q : Except Raised WorkProductDispositionResult → Unit → World R × V → Prop}
    {state : RunState} (hrow : w.row actionId = some state) (hstate : state.Disposable)
    (h : ((WorkProductService.mk settings.workspace).apply actionId .discard).Ensures k
      (fun _ _ => True) (fun r _ v' => r.either
        (fun result => result.actionId = actionId ∧
          (result.succeeded = true → ∀ now w', w'.row actionId = some (state.disposed result now) →
            Q (.ok result) () (w', v')) ∧
          (result.succeeded = false → Q (.ok result) () (w, v')))
        fun _ => ∀ e, Q (.error e) () (w, v')) () v) :
    (settings.dispose actionId .discard).Ensures (Handler.both (outside env R) k) (fun _ _ => True)
      Q () (w, v) := by
  rw [PromotionSettings.dispose, WorkProductDispositionService.apply]
  simp only [Proc.ensures_expand_bind, PromotionSettings.ensures_get]
  refine ⟨trivial, ?_⟩
  rw [hrow]
  simp only [Except.either_ok, Proc.ensures_expand_bind, Proc.ensures_expand_ofExcept]
  rw [Except.raiseIf_neg (not_not_intro hstate.canonical), Except.either_ok,
    Except.raiseIf_neg (not_or.mpr ⟨not_not_intro hstate.status, hstate.finished⟩), Except.either_ok,
    Except.raiseIf_neg (not_not_intro trivial), Except.either_ok]
  rw [Proc.ensures_expand_tryCatch, PromotionSettings.ensures_disposeWorkProduct]
  refine h.mono fun r _ v' hr => ?_
  rcases r with e | result
  · by_cases he : e.kind = .workProductIdentityError
    · rw [Except.either_error, if_pos he]
      exact hr _
    · rw [Except.either_error, if_neg he]
      exact hr _
  obtain ⟨hid, hrecorded, hunrecorded⟩ := hr
  rw [Except.either_ok, Except.either_ok]
  rcases hsucceeded : result.succeeded with _ | _
  · exact hunrecorded hsucceeded
  · rw [if_pos rfl, Proc.ensures_expand_bind]
    have hsame : ∀ now, (RunWrite.recordDisposition now result).actionId = actionId := fun _ => hid
    have happly : ∀ now, (RunWrite.recordDisposition now result).apply (w.row actionId) =
        .ok (state.disposed result now) := fun _ =>
      recordDisposition_eq_ok_iff.mpr ⟨state, hrow, rfl⟩
    refine PromotionSettings.ensures_stamped settings ?_
    exact Repository.ensures_stamped_of_ok hsame trivial (fun _ _ _ => trivial)
      (fun _ => trivial) happly fun now w' hw' => hrecorded hsucceeded now w' hw'.row_self

/-- The discard has succeeded, nothing of the pair is left, and the row says so. -/
def Discarded (actionId : UUID) (view : V → SiteState)
    (r : (Except Raised WorkProductDispositionResult × Unit) × (World R × V)) : Prop :=
  ∃ result state, r.1.1 = .ok result ∧ result.succeeded = true ∧
    (view r.2.2).directory = false ∧ (view r.2.2).branch = false ∧
    r.2.1.row actionId = some state ∧ state.disposition = some .discard ∧
    state.dispositionSucceeded = some true

/-- Where a discard is possible, it needs the worktree in place. -/
theorem discarded_iff (hM : site.machine.Follows False (k.restrict site.host) view)
    {x : World R × V} (hx : Discardable actionId (fun v => (view v).toPair) x) :
    Discarded actionId view
        ((settings.dispose actionId .discard).run (Handler.both (outside env R) k) () x) ↔
      (view x.2).InPlace := by
  obtain ⟨w, v⟩ := x
  obtain ⟨⟨state, hrow, hstate⟩, hsound⟩ := hx
  constructor
  · intro hdiscarded
    by_contra hplace
    have hraised : ∃ e, ((settings.dispose actionId .discard).run
        (Handler.both (outside env R) k) () (w, v)).1.1 = .error e := by
      refine Proc.Ensures.run (ensures_dispose (Q := fun r _ _ => ∃ e, r = .error e) hrow hstate ?_)
      refine Proc.Ensures.mono ((GitSite.raises_verified (fun c _ => hM c) hplace).bind v rfl) fun r _ v' hr => ?_
      obtain ⟨e, rfl, -⟩ := hr
      exact fun e => ⟨e, rfl⟩
    obtain ⟨e, he⟩ := hraised
    obtain ⟨result, -, hresult, -⟩ := hdiscarded
    rw [he] at hresult
    cases hresult
  · intro hplace
    refine Proc.Ensures.run (ensures_dispose (Q := fun r u x => Discarded actionId view ((r, u), x))
      hrow hstate ?_)
    refine Prog.Always.mono (yields_discard hM hplace hsound v rfl) (fun _ _ _ => trivial) ?_
    rintro ⟨r, u⟩ v' (⟨rfl, hv'⟩ | ⟨hfaults, -⟩)
    · refine ⟨rfl, fun _ now w' hw' => ⟨_, _, rfl, rfl, ?_, ?_, hw', rfl, rfl⟩, fun h => ?_⟩
      · show (view v').directory = false
        rw [hv']
        rfl
      · show (view v').branch = false
        rw [hv']
        rfl
      · cases h
    · exact hfaults.elim

/-- However attempts to discard a verified work product were cut short, another one, with
git working normally, completes exactly if they left the worktree in place. -/
theorem discard_completes_iff (settings : PromotionSettings) (actionId : UUID)
    (site : GitSite settings actionId) {R : RunRepository} {V : Type} (view : V → SiteState)
    (attempts : List (DiscardAttempt V)) (env : Environment) (k : Handler Host V) (w : World R) (v : V)
    (hrow : ∃ state, w.row actionId = some state ∧ state.Disposable)
    (hsound : (view v).Sound)
    (hattempts : ∀ attempt ∈ attempts,
      Disturbed settings.workspace actionId attempt.host fun v => (view v).toPair)
    (hk : site.machine.Follows False (k.restrict site.host) view) :
    Discarded actionId view ((settings.dispose actionId .discard).run
        (Handler.both (outside env R) k) ()
        (Run.after (discardAttempt settings actionId) (w, v) attempts)) ↔
      (view (Run.after (discardAttempt settings actionId) (w, v) attempts).2).InPlace :=
  discarded_iff hk (discardable_after hattempts ⟨hrow, hsound⟩)

end Discard

/-! ### A branch that could not be deleted -/

section Sample

open GitSite (distinguishable_sample handler_host handler_cases follows_handler decode_host)

variable {settings : PromotionSettings} {actionId : UUID} {site : GitSite settings actionId}

theorem asks_of_isQuery {c : SiteCall} (hc : IsQuery (site.host c)) : c.Asks := by
  cases c with
  | addAll => exact hc trivial
  | commit => exact hc trivial
  | removeWorktree => exact hc trivial
  | deleteBranch => exact hc trivial
  | push => exact hc trivial
  | createPullRequest => exact hc
  | _ => trivial

theorem handler_of_isQuery {call : HostCall} (hcall : IsQuery call) (s : SiteState) :
    (site.handler call s).2 = s := by
  rcases site.handler_cases call s with hsame | ⟨c, rfl, hnext⟩
  · exact hsame
  · rw [hnext, GitSite.effect_of_asks (asks_of_isQuery hcall)]

theorem remains_removeWorktree (site : GitSite settings actionId) (s : SiteState) :
    s.toPair.Remains (site.effect .removeWorktree s).toPair := by
  by_cases h : s.registered = true ∧ (s.directory = true → s.checkout = true)
  · rw [GitSite.effect, if_pos h]
    exact ⟨by simp, by simp, by simp, rfl, rfl⟩
  · rw [GitSite.effect, if_neg h]
    exact ⟨id, id, id, rfl, rfl⟩

/-- Git itself disturbs nothing else. -/
theorem disturbed_handler (h : site.Distinguishable) :
    Disturbed settings.workspace actionId site.handler fun s => s.toPair where
  query call hcall s := by rw [handler_of_isQuery hcall]
  removal s := by
    rw [show removeWorktree settings.workspace actionId = site.host .removeWorktree from rfl,
      handler_host h]
    exact remains_removeWorktree site s
  deletion s := by
    rw [show removeBranch settings.workspace actionId = site.host .deleteBranch from rfl,
      handler_host h]
    by_cases hdelete : s.branch = true ∧ ¬s.registered = true
    · refine Or.inr ⟨Bool.eq_false_iff.mpr hdelete.2, ?_⟩
      rw [GitSite.effect, if_pos hdelete]
    · rw [GitSite.effect, if_neg hdelete]
      exact Or.inl rfl

/-- Git, while the branch of the pair cannot be deleted. -/
def GitSite.withLockedBranch (site : GitSite settings actionId) : Handler Host SiteState :=
  fun call s =>
    if h : call = site.host .deleteBranch then
      (h ▸ (site.exited .deleteBranch s 1 : Host.Reply (site.host .deleteBranch)), s)
    else site.handler call s

variable {s : SiteState}

theorem withLockedBranch_of_ne {call : HostCall} (hcall : call ≠ site.host .deleteBranch) :
    site.withLockedBranch call s = site.handler call s := dif_neg hcall

theorem withLockedBranch_deleteBranch :
    site.withLockedBranch (site.host .deleteBranch) s = (site.exited .deleteBranch s 1, s) := by
  simp [GitSite.withLockedBranch]

theorem disturbed_withLockedBranch (h : site.Distinguishable) :
    Disturbed settings.workspace actionId site.withLockedBranch fun s => s.toPair where
  query call hcall s := by
    have hne : call ≠ site.host .deleteBranch := by
      rintro rfl
      exact hcall trivial
    rw [withLockedBranch_of_ne hne, handler_of_isQuery hcall]
  removal s := by
    have hne : site.host .removeWorktree ≠ site.host .deleteBranch := by simp [GitSite.host]
    rw [show removeWorktree settings.workspace actionId = site.host .removeWorktree from rfl,
      withLockedBranch_of_ne hne, handler_host h]
    exact remains_removeWorktree site s
  deletion s := by
    rw [show removeBranch settings.workspace actionId = site.host .deleteBranch from rfl,
      withLockedBranch_deleteBranch]
    exact Or.inl rfl

theorem followsAt_withLockedBranch (h : site.Distinguishable) {c : SiteCall}
    (hc : c ≠ .deleteBranch) :
    site.machine.FollowsAt False (site.withLockedBranch.restrict site.host) id c := by
  intro s
  have hne : site.host c ≠ site.host .deleteBranch := by
    intro heq
    have hsame := congrArg site.decode heq
    rw [decode_host h, decode_host h] at hsame
    exact hc (Option.some.inj hsame)
  have hcall : site.withLockedBranch (site.host c) s = (site.answer c s, site.effect c s) :=
    (withLockedBranch_of_ne hne).trans (handler_host h c s)
  exact Or.inl ⟨congrArg Prod.fst hcall, congrArg Prod.snd hcall⟩

/-- The worktree of a finished action, with changes. -/
def SiteState.finished : SiteState where
  directory := true
  checkout := true
  registered := true
  branch := true
  commits := 0
  changes := true

/-- The row of a finished action. -/
def RunState.finishedSample : RunState where
  actionId := 0
  executorRole := ExecutorRole.softwareEngineering.value
  capability := SOFTWARE_ENGINEERING_IMPLEMENT_CAPABILITY
  target := "velox"
  executionStatus := some "succeeded"
  executionFinishedAt := some .min

/-- A discard while the branch cannot be deleted. -/
abbrev lockedAttempt : DiscardAttempt SiteState where
  env := .cooperative
  host := GitSite.sample.withLockedBranch
  stop := none

theorem disposable_finishedSample :
    ∃ state, (World.ofRow .finishedSample).row 0 = some state ∧ state.Disposable := by
  refine ⟨.finishedSample, ?_, ⟨by decide, ⟨"succeeded", rfl, by decide⟩, by simp [RunState.finishedSample]⟩⟩
  rw [World.row_ofRow]
  rfl

/-- A branch that cannot be deleted is reported, and the worktree is gone. -/
theorem removed_after_lockedAttempt [PyJson] :
    (discardAttempt PromotionSettings.sample 0 (World.ofRow .finishedSample, SiteState.finished)
      lockedAttempt).2 = SiteState.finished.removed := by
  obtain ⟨state, hrow, hstate⟩ := disposable_finishedSample
  have hdeletion : (TrustedGitWorkspace.runGit (.deleteBranch GitSite.sample.worktree.branch)
      PromotionSettings.sample.workspace.root).Yields GitSite.sample.withLockedBranch id False
        (fun _ => True) SiteState.finished.removed
        { returncode := some 1, stdout := "", stderr := "" } SiteState.finished.removed := by
    refine Proc.Yields.tryCatch ?_
    intro s hs
    obtain rfl : s = SiteState.finished.removed := hs
    refine ⟨trivial, Or.inl ?_⟩
    show (GitSite.sample.withLockedBranch (GitSite.sample.host .deleteBranch) _).1 = _ ∧
      (GitSite.sample.withLockedBranch (GitSite.sample.host .deleteBranch) _).2 = _
    rw [withLockedBranch_deleteBranch]
    exact ⟨rfl, rfl⟩
  have hasks : GitSite.sample.Answers False GitSite.sample.withLockedBranch id := fun c hc =>
    followsAt_withLockedBranch distinguishable_sample (by rintro rfl; exact hc)
  have hyields := yields_removal hasks
    (followsAt_withLockedBranch distinguishable_sample (by simp)) ⟨rfl, rfl, rfl⟩ ⟨rfl, fun _ => rfl⟩
    hdeletion rfl
  have hrun : ((PromotionSettings.sample.dispose 0 .discard).run
      (Handler.both (outside .cooperative inMemoryRunRepository) GitSite.sample.withLockedBranch) ()
      (World.ofRow .finishedSample, SiteState.finished)).2.2 = SiteState.finished.removed := by
    refine Proc.Ensures.run (ensures_dispose (Q := fun _ _ x => x.2 = SiteState.finished.removed)
      hrow hstate ?_)
    refine Prog.Always.mono (hyields _ rfl) (fun _ _ _ => trivial) ?_
    rintro ⟨r, u⟩ s (⟨rfl, hs⟩ | ⟨hfaults, -⟩)
    · exact ⟨rfl, fun _ _ _ _ => hs, fun _ => hs⟩
    · exact hfaults.elim
  rw [discardAttempt_of_run rfl, hrun]

/-- Once the worktree is gone, the branch that is left cannot be discarded any more. -/
theorem not_discarded_after_lockedAttempt :
    letI : PyJson := ⟨fun _ => .error ⟨jsonDecodeError, "Expecting value"⟩⟩
    Disturbed PromotionSettings.sample.workspace 0 lockedAttempt.host (fun s => s.toPair) ∧
      ¬Discarded 0 id ((PromotionSettings.sample.dispose 0 .discard).run
        (Handler.both (outside .cooperative inMemoryRunRepository) GitSite.sample.handler) ()
        (Run.after (discardAttempt PromotionSettings.sample 0)
          (World.ofRow .finishedSample, SiteState.finished) [lockedAttempt])) := by
  let _ : PyJson := ⟨fun _ => .error ⟨jsonDecodeError, "Expecting value"⟩⟩
  have hdisturbed : Disturbed PromotionSettings.sample.workspace 0 lockedAttempt.host
      (fun s => s.toPair) := disturbed_withLockedBranch distinguishable_sample
  refine ⟨hdisturbed, fun hdiscarded => ?_⟩
  have hattempts : ∀ attempt ∈ [lockedAttempt], Disturbed PromotionSettings.sample.workspace 0
      attempt.host (fun s => s.toPair) := by
    simpa using hdisturbed
  have hafter := discardable_after hattempts
    (x := (World.ofRow .finishedSample, SiteState.finished))
    ⟨disposable_finishedSample, rfl, fun _ => rfl⟩
  have hplace := (discarded_iff (follows_handler distinguishable_sample False) hafter).mp hdiscarded
  rw [Run.after_cons, Run.after_nil, removed_after_lockedAttempt] at hplace
  exact absurd hplace.1 (by decide)

/-- A discard that was stopped before its first command is completed by the next. -/
theorem discarded_after_stopped_attempt :
    letI : PyJson := ⟨fun _ => .error ⟨jsonDecodeError, "Expecting value"⟩⟩
    Discarded 0 id ((PromotionSettings.sample.dispose 0 .discard).run
      (Handler.both (outside .cooperative inMemoryRunRepository) GitSite.sample.handler) ()
      (Run.after (discardAttempt PromotionSettings.sample 0)
        (World.ofRow .finishedSample, SiteState.finished)
        [{ env := .cooperative, host := GitSite.sample.handler, stop := some 0 }])) := by
  let _ : PyJson := ⟨fun _ => .error ⟨jsonDecodeError, "Expecting value"⟩⟩
  refine (discard_completes_iff PromotionSettings.sample 0 GitSite.sample id _ .cooperative
    GitSite.sample.handler (World.ofRow .finishedSample) SiteState.finished
    disposable_finishedSample ⟨rfl, fun _ => rfl⟩ ?_ (follows_handler distinguishable_sample False)).mpr
    ⟨rfl, rfl, rfl⟩
  intro attempt hattempt
  obtain rfl := List.mem_singleton.mp hattempt
  exact disturbed_handler distinguishable_sample

end Sample

end Velox
