import Velox.Lib.Interleaving
import Velox.SoftwareEngineering.RunControl

/-!
# Reconciliation is bound to the inspected state

An operator reads the status of a run and later resolves its claim with the token
of that status, while other processes go on using the run repository. The token
names the version of the row that was inspected; the conditional update compares
that version once more, so what happened in between cannot be overwritten.

The repository is followed through the rows it has stored for the action. An update
and the reading of the updated row are two accesses, and others may come in between.

## Main definitions

* `Timeline` — the repository, the rows stored for the action, and what the process
  that is followed did
* `Timeline.Others`, `Timeline.Answer` — what others do, and what calls are answered
* `BoundReconciliation` — what the reconciliation of an inspected row did

## Main results

* `runs_status` — the token of a status is that of a stored row
* `runs_reconcile` — a reconciliation is refused, or updates a row of the version
  that it read
* `reconcile_bound_iff` — it is bound to the inspected row exactly when nothing is
  raised after the update
-/

set_option autoImplicit false

namespace Velox

open Relation (ReflTransGen)

/-! ### The rows stored for an action -/

/-- The row that a call stores for an action, if it does. -/
def RunRepository.storedBy (R : RunRepository) (id : UUID) : RunCall → R.State → List RunState
  | .claimApproved claimedAt claimId id', s =>
    match (R.handle (.claimApproved claimedAt claimId id') s).1 with
    | .ok _ =>
      if id' = id then (R.row (R.handle (.claimApproved claimedAt claimId id') s).2 id).toList
      else []
    | .error _ => []
  | .write w, s =>
    match (R.handle (.write w) s).1 with
    | .ok state => if w.actionId = id then [state] else []
    | .error _ => []
  | _, _ => []

/-- Every operation stamps the row it stores. -/
theorem RunWrite.updatedAt_of_apply {write : RunWrite} {current : Option RunState}
    {state : RunState} (h : write.apply current = .ok state) : state.updatedAt.isSome := by
  cases write with
  | registerAction now registration =>
    obtain ⟨-, ⟨-, rfl⟩ | ⟨row, -, -, -, rfl⟩⟩ := registerAction_eq_ok_iff.mp h <;> rfl
  | recordApproval now id objective approvedAt =>
    obtain ⟨row, -, -, -, -, rfl⟩ := recordApproval_eq_ok_iff.mp h
    rfl
  | recordRejection now id rejectedAt =>
    obtain ⟨row, -, -, -, rfl⟩ := recordRejection_eq_ok_iff.mp h
    rfl
  | recordExecutionStarted now id startedAt =>
    obtain ⟨row, -, -, -, rfl⟩ := recordExecutionStarted_eq_ok_iff.mp h
    rfl
  | releaseUnstartedClaim id expected reconciled =>
    obtain ⟨row, -, -, -, -, -, rfl⟩ := releaseUnstartedClaim_eq_ok_iff.mp h
    rfl
  | abandonStartedClaim id expected reconciled =>
    obtain ⟨row, -, -, -, -, -, rfl⟩ := abandonStartedClaim_eq_ok_iff.mp h
    rfl
  | recordExecution now id status finishedAt external =>
    obtain ⟨row, -, rfl⟩ := recordExecution_eq_ok_iff.mp h
    rfl
  | recordDisposition now result =>
    obtain ⟨row, -, rfl⟩ := recordDisposition_eq_ok_iff.mp h
    rfl
  | recordPromotion now promotion =>
    obtain ⟨row, -, rfl⟩ := recordPromotion_eq_ok_iff.mp h
    rfl

namespace RunRepository

variable {R : RunRepository} {id : UUID} {s : R.State}

/-- The row after a call is the one the call stored, or the one before. -/
theorem row_handle (call : RunCall) :
    R.row (R.handle call s).2 id = (R.storedBy id call s).getLast?.or (R.row s id) := by
  cases call with
  | get id' => simp [storedBy, R.handle_get]
  | listPendingApproval => simp [storedBy, (R.handle_list s).1]
  | claimApproved t claimId id' =>
    rcases hreply : (R.handle (.claimApproved t claimId id') s).1 with e | claim
    · simp [storedBy, hreply, (R.handle_claim_error hreply).1]
    · obtain ⟨state, -, hrow⟩ := R.handle_claim_ok hreply
      by_cases hid : id' = id
      · subst hid
        simp [storedBy, hreply, hrow]
      · simp [storedBy, hreply, hrow, hid, Ne.symm hid]
  | write w =>
    rcases hreply : (R.handle (.write w) s).1 with e | state
    · simp [storedBy, hreply, (R.handle_write_error hreply).1]
    · obtain ⟨-, hrow⟩ := R.handle_write_ok hreply
      by_cases hid : w.actionId = id
      · subst hid
        simp [storedBy, hreply, hrow]
      · simp [storedBy, hreply, hrow, hid, Ne.symm hid]

theorem updatedAt_of_mem_storedBy {call : RunCall} {row : RunState}
    (h : row ∈ R.storedBy id call s) : row.updatedAt.isSome := by
  cases call with
  | get => cases h
  | listPendingApproval => cases h
  | claimApproved t claimId id' =>
    rcases hreply : (R.handle (.claimApproved t claimId id') s).1 with e | claim
    · simp [storedBy, hreply] at h
    · obtain ⟨state, hclaim, hrow⟩ := R.handle_claim_ok hreply
      by_cases hid : id' = id
      · subst hid
        obtain ⟨_, _, -, -, -, -, -, -, -, rfl⟩ := claimApproved_eq_ok_iff.mp hclaim
        simp only [storedBy, hreply, hrow, if_true, Function.update_self, Option.toList_some,
          List.mem_singleton] at h
        rw [h]
        rfl
      · simp [storedBy, hreply, hid] at h
  | write w =>
    rcases hreply : (R.handle (.write w) s).1 with e | state
    · simp [storedBy, hreply] at h
    · by_cases hid : w.actionId = id
      · simp only [storedBy, hreply, hid, if_true, List.mem_singleton] at h
        exact h ▸ w.updatedAt_of_apply (R.handle_write_ok hreply).1
      · simp [storedBy, hreply, hid] at h

/-- The row that was stored is the row of the action. -/
theorem row_of_mem_storedBy {call : RunCall} {row : RunState} (h : row ∈ R.storedBy id call s) :
    R.row (R.handle call s).2 id = some row := by
  have hlast : (R.storedBy id call s).getLast? = some row := by
    cases call with
    | get => cases h
    | listPendingApproval => cases h
    | claimApproved t claimId id' =>
      simp only [storedBy] at h ⊢
      split at h
      · split_ifs at h with hid
        · rw [Option.mem_toList] at h
          simp [hid, h]
        · cases h
      · cases h
    | write w =>
      simp only [storedBy] at h ⊢
      split at h
      · split_ifs at h with hid
        · rw [List.mem_singleton] at h
          simp [hid, h]
        · cases h
      · cases h
  rw [row_handle, hlast, Option.some_or]

end RunRepository

/-! ### One process among others -/

/-- The run repository, followed through the rows stored for one action. -/
structure Timeline (R : RunRepository) where
  repository : R.State
  stored : List RunState := []
  /-- The rows that the process that is followed changed, before and after. -/
  own : List (Option RunState × RunState) := []
  /-- The process was given an exception after it had changed a row, other than that
  the work product is unverifiable. -/
  late : Bool := false

namespace Timeline

variable {R : RunRepository} {id : UUID} {k k₁ k₂ k' : Timeline R}

/-- The timeline after one access to the repository. -/
def access (id : UUID) (call : RunCall) (k : Timeline R) : Timeline R :=
  { k with
    repository := (R.handle call k.repository).2
    stored := k.stored ++ R.storedBy id call k.repository }

/-- What other processes do: any access to the repository. -/
def Others (id : UUID) (k k' : Timeline R) : Prop := ∃ call, k' = k.access id call

/-- The timeline after an update by the process that is followed. -/
def update (id : UUID) (w : RunWrite) (state : RunState) (k : Timeline R) : Timeline R :=
  { k.access id (.write w) with own := k.own ++ [(R.row k.repository w.actionId, state)] }

/-- What the calls of the process that is followed are answered. -/
inductive Answer (id : UUID) : Answers Outside (Timeline R)
  /-- A reading, or a claim, is one access. -/
  | accessed {call : RunCall} {k : Timeline R} : (∀ w, call ≠ .write w) →
      Answer id (.store call) k (R.handle call k.repository).1 (k.access id call)
  /-- The row may be unreadable. -/
  | unreadable {id' : UUID} {k : Timeline R} (e : Raised) :
      Answer id (.store (.get id')) k (.error e) k
  | refused {w : RunWrite} {k : Timeline R} {e : Raised} :
      (R.handle (.write w) k.repository).1 = .error e →
      Answer id (.store (.write w)) k (.error e) (k.access id (.write w))
  /-- An update is one access, and reading the row again is another. -/
  | updated {w : RunWrite} {k k' : Timeline R} {state row : RunState} :
      (R.handle (.write w) k.repository).1 = .ok state →
      ReflTransGen (Others id) (k.update id w state) k' →
      R.row k'.repository w.actionId = some row →
      Answer id (.store (.write w)) k (.ok row) k'
  | unread {w : RunWrite} {k k' : Timeline R} {state : RunState} (e : Raised) :
      (R.handle (.write w) k.repository).1 = .ok state →
      ReflTransGen (Others id) (k.update id w state) k' →
      Answer id (.store (.write w)) k (.error e) { k' with late := true }
  | reviewed {id' : UUID} {k : Timeline R} (review : WorkProductReview) :
      Answer id (.reviewWorkProduct id') k (.ok review) k
  | unreviewed {id' : UUID} {k : Timeline R} (e : Raised) :
      Answer id (.reviewWorkProduct id') k (.error e)
        { k with late := k.late || (!k.own.isEmpty && e.kind ≠ .workProductIdentityError) }
  | other {c : OutsideCall} {k : Timeline R} (r : c.Reply) :
      (∀ call, c ≠ .store call) → (∀ id', c ≠ .reviewWorkProduct id') → Answer id c k r k

/-- The row of the action is the one stored last, and every stored row is stamped. -/
structure Consistent (id : UUID) (k : Timeline R) : Prop where
  row : R.row k.repository id = k.stored.getLast?
  stamped : ∀ row ∈ k.stored, row.updatedAt.isSome
  identified : ∀ row ∈ k.stored, row.actionId = id

theorem Consistent.access (h : k.Consistent id) (call : RunCall) :
    (k.access id call).Consistent id where
  row := by
    simp only [Timeline.access, R.row_handle, h.row, List.getLast?_append]
  stamped row hrow := by
    rcases List.mem_append.mp hrow with hrow | hrow
    · exact h.stamped row hrow
    · exact RunRepository.updatedAt_of_mem_storedBy hrow
  identified row hrow := by
    rcases List.mem_append.mp hrow with hrow | hrow
    · exact h.identified row hrow
    · exact R.actionId_of_row (RunRepository.row_of_mem_storedBy hrow)

/-- The timeline went on without the process that is followed. -/
structure Follows (id : UUID) (k k' : Timeline R) : Prop where
  stored : k.stored <+: k'.stored
  own : k'.own = k.own
  late : k'.late = k.late
  consistent : k.Consistent id → k'.Consistent id

theorem Follows.refl : k.Follows id k := ⟨List.prefix_refl _, rfl, rfl, fun h => h⟩

theorem Follows.trans (h : k.Follows id k₁) (h' : k₁.Follows id k₂) : k.Follows id k₂ :=
  ⟨h.stored.trans h'.stored, h'.own.trans h.own, h'.late.trans h.late,
    fun hk => h'.consistent (h.consistent hk)⟩

theorem follows_access (call : RunCall) : k.Follows id (k.access id call) :=
  ⟨List.prefix_append _ _, rfl, rfl, fun h => h.access call⟩

theorem follows_others (h : ReflTransGen (Others id) k k') : k.Follows id k' := by
  induction h with
  | refl => exact .refl
  | tail _ hstep ih =>
    obtain ⟨call, rfl⟩ := hstep
    exact ih.trans (follows_access call)

theorem Consistent.update (h : k.Consistent id) (w : RunWrite) (state : RunState) :
    (k.update id w state).Consistent id :=
  ⟨(h.access (.write w)).row, (h.access (.write w)).stamped, (h.access (.write w)).identified⟩

/-- The row of the action was stored. -/
theorem Consistent.mem_stored (h : k.Consistent id) {row : RunState}
    (hrow : R.row k.repository id = some row) : row ∈ k.stored :=
  List.mem_of_getLast? (h.row ▸ hrow)

/-! ### What a call leaves behind -/

theorem answer_get {id' : UUID} {r : Except Raised (Option RunState)}
    (h : Answer id (.store (.get id')) k r k') :
    k.Follows id k' ∧ ∀ state, r = .ok state → R.row k'.repository id' = state := by
  cases h with
  | accessed =>
    refine ⟨follows_access _, fun state hstate => ?_⟩
    rw [R.handle_get] at hstate
    rw [← Except.ok.inj hstate]
    show R.row (R.handle (.get id') k.repository).2 id' = _
    rw [R.handle_get]
  | unreadable e => exact ⟨.refl, fun state hstate => nomatch hstate⟩
  | other _ hstore => exact absurd rfl (hstore _)

/-- An update is refused, or it stores the row it computes; then the row is read
again, or that fails. -/
theorem answer_write {w : RunWrite} {r : Except Raised RunState}
    (h : Answer id (.store (.write w)) k r k') :
    (∃ e, r = .error e ∧ k.Follows id k') ∨
      ∃ state, w.apply (R.row k.repository w.actionId) = .ok state ∧
        ((∃ row, r = .ok row ∧ (k.update id w state).Follows id k' ∧
            R.row k'.repository w.actionId = some row) ∨
          ∃ e k₁, r = .error e ∧ (k.update id w state).Follows id k₁ ∧
            k' = { k₁ with late := true }) := by
  cases h with
  | accessed hread => exact absurd rfl (hread w)
  | refused hreply => exact Or.inl ⟨_, rfl, follows_access _⟩
  | updated hreply hsteps hrow =>
    exact Or.inr ⟨_, (R.handle_write_ok hreply).1, Or.inl ⟨_, rfl, follows_others hsteps, hrow⟩⟩
  | unread e hreply hsteps =>
    exact Or.inr ⟨_, (R.handle_write_ok hreply).1, Or.inr ⟨e, _, rfl, follows_others hsteps, rfl⟩⟩
  | other _ hstore => exact absurd rfl (hstore _)

/-- A review before any change is without consequence; after one, an exception other
than that the work product is unverifiable comes late. -/
theorem answer_review {id' : UUID} {r : Except Raised WorkProductReview}
    (h : Answer id (.reviewWorkProduct id') k r k') :
    k' = { k with late := k.late || (!k.own.isEmpty &&
      r.either (fun _ => false) fun e => e.kind ≠ .workProductIdentityError) } := by
  cases h with
  | reviewed review => simp
  | unreviewed e => rfl
  | other _ _ hreview => exact absurd rfl (hreview _)

theorem answer_utcnow {r : DateTime} (h : Answer id .utcnow k r k') : k' = k := by
  cases h with
  | other => rfl

end Timeline

/-! ### The version of a row -/

/-- The token of a row names its version. -/
theorem RunControl.updatedAt_of_stateToken [PyStd]
    (hsha : Function.Injective PyStd.sha256Hexdigest) {state state' : RunState} {token : String}
    (hid : state.actionId = state'.actionId) (h : stateToken state = .ok token)
    (h' : stateToken state' = .ok token) : state.updatedAt = state'.updatedAt := by
  rcases hupdated : state.updatedAt with _ | t
  · simp [stateToken, hupdated] at h
  rcases hupdated' : state'.updatedAt with _ | t'
  · simp [stateToken, hupdated'] at h'
  simp only [stateToken, hupdated, hupdated', Except.ok.injEq] at h h'
  have hmaterial := congrArg String.toList (hsha (h.trans h'.symm))
  simp only [String.intercalate_cons_cons, hid, String.toList_append, DateTime.isoformat,
    String.toList_ofList, List.append_assoc, List.append_cancel_left_eq] at hmaterial
  -- the text of the time ends at the next bar
  have hends : ∀ (u : DateTime) (rest : List Char),
      (u.isoChars ++ ("|".toList ++ rest)).takeWhile (· ≠ '|') = u.isoChars := by
    intro u rest
    rw [List.takeWhile_append_of_pos fun c hc => ?_]
    · simp
    · exact decide_eq_true fun heq => u.bar_notMem_isoChars (heq ▸ hc)
  have hchars := congrArg (List.takeWhile (· ≠ '|')) hmaterial
  rw [hends, hends] at hchars
  have htext : t.isoformat = t'.isoformat := congrArg String.ofList hchars
  rw [← DateTime.fromisoformat_isoformat t, htext, DateTime.fromisoformat_isoformat]

/-! ### The stages of a reconciliation -/

namespace Timeline

variable {R : RunRepository} {id : UUID} {k k₁ k₂ k' : Timeline R}

/-- Replacing one kind of exception by another. -/
theorem runs_onRunStateError {α : Type} {m : Task α} {replacement : Raised} {r : Except Raised α}
    (h : (onRunStateError m replacement).Runs (Answer id) (Others id) () k r () k') :
    (∃ a k₁, m.Runs (Answer id) (Others id) () k (.ok a) () k₁ ∧ r = .ok a ∧ k₁.Follows id k') ∨
      ∃ e e' k₁, m.Runs (Answer id) (Others id) () k (.error e) () k₁ ∧ r = .error e' ∧
        k₁.Follows id k' := by
  rcases h.tryCatch with ⟨a, k₁, hm, rfl, hsteps⟩ | ⟨e, _, k₁, hm, hhandle⟩
  · exact Or.inl ⟨a, k₁, hm, rfl, follows_others hsteps⟩
  · split_ifs at hhandle
    · obtain ⟨rfl, -, hsteps⟩ := hhandle.throw
      exact Or.inr ⟨e, _, k₁, hm, rfl, follows_others hsteps⟩
    · obtain ⟨rfl, -, hsteps⟩ := hhandle.throw
      exact Or.inr ⟨e, _, k₁, hm, rfl, follows_others hsteps⟩

/-- Reading the row of the action returns a stored row. -/
theorem runs_getState {r : Except Raised RunState}
    (h : (RunControl.getState id).Runs (Answer id) (Others id) () k r () k')
    (hk : k.Consistent id) :
    k.Follows id k' ∧ ∀ state, r = .ok state → state ∈ k'.stored := by
  have hget : ∀ {r : Except Raised (Option RunState)} {k₁ : Timeline R},
      (Repository.get id).Runs (Answer id) (Others id) () k r () k₁ →
        k.Follows id k₁ ∧ ∀ state, r = .ok (some state) → state ∈ k₁.stored := by
    intro r k₁ hrun
    obtain ⟨k₂, reply, k₃, hsteps, hanswer, hsteps', rfl, -⟩ := hrun.request
    obtain ⟨hfollows, hread⟩ := answer_get hanswer
    have hk₃ : k.Follows id k₃ := (follows_others hsteps).trans hfollows
    refine ⟨hk₃.trans (follows_others hsteps'), fun state hstate => ?_⟩
    exact (follows_others hsteps').stored.subset
      ((hk₃.consistent hk).mem_stored (hread _ hstate))
  rcases h.bind with ⟨read, _, k₁, hread, hrest⟩ | ⟨e, k₁, hread, rfl, hsteps⟩
  · rcases runs_onRunStateError hread with ⟨_, k₂, hm, heq, hfollows⟩ | ⟨_, _, _, _, heq, _⟩
    · obtain rfl := Except.ok.inj heq
      obtain ⟨hk₂, hmem⟩ := hget hm
      have hk₁ := hk₂.trans hfollows
      rcases read with _ | state
      · obtain ⟨rfl, -, hsteps⟩ := hrest.throw
        exact ⟨hk₁.trans (follows_others hsteps), fun state hstate => nomatch hstate⟩
      · rcases hrest.bind with ⟨_, _, k₃, hguard, hreturn⟩ | ⟨e, k₃, hguard, rfl, hsteps⟩
        · obtain ⟨-, -, hsteps⟩ := hguard.ofExcept
          obtain ⟨rfl, -, hsteps'⟩ := hreturn.pure
          have hk' := hk₁.trans (follows_others (hsteps.trans hsteps'))
          refine ⟨hk', fun row hrow => ?_⟩
          rw [← Except.ok.inj hrow]
          exact (hfollows.trans (follows_others (hsteps.trans hsteps'))).stored.subset
            (hmem state rfl)
        · obtain ⟨-, -, hsteps'⟩ := hguard.ofExcept
          exact ⟨hk₁.trans (follows_others (hsteps'.trans hsteps)), fun row hrow => nomatch hrow⟩
    · cases heq
  · rcases runs_onRunStateError hread with ⟨_, _, _, heq, _⟩ | ⟨_, _, k₂, hm, -, hfollows⟩
    · cases heq
    · exact ⟨(hget hm).1.trans (hfollows.trans (follows_others hsteps)),
        fun row hrow => nomatch hrow⟩

/-- The timeline went on while the process that is followed read and reviewed. -/
structure Inspected (id : UUID) (raised : Bool) (k k' : Timeline R) : Prop where
  stored : k.stored <+: k'.stored
  own : k'.own = k.own
  late : k'.late = (k.late || (!k.own.isEmpty && raised))
  consistent : k.Consistent id → k'.Consistent id

theorem Follows.inspected (h : k.Follows id k') : k.Inspected id false k' :=
  ⟨h.stored, h.own, by simp [h.late], h.consistent⟩

theorem Inspected.follows {raised : Bool} (h : k.Inspected id raised k₁)
    (h' : k₁.Follows id k') : k.Inspected id raised k' :=
  ⟨h.stored.trans h'.stored, h'.own.trans h.own, h'.late.trans h.late,
    fun hk => h'.consistent (h.consistent hk)⟩

/-- Before any change a review has no consequence. -/
theorem Inspected.follows_of_own {raised : Bool} (h : k.Inspected id raised k')
    (hown : k.own = []) : k.Follows id k' :=
  ⟨h.stored, h.own, by simp [h.late, hown], h.consistent⟩

/-- What a review answers, seen by whoever does not mind an unverifiable work product. -/
theorem runs_reviewWorkProduct {id' : UUID} {r : Except Raised WorkProductReview}
    (h : (reviewWorkProduct id').Runs (Answer id) (Others id) () k r () k') :
    k.Inspected id (r.either (fun _ => false) fun e => e.kind ≠ .workProductIdentityError) k' := by
  obtain ⟨k₁, _, k₂, hsteps, hanswer, hsteps', rfl, -⟩ := h.request
  have hk₁ := follows_others hsteps
  have hk₂ : k.Inspected id (r.either (fun _ => false)
      fun e => e.kind ≠ .workProductIdentityError) k₂ := by
    rw [answer_review hanswer]
    refine ⟨hk₁.stored, hk₁.own, ?_, fun hk => ?_⟩
    · simp only [hk₁.late, hk₁.own]
    · exact ⟨(hk₁.consistent hk).row, (hk₁.consistent hk).stamped,
        (hk₁.consistent hk).identified⟩
  exact hk₂.follows (follows_others hsteps')

/-- The inspection raises exactly when something other than an unverifiable work
product is raised. -/
theorem runs_inspectWorkProduct {inspector : Bool} {id' : UUID}
    {r : Except Raised WorkProductSummary}
    (h : (RunControl.inspectWorkProduct inspector id').Runs (Answer id) (Others id) () k r () k') :
    k.Inspected id r.raised k' := by
  unfold RunControl.inspectWorkProduct at h
  split_ifs at h
  · rcases h.tryCatch with ⟨_, k₁, htry, rfl, hsteps⟩ | ⟨e, _, k₁, htry, hhandle⟩
    · rcases htry.bind with ⟨_, _, k₂, hreview, hreturn⟩ | ⟨_, _, _, heq, _⟩
      · obtain ⟨-, -, hsteps'⟩ := hreturn.pure
        exact (runs_reviewWorkProduct hreview).follows (follows_others (hsteps'.trans hsteps))
      · cases heq
    · rcases htry.bind with ⟨_, _, _, _, hreturn⟩ | ⟨_, k₂, hreview, heq, hsteps⟩
      · obtain ⟨heq, -⟩ := hreturn.pure
        cases heq
      · obtain rfl := Except.error.inj heq
        have hk₁ := (runs_reviewWorkProduct hreview).follows (follows_others hsteps)
        simp only [Except.either_error] at hk₁
        split_ifs at hhandle with hkind
        · obtain ⟨rfl, -, hsteps'⟩ := hhandle.pure
          simpa [hkind] using hk₁.follows (follows_others hsteps')
        · obtain ⟨rfl, -, hsteps'⟩ := hhandle.throw
          simpa [hkind] using hk₁.follows (follows_others hsteps')
  · obtain ⟨rfl, -, hsteps⟩ := h.pure
    exact (follows_others hsteps).inspected

/-- The status of a stamped row raises exactly when its inspection does, and carries
the token of the row. -/
theorem runs_statusFromState [PyStd] {inspector : Bool} {state : RunState}
    (hstamped : state.updatedAt.isSome) {r : Except Raised RunStatus}
    (h : (RunControl.statusFromState inspector state).Runs (Answer id) (Others id) () k r () k') :
    k.Inspected id r.raised k' ∧
      ∀ status, r = .ok status → RunControl.stateToken state = .ok status.stateToken := by
  obtain ⟨updatedAt, hupdated⟩ := Option.isSome_iff_exists.mp hstamped
  obtain ⟨token, htoken⟩ : ∃ token, RunControl.stateToken state = .ok token := by
    unfold RunControl.stateToken
    rw [hupdated]
    exact ⟨_, rfl⟩
  have hinspect : ∀ {r : Except Raised WorkProductSummary} {k₁ : Timeline R},
      (if RunControl.inspects state then RunControl.inspectWorkProduct inspector state.actionId
        else pure { status := .notApplicable }).Runs (Answer id) (Others id) () k r () k₁ →
      k.Inspected id r.raised k₁ := by
    intro r k₁ hrun
    split_ifs at hrun
    · exact runs_inspectWorkProduct hrun
    · obtain ⟨rfl, -, hsteps⟩ := hrun.pure
      exact (follows_others hsteps).inspected
  have hprogram : RunControl.statusFromState inspector state =
      (if RunControl.inspects state then RunControl.inspectWorkProduct inspector state.actionId
        else pure { status := .notApplicable }) >>= fun workProduct => do
          let token ← Proc.ofExcept (RunControl.stateToken state)
          return RunControl.statusOf state token workProduct := by
    unfold RunControl.statusFromState
    split_ifs <;> rfl
  rw [hprogram] at h
  rcases h.bind with ⟨_, _, k₁, hrun, hrest⟩ | ⟨_, k₁, hrun, rfl, hsteps⟩
  · rw [htoken] at hrest
    rcases hrest.bind with ⟨_, _, k₂, hknown, hreturn⟩ | ⟨_, _, hknown, -, -⟩
    · obtain ⟨heq, -, hsteps⟩ := hknown.ofExcept
      obtain rfl := Except.ok.inj heq
      obtain ⟨rfl, -, hsteps'⟩ := hreturn.pure
      refine ⟨(hinspect hrun).follows (follows_others (hsteps.trans hsteps')), ?_⟩
      intro status hstatus
      rw [← Except.ok.inj hstatus]
      exact htoken
    · exact nomatch hknown.ofExcept.1
  · exact ⟨(hinspect hrun).follows (follows_others hsteps), fun _ heq => nomatch heq⟩

/-- A status changes nothing, and carries the token of a stored row. -/
theorem runs_status [PyStd] {inspector : Bool} {r : Except Raised RunStatus}
    (h : (RunControl.status inspector id).Runs (Answer id) (Others id) () k r () k')
    (hk : k.Consistent id) (hown : k.own = []) :
    k.Follows id k' ∧ ∀ status, r = .ok status →
      ∃ state ∈ k'.stored, RunControl.stateToken state = .ok status.stateToken := by
  rcases h.bind with ⟨state, _, k₁, hread, hrest⟩ | ⟨_, k₁, hread, rfl, hsteps⟩
  · obtain ⟨hk₁, hmem⟩ := runs_getState hread hk
    have hstored := hmem state rfl
    obtain ⟨hinspected, htoken⟩ :=
      runs_statusFromState ((hk₁.consistent hk).stamped state hstored) hrest
    have hk' := hinspected.follows_of_own (hk₁.own.trans hown)
    exact ⟨hk₁.trans hk', fun status hstatus =>
      ⟨state, hk'.stored.subset hstored, htoken status hstatus⟩⟩
  · exact ⟨(runs_getState hread hk).1.trans (follows_others hsteps),
      fun status hstatus => nomatch hstatus⟩

/-- What an update leaves behind: nothing, or the row it computes. -/
structure Updated (id : UUID) (w : RunWrite) (raised : Bool) (current : Option RunState)
    (state : RunState) (k k' : Timeline R) : Prop where
  applied : w.apply current = .ok state
  current_mem : ∀ row, current = some row → row ∈ k'.stored
  stored : k.stored <+: k'.stored
  own : k'.own = k.own ++ [(current, state)]
  late : k'.late = (k.late || raised)
  consistent : k'.Consistent id

theorem runs_write {w : RunWrite} (hid : w.actionId = id) {r : Except Raised RunState}
    (h : (callRepository (.write w)).Runs (Answer id) (Others id) () k r () k')
    (hk : k.Consistent id) :
    (r.raised ∧ k.Follows id k') ∨ (∃ current state, Updated id w r.raised current state k k') ∧
      ∀ row, r = .ok row → row.updatedAt.isSome := by
  obtain ⟨k₁, reply, k₂, hsteps, hanswer, hsteps', rfl, -⟩ := h.request
  have hk₁ := follows_others hsteps
  have hk' := follows_others hsteps'
  have hconsistent := hk₁.consistent hk
  rcases answer_write hanswer with ⟨e, rfl, hrefused⟩ | ⟨state, happly, hstored⟩
  · exact Or.inl ⟨rfl, hk₁.trans (hrefused.trans hk')⟩
  refine Or.inr ?_
  rw [hid] at happly
  -- the row before was stored, and the update keeps all that was
  have hcurrent : ∀ row, R.row k₁.repository id = some row → row ∈ k₁.stored := fun row =>
    hconsistent.mem_stored
  have hinitial : k₁.stored <+: (k₁.update id w state).stored := List.prefix_append _ _
  have hown : (k₁.update id w state).own = k.own ++ [(R.row k₁.repository id, state)] := by
    rw [← hk₁.own, ← hid]
    rfl
  rcases hstored with ⟨row, rfl, hfollows, hrow⟩ | ⟨e, k₃, rfl, hfollows, rfl⟩
  · have hrest := hfollows.trans hk'
    refine ⟨⟨_, state, happly, fun row hmem => ?_, ?_, ?_, ?_, ?_⟩, fun row' hrow' => ?_⟩
    · exact hrest.stored.subset (hinitial.subset (hcurrent row hmem))
    · exact hk₁.stored.trans (hinitial.trans hrest.stored)
    · rw [hrest.own, hown]
    · rw [hrest.late]
      simp [update, access, hk₁.late]
    · exact hrest.consistent (hconsistent.update w state)
    · obtain rfl := Except.ok.inj hrow'
      rw [hid] at hrow
      have hk₂ := hfollows.consistent (hconsistent.update w state)
      exact hk₂.stamped row (hk₂.mem_stored hrow)
  · refine ⟨⟨_, state, happly, fun row hmem => ?_, ?_, ?_, ?_, ?_⟩, fun row' hrow' => ?_⟩
    · exact hk'.stored.subset (hfollows.stored.subset (hinitial.subset (hcurrent row hmem)))
    · exact hk₁.stored.trans (hinitial.trans (hfollows.stored.trans hk'.stored))
    · rw [hk'.own, hfollows.own, hown]
    · rw [hk'.late]
      simp
    · have hk₃ := hfollows.consistent (hconsistent.update w state)
      exact hk'.consistent ⟨hk₃.row, hk₃.stamped, hk₃.identified⟩
    · cases hrow'

end Timeline

/-! ### What a reconciliation does -/

/-- The row after a claim was resolved: only the fields of the resolution differ. -/
def ResolvedBy : ClaimReconciliation → RunState → RunState → Prop
  | .release, before, after => ∃ reconciledAt, after = before.released reconciledAt
  | .abandon, before, after => ∃ reconciledAt, after = before.abandoned reconciledAt

namespace Timeline

variable {R : RunRepository} {id : UUID} {k k₁ k₂ k' : Timeline R}

/-- A reconciliation of the row of a version is refused, or updates such a row. -/
inductive Reconciled (id : UUID) (resolution : ClaimReconciliation) (version : Option DateTime)
    (raised : Bool) (k k' : Timeline R) : Prop
  | refused : raised = true → k.Follows id k' → Reconciled id resolution version raised k k'
  | updated {before after : RunState} : ResolvedBy resolution before after →
      before.updatedAt = version → before ∈ k'.stored → k.stored <+: k'.stored →
      k'.own = k.own ++ [(some before, after)] → k'.late = (k.late || raised) →
      k'.Consistent id → Reconciled id resolution version raised k k'

theorem Reconciled.of_follows {resolution : ClaimReconciliation} {version : Option DateTime}
    {raised : Bool} (hk : k.Follows id k₁)
    (h : Reconciled id resolution version raised k₁ k') :
    Reconciled id resolution version raised k k' := by
  cases h with
  | refused hraised hk' => exact .refused hraised (hk.trans hk')
  | updated hresolved hversion hmem hstored hown hlate hk' =>
    exact .updated hresolved hversion hmem (hk.stored.trans hstored) (hk.own ▸ hown)
      (hk.late ▸ hlate) hk'

theorem Reconciled.follows {resolution : ClaimReconciliation} {version : Option DateTime}
    {raised : Bool} (h : Reconciled id resolution version raised k k₁) (hk' : k₁.Follows id k') :
    Reconciled id resolution version raised k k' := by
  cases h with
  | refused hraised hk => exact .refused hraised (hk.trans hk')
  | updated hresolved hversion hmem hstored hown hlate hk =>
    exact .updated hresolved hversion (hk'.stored.subset hmem) (hstored.trans hk'.stored)
      (hk'.own.trans hown) (hk'.late.trans hlate) (hk'.consistent hk)

theorem Reconciled.stored {resolution : ClaimReconciliation} {version : Option DateTime}
    {raised : Bool} (h : Reconciled id resolution version raised k k') :
    k.stored <+: k'.stored := by
  cases h with
  | refused _ hk => exact hk.stored
  | updated _ _ _ hstored _ _ _ => exact hstored

/-- The conditional update of a resolution is refused, or updates a row of the
expected version. -/
theorem runs_resolution {w : RunWrite} {resolution : ClaimReconciliation} {version : DateTime}
    (hid : w.actionId = id)
    (hspec : ∀ {current state}, w.apply current = .ok state →
      ∃ before, current = some before ∧ before.updatedAt = some version ∧
        ResolvedBy resolution before state)
    {r : Except Raised RunState}
    (h : (callRepository (.write w)).Runs (Answer id) (Others id) () k r () k')
    (hk : k.Consistent id) :
    Reconciled id resolution (some version) r.raised k k' ∧
      ∀ row, r = .ok row → row.updatedAt.isSome := by
  rcases runs_write hid h hk with ⟨hraised, hfollows⟩ | ⟨⟨_, after, hupdated⟩, hstamped⟩
  · refine ⟨.refused hraised hfollows, fun row hrow => ?_⟩
    rw [hrow] at hraised
    cases hraised
  · obtain ⟨before, rfl, hversion, hresolved⟩ := hspec hupdated.applied
    exact ⟨.updated hresolved hversion (hupdated.current_mem before rfl) hupdated.stored
      hupdated.own hupdated.late hupdated.consistent, hstamped⟩

/-- A review before the update has no consequence. -/
theorem runs_inspectForAbandon {inspector : Bool} {id' : UUID} {r : Except Raised Unit}
    (h : (RunControl.inspectForAbandon inspector id').Runs (Answer id) (Others id) () k r () k')
    (hown : k.own = []) : k.Follows id k' := by
  have hreview : ∀ {r : Except Raised Unit} {k₁ : Timeline R},
      (do let _ ← reviewWorkProduct id' : Task Unit).Runs (Answer id) (Others id) () k r () k₁ →
        k.Follows id k₁ := by
    intro r k₁ hrun
    rcases hrun.bind with ⟨_, _, k₂, hfirst, hreturn⟩ | ⟨_, k₂, hfirst, -, hsteps⟩
    · exact ((runs_reviewWorkProduct hfirst).follows_of_own hown).trans
        (follows_others hreturn.pure.2.2)
    · exact ((runs_reviewWorkProduct hfirst).follows_of_own hown).trans (follows_others hsteps)
  unfold RunControl.inspectForAbandon at h
  split_ifs at h
  · rcases h.tryCatch with ⟨_, k₁, htry, -, hsteps⟩ | ⟨_, _, k₁, htry, hhandle⟩
    · exact (hreview htry).trans (follows_others hsteps)
    · split_ifs at hhandle
      · exact (hreview htry).trans (follows_others hhandle.pure.2.2)
      · exact (hreview htry).trans (follows_others hhandle.throw.2.2)
  · exact follows_others h.throw.2.2

/-- Once the checks of a resolution passed, its update is refused or made. -/
theorem runs_resolve {inspector acknowledged : Bool} {resolution : ClaimReconciliation}
    {state : RunState} {version now : DateTime} {r : Except Raised RunState}
    (h : (RunControl.resolve inspector id resolution acknowledged state version now).Runs
      (Answer id) (Others id) () k r () k') (hk : k.Consistent id) (hown : k.own = []) :
    Reconciled id resolution (some version) r.raised k k' ∧
      ∀ row, r = .ok row → row.updatedAt.isSome := by
  have hrefused : ∀ {e : Raised} {k₁ : Timeline R}, k.Follows id k₁ →
      ReflTransGen (Others id) k₁ k' → Reconciled id resolution (some version)
        (Except.error e : Except Raised RunState).raised k k' ∧
          ∀ row, (Except.error e : Except Raised RunState) = .ok row → row.updatedAt.isSome :=
    fun hk₁ hsteps => ⟨.refused rfl (hk₁.trans (follows_others hsteps)), fun row hrow => nomatch hrow⟩
  cases resolution with
  | release =>
    rcases h.bind with ⟨_, _, k₁, hguard, hwrite⟩ | ⟨_, k₁, hguard, rfl, hsteps⟩
    · have hk₁ := follows_others hguard.ofExcept.2.2
      have hspec : ∀ {current state},
          (RunWrite.releaseUnstartedClaim id version now).apply current = .ok state →
            ∃ before, current = some before ∧ before.updatedAt = some version ∧
              ResolvedBy .release before state := by
        intro current state happly
        obtain ⟨before, hcurrent, hversion, -, -, -, hafter⟩ :=
          releaseUnstartedClaim_eq_ok_iff.mp happly
        exact ⟨before, hcurrent, hversion, now, hafter⟩
      obtain ⟨hreconciled, hstamped⟩ :=
        runs_resolution rfl hspec hwrite (hk₁.consistent hk)
      exact ⟨hreconciled.of_follows hk₁, hstamped⟩
    · exact hrefused (follows_others hguard.ofExcept.2.2) hsteps
  | abandon =>
    rcases h.bind with ⟨_, _, k₁, hguard, hrest⟩ | ⟨_, k₁, hguard, rfl, hsteps⟩
    · have hk₁ := follows_others hguard.ofExcept.2.2
      rcases hrest.bind with ⟨_, _, k₂, hreview, hwrite⟩ | ⟨_, k₂, hreview, rfl, hsteps⟩
      · have hk₂ := hk₁.trans (runs_inspectForAbandon hreview (hk₁.own.trans hown))
        have hspec : ∀ {current state},
            (RunWrite.abandonStartedClaim id version now).apply current = .ok state →
              ∃ before, current = some before ∧ before.updatedAt = some version ∧
                ResolvedBy .abandon before state := by
          intro current state happly
          obtain ⟨before, hcurrent, hversion, -, -, -, hafter⟩ :=
            abandonStartedClaim_eq_ok_iff.mp happly
          exact ⟨before, hcurrent, hversion, now, hafter⟩
        obtain ⟨hreconciled, hstamped⟩ :=
          runs_resolution rfl hspec hwrite (hk₂.consistent hk)
        exact ⟨hreconciled.of_follows hk₂, hstamped⟩
      · exact hrefused (hk₁.trans (runs_inspectForAbandon hreview (hk₁.own.trans hown))) hsteps
    · exact hrefused (follows_others hguard.ofExcept.2.2) hsteps

theorem runs_utcnow {r : Except Raised DateTime}
    (h : (utcnow : Task DateTime).Runs (Answer id) (Others id) () k r () k') :
    k.Follows id k' := by
  obtain ⟨k₁, _, k₂, hsteps, hanswer, hsteps', -, -⟩ := h.request
  rw [answer_utcnow hanswer] at hsteps'
  exact (follows_others hsteps).trans (follows_others hsteps')

/-- The update, and the status that is returned after it. -/
theorem runs_resolveAndReport [PyStd] {inspector acknowledged : Bool}
    {resolution : ClaimReconciliation} {state : RunState} {version now : DateTime}
    {r : Except Raised RunStatus}
    (h : (do
      let updated ← onRunStateError
        (RunControl.resolve inspector id resolution acknowledged state version now)
        (RunControl.stateError "software engineering claim reconciliation failed closed")
      RunControl.statusFromState inspector updated).Runs (Answer id) (Others id) () k r () k')
    (hk : k.Consistent id) (hown : k.own = []) :
    Reconciled id resolution (some version) r.raised k k' := by
  rcases h.bind with ⟨row, _, k₁, htry, hreport⟩ | ⟨_, k₁, htry, rfl, hsteps⟩
  · rcases runs_onRunStateError htry with ⟨_, k₂, hrun, heq, hfollows⟩ | ⟨_, _, _, _, heq, _⟩
    · obtain rfl := Except.ok.inj heq
      obtain ⟨hreconciled, hstamped⟩ := runs_resolve hrun hk hown
      have hreport' := (runs_statusFromState (hstamped row rfl) hreport).1
      rcases hreconciled.follows hfollows with
        ⟨hraised, -⟩ | ⟨hresolved, hversion, hmem, hstored, hown₁, hlate, hk₁⟩
      · cases hraised
      · refine .updated hresolved hversion (hreport'.stored.subset hmem)
          (hstored.trans hreport'.stored) (hreport'.own.trans hown₁) ?_ (hreport'.consistent hk₁)
        rw [hreport'.late, hlate, hown₁, hown]
        simp
    · cases heq
  · rcases runs_onRunStateError htry with ⟨_, _, _, heq, _⟩ | ⟨_, _, k₂, hrun, -, hfollows⟩
    · cases heq
    · exact (runs_resolve hrun hk hown).1.follows (hfollows.trans (follows_others hsteps))

/-- A reconciliation is refused, or updates a row of the version that it read; the
token of that row is the one it was given. -/
theorem runs_reconcile [PyStd] {inspector acknowledged : Bool} {resolution : ClaimReconciliation}
    {token : String} {r : Except Raised RunStatus}
    (h : (RunControl.reconcile inspector id resolution token acknowledged).Runs (Answer id)
      (Others id) () k r () k') (hk : k.Consistent id) (hown : k.own = []) :
    (r.raised ∧ k.Follows id k') ∨
      ∃ state ∈ k'.stored, RunControl.stateToken state = .ok token ∧
        Reconciled id resolution state.updatedAt r.raised k k' := by
  have hrefused : ∀ {e : Raised} {k₁ : Timeline R}, k.Follows id k₁ →
      ReflTransGen (Others id) k₁ k' →
        (Except.error e : Except Raised RunStatus).raised ∧ k.Follows id k' := fun hk₁ hsteps =>
    ⟨rfl, hk₁.trans (follows_others hsteps)⟩
  rcases h.bind with ⟨state, _, k₁, hread, h₁⟩ | ⟨_, k₁, hread, rfl, hsteps⟩
  swap
  · exact Or.inl (hrefused (runs_getState hread hk).1 hsteps)
  obtain ⟨hk₁, hmem⟩ := runs_getState hread hk
  have hstored := hmem state rfl
  rcases h₁.bind with ⟨current, _, k₂, htoken, h₂⟩ | ⟨_, k₂, htoken, rfl, hsteps⟩
  swap
  · exact Or.inl (hrefused (hk₁.trans (follows_others htoken.ofExcept.2.2)) hsteps)
  obtain ⟨hcurrent, -, hsteps₂⟩ := htoken.ofExcept
  have hk₂ := hk₁.trans (follows_others hsteps₂)
  rcases h₂.bind with ⟨_, _, k₃, hguard, h₃⟩ | ⟨_, k₃, hguard, rfl, hsteps⟩
  swap
  · exact Or.inl (hrefused (hk₂.trans (follows_others hguard.ofExcept.2.2)) hsteps)
  obtain ⟨hmatches, -, hsteps₃⟩ := hguard.ofExcept
  have hk₃ := hk₂.trans (follows_others hsteps₃)
  have hsame : RunControl.stateToken state = .ok token := by
    rw [← hcurrent]
    exact congrArg _ (not_not.mp (Except.raiseIf_eq_ok_iff.mp hmatches.symm))
  obtain ⟨version, hversion⟩ := Option.isSome_iff_exists.mp ((hk₁.consistent hk).stamped state hstored)
  have hstate : state ∈ k₃.stored := (follows_others (hsteps₂.trans hsteps₃)).stored.subset hstored
  simp only [hversion] at h₃
  rcases h₃.bind with ⟨now, _, k₄, hnow, h₄⟩ | ⟨_, k₄, hnow, rfl, hsteps⟩
  swap
  · exact Or.inl (hrefused (hk₃.trans (runs_utcnow hnow)) hsteps)
  have hk₄ := hk₃.trans (runs_utcnow hnow)
  have hreconciled := runs_resolveAndReport h₄ (hk₄.consistent hk) (hk₄.own.trans hown)
  have hmem' := hreconciled.stored.subset ((runs_utcnow hnow).stored.subset hstate)
  exact Or.inr ⟨state, hmem', hsame, hversion ▸ hreconciled.of_follows hk₄⟩

end Timeline

/-- What the reconciliation of an inspected row did: when it succeeds, it changed a row
with the claim that was inspected, and only the fields of the resolution; when it
raises, it changed nothing. -/
structure BoundReconciliation (resolution : ClaimReconciliation) (inspected : RunState)
    (result : Except Raised RunStatus) (changes : List (Option RunState × RunState)) : Prop where
  ok : ∀ status, result = .ok status → ∃ before after, changes = [(some before, after)] ∧
    before.claimId = inspected.claimId ∧
    before.executionStartedAt = inspected.executionStartedAt ∧
    before.executionStatus = inspected.executionStatus ∧
    before.claimResolution = inspected.claimResolution ∧ ResolvedBy resolution before after
  error : ∀ e, result = .error e → changes = []

section Bound

variable [PyStd] {R : RunRepository} {id : UUID} {k₀ k₁ k₂ : Timeline R}
  {inspector acknowledged : Bool} {resolution : ClaimReconciliation} {status : RunStatus}
  {result : Except Raised RunStatus}

open Timeline (Consistent Answer Others)

/-- Stored rows with one token are of one version; no version being stored twice, they
are the same row. -/
theorem eq_of_stateToken (hsha : Function.Injective PyStd.sha256Hexdigest)
    (hk : k₂.Consistent id) (hunique : (k₂.stored.map RunState.updatedAt).Nodup)
    {state state' : RunState} {token : String} (hmem : state ∈ k₂.stored)
    (hmem' : state' ∈ k₂.stored) (h : RunControl.stateToken state = .ok token)
    (h' : RunControl.stateToken state' = .ok token) : state = state' :=
  List.inj_on_of_nodup_map hunique hmem hmem' (RunControl.updatedAt_of_stateToken hsha
    ((hk.identified state hmem).trans (hk.identified state' hmem').symm) h h')

/-- A reconciliation with the token of a status is bound to the row that the status
inspected exactly when nothing is raised after its update. -/
theorem reconcile_bound_iff (hsha : Function.Injective PyStd.sha256Hexdigest) (hk₀ : k₀.Consistent id)
    (hown : k₀.own = []) (hlate : k₀.late = false)
    (hstatus : (RunControl.status inspector id).Runs (Answer id) (Others id) () k₀ (.ok status) ()
      k₁)
    (hreconcile : (RunControl.reconcile inspector id resolution status.stateToken acknowledged).Runs
      (Answer id) (Others id) () k₁ result () k₂)
    (hunique : (k₂.stored.map RunState.updatedAt).Nodup) :
    ∃ inspected ∈ k₁.stored, RunControl.stateToken inspected = .ok status.stateToken ∧
      (BoundReconciliation resolution inspected result k₂.own ↔ k₂.late = false) := by
  obtain ⟨hk₁, htoken⟩ := Timeline.runs_status hstatus hk₀ hown
  obtain ⟨inspected, hmem, hinspected⟩ := htoken status rfl
  have hown₁ : k₁.own = [] := hk₁.own.trans hown
  have hlate₁ : k₁.late = false := hk₁.late.trans hlate
  refine ⟨inspected, hmem, hinspected, ?_⟩
  -- what holds when nothing was changed
  have hunchanged : result.raised → k₁.Follows id k₂ →
      (BoundReconciliation resolution inspected result k₂.own ↔ k₂.late = false) := by
    intro hraised hfollows
    refine iff_of_true ⟨fun status' hresult => ?_, fun _ _ => hfollows.own.trans hown₁⟩
      (hfollows.late.trans hlate₁)
    rw [hresult] at hraised
    cases hraised
  rcases Timeline.runs_reconcile hreconcile (hk₁.consistent hk₀) hown₁ with
    ⟨hraised, hfollows⟩ | ⟨state, hstate, hsame, hreconciled⟩
  · exact hunchanged hraised hfollows
  cases hreconciled with
  | refused hraised hfollows => exact hunchanged hraised hfollows
  | @updated before after hresolved hversion hbefore hstored hchanges hlate₂ hk₂ =>
    have hchanged : k₂.own = [(some before, after)] := by rw [hchanges, hown₁, List.nil_append]
    -- the updated row is the one that was read, and that is the inspected one
    obtain rfl : before = state := List.inj_on_of_nodup_map hunique hbefore hstate hversion
    obtain rfl : before = inspected :=
      eq_of_stateToken hsha hk₂ hunique hbefore (hstored.subset hmem) hsame hinspected
    rw [hlate₂, hlate₁, Bool.false_or, hchanged]
    constructor
    · intro hbound
      rcases result with e | status'
      · exact absurd (hbound.error e rfl) (List.cons_ne_nil _ _)
      · rfl
    · intro hraised
      refine ⟨fun status' _ => ⟨before, after, rfl, rfl, rfl, rfl, rfl, hresolved⟩, fun e he => ?_⟩
      rw [he] at hraised
      cases hraised

end Bound

/-! ### Alone with the repository -/

namespace Timeline

variable {R : RunRepository}

/-- The outside of a process that is alone with the repository, its clock standing
still. -/
def handler (id : UUID) (now : DateTime)
    (review : Timeline R → Except Raised WorkProductReview) : Handler Outside (Timeline R)
  | .store (.write w), k =>
    match (R.handle (.write w) k.repository).1 with
    | .ok state => (.ok state, k.update id w state)
    | .error e => (.error e, k.access id (.write w))
  | .store (.get id'), k => ((R.handle (.get id') k.repository).1, k.access id (.get id'))
  | .store .listPendingApproval, k =>
    ((R.handle .listPendingApproval k.repository).1, k.access id .listPendingApproval)
  | .store (.claimApproved claimedAt claimId id'), k =>
    ((R.handle (.claimApproved claimedAt claimId id') k.repository).1,
      k.access id (.claimApproved claimedAt claimId id'))
  | .reviewWorkProduct _, k =>
    match review k with
    | .ok workProduct => (.ok workProduct, k)
    | .error e => (.error e,
        { k with late := k.late || (!k.own.isEmpty && e.kind ≠ .workProductIdentityError) })
  | .utcnow, k => (now, k)
  | .uuid4, k => (0, k)
  | .classify event, k => (.ok { category := event.source }, k)
  | .resolveContext .., k => (.ok {}, k)
  | .plan _, k => (.ok [], k)
  | .evaluatePermission _, k => (.ok (some {}), k)
  | .execute execution, k => (.ok { action := execution.action, status := .succeeded }, k)
  | .disposeWorkProduct id' disposition, k => (.ok {
      actionId := id'
      disposition
      worktreePresent := false
      branchPresent := false
      canonicalUnchanged := true }, k)
  | .publishPromotion .., k => (.error ⟨.softwareEngineeringPromotionExternalError, "no remote"⟩, k)

theorem answer_handler {id : UUID} {now : DateTime}
    {review : Timeline R → Except Raised WorkProductReview} (c : OutsideCall) (k : Timeline R) :
    Answer id c k (handler id now review c k).1 (handler id now review c k).2 := by
  cases c with
  | store call =>
    cases call with
    | write w =>
      simp only [handler]
      split
      · next state hreply =>
        refine .updated hreply .refl ?_
        show R.row (R.handle (.write w) k.repository).2 w.actionId = _
        rw [(R.handle_write_ok hreply).2, Function.update_self]
      · next e hreply => exact .refused hreply
    | _ => exact .accessed (fun w => nofun)
  | reviewWorkProduct id' =>
    simp only [handler]
    split
    · next workProduct _ => exact .reviewed workProduct
    · next e _ => exact .unreviewed e
  | _ => exact .other _ (fun _ => nofun) (fun _ => nofun)

end Timeline

/-! ### Instances -/

namespace Timeline.Sample

/-- A time of the day of the samples. -/
def noon (second : ℕ) (h : second < 60) : DateTime :=
  ⟨2026, 7, 27, 12, 0, second, 0, ⟨by decide, by decide, by decide, by decide, by decide, h,
    by decide⟩⟩

/-- A row whose claim has not started. -/
def claimed : RunState where
  actionId := 0
  executorRole := ExecutorRole.softwareEngineering.value
  capability := SOFTWARE_ENGINEERING_IMPLEMENT_CAPABILITY
  target := "velox-server"
  approvalStatus := some .approved
  claimId := some 1
  claimedAt := some (noon 1 (by decide))
  updatedAt := some (noon 1 (by decide))

/-- The row after its claim has started. -/
def started : RunState := claimed.started (noon 2 (by decide)) (noon 2 (by decide))

/-- The row whose claim is to be resolved. -/
def row : ClaimReconciliation → RunState
  | .release => claimed
  | .abandon => started

/-- The repository with that row. -/
def timeline (resolution : ClaimReconciliation) : Timeline inMemoryRunRepository where
  repository := InMemoryRunRepository.empty.store (row resolution)
  stored := [row resolution]

/-- A work product that cannot be verified, and later not even looked for. -/
def review (k : Timeline inMemoryRunRepository) : Except Raised WorkProductReview :=
  if k.own.isEmpty then .error ⟨.workProductIdentityError, "isolated worktree does not exist"⟩
  else .error ⟨.exception "WorkspaceUnavailableError", "git is not available"⟩

/-- A digest that is injective, and right on the row of the unstarted claim. -/
@[reducible] def std : PyStd where
  casefold := PyStd.ascii.casefold
  parseInt := PyStd.ascii.parseInt
  sha256Hexdigest := Equiv.swap
    ("00000000-0000-0000-0000-000000000000|2026-07-27T12:00:01+00:00|" ++
      "00000000-0000-0000-0000-000000000001|||")
    "767aa53e1d1702149a650cac66e7fccfcf652b85913b21773d0c62519227dc99"
  casefold_identifier := PyStd.ascii.casefold_identifier

/-- The token of a row. -/
def token [PyStd] (state : RunState) : String :=
  (RunControl.stateToken state).either id fun _ => ""

/-- The status of the row. -/
def inspect [PyStd] (resolution : ClaimReconciliation) :=
  (RunControl.status true 0 ()).run (handler 0 (noon 3 (by decide)) review) (timeline resolution)

/-- The reconciliation with the token of that status. -/
def reconcile [PyStd] (resolution : ClaimReconciliation) :=
  (RunControl.reconcile true 0 resolution (token (row resolution)) true ()).run
    (handler 0 (noon 3 (by decide)) review) (timeline resolution)

theorem consistent (resolution : ClaimReconciliation) :
    (timeline resolution).Consistent 0 := by
  cases resolution <;> exact ⟨rfl, by decide, by decide⟩

/-- The status does not change the timeline. -/
theorem runs_status [PyStd] (resolution : ClaimReconciliation) : ∃ status,
    status.stateToken = token (row resolution) ∧
      (RunControl.status true 0).Runs (Answer 0) (Others 0) () (timeline resolution) (.ok status) ()
        (timeline resolution) := by
  have hrun := Prog.interleaved_of_run (E := Others 0) (@answer_handler _ 0
    (noon 3 (by decide)) review) (RunControl.status true 0 ()) (timeline resolution)
  cases resolution
  · exact ⟨_, rfl, hrun⟩
  · exact ⟨_, rfl, hrun⟩

theorem runs_reconcile [PyStd] (resolution : ClaimReconciliation) :
    (RunControl.reconcile true 0 resolution (token (row resolution)) true).Runs (Answer 0) (Others 0)
      () (timeline resolution) (reconcile resolution).1.1 () (reconcile resolution).2 :=
  Prog.interleaved_of_run answer_handler _ _

/-- The token is that of the row, so the reconciliation goes on to its update. -/
theorem reconcile_eq [PyStd] (resolution : ClaimReconciliation) :
    reconcile resolution = ((do
      let updated ← onRunStateError
        (RunControl.resolve true 0 resolution true (row resolution)
          ((row resolution).updatedAt.getD .min) (noon 3 (by decide)))
        (RunControl.stateError "software engineering claim reconciliation failed closed")
      RunControl.statusFromState true updated : Task RunStatus) ()).run
        (handler 0 (noon 3 (by decide)) review) (timeline resolution) := by
  have hguard : Except.raiseIf (token (row resolution) ≠ token (row resolution))
      (RunControl.stateError "software engineering run state changed since status inspection") =
        .ok () := Except.raiseIf_neg (not_not.mpr rfl)
  cases resolution
  · show Prog.run _ ((Proc.ofExcept (Except.raiseIf (token (row .release) ≠ token (row .release)) _)
      >>= fun _ => _ : Task RunStatus) ()) _ = _
    rw [hguard]
    rfl
  · show Prog.run _ ((Proc.ofExcept (Except.raiseIf (token (row .abandon) ≠ token (row .abandon)) _)
      >>= fun _ => _ : Task RunStatus) ()) _ = _
    rw [hguard]
    rfl

end Timeline.Sample

/-- The release of a claim that has not started is bound to the row that was inspected. -/
theorem reconcile_bound_of_release :
    letI := Timeline.Sample.std
    BoundReconciliation .release (Timeline.Sample.row .release)
      (Timeline.Sample.reconcile .release).1.1 (Timeline.Sample.reconcile .release).2.own := by
  let _ := Timeline.Sample.std
  obtain ⟨status, htoken, hstatus⟩ := Timeline.Sample.runs_status .release
  have hreconcile := Timeline.Sample.runs_reconcile .release
  rw [← htoken] at hreconcile
  have hunique : ((Timeline.Sample.reconcile .release).2.stored.map RunState.updatedAt).Nodup := by
    rw [Timeline.Sample.reconcile_eq]
    decide
  obtain ⟨inspected, hmem, -, hiff⟩ := reconcile_bound_iff (Equiv.injective (Equiv.swap _ _))
    (Timeline.Sample.consistent .release) rfl rfl hstatus hreconcile hunique
  obtain rfl := List.mem_singleton.mp hmem
  refine hiff.mpr ?_
  rw [Timeline.Sample.reconcile_eq]
  rfl

/-- Abandoning a claim raises after its update, when the work product cannot be looked
for a second time. -/
theorem not_reconcile_bound_of_unavailable_git :
    letI := Timeline.Sample.std
    ∃ (status : RunStatus) (result : Except Raised RunStatus)
      (k : Timeline inMemoryRunRepository),
      (RunControl.status true 0).Runs (Timeline.Answer 0) (Timeline.Others 0) ()
        (Timeline.Sample.timeline .abandon) (.ok status) () (Timeline.Sample.timeline .abandon) ∧
      (RunControl.reconcile true 0 .abandon status.stateToken true).Runs (Timeline.Answer 0)
        (Timeline.Others 0) () (Timeline.Sample.timeline .abandon) result () k ∧
      (k.stored.map RunState.updatedAt).Nodup ∧
      ¬BoundReconciliation .abandon (Timeline.Sample.row .abandon) result k.own := by
  let _ := Timeline.Sample.std
  obtain ⟨status, htoken, hstatus⟩ := Timeline.Sample.runs_status .abandon
  have hreconcile := Timeline.Sample.runs_reconcile .abandon
  rw [Timeline.Sample.reconcile_eq, ← htoken] at hreconcile
  refine ⟨status, _, _, hstatus, hreconcile, by decide, fun hbound => ?_⟩
  exact absurd (hbound.error ⟨.exception "WorkspaceUnavailableError", "git is not available"⟩ rfl)
    (List.cons_ne_nil _ _)

end Velox
