import Velox.Integrations.PromotionStages
import Velox.Lib.Run

/-!
# Promoting again

A promotion commits, pushes, publishes and records, in this order. However often it is cut
short, by a command that fails before or after it took effect or by the end of the process,
the next one goes on from what it finds, with the same commit and the same pull request.

## Main definitions

* `PromotionAttempt`, `promotionAttempt` — a promotion that is stopped somewhere
* `Underway` — what attempts leave behind
* `Promoted` — what a completed promotion has come to

## Main results

* `underway_after` — attempts leave behind what the next one can go on from
* `promotion_completes`
-/

set_option autoImplicit false

namespace Velox

open SoftwareEngineeringPromotionService (HasPromotion recordedPromotion)

/-! ### What attempts leave behind -/

/-- The row says what was published. -/
structure RunState.Records (state : RunState) (publication : PromotionPublication) : Prop where
  commitSha : state.promotionCommitSha = some publication.commitSha
  number : state.pullRequestNumber = some publication.number
  url : state.pullRequestUrl = some publication.url
  baseBranch : state.promotionBaseBranch = some publication.baseBranch
  headBranch : state.promotionHeadBranch = some publication.headBranch
  finishedAt : state.promotionFinishedAt ≠ none

/-- Whether the pull request was created or found is not recorded. -/
theorem RunState.Records.of_created {state : RunState} {publication : PromotionPublication}
    (h : state.Records publication) (created : Bool) :
    state.Records { publication with created } :=
  ⟨h.commitSha, h.number, h.url, h.baseBranch, h.headBranch, h.finishedAt⟩

/-- What is recorded of a publication. -/
def PromotionPublication.record (publication : PromotionPublication) (actionId : UUID)
    (finishedAt : DateTime) : PromotionRecord where
  actionId
  commitSha := publication.commitSha
  pullRequestNumber := publication.number
  pullRequestUrl := publication.url
  baseBranch := publication.baseBranch
  headBranch := publication.headBranch
  finishedAt

theorem RunState.records_promoted (state : RunState) (publication : PromotionPublication)
    (actionId : UUID) (finishedAt now : DateTime) :
    (state.promoted (publication.record actionId finishedAt) now).Records publication :=
  ⟨rfl, rfl, rfl, rfl, rfl, Option.some_ne_none finishedAt⟩

theorem RunState.Promotable.promoted {state : RunState} (h : state.Promotable)
    (promotion : PromotionRecord) (now : DateTime) : (state.promoted promotion now).Promotable where
  canonical := h.canonical
  succeeded := h.succeeded
  finished := h.finished
  kept := h.kept
  keptSuccessfully := h.keptSuccessfully
  worktreePresent := h.worktreePresent
  branchPresent := h.branchPresent
  canonicalUnchanged := h.canonicalUnchanged

/-- The row is kept; it records nothing, or what is on the remote and on the pull-request
host. -/
def Underway {settings : PromotionSettings} {actionId : UUID} (site : GitSite settings actionId)
    (number : Int) (url : String) {R : RunRepository} {V : Type} (view : V → SiteState)
    (x : World R × V) : Prop :=
  ∃ state, x.1.row actionId = some state ∧ state.Promotable ∧
    (¬HasPromotion state ∧ site.Promoting (view x.2) ∨
      state.Records (site.publication number url false) ∧ site.Published (view x.2))

/-- There is one commit at most, the same in every push, and one pull request at most. -/
structure GitSite.Single {settings : PromotionSettings} {actionId : UUID}
    (site : GitSite settings actionId) (commitSha : String) (s : SiteState) : Prop where
  commits : s.commits ≤ 1
  head : s.commits ≠ 0 → site.commitAt s.commits = commitSha
  pushed : ∀ sha ∈ s.pushed, sha = commitSha
  pullRequests : s.pullRequests ≤ 1

/-- The branch has one commit, which is the one that is recorded. -/
structure Promoted {settings : PromotionSettings} {actionId : UUID} (site : GitSite settings actionId)
    {R : RunRepository} {V : Type} (view : V → SiteState) (publication : PromotionPublication)
    (x : World R × V) : Prop extends site.Single publication.commitSha (view x.2) where
  commit : (view x.2).commits = 1
  row : ∃ state, x.1.row actionId = some state ∧ state.Records publication

/-- A promotion, with the outside it meets. -/
structure PromotionAttempt (V : Type) where
  env : Environment
  host : Handler Host V
  title : String
  body : String
  /-- After how many calls the process is stopped, if it is. -/
  stop : Option ℕ

section Attempts

variable [PyJson] (settings : PromotionSettings) (actionId : UUID) {R : RunRepository} {V : Type}

/-- A promotion that is not stopped. -/
def PromotionAttempt.complete (attempt : PromotionAttempt V) (x : World R × V) :
    (Except Raised PromotionPublication × Unit) × (World R × V) :=
  (settings.promote actionId attempt.title attempt.body).run
    (Handler.both (outside attempt.env R) attempt.host) () x

/-- What an attempt leaves behind. -/
def promotionAttempt (x : World R × V) (attempt : PromotionAttempt V) : World R × V :=
  match attempt.stop with
  | some n => (settings.promote actionId attempt.title attempt.body ()).interrupt
      (Handler.both (outside attempt.env R) attempt.host) n x
  | none => (attempt.complete settings actionId x).2

end Attempts

/-! ### One promotion -/

section Promotion

variable [PyJson] {settings : PromotionSettings} {actionId : UUID}
  {site : GitSite settings actionId} {number : Int} {url : String} {R : RunRepository} {V : Type}
  {env : Environment} {k : Handler Host V} {view : V → SiteState} {w : World R} {v : V}

/-- A promotion of a row that permits it returns what is recorded, or publishes and records. -/
theorem ensures_promote_promotable (env : Environment) {P : (Outside.sum Host).Call → World R × V → Prop}
    {Q : Except Raised PromotionPublication → Unit → World R × V → Prop} {title body : String}
    (hsite : site.Promotes) {state : RunState} (hrow : w.row actionId = some state)
    (hstate : state.Promotable) (hget : P (.inl (OutsideCall.store (.get actionId))) (w, v))
    (hrecorded : HasPromotion state →
      Q (recordedPromotion settings.configuration actionId state) () (w, v))
    (hpublish : ¬HasPromotion state →
      (SoftwareEngineeringPromotionService.publish settings actionId title body).Ensures k
        (fun c v => P (.inr c) (w, v))
        (fun r _ v' => r.either
          (fun publication => P (.inl OutsideCall.utcnow) (w, v') ∧
            (Repository.recordPromotion
              (publication.record actionId (env.clock w.ticks))).Ensures (outside env R)
                (fun c w' => P (.inl c) (w', v'))
                (fun r' u w' => Q (r'.either (fun _ => .ok publication) .error) u (w', v')) () w.tick)
          fun e => Q (.error e) () (w, v')) () v) :
    (settings.promote actionId title body).Ensures (Handler.both (outside env R) k) P Q () (w, v) := by
  have henabled : settings.configuration.enabled = true := hsite.enabled
  have havailable : settings.configuration.available = true := hsite.available
  have hverify := verifyAction_eq_ok_iff (u := ()).mpr hstate
  simp only [PromotionSettings.promote, SoftwareEngineeringPromotionService.promote,
    Proc.ensures_expand_bind, Proc.ensures_expand_ofExcept, PromotionSettings.ensures_get]
  rw [Except.raiseIf_neg (not_not_intro henabled)]
  refine ⟨hget, ?_⟩
  rw [hrow]
  simp only [Except.either_ok, Proc.ensures_expand_bind, Proc.ensures_expand_ofExcept]
  rw [hverify, Except.either_ok, Except.raiseIf_neg (not_not_intro havailable), Except.either_ok]
  refine Proc.ensures_expand_ite.mpr ⟨fun hpromotion => ?_, fun hnone => ?_⟩
  · rw [Proc.ensures_expand_ofExcept]
    exact hrecorded hpromotion
  simp only [Proc.ensures_expand_bind, PromotionSettings.ensures_publishPromotion]
  refine (hpublish hnone).mono fun r _ v' hr => ?_
  rcases r with e | publication
  · exact hr
  obtain ⟨hclock, hrecord⟩ := hr
  simp only [Except.either_ok, Proc.ensures_expand_pure, PromotionSettings.ensures_utcnow]
  refine ⟨hclock, PromotionSettings.ensures_stamped settings (hrecord.mono fun r' u w' hr' => ?_)⟩
  cases r' with
  | ok stored => exact hr'
  | error e => exact hr'

/-- What is recorded already is returned, and no command is run. -/
theorem ensures_promote_recorded (hsite : site.Promotes) {state : RunState}
    (hrow : w.row actionId = some state) (hstate : state.Promotable)
    (hrecords : state.Records (site.publication number url false)) (title body : String) :
    (settings.promote actionId title body).Ensures (Handler.both (outside env R) k)
      (fun c x => c = .inl (OutsideCall.store (.get actionId)) ∧ x = (w, v))
      (fun r _ x => r = .ok (site.publication number url false) ∧ x = (w, v)) () (w, v) := by
  have hpromotion : HasPromotion state := Or.inl (by rw [hrecords.commitSha]; rfl)
  refine ensures_promote_promotable env hsite hrow hstate ⟨rfl, rfl⟩ (fun _ => ⟨?_, rfl⟩)
    fun hnone => absurd hpromotion hnone
  obtain ⟨finishedAt, hfinished⟩ := Option.ne_none_iff_exists'.mp hrecords.finishedAt
  rw [recordedPromotion, hrecords.commitSha, hrecords.number, hrecords.url, hrecords.baseBranch,
    hrecords.headBranch, hfinished]
  simp [PromotionSettings.configuration, GitSite.publication]

/-- A promotion goes on from what attempts left behind, and leaves it so that another one can. It
fails only where commands can. -/
theorem ensures_promote_underway {faults : Prop} (env : Environment)
    (hM : site.machine.Follows faults (k.restrict site.host) view) (hsite : site.Promotes)
    (hlists : site.Lists number url) (hx : Underway site number url view (w, v))
    (title body : String) :
    (settings.promote actionId title body).Ensures (Handler.both (outside env R) k)
      (fun _ x => Underway site number url view x)
      (fun r _ x => Underway site number url view x ∧
        ((∃ created, r = .ok (site.publication number url created) ∧
            ∃ state, x.1.row actionId = some state ∧ state.Promotable ∧
              state.Records (site.publication number url false) ∧ site.Published (view x.2)) ∨
          faults ∧ r.raised = true)) () (w, v) := by
  obtain ⟨state, hrow, hstate, ⟨hnone, hv⟩ | ⟨hrecords, hv⟩⟩ := id hx
  · refine ensures_promote_promotable env hsite hrow hstate hx (fun hpromotion => absurd hpromotion hnone)
      fun _ => ?_
    obtain ⟨created, s', hpublish, hs'⟩ := GitSite.yields_publish hM hsite hlists hv title body
    have hunrecorded : ∀ (w' : World R) v', w'.row = w.row → site.Promoting (view v') →
        Underway site number url view (w', v') := fun w' v' hw' hv' =>
      ⟨state, (congrFun hw' actionId).trans hrow, hstate, Or.inl ⟨hnone, hv'⟩⟩
    refine Prog.Always.mono (hpublish v rfl) (fun _ v' => hunrecorded w v' rfl) ?_
    rintro ⟨r, u⟩ v' (⟨rfl, hv'⟩ | ⟨hfaults, hraised, hv'⟩)
    · -- everything is published, and the row is what remains
      have hpublished : site.Published (view v') := hv' ▸ hs'
      have hbefore := fun w' hw' => hunrecorded w' v' hw' (Or.inr hpublished.toCommitted)
      refine ⟨hbefore w rfl, ?_⟩
      refine Repository.ensures_stamped_of_ok (fun _ => rfl) (hbefore w.tick rfl)
        (fun _ w' hw' => hbefore w' hw') (fun _ => hlists.number)
        (fun now => recordPromotion_eq_ok_iff.mpr ⟨state, hrow, rfl⟩) fun now w' hw' => ?_
      have hrecords := state.records_promoted (site.publication number url false) actionId
        (env.clock w.ticks) now
      have hpromotable := hstate.promoted ((site.publication number url false).record actionId
        (env.clock w.ticks)) now
      exact ⟨⟨_, hw'.row_self, hpromotable, Or.inr ⟨hrecords, hpublished⟩⟩,
        Or.inl ⟨created, rfl, _, hw'.row_self, hpromotable, hrecords, hpublished⟩⟩
    · cases r with
      | ok publication => cases hraised
      | error e => exact ⟨hunrecorded w v' rfl hv', Or.inr ⟨hfaults, rfl⟩⟩
  · refine Prog.Always.mono (ensures_promote_recorded hsite hrow hstate hrecords title body) ?_ ?_
    · rintro c x ⟨-, rfl⟩
      exact hx
    · rintro ⟨r, u⟩ x ⟨rfl, rfl⟩
      exact ⟨hx, Or.inl ⟨false, rfl, state, hrow, hstate, hrecords, hv⟩⟩

end Promotion

/-! ### Promoting in the end -/

section Attempts

variable [PyJson] {settings : PromotionSettings} {actionId : UUID}
  {site : GitSite settings actionId} {number : Int} {url : String} {R : RunRepository} {V : Type}
  {view : V → SiteState} {x : World R × V} {attempt : PromotionAttempt V}

/-- Wherever an attempt is stopped, and whichever commands fail. -/
theorem Underway.step (hsite : site.Promotes) (hlists : site.Lists number url)
    (hattempt : site.machine.Follows True (attempt.host.restrict site.host) view)
    (hx : Underway site number url view x) :
    Underway site number url view (promotionAttempt settings actionId x attempt) := by
  have hpromote := ensures_promote_underway attempt.env hattempt hsite hlists hx
    attempt.title attempt.body
  rw [promotionAttempt]
  cases attempt.stop with
  | some n => exact Prog.Always.interrupt_of hpromote (fun _ _ hcall => hcall) (fun _ _ hend => hend.1) n
  | none => exact hpromote.run.1

theorem underway_after (hsite : site.Promotes) (hlists : site.Lists number url)
    {attempts : List (PromotionAttempt V)}
    (hattempts : ∀ attempt ∈ attempts,
      site.machine.Follows True (attempt.host.restrict site.host) view)
    (hx : Underway site number url view x) :
    Underway site number url view (Run.after (promotionAttempt settings actionId) x attempts) := by
  have hrun : Run.Along (promotionAttempt settings actionId)
      (fun _ attempt => site.machine.Follows True (attempt.host.restrict site.host) view) x
        attempts :=
    Run.along_of_forall (fun attempt hmem _ => hattempts attempt hmem) x
  exact hrun.invariant (fun x attempt hattempt hx => hx.step hsite hlists hattempt) hx

omit [PyJson] in
/-- What attempts leave behind has one commit and one pull request at most. -/
theorem Underway.single (hx : Underway site number url view x) :
    site.Single (site.sha 0) (view x.2) := by
  have hcommitted : ∀ {s : SiteState}, site.Committed s → site.Single (site.sha 0) s := fun hs => {
    commits := hs.commits.le
    head _ := by rw [hs.commits]; rfl
    pushed := hs.pushed
    pullRequests := hs.pullRequests }
  obtain ⟨state, -, -, ⟨-, hs | hs⟩ | ⟨-, hs⟩⟩ := hx
  · exact {
      commits := hs.commits.le.trans (Nat.zero_le 1)
      head hne := absurd hs.commits hne
      pushed := by simp [hs.pushed]
      pullRequests := hs.pullRequests.le.trans (Nat.zero_le 1) }
  · exact hcommitted hs
  · exact hcommitted hs.toCommitted

/-- Whatever an attempt returns, it is about the same commit. -/
theorem Underway.commitSha_eq (hsite : site.Promotes) (hlists : site.Lists number url)
    (hattempt : site.machine.Follows True (attempt.host.restrict site.host) view)
    (hx : Underway site number url view x) {publication : PromotionPublication}
    (h : (attempt.complete settings actionId x).1.1 = .ok publication) :
    publication.commitSha = site.sha 0 := by
  obtain ⟨-, ⟨created, hok, -⟩ | ⟨-, hraised⟩⟩ := (ensures_promote_underway attempt.env
    hattempt hsite hlists hx attempt.title attempt.body).run
  · obtain rfl := Except.ok.inj (hok.symm.trans h)
    rfl
  · rw [PromotionAttempt.complete] at h
    rw [h] at hraised
    cases hraised

/-- However often a promotion was cut short, by the end of the process or by commands that failed
before or after they took effect, the next one with all commands succeeding completes it, with the
commit of all attempts and with one pull request, and a further one only returns what was
recorded. -/
theorem promotion_completes (settings : PromotionSettings) (actionId : UUID)
    (site : GitSite settings actionId) (number : Int) (url : String) (hsite : site.Promotes)
    (hlists : site.Lists number url) {R : RunRepository} {V : Type} (view : V → SiteState)
    (attempts : List (PromotionAttempt V)) (final : PromotionAttempt V) (w : World R) (v : V)
    (hrow : ∃ state, w.row actionId = some state ∧ state.Promotable ∧ ¬HasPromotion state)
    (hv : (view v).Uncommitted)
    (hattempts : ∀ attempt ∈ attempts,
      site.machine.Follows True (attempt.host.restrict site.host) view)
    (hfinal : site.machine.Follows False (final.host.restrict site.host) view) :
    ∃ publication x,
      final.complete settings actionId
        (Run.after (promotionAttempt settings actionId) (w, v) attempts) =
          ((.ok publication, ()), x) ∧
      Promoted site view publication x ∧
      (∀ before after, attempts = before ++ after →
        site.Single publication.commitSha
          (view (Run.after (promotionAttempt settings actionId) (w, v) before).2)) ∧
      (∀ before attempt after, attempts = before ++ attempt :: after → ∀ earlier,
        (attempt.complete settings actionId
          (Run.after (promotionAttempt settings actionId) (w, v) before)).1.1 = .ok earlier →
        earlier.commitSha = publication.commitSha) ∧
      ∀ (env : Environment) {V' : Type} (k : Handler Host V') (v' : V') (title body : String),
        (settings.promote actionId title body).Ensures (Handler.both (outside env R) k)
          (fun c _ => ∀ command, c ≠ .inr command)
          (fun r _ _ => r = .ok { publication with created := false }) () (x.1, v') := by
  obtain ⟨row, hkept, hstate, hnone⟩ := hrow
  have hstart : Underway site number url view (w, v) := ⟨row, hkept, hstate, Or.inl ⟨hnone, Or.inl hv⟩⟩
  have hrun := (ensures_promote_underway final.env hfinal hsite hlists
    (underway_after hsite hlists hattempts hstart) final.title final.body).run
  rcases hcomplete : final.complete settings actionId
    (Run.after (promotionAttempt settings actionId) (w, v) attempts) with ⟨⟨r, u⟩, x⟩
  rw [PromotionAttempt.complete] at hcomplete
  rw [hcomplete] at hrun
  obtain ⟨hend, ⟨created, rfl, state, hrow, hpromotable, hrecords, hpublished⟩ | ⟨hfalse, -⟩⟩ := hrun
  swap
  · exact hfalse.elim
  refine ⟨site.publication number url created, x, rfl, ?_, ?_, ?_, ?_⟩
  · exact { hend.single with
      commit := hpublished.commits
      row := ⟨state, hrow, hrecords.of_created created⟩ }
  · rintro before after rfl
    have hbefore := underway_after hsite hlists
      (fun attempt hmem => hattempts attempt (List.mem_append_left after hmem)) hstart
    exact hbefore.single
  · rintro before attempt after rfl earlier hearlier
    have hbefore := underway_after hsite hlists
      (fun attempt hmem => hattempts attempt (List.mem_append_left _ hmem)) hstart
    exact hbefore.commitSha_eq hsite hlists (hattempts attempt (by simp)) hearlier
  · intro env V' k v' title body
    refine Prog.Always.mono (ensures_promote_recorded hsite hrow hpromotable hrecords title body)
      ?_ fun r _ hr => hr.1
    rintro c _ ⟨rfl, -⟩ command hcommand
    cases hcommand

/-- A kept work product without changes is refused, though no command fails. -/
theorem not_complete_without_changes {final : PromotionAttempt V}
    (hfinal : site.machine.Follows False (final.host.restrict site.host) view)
    (hsite : site.Promotes)
    (hrow : ∃ state, x.1.row actionId = some state ∧ state.Promotable ∧ ¬HasPromotion state)
    (hs : (view x.2).Unpromoted) (hclean : ¬((view x.2).changes = true ∨ (view x.2).staged = true)) :
    ¬∃ publication, (final.complete settings actionId x).1.1 = .ok publication := by
  rintro ⟨publication, hpublication⟩
  obtain ⟨w, v⟩ := x
  obtain ⟨state, hrow, hstate, hnone⟩ := hrow
  have hraises := GitSite.raises_publish hfinal hsite hs hclean final.title final.body
  have hraised := Proc.Ensures.run (ensures_promote_promotable final.env (P := fun _ _ => True)
    (Q := fun r _ _ => r.raised = true) hsite hrow hstate trivial
    (fun hpromotion => absurd hpromotion hnone) fun _ => (hraises v rfl).mono fun r _ _ hr => by
      obtain ⟨e, rfl, -⟩ := hr
      rfl)
  rw [PromotionAttempt.complete] at hpublication
  rw [hpublication] at hraised
  cases hraised

end Attempts

/-! ### A work product without changes -/

section Sample

open GitSite (distinguishable_sample follows_handler sampleWorktree)

/-- A kept work product that is not promoted. -/
def RunState.keptSample : RunState :=
  { RunState.promotedSample with
    promotionCommitSha := none
    pullRequestNumber := none
    pullRequestUrl := none
    promotionBaseBranch := none
    promotionHeadBranch := none
    promotionFinishedAt := none }

theorem promotable_keptSample :
    ∃ state, (World.ofRow .keptSample).row 0 = some state ∧ state.Promotable ∧
      ¬HasPromotion state := by
  refine ⟨.keptSample, ?_, ⟨by decide, rfl, by simp [RunState.keptSample, RunState.promotedSample],
    rfl, rfl, rfl, rfl, rfl⟩, by decide⟩
  rw [World.row_ofRow]
  rfl

/-- The worktree of a kept work product, with or without changes. -/
def SiteState.kept (changes : Bool) : SiteState where
  directory := true
  checkout := true
  registered := true
  branch := true
  commits := 0
  changes

theorem unpromoted_kept (changes : Bool) : (SiteState.kept changes).Unpromoted where
  inPlace := ⟨rfl, rfl, rfl⟩
  branch := rfl
  canonicalClean := rfl
  commits := rfl
  pushed := rfl
  pullRequests := rfl

/-- What `gh pr list` prints for the pull request of the work product. -/
def samplePullRequests : String :=
  "[\x7b\"baseRefName\":\"main\",\"headRefName\":\"" ++ sampleWorktree.branch ++
    "\",\"number\":7,\"url\":\"https://host/7\"\x7d]\n"

/-- `json.loads` on what is printed here. -/
abbrev PyJson.sample : PyJson where
  loads text :=
    if text = "[]\n" then .ok (.list [])
    else if text = samplePullRequests then
      .ok (.list [.dict [("baseRefName", .str "main"), ("headRefName", .str sampleWorktree.branch),
        ("number", .int 7), ("url", .str "https://host/7")]])
    else .error ⟨jsonDecodeError, "Expecting value"⟩

/-- The sample repository, with the pull requests of the work product. -/
def GitSite.promoting : GitSite PromotionSettings.sample 0 :=
  { GitSite.sample with
    pullRequestListing := fun n => if n = 0 then "[]\n" else samplePullRequests }

theorem GitSite.distinguishable_promoting : GitSite.promoting.Distinguishable :=
  ⟨distinguishable_sample.head, distinguishable_sample.parent, distinguishable_sample.range,
    distinguishable_sample.base⟩

theorem GitSite.promotes_promoting : GitSite.promoting.Promotes where
  enabled := rfl
  available := rfl
  remote := by decide
  baseBranch := by decide
  onBase := Python.strip_append_newline (Python.isWord_of_all (by decide) rfl)
  remoteBase := by
    have hword : Python.IsWord "c0ffee" := Python.isWord_of_all (by decide) rfl
    have htext : "c0ffee\trefs/heads/main\n" =
        "c0ffee" ++ String.ofList ('\t' :: "refs/heads/main\n".toList) := by decide
    show (Python.split "c0ffee\trefs/heads/main\n").head? = some "c0ffee"
    rw [htext]
    exact Python.head_split_append hword rfl

theorem GitSite.lists_promoting :
    letI := PyJson.sample
    GitSite.promoting.Lists 7 "https://host/7" := by
  let _ := PyJson.sample
  have hne : samplePullRequests ≠ "[]\n" := by decide
  refine ⟨if_pos rfl, ⟨_, (if_neg hne).trans (if_pos rfl), ?_, rfl, rfl, rfl⟩, by norm_num, by decide⟩
  rw [GitSite.worktree, GitSite.expectedWorktree_sample]
  rfl

/-- With all commands succeeding. -/
def PromotionAttempt.ofSite {settings : PromotionSettings} {actionId : UUID}
    (site : GitSite settings actionId) (stop : Option ℕ) : PromotionAttempt SiteState where
  env := .cooperative
  host := site.handler
  title := "title"
  body := "body"
  stop

/-- A kept work product without changes is not promoted, though no command fails. -/
theorem not_promotes_without_changes :
    letI := PyJson.sample
    ¬∀ (site : GitSite PromotionSettings.sample 0) (final : PromotionAttempt SiteState)
      (w : World inMemoryRunRepository) (s : SiteState), site.Promotes →
      (∃ state, w.row 0 = some state ∧ state.Promotable ∧ ¬HasPromotion state) → s.Unpromoted →
      site.machine.Follows False (final.host.restrict site.host) id →
      ∃ publication, (final.complete PromotionSettings.sample 0 (w, s)).1.1 = .ok publication := by
  intro hclaim
  have hfollows : GitSite.promoting.machine.Follows False
      ((PromotionAttempt.ofSite GitSite.promoting none).host.restrict GitSite.promoting.host) id :=
    follows_handler GitSite.distinguishable_promoting False
  have hclean : ¬((SiteState.kept false).changes = true ∨ (SiteState.kept false).staged = true) := by
    simp [SiteState.kept]
  have hrefused := @not_complete_without_changes PyJson.sample _ _ _ _ _ _
    (World.ofRow .keptSample, SiteState.kept false) _ hfollows GitSite.promotes_promoting
    promotable_keptSample (unpromoted_kept false) hclean
  exact hrefused (hclaim GitSite.promoting (.ofSite GitSite.promoting none) (.ofRow .keptSample)
    (.kept false) GitSite.promotes_promoting promotable_keptSample (unpromoted_kept false) hfollows)

/-- A promotion that is stopped after the commit is completed by the next. -/
theorem promoted_after_stopped_attempt :
    letI := PyJson.sample
    ∃ publication x,
      (PromotionAttempt.ofSite GitSite.promoting none).complete PromotionSettings.sample 0
        (Run.after (promotionAttempt PromotionSettings.sample 0)
          (World.ofRow .keptSample, SiteState.kept true) [.ofSite GitSite.promoting (some 31)]) =
        ((.ok publication, ()), x) ∧
      Promoted GitSite.promoting id publication x := by
  let _ := PyJson.sample
  have hattempts : ∀ attempt ∈ [PromotionAttempt.ofSite GitSite.promoting (some 31)],
      GitSite.promoting.machine.Follows True (attempt.host.restrict GitSite.promoting.host) id := by
    intro attempt hattempt
    obtain rfl := List.mem_singleton.mp hattempt
    exact follows_handler GitSite.distinguishable_promoting True
  obtain ⟨publication, x, hcomplete, hpromoted, -⟩ := promotion_completes PromotionSettings.sample 0
    GitSite.promoting 7 "https://host/7" GitSite.promotes_promoting GitSite.lists_promoting id
    [.ofSite GitSite.promoting (some 31)] (.ofSite GitSite.promoting none) (World.ofRow .keptSample)
    (.kept true) promotable_keptSample ⟨unpromoted_kept true, Or.inl rfl⟩ hattempts
    (follows_handler GitSite.distinguishable_promoting False)
  exact ⟨publication, x, hcomplete, hpromoted⟩

end Sample

end Velox
