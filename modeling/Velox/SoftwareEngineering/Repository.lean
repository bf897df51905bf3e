import Velox.Lib.Effect
import Velox.SoftwareEngineering.RunState
import Mathlib.Logic.Function.Basic

/-!
# The run repository Role

The persistence Role for run evidence: its calls, what every implementation of
it promises about the row of each action, and the process-local implementation.

## Main definitions

* `RunCall`, `RunSignature` — the calls of the Role and their replies
* `RunRepository` — an implementation together with what it promises
* `InMemoryRunRepository` — the process-local implementation

## Main results

* `RunRepository.handle_write_of_portable` — on portable calls every
  implementation does exactly what the row operation says
* `inMemoryRunRepository` — the process-local implementation keeps the promises
-/

set_option autoImplicit false

namespace Velox

/-- The calls of the run repository. -/
inductive RunCall
  | get (actionId : UUID)
  | listPendingApproval
  | claimApproved (claimedAt : DateTime) (claimId actionId : UUID)
  | write (write : RunWrite)
  deriving DecidableEq

/-- What a call returns when it does not raise. -/
@[reducible] def RunCall.Value : RunCall → Type
  | .get _ => Option RunState
  | .listPendingApproval => List RunState
  | .claimApproved .. => ActionClaim
  | .write _ => RunState

/-- The calls of the run repository with their replies. -/
abbrev RunSignature : Signature where
  Call := RunCall
  Reply c := Except Raised c.Value

/-- Rows that wait for approval and show no sign of execution. -/
def RunState.PendingApproval (state : RunState) : Prop :=
  state.approvalStatus = some .awaitingApproval ∧ state.claimId = none ∧
    state.executionStatus = none

instance (state : RunState) : Decidable state.PendingApproval := inferInstanceAs (Decidable (_ ∧ _))

/-- The operations all implementations agree on: a claim is released on an
approved row, and a pull request number fits a signed 64-bit integer. -/
def RunWrite.Portable : RunWrite → Option RunState → Prop
  | .releaseUnstartedClaim .., current =>
    ∀ row, current = some row → row.claimId ≠ none → row.approvalStatus = some .approved
  | .recordPromotion _ promotion, _ =>
    -2 ^ 63 ≤ promotion.pullRequestNumber ∧ promotion.pullRequestNumber < 2 ^ 63
  | _, _ => True

/-- An implementation of the run repository, seen through the row of each action. -/
structure RunRepository where
  State : Type
  initial : State
  handle : Handler RunSignature State
  row : State → UUID → Option RunState
  row_initial : ∀ id, row initial id = none
  actionId_of_row : ∀ {s id state}, row s id = some state → state.actionId = id
  handle_get : ∀ id s, handle (.get id) s = (.ok (row s id), s)
  handle_list : ∀ s, row (handle .listPendingApproval s).2 = row s ∧
    ∃ states : List RunState, (handle .listPendingApproval s).1 = .ok states ∧
      ∀ state ∈ states, state.PendingApproval ∧ row s state.actionId = some state
  handle_claim_ok : ∀ {t claimId id s claim}, (handle (.claimApproved t claimId id) s).1 = .ok claim →
    ∃ state, claimApproved t claimId (row s id) = .ok (claim, state) ∧
      row (handle (.claimApproved t claimId id) s).2 = Function.update (row s) id (some state)
  handle_claim_error : ∀ {t claimId id s e}, (handle (.claimApproved t claimId id) s).1 = .error e →
    row (handle (.claimApproved t claimId id) s).2 = row s ∧
      e.kind = .softwareEngineeringRunStateError ∧
      ∃ e', claimApproved t claimId (row s id) = .error e'
  handle_write_ok : ∀ {w s state}, (handle (.write w) s).1 = .ok state →
    w.apply (row s w.actionId) = .ok state ∧
      row (handle (.write w) s).2 = Function.update (row s) w.actionId (some state)
  handle_write_error : ∀ {w s e}, (handle (.write w) s).1 = .error e →
    row (handle (.write w) s).2 = row s ∧ e.isException ∧
      (¬w.Portable (row s w.actionId) ∨
        e.kind = .softwareEngineeringRunStateError ∧
          ∃ e', w.apply (row s w.actionId) = .error e')

namespace RunRepository

variable {R : RunRepository} {s : R.State}

/-- On a portable operation that the row permits, every implementation succeeds. -/
theorem handle_write_of_portable {w : RunWrite} {state : RunState}
    (hportable : w.Portable (R.row s w.actionId))
    (happly : w.apply (R.row s w.actionId) = .ok state) :
    (R.handle (.write w) s).1 = .ok state ∧
      R.row (R.handle (.write w) s).2 = Function.update (R.row s) w.actionId (some state) := by
  rcases hreply : (R.handle (.write w) s).1 with e | state'
  · obtain ⟨-, -, hnot | ⟨-, e', he'⟩⟩ := R.handle_write_error hreply
    · exact absurd hportable hnot
    · rw [happly] at he'
      cases he'
  · obtain ⟨happly', hrow⟩ := R.handle_write_ok hreply
    obtain rfl : state = state' := Except.ok.inj (happly.symm.trans happly')
    exact ⟨rfl, hrow⟩

/-- A claim that the row permits succeeds in every implementation. -/
theorem handle_claim_of_ok {t : DateTime} {claimId id : UUID} {claim : ActionClaim}
    {state : RunState} (hclaim : claimApproved t claimId (R.row s id) = .ok (claim, state)) :
    (R.handle (.claimApproved t claimId id) s).1 = .ok claim ∧
      R.row (R.handle (.claimApproved t claimId id) s).2 =
        Function.update (R.row s) id (some state) := by
  rcases hreply : (R.handle (.claimApproved t claimId id) s).1 with e | claim'
  · obtain ⟨-, -, e', he'⟩ := R.handle_claim_error hreply
    rw [hclaim] at he'
    cases he'
  · obtain ⟨state', hclaim', hrow⟩ := R.handle_claim_ok hreply
    obtain ⟨rfl, rfl⟩ := Prod.mk.inj (Except.ok.inj (hclaim.symm.trans hclaim'))
    exact ⟨rfl, hrow⟩

theorem update_invariant {I : RunState → Prop} {rows : UUID → Option RunState} {id : UUID}
    {state : RunState} (h : ∀ id' row, rows id' = some row → I row) (hstate : I state) :
    ∀ id' row, Function.update rows id (some state) id' = some row → I row := by
  intro id' row hrow
  by_cases hid : id' = id
  · subst hid
    rw [Function.update_self] at hrow
    exact Option.some.inj hrow ▸ hstate
  · rw [Function.update_of_ne hid] at hrow
    exact h id' row hrow

/-- What every operation on a row keeps, every call keeps of every row. -/
theorem row_invariant {I : RunState → Prop}
    (hwrite : ∀ {write : RunWrite} {current : Option RunState} {state : RunState},
      (∀ row, current = some row → I row) → write.apply current = .ok state → I state)
    (hclaim : ∀ {row : RunState} {claimId : UUID} {now : DateTime}, I row →
      I (row.claimed claimId now))
    {call : RunCall} (h : ∀ id state, R.row s id = some state → I state) :
    ∀ id state, R.row (R.handle call s).2 id = some state → I state := by
  cases call with
  | get id => rwa [R.handle_get]
  | listPendingApproval => rwa [(R.handle_list s).1]
  | claimApproved t claimId id =>
    rcases hreply : (R.handle (.claimApproved t claimId id) s).1 with e | claim
    · rwa [(R.handle_claim_error hreply).1]
    · obtain ⟨state, hclaimed, hrow⟩ := R.handle_claim_ok hreply
      obtain ⟨row, _, hcurrent, -, -, -, -, -, -, rfl⟩ := claimApproved_eq_ok_iff.mp hclaimed
      rw [hrow]
      exact update_invariant h (hclaim (h id row hcurrent))
  | write write =>
    rcases hreply : (R.handle (.write write) s).1 with e | state
    · rwa [(R.handle_write_error hreply).1]
    · obtain ⟨happly, hrow⟩ := R.handle_write_ok hreply
      rw [hrow]
      exact update_invariant h (hwrite (fun row => h write.actionId row) happly)

end RunRepository

/-! ### The process-local implementation -/

/-- `InMemorySoftwareEngineeringRunRepository`: one state for each action, under
its id. -/
structure InMemoryRunRepository where
  states : OrderedDict UUID RunState := ∅
  identified : ∀ {id state}, states.get id = some state → state.actionId = id

namespace InMemoryRunRepository

variable {repository : InMemoryRunRepository}

/-- The repository without any state. -/
def empty : InMemoryRunRepository := ⟨∅, fun h => nomatch h⟩

/-- Store the state of an action. -/
def store (repository : InMemoryRunRepository) (state : RunState) : InMemoryRunRepository where
  states := repository.states.set state.actionId state
  identified {id state'} h := by
    rw [OrderedDict.get_set] at h
    split_ifs at h with hid
    · obtain rfl := Option.some.inj h
      exact hid.symm
    · exact repository.identified h

/-- The operations of the repository. -/
def handle : (c : RunCall) → InMemoryRunRepository → RunSignature.Reply c × InMemoryRunRepository
  | .get id, repository => (.ok (repository.states.get id), repository)
  | .listPendingApproval, repository =>
    (.ok (repository.states.values.filter RunState.PendingApproval), repository)
  | .claimApproved claimedAt claimId id, repository =>
    match Velox.claimApproved claimedAt claimId (repository.states.get id) with
    | .ok (claim, state) => (.ok claim, repository.store state)
    | .error e => (.error e, repository)
  | .write w, repository =>
    match w.apply (repository.states.get w.actionId) with
    | .ok state => (.ok state, repository.store state)
    | .error e => (.error e, repository)

theorem get_store {state : RunState} :
    (repository.store state).states.get =
      Function.update repository.states.get state.actionId (some state) := by
  funext id
  simp only [store, OrderedDict.get_set, Function.update_apply]

end InMemoryRunRepository

/-- The process-local implementation of the Role. -/
def inMemoryRunRepository : RunRepository where
  State := InMemoryRunRepository
  initial := .empty
  handle := InMemoryRunRepository.handle
  row repository := repository.states.get
  row_initial _ := rfl
  actionId_of_row {repository _ _} h := repository.identified h
  handle_get _ _ := rfl
  handle_list repository := by
    refine ⟨rfl, _, rfl, fun state hstate => ?_⟩
    obtain ⟨hmem, hpending⟩ := List.mem_filter.mp hstate
    obtain ⟨id, hid⟩ := OrderedDict.mem_values_iff.mp hmem
    exact ⟨by simpa using hpending, by rw [repository.identified hid]; exact hid⟩
  handle_claim_ok {t claimId id repository claim} h := by
    simp only [InMemoryRunRepository.handle] at h ⊢
    rcases hclaim : claimApproved t claimId (repository.states.get id) with e | ⟨claim', state⟩
    · rw [hclaim] at h
      cases h
    · rw [hclaim] at h
      obtain rfl := Except.ok.inj h
      obtain ⟨row, _, hrow, -, -, -, -, -, -, rfl⟩ := claimApproved_eq_ok_iff.mp hclaim
      refine ⟨_, rfl, ?_⟩
      rw [InMemoryRunRepository.get_store, ← repository.identified hrow]
      rfl
  handle_claim_error {t claimId id repository e} h := by
    simp only [InMemoryRunRepository.handle] at h ⊢
    rcases hclaim : claimApproved t claimId (repository.states.get id) with e' | ⟨claim', state⟩
    · rw [hclaim] at h
      obtain rfl := Except.error.inj h
      exact ⟨rfl, claimApproved_raisesOnly _ _ _ _ hclaim, _, rfl⟩
    · rw [hclaim] at h
      cases h
  handle_write_ok {w repository state} h := by
    simp only [InMemoryRunRepository.handle] at h ⊢
    rcases happly : w.apply (repository.states.get w.actionId) with e | state'
    · rw [happly] at h
      cases h
    · rw [happly] at h
      obtain rfl := Except.ok.inj h
      have hid : state'.actionId = w.actionId :=
        w.actionId_of_apply (fun _ => repository.identified) happly
      refine ⟨rfl, ?_⟩
      rw [InMemoryRunRepository.get_store, hid]
  handle_write_error {w repository e} h := by
    simp only [InMemoryRunRepository.handle] at h ⊢
    rcases happly : w.apply (repository.states.get w.actionId) with e' | state'
    · rw [happly] at h
      obtain rfl := Except.error.inj h
      have hkind : IsRunStateError e' := w.apply_raisesOnly _ _ happly
      exact ⟨rfl, by simp [Raised.isException, hkind], Or.inr ⟨hkind, _, rfl⟩⟩
    · rw [happly] at h
      cases h

end Velox
