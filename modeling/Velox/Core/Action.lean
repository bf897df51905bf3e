import Velox.Core.Error
import Velox.Python.Time

/-!
# Actions, the queue and the action lifecycle

An action says what is to be done and by which executor role. Its status is kept
apart from it, in a lifecycle state that moves along a fixed set of transitions.

The timestamps of actions and lifecycle states are left out: nothing reads them.

## Main definitions

* `Action`, `ExecutorRole`
* `ActionQueue` — the process-local FIFO queue
* `ActionLifecycleState`, `ActionLifecycleManager.transition`

## Main results

* `ActionLifecycleManager.transition_eq_ok_iff` — what a transition can do
* `ActionQueue.perm_cons_remove` — removing an action takes exactly that one out
-/

set_option autoImplicit false

namespace Velox

/-! ### Actions -/

/-- The vendor-neutral worker executor roles. -/
inductive ExecutorRole
  | contentReview
  | contentSummary
  | contextPreparation
  | softwareEngineering
  deriving DecidableEq

/-- The text of a role. -/
def ExecutorRole.value : ExecutorRole → String
  | .contentReview => "content_review"
  | .contentSummary => "content_summary"
  | .contextPreparation => "context_preparation"
  | .softwareEngineering => "software_engineering"

/-- The canonical capability of coding workers. -/
def SOFTWARE_ENGINEERING_IMPLEMENT_CAPABILITY : String := "code.implement"

/-- An action proposed or tracked by the server. A role is known by its text, as
a `StrEnum` member equals its value. -/
structure Action where
  id : UUID
  type : String
  target : String
  payload : Dict := ∅
  executorRole : Option String := none
  metadata : Dict := ∅

/-! ### The action queue -/

/-- The process-local FIFO queue. -/
abbrev ActionQueue := List Action

namespace ActionQueue

variable {q : ActionQueue} {action : Action} {id : UUID}

/-- Add one action to the queue. -/
def enqueue (q : ActionQueue) (action : Action) : ActionQueue := q ++ [action]

/-- Add several actions in order. -/
def enqueueMany (q : ActionQueue) (actions : List Action) : ActionQueue :=
  actions.foldl enqueue q

/-- A queued action with the given id. -/
def get (q : ActionQueue) (id : UUID) : Option Action := q.find? fun action => action.id = id

/-- Remove the first action with the given id. -/
def remove (q : ActionQueue) (id : UUID) : Option Action × ActionQueue :=
  (get q id, q.eraseP fun action => action.id = id)

/-- How many queued actions have the given id. -/
def occurrences (q : ActionQueue) (id : UUID) : ℕ := q.countP fun action => action.id = id

theorem enqueueMany_eq (q : ActionQueue) (actions : List Action) :
    enqueueMany q actions = q ++ actions := by
  induction actions generalizing q with
  | nil => simp [enqueueMany]
  | cons action actions ih =>
    rw [enqueueMany, List.foldl_cons, ← enqueueMany, ih]
    simp [enqueue]

@[simp] theorem occurrences_nil : occurrences [] id = 0 := rfl

@[simp] theorem occurrences_cons :
    occurrences (action :: q) id = occurrences q id + if action.id = id then 1 else 0 := by
  simp [occurrences, List.countP_cons]

@[simp] theorem occurrences_append (q q' : List Action) :
    occurrences (q ++ q') id = occurrences q id + occurrences q' id := by
  simp [occurrences]

@[simp] theorem occurrences_enqueue :
    occurrences (enqueue q action) id = occurrences q id + if action.id = id then 1 else 0 := by
  simp [enqueue]

theorem occurrences_pos_iff : 0 < occurrences q id ↔ ∃ action ∈ q, action.id = id := by
  simp [occurrences]

theorem get_eq_none_iff : get q id = none ↔ occurrences q id = 0 := by
  simp [get, occurrences]

theorem id_of_get (h : get q id = some action) : action.id = id := by
  simpa using List.find?_some h

theorem mem_of_get (h : get q id = some action) : action ∈ q := List.mem_of_find?_eq_some h

theorem get_enqueue (h : get q id = none) (hid : action.id = id) :
    get (enqueue q action) id = some action := by
  rw [get] at h
  rw [get, enqueue, List.find?_append, h]
  simp [hid]

/-- Removing a queued action takes exactly that one out. -/
theorem perm_cons_remove (h : get q id = some action) : q.Perm (action :: (remove q id).2) := by
  induction q with
  | nil => simp [get] at h
  | cons a q ih =>
    by_cases ha : a.id = id
    · obtain rfl : a = action := by simpa [get, ha] using h
      simp [remove, ha]
    · have hget : get q id = some action := by simpa [get, ha] using h
      have herase : (remove (a :: q) id).2 = a :: (remove q id).2 := by simp [remove, ha]
      rw [herase]
      exact ((ih hget).cons a).trans (.swap ..)

theorem occurrences_remove (h : get q id = some action) (id' : UUID) :
    occurrences q id' = occurrences (remove q id).2 id' + if action.id = id' then 1 else 0 := by
  rw [← occurrences_cons]
  exact (perm_cons_remove h).countP_eq _

theorem mem_of_mem_remove {a : Action} (h : a ∈ (remove q id).2) : a ∈ q :=
  List.mem_of_mem_eraseP h

end ActionQueue

/-! ### The action lifecycle -/

/-- The lifecycle statuses of an action. -/
inductive ActionStatus
  | planned
  | queued
  | approved
  | rejected
  | executing
  | completed
  | skipped
  | failed
  deriving DecidableEq

/-- The text of a status. -/
def ActionStatus.value : ActionStatus → String
  | .planned => "planned"
  | .queued => "queued"
  | .approved => "approved"
  | .rejected => "rejected"
  | .executing => "executing"
  | .completed => "completed"
  | .skipped => "skipped"
  | .failed => "failed"

/-- `normalize_blank_reason`: a blank reason is no reason. -/
def normalizeBlankReason (reason : Option String) : Option String :=
  reason.filter fun r => Python.strip r ≠ ""

/-- The lifecycle state of an action. -/
structure ActionLifecycleState where
  status : ActionStatus := .planned
  reason : Option String := none
  metadata : Dict := ∅

/-- `bool(metadata.get("approval_required"))`. -/
def ActionLifecycleState.approvalRequired (state : ActionLifecycleState) : Bool :=
  ((state.metadata.get "approval_required").map Value.truthy).getD false

/-- A lifecycle state that still awaits explicit approval. -/
def ActionLifecycleState.AwaitsApproval (state : ActionLifecycleState) : Prop :=
  state.status = .queued ∧ state.approvalRequired

instance (state : ActionLifecycleState) : Decidable state.AwaitsApproval :=
  inferInstanceAs (Decidable (_ ∧ _))

namespace ActionLifecycleManager

/-- The transitions an action may make. -/
def validTransitions : List (ActionStatus × ActionStatus) :=
  [(.planned, .queued), (.queued, .approved), (.queued, .rejected), (.approved, .executing),
    (.executing, .completed), (.executing, .skipped), (.executing, .failed),
    -- a transiently failed action may be queued again
    (.failed, .queued)]

/-- The statuses that may carry a reason. -/
def reasonStatuses : List ActionStatus := [.failed, .rejected, .skipped]

/-- The lifecycle state after a valid transition. -/
def transition (state : ActionLifecycleState) (status : ActionStatus)
    (reason : Option String := none) (metadata : List (String × Value) := []) :
    Except Raised ActionLifecycleState :=
  if (state.status, status) ∉ validTransitions then
    throw ⟨.valueError,
      "invalid action lifecycle transition: " ++ state.status.value ++ " -> " ++ status.value⟩
  else if reason.isSome ∧ status ∉ reasonStatuses then
    throw ⟨.valueError, "reason may only be supplied for failed, rejected or skipped actions"⟩
  else
    return { status, reason := normalizeBlankReason reason, metadata := state.metadata.update metadata }

variable {state state' : ActionLifecycleState} {status : ActionStatus} {reason : Option String}
  {metadata : List (String × Value)}

/-- A transition succeeds exactly along the valid ones, and then only the status,
the reason and the added metadata change. -/
theorem transition_eq_ok_iff :
    transition state status reason metadata = .ok state' ↔
      (state.status, status) ∈ validTransitions ∧ (reason.isSome → status ∈ reasonStatuses) ∧
        state' = { status, reason := normalizeBlankReason reason,
                   metadata := state.metadata.update metadata } := by
  unfold transition
  by_cases hvalid : (state.status, status) ∈ validTransitions
  · by_cases hreason : reason.isSome ∧ status ∉ reasonStatuses
    · simp only [hvalid, not_true_eq_false, hreason.1, hreason.2, not_false_eq_true, and_self,
        if_true, if_false, true_and, forall_const, false_and, iff_false]
      exact fun h => nomatch h
    · simp only [hvalid, hreason, not_true_eq_false, if_false, true_and]
      refine ⟨fun h => ⟨?_, (Except.ok.inj h).symm⟩, fun h => congrArg Except.ok h.2.symm⟩
      simpa using hreason
  · simp only [hvalid, not_false_eq_true, if_true, false_and, iff_false]
    exact fun h => nomatch h

theorem transition_eq_ok (hvalid : (state.status, status) ∈ validTransitions)
    (hreason : reason.isSome → status ∈ reasonStatuses) :
    transition state status reason metadata =
      .ok { status, reason := normalizeBlankReason reason,
            metadata := state.metadata.update metadata } :=
  transition_eq_ok_iff.mpr ⟨hvalid, hreason, rfl⟩

theorem status_of_transition (h : transition state status reason metadata = .ok state') :
    state'.status = status := by
  rw [(transition_eq_ok_iff.mp h).2.2]

end ActionLifecycleManager

end Velox
