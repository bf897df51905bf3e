import Velox.Core.Environment

/-!
# Explicit approval

The single transition every approval entrypoint shares. A decision is made about
a held action, or about one that a recovery boundary reconstructs, and is
recorded durably before any local store changes.

## Main definitions

* `PendingActionRecovery`, `ApprovalDecisionRecorder` — the two boundaries
* `approvePendingAction`, `rejectPendingAction`

## Main results

* `ensures_approvePendingAction`, `ensures_rejectPendingAction` — a decision
  changes the local stores only after it has been recorded
-/

set_option autoImplicit false

namespace Velox

/-- Optional recovery boundary for process-local pending approval state. -/
abbrev PendingActionRecovery := UUID → Task (Option Action)

/-- Optional durable recorder invoked before process-local approval mutation. -/
structure ApprovalDecisionRecorder where
  recordApproved : Action → Task Unit
  recordRejected : Action → Task Unit

/-- `PendingActionNotFoundError`. -/
def pendingActionNotFound : Raised :=
  ⟨.pendingActionNotFoundError, "action is not awaiting approval"⟩

/-- `_resolve_pending_action`. -/
def resolvePendingAction (recovery : Option PendingActionRecovery) (actionId : UUID) :
    Service Action := do
  let s ← get
  let action ← match s.pendingApprovals.get actionId, recovery with
    | some action, _ => pure (some action)
    | none, some recovery => Proc.embed (recovery actionId)
    | none, none => pure none
  match action with
  | some action => return action
  | none => throw pendingActionNotFound

/-- The lifecycle state of an action awaiting approval, when none is stored. -/
def awaitingApprovalState : ActionLifecycleState where
  status := .queued
  metadata := .ofList [("approval_required", .bool true)]

/-- Approve one held action and move it to the execution queue. -/
def approvePendingAction (recovery : Option PendingActionRecovery)
    (recorder : Option ApprovalDecisionRecorder) (actionId : UUID) :
    Service ActionLifecycleState := do
  let action ← resolvePendingAction recovery actionId
  let s ← get
  let lifecycleState := (s.lifecycle.get actionId).getD awaitingApprovalState
  let approvedState ← Proc.ofExcept (ActionLifecycleManager.transition lifecycleState .approved)
  match recorder with
  | some recorder => Proc.embed (recorder.recordApproved action)
  | none => pure ()
  modify fun s => s.setLifecycle actionId approvedState
  modify fun s => s.removePending actionId
  modify fun s => s.enqueue action
  return approvedState

/-- Reject one pending action, persisting the decision before local removal. -/
def rejectPendingAction (recovery : Option PendingActionRecovery)
    (recorder : Option ApprovalDecisionRecorder) (actionId : UUID) (reason : String) :
    Service ActionLifecycleState := do
  let action ← resolvePendingAction recovery actionId
  let s ← get
  let lifecycleState := (s.lifecycle.get actionId).getD awaitingApprovalState
  let rejectedState ←
    Proc.ofExcept (ActionLifecycleManager.transition lifecycleState .rejected (some reason))
  match recorder with
  | some recorder => Proc.embed (recorder.recordRejected action)
  | none => pure ()
  modify fun s => s.setLifecycle actionId rejectedState
  modify fun s => s.removePending actionId
  return rejectedState

/-! ### What a decision does -/

section Ensures

variable {W : Type} {h : Handler Outside W} {P : OutsideCall → W → Prop} {s : Stores} {w : W}
  {recovery : PendingActionRecovery} {recorder : ApprovalDecisionRecorder} {actionId : UUID}

/-- A held action is taken as it is; otherwise the recovery boundary is asked. -/
theorem ensures_resolvePendingAction {Q : Except Raised Action → Stores → W → Prop} :
    (resolvePendingAction (some recovery) actionId).Ensures h P Q s w ↔
      match s.pendingApprovals.get actionId with
      | some action => Q (.ok action) s w
      | none => (recovery actionId).Ensures h P (fun r _ w' =>
          r.either (fun found => Q (found.elim (.error pendingActionNotFound) .ok) s w') fun e =>
            Q (.error e) s w') () w := by
  rcases hpending : s.pendingApprovals.get actionId with _ | action
  · simp only [resolvePendingAction, Proc.ensures_bind, Proc.ensures_get, hpending,
      Proc.ensures_embed, Except.either_ok]
    refine Proc.ensures_congr fun r _ w' => ?_
    rcases r with e | _ | action <;> rfl
  · simp [resolvePendingAction, hpending]

/-- Approving: the transition is checked, the decision recorded, and only then is
the action marked approved, released and queued. -/
theorem ensures_approvePendingAction {Q : Except Raised ActionLifecycleState → Stores → W → Prop} :
    (approvePendingAction (some recovery) (some recorder) actionId).Ensures h P Q s w ↔
      (resolvePendingAction (some recovery) actionId).Ensures h P (fun r s w =>
        r.either (fun action =>
          (ActionLifecycleManager.transition
            ((s.lifecycle.get actionId).getD awaitingApprovalState) .approved).either
            (fun approvedState =>
              (recorder.recordApproved action).Ensures h P (fun r _ w =>
                r.either
                  (fun _ => Q (.ok approvedState) (((s.setLifecycle actionId approvedState
                    ).removePending actionId).enqueue action) w)
                  fun e => Q (.error e) s w) () w)
            fun e => Q (.error e) s w)
          fun e => Q (.error e) s w) s w := by
  simp only [approvePendingAction, Proc.ensures_bind, Proc.ensures_get, Proc.ensures_ofExcept,
    Proc.ensures_embed, Proc.ensures_modify, Proc.ensures_pure, Except.either_ok]

/-- Rejecting: the transition is checked, the decision recorded, and only then is
the action marked rejected and released. -/
theorem ensures_rejectPendingAction {reason : String}
    {Q : Except Raised ActionLifecycleState → Stores → W → Prop} :
    (rejectPendingAction (some recovery) (some recorder) actionId reason).Ensures h P Q s w ↔
      (resolvePendingAction (some recovery) actionId).Ensures h P (fun r s w =>
        r.either (fun action =>
          (ActionLifecycleManager.transition
            ((s.lifecycle.get actionId).getD awaitingApprovalState) .rejected (some reason)).either
            (fun rejectedState =>
              (recorder.recordRejected action).Ensures h P (fun r _ w =>
                r.either
                  (fun _ => Q (.ok rejectedState)
                    ((s.setLifecycle actionId rejectedState).removePending actionId) w)
                  fun e => Q (.error e) s w) () w)
            fun e => Q (.error e) s w)
          fun e => Q (.error e) s w) s w := by
  simp only [rejectPendingAction, Proc.ensures_bind, Proc.ensures_get, Proc.ensures_ofExcept,
    Proc.ensures_embed, Proc.ensures_modify, Proc.ensures_pure, Except.either_ok]

end Ensures

end Velox
