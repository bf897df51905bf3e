import Velox.Core.Environment

/-!
# Permission evaluation

Planned actions are evaluated before they are queued. The lifecycle state of an
action is stored, and an action that requires approval is held in the pending
registry.

## Main definitions

* `BasePermissionEngine.evaluate` — the approval-first default engine
* `PermissionEngineRuntime.evaluate` — decide, record and hold planned actions

## Main results

* `PermissionEngineRuntime.resolveLifecycleState_eq` — the state of each decision
* `PermissionEngineRuntime.ensures_evaluateAction` — what evaluating an action does
  to the local stores, including when the decision cannot be serialized
-/

set_option autoImplicit false

namespace Velox

/-- A permission engine: a decision, something that is no decision, or an
exception. -/
abbrev PermissionEngine := Action → Task (Option PermissionDecision)

namespace BasePermissionEngine

/-- The action types that are allowed without approval. -/
def safeActionTypes : List String :=
  ["review_pull_request", "summarize_email", "prepare_meeting", "gmail.read"]

/-- A decision without mutating or executing the action. -/
def evaluate (action : Action) : PermissionDecision :=
  if action.type ∈ safeActionTypes then
    { status := .allowed
      reason := "action type '" ++ action.type ++ "' is on the safe list and is auto-approved" }
  else
    { status := .requiresApproval
      reason := "action type '" ++ action.type ++
        "' is not on the safe list and requires explicit approval" }

/-- The default engine. -/
def engine : PermissionEngine := fun action => pure (some (evaluate action))

end BasePermissionEngine

/-- Permission evaluation result for one planned action. -/
structure PermissionEvaluation where
  action : Action
  decision : PermissionDecision

/-- Whether the action may be queued. -/
def PermissionEvaluation.isAllowed (evaluation : PermissionEvaluation) : Bool :=
  evaluation.decision.status = .allowed

/-- `decision.model_dump(mode="json")`. -/
def PermissionDecision.modelDump (decision : PermissionDecision) : Except Raised Value :=
  match decision.metadata.toJson with
  | some metadata => .ok (.dict [("status", .str decision.status.value),
      ("reason", (decision.reason.map Value.str).getD .none), ("metadata", metadata)])
  | none => .error ⟨.pydanticSerializationError, "Unable to serialize unknown type"⟩

namespace PermissionEngineRuntime

/-- The decision when the engine gives none. -/
def deniedByDefault : PermissionDecision where
  status := .denied
  reason := "permission decision could not be resolved"

/-- `_resolve_decision`: an engine that raises or gives no decision denies. -/
def resolveDecision (engine : PermissionEngine) (action : Action) : Task PermissionDecision := do
  let decision ← tryCatch (engine action) fun e => if e.isException then pure none else throw e
  return decision.getD deniedByDefault

/-- `_resolve_lifecycle_state`. -/
def resolveLifecycleState (decision : PermissionDecision) : Except Raised ActionLifecycleState :=
  match decision.status with
  | .allowed => do
    let queued ← ActionLifecycleManager.transition {} .queued
    ActionLifecycleManager.transition queued .approved
  | .requiresApproval =>
    ActionLifecycleManager.transition { metadata := .ofList [("approval_required", .bool true)] }
      .queued
  | .denied =>
    return {
      status := .rejected
      reason := normalizeBlankReason decision.reason
      metadata := .ofList [("permission_status", .str decision.status.value)] }

/-- `_apply_permission_metadata`. -/
def applyPermissionMetadata (action : Action) (decision : PermissionDecision) :
    Except Raised Action := do
  let dump ← decision.modelDump
  return { action with metadata := action.metadata.set "permission_decision" dump }

/-- What `_evaluate_action` does once it has a decision. -/
def recordDecision (action : Action) (decision : PermissionDecision) :
    Service PermissionEvaluation := do
  let lifecycleState ← Proc.ofExcept (resolveLifecycleState decision)
  modify fun s => s.setLifecycle action.id lifecycleState
  let evaluatedAction ← Proc.ofExcept (applyPermissionMetadata action decision)
  if decision.status = .requiresApproval then
    modify fun s => s.addPending evaluatedAction
  return { action := evaluatedAction, decision }

/-- `_evaluate_action`. -/
def evaluateAction (engine : PermissionEngine) (action : Action) :
    Service PermissionEvaluation := do
  let decision ← Proc.embed (resolveDecision engine action)
  recordDecision action decision

/-- Permission evaluations for planned actions. -/
def evaluate (engine : PermissionEngine) : List Action → Service (List PermissionEvaluation)
  | [] => pure []
  | action :: actions => do
    let evaluation ← evaluateAction engine action
    let evaluations ← evaluate engine actions
    return evaluation :: evaluations

/-- The actions with allowed permission decisions. -/
def queueableActions (evaluations : List PermissionEvaluation) : List Action :=
  (evaluations.filter (·.isAllowed)).map (·.action)

/-! ### What a decision does -/

/-- The lifecycle state a decision puts an action in. -/
def lifecycleOf (decision : PermissionDecision) : ActionLifecycleState :=
  match decision.status with
  | .allowed => { status := .approved }
  | .requiresApproval =>
    { status := .queued, metadata := .ofList [("approval_required", .bool true)] }
  | .denied =>
    { status := .rejected
      reason := normalizeBlankReason decision.reason
      metadata := .ofList [("permission_status", .str decision.status.value)] }

theorem resolveLifecycleState_eq (decision : PermissionDecision) :
    resolveLifecycleState decision = .ok (lifecycleOf decision) := by
  unfold resolveLifecycleState lifecycleOf
  cases decision.status <;> rfl

/-- The evaluated action with its serialized decision. -/
def withDecision (action : Action) (dump : Value) : Action :=
  { action with metadata := action.metadata.set "permission_decision" dump }

section Ensures

variable {W : Type} {h : Handler Outside W} {P : OutsideCall → W → Prop} {s : Stores} {w : W}

/-- A decision sets the lifecycle state first; only a decision that can be
serialized then holds an action that requires approval. -/
theorem ensures_recordDecision {action : Action} {decision : PermissionDecision}
    {Q : Except Raised PermissionEvaluation → Stores → W → Prop} :
    (recordDecision action decision).Ensures h P Q s w ↔
      decision.modelDump.either
        (fun dump => Q (.ok ⟨withDecision action dump, decision⟩)
          (if decision.status = .requiresApproval then
            (s.setLifecycle action.id (lifecycleOf decision)).addPending (withDecision action dump)
          else s.setLifecycle action.id (lifecycleOf decision)) w)
        fun e => Q (.error e) (s.setLifecycle action.id (lifecycleOf decision)) w := by
  rcases hdump : decision.modelDump with e | dump
  · simp [recordDecision, resolveLifecycleState_eq, applyPermissionMetadata, hdump]
  · by_cases hstatus : decision.status = .requiresApproval <;>
      simp [recordDecision, resolveLifecycleState_eq, applyPermissionMetadata, hdump, hstatus,
        withDecision]

theorem ensures_resolveDecision {engine : PermissionEngine} {action : Action} {u : Unit}
    {Q : Except Raised PermissionDecision → Unit → W → Prop} :
    (resolveDecision engine action).Ensures h P Q u w ↔
      (engine action).Ensures h P (fun r u' w' =>
        r.either (fun decision => Q (.ok (decision.getD deniedByDefault)) u' w') fun e =>
          if e.isException then Q (.ok deniedByDefault) u' w' else Q (.error e) u' w') u w := by
  simp only [resolveDecision, Proc.ensures_bind, Proc.ensures_tryCatch, Proc.ensures_pure]
  refine Proc.ensures_congr fun r u' w' => ?_
  rcases r with e | decision
  · by_cases he : e.isException = true <;> simp [he]
  · rfl

/-- The stores once a decision about an action has been recorded. -/
def decidedStores (s : Stores) (action : Action) (decision : PermissionDecision) (dump : Value) :
    Stores :=
  if decision.status = .requiresApproval then
    (s.setLifecycle action.id (lifecycleOf decision)).addPending (withDecision action dump)
  else s.setLifecycle action.id (lifecycleOf decision)

end Ensures

section Evaluate

variable {R : RunRepository} {env : Environment} {P : OutsideCall → World R → Prop}
  {D : Action → PermissionDecision → Prop} {engine : PermissionEngine} {action : Action}

/-- The engine invokes no executor, leaves every row alone, and what it decides
satisfies `D`. -/
def Decides (env : Environment) (P : OutsideCall → World R → Prop)
    (D : Action → PermissionDecision → Prop) (engine : PermissionEngine) : Prop :=
  ∀ action u w, (engine action).Ensures (outside env R) P
    (fun r _ w' => w'.UpdatedFrom w w.row ∧ ∀ decision, r = .ok (some decision) → D action decision)
    u w

theorem decides_base :
    Decides env P (fun action decision => decision = BasePermissionEngine.evaluate action)
      BasePermissionEngine.engine :=
  fun _ _ w => ⟨World.updatedFrom_self w, fun _ h => (Option.some.inj (Except.ok.inj h)).symm⟩

theorem decides_askPermission (hquiet : PermitsQuiet P) :
    Decides env P (fun _ _ => True) askPermission :=
  fun _ _ w => ⟨hquiet _ w trivial, updatedFrom_outside trivial, fun _ _ => trivial⟩

/-- What evaluating an action can do to the stores. -/
inductive Evaluated (D : Action → PermissionDecision → Prop) (s : Stores) (action : Action) :
    Except Raised PermissionEvaluation → Stores → Prop
  | raised (e : Raised) : Evaluated D s action (.error e) s
  /-- The lifecycle state of a decision that cannot be serialized stays behind. -/
  | unserializable (e : Raised) (decision : PermissionDecision) (hdecision : D action decision)
      (hdump : decision.modelDump = .error e) :
      Evaluated D s action (.error e) (s.setLifecycle action.id (lifecycleOf decision))
  | decided (decision : PermissionDecision) (dump : Value)
      (hdecision : decision = deniedByDefault ∨ D action decision) :
      Evaluated D s action (.ok ⟨withDecision action dump, decision⟩)
        (decidedStores s action decision dump)

/-- The stores once a decision has been recorded and allowed work queued. -/
def placedStores (s : Stores) (action : Action) (decision : PermissionDecision)
    (dump : Value) : Stores :=
  if decision.status = .allowed then
    (decidedStores s action decision dump).enqueue (withDecision action dump)
  else decidedStores s action decision dump

/-- What evaluating a new action and queueing allowed work can do to the stores. -/
inductive Placed (D : Action → PermissionDecision → Prop) (s : Stores) (action : Action) :
    Stores → Prop
  | unchanged : Placed D s action s
  | unserializable (e : Raised) (decision : PermissionDecision) (hdecision : D action decision)
      (hdump : decision.modelDump = .error e) :
      Placed D s action (s.setLifecycle action.id (lifecycleOf decision))
  | decided (decision : PermissionDecision) (dump : Value)
      (hdecision : decision = deniedByDefault ∨ D action decision) :
      Placed D s action (placedStores s action decision dump)

theorem Evaluated.placed_of_error {s s' : Stores} {e : Raised}
    (h : Evaluated D s action (.error e) s') : Placed D s action s' := by
  cases h with
  | raised => exact .unchanged
  | unserializable _ decision hdecision hdump => exact .unserializable e decision hdecision hdump

theorem modelDump_deniedByDefault : ∃ dump, deniedByDefault.modelDump = .ok dump := ⟨_, rfl⟩

/-- An engine is asked, and what it decides is recorded. -/
theorem ensures_evaluateAction {s : Stores} {w : World R}
    {Q : Except Raised PermissionEvaluation → Stores → World R → Prop}
    (hengine : Decides env P D engine)
    (hQ : ∀ r s' w', Evaluated D s action r s' → w'.UpdatedFrom w w.row → Q r s' w') :
    (evaluateAction engine action).Ensures (outside env R) P Q s w := by
  simp only [evaluateAction, Proc.ensures_bind, Proc.ensures_embed, ensures_resolveDecision]
  have hdefault : ∀ w', w'.UpdatedFrom w w.row →
      (recordDecision action deniedByDefault).Ensures (outside env R) P Q s w' := fun w' hw' => by
    obtain ⟨dump, hdump⟩ := modelDump_deniedByDefault
    rw [ensures_recordDecision, hdump]
    exact hQ _ _ w' (.decided deniedByDefault dump (Or.inl rfl)) hw'
  refine (hengine action () w).mono fun r _ w' hdecided => ?_
  obtain ⟨hw', hdecides⟩ := hdecided
  rcases r with e | _ | decision
  · simp only [Except.either_error]
    split_ifs
    · exact hdefault w' hw'
    · exact hQ _ s w' (.raised e) hw'
  · exact hdefault w' hw'
  · have hD : D action decision := hdecides decision rfl
    simp only [Except.either_ok, Option.getD_some, ensures_recordDecision]
    rcases hdump : decision.modelDump with e | dump
    · exact hQ _ _ w' (.unserializable e decision hD hdump) hw'
    · exact hQ _ _ w' (.decided decision dump (Or.inr hD)) hw'

end Evaluate

end PermissionEngineRuntime

end Velox
