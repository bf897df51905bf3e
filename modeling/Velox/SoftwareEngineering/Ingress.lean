import Velox.SoftwareEngineering.Route

/-!
# Delegating Software Engineering tasks

The trusted ingress: a task text and a target become one delegated action of the
canonical route, registered durably under the identifier that was drawn for it.

## Main definitions

* `SoftwareEngineeringTaskIngress.delegate`

## Main results

* `SoftwareEngineeringTaskIngress.ensures_delegate` — what a delegation leaves in
  the local stores and in the row
-/

set_option autoImplicit false

namespace Velox

namespace SoftwareEngineeringTaskIngress

/-- The registration of a delegated task. Only work that may still be executed
keeps its objective. -/
def registrationOf (objective target : String) (result : TaskDelegationResult) : Registration where
  actionId := result.actionId
  target
  executorRole := ExecutorRole.softwareEngineering.value
  capability := SOFTWARE_ENGINEERING_IMPLEMENT_CAPABILITY
  delegationStatus := some result.status.value
  objective :=
    match result.status with
    | .awaitingApproval | .queued => some objective
    | .denied | .routeRejected => none
  approvalStatus :=
    match result.status with
    | .awaitingApproval => some .awaitingApproval
    | .queued => some .approved
    | .denied | .routeRejected => none

/-- Create one governed delegation and persist its trusted action identity. -/
def delegate [PyStd] (registry : WorkerExecutorRegistry) (engine : PermissionEngine)
    (objective target : String) : Service TaskDelegationResult := do
  let request ← Proc.ofExcept (TaskDelegationRequest.create objective target .softwareEngineering
    SOFTWARE_ENGINEERING_IMPLEMENT_CAPABILITY)
  let result ← ActionTaskDelegator.delegate registry engine request
  let _ ← Repository.registerAction (registrationOf objective target result)
  return result

/-! ### What delegating does -/

section Ensures

variable [PyStd] {R : RunRepository} {env : Environment} {P : OutsideCall → World R → Prop}
  {D : Action → PermissionDecision → Prop} {registry : WorkerExecutorRegistry}
  {engine : PermissionEngine} {objective target : String} {s : Stores} {w : World R}

/-- The request a delegation of a text and a target makes. -/
def Requests (objective target : String) (request : TaskDelegationRequest) : Prop :=
  TaskDelegationRequest.create objective target .softwareEngineering
    SOFTWARE_ENGINEERING_IMPLEMENT_CAPABILITY = .ok request

/-- The action of a coding task names the task, and neither provider nor account. -/
theorem Requests.codingAction {request : TaskDelegationRequest}
    (h : Requests objective target request) (id : UUID) (dump : Value) :
    CodingAction (PermissionEngineRuntime.withDecision
      (ActionTaskDelegator.actionFor request id) dump) := by
  obtain ⟨-, -, hrole, hcapability, haccount⟩ := TaskDelegationRequest.create_eq_ok_iff.mp h
  exact codingAction_withDecision hrole hcapability haccount

/-- What delegating a coding task can leave behind. -/
inductive Delegated (registry : WorkerExecutorRegistry) (D : Action → PermissionDecision → Prop)
    (objective target : String) (s : Stores) (w : World R) :
    Except Raised TaskDelegationResult → Stores → World R → Prop
  | refused (e : Raised) : Delegated registry D objective target s w (.error e) s w
  | raised (request : TaskDelegationRequest) (e : Raised) (s' : Stores) (w' : World R)
      (hrequest : Requests objective target request)
      (hdelegated : ActionTaskDelegator.Delegated registry D s
        (ActionTaskDelegator.actionFor request w.nextId) (.error e) s')
      (hw' : w'.UpdatedFrom w.draw w.row) :
      Delegated registry D objective target s w (.error e) s' w'
  | unregistered (request : TaskDelegationRequest) (result : TaskDelegationResult) (e : Raised)
      (now : DateTime) (s' : Stores) (w' : World R) (hrequest : Requests objective target request)
      (hdelegated : ActionTaskDelegator.Delegated registry D s
        (ActionTaskDelegator.actionFor request w.nextId) (.ok result) s')
      (hwhy : ∃ e', registerAction now (registrationOf objective target result) (w.row w.nextId) =
        .error e')
      (hw' : w'.UpdatedFrom w.draw w.row) :
      Delegated registry D objective target s w (.error e) s' w'
  | registered (request : TaskDelegationRequest) (result : TaskDelegationResult) (now : DateTime)
      (state : RunState) (s' : Stores) (w' : World R) (hrequest : Requests objective target request)
      (hdelegated : ActionTaskDelegator.Delegated registry D s
        (ActionTaskDelegator.actionFor request w.nextId) (.ok result) s')
      (hstate : registerAction now (registrationOf objective target result) (w.row w.nextId) =
        .ok state)
      (hw' : w'.UpdatedFrom w.draw (Function.update w.row w.nextId (some state))) :
      Delegated registry D objective target s w (.ok result) s' w'

/-- A delegated task is registered under the identifier drawn for it. -/
theorem ensures_delegate {Q : Except Raised TaskDelegationResult → Stores → World R → Prop}
    (hquiet : PermitsQuiet P) (hengine : PermissionEngineRuntime.Decides env P D engine)
    (hregister : ∀ result now w', result.actionId = w.nextId → w'.row = w.row →
      P (.store (.write (.registerAction now (registrationOf objective target result)))) w')
    (hQ : ∀ r s' w', Delegated registry D objective target s w r s' w' → Q r s' w') :
    (delegate registry engine objective target).Ensures (outside env R) P Q s w := by
  simp only [delegate, Proc.ensures_bind, Proc.ensures_ofExcept]
  rcases hrequest : TaskDelegationRequest.create objective target .softwareEngineering
    SOFTWARE_ENGINEERING_IMPLEMENT_CAPABILITY with e | request
  · exact hQ _ _ _ (.refused e)
  simp only [Except.either_ok]
  refine ActionTaskDelegator.ensures_delegate hquiet hengine fun r s₁ w₁ hdelegated hw₁ => ?_
  rcases r with e | result
  · exact hQ _ _ _ (.raised request e s₁ w₁ hrequest hdelegated hw₁)
  have hid : result.actionId = w.nextId := hdelegated.actionId
  simp only [Except.either_ok]
  refine Repository.ensures_stamped (fun _ => by exact hid) hquiet
    (fun now w' hw' => hregister result now w' hid (hw'.trans hw₁.row))
    (fun now state w' hstate hw' => ?_) fun now e w' hwhy hw' => ?_
  · rw [hw₁.row] at hstate hw'
    exact hQ _ _ _ (.registered request result now state s₁ w' hrequest hdelegated hstate
      (hw'.trans hw₁))
  · rw [hw₁.row] at hwhy hw'
    exact hQ _ _ _ (.unregistered request result e now s₁ w' hrequest hdelegated (hwhy trivial)
      (hw'.trans hw₁))

end Ensures

end SoftwareEngineeringTaskIngress

end Velox
