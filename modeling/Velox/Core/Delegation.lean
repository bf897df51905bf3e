import Velox.Core.Permission

/-!
# Task delegation

A typed request names what to do and for whom, never a provider. Delegation
creates an action, validates that a trusted route exists, evaluates permission
and queues allowed work. It never executes a worker.

## Main definitions

* `TaskDelegationRequest` — a request that passed its checks
* `ActionTaskDelegator.delegate`

## Main results

* `ActionTaskDelegator.ensures_delegate` — what delegating does to the local stores
* `TaskDelegationRequest.capability_canonical` — a request names its capability
  in canonical form
-/

set_option autoImplicit false

namespace Velox

variable [PyStd]

/-- `TaskDelegationRequestError`. -/
def taskDelegationRequestError (message : String) : Raised :=
  ⟨.taskDelegationRequestError, message⟩

/-- `_require_text`. -/
def requireText (value field : String) : Except Raised Unit :=
  .raiseIf (Python.strip value = "")
    (taskDelegationRequestError ("task delegation " ++ field ++ " is required"))

/-- The checks of `TaskDelegationRequest.__post_init__`. -/
def checkDelegation (objective target capability : String)
    (accountContext : Option WorkerAccountContext) : Except Raised Unit := do
  requireText objective "objective"
  requireText target "target"
  requireText capability "capability"
  .raiseIf (capability ≠ PyStd.casefold (Python.strip capability))
    (taskDelegationRequestError "task delegation capability must be a canonical identifier")
  match accountContext with
  | none => return ()
  | some context =>
    requireText context.accountIdentifier "account identifier"
    match context.principal with
    | none => return ()
    | some principal => requireText principal "account principal"

/-- What to do and for whom; never which provider, credential or approval. -/
structure TaskDelegationRequest where
  objective : String
  target : String
  executorRole : ExecutorRole
  capability : String
  accountContext : Option WorkerAccountContext := none
  checked : checkDelegation objective target capability accountContext = .ok ()

/-- A request that fails its checks is never built. -/
def TaskDelegationRequest.create (objective target : String) (executorRole : ExecutorRole)
    (capability : String) (accountContext : Option WorkerAccountContext := none) :
    Except Raised TaskDelegationRequest :=
  match hchecked : checkDelegation objective target capability accountContext with
  | .ok () => .ok ⟨objective, target, executorRole, capability, accountContext, hchecked⟩
  | .error e => .error e

/-- Delegation outcomes. `queued` means accepted for execution, not executed. -/
inductive TaskDelegationStatus
  | queued
  | awaitingApproval
  | denied
  | routeRejected
  deriving DecidableEq

/-- The text of a status. -/
def TaskDelegationStatus.value : TaskDelegationStatus → String
  | .queued => "queued"
  | .awaitingApproval => "awaiting_approval"
  | .denied => "denied"
  | .routeRejected => "route_rejected"

/-- Delegation outcome for the application. -/
structure TaskDelegationResult where
  actionId : UUID
  status : TaskDelegationStatus
  permissionStatus : Option PermissionStatus
  routingReason : Option String

namespace ActionTaskDelegator

/-- `_action_for`, given the identifier of the new action. -/
def actionFor (request : TaskDelegationRequest) (id : UUID) : Action where
  id
  type := request.capability
  target := request.target
  executorRole := request.executorRole.value
  payload := .ofList ([("capability", .str request.capability),
    ("objective", .str request.objective)] ++
      (request.accountContext.map fun context => ("account_context", context.asMetadata)).toList)
  metadata := .ofList [("task_delegation", .dict [
    ("requested_role", .str request.executorRole.value),
    ("requested_capability", .str request.capability)])]

/-- The status of a delegation whose permission was decided. -/
def statusOf : PermissionStatus → TaskDelegationStatus
  | .allowed => .queued
  | .requiresApproval => .awaitingApproval
  | .denied => .denied

/-- Delegate through the registry, the permission runtime and the queue. -/
def delegate (registry : WorkerExecutorRegistry) (engine : PermissionEngine)
    (request : TaskDelegationRequest) : Service TaskDelegationResult := do
  let action := actionFor request (← uuid4)
  let resolution := registry.resolveWithRegistration action
  if ¬resolution.registered then
    return {
      actionId := action.id
      status := .routeRejected
      permissionStatus := none
      routingReason := resolution.routingReason }
  else
    let evaluation ← PermissionEngineRuntime.evaluateAction engine action
    if evaluation.decision.status = .allowed then
      modify fun s => s.enqueue evaluation.action
    return {
      actionId := action.id
      status := statusOf evaluation.decision.status
      permissionStatus := some evaluation.decision.status
      routingReason := resolution.routingReason }

/-- What delegating can do to the stores. -/
inductive Delegated (registry : WorkerExecutorRegistry) (D : Action → PermissionDecision → Prop)
    (s : Stores) (action : Action) : Except Raised TaskDelegationResult → Stores → Prop
  | routeRejected (reason : Option String)
      (hroute : (registry.resolveWithRegistration action).registered = false) :
      Delegated registry D s action (.ok ⟨action.id, .routeRejected, none, reason⟩) s
  | raised (e : Raised) (s' : Stores)
      (hroute : (registry.resolveWithRegistration action).registered = true)
      (hevaluated : PermissionEngineRuntime.Evaluated D s action (.error e) s') :
      Delegated registry D s action (.error e) s'
  | decided (decision : PermissionDecision) (dump : Value) (reason : Option String)
      (hroute : (registry.resolveWithRegistration action).registered = true)
      (hdecision : decision = PermissionEngineRuntime.deniedByDefault ∨ D action decision) :
      Delegated registry D s action
        (.ok ⟨action.id, statusOf decision.status, some decision.status, reason⟩)
        (PermissionEngineRuntime.placedStores s action decision dump)

theorem Delegated.actionId {registry : WorkerExecutorRegistry}
    {D : Action → PermissionDecision → Prop} {s s' : Stores} {action : Action}
    {result : TaskDelegationResult} (h : Delegated registry D s action (.ok result) s') :
    result.actionId = action.id := by
  cases h <;> rfl

theorem Delegated.placed {registry : WorkerExecutorRegistry}
    {D : Action → PermissionDecision → Prop} {s s' : Stores} {action : Action}
    {r : Except Raised TaskDelegationResult} (h : Delegated registry D s action r s') :
    PermissionEngineRuntime.Placed D s action s' := by
  cases h with
  | routeRejected reason hroute => exact .unchanged
  | raised e s' hroute hevaluated => exact hevaluated.placed_of_error
  | decided decision dump reason hroute hdecision => exact .decided decision dump hdecision

/-- Delegating draws an identifier, and evaluates and queues only routed work. -/
theorem ensures_delegate {R : RunRepository} {env : Environment} {P : OutsideCall → World R → Prop}
    {D : Action → PermissionDecision → Prop} {s : Stores} {w : World R}
    {registry : WorkerExecutorRegistry} {engine : PermissionEngine}
    {request : TaskDelegationRequest}
    {Q : Except Raised TaskDelegationResult → Stores → World R → Prop} (hquiet : PermitsQuiet P)
    (hengine : PermissionEngineRuntime.Decides env P D engine)
    (hQ : ∀ r s' w', Delegated registry D s (actionFor request w.nextId) r s' →
      w'.UpdatedFrom w.draw w.row → Q r s' w') :
    (delegate registry engine request).Ensures (outside env R) P Q s w := by
  simp only [delegate, Proc.ensures_bind, ensures_uuid4, Except.either_ok]
  refine ⟨hquiet .uuid4 w trivial, ?_⟩
  show Proc.Ensures _ _ _ (ite _ _ _) s w.draw
  by_cases hroute : (registry.resolveWithRegistration (actionFor request w.nextId)).registered = true
  · simp only [outside, hroute, not_true_eq_false, if_false, Proc.ensures_bind]
    refine PermissionEngineRuntime.ensures_evaluateAction hengine fun r s' w' hevaluated hw' => ?_
    rcases r with e | evaluation
    · exact hQ _ s' w' (.raised e s' hroute hevaluated) hw'
    · cases hevaluated with
      | decided decision dump hdecision =>
        have := hQ _ _ w' (.decided decision dump
          (registry.resolveWithRegistration (actionFor request w.nextId)).routingReason hroute
          hdecision) hw'
        by_cases hallowed : decision.status = .allowed
        · simpa [hallowed, PermissionEngineRuntime.placedStores] using this
        · simpa [hallowed, PermissionEngineRuntime.placedStores] using this
  · simp only [outside, hroute]
    exact hQ _ s _ (.routeRejected _ (by simpa using hroute)) ⟨le_refl _, rfl, rfl⟩

end ActionTaskDelegator

/-! ### What a checked request guarantees -/

theorem checkDelegation_eq_ok {objective target capability : String}
    {accountContext : Option WorkerAccountContext}
    (h : checkDelegation objective target capability accountContext = .ok ()) :
    Python.strip objective ≠ "" ∧ Python.strip target ≠ "" ∧ Python.strip capability ≠ "" ∧
      PyStd.casefold (Python.strip capability) = capability := by
  simp only [checkDelegation, requireText, Except.bind_eq_ok_iff, Except.raiseIf_eq_ok_iff,
    ne_eq, not_not] at h
  obtain ⟨-, hobjective, -, htarget, -, hcapability, -, hcanonical, -⟩ := h
  exact ⟨hobjective, htarget, hcapability, hcanonical.symm⟩

theorem TaskDelegationRequest.create_eq_ok_iff {objective target capability : String}
    {executorRole : ExecutorRole} {accountContext : Option WorkerAccountContext}
    {request : TaskDelegationRequest} :
    TaskDelegationRequest.create objective target executorRole capability accountContext =
        .ok request ↔
      request.objective = objective ∧ request.target = target ∧
        request.executorRole = executorRole ∧ request.capability = capability ∧
        request.accountContext = accountContext := by
  unfold TaskDelegationRequest.create
  split
  · rename_i hchecked
    constructor
    · rintro h
      obtain rfl := Except.ok.inj h
      exact ⟨rfl, rfl, rfl, rfl, rfl⟩
    · rcases request with ⟨o, t, r, c, a, hrequest⟩
      rintro ⟨rfl, rfl, rfl, rfl, rfl⟩
      rfl
  · rename_i e hchecked
    simp only [reduceCtorEq, false_iff]
    rintro ⟨rfl, rfl, rfl, rfl, rfl⟩
    exact nomatch hchecked.symm.trans request.checked

theorem TaskDelegationRequest.capability_canonical (request : TaskDelegationRequest) :
    PyStd.casefold (Python.strip request.capability) = request.capability :=
  (checkDelegation_eq_ok request.checked).2.2.2

theorem TaskDelegationRequest.capability_ne_empty (request : TaskDelegationRequest) :
    request.capability ≠ "" := by
  intro hempty
  refine (checkDelegation_eq_ok request.checked).2.2.1 ?_
  rw [hempty]
  decide

end Velox
