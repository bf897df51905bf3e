import Velox.Events.Workflow
import Velox.SoftwareEngineering.Continuation
import Velox.SoftwareEngineering.Decision
import Velox.SoftwareEngineering.Ingress

/-!
# One process

The services as one process composes them: one queue, one lifecycle repository, one
pending registry, and every way to plan, delegate, decide about, process and execute
an action.

## Main definitions

* `Container` — what a process is composed of
* `ContainerOp` — the operations of a process
* `Container.step` — what an operation leaves, and whether it raises

## Main results

* `EventWorkflowService.ensures_process_base` — processing an event evaluates at most
  one new action
* `DurableExecutionObserver.Executed.approvalsKept` — executing approves nothing
-/

set_option autoImplicit false

namespace Velox

/-! ### Processing events -/

namespace EventWorkflowService

variable {R : RunRepository} {env : Environment} {P : OutsideCall → World R → Prop}
  {D : Action → PermissionDecision → Prop} {engine : PermissionEngine} {s : Stores} {w : World R}
  {eventId : UUID} {route : Option IntegrationRouteContext}

theorem calls_pipeline {event : UniversalEvent} :
    (EventProcessingPipeline.process event route).Calls OutsideCall.Quiet fun _ => True :=
  .bind (A := fun _ => True) (.request trivial fun _ => trivial)
    (fun _ _ => .bind (A := fun _ => True) (.request trivial fun _ => trivial)
      (fun _ _ => .pure trivial) fun _ _ => trivial) fun _ _ => trivial

/-- The action types that are planned. -/
def plannedTypes : List String := BasePlanner.actionTypesByCategory.map Prod.snd

theorem plannedType_of_lookup {category type : String}
    (h : BasePlanner.actionTypesByCategory.lookup category = some type) : type ∈ plannedTypes :=
  by
  obtain ⟨before, after, hsplit, -⟩ := List.lookup_eq_some_iff.mp h
  rw [plannedTypes, hsplit]
  simp

/-- Processing an event changes the event stores, and evaluates at most one new
action. -/
theorem ensures_process_base {Q : Stores → World R → Prop} (hquiet : PermitsQuiet P)
    (hengine : PermissionEngineRuntime.Decides env P D engine)
    (hunplanned : ∀ events w', w'.UpdatedFrom w w.row → Q (s.setEvents events) w')
    (hplanned : ∀ events processedEvent type (w₁ : World R) s' w', w₁.UpdatedFrom w w.row →
      type ∈ plannedTypes → PermissionEngineRuntime.Placed D (s.setEvents events)
        (BasePlanner.plannedAction processedEvent type w₁.nextId) s' →
      w'.UpdatedFrom w₁.draw w.row → Q s' w') :
    (process BasePlanner.plan engine eventId route).Ensures (outside env R) P (fun _ s w => Q s w)
      s w := by
  have hself := hunplanned s.events w (World.updatedFrom_self w)
  rw [ensures_process]
  rcases s.events.repository.getEvent eventId with _ | event
  · exact hself
  simp only
  split_ifs
  swap
  · exact hself
  refine (ensures_of_calls hquiet calls_pipeline).mono fun r _ w₁ ⟨hw₁, _⟩ => ?_
  rcases r with e | processedEvent
  · simp only [Except.either_error]
    split_ifs
    · exact hunplanned _ w₁ hw₁
    · exact hunplanned _ w₁ hw₁
  simp only [Except.either_ok, BasePlanner.plan]
  rcases htype : BasePlanner.actionTypesByCategory.lookup processedEvent.classification.category
    with _ | type
  · exact hunplanned _ w₁ hw₁
  simp only [Proc.ensures_bind, ensures_uuid4, Proc.ensures_pure, Except.either_ok]
  refine ⟨hquiet .uuid4 w₁ trivial, ?_⟩
  simp only [PermissionEngineRuntime.evaluate, Proc.ensures_bind, outside]
  obtain ⟨events, hevents⟩ : ∃ events, consumed (withState s eventId {
      stateOf s.events eventId with status := .processing, reason := none }) eventId {
      stateOf s.events eventId with status := .processed, reason := none } = s.setEvents events :=
    ⟨_, rfl⟩
  rw [hevents]
  refine PermissionEngineRuntime.ensures_evaluateAction hengine fun r s' w' hevaluated hw' => ?_
  have hplaced : ∀ s', PermissionEngineRuntime.Placed D (s.setEvents events)
      (BasePlanner.plannedAction processedEvent type w₁.nextId) s' → Q s' w' := fun s' h =>
    hplanned events processedEvent type w₁ s' w' hw₁ (plannedType_of_lookup htype) h
      (hw₁.row ▸ hw')
  rcases r with e | evaluation
  · exact hplaced s' hevaluated.placed_of_error
  · cases hevaluated with
    | decided decision dump hdecision =>
      have := hplaced _ (.decided decision dump hdecision)
      by_cases hallowed : decision.status = .allowed
      · simpa [PermissionEngineRuntime.queueableActions, PermissionEvaluation.isAllowed, hallowed,
          PermissionEngineRuntime.placedStores, ActionQueue.enqueueMany, Stores.enqueue] using this
      · simpa [PermissionEngineRuntime.queueableActions, PermissionEvaluation.isAllowed, hallowed,
          PermissionEngineRuntime.placedStores, ActionQueue.enqueueMany] using this

end EventWorkflowService

/-! ### Executing approves nothing -/

/-- From `w` to `w'` no row was approved, and only the row of one action changed. -/
structure ApprovalsKept {R : RunRepository} (w w' : World R) (id : UUID) : Prop where
  nextId : w.nextId ≤ w'.nextId
  other : ∀ id', id' ≠ id → w'.row id' = w.row id'
  approved : ∀ row', w'.row id = some row' → row'.approvalStatus = some .approved →
    ∃ row, w.row id = some row ∧ row.approvalStatus = some .approved

namespace ApprovalsKept

variable {R : RunRepository} {w w' w'' : World R} {id : UUID}

theorem trans (h' : ApprovalsKept w' w'' id) (h : ApprovalsKept w w' id) : ApprovalsKept w w'' id where
  nextId := h.nextId.trans h'.nextId
  other id' hid := (h'.other id' hid).trans (h.other id' hid)
  approved row'' hrow'' happroved :=
    let ⟨row', hrow', happroved'⟩ := h'.approved row'' hrow'' happroved
    h.approved row' hrow' happroved'

theorem of_updatedFrom (h : w'.UpdatedFrom w w.row) : ApprovalsKept w w' id where
  nextId := h.nextId
  other _ _ := by rw [h.row]
  approved row' hrow' happroved := ⟨row', by rwa [← h.row], happroved⟩

theorem of_update {state : RunState} (h : w'.UpdatedFrom w (Function.update w.row id (some state)))
    (hstate : state.approvalStatus = (w.row id).bind (·.approvalStatus)) : ApprovalsKept w w' id where
  nextId := h.nextId
  other _ hid := h.row_of_ne hid
  approved row' hrow' happroved := by
    obtain rfl : state = row' := Option.some.inj (h.row_self.symm.trans hrow')
    rw [hstate] at happroved
    exact Option.bind_eq_some_iff.mp happroved

end ApprovalsKept

namespace DurableExecutionObserver

variable {R : RunRepository} {env : Environment} {w w' : World R}

theorem approvalStatus_of_registerAction {now : DateTime} {action : Action}
    {current : Option RunState} {state : RunState}
    (h : registerAction now (registrationOf action) current = .ok state) :
    state.approvalStatus = current.bind (·.approvalStatus) := by
  obtain ⟨rfl, rfl⟩ | ⟨row, rfl, -, rfl⟩ := registerAction_eq_ok_iff.mp h
  · rfl
  · rfl

theorem Started.approvalsKept {e : ExecutionStart} {r : Except Raised WorkerExecutionObservation}
    (h : Started w e r w') : ApprovalsKept w w' e.action.id := by
  cases h with
  | other observation w' hobserves hroute hw' => exact .of_updatedFrom hw'
  | refused error now w' hroute hwhy hw' => exact .of_updatedFrom hw'
  | registered observation now state w' hobserves hroute hregister hunclaimed hw' =>
    exact .of_update hw' (approvalStatus_of_registerAction hregister)
  | unstarted error now now' startedAt state w' hroute hregister hclaimed hwhy hw' =>
    exact .of_update hw' (approvalStatus_of_registerAction hregister)
  | started observation now now' state state' w' hobserves hroute hregister hstart hw' =>
    obtain ⟨row, hrow, -, -, rfl⟩ := recordExecutionStarted_eq_ok_iff.mp hstart
    obtain rfl := Option.some.inj hrow
    have happroval := approvalStatus_of_registerAction hregister
    exact .of_update hw' happroval

theorem Invoked.approvalsKept {resolution : WorkerExecutorResolution} {action : Action} {id : UUID}
    {r : Except Raised WorkerExecutionResult} (h : Invoked env w resolution action r w') :
    ApprovalsKept w w' id := by
  cases h with
  | noOp => exact .of_updatedFrom (World.updatedFrom_self w)
  | provider => exact ⟨le_refl _, fun _ _ => rfl, fun row hrow happroved => ⟨row, hrow, happroved⟩⟩

theorem Finished.approvalsKept {observation : WorkerExecutionObservation} {e : ExecutionFinish}
    {r : Except Raised WorkerExecutionObservation} (h : Finished w observation e r w') :
    ApprovalsKept w w' observation.actionId := by
  cases h with
  | other finished w' hroute hw' => exact .of_updatedFrom hw'
  | refused error w' hw' hrow => exact .of_updatedFrom hw'
  | recorded finished now finishedAt row w' hroute hrow hw' => exact .of_update hw' (by rw [hrow]; rfl)

/-- However far an execution gets, it approves nothing. -/
theorem Executed.approvalsKept {maxTransientRetries : Int} {resolution : WorkerExecutorResolution}
    {action : Action} {executing : ActionLifecycleState} {s s' : Stores}
    (h : Executed env maxTransientRetries resolution action executing s w s' w') :
    ApprovalsKept w w' action.id := by
  cases h with
  | unstarted e w' hstarted => exact hstarted.approvalsKept
  | aborted observation e w₁ w' hstarted hinvoked =>
    exact hinvoked.approvalsKept.trans hstarted.approvalsKept
  | unfinished observation result e w₁ w₂ w' hstarted hinvoked hfinished =>
    have hid : observation.actionId = action.id := hstarted.observes.actionId
    exact (hid ▸ hfinished.approvalsKept).trans (hinvoked.approvalsKept.trans hstarted.approvalsKept)
  | finished observation observation' result s' w₁ w₂ w' hstarted hinvoked hfinished hstored =>
    have hid : observation.actionId = action.id := hstarted.observes.actionId
    exact (hid ▸ hfinished.approvalsKept).trans (hinvoked.approvalsKept.trans hstarted.approvalsKept)

end DurableExecutionObserver

/-! ### The process -/

/-- What a process is composed of. -/
structure Container where
  executorRegistry : WorkerExecutorRegistry
  permissionEngine : PermissionEngine
  executionObserver : WorkerExecutionObserver
  maxTransientRetries : Int := 3
  reviewer : Bool := true

/-- The worker runtime of a process. -/
def Container.runtime (c : Container) : WorkerRuntime where
  executorRegistry := c.executorRegistry
  executionObserver := c.executionObserver
  maxTransientRetries := c.maxTransientRetries

variable [PyStd]

/-- The operations of a process. -/
inductive ContainerOp
  | accept (event : UniversalEvent)
  | process (eventId : UUID) (integrationRoute : Option IntegrationRouteContext)
  | delegateTask (request : TaskDelegationRequest)
  | delegate (objective target : String)
  | decide (actionId : UUID) (decision : Decision)
  | processNext
  | processAction (actionId : UUID)
  | execute (actionId : UUID)

namespace Container

variable {R : RunRepository}

/-- The method an operation calls. -/
def method (c : Container) : ContainerOp → Service Unit
  | .accept event => (EventWorkflowService.accept event).discard
  | .process eventId route =>
    (EventWorkflowService.process BasePlanner.plan c.permissionEngine eventId route).discard
  | .delegateTask request =>
    (ActionTaskDelegator.delegate c.executorRegistry c.permissionEngine request).discard
  | .delegate objective target =>
    (SoftwareEngineeringTaskIngress.delegate c.executorRegistry c.permissionEngine objective
      target).discard
  | .decide actionId decision => (decision.perform actionId).discard
  | .processNext => c.runtime.processNext.discard
  | .processAction actionId => (c.runtime.processAction actionId).discard
  | .execute actionId =>
    (SoftwareEngineeringTaskContinuation.execute c.runtime c.reviewer actionId).discard

/-- What an operation leaves, and whether it raises. -/
def step (env : Environment) (c : Container) (x : Site R) (op : ContainerOp) : Bool × Site R :=
  x.attempt env (c.method op)

end Container

end Velox
