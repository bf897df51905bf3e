import Velox.Core.Permission

/-!
# The event workflow

Accepting stores an event and puts it into the inbox. Processing runs it through
the pipeline, takes it out of the inbox, plans actions for it and evaluates their
permission.

## Main definitions

* `BasePlanner.plan` — the rule-based planner
* `EventProcessingPipeline.process` — classify and resolve context
* `EventWorkflowService.accept`, `EventWorkflowService.process`

## Main results

* `EventWorkflowService.ensures_process` — what processing does, step by step,
  wherever it raises
-/

set_option autoImplicit false

namespace Velox

/-! ### Planning -/

/-- A planner: candidate actions for a processed event. -/
abbrev Planner := ProcessedEvent → Task (List Action)

namespace BasePlanner

/-- The action type planned for each category. -/
def actionTypesByCategory : List (String × String) :=
  [("github", "review_pull_request"), ("gmail", "summarize_email"),
    ("calendar", "prepare_meeting")]

/-- The executor role asked for each category. -/
def executorRolesByCategory : List (String × ExecutorRole) :=
  [("github", .contentReview), ("gmail", .contentSummary), ("calendar", .contextPreparation)]

/-- `_build_action_payload`. -/
def buildActionPayload (processedEvent : ProcessedEvent) : Dict :=
  .ofList <|
    (if processedEvent.classification.category = "calendar" then
      ((processedEvent.event.payload.get "calendar_event_id").map
        fun value => ("calendar_event_id", value)).toList
    else []) ++
    match processedEvent.integrationRoute with
    | none => []
    | some route =>
      [("capability_provider", .str route.provider),
        ("account_context", .dict [
          ("principal", (route.principal.map Value.str).getD .none),
          ("account_identifier", .str route.accountIdentifier)])]

/-- The action planned for a processed event, given its identifier. -/
def plannedAction (processedEvent : ProcessedEvent) (type : String) (id : UUID) : Action where
  id
  type
  target := UUID.str processedEvent.event.id
  payload := buildActionPayload processedEvent
  executorRole := (executorRolesByCategory.lookup processedEvent.classification.category).map
    ExecutorRole.value
  metadata := .ofList [("event_id", .str (UUID.str processedEvent.event.id)),
    ("category", .str processedEvent.classification.category)]

/-- Candidate actions without executing them. -/
def plan : Planner := fun processedEvent =>
  match actionTypesByCategory.lookup processedEvent.classification.category with
  | none => pure []
  | some type => do return [plannedAction processedEvent type (← uuid4)]

end BasePlanner

/-! ### The pipeline and the workflow -/

/-- Classify an event, resolve its context, and return the result. -/
def EventProcessingPipeline.process (event : UniversalEvent)
    (integrationRoute : Option IntegrationRouteContext) : Task ProcessedEvent := do
  let classification ← classify event
  let context ← resolveContext event classification
  return { event, classification, context, integrationRoute }

/-- Domain results needed by callers after processing one event. -/
structure EventProcessingResult where
  processedEvent : ProcessedEvent
  permissionEvaluations : List PermissionEvaluation

namespace EventWorkflowService

/-- Update the stores of the event workflow. -/
def modifyEvents (f : EventStores → EventStores) : Service Unit :=
  modify fun s => s.setEvents (f s.events)

/-- `event_lifecycle_states[event_id] = state`. -/
def setState (eventId : UUID) (state : EventLifecycleState) : Service Unit :=
  modifyEvents fun events =>
    { events with lifecycleStates := events.lifecycleStates.set eventId state }

/-- The lifecycle state of an event, pending where none is stored. -/
def stateOf (events : EventStores) (eventId : UUID) : EventLifecycleState :=
  (events.lifecycleStates.get eventId).getD { eventId, status := .pending }

/-- Accept, store, enqueue, and initialize one event. -/
def accept (event : UniversalEvent) : Service UniversalEvent := do
  let s ← get
  if (s.events.repository.getEvent event.id).isSome then
    throw ⟨.duplicateEventError, "event " ++ UUID.str event.id ++ " already exists"⟩
  else
    modifyEvents fun events => { events with repository := events.repository ++ [event] }
    modifyEvents fun events => { events with inbox := events.inbox ++ [event] }
    let pendingState ← Proc.ofExcept
      (EventLifecycleManager.transition { eventId := event.id, status := .accepted } .pending)
    setState event.id pendingState
    return event

/-- Run the pipeline; an exception marks the event failed. -/
def runPipeline (event : UniversalEvent) (integrationRoute : Option IntegrationRouteContext)
    (processingState : EventLifecycleState) : Service ProcessedEvent :=
  tryCatch (Proc.embed (EventProcessingPipeline.process event integrationRoute)) fun error => do
    if error.isException then
      let failedState ← Proc.ofExcept
        (EventLifecycleManager.transition processingState .failed (some error.message))
      setState event.id failedState
      throw ⟨.eventProcessingError, "event processing failed"⟩
    else throw error

/-- Process one stored event and prepare its queueable actions. -/
def process (planner : Planner) (engine : PermissionEngine) (eventId : UUID)
    (integrationRoute : Option IntegrationRouteContext) : Service EventProcessingResult := do
  let s ← get
  match s.events.repository.getEvent eventId with
  | none => throw ⟨.eventNotFoundError, "event " ++ UUID.str eventId ++ " not found"⟩
  | some event =>
    let processingState ←
      match EventLifecycleManager.transition (stateOf s.events eventId) .processing with
      | .ok processingState => pure processingState
      | .error error => throw ⟨.eventLifecycleConflictError, error.message⟩
    setState eventId processingState
    let processedEvent ← runPipeline event integrationRoute processingState
    let processedState ←
      Proc.ofExcept (EventLifecycleManager.transition processingState .processed)
    setState eventId processedState
    modifyEvents fun events => { events with inbox := events.inbox.markProcessed eventId }
    -- from here on the event no longer waits in the inbox
    let actions ← Proc.embed (planner processedEvent)
    let permissionEvaluations ← PermissionEngineRuntime.evaluate engine actions
    modify fun s => s.setQueue (s.actionQueue.enqueueMany
      (PermissionEngineRuntime.queueableActions permissionEvaluations))
    return { processedEvent, permissionEvaluations }

/-! ### What accepting and processing do -/

section Ensures

variable {W : Type} {h : Handler Outside W} {P : OutsideCall → W → Prop} {s : Stores} {w : W}

/-- The stores with a new lifecycle state of an event. -/
def withState (s : Stores) (eventId : UUID) (state : EventLifecycleState) : Stores :=
  s.setEvents
    { s.events with lifecycleStates := s.events.lifecycleStates.set eventId state }

/-- The stores with an accepted event. -/
def withEvent (s : Stores) (event : UniversalEvent) : Stores :=
  withState
    (s.setEvents { s.events with
      repository := s.events.repository ++ [event]
      inbox := s.events.inbox ++ [event] })
    event.id { eventId := event.id, status := .pending }

/-- The stores once an event went through the pipeline. -/
def consumed (s : Stores) (eventId : UUID) (state : EventLifecycleState) : Stores :=
  (withState s eventId state).setEvents
    { (withState s eventId state).events with
      inbox := s.events.inbox.markProcessed eventId }

theorem ensures_accept {event : UniversalEvent}
    {Q : Except Raised UniversalEvent → Stores → W → Prop} :
    (accept event).Ensures h P Q s w ↔
      if (s.events.repository.getEvent event.id).isSome then
        Q (.error ⟨.duplicateEventError, "event " ++ UUID.str event.id ++ " already exists"⟩) s w
      else Q (.ok event) (withEvent s event) w := by
  simp only [accept, Proc.ensures_bind, Proc.ensures_get, Except.either_ok]
  split_ifs with hstored
  · simp
  · simp [modifyEvents, setState, EventLifecycleManager.transition,
      EventLifecycleManager.validTransitions, withEvent, withState, normalizeBlankReason,
      Stores.setEvents]

/-- Outside a pending or failed event nothing is processed. -/
theorem transition_processing (state : EventLifecycleState) :
    EventLifecycleManager.transition state .processing =
      if state.status ∈ [.pending, .failed] then
        .ok { state with status := .processing, reason := none }
      else .error ⟨.valueError,
        "invalid lifecycle transition: " ++ state.status.value ++ " -> processing"⟩ := by
  rcases state with ⟨id, status, reason⟩
  cases status <;> rfl

theorem transition_processed {state : EventLifecycleState} (hstatus : state.status = .processing) :
    EventLifecycleManager.transition state .processed =
      .ok { state with status := .processed, reason := none } :=
  EventLifecycleManager.transition_eq_ok (by rw [hstatus]; decide) (by simp)

theorem transition_failed {state : EventLifecycleState} (hstatus : state.status = .processing)
    (reason : String) :
    EventLifecycleManager.transition state .failed (some reason) =
      .ok { state with status := .failed, reason := normalizeBlankReason (some reason) } :=
  EventLifecycleManager.transition_eq_ok (by rw [hstatus]; decide) (by simp)

theorem ensures_runPipeline {event : UniversalEvent} {route : Option IntegrationRouteContext}
    {processing : EventLifecycleState} {Q : Except Raised ProcessedEvent → Stores → W → Prop}
    (hstatus : processing.status = .processing) :
    (runPipeline event route processing).Ensures h P Q s w ↔
      (EventProcessingPipeline.process event route).Ensures h P (fun processed _ w =>
        processed.either (fun processedEvent => Q (.ok processedEvent) s w) fun e =>
          if e.isException then
            Q (.error ⟨.eventProcessingError, "event processing failed"⟩)
              (withState s event.id { processing with
                status := .failed
                reason := normalizeBlankReason (some e.message) }) w
          else Q (.error e) s w) () w := by
  simp only [runPipeline, Proc.ensures_tryCatch, Proc.ensures_embed]
  refine Proc.ensures_congr fun processed _ w => ?_
  rcases processed with e | processedEvent
  · by_cases he : e.isException = true
    · simp [he, transition_failed hstatus, setState, modifyEvents, withState]
    · simp [he]
  · rfl

/-- Processing a pending or failed event: a pipeline that raises leaves it in the
inbox; planning and permission evaluation come after it has been taken out. -/
theorem ensures_process {planner : Planner} {engine : PermissionEngine} {eventId : UUID}
    {route : Option IntegrationRouteContext}
    {Q : Except Raised EventProcessingResult → Stores → W → Prop} :
    (process planner engine eventId route).Ensures h P Q s w ↔
      match s.events.repository.getEvent eventId with
      | none => Q (.error ⟨.eventNotFoundError, "event " ++ UUID.str eventId ++ " not found"⟩) s w
      | some event =>
        let state := stateOf s.events eventId
        if state.status ∈ [.pending, .failed] then
          let processing := withState s eventId { state with status := .processing, reason := none }
          (EventProcessingPipeline.process event route).Ensures h P (fun processed _ w =>
            processed.either
              (fun processedEvent =>
                let consumed := consumed processing eventId
                  { state with status := .processed, reason := none }
                (planner processedEvent).Ensures h P (fun planned _ w =>
                  planned.either
                    (fun actions =>
                      (PermissionEngineRuntime.evaluate engine actions).Ensures h P
                        (fun evaluated s w => evaluated.either
                          (fun permissionEvaluations =>
                            Q (.ok { processedEvent, permissionEvaluations })
                              (s.setQueue (s.actionQueue.enqueueMany
                                (PermissionEngineRuntime.queueableActions
                                  permissionEvaluations))) w)
                          fun e => Q (.error e) s w)
                        consumed w)
                    fun e => Q (.error e) consumed w) () w)
              fun e =>
                if e.isException then
                  Q (.error ⟨.eventProcessingError, "event processing failed"⟩)
                    (withState processing eventId { state with
                      status := .failed
                      reason := normalizeBlankReason (some e.message) }) w
                else Q (.error e) processing w) () w
        else Q (.error ⟨.eventLifecycleConflictError,
          "invalid lifecycle transition: " ++ state.status.value ++ " -> processing"⟩) s w := by
  simp only [process, Proc.ensures_bind, Proc.ensures_get, Except.either_ok]
  rcases hstored : s.events.repository.getEvent eventId with _ | event
  · simp
  obtain rfl : event.id = eventId := (EventStore.getEvent_eq_some hstored).2
  simp only [transition_processing]
  split_ifs with hstatus
  · simp only [Proc.ensures_bind, Proc.ensures_pure, Except.either_ok, setState, modifyEvents,
      Proc.ensures_modify, ensures_runPipeline]
    refine Proc.ensures_congr fun processed _ w => ?_
    rcases processed with e | processedEvent
    · rfl
    · simp [transition_processed, consumed, withState]
  · simp

end Ensures

end EventWorkflowService

end Velox
