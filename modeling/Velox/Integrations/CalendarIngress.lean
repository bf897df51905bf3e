import Velox.Events.Classifier
import Velox.Integrations.CalendarTransport

/-!
# Calendar ingress

A raw Calendar event becomes an event of the workflow, which is accepted and processed
at once. The action planned from it reads the event the raw data names, for the account
it was read from.

## Main definitions

* `CalendarEventNormalizer.normalize` — the event of raw Calendar data
* `CalendarIngressAdapter.ingest` — normalize, accept and process
* `PreparesMeeting` — an action that prepares the meeting of an event

## Main results

* `run_plan_normalized` — what is planned from raw Calendar data
* `ensures_ingest` — an ingress that succeeds evaluated that action, and nothing else
-/

set_option autoImplicit false

namespace Velox

/-! ### Ingress -/

/-- `BaseEventNormalizer.normalize`: raw data as the payload of an event. -/
def BaseEventNormalizer.normalize (source type : String) (rawEvent : Dict) : Task UniversalEvent := do
  return { id := ← uuid4, source, type, payload := rawEvent }

/-- Copy raw Calendar data and map its external identity. -/
def CalendarEventNormalizer.normalize (rawEvent : Dict) : Task UniversalEvent := do
  let event ← BaseEventNormalizer.normalize "calendar" "calendar.event" rawEvent
  let payload := match rawEvent.get "event_id" with
    | some eventId => event.payload.set "calendar_event_id" eventId
    | none => event.payload
  return { event with payload }

/-- Result of Calendar ingress. -/
structure CalendarIngressResult where
  event : UniversalEvent
  acceptance : UniversalEvent
  processing : EventProcessingResult

/-- Normalize, accept, and process one Calendar event. -/
def CalendarIngressAdapter.ingest (planner : Planner) (engine : PermissionEngine) (rawEvent : Dict)
    (integrationRoute : IntegrationRouteContext) : Service CalendarIngressResult := do
  let event ← Proc.embed (CalendarEventNormalizer.normalize rawEvent)
  let acceptance ← EventWorkflowService.accept event
  let processing ← EventWorkflowService.process planner engine event.id (some integrationRoute)
  return { event, acceptance, processing }

/-! ### The planned action -/

/-- The action prepares the meeting of an event, for the account of a route. -/
structure PreparesMeeting (eventId : Value) (route : IntegrationRouteContext) (action : Action) :
    Prop where
  type : action.type = "prepare_meeting"
  event : action.payload.get "calendar_event_id" = some eventId
  provider : action.payload.get "capability_provider" = some (.str route.provider)
  account : action.payload.get "account_context" = some (.dict [
    ("principal", (route.principal.map Value.str).getD .none),
    ("account_identifier", .str route.accountIdentifier)])

/-- The event that raw Calendar data becomes, given its identifier. -/
def normalizedEvent (rawEvent : Dict) (eventId : Value) (id : UUID) : UniversalEvent where
  id
  source := "calendar"
  type := "calendar.event"
  payload := rawEvent.set "calendar_event_id" eventId

section Ingest

variable [PyLower] {V : Type} {k : Handler Outside V} {v : V} {rawEvent : Dict} {eventId : Value}
  {route : IntegrationRouteContext}

omit [PyLower] in
theorem run_normalize (hid : rawEvent.get "event_id" = some eventId) :
    (CalendarEventNormalizer.normalize rawEvent).run k () v =
      ((.ok (normalizedEvent rawEvent eventId (k .uuid4 v).1), ()), (k .uuid4 v).2) := by
  have hnormalize : CalendarEventNormalizer.normalize rawEvent = (do
      let event ← BaseEventNormalizer.normalize "calendar" "calendar.event" rawEvent
      return { event with payload := event.payload.set "calendar_event_id" eventId }) := by
    rw [CalendarEventNormalizer.normalize, hid]
  rw [hnormalize]
  rfl

/-- The payload of a Calendar event leads to the action that prepares its meeting. -/
theorem preparesMeeting_plannedAction (id actionId : UUID) :
    PreparesMeeting eventId route (BasePlanner.plannedAction
      (processedOf (normalizedEvent rawEvent eventId id) (some route)) "prepare_meeting" actionId) := by
  have hcategory : (processedOf (normalizedEvent rawEvent eventId id)
      (some route)).classification.category = "calendar" := category_of_calendar rfl
  have hpayload : (BasePlanner.plannedAction (processedOf (normalizedEvent rawEvent eventId id)
      (some route)) "prepare_meeting" actionId).payload = .ofList [("calendar_event_id", eventId),
        ("capability_provider", .str route.provider),
        ("account_context", .dict [
          ("principal", (route.principal.map Value.str).getD .none),
          ("account_identifier", .str route.accountIdentifier)])] := by
    have hget : (normalizedEvent rawEvent eventId id).payload.get "calendar_event_id" =
      some eventId := OrderedDict.get_set_self
    rw [BasePlanner.plannedAction, BasePlanner.buildActionPayload, if_pos hcategory]
    show OrderedDict.ofList ((((normalizedEvent rawEvent eventId id).payload.get
      "calendar_event_id").map _).toList ++ _) = _
    rw [hget]
    rfl
  have hkeys : ["calendar_event_id", "capability_provider", "account_context"].Nodup := by decide
  refine ⟨rfl, ?_, ?_, ?_⟩
  all_goals
    rw [hpayload]
    exact OrderedDict.get_ofList_of_mem hkeys (by simp)

/-- From raw Calendar data exactly one action is planned: it prepares the meeting. -/
theorem run_plan_normalized (rawEvent : Dict) (eventId : Value) (route : IntegrationRouteContext)
    (id : UUID) :
    ∃ action, (BasePlanner.plan (processedOf (normalizedEvent rawEvent eventId id)
        (some route))).run (ruleBased k) () v = ((.ok [action], ()), (k .uuid4 v).2) ∧
      PreparesMeeting eventId route action := by
  have hcategory : (processedOf (normalizedEvent rawEvent eventId id)
      (some route)).classification.category = "calendar" := category_of_calendar rfl
  refine ⟨BasePlanner.plannedAction (processedOf (normalizedEvent rawEvent eventId id) (some route))
    "prepare_meeting" (k .uuid4 v).1, ?_, preparesMeeting_plannedAction id _⟩
  rw [BasePlanner.plan, hcategory]
  rfl

omit [PyLower] in
/-- Evaluating an action changes neither its type nor its payload. -/
theorem ensures_evaluateAction_payload {engine : PermissionEngine} {action : Action} {s : Stores} :
    (PermissionEngineRuntime.evaluateAction engine action).Ensures k (fun _ _ => True)
      (fun r _ _ => ∀ evaluation, r = .ok evaluation →
        evaluation.action.type = action.type ∧ evaluation.action.payload = action.payload) s v := by
  rw [PermissionEngineRuntime.evaluateAction, Proc.ensures_bind, Proc.ensures_embed,
    Proc.ensures_true_iff]
  cases ((PermissionEngineRuntime.resolveDecision engine action).run k () v).1.1 with
  | error e => exact fun evaluation h => by cases h
  | ok decision =>
    rw [Except.either_ok, PermissionEngineRuntime.ensures_recordDecision]
    cases decision.modelDump with
    | error e => exact fun evaluation h => by cases h
    | ok dump =>
      rintro evaluation h
      obtain rfl := Except.ok.inj h
      exact ⟨rfl, rfl⟩

omit [PyLower] in
/-- An event that was accepted is found. -/
theorem getEvent_withEvent {s : Stores} {event : UniversalEvent}
    (h : ¬(s.events.repository.getEvent event.id).isSome) :
    (EventWorkflowService.withEvent s event).events.repository.getEvent event.id = some event := by
  have hnone : s.events.repository.find? (fun e => e.id = event.id) = none :=
    Option.not_isSome_iff_eq_none.mp h
  show (s.events.repository ++ [event]).find? _ = _
  rw [List.find?_append, hnone]
  simp

/-- An ingress that succeeds evaluated the action that prepares the meeting, and nothing
else. -/
theorem ensures_ingest {engine : PermissionEngine} {s : Stores}
    (hid : rawEvent.get "event_id" = some eventId) :
    (CalendarIngressAdapter.ingest BasePlanner.plan engine rawEvent route).Ensures (ruleBased k)
      (fun _ _ => True) (fun r _ _ => ∀ ingress, r = .ok ingress →
        ∃ evaluation, ingress.processing.permissionEvaluations = [evaluation] ∧
          PreparesMeeting eventId route evaluation.action) s v := by
  rw [CalendarIngressAdapter.ingest, Proc.ensures_bind, Proc.ensures_embed, Proc.ensures_true_iff,
    run_normalize hid, Except.either_ok, Proc.ensures_bind, EventWorkflowService.ensures_accept]
  split_ifs with hstored
  · exact fun ingress h => nomatch h
  obtain ⟨action, hplanned, hprepares⟩ := run_plan_normalized (k := k)
    (v := (ruleBased k .uuid4 v).2) rawEvent eventId route (ruleBased k .uuid4 v).1
  rw [Except.either_ok, Proc.ensures_bind, EventWorkflowService.ensures_process,
    getEvent_withEvent hstored]
  dsimp only
  split_ifs
  · rw [Proc.ensures_true_iff, run_process_ruleBased, Except.either_ok, Proc.ensures_true_iff,
      hplanned, Except.either_ok, PermissionEngineRuntime.evaluate, Proc.ensures_bind]
    refine ensures_evaluateAction_payload.mono fun r s' v' hevaluation => ?_
    cases r with
    | error e => exact fun ingress h => nomatch h
    | ok evaluation =>
      obtain ⟨htype, hpayload⟩ := hevaluation evaluation rfl
      rintro ingress h
      obtain rfl := Except.ok.inj h
      refine ⟨evaluation, rfl, htype.trans hprepares.type, ?_, ?_, ?_⟩
      · rw [hpayload, hprepares.event]
      · rw [hpayload, hprepares.provider]
      · rw [hpayload, hprepares.account]
  · exact fun ingress h => nomatch h

end Ingest

end Velox
