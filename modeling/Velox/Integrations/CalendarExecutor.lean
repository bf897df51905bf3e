import Velox.Integrations.CalendarTransport

/-!
# The Calendar executor

One meeting-context lookup or one page of an event listing per execution. A
response of the provider becomes a result that carries allowlisted event fields,
mirrors of the request and the response, and never a page token outside
`next_page_token`.

## Main definitions

* `pageTokenRedactedAction` — an action as results carry it
* `allowlistedCalendarEvent`, `calendarEventListResult` — what a response offers
* `CalendarWorkerExecutor.execute`
* `CalendarWorkerExecutor.listResult` — the result of one page

## Main results

* `CalendarWorkerExecutor.execute_list` — the list capability asks the provider once
-/

set_option autoImplicit false

/-- The elements of a list or a tuple. -/
def Value.elements? : Value → Option (List Value)
  | .list xs | .tuple xs => some xs
  | _ => Option.none

namespace Velox

/-- `_REDACTED_QUERY_VALUE`. -/
def redactedQueryValue : Value := .str "<redacted>"

/-- Safe result of a Calendar capability. -/
structure CalendarCapabilityResult where
  status : WorkerExecutionStatus
  reason : Option String := none
  metadata : Dict := ∅

/-- `_page_token_redacted_action`: the action with its page token replaced; an
action without one is returned as it is. -/
def pageTokenRedactedAction (action : Action) : Action :=
  if action.payload.contains "page_token" then
    { action with payload := action.payload.set "page_token" redactedQueryValue }
  else action

/-! ### What a response offers -/

/-- A list of texts, if every element is one. -/
def textList (values : List Value) : Option (List String) := values.mapM Value.text?

/-- `_allowlisted_calendar_event`: the five allowlisted fields, or nothing when the
event is malformed. -/
def allowlistedCalendarEvent : Value → Option CalendarEvent
  | .dict event => do
    let eventId ← ((lookupEntry event "event_id").bind Value.text?).filter (Python.strip · ≠ "")
    let title ← (lookupEntry event "title").bind Value.text?
    let start ← (lookupEntry event "start").bind Value.text?
    let end_ ← (lookupEntry event "end").bind Value.text?
    let attendees ← ((lookupEntry event "attendees").bind Value.elements?).bind textList
    return { eventId, title, start, end_, attendees }
  | _ => none

/-- The mark of the deterministic transport, which results keep. -/
def fakeAdapter (body : Dict) : List (String × Value) :=
  if body.get "adapter" = some (.str "fake_transport") then [("adapter", .str "fake_transport")]
  else []

/-- The result of a response that cannot be used. -/
def invalidEventData (reason : String) : CalendarCapabilityResult where
  status := .failed
  reason := some reason

/-- `_calendar_capability_result`. -/
def calendarCapabilityResult (response : GoogleProviderResponse) (calendarEventId : String) :
    CalendarCapabilityResult :=
  let invalid := invalidEventData "calendar provider returned invalid event data"
  let succeeded (metadata : List (String × Value)) : CalendarCapabilityResult := {
    status := .succeeded
    reason := some "calendar meeting context provider result"
    metadata := .ofList metadata }
  match response.body.get "found" with
  | some (.bool false) => succeeded (("found", .bool false) :: fakeAdapter response.body)
  | some (.bool true) =>
    match (response.body.get "event").bind allowlistedCalendarEvent with
    | none => invalid
    | some event =>
      if event.eventId ≠ calendarEventId then invalid
      else succeeded (("found", .bool true) :: fakeAdapter response.body ++
        [("event", .dict event.entries)])
  | _ => invalid

/-- The metadata of one page. -/
def pageMetadata (events : List CalendarEvent) (skippedEventCount : ℤ)
    (nextPageToken : Option String) : List (String × Value) :=
  [("events", .tuple (events.map fun event => .dict event.entries)),
    ("event_count", .int events.length),
    ("next_page_token", optionalText nextPageToken),
    ("has_more_pages", .bool nextPageToken.isSome),
    ("page_complete", .bool (skippedEventCount = 0)),
    ("skipped_event_count", .int skippedEventCount)]

/-- `_calendar_event_list_result`: one bounded page with explicit completeness
metadata. -/
def calendarEventListResult (response : GoogleProviderResponse) : CalendarCapabilityResult :=
  let page := do
    let events ← (← (response.body.get "events").bind Value.elements?).mapM allowlistedCalendarEvent
    let skippedEventCount ← (response.body.get "skipped_event_count").bind Value.integer?
    let nextPageToken ← reportedPageToken (response.body.get "next_page_token")
    if skippedEventCount < 0 then none
    else return pageMetadata events skippedEventCount nextPageToken
  match page with
  | none => invalidEventData "calendar provider returned invalid event list data"
  | some page => {
      status := .succeeded
      reason := some "calendar event list provider result"
      metadata := .ofList (page ++ fakeAdapter response.body) }

/-! ### Mirrors of the request and the response -/

/-- `_calendar_provider_request_metadata`: the page token is replaced. -/
def calendarProviderRequestMetadata (request : GoogleProviderRequest) : Value :=
  .dict [("operation", .str request.operation), ("path", .str request.path),
    ("method", .str request.method),
    ("body", (request.body.map fun body => Value.dict body.entries).getD .none),
    ("query", .dict (request.query.entries.map fun entry =>
      (entry.1, if entry.1 = "pageToken" then redactedQueryValue else entry.2))),
    ("account_context", (request.accountContext.map (·.asMetadata)).getD .none)]

/-- The adapters a result may name. -/
def knownAdapters : List String := ["fake_transport", "fake_provider_composition", "httpx_transport"]

/-- `_calendar_provider_response_metadata`. -/
def calendarProviderResponseMetadata (response : GoogleProviderResponse) : Value :=
  let flag (key : String) : List (String × Value) :=
    match response.body.get key with
    | some (.bool b) => [(key, .bool b)]
    | _ => []
  let integration : List (String × Value) :=
    if response.body.get "integration" = some (.str "calendar") then
      [("integration", .str "calendar")]
    else []
  let adapter : List (String × Value) :=
    match response.body.get "adapter" with
    | some (.str adapter) => if adapter ∈ knownAdapters then [("adapter", .str adapter)] else []
    | _ => []
  .dict (flag "external_execution_performed" ++ integration ++ adapter ++ flag "failed")

/-! ### The executor -/

namespace CalendarWorkerExecutor

/-- `_result_metadata`. -/
def resultMetadata (response : GoogleProviderResponse) (request : GoogleProviderRequest)
    (capability : String) (accountContext : Option WorkerAccountContext)
    (extra : List (String × Value)) : Dict :=
  .ofList ([("external_execution_performed",
      .bool (response.body.get "external_execution_performed" = some (.bool true))),
    ("integration", .str "calendar"), ("capability", .str capability)] ++ extra ++
    [("account_context_used", (accountContext.map (·.asMetadata)).getD .none),
      ("provider_request", calendarProviderRequestMetadata request),
      ("provider_response", calendarProviderResponseMetadata response)])

/-- `_provider_failure_result`, for a response that carries a failure. -/
def providerFailureResult (action : Action) (response : GoogleProviderResponse)
    (metadata : Dict) (failure : GoogleProviderFailure) : WorkerExecutionResult where
  action
  status := .failed
  reason := some failure.message
  metadata
  failure := some {
    category := failure.category
    message := some failure.message
    metadata := failure.metadata.update [("provider_status_code", .int response.statusCode),
      ("provider_reason", optionalText failure.providerReason),
      ("retryable", .bool failure.retryable)] }

/-- `_capability_worker_result`. -/
def capabilityWorkerResult (action : Action) (response : GoogleProviderResponse)
    (resultMetadata : Dict) (capabilityResult : CalendarCapabilityResult) : WorkerExecutionResult :=
  if capabilityResult.status ≠ .succeeded then {
    action
    status := capabilityResult.status
    reason := capabilityResult.reason
    metadata := resultMetadata
    failure := some {
      category := .internal
      message := capabilityResult.reason
      metadata := .ofList [("provider_status_code", .int response.statusCode)] } }
  else {
    action
    status := capabilityResult.status
    reason := capabilityResult.reason
    metadata := resultMetadata.update capabilityResult.metadata.entries }

/-- The result of a provider response: its failure, or what the capability makes
of it. -/
def providerResult (action : Action) (request : GoogleProviderRequest) (capability : String)
    (accountContext : Option WorkerAccountContext) (extra : List (String × Value))
    (capabilityResult : GoogleProviderResponse → CalendarCapabilityResult)
    (response : GoogleProviderResponse) : WorkerExecutionResult :=
  let metadata := resultMetadata response request capability accountContext extra
  match response.failure with
  | some failure => providerFailureResult action response metadata failure
  | none => capabilityWorkerResult action response metadata (capabilityResult response)

/-- The result of a request the executor itself rejects, naming the field. -/
def invalidRequestResult (action : Action) (capability reason field : String) :
    WorkerExecutionResult where
  action
  status := .failed
  reason := some reason
  metadata := .ofList [("external_execution_performed", .bool false),
    ("integration", .str "calendar"), ("capability", .str capability)]
  failure := some {
    category := .permanent
    message := some reason
    metadata := .ofList [("field", .str field)] }

/-- Ask the provider and make a result of its response. -/
def askProvider (request : GoogleProviderRequest)
    (result : GoogleProviderResponse → WorkerExecutionResult) :
    Prog ProviderCalls (Except Raised WorkerExecutionResult) :=
  .call (F := ProviderCalls) request fun response => .ret (response.map result)

variable [PyParse]

/-- The provider request for one page. -/
def listProviderRequest (capability : String) (accountContext : Option WorkerAccountContext)
    (listRequest : CalendarEventListRequest) : GoogleProviderRequest where
  operation := capability
  path := googleCalendarEventsPath
  query := listRequest.asQuery
  accountContext

/-- What the metadata of a page says of its request: whether it continued a walk,
never with which token. -/
def listExtra (listRequest : CalendarEventListRequest) : List (String × Value) :=
  [("time_min", .str listRequest.timeMin), ("time_max", .str listRequest.timeMax),
    ("max_results", .int listRequest.maxResults),
    ("page_token_supplied", .bool listRequest.pageToken.isSome)]

/-- The result of one page. -/
def listResult (action : Action) (capability : String)
    (accountContext : Option WorkerAccountContext) (listRequest : CalendarEventListRequest)
    (response : GoogleProviderResponse) : WorkerExecutionResult :=
  providerResult (pageTokenRedactedAction action)
    (listProviderRequest capability accountContext listRequest) capability accountContext
    (listExtra listRequest) calendarEventListResult response

/-- The list request an action carries. -/
def listRequestOf (action : Action) : Except CalendarEventListRequestError CalendarEventListRequest :=
  CalendarEventListRequest.new ((action.payload.get "time_min").getD .none)
    ((action.payload.get "time_max").getD .none) ((action.payload.get "max_results").getD .none)
    ((action.payload.get "page_token").getD .none)

/-- `_execute_list_provider_request`. -/
def executeListProviderRequest (action : Action) (capability : String)
    (accountContext : Option WorkerAccountContext) :
    Prog ProviderCalls (Except Raised WorkerExecutionResult) :=
  match listRequestOf action with
  | .error error =>
    .ret (.ok (invalidRequestResult (pageTokenRedactedAction action) capability error.message
      error.field))
  | .ok listRequest =>
    askProvider (listProviderRequest capability accountContext listRequest)
      (listResult action capability accountContext listRequest)

/-- `_execute_provider_request`. -/
def executeProviderRequest (action : Action) (capability calendarEventId : String)
    (accountContext : Option WorkerAccountContext) :
    Prog ProviderCalls (Except Raised WorkerExecutionResult) :=
  let request : GoogleProviderRequest := {
    operation := capability
    path := googleCalendarEventPathPrefix ++ PyParse.quote calendarEventId
    accountContext }
  askProvider request (providerResult action request capability accountContext
    [("calendar_event_id", .str calendarEventId)] (calendarCapabilityResult · calendarEventId))

/-- `execute`. -/
def execute (action : Action) (capability : Option String)
    (accountContext : Option WorkerAccountContext) :
    Prog ProviderCalls (Except Raised WorkerExecutionResult) :=
  let resolvedCapability := (capability.bind orNone).getD action.type
  if resolvedCapability ∉ calendarCapabilityIdentifiers then
    .ret (.ok {
      action
      status := .skipped
      reason := some "calendar executor has no capability for this action type"
      metadata := .ofList [("external_execution_performed", .bool false),
        ("integration", .str "calendar"), ("placeholder", .bool true), ("skipped", .bool true)] })
  else if resolvedCapability ∈ calendarListCapabilityIdentifiers then
    executeListProviderRequest action resolvedCapability accountContext
  else
    match ((action.payload.get "calendar_event_id").bind Value.text?).filter
        (Python.strip · ≠ "") with
    | none =>
      .ret (.ok (invalidRequestResult action resolvedCapability
        "calendar meeting context request invalid calendar_event_id" "calendar_event_id"))
    | some calendarEventId =>
      executeProviderRequest action resolvedCapability (Python.strip calendarEventId) accountContext

/-- The list capability reads one page. -/
theorem execute_list (action : Action) (accountContext : Option WorkerAccountContext) :
    execute action (some CALENDAR_LIST_EVENTS) accountContext =
      executeListProviderRequest action CALENDAR_LIST_EVENTS accountContext := by
  have hresolved : ((some CALENDAR_LIST_EVENTS).bind orNone).getD action.type =
    CALENDAR_LIST_EVENTS := rfl
  have hknown : ¬CALENDAR_LIST_EVENTS ∉ calendarCapabilityIdentifiers := by decide
  have hlist : CALENDAR_LIST_EVENTS ∈ calendarListCapabilityIdentifiers := by decide
  simp only [execute, hresolved, hknown, hlist, if_true, if_false]

end CalendarWorkerExecutor

end Velox
