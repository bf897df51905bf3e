import Velox.Integrations.CalendarRequest
import Velox.Integrations.GoogleProvider

/-!
# Calendar transports

What stands between the Calendar integration and Google: the deterministic
in-memory transport, which mints and reads its own page tokens, and the HTTP
transport, which re-validates every request and maps every response.

A JSON number with a fraction is an object here: no check tells it from another
value that is neither text, integer, list nor dictionary. The HTTP timeout is left out.

## Main definitions

* `CalendarEvent` — the five allowlisted fields of an event
* `FakeCalendarTransportClient.execute`
* `HttpxCalendarTransportClient.execute`
* `HttpxCalendarTransportClient.isBoundedListRequest` — the last check before HTTP
* `HttpxCalendarTransportClient.parseEventList` — one page of a listing, mapped

## Main results

* `FakeCalendarTransportClient.pageTokenOffset_mintedToken` — a minted token reads back
-/

set_option autoImplicit false

/-- Whether a JSON value has a hash. -/
def Value.isHashable : Value → Bool
  | .list _ | .dict _ => false
  | _ => true

namespace Velox

/-! ### Capabilities and paths -/

def CALENDAR_PREPARE_MEETING : String := "prepare_meeting"

def CALENDAR_PREPARE_CONTEXT : String := "prepare_calendar_context"

def CALENDAR_LIST_EVENTS : String := "list_calendar_events"

/-- `_CALENDAR_EVENT_READ_CAPABILITY_IDENTIFIERS`. -/
def calendarEventReadCapabilityIdentifiers : List String :=
  [CALENDAR_PREPARE_MEETING, CALENDAR_PREPARE_CONTEXT]

/-- `_CALENDAR_LIST_CAPABILITY_IDENTIFIERS`. -/
def calendarListCapabilityIdentifiers : List String := [CALENDAR_LIST_EVENTS]

/-- `_CALENDAR_CAPABILITY_IDENTIFIERS`. -/
def calendarCapabilityIdentifiers : List String :=
  [CALENDAR_PREPARE_MEETING, CALENDAR_PREPARE_CONTEXT, CALENDAR_LIST_EVENTS]

/-- `_GOOGLE_CALENDAR_EVENTS_PATH`. -/
def googleCalendarEventsPath : String := "/calendar/v3/calendars/primary/events"

/-- `_GOOGLE_CALENDAR_EVENT_PATH_PREFIX`. -/
def googleCalendarEventPathPrefix : String := googleCalendarEventsPath ++ "/"

/-- `_CALENDAR_LIST_QUERY_FIELDS`. -/
def calendarListQueryFields : List String :=
  ["timeMin", "timeMax", "maxResults", "singleEvents", "orderBy"]

/-- `_CALENDAR_LIST_PAGED_QUERY_FIELDS`. -/
def calendarListPagedQueryFields : List String := calendarListQueryFields ++ ["pageToken"]

/-- `_GOOGLE_RATE_LIMIT_REASONS`. -/
def googleRateLimitReasons : List String :=
  ["rateLimitExceeded", "userRateLimitExceeded", "quotaExceeded"]

/-- The allowlisted fields of a Calendar event. -/
structure CalendarEvent where
  eventId : String
  title : String
  start : String
  end_ : String
  attendees : List String := []
  deriving DecidableEq

/-- The entries of an event, as results carry it. -/
def CalendarEvent.entries (event : CalendarEvent) : List (String × Value) :=
  [("event_id", .str event.eventId), ("title", .str event.title), ("start", .str event.start),
    ("end", .str event.end_), ("attendees", .tuple (event.attendees.map .str))]

/-- A continuation token as Google, a response or a result reports it: absent, or a
non-blank text. The transport, the executor and the orchestrator check it alike. -/
def reportedPageToken : Option Value → Option (Option String)
  | none | some .none => some none
  | some (.str token) => if Python.strip token = "" then none else some (some token)
  | some _ => none

/-- `text.removeprefix(start)` of a text that starts so; `none` of any other. -/
def removePrefix (start text : String) : Option String :=
  if start.toList <+: text.toList then some (String.ofList (text.toList.drop start.toList.length))
  else none

theorem intOfText_toString [PyParse] {n : ℕ} (h : n < 10 ^ Python.intMaxStrDigits) :
    intOfText (toString n) = .ok (n : ℤ) := by
  rw [intOfText, PyParse.parseInt_toString n h]
  rfl

theorem removePrefix_append (start text : String) : removePrefix start (start ++ text) = some text := by
  have hpre : start.toList <+: (start ++ text).toList := by simp
  rw [removePrefix, if_pos hpre, String.toList_append, List.drop_left, String.ofList_toList]

/-! ### The deterministic transport -/

/-- Deterministic provider-backed Calendar event transport. -/
structure FakeCalendarTransportClient where
  responses : OrderedDict String GoogleProviderResponse := ∅
  failures : OrderedDict String GoogleProviderFailure := ∅
  events : OrderedDict String CalendarEvent := .ofList [("calendar-event-1", {
    eventId := "calendar-event-1"
    title := "Sprint 1 planning"
    start := "2026-07-27T09:00:00Z"
    end_ := "2026-07-27T09:30:00Z"
    attendees := ["owner@example.com", "team@example.com"] })]

namespace FakeCalendarTransportClient

variable [PyParse] (client : FakeCalendarTransportClient)

/-- `_FAKE_CALENDAR_PAGE_TOKEN_PREFIX`. -/
def fakeCalendarPageTokenPrefix : String := "fake-calendar-page-"

/-- The token of the page that starts at an offset. -/
def mintedToken (offset : ℕ) : String := fakeCalendarPageTokenPrefix ++ toString offset

/-- `_page_token_offset`. -/
def pageTokenOffset (pageToken : Value) (eventCount : ℕ) : Except Raised (Option ℕ) :=
  match pageToken with
  | .str pageToken =>
    match removePrefix fakeCalendarPageTokenPrefix pageToken with
    | none => return none
    | some offset =>
      if Python.isdigit offset = false then return none
      else do
        let offset ← intOfText offset
        if offset > eventCount then return none else return some offset.toNat
  | _ => return none

/-- `_invalid_page_token_response`. -/
def invalidPageTokenResponse : GoogleProviderResponse where
  statusCode := 400
  body := .ofList [("external_execution_performed", .bool false), ("integration", .str "calendar"),
    ("adapter", .str "fake_transport"), ("failed", .bool true)]
  failure := some {
    category := .permanent
    message := "Google Calendar rejected the event request"
    providerStatusCode := some 400
    providerReason := some "invalidRequest" }

/-- The page of at most `limit` events that starts at an offset. -/
def pageResponse (limit offset : ℕ) : GoogleProviderResponse :=
  let ordered := client.events.values
  let page := (ordered.drop offset).take limit
  let nextOffset := offset + page.length
  { statusCode := 200
    body := .ofList [("external_execution_performed", .bool false),
      ("integration", .str "calendar"), ("adapter", .str "fake_transport"),
      ("events", .tuple (page.map fun event => .dict event.entries)),
      ("skipped_event_count", .int 0),
      ("next_page_token",
        optionalText (if nextOffset < ordered.length then some (mintedToken nextOffset) else none))] }

/-- `_default_list_response`. -/
def defaultListResponse (request : GoogleProviderRequest) : Except Raised GoogleProviderResponse := do
  let limit ← match request.query.get "maxResults" with
    | some (.str maxResults) =>
      if Python.isdigit maxResults then do
        let limit ← intOfText maxResults
        pure limit.toNat
      else pure client.events.values.length
    | _ => pure client.events.values.length
  match request.query.get "pageToken" with
  | none | some .none => return client.pageResponse limit 0
  | some pageToken => do
    match ← pageTokenOffset pageToken client.events.values.length with
    | none => return invalidPageTokenResponse
    | some offset => return client.pageResponse limit offset

/-- The last segment of a path: `path.rsplit("/", maxsplit=1)[-1]`. -/
def lastSegment (path : String) : String :=
  String.ofList (path.toList.reverse.takeWhile (· ≠ '/')).reverse

/-- `_default_response`. -/
def defaultResponse (request : GoogleProviderRequest) (credentials : GoogleCredentials) :
    Except Raised GoogleProviderResponse :=
  if request.operation ∈ calendarListCapabilityIdentifiers then client.defaultListResponse request
  else if request.operation ∉ calendarCapabilityIdentifiers then
    return ({ service := "calendar" } : FakeGoogleTransportClient).defaultResponse request credentials
  else
    let event := client.events.get (PyParse.unquote (lastSegment request.path))
    let body : Dict := .ofList [("external_execution_performed", .bool false),
      ("integration", .str "calendar"), ("adapter", .str "fake_transport"),
      ("found", .bool event.isSome)]
    return {
      statusCode := 200
      body := match event with
        | none => body
        | some event => body.set "event" (.dict event.entries) }

/-- `FakeGoogleTransportClient.execute`, for Calendar. -/
def execute (request : GoogleProviderRequest) (credentials : GoogleCredentials) :
    Except Raised GoogleProviderResponse :=
  ({ service := "calendar", responses := client.responses, failures := client.failures } :
    FakeGoogleTransportClient).execute client.defaultResponse request credentials

/-- A minted token reads back as its offset. -/
theorem pageTokenOffset_mintedToken {offset eventCount : ℕ} (hle : offset ≤ eventCount)
    (hdigits : offset < 10 ^ Python.intMaxStrDigits) :
    pageTokenOffset (.str (mintedToken offset)) eventCount = .ok (some offset) := by
  have hnot : ¬(offset : ℤ) > eventCount := by omega
  simp only [pageTokenOffset, mintedToken, removePrefix_append, Python.isdigit_toString,
    Bool.true_eq_false, if_false, intOfText_toString hdigits, Except.ok_bind, hnot, Int.toNat_natCast, Except.pure_eq_ok]

end FakeCalendarTransportClient

/-! ### The HTTP transport -/

/-- A request to the HTTP client: the URL, the query parameters and the bearer
token. -/
structure HttpRequest where
  url : String
  params : Dict
  bearer : String

/-- A response of the HTTP client. -/
structure HttpResponse where
  statusCode : ℤ
  /-- `response.json()`; `none` where it raises. -/
  json : Option Value

/-- What the HTTP client can raise. -/
inductive HttpError
  /-- `httpx.TimeoutException` or `httpx.TransportError`. -/
  | transport
  /-- Any other exception. -/
  | other (e : Raised)

/-- What the HTTP transport asks of its client. -/
@[reducible] def HttpCalls : Signature where
  Call := HttpRequest
  Reply _ := Except HttpError HttpResponse

/-- `value.get(key, default)` of a dictionary value. -/
def lookupEntryD (entries : List (String × Value)) (key : String) (default : Value) : Value :=
  (lookupEntry entries key).getD default

/-- Synchronous Google Calendar read transport with injected HTTP I/O. -/
structure HttpxCalendarTransportClient where
  apiBaseUrl : String := "https://www.googleapis.com"

namespace HttpxCalendarTransportClient

/-- `_safe_body`. -/
def safeBody (externalExecutionPerformed : Bool) (failed : Bool := false) : Dict :=
  let body : Dict := .ofList [("external_execution_performed", .bool externalExecutionPerformed),
    ("integration", .str "calendar"), ("adapter", .str "httpx_transport")]
  if failed then body.set "failed" (.bool true) else body

/-- `_failure_response`. -/
def failureResponse (statusCode : ℤ) (category : WorkerExecutionFailureCategory) (message : String)
    (reason : String) (retryable : Bool := false) (externalExecutionPerformed : Bool := false) :
    GoogleProviderResponse where
  statusCode
  body := safeBody externalExecutionPerformed true
  failure := some {
    category, message, retryable
    providerStatusCode := some statusCode
    providerReason := some reason }

/-- The response to an exception of the client, if it is caught. -/
def transportFailure : HttpError → Except Raised GoogleProviderResponse
  | .transport => return {
      statusCode := 503
      body := safeBody true true
      failure := some {
        category := .transient
        message := "Google Calendar transport is temporarily unavailable"
        retryable := true
        providerStatusCode := some 503
        providerReason := some "transportUnavailable" } }
  | .other e =>
    if e.isException then return {
      statusCode := 500
      body := safeBody true true
      failure := some {
        category := .internal
        message := "Google Calendar transport failed safely"
        providerStatusCode := some 500
        providerReason := some "internalTransportError" } }
    else throw e

/-- The response to event data that cannot be mapped. -/
def invalidProviderResponse (statusCode : ℤ) : GoogleProviderResponse :=
  failureResponse statusCode .internal "Google Calendar returned invalid event data"
    "invalidProviderResponse" false true

/-! #### Mapping -/

/-- `_event_boundary`. -/
def eventBoundary : Option Value → Option String
  | some (.dict value) =>
    let text key := ((lookupEntry value key).bind Value.text?).filter (Python.strip · ≠ "")
    text "dateTime" <|> text "date"
  | _ => none

/-- The email of an attendee. -/
def attendeeEmail : Value → Option String
  | .dict attendee =>
    ((lookupEntry attendee "email").bind Value.text?).filter (Python.strip · ≠ "")
  | _ => none

/-- `_map_event`: the allowlisted fields of one raw event. -/
def mapEvent (rawEvent : List (String × Value)) : Option CalendarEvent := do
  let eventId ← ((lookupEntry rawEvent "id").bind Value.text?).filter (Python.strip · ≠ "")
  let title ← (lookupEntryD rawEvent "summary" (.str "")).text?
  let start ← eventBoundary (lookupEntry rawEvent "start")
  let end_ ← eventBoundary (lookupEntry rawEvent "end")
  match lookupEntryD rawEvent "attendees" (.list []) with
  | .list attendees => return {
      eventId, title, start, end_
      attendees := ← attendees.mapM attendeeEmail }
  | _ => none

/-- `_parse_json_object`. -/
def parseJsonObject (response : HttpResponse) : Option (List (String × Value)) :=
  match response.json with
  | some (.dict rawBody) => some rawBody
  | _ => none

/-- `_parse_event`. -/
def parseEvent (response : HttpResponse) (requestedEventId : String) : Option CalendarEvent := do
  let event ← mapEvent (← parseJsonObject response)
  if event.eventId = requestedEventId then some event else none

/-- One item of a listing, mapped; `none` where it is skipped. -/
def mapItem : Value → Option CalendarEvent
  | .dict rawItem => mapEvent rawItem
  | _ => none

/-- One mapped page of a listing. -/
structure EventList where
  events : List CalendarEvent
  skippedEventCount : ℕ
  nextPageToken : Option String

/-- `_parse_event_list`: the continuation token is preserved, never used. -/
def parseEventList (response : HttpResponse) : Option EventList := do
  let rawList ← parseJsonObject response
  match lookupEntryD rawList "items" (.list []) with
  | .list rawItems =>
    return {
      events := rawItems.filterMap mapItem
      skippedEventCount := rawItems.countP fun rawItem => (mapItem rawItem).isNone
      nextPageToken := ← reportedPageToken (lookupEntry rawList "nextPageToken") }
  | _ => none

/-- The entries a mapped page adds to a response body. -/
def EventList.entries (page : EventList) : List (String × Value) :=
  [("events", .tuple (page.events.map fun event => .dict event.entries)),
    ("skipped_event_count", .int page.skippedEventCount),
    ("next_page_token", optionalText page.nextPageToken)]

/-- The first rate limit reason among the items of an error. -/
def rateLimitReason : List Value → Except Raised (Option String)
  | [] => return none
  | .dict item :: items =>
    match lookupEntryD item "reason" .none with
    | .str reason =>
      if reason ∈ googleRateLimitReasons then return some reason else rateLimitReason items
    | reason =>
      -- looking a value up in a `frozenset` hashes it
      if reason.isHashable then rateLimitReason items
      else throw { kind := .typeError, message := "unhashable type" }
  | _ :: items => rateLimitReason items

/-- `_safe_error_reason`. -/
def safeErrorReason (response : HttpResponse) : Except Raised (Option String) :=
  match response.json with
  | some (.dict errorBody) =>
    match lookupEntry errorBody "error" with
    | some (.dict error) =>
      match lookupEntry error "errors" with
      | some (.list errors) => rateLimitReason errors
      | _ => return none
    | _ => return none
  | _ => return none

/-! #### Requests -/

variable [PyParse]

/-- `set(query) == fields`. -/
def hasKeys (query : Dict) (fields : List String) : Prop :=
  (∀ key ∈ query.keys, key ∈ fields) ∧ ∀ field ∈ fields, field ∈ query.keys

instance (query : Dict) (fields : List String) : Decidable (hasKeys query fields) :=
  inferInstanceAs (Decidable (_ ∧ _))

/-- `_is_bounded_list_request`: exactly two query shapes are accepted, the bounded
first page and the same query with one page token. -/
def isBoundedListRequest (request : GoogleProviderRequest) : Except Raised Bool :=
  if request.operation ∉ calendarListCapabilityIdentifiers ∨ request.method ≠ "GET" ∨
      request.body.isSome ∨ request.path ≠ googleCalendarEventsPath then return false
  else
    let query := request.query
    if ¬(hasKeys query calendarListQueryFields ∨ hasKeys query calendarListPagedQueryFields) then
      return false
    else if query.get "singleEvents" ≠ some (.str "true") ∨
        query.get "orderBy" ≠ some (.str "startTime") then return false
    else
      match query.get "maxResults" with
      | some (.str maxResults) =>
        if Python.isdigit maxResults = false then return false
        -- a present page token may not be `None`
        else if query.get "pageToken" = some .none then return false
        else do
          let maxResults ← intOfText maxResults
          match CalendarEventListRequest.new ((query.get "timeMin").getD .none)
              ((query.get "timeMax").getD .none) (.int maxResults)
              ((query.get "pageToken").getD .none) with
          | .error _ => return false
          | .ok _ => return true
      | _ => return false

/-- `_requested_event_id`. -/
def requestedEventId (request : GoogleProviderRequest) : Option String :=
  if request.operation ∉ calendarEventReadCapabilityIdentifiers ∨ request.method ≠ "GET" ∨
      request.body.isSome then none
  else do
    let encodedEventId ← removePrefix googleCalendarEventPathPrefix request.path
    if encodedEventId = "" ∨ '/' ∈ encodedEventId.toList then none
    else
      let eventId := PyParse.unquote encodedEventId
      if eventId = "" then none else some eventId

/-- The response to a 2xx status. -/
def successResponse (requestedEventId : Option String) (response : HttpResponse) :
    GoogleProviderResponse :=
  match requestedEventId with
  | none =>
    match parseEventList response with
    | none => invalidProviderResponse response.statusCode
    | some page =>
      { statusCode := response.statusCode, body := (safeBody true).update page.entries }
  | some eventId =>
    match parseEvent response eventId with
    | none => invalidProviderResponse response.statusCode
    | some event =>
      { statusCode := response.statusCode
        body := (safeBody true).update [("found", .bool true), ("event", .dict event.entries)] }

/-- The response to an answer of Google. -/
def mapResponse (requestedEventId : Option String) (response : HttpResponse) :
    Except Raised GoogleProviderResponse :=
  let statusCode := response.statusCode
  if statusCode = 404 ∧ requestedEventId.isSome then
    return { statusCode, body := (safeBody true).set "found" (.bool false) }
  else if statusCode = 400 then
    return failureResponse statusCode .permanent "Google Calendar rejected the event request"
      "invalidRequest" false true
  else if statusCode = 401 then
    return failureResponse statusCode .permanent
      "Google Calendar authorization failed; reconnect is required" "reconnectRequired" false true
  else if statusCode = 403 then do
    match ← safeErrorReason response with
    | some reason =>
      return failureResponse statusCode .transient "Google Calendar rate limit was reached" reason
        true true
    | none =>
      return failureResponse statusCode .permanent "Google Calendar access is forbidden" "forbidden"
        false true
  else if statusCode = 429 then
    return failureResponse statusCode .transient "Google Calendar rate limit was reached"
      "rateLimitExceeded" true true
  else if 500 ≤ statusCode ∧ statusCode ≤ 599 then
    return failureResponse statusCode .transient "Google Calendar is temporarily unavailable"
      "providerUnavailable" true true
  else if ¬(200 ≤ statusCode ∧ statusCode ≤ 299) then
    return failureResponse statusCode .permanent "Google Calendar request failed"
      "providerRequestFailed" false true
  else return successResponse requestedEventId response

/-- Ask Google and map the answer. -/
def send (client : HttpxCalendarTransportClient) (request : GoogleProviderRequest)
    (credentials : GoogleCredentials) (requestedEventId : Option String) :
    Prog HttpCalls (Except Raised GoogleProviderResponse) :=
  if Python.strip credentials.accessToken = "" then
    .ret (.ok (failureResponse 401 .permanent
      "Google Calendar credentials are invalid; reconnect is required" "reconnectRequired"))
  else
    .call (F := HttpCalls) {
      url := client.apiBaseUrl ++ request.path
      params := request.query
      bearer := credentials.accessToken } fun
    | .error e => .ret (transportFailure e)
    | .ok response => .ret (mapResponse requestedEventId response)

/-- `execute`: a supported read, and nothing else, reaches Google. -/
def execute (client : HttpxCalendarTransportClient) (request : GoogleProviderRequest)
    (credentials : GoogleCredentials) : Prog HttpCalls (Except Raised GoogleProviderResponse) :=
  match requestedEventId request with
  | some eventId => client.send request credentials (some eventId)
  | none =>
    match isBoundedListRequest request with
    | .error e => .ret (.error e)
    | .ok false =>
      .ret (.ok (failureResponse 400 .permanent "Calendar provider request is invalid"
        "invalidRequest"))
    | .ok true => client.send request credentials none

end HttpxCalendarTransportClient

end Velox
