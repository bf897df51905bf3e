import Velox.Core.Semantic
import Velox.Integrations.CalendarAgenda
import Velox.Lib.Transcript
import Velox.SoftwareEngineering.TaskSession

/-!
# Asking for the agenda of tomorrow

The agenda of tomorrow can be asked for in three ways: by a structured command, by a semantic
query in free text, and by an older endpoint for free text. Text is classified by a resolver,
either from a fixed set of phrases or by a local language model.

How a URL is split, and how the answer of the model is validated, are parameters.

## Main definitions

* `QueryCalls` — the local model, the clock and the pages of the calendar
* `CalendarAgendaCommandService.execute`, `calendarAgendaSemanticHandler`
* `BoundedCalendarAgendaIntentResolver`, `OllamaCalendarAgendaIntentResolver`
* `calendarAgenda`, `semanticQuery`, `calendarAgendaQuery` — the endpoints
-/

set_option autoImplicit false

namespace Velox

/-! ### Calls -/

/-- What a query asks beside the pages of the calendar. -/
inductive QueryCall
  /-- A request to the local model. -/
  | chat (url : String) (json : Value)
  /-- A reading of the clock. -/
  | now

/-- A response of the local model. -/
structure ChatResponse where
  statusCode : ℤ
  /-- `response.json()`. -/
  json : Except Raised Value

/-- What a query is answered. -/
@[reducible] def QueryCall.Reply : QueryCall → Type
  | .chat .. => Except Raised ChatResponse
  -- `none` is a value that is no datetime
  | .now => Except Raised (Option LocalDatetime)

/-- What a query asks. -/
abbrev QueryCalls : Signature := Signature.sum ⟨QueryCall, QueryCall.Reply⟩ PageCalls

/-! ### The command -/

/-- An explicit intent, account context and time zone. -/
structure CalendarAgendaCommandRequest where
  intent : String
  accountContext : WorkerAccountContext
  timezone : String

namespace CalendarAgendaCommandService

/-- A reading of the clock that has an offset. -/
def awareNow : Option LocalDatetime → Except CalendarAgendaError LocalDatetime
  | none => .error (CalendarTomorrowAgendaWorkflow.invalid
      "calendar agenda clock must return a timezone-aware datetime" "now")
  | some now => do
    .raiseIf (now.utcoffset = none) (CalendarTomorrowAgendaWorkflow.invalid
      "calendar agenda clock must return a timezone-aware datetime" "now")
    return now

variable [PyParse] (zones : String → Option ZoneInfo) (actionId : UUID)

-- irreducible, as its calls are followed by the rules of programs and not by evaluation
/-- `execute`: a reading of the clock for the workflow. -/
@[irreducible] def execute (request : CalendarAgendaCommandRequest) :
    Proc QueryCalls Unit CalendarAgendaError CalendarTomorrowAgendaResult := do
  Proc.ofExcept (.raiseIf (request.intent ≠ CALENDAR_TOMORROW_INTENT)
    (CalendarTomorrowAgendaWorkflow.invalid "calendar agenda intent is unsupported" "intent"))
  let reading ← Proc.request QueryCalls (.inl .now) fun reading => reading.mapError .raised
  let now ← Proc.ofExcept (awareNow reading)
  Proc.ofRight (CalendarTomorrowAgendaWorkflow.execute zones actionId {
    intent := .str request.intent
    accountContext := request.accountContext
    timezone := .str request.timezone
    now })

end CalendarAgendaCommandService

/-! ### The handler of the semantic route -/

/-- The canonical intent of the command. -/
def CALENDAR_AGENDA_TOMORROW_INTENT : String := "calendar.agenda.tomorrow"

/-- The intents of the commands, by their canonical intents. -/
def CALENDAR_AGENDA_COMMAND_INTENTS : List (String × String) :=
  [(CALENDAR_AGENDA_TOMORROW_INTENT, "tomorrow")]

/-- The fields of what the caller supplies. -/
def CALENDAR_AGENDA_REQUEST_FIELDS : List String :=
  ["intent", "timezone", "account_context", "principal", "account_identifier"]

/-- A failure of the workflow that the request of the caller explains. -/
def isRequestFailure (field : Option String) (category : Option WorkerExecutionFailureCategory) :
    Bool :=
  category = none && field.any fun field => field ∈ CALENDAR_AGENDA_REQUEST_FIELDS

/-- `asdict(result)`. -/
def CalendarTomorrowAgendaResult.asdict (result : CalendarTomorrowAgendaResult) : Dict :=
  .ofList [("intent", .str result.intent), ("timezone", .str result.timezone),
    ("local_date", .str result.localDate), ("time_min", .str result.timeMin),
    ("time_max", .str result.timeMax), ("events", .tuple result.events),
    ("event_count", .int result.eventCount),
    ("aggregate_complete", .bool result.aggregateComplete),
    ("skipped_event_count", .int result.skippedEventCount),
    ("termination_reason", .str result.terminationReason)]

/-- What the handler raises in place of what the command raised. -/
def handlerError : CalendarAgendaError → SemanticError
  | .workflow message field category =>
    if isRequestFailure field category then .request "invalid calendar agenda request"
    else .raised ⟨.exception "CalendarAgendaWorkflowError", message⟩
  | .raised e => .raised e

section Endpoints

variable [PyParse] (zones : String → Option ZoneInfo) (actionId : UUID)

/-- `calendar_agenda_semantic_handler`. -/
def calendarAgendaSemanticHandler : SemanticHandler QueryCalls := fun query => do
  match CALENDAR_AGENDA_COMMAND_INTENTS.lookup query.intent with
  | none => throw (.routing "semantic intent has no calendar agenda command")
  | some commandIntent =>
    let result ← (CalendarAgendaCommandService.execute zones actionId {
      intent := commandIntent
      accountContext := query.request.accountContext
      timezone := query.request.timezone }).mapError handlerError
    return some { intent := query.intent, result := result.asdict }

/-- The route of the application. -/
def calendarAgendaRoute : SemanticRoute where
  intent := CALENDAR_AGENDA_TOMORROW_INTENT
  role := .contextPreparation
  capability := CALENDAR_LIST_EVENTS
  identifiers := by decide

/-- `semantic_router` of the container. -/
def semanticRouter : Except Raised (SemanticQueryRouter QueryCalls) :=
  SemanticRouter.new [calendarAgendaRoute]
    (.ofList [((.contextPreparation, CALENDAR_LIST_EVENTS),
      calendarAgendaSemanticHandler zones actionId)])

/-! ### The endpoints -/

/-- How a request fails. -/
inductive HttpFailure
  /-- `HTTPException`. -/
  | http (statusCode : ℕ) (detail : String)
  /-- An exception that the endpoint does not catch. -/
  | escaped (e : Raised)
  deriving DecidableEq

/-- An exception that `except Exception` may catch. -/
def HttpFailure.ofRaised (e : Raised) (detail : String) : HttpFailure :=
  if e.isException then .http 500 detail else .escaped e

/-- The body of a structured command. -/
structure CalendarAgendaHttpRequest where
  intent : String
  principal : String
  accountIdentifier : String
  timezone : String

/-- The body of a query in free text. -/
structure SemanticQueryHttpRequest where
  text : String
  principal : String
  accountIdentifier : String
  timezone : String

/-- The response to a semantic query. -/
structure SemanticQueryHttpResponse where
  intent : String
  result : Dict

/-- The account that a caller names. -/
def accountContext (principal accountIdentifier : String) : WorkerAccountContext where
  principal := some principal
  accountIdentifier

/-- The query of a request. -/
def SemanticQueryHttpRequest.query (request : SemanticQueryHttpRequest) : SemanticQueryRequest where
  text := request.text
  accountContext := accountContext request.principal request.accountIdentifier
  timezone := request.timezone

/-- What the endpoint of commands answers to a failure. -/
def agendaFailure : CalendarAgendaError → HttpFailure
  | .workflow _ field category =>
    if isRequestFailure field category then .http 422 "invalid calendar agenda request"
    else .http 500 "calendar agenda execution failed"
  | .raised e => .ofRaised e "calendar agenda execution failed"

/-- What the endpoint of semantic queries answers to a failure. -/
def semanticFailure : SemanticError → HttpFailure
  | .input _ => .http 422 "invalid semantic query"
  | .routing _ => .http 422 "unsupported semantic query"
  | .request _ => .http 422 "invalid semantic query request"
  | .resolver _ => .http 500 "semantic query resolution failed"
  | .raised e => .ofRaised e "semantic query execution failed"

/-- What the older endpoint answers to a failure. -/
def agendaQueryFailure : SemanticError → HttpFailure
  | .input _ => .http 422 "invalid calendar agenda query"
  | .routing _ => .http 422 "unsupported calendar agenda query"
  | .request _ => .http 422 "invalid calendar agenda request"
  | .resolver _ => .http 500 "calendar agenda query resolution failed"
  | .raised e => .ofRaised e "calendar agenda execution failed"

/-- `calendar_agenda`. -/
def calendarAgenda (request : CalendarAgendaHttpRequest) :
    Proc QueryCalls Unit HttpFailure CalendarTomorrowAgendaResult :=
  (CalendarAgendaCommandService.execute zones actionId {
    intent := request.intent
    accountContext := accountContext request.principal request.accountIdentifier
    timezone := request.timezone }).mapError agendaFailure

variable (resolver : SemanticResolver QueryCalls) (router : SemanticQueryRouter QueryCalls)

/-- `semantic_query`. -/
def semanticQuery (request : SemanticQueryHttpRequest) :
    Proc QueryCalls Unit HttpFailure SemanticQueryHttpResponse := do
  let result ← (executeSemanticQuery request.query resolver router).mapError semanticFailure
  return { intent := result.intent, result := result.result }

/-- `calendar_agenda_query`. -/
def calendarAgendaQuery (request : SemanticQueryHttpRequest) :
    Proc QueryCalls Unit HttpFailure Dict := do
  let result ← (executeSemanticQuery request.query resolver router
    (some (CALENDAR_AGENDA_COMMAND_INTENTS.map Prod.fst))).mapError agendaQueryFailure
  return result.result

end Endpoints

/-! ### Resolvers -/

namespace BoundedCalendarAgendaIntentResolver

/-- `_PHRASES`. -/
def phrases : List (String × String) :=
  [("що в мене завтра", CALENDAR_AGENDA_TOMORROW_INTENT),
    ("що у мене завтра", CALENDAR_AGENDA_TOMORROW_INTENT),
    ("what do i have tomorrow", CALENDAR_AGENDA_TOMORROW_INTENT)]

/-- `text.rstrip(_TERMINAL_PUNCTUATION)`. -/
def rstripPunctuation (text : String) : String :=
  String.ofList (text.toList.rdropWhile fun c => c ∈ "!?.,;".toList)

/-- The text as it is looked up. -/
def normalized [PyStd] (text : String) : String :=
  Python.strip (rstripPunctuation (PyStd.casefold (Python.strip text)))

/-- `resolve`, without any call. -/
def resolve [PyStd] : SemanticResolver QueryCalls := fun text =>
  if normalized text = "" then throw (.input "calendar agenda query text is required")
  else
    match phrases.lookup (normalized text) with
    | none => pure (some .unresolved)
    | some intent =>
      Proc.ofExcept (((SemanticResolution.resolved intent).map some).mapError .raised)

end BoundedCalendarAgendaIntentResolver

/-- What the local model may answer. -/
inductive OllamaCalendarAgendaClassification
  | tomorrow
  | unsupported
  deriving DecidableEq

/-- What validating the answer of the local model is taken from. -/
class PyClassification where
  /-- `OllamaCalendarAgendaClassification.model_json_schema()`. -/
  schema : Value
  /-- `OllamaCalendarAgendaClassification.model_validate_json(content)`. -/
  validateJson : String → Except Raised OllamaCalendarAgendaClassification

/-- The answers without blanks, and a schema that is never shown. -/
@[reducible] def PyClassification.plain : PyClassification where
  schema := .dict []
  validateJson content :=
    if content = "\x7b\"intent\":\"tomorrow\"\x7d" then .ok .tomorrow
    else if content = "\x7b\"intent\":\"unsupported\"\x7d" then .ok .unsupported
    else .error ⟨.exception "ValidationError", "..."⟩

/-- A URL of the local model, without credentials. -/
def IsLocalModel (parts : TaskSession.SplitUrl) : Prop :=
  parts.scheme ∈ ["http", "https"] ∧ (∃ host ∈ parts.hostname, host ∈ TaskSession.LOOPBACK_HOSTS) ∧
    parts.username = none ∧ parts.password = none

instance (parts : TaskSession.SplitUrl) : Decidable (IsLocalModel parts) :=
  inferInstanceAs (Decidable (_ ∧ _))

/-- A resolver that asks a local model, at a validated URL. -/
structure OllamaCalendarAgendaIntentResolver
    (urlsplit : String → Except Raised TaskSession.SplitUrl) where
  url : String
  model : String
  isLocal : ∃ baseUrl parts, urlsplit baseUrl = .ok parts ∧ IsLocalModel parts ∧
    url = TaskSession.rstripSlash baseUrl ++ "/api/chat"

namespace OllamaCalendarAgendaIntentResolver

variable {urlsplit : String → Except Raised TaskSession.SplitUrl}

/-- `__init__`. -/
def new (baseUrl model : String) : Except Raised (OllamaCalendarAgendaIntentResolver urlsplit) :=
  match h : urlsplit baseUrl with
  | .error e => .error e
  | .ok parts =>
    if hlocal : IsLocalModel parts then
      if Python.strip model = "" then .error ⟨.valueError, "Ollama model must be configured"⟩
      else .ok {
        url := TaskSession.rstripSlash baseUrl ++ "/api/chat"
        model := Python.strip model
        isLocal := ⟨baseUrl, parts, h, hlocal, rfl⟩ }
    else .error ⟨.valueError, "Ollama base URL must use a loopback host"⟩

/-- `_SYSTEM_PROMPT`. -/
def systemPrompt : String :=
  "You are an intent classifier for a Calendar assistant. " ++
  "Return intent=tomorrow when the user asks about their schedule, plans, " ++
  "meetings, availability, or calendar for tomorrow, in any language or natural " ++
  "paraphrase. Return intent=unsupported for any other request, including today, " ++
  "another date, creating or changing events, or non-calendar questions. " ++
  "Do not answer the user's question. Do not perform actions. Do not infer account " ++
  "identity. Do not produce Calendar or provider data. Return only the structured " ++
  "classification."

section Resolve

variable [PyClassification] (self : OllamaCalendarAgendaIntentResolver urlsplit)

/-- What the model is sent. -/
def body (text : String) : Value :=
  .dict [("model", .str self.model),
    ("messages", .list [.dict [("role", .str "system"), ("content", .str systemPrompt)],
      .dict [("role", .str "user"), ("content", .str text)]]),
    ("stream", .bool false), ("format", PyClassification.schema),
    ("options", .dict [("temperature", .int 0)])]

/-- `_OllamaChatResponse.model_validate(value).message.content`. -/
def contentOf : Value → Except Raised String
  | .dict response =>
    match Value.field response "message" with
    | .dict message =>
      match Value.field message "content" with
      | .str content => .ok content
      | _ => .error ⟨.exception "ValidationError", "_OllamaChatResponse"⟩
    | _ => .error ⟨.exception "ValidationError", "_OllamaChatResponse"⟩
  | _ => .error ⟨.exception "ValidationError", "_OllamaChatResponse"⟩

/-- The classification in a reply of the model. -/
def classificationOf (reply : Except Raised ChatResponse) :
    Except Raised OllamaCalendarAgendaClassification := do
  let response ← reply
  .raiseIf (¬(200 ≤ response.statusCode ∧ response.statusCode ≤ 299))
    ⟨.exception "HTTPStatusError", "raise_for_status"⟩
  let value ← response.json
  let content ← contentOf value
  PyClassification.validateJson content

example : @classificationOf PyClassification.plain (.ok {
      statusCode := 200
      json := .ok (.dict [("message",
        .dict [("content", .str "\x7b\"intent\":\"tomorrow\"\x7d")])]) }) = .ok .tomorrow := by
  decide

/-- What is raised in place of any failure of the model. -/
def resolutionFailure (e : Raised) : SemanticError :=
  if e.isException then .resolver "calendar agenda query resolution failed" else .raised e

/-- The resolution of a classification. -/
def resolutionOf : OllamaCalendarAgendaClassification → Except SemanticError SemanticResolution
  | .unsupported => .ok .unresolved
  | .tomorrow => (SemanticResolution.resolved CALENDAR_AGENDA_TOMORROW_INTENT).mapError .raised

/-- `resolve`. -/
@[irreducible] def resolve : SemanticResolver QueryCalls := fun text =>
  if Python.strip text = "" then throw (.input "calendar agenda query text is required")
  else do
    let classification ← Proc.request QueryCalls (.inl (.chat self.url (self.body text)))
      fun reply => (classificationOf reply).mapError resolutionFailure
    Proc.ofExcept ((resolutionOf classification).map some)

end Resolve

end OllamaCalendarAgendaIntentResolver

end Velox
