import Velox.Integrations.CalendarExecutor
import Velox.Integrations.CalendarIngress
import Velox.Lib.Substitution

/-!
# Manual sync of one Calendar event

One event is read through the Calendar executor, its fields are allowlisted, and it is
handed to Calendar ingress with the account it was read for.

## Main definitions

* `ManualCalendarSyncRequest` — a request that passed its checks
* `ManualCalendarSyncError` — the failures of a sync
* `ManualCalendarSyncService.sync`
-/

set_option autoImplicit false

namespace Velox

/-! ### Failures -/

/-- Safe failure codes for the explicit manual sync boundary. -/
inductive ManualCalendarSyncFailureCode
  | invalidInput
  | reconnectRequired
  | credentialRefreshFailure
  | transportFailure
  | eventNotFound
  | providerPermanentFailure
  | providerTransientFailure
  | providerInternalFailure
  | malformedProviderEvent
  | duplicateEvent
  | ingressWorkflowFailure
  deriving DecidableEq

/-- `_FAILURE_MESSAGES`. -/
def ManualCalendarSyncFailureCode.message : ManualCalendarSyncFailureCode → String
  | .invalidInput => "manual sync input is invalid"
  | .reconnectRequired => "Google credentials are unavailable or invalid; reconnect is required"
  | .credentialRefreshFailure => "Google credential refresh is temporarily unavailable"
  | .transportFailure => "Google Calendar transport is unavailable"
  | .eventNotFound => "Google Calendar event was not found"
  | .providerPermanentFailure => "Google Calendar rejected the manual sync request"
  | .providerTransientFailure => "Google Calendar is temporarily unavailable"
  | .providerInternalFailure => "Google Calendar provider execution failed safely"
  | .malformedProviderEvent => "Google Calendar returned invalid event data"
  | .duplicateEvent => "the Calendar event conflicts with an existing VELOX event"
  | .ingressWorkflowFailure => "Calendar ingress or workflow processing failed"

/-- Safe manual-sync failure. -/
structure ManualCalendarSyncError where
  code : ManualCalendarSyncFailureCode
  category : Option WorkerExecutionFailureCategory := none
  field : Option String := none
  externalExecutionPerformed : Bool := false

/-- `str(error)`. -/
def ManualCalendarSyncError.message (error : ManualCalendarSyncError) : String := error.code.message

/-- What a sync raises. -/
inductive SyncRaised
  | sync (error : ManualCalendarSyncError)
  | other (e : Raised)

/-! ### Requests -/

/-- A text that is neither blank nor padded. -/
def IsPlainText (text : String) : Prop := Python.strip text ≠ "" ∧ text = Python.strip text

instance (text : String) : Decidable (IsPlainText text) := inferInstanceAs (Decidable (_ ∧ _))

/-- Validated explicit routing and event identity for one manual sync. -/
structure ManualCalendarSyncRequest where
  principal : String
  accountIdentifier : String
  eventId : String
  plain_principal : IsPlainText principal
  plain_accountIdentifier : IsPlainText accountIdentifier
  plain_eventId : IsPlainText eventId

namespace ManualCalendarSyncRequest

/-- The check of one field. -/
def plainText (fieldName : String) : Value →
    Except ManualCalendarSyncError { text : String // IsPlainText text }
  | .str text =>
    if h : IsPlainText text then .ok ⟨text, h⟩
    else .error { code := .invalidInput, field := some fieldName }
  | _ => .error { code := .invalidInput, field := some fieldName }

/-- `ManualCalendarSyncRequest(...)`. -/
def new (principal accountIdentifier eventId : Value) :
    Except ManualCalendarSyncError ManualCalendarSyncRequest := do
  let principal ← plainText "principal" principal
  let accountIdentifier ← plainText "account_identifier" accountIdentifier
  let eventId ← plainText "event_id" eventId
  return ⟨principal, accountIdentifier, eventId, principal.2, accountIdentifier.2, eventId.2⟩

theorem plainText_str {fieldName text : String} (h : IsPlainText text) :
    plainText fieldName (.str text) = .ok ⟨text, h⟩ := by
  rw [plainText, dif_pos h]

/-- Every valid request can be made. -/
theorem new_fields (request : ManualCalendarSyncRequest) :
    new (.str request.principal) (.str request.accountIdentifier) (.str request.eventId) =
      .ok request := by
  rw [new, plainText_str request.plain_principal, plainText_str request.plain_accountIdentifier,
    plainText_str request.plain_eventId]
  rfl

/-- The account an event is read for. -/
def accountContext (request : ManualCalendarSyncRequest) : WorkerAccountContext where
  principal := request.principal
  accountIdentifier := request.accountIdentifier

/-- The route of the actions planned from the event. -/
def integrationRoute (request : ManualCalendarSyncRequest) : IntegrationRouteContext where
  provider := "calendar"
  principal := request.principal
  accountIdentifier := request.accountIdentifier

/-- The action that reads the event. -/
def providerAction (request : ManualCalendarSyncRequest) (id : UUID) : Action where
  id
  type := "prepare_meeting"
  target := "manual-calendar-sync"
  payload := .ofList [("calendar_event_id", .str request.eventId)]
  executorRole := ExecutorRole.contextPreparation.value

end ManualCalendarSyncRequest

/-- Safe result for one successfully synchronized Calendar event. -/
structure ManualCalendarSyncResult where
  googleCalendarEventId : String
  universalEventId : String
  acceptanceOutcome : String := "accepted"
  processingOutcome : String := "processed"
  provider : String := "calendar"
  principal : String
  accountIdentifier : String
  externalExecutionPerformed : Bool

/-! ### The service -/

/-- What a sync asks of its provider, and of the process. -/
abbrev SyncCalls : Signature := ProviderCalls.sum Outside

namespace ManualCalendarSyncService

/-- `_raise_malformed_provider_event`. -/
def malformedProviderEvent (externalExecutionPerformed : Bool) : ManualCalendarSyncError where
  code := .malformedProviderEvent
  category := some .internal
  externalExecutionPerformed

/-- `isinstance(attendee, str) and bool(attendee.strip())`. -/
def isAttendee : Value → Bool
  | .str attendee => Python.strip attendee ≠ ""
  | _ => false

/-- The five fields of an event, when they pass the allowlist. -/
def allowlistedFields (event : List (String × Value)) (expectedEventId : String) : Option Dict := do
  let title ← (lookupEntry event "title").bind Value.text?
  let start ← ((lookupEntry event "start").bind Value.text?).filter (Python.strip · ≠ "")
  let end_ ← ((lookupEntry event "end").bind Value.text?).filter (Python.strip · ≠ "")
  let attendees ← (lookupEntry event "attendees").bind Value.elements?
  if lookupEntry event "event_id" = some (.str expectedEventId) ∧ attendees.all isAttendee then
    return .ofList [("event_id", .str expectedEventId), ("title", .str title),
      ("start", .str start), ("end", .str end_), ("attendees", .tuple attendees)]
  else none

/-- `_allowlisted_raw_event`. -/
def allowlistedRawEvent (event : Option Value) (expectedEventId : String)
    (externalExecutionPerformed : Bool) : Except ManualCalendarSyncError Dict :=
  let fields := match event with
    | some (.dict event) => allowlistedFields event expectedEventId
    | _ => none
  match fields with
  | some rawEvent => .ok rawEvent
  | none => .error (malformedProviderEvent externalExecutionPerformed)

/-- The code of a provider failure that names no known reason. -/
def categoryCode : Option WorkerExecutionFailureCategory → ManualCalendarSyncFailureCode
  | some .transient => .providerTransientFailure
  | some .permanent => .providerPermanentFailure
  | _ => .providerInternalFailure

/-- `_provider_error`. -/
def providerError (reason : Option String) (category : Option WorkerExecutionFailureCategory)
    (metadata : Dict) (externalExecutionPerformed : Bool) : Except Raised ManualCalendarSyncError := do
  let providerReason := (metadata.get "provider_reason").getD .none
  let code ←
    if providerReason = .str "reconnectRequired" then pure .reconnectRequired
    else if providerReason = .str "credentialRefreshUnavailable" then pure .credentialRefreshFailure
    -- looking a value up in a set hashes it
    else if providerReason.isHashable = false then throw ⟨.typeError, "unhashable type"⟩
    else if providerReason = .str "transportUnavailable" ∨
        providerReason = .str "internalTransportError" then pure .transportFailure
    else if providerReason = .str "invalidProviderResponse" ∨
        reason = some "calendar provider returned invalid event data" then
      pure .malformedProviderEvent
    else pure (categoryCode category)
  return { code, category, externalExecutionPerformed }

/-- Whether the executor reports that something was done outside. -/
def performed (providerResult : WorkerExecutionResult) : Bool :=
  providerResult.metadata.get "external_execution_performed" = some (.bool true)

/-- The checks of `sync` on what the executor returned. -/
def rawEventOf (request : ManualCalendarSyncRequest) (providerResult : WorkerExecutionResult) :
    Except SyncRaised Dict :=
  if providerResult.status ≠ .succeeded then
    match providerError providerResult.reason (providerResult.failure.map (·.category))
      ((providerResult.failure.map (·.metadata)).getD ∅) (performed providerResult) with
    | .ok error => .error (.sync error)
    | .error e => .error (.other e)
  else if providerResult.metadata.get "found" ≠ some (.bool true) then
    .error (.sync {
      code := .eventNotFound
      externalExecutionPerformed := performed providerResult })
  else (allowlistedRawEvent (providerResult.metadata.get "event") request.eventId
    (performed providerResult)).mapError .sync

/-- What `sync` makes of an exception of ingress. -/
def ingressFailure (externalExecutionPerformed : Bool) (e : Raised) : SyncRaised :=
  if e.kind = .duplicateEventError then
    .sync { code := .duplicateEvent, externalExecutionPerformed }
  else if e.isException then .sync { code := .ingressWorkflowFailure, externalExecutionPerformed }
  else .other e

/-- What `sync` returns. -/
def syncResult (request : ManualCalendarSyncRequest) (externalExecutionPerformed : Bool)
    (ingress : CalendarIngressResult) : ManualCalendarSyncResult where
  googleCalendarEventId := request.eventId
  universalEventId := UUID.str ingress.event.id
  principal := request.principal
  accountIdentifier := request.accountIdentifier
  externalExecutionPerformed

/-- What `sync` makes of an ingress. -/
def ingressOutcome (request : ManualCalendarSyncRequest) (externalExecutionPerformed : Bool) :
    Except Raised CalendarIngressResult → Except SyncRaised ManualCalendarSyncResult
  | .ok ingress => .ok (syncResult request externalExecutionPerformed ingress)
  | .error e => .error (ingressFailure externalExecutionPerformed e)

/-- Read, allowlist, normalize, accept, and process one Calendar event. -/
def sync [PyParse] (planner : Planner) (engine : PermissionEngine)
    (request : ManualCalendarSyncRequest) :
    Proc SyncCalls Stores SyncRaised ManualCalendarSyncResult := do
  let id ← Proc.request SyncCalls (.inr .uuid4) .ok
  let executed ← Proc.ofLeft (CalendarWorkerExecutor.execute (request.providerAction id)
    (some "prepare_meeting") (some request.accountContext))
  let providerResult ← Proc.ofExcept (executed.mapError .other)
  let rawEvent ← Proc.ofExcept (rawEventOf request providerResult)
  let ingress ← Proc.attemptRight (CalendarIngressAdapter.ingest planner engine rawEvent
    request.integrationRoute)
  Proc.ofExcept (ingressOutcome request (performed providerResult) ingress)

end ManualCalendarSyncService

end Velox
