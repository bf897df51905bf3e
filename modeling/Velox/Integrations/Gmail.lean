import Velox.Integrations.GoogleProvider

/-!
# The Gmail executor

Reading, sending and archiving. The payload of an action is normalized into a request
to the capability, and normalized again into the request to the provider, which is only
made when the capability succeeded and the action has an account context.

`str(value)` of anything but a text is a parameter; it may raise, as it does for an
integer with too many digits.

## Main definitions

* `PyStr`, `PyStr.plain` — `str(value)`
* `GmailCapabilityRequest` — what a capability is asked for
* `GmailCalls`, `GmailTask` — the calls of the executor
* `GmailWorkerExecutor.execute`, `GmailWorkerExecutor.providerRequest`
* `inMemoryCapability` — the deterministic capabilities
-/

set_option autoImplicit false

/-- The text of a value. -/
class PyStr extends PyStd where
  /-- `str(value)`. -/
  str : Value → Except Velox.Raised String
  str_str (s : String) : str (.str s) = .ok s

/-- The texts of plain values; anything else has none here. -/
@[reducible] def PyStr.plain : PyStr where
  toPyStd := PyStd.ascii
  str
    | .none => .ok "None"
    | .bool b => .ok (if b then "True" else "False")
    | .int n => .ok (toString n)
    | .str s => .ok s
    | _ => .error ⟨.valueError, "no text"⟩
  str_str _ := rfl

namespace Velox

/-! ### Capabilities -/

def GMAIL_READ : String := "gmail.read"

def GMAIL_SEND : String := "gmail.send"

def GMAIL_ARCHIVE : String := "gmail.archive"

/-- `_GMAIL_CAPABILITY_ALIASES`. -/
def gmailCapabilityAliases : List (String × String) :=
  [("read", GMAIL_READ), ("send", GMAIL_SEND), ("archive", GMAIL_ARCHIVE)]

/-- Shared safe result for Gmail capabilities. -/
structure GmailCapabilityResult where
  status : WorkerExecutionStatus
  reason : Option String := none
  metadata : Dict := ∅

/-- Request contract for message reads. -/
structure GmailReadRequest where
  messageId : String

/-- Request contract for message sends. -/
structure GmailSendRequest where
  to_ : List String
  subject : String
  body : String
  cc : List String := []
  bcc : List String := []
  threadId : Option String := none

/-- Request contract for message archive operations. -/
structure GmailArchiveRequest where
  messageId : String

/-- A request to one of the capabilities. -/
inductive GmailCapabilityRequest
  | read (request : GmailReadRequest)
  | send (request : GmailSendRequest)
  | archive (request : GmailArchiveRequest)

/-- The calls of the executor. -/
inductive GmailCall
  | capability (request : GmailCapabilityRequest)
  | provider (request : GoogleProviderRequest)

/-- The calls with their replies. -/
@[reducible] def GmailCalls : Signature where
  Call := GmailCall
  Reply
    | .capability _ => Except Raised GmailCapabilityResult
    | .provider _ => Except Raised GoogleProviderResponse

/-- A method of the executor. -/
abbrev GmailTask (α : Type) := Proc GmailCalls Unit Raised α

/-- `capabilities.read.read(request)`, and likewise for the others. -/
def askCapability (request : GmailCapabilityRequest) : GmailTask GmailCapabilityResult :=
  Proc.request GmailCalls (.capability request) id

/-- `provider_composition.execute(request)`. -/
def askProvider (request : GoogleProviderRequest) : GmailTask GoogleProviderResponse :=
  Proc.request GmailCalls (.provider request) id

/-! ### Normalizing a payload -/

section Payload

variable [PyStr]

/-- `str(value or "").strip()`. -/
def normalizedText (value : Option Value) : Except Raised String := do
  let value := value.getD .none
  let text ← PyStr.str (if value.truthy then value else .str "")
  return Python.strip text

/-- `_normalize_recipients`. -/
def normalizeRecipients : Option Value → Except Raised (List String)
  | some (.str text) => return if Python.strip text = "" then [] else [Python.strip text]
  | some (.list items) | some (.tuple items) => do
    let texts ← items.mapM PyStr.str
    return (texts.map Python.strip).filter (· ≠ "")
  | _ => return []

/-- `str(value).strip() if value is not None else None`. -/
def normalizedThreadId : Option Value → Except Raised (Option String)
  | none | some .none => return none
  | some value => do return some (Python.strip (← PyStr.str value))

end Payload

/-! ### The executor -/

namespace GmailWorkerExecutor

/-- `_gmail_capability_failure_result`. -/
def capabilityFailureResult (action : Action) (capability reason field : String) :
    WorkerExecutionResult where
  action
  status := .failed
  reason := some reason
  metadata := .ofList [("external_execution_performed", .bool false),
    ("integration", .str "gmail"), ("capability", .str capability)]
  failure := some {
    category := .permanent
    message := some reason
    metadata := .ofList [("field", .str field)] }

/-- What a capability returned, as the result of an action. -/
def resultOf (action : Action) (result : GmailCapabilityResult) : WorkerExecutionResult where
  action
  status := result.status
  reason := result.reason
  metadata := result.metadata

/-- `_gmail_provider_request_metadata`. -/
def providerRequestMetadata (request : GoogleProviderRequest) : Value :=
  .dict [("operation", .str request.operation), ("path", .str request.path),
    ("method", .str request.method),
    ("body", (request.body.map fun body => Value.dict body.entries).getD .none),
    ("query", .dict request.query.entries),
    ("account_context", (request.accountContext.map (·.asMetadata)).getD .none)]

/-- `_gmail_provider_failure_result`, for a response that carries a failure. -/
def providerFailureResult (action : Action) (request : GoogleProviderRequest)
    (response : GoogleProviderResponse) (failure : GoogleProviderFailure) :
    WorkerExecutionResult where
  action
  status := .failed
  reason := some failure.message
  metadata := .ofList [("external_execution_performed", .bool false),
    ("integration", .str "gmail"), ("capability", .str request.operation),
    ("account_context_used", (request.accountContext.map (·.asMetadata)).getD .none),
    ("provider_request", providerRequestMetadata request),
    ("provider_response", .dict response.body.entries)]
  failure := some {
    category := failure.category
    message := some failure.message
    metadata := failure.metadata.update [("provider_status_code", .int response.statusCode),
      ("provider_reason", optionalText failure.providerReason),
      ("retryable", .bool failure.retryable)] }

/-- The result of an action whose provider request was answered. -/
def answeredResult (result : WorkerExecutionResult) (accountContext : WorkerAccountContext)
    (request : GoogleProviderRequest) (response : GoogleProviderResponse) :
    WorkerExecutionResult :=
  match response.failure with
  | some failure => providerFailureResult result.action request response failure
  | none => {
      action := result.action
      status := result.status
      reason := result.reason
      metadata := result.metadata.update [("account_context_used", accountContext.asMetadata),
        ("provider_request", providerRequestMetadata request),
        ("provider_response", .dict response.body.entries)] }

/-- The result of an action the executor has no capability for. -/
def skippedResult (action : Action) : WorkerExecutionResult where
  action
  status := .skipped
  reason := some "gmail executor has no capability for this action type"
  metadata := .ofList [("external_execution_performed", .bool false),
    ("integration", .str "gmail"), ("placeholder", .bool true), ("skipped", .bool true)]

/-- `/gmail/v1/users/me/messages/`. -/
def messagesPath : String := "/gmail/v1/users/me/messages/"

/-- The provider request of a read. -/
def readProviderRequest (messageId : String) (accountContext : WorkerAccountContext) :
    GoogleProviderRequest where
  operation := "read"
  path := messagesPath ++ messageId
  accountContext

/-- The provider body of a send. -/
def sendBody (to_ : List String) (subject body : String) (cc bcc : List String)
    (threadId : Value) : Dict :=
  .ofList [("to", .tuple (to_.map .str)), ("subject", .str subject), ("body", .str body),
    ("cc", .tuple (cc.map .str)), ("bcc", .tuple (bcc.map .str)), ("thread_id", threadId)]

/-- The provider request of a send. -/
def sendProviderRequest (to_ : List String) (subject body : String) (cc bcc : List String)
    (threadId : Value) (accountContext : WorkerAccountContext) : GoogleProviderRequest where
  operation := "send"
  path := messagesPath ++ "send"
  method := "POST"
  body := some (sendBody to_ subject body cc bcc threadId)
  accountContext

/-- The provider request of an archive operation. -/
def archiveProviderRequest (messageId : String) (accountContext : WorkerAccountContext) :
    GoogleProviderRequest where
  operation := "archive"
  path := messagesPath ++ messageId ++ "/modify"
  method := "POST"
  body := some (.ofList [("remove_label_ids", .tuple [.str "INBOX"])])
  accountContext

variable [PyStr]

/-- `_capability_for_action`. -/
def capabilityForAction (action : Action) : String :=
  match action.payload.get "capability" with
  | some (.str capability) =>
    if Python.strip capability = "" then action.type else Python.strip capability
  | _ => action.type

/-- `_normalized_capability`. -/
def normalizedCapability (capability : String) : String :=
  let normalized := PyStd.casefold (Python.strip capability)
  (gmailCapabilityAliases.lookup normalized).getD normalized

/-- `_provider_request`. -/
def providerRequest (action : Action) (capability : String)
    (accountContext : WorkerAccountContext) : Except Raised GoogleProviderRequest :=
  if capability = GMAIL_READ then do
    let messageId ← normalizedText (action.payload.get "message_id")
    return readProviderRequest messageId accountContext
  else if capability = GMAIL_SEND then do
    let to_ ← normalizeRecipients (action.payload.get "to")
    let subject ← normalizedText (action.payload.get "subject")
    let body ← normalizedText (action.payload.get "body")
    let cc ← normalizeRecipients (action.payload.get "cc")
    let bcc ← normalizeRecipients (action.payload.get "bcc")
    return sendProviderRequest to_ subject body cc bcc
      ((action.payload.get "thread_id").getD .none) accountContext
  else do
    let messageId ← normalizedText (action.payload.get "message_id")
    return archiveProviderRequest messageId accountContext

/-- `_execute_read`: the id of the message must be explicit. -/
def executeRead (action : Action) : GmailTask WorkerExecutionResult := do
  let messageId ← Proc.ofExcept (normalizedText (action.payload.get "message_id"))
  if messageId = "" then
    return capabilityFailureResult action "read" "gmail read request missing message_id" "message_id"
  else
    let result ← askCapability (.read { messageId })
    return resultOf action result

/-- `_execute_archive`. -/
def executeArchive (action : Action) : GmailTask WorkerExecutionResult := do
  let messageId ← Proc.ofExcept (normalizedText (action.payload.get "message_id"))
  if messageId = "" then
    return capabilityFailureResult action "archive" "gmail archive request missing message_id"
      "message_id"
  else
    let result ← askCapability (.archive { messageId })
    return resultOf action result

/-- The request to the send capability. -/
def sendRequest (action : Action) : Except Raised GmailSendRequest := do
  let to_ ← normalizeRecipients (action.payload.get "to")
  let subject ← normalizedText (action.payload.get "subject")
  let body ← normalizedText (action.payload.get "body")
  let cc ← normalizeRecipients (action.payload.get "cc")
  let bcc ← normalizeRecipients (action.payload.get "bcc")
  let threadId ← normalizedThreadId (action.payload.get "thread_id")
  return { to_, subject, body, cc, bcc, threadId }

/-- The required fields a send request lacks. -/
def missingFields (request : GmailSendRequest) : List String :=
  (if request.to_ = [] then ["to"] else []) ++ (if request.subject = "" then ["subject"] else []) ++
    (if request.body = "" then ["body"] else [])

/-- `_execute_send`. -/
def executeSend (action : Action) : GmailTask WorkerExecutionResult := do
  let request ← Proc.ofExcept (sendRequest action)
  if missingFields request ≠ [] then
    return capabilityFailureResult action "send" "gmail send request missing required fields"
      (",".intercalate (missingFields request))
  else
    let result ← askCapability (.send request)
    return resultOf action result

/-- What follows a capability: the provider is asked if it succeeded and there is an
account context. -/
def provide (action : Action) (capability : String) (accountContext : Option WorkerAccountContext)
    (result : WorkerExecutionResult) : GmailTask WorkerExecutionResult :=
  match accountContext with
  | none => return result
  | some accountContext =>
    if result.status ≠ .succeeded then return result
    else do
      let request ← Proc.ofExcept (providerRequest action capability accountContext)
      let response ← askProvider request
      return answeredResult result accountContext request response

/-- The capability an execution resolves to. -/
def resolvedCapability (action : Action) (capability : Option String) : String :=
  normalizedCapability ((capability.bind orNone).getD (capabilityForAction action))

/-- `execute`. -/
def execute (action : Action) (capability : Option String)
    (accountContext : Option WorkerAccountContext) : GmailTask WorkerExecutionResult :=
  let resolved := resolvedCapability action capability
  if resolved = GMAIL_READ then do
    provide action resolved accountContext (← executeRead action)
  else if resolved = GMAIL_SEND then do
    provide action resolved accountContext (← executeSend action)
  else if resolved = GMAIL_ARCHIVE then do
    provide action resolved accountContext (← executeArchive action)
  else return skippedResult action

end GmailWorkerExecutor

/-! ### The deterministic capabilities -/

/-- The metadata every deterministic capability reports. -/
def inMemoryMetadata (capability : String) : List (String × Value) :=
  [("external_execution_performed", .bool false), ("integration", .str "gmail"),
    ("capability", .str capability), ("adapter", .str "in_memory")]

/-- The only message of the deterministic read capability. -/
def inMemoryMessage : Value :=
  .dict [("message_id", .str "gmail-message-1"), ("subject", .str "Sprint 1 status"),
    ("sender", .str "sender@example.com"),
    ("body", .str "Deterministic in-memory Gmail read result."), ("labels", .tuple [.str "INBOX"])]

/-- `InMemoryGmailReadCapability`, `InMemoryGmailSendCapability` and
`InMemoryGmailArchiveCapability`. -/
def inMemoryCapability : GmailCapabilityRequest → GmailCapabilityResult
  | .read request =>
    let found : Bool := request.messageId = "gmail-message-1"
    { status := .succeeded
      reason := some "gmail read capability in-memory result"
      metadata := .ofList (inMemoryMetadata "read" ++ [("message_id", .str request.messageId),
        ("found", .bool found)] ++ if found then [("message", inMemoryMessage)] else []) }
  | .send request => {
      status := .succeeded
      reason := some "gmail send capability in-memory result"
      metadata := .ofList (inMemoryMetadata "send" ++ [("sent_message", .dict [
        ("sent_message_id", .str "gmail-fake-sent-message-1"),
        ("to", .tuple (request.to_.map .str)), ("subject", .str request.subject),
        ("body", .str request.body), ("cc", .tuple (request.cc.map .str)),
        ("bcc", .tuple (request.bcc.map .str)), ("thread_id", optionalText request.threadId)])]) }
  | .archive request =>
    let messageId := Python.strip request.messageId
    let archived : Bool := messageId = "gmail-message-1"
    { status := .succeeded
      reason := some "gmail archive capability in-memory result"
      metadata := .ofList (inMemoryMetadata "archive" ++ [("message_id", .str messageId),
        ("archived", .bool archived), ("found", .bool archived)]) }

end Velox
