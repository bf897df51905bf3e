import Velox.Integrations.Json
import Velox.Lib.Effect
import Velox.Python.Text

/-!
# The operator session

One software engineering task, driven from a terminal over the public API. A session asks its
outside three things: to send a request and await the response, to read a line the operator
types, and to print a line.

How a base URL is split and how Python writes values are parameters.

## Main definitions

* `OperatorCalls` — the calls of a session
* `TaskSession.delegate` and one definition for each other request
* `TaskSession.runSession` — the whole session
* `TaskSession.main` — with its exit codes
-/

set_option autoImplicit false

/-- What a session uses of Python beyond its own text. -/
class PyTerminal where
  /-- `str(value)`. -/
  str : Value → String
  /-- `repr(value)`. -/
  repr : Value → String
  /-- `str.lower()`. -/
  lower : String → String

/-- ASCII text, and values that are never shown. -/
@[reducible] def PyTerminal.plain : PyTerminal where
  str _ := "..."
  repr _ := "..."
  lower s := String.ofList (s.toList.map Char.toLower)

namespace Value

/-- Python's `or`. -/
def orElse (x y : Value) : Value := if x.truthy then x else y

mutual

/-- Python's `==`: a boolean equals its number, and the order of the entries of an object does
not matter. -/
def equals : Value → Value → Bool
  | .none, .none => true
  | .bool a, y => y.int? = some (if a then 1 else 0)
  | .int n, y => y.int? = some n
  | .str s, .str t => s = t
  | .list xs, .list ys => equalsList xs ys
  | .tuple xs, .tuple ys => equalsList xs ys
  | .dict es, .dict fs => es.length = fs.length && includes es fs
  | .object o, .object p => o = p
  | _, _ => false

/-- Python's `==` on the items of lists. -/
def equalsList : List Value → List Value → Bool
  | [], [] => true
  | x :: xs, y :: ys => equals x y && equalsList xs ys
  | _, _ => false

/-- Every entry has an equal one among others. -/
def includes : List (String × Value) → List (String × Value) → Bool
  | [], _ => true
  | (key, x) :: es, fs =>
    (fs.find? fun entry => entry.1 = key).any (fun entry => equals x entry.2) && includes es fs

end

end Value

namespace Python

/-- `str.rstrip()`. -/
def rstrip (s : String) : String := String.ofList (s.toList.rdropWhile isSpace)

end Python

namespace Velox

/-! ### Calls -/

/-- What is raised in a session. -/
inductive SessionError
  /-- `OperatorError`. -/
  | operator (message : String)
  /-- `httpx.HTTPError`, with the name of its class. -/
  | http (className : String)
  /-- Any other exception. -/
  | other (e : Raised)
  deriving DecidableEq

/-- `GET` or `POST`. -/
inductive HttpMethod
  | get
  | post
  deriving DecidableEq

/-- The streams a session prints to. -/
inductive Stream
  | out
  | err
  deriving DecidableEq

/-- A request of a session. -/
structure ApiRequest where
  method : HttpMethod
  path : String
  json : Option (List (String × Value)) := none
  deriving DecidableEq

/-- The client of a session: its base URL and the headers of every request. -/
structure ApiClient where
  baseUrl : String
  headers : List (String × String)
  deriving DecidableEq

/-- A response, as far as a session reads it. -/
structure ApiResponse where
  statusCode : ℤ
  /-- `response.json()`. -/
  json : Except Raised Value

/-- What a session asks of the outside. -/
inductive OperatorCall
  | request (client : ApiClient) (request : ApiRequest)
  | readLine
  | print (line : String) (stream : Stream)
  deriving DecidableEq

/-- What a session is answered. -/
@[reducible] def OperatorCall.Reply : OperatorCall → Type
  | .request .. => Except SessionError ApiResponse
  | .readLine => Except SessionError String
  | .print .. => Unit

/-- The calls of a session with their replies. -/
abbrev OperatorCalls : Signature := ⟨OperatorCall, OperatorCall.Reply⟩

/-- A step of a session. -/
abbrev Session (α : Type) := Proc OperatorCalls Unit SessionError α

namespace TaskSession

/-- `client.get` or `client.post`. -/
def send (client : ApiClient) (request : ApiRequest) : Session ApiResponse :=
  Proc.request OperatorCalls (.request client request) id

/-- `read_line()`. -/
def readLine : Session String := Proc.request OperatorCalls .readLine id

/-- `print(line, file=stream)`. -/
def print (line : String) (stream : Stream := .out) : Session Unit :=
  Proc.request OperatorCalls (.print line stream) .ok

/-! ### Reading responses -/

/-- `_expect_status`. -/
def expectStatus (response : ApiResponse) (expected : ℤ) (step : String) :
    Except SessionError Unit :=
  .raiseIf (response.statusCode ≠ expected)
    (.operator (step ++ " failed with HTTP " ++ toString response.statusCode))

/-- `_parse_json`. -/
def parseJson (response : ApiResponse) (step : String) :
    Except SessionError (List (String × Value)) :=
  match response.json with
  | .ok (.dict payload) => .ok payload
  | .ok _ => .error (.operator (step ++ " returned an unexpected payload shape"))
  | .error e =>
    .error (if IsValueError e then .operator (step ++ " returned invalid JSON") else .other e)

/-! ### The requests -/

/-- `GET /health`. -/
def healthRequest : ApiRequest := { method := .get, path := "/health" }

/-- `POST /tasks/software-engineering`. -/
def delegateRequest (objective target : String) : ApiRequest where
  method := .post
  path := "/tasks/software-engineering"
  json := some [("objective", .str objective), ("target", .str target)]

/-- `POST /actions/{action_id}/approve`. -/
def approveRequest (actionId : String) : ApiRequest where
  method := .post
  path := "/actions/" ++ actionId ++ "/approve"

/-- `POST /tasks/software-engineering/{action_id}/execute`. -/
def executeRequest (actionId : String) : ApiRequest where
  method := .post
  path := "/tasks/software-engineering/" ++ actionId ++ "/execute"

/-- `POST /tasks/software-engineering/{action_id}/work-product/disposition`. -/
def dispositionRequest (actionId disposition : String) : ApiRequest where
  method := .post
  path := "/tasks/software-engineering/" ++ actionId ++ "/work-product/disposition"
  json := some [("disposition", .str disposition)]

/-- `POST /tasks/software-engineering/{action_id}/promote`. -/
def promoteRequest (actionId title body : String) : ApiRequest where
  method := .post
  path := "/tasks/software-engineering/" ++ actionId ++ "/promote"
  json := some [("title", .str title), ("body", .str body)]

/-- `GET /tasks/software-engineering/{action_id}/status`. -/
def statusRequest (actionId : String) : ApiRequest where
  method := .get
  path := "/tasks/software-engineering/" ++ actionId ++ "/status"

/-- `_run_health`. -/
def runHealth (client : ApiClient) : Session Unit := do
  let response ← send client healthRequest
  Proc.ofExcept (expectStatus response 200 "VELOX health check")
  let payload ← Proc.ofExcept (parseJson response "VELOX health check")
  Proc.ofExcept (.raiseIf (Value.field payload "status" ≠ .str "ok")
    (.operator "VELOX health status is not ok"))

/-- The id of the action, if the response has one. -/
def actionIdOf : Value → Except SessionError String
  | .str actionId => do
    .raiseIf (actionId = "") (.operator "task delegation did not return an action id")
    return actionId
  | _ => .error (.operator "task delegation did not return an action id")

section Terminal

variable [PyTerminal]

/-- `_delegate`. -/
def delegate (client : ApiClient) (objective target : String) : Session String := do
  let response ← send client (delegateRequest objective target)
  Proc.ofExcept (expectStatus response 200 "task delegation")
  let body ← Proc.ofExcept (parseJson response "task delegation")
  Proc.ofExcept (.raiseIf (Value.field body "status" ≠ .str "awaiting_approval")
    (.operator ("task delegation did not enter awaiting_approval (status=" ++
      PyTerminal.repr (Value.field body "status") ++ ")")))
  Proc.ofExcept (actionIdOf (Value.field body "action_id"))

omit [PyTerminal] in
/-- `_approve`. -/
def approve (client : ApiClient) (actionId : String) : Session Unit := do
  let response ← send client (approveRequest actionId)
  Proc.ofExcept (expectStatus response 200 "action approval")

/-- The reason of a failed execution in its message. -/
def reasonSuffix : Value → String
  | .str reason => if reason = "" then "" else ", reason=" ++ PyTerminal.repr (.str reason)
  | _ => ""

/-- What an operator can do about a failed execution. -/
def guidance (reason : Value) : String :=
  if reason = .str "authentication_failed" then
    "; re-authenticate the configured worker locally and create a new Action " ++
      "(the failed Action is not retried automatically)"
  else ""

/-- `_execute`. -/
def execute (client : ApiClient) (actionId : String) : Session (List (String × Value)) := do
  let response ← send client (executeRequest actionId)
  Proc.ofExcept (expectStatus response 200 "exact execution")
  let body ← Proc.ofExcept (parseJson response "exact execution")
  let reason := Value.field body "execution_reason"
  Proc.ofExcept (.raiseIf (Value.field body "execution_status" ≠ .str "succeeded")
    (.operator ("exact execution did not succeed (status=" ++
      PyTerminal.repr (Value.field body "execution_status") ++ reasonSuffix reason ++ ")" ++
        guidance reason)))
  return body

omit [PyTerminal] in
/-- `_apply_disposition`. -/
def applyDisposition (client : ApiClient) (actionId disposition : String) : Session Unit := do
  let response ← send client (dispositionRequest actionId disposition)
  Proc.ofExcept (expectStatus response 200 (disposition ++ " disposition"))
  let body ← Proc.ofExcept (parseJson response (disposition ++ " disposition"))
  Proc.ofExcept (.raiseIf (Value.field body "disposition" ≠ .str disposition ∨
      ¬(Value.field body "succeeded").truthy)
    (.operator (disposition ++ " disposition did not succeed")))

omit [PyTerminal] in
/-- `_promote`. -/
def promote (client : ApiClient) (actionId title body : String) :
    Session (List (String × Value)) := do
  let response ← send client (promoteRequest actionId title body)
  Proc.ofExcept (expectStatus response 200 "promotion")
  Proc.ofExcept (parseJson response "promotion")

/-- The fields that a status and a promotion have to agree on. -/
def identityPairs : List (String × String) := [
  ("pull_request_number", "pull_request_number"),
  ("pull_request_url", "pull_request_url"),
  ("promotion_base_branch", "base_branch"),
  ("promotion_head_branch", "head_branch")]

/-- A status names the pull request of a promotion. -/
def SameIdentity (status promotion : List (String × Value)) : Prop :=
  ∀ pair ∈ identityPairs,
    (Value.field status pair.1).equals (Value.field promotion pair.2) = true

instance (status promotion : List (String × Value)) : Decidable (SameIdentity status promotion) :=
  inferInstanceAs (Decidable (∀ pair ∈ identityPairs, _))

omit [PyTerminal] in
/-- `_verify_promoted`. -/
def verifyPromoted (client : ApiClient) (actionId : String) (promotion : List (String × Value)) :
    Session Unit := do
  let response ← send client (statusRequest actionId)
  Proc.ofExcept (expectStatus response 200 "promotion verification")
  let body ← Proc.ofExcept (parseJson response "promotion verification")
  Proc.ofExcept (.raiseIf (¬(Value.field body "promoted").truthy)
    (.operator "durable status did not settle as promoted"))
  Proc.ofExcept (.raiseIf (¬SameIdentity body promotion)
    (.operator "durable promotion identity does not match the published pull request"))

/-! ### What is printed -/

/-- The items an iteration over a value runs through. -/
def elements : Value → Except SessionError (List Value)
  | .list xs | .tuple xs => .ok xs
  | .str s => .ok (s.toList.map fun c => .str (String.singleton c))
  | .dict es => .ok (es.map fun entry => .str entry.1)
  | _ => .error (.other ⟨.typeError, "object is not iterable"⟩)

/-- The texts among some items. -/
def texts (items : List Value) : List String :=
  items.filterMap fun
    | .str s => some s
    | _ => none

/-- A text, or what is written where there is none. -/
def textOr (text otherwise : String) : String := if text = "" then otherwise else text

/-- What a review shows of a diff. -/
def diffText (review : List (String × Value)) (key : String) : String :=
  textOr (Python.rstrip (PyTerminal.str ((Value.field review key).orElse (.str ""))))
    "(no tracked changes)"

/-- The lines of a review. -/
def reviewLines (review : List (String × Value)) (changed untracked : List String) :
    List String := [
  "",
  "=== VELOX work-product review ===",
  "Changed files: " ++ textOr (", ".intercalate changed) "(none)",
  "Untracked files (content not shown): " ++ textOr (", ".intercalate untracked) "(none)",
  "Canonical checkout clean: " ++ PyTerminal.str (Value.field review "canonical_clean"),
  "Canonical checkout unchanged: " ++ PyTerminal.str (Value.field review "canonical_unchanged"),
  "--- diff --stat ---",
  diffText review "diff_stat",
  "--- diff ---",
  diffText review "diff"] ++
  if (Value.field review "diff_truncated").truthy then ["[diff truncated]"] else []

/-- `_render_review`. -/
def renderReview (review : List (String × Value)) : Session Unit := do
  let changed ← Proc.ofExcept (elements ((Value.field review "changed_files").orElse (.list [])))
  let untracked ← Proc.ofExcept
    (elements ((Value.field review "untracked_files").orElse (.list [])))
  (reviewLines review (texts changed) (texts untracked)).forM fun line => print line

omit [PyTerminal] in
/-- `_prompt`. -/
def prompt (question : String) : Session String := do
  print question
  let line ← readLine
  return Python.strip line

/-! ### The session -/

/-- The review of an execution response. -/
def reviewOf : Value → Except SessionError (List (String × Value))
  | .dict review => .ok review
  | _ => .error (.operator "execution response is missing a bounded review")

/-- What is printed of a published pull request. -/
def promotedLines (promotion : List (String × Value)) : List String :=
  (match Value.field promotion "pull_request_url" with
    | .str url => ["pull_request_url: " ++ url]
    | _ => []) ++
  match (Value.field promotion "pull_request_number").int? with
  | some _ => ["pull_request_number: " ++
      PyTerminal.str (Value.field promotion "pull_request_number")]
  | none => []

/-- The end of a session that has kept the work product. -/
def finishKept (client : ApiClient) (actionId : String) : Session ℤ := do
  let answer ← prompt <|
    "Type promote to publish the work product, or anything else to finish " ++
      "in kept state:"
  if answer ≠ "promote" then
    print "Finished in kept state without promotion."
    return 0
  else
    let title ← prompt "Pull request title:"
    let body ← prompt "Pull request body (one line, empty for none):"
    let promotion ← promote client actionId title body
    verifyPromoted client actionId promotion
    print "Promoted."
    (promotedLines promotion).forM fun line => print line
    return 0

/-- The part of a session that follows the execution. -/
def finishExecuted (client : ApiClient) (actionId : String) : Session ℤ := do
  let answer ← prompt "Type keep to preserve the work product, discard to remove it:"
  if answer = "discard" then
    applyDisposition client actionId "discard"
    print "Discarded. No promotion is possible."
    return 0
  else if answer ≠ "keep" then
    print "No disposition applied; nothing changed." .err
    return 1
  else
    applyDisposition client actionId "keep"
    print "Kept."
    finishKept client actionId

/-- `_run_session`. -/
def runSession (client : ApiClient) (objective target : String) : Session ℤ := do
  runHealth client
  let actionId ← delegate client objective target
  print "Task delegated and awaiting approval."
  print ("Action id: " ++ actionId)
  print "Type the action id to approve; anything else cancels:"
  let line ← readLine
  if Python.strip line ≠ actionId then
    print "Approval declined; nothing was executed." .err
    return 1
  else
    approve client actionId
    print "Approved. Running the worker..."
    let execution ← execute client actionId
    let review ← Proc.ofExcept (reviewOf (Value.field execution "review"))
    renderReview review
    finishExecuted client actionId

end Terminal

/-! ### The exit code -/

/-- What `urlsplit` makes of a base URL. -/
structure SplitUrl where
  scheme : String
  hostname : Option String
  username : Option String
  password : Option String
  path : String
  query : String
  fragment : String

/-- The hosts a session may talk to. -/
def LOOPBACK_HOSTS : List String := ["127.0.0.1", "localhost", "::1"]

/-- `base_url.rstrip("/")`. -/
def rstripSlash (url : String) : String := String.ofList (url.toList.rdropWhile (· = '/'))

/-- `_validate_base_url`. -/
def validateBaseUrl [PyTerminal] (urlsplit : String → Except Raised SplitUrl) (baseUrl : String) :
    Except SessionError String := do
  let parts ← (urlsplit baseUrl).mapError .other
  .raiseIf (parts.scheme ∉ ["http", "https"]) (.operator "base URL must use http or https")
  .raiseIf (¬∃ host ∈ parts.hostname, PyTerminal.lower host ∈ LOOPBACK_HOSTS)
    (.operator "base URL must target loopback (127.0.0.1, localhost, ::1)")
  .raiseIf (parts.username ≠ none ∨ parts.password ≠ none)
    (.operator "base URL must not embed credentials")
  .raiseIf (parts.path ∉ ["", "/"]) (.operator "base URL must not contain a path")
  .raiseIf (parts.query ≠ "" ∨ parts.fragment ≠ "")
    (.operator "base URL must not contain a query or fragment")
  return rstripSlash baseUrl

/-- `_bearer_headers`. -/
def bearerHeaders : Option String → List (String × String)
  | none => []
  | some token =>
    if Python.strip token = "" then [] else [("Authorization", "Bearer " ++ token)]

/-- The arguments of the command line. -/
structure Arguments where
  objective : String
  target : String
  baseUrl : String
  /-- `--timeout-seconds` is positive and finite. -/
  timeoutValid : Bool

/-- What is validated of the arguments. -/
def validateArguments [PyTerminal] (urlsplit : String → Except Raised SplitUrl)
    (arguments : Arguments) : Except SessionError String := do
  let baseUrl ← validateBaseUrl urlsplit arguments.baseUrl
  .raiseIf (¬arguments.timeoutValid) (.operator "timeout-seconds must be positive and finite")
  return baseUrl

/-- `main`, given the value of `VELOX_API_TOKEN`. -/
def main [PyTerminal] (urlsplit : String → Except Raised SplitUrl) (arguments : Arguments)
    (token : Option String) : Session ℤ :=
  match validateArguments urlsplit arguments with
  | .error (.operator message) => do
    print ("error: " ++ message) .err
    return 2
  | .error e => throw e
  | .ok baseUrl =>
    tryCatch (runSession ⟨baseUrl, bearerHeaders token⟩ arguments.objective arguments.target) fun
      | .operator message => do
        print ("error: " ++ message) .err
        return 1
      | .http className => do
        print ("HTTP transport failure: " ++ className) .err
        return 1
      | .other e => throw (.other e)

end TaskSession

end Velox
