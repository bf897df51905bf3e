import Velox.Lib.Transcript
import Velox.SoftwareEngineering.TaskSession

/-!
# The protocol of an operator session

Whatever a server answers and whatever is typed: the requests of a session follow one course,
each is sent once, and none before the responses and the confirmation it depends on. What a
session ends with says how far it came.

## Main definitions

* `Healthy`, `Delegated`, `Approved`, `Executed`, `Disposed`, `Promoted`, `Verified` — how far
  the requests of a session have come
* `Permitted` — the requests that may come next
* `Ended` — what a session ends with

## Main results

* `main_permitted` — the requests of a command, and what comes before each
* `main_ended` — what an exit with 0 says
-/

set_option autoImplicit false

namespace Velox

namespace TaskSession

/-! ### How far a session has come -/

/-- A request with its reply. -/
structure Answered where
  request : ApiRequest
  reply : Except SessionError ApiResponse

/-- The requests among some exchanges. -/
def requests (t : List (Exchange OperatorCalls)) : List Answered :=
  t.filterMap fun
    | ⟨.request _ request, reply⟩ => some ⟨request, reply⟩
    | _ => none

/-- The lines that were typed, stripped. -/
def typed (t : List (Exchange OperatorCalls)) : List String :=
  t.filterMap fun
    | ⟨.readLine, .ok line⟩ => some (Python.strip line)
    | _ => none

/-- A response of status 200 with a JSON object. -/
def Replies (response : ApiResponse) (body : List (String × Value)) : Prop :=
  response.statusCode = 200 ∧ response.json = .ok (.dict body)

/-- The server said that it is healthy. -/
def Healthy (rs : List Answered) : Prop :=
  ∃ response body, rs = [⟨healthRequest, .ok response⟩] ∧ Replies response body ∧
    Value.field body "status" = .str "ok"

section Course

variable (objective target : String)

/-- The server delegated the task and gave its action an id. -/
def Delegated (id : String) (rs : List Answered) : Prop :=
  ∃ earlier response body, Healthy earlier ∧
    rs = earlier ++ [⟨delegateRequest objective target, .ok response⟩] ∧ Replies response body ∧
      Value.field body "status" = .str "awaiting_approval" ∧
        Value.field body "action_id" = .str id ∧ id ≠ ""

/-- The server approved the action. -/
def Approved (id : String) (rs : List Answered) : Prop :=
  ∃ earlier response, Delegated objective target id earlier ∧
    rs = earlier ++ [⟨approveRequest id, .ok response⟩] ∧ response.statusCode = 200

/-- The server executed the action and reviewed its work product. -/
def Executed (id : String) (rs : List Answered) : Prop :=
  ∃ earlier response body review, Approved objective target id earlier ∧
    rs = earlier ++ [⟨executeRequest id, .ok response⟩] ∧ Replies response body ∧
      Value.field body "execution_status" = .str "succeeded" ∧
        Value.field body "review" = .dict review

/-- The server kept or discarded the work product. -/
def Disposed (id disposition : String) (rs : List Answered) : Prop :=
  ∃ earlier response body, Executed objective target id earlier ∧
    rs = earlier ++ [⟨dispositionRequest id disposition, .ok response⟩] ∧
      Replies response body ∧ Value.field body "disposition" = .str disposition ∧
        (Value.field body "succeeded").truthy

/-- The server published the work product. -/
def Promoted (id title body : String) (promotion : List (String × Value)) (rs : List Answered) :
    Prop :=
  ∃ earlier response, Disposed objective target id "keep" earlier ∧
    rs = earlier ++ [⟨promoteRequest id title body, .ok response⟩] ∧ Replies response promotion

/-- The durable status of the action names the published pull request. -/
def Verified (id title body : String) (rs : List Answered) : Prop :=
  ∃ earlier response status promotion, Promoted objective target id title body promotion earlier ∧
    rs = earlier ++ [⟨statusRequest id, .ok response⟩] ∧ Replies response status ∧
      (Value.field status "promoted").truthy ∧ SameIdentity status promotion

/-- The requests that may come next, given those before and the lines typed so far. -/
inductive Permits (rs : List Answered) : List String → ApiRequest → Prop
  | health (h : rs = []) : Permits rs [] healthRequest
  | delegate (h : Healthy rs) : Permits rs [] (delegateRequest objective target)
  | approve {id : String} (h : Delegated objective target id rs) :
    Permits rs [id] (approveRequest id)
  | execute {id : String} (h : Approved objective target id rs) :
    Permits rs [id] (executeRequest id)
  | dispose {id disposition : String} (h : Executed objective target id rs)
    (hdisposition : disposition = "keep" ∨ disposition = "discard") :
    Permits rs [id, disposition] (dispositionRequest id disposition)
  | promote {id title body : String} (h : Disposed objective target id "keep" rs) :
    Permits rs [id, "keep", "promote", title, body] (promoteRequest id title body)
  | verify {id title body : String} {promotion : List (String × Value)}
    (h : Promoted objective target id title body promotion rs) :
    Permits rs [id, "keep", "promote", title, body] (statusRequest id)

/-- The calls a session may make after some exchanges. -/
def Permitted (client : ApiClient) (t : List (Exchange OperatorCalls)) : OperatorCall → Prop
  | .request client' request =>
    client' = client ∧ Permits objective target (requests t) (typed t) request
  | _ => True

/-- What a session ends with, given its requests and the lines that were typed. -/
inductive Ended (rs : List Answered) : List String → ℤ → Prop
  | declined {id answer : String} (h : Delegated objective target id rs) (hanswer : answer ≠ id) :
    Ended rs [answer] 1
  | undecided {id answer : String} (h : Executed objective target id rs) (hkeep : answer ≠ "keep")
    (hdiscard : answer ≠ "discard") : Ended rs [id, answer] 1
  | discarded {id : String} (h : Disposed objective target id "discard" rs) :
    Ended rs [id, "discard"] 0
  | kept {id answer : String} (h : Disposed objective target id "keep" rs)
    (hanswer : answer ≠ "promote") : Ended rs [id, "keep", answer] 0
  | promoted {id title body : String} (h : Verified objective target id title body rs) :
    Ended rs [id, "keep", "promote", title, body] 0

end Course

/-! ### Exchanges and what is read off them -/

section Readings

variable {t : List (Exchange OperatorCalls)}

theorem requests_append {t' : List (Exchange OperatorCalls)} :
    requests (t ++ t') = requests t ++ requests t' := List.filterMap_append

theorem requests_request {client : ApiClient} {request : ApiRequest}
    {r : Except SessionError ApiResponse} :
    requests (t ++ [⟨.request client request, r⟩]) = requests t ++ [⟨request, r⟩] :=
  requests_append

theorem typed_request {client : ApiClient} {request : ApiRequest}
    {r : Except SessionError ApiResponse} :
    typed (t ++ [⟨.request client request, r⟩]) = typed t :=
  List.filterMap_append.trans (List.append_nil _)

theorem requests_readLine {r : Except SessionError String} :
    requests (t ++ [⟨.readLine, r⟩]) = requests t :=
  requests_append.trans (List.append_nil _)

theorem typed_readLine {line : String} :
    typed (t ++ [⟨.readLine, .ok line⟩]) = typed t ++ [Python.strip line] :=
  List.filterMap_append

theorem requests_print {line : String} {stream : Stream} {r : Unit} :
    requests (t ++ [⟨.print line stream, r⟩]) = requests t :=
  requests_append.trans (List.append_nil _)

theorem typed_print {line : String} {stream : Stream} {r : Unit} :
    typed (t ++ [⟨.print line stream, r⟩]) = typed t :=
  List.filterMap_append.trans (List.append_nil _)

end Readings

/-- The requests of some exchanges and the lines that were typed. -/
structure Stands (rs : List Answered) (ls : List String) (t : List (Exchange OperatorCalls)) :
    Prop where
  requests : requests t = rs
  typed : typed t = ls

/-! ### The steps of a session -/

section Steps

variable {objective target : String} {client : ApiClient} {rs : List Answered} {ls : List String}
  {t : List (Exchange OperatorCalls)}

theorem finds_send {request : ApiRequest} (hpermits : Permits objective target rs ls request)
    (ht : Stands rs ls t) : (send client request).Finds (Permitted objective target client)
      (fun t response => Stands (rs ++ [⟨request, .ok response⟩]) ls t) t := by
  obtain ⟨rfl, rfl⟩ := ht
  refine ⟨⟨rfl, hpermits⟩, fun r response hr => ?_⟩
  obtain rfl : r = .ok response := hr
  exact ⟨requests_request, typed_request⟩

theorem finds_print {line : String} {stream : Stream} (ht : Stands rs ls t) :
    (print line stream).Finds (Permitted objective target client) (fun t _ => Stands rs ls t) t := by
  obtain ⟨rfl, rfl⟩ := ht
  exact ⟨trivial, fun r _ _ => ⟨requests_print, typed_print⟩⟩

theorem finds_prints {lines : List String} (ht : Stands rs ls t) :
    (lines.forM fun line => print line : Session Unit).Finds (Permitted objective target client)
      (fun t _ => Stands rs ls t) t := by
  induction lines generalizing t with
  | nil => exact Proc.finds_pure.mpr ht
  | cons line lines ih => exact Proc.Finds.seq (finds_print ht) fun t _ ht => ih ht

theorem finds_readLine (ht : Stands rs ls t) :
    readLine.Finds (Permitted objective target client)
      (fun t line => Stands rs (ls ++ [Python.strip line]) t) t := by
  obtain ⟨rfl, rfl⟩ := ht
  refine ⟨trivial, fun r line hr => ?_⟩
  obtain rfl : r = .ok line := hr
  exact ⟨requests_readLine, typed_readLine⟩

theorem finds_prompt {question : String} (ht : Stands rs ls t) :
    (prompt question).Finds (Permitted objective target client)
      (fun t answer => Stands rs (ls ++ [answer]) t) t := by
  apply Proc.Finds.seq (finds_print ht)
  intro t _ ht
  apply Proc.Finds.seq (finds_readLine ht)
  intro t line ht
  exact Proc.finds_pure.mpr ht

theorem expectStatus_eq_ok_iff {response : ApiResponse} {expected : ℤ} {step : String} {u : Unit} :
    expectStatus response expected step = .ok u ↔ response.statusCode = expected :=
  Except.raiseIf_eq_ok_iff.trans not_not

theorem parseJson_eq_ok_iff {response : ApiResponse} {step : String}
    {body : List (String × Value)} :
    parseJson response step = .ok body ↔ response.json = .ok (.dict body) := by
  rw [parseJson]
  split <;> simp_all

/-- What follows a response of status 200 with a JSON object. -/
theorem finds_replied {α : Type} {response : ApiResponse} {step : String}
    {f : List (String × Value) → Session α} {B : List (Exchange OperatorCalls) → α → Prop}
    (hf : ∀ body, Replies response body →
      (f body).Finds (Permitted objective target client) B t) :
    ((do
      Proc.ofExcept (expectStatus response 200 step)
      let body ← Proc.ofExcept (parseJson response step)
      f body) : Session α).Finds (Permitted objective target client) B t := by
  apply Proc.Finds.ofExcept_bind
  intro _ hstatus
  apply Proc.Finds.ofExcept_bind
  intro body hbody
  exact hf body ⟨expectStatus_eq_ok_iff.mp hstatus, parseJson_eq_ok_iff.mp hbody⟩

theorem finds_runHealth (ht : Stands [] [] t) :
    (runHealth client).Finds (Permitted objective target client)
      (fun t _ => ∃ rs, Healthy rs ∧ Stands rs [] t) t := by
  apply Proc.Finds.seq (finds_send (.health rfl) ht)
  intro t response ht
  apply finds_replied
  intro body hbody _ hok
  rw [Except.raiseIf_eq_ok_iff, not_not] at hok
  exact ⟨_, ⟨response, body, rfl, hbody, hok⟩, ht⟩

theorem actionIdOf_eq_ok_iff {value : Value} {id : String} :
    actionIdOf value = .ok id ↔ value = .str id ∧ id ≠ "" := by
  cases value with
  | str actionId =>
    rw [actionIdOf, Except.bind_eq_ok_iff]
    constructor
    · rintro ⟨_, hne, hid⟩
      obtain rfl : actionId = id := Except.ok.inj hid
      exact ⟨rfl, Except.raiseIf_eq_ok_iff.mp hne⟩
    · rintro ⟨hvalue, hne⟩
      obtain rfl := Value.str.inj hvalue
      exact ⟨(), Except.raiseIf_eq_ok_iff.mpr hne, rfl⟩
  | _ => simp [actionIdOf]

variable [PyTerminal]

theorem finds_delegate (hrs : Healthy rs) (ht : Stands rs [] t) :
    (delegate client objective target).Finds (Permitted objective target client)
      (fun t id => ∃ rs, Delegated objective target id rs ∧ Stands rs [] t) t := by
  apply Proc.Finds.seq (finds_send (.delegate hrs) ht)
  intro t response ht
  apply finds_replied
  intro body hbody
  apply Proc.Finds.ofExcept_bind
  intro _ hstatus
  rw [Except.raiseIf_eq_ok_iff, not_not] at hstatus
  intro id hid
  obtain ⟨hvalue, hne⟩ := actionIdOf_eq_ok_iff.mp hid
  exact ⟨_, ⟨rs, response, body, hrs, rfl, hbody, hstatus, hvalue, hne⟩, ht⟩

omit [PyTerminal] in
theorem finds_approve {id : String} (hrs : Delegated objective target id rs)
    (ht : Stands rs [id] t) :
    (approve client id).Finds (Permitted objective target client)
      (fun t _ => ∃ rs, Approved objective target id rs ∧ Stands rs [id] t) t := by
  apply Proc.Finds.seq (finds_send (.approve hrs) ht)
  intro t response ht _ hok
  exact ⟨_, ⟨rs, response, hrs, rfl, expectStatus_eq_ok_iff.mp hok⟩, ht⟩

/-- An execution whose review is there. -/
theorem finds_execute {id : String} (hrs : Approved objective target id rs)
    (ht : Stands rs [id] t) :
    (execute client id).Finds (Permitted objective target client)
      (fun t body => ∀ review, reviewOf (Value.field body "review") = .ok review →
        ∃ rs, Executed objective target id rs ∧ Stands rs [id] t) t := by
  apply Proc.Finds.seq (finds_send (.execute hrs) ht)
  intro t response ht
  apply finds_replied
  intro body hbody
  apply Proc.Finds.ofExcept_bind
  intro _ hstatus
  rw [Except.raiseIf_eq_ok_iff, not_not] at hstatus
  rw [Proc.finds_pure]
  intro review hreview
  have hfield : Value.field body "review" = .dict review := by
    cases hvalue : Value.field body "review" with
    | dict review' =>
      rw [hvalue] at hreview
      rw [Except.ok.inj hreview]
    | _ => rw [hvalue] at hreview; cases hreview
  exact ⟨_, ⟨rs, response, body, review, hrs, rfl, hbody, hstatus, hfield⟩, ht⟩

omit [PyTerminal] in
theorem finds_applyDisposition {id disposition : String} (hrs : Executed objective target id rs)
    (hdisposition : disposition = "keep" ∨ disposition = "discard")
    (ht : Stands rs [id, disposition] t) :
    (applyDisposition client id disposition).Finds (Permitted objective target client)
      (fun t _ => ∃ rs, Disposed objective target id disposition rs ∧
        Stands rs [id, disposition] t) t := by
  apply Proc.Finds.seq (finds_send (.dispose hrs hdisposition) ht)
  intro t response ht
  apply finds_replied
  intro body hbody _ hok
  rw [Except.raiseIf_eq_ok_iff, not_or, not_not, not_not] at hok
  exact ⟨_, ⟨rs, response, body, hrs, rfl, hbody, hok.1, hok.2⟩, ht⟩

omit [PyTerminal] in
theorem finds_promote {id title body : String} (hrs : Disposed objective target id "keep" rs)
    (ht : Stands rs [id, "keep", "promote", title, body] t) :
    (promote client id title body).Finds (Permitted objective target client)
      (fun t promotion => ∃ rs, Promoted objective target id title body promotion rs ∧
        Stands rs [id, "keep", "promote", title, body] t) t := by
  apply Proc.Finds.seq (finds_send (.promote hrs) ht)
  intro t response ht
  apply Proc.Finds.ofExcept_bind
  intro _ hstatus promotion hpromotion
  have hreplies : Replies response promotion :=
    ⟨expectStatus_eq_ok_iff.mp hstatus, parseJson_eq_ok_iff.mp hpromotion⟩
  exact ⟨_, ⟨rs, response, hrs, rfl, hreplies⟩, ht⟩

omit [PyTerminal] in
theorem finds_verifyPromoted {id title body : String} {promotion : List (String × Value)}
    (hrs : Promoted objective target id title body promotion rs)
    (ht : Stands rs [id, "keep", "promote", title, body] t) :
    (verifyPromoted client id promotion).Finds (Permitted objective target client)
      (fun t _ => ∃ rs, Verified objective target id title body rs ∧
        Stands rs [id, "keep", "promote", title, body] t) t := by
  apply Proc.Finds.seq (finds_send (.verify hrs) ht)
  intro t response ht
  apply finds_replied
  intro status hstatus
  apply Proc.Finds.ofExcept_bind
  intro _ hpromoted _ hsame
  rw [Except.raiseIf_eq_ok_iff, not_not] at hpromoted hsame
  exact ⟨_, ⟨rs, response, status, promotion, hrs, rfl, hstatus, hpromoted, hsame⟩, ht⟩

theorem finds_renderReview {review : List (String × Value)} (ht : Stands rs ls t) :
    (renderReview review).Finds (Permitted objective target client)
      (fun t _ => Stands rs ls t) t := by
  apply Proc.Finds.ofExcept_bind
  intro changed _
  apply Proc.Finds.ofExcept_bind
  intro untracked _
  exact finds_prints ht

/-! ### The session -/

omit [PyTerminal] in
/-- A session that prints a last line and ends. -/
theorem finds_end {line : String} {stream : Stream} {code : ℤ}
    (hended : Ended objective target rs ls code) (ht : Stands rs ls t) :
    ((do
      print line stream
      return code) : Session ℤ).Finds (Permitted objective target client)
      (fun t code => Ended objective target (requests t) (typed t) code) t := by
  apply Proc.Finds.seq (finds_print ht)
  intro t _ ht
  rw [Proc.finds_pure, ht.requests, ht.typed]
  exact hended

theorem finds_finishKept {id : String} (hrs : Disposed objective target id "keep" rs)
    (ht : Stands rs [id, "keep"] t) :
    (finishKept client id).Finds (Permitted objective target client)
      (fun t code => Ended objective target (requests t) (typed t) code) t := by
  apply Proc.Finds.seq (finds_prompt ht)
  intro t answer ht
  rw [Proc.finds_ite]
  refine ⟨fun hanswer => finds_end (.kept hrs hanswer) ht, fun hanswer => ?_⟩
  rw [not_not] at hanswer
  subst hanswer
  apply Proc.Finds.seq (finds_prompt ht)
  intro t title ht
  apply Proc.Finds.seq (finds_prompt ht)
  intro t body ht
  apply Proc.Finds.seq (finds_promote hrs ht)
  rintro t promotion ⟨rs, hrs, ht⟩
  apply Proc.Finds.seq (finds_verifyPromoted hrs ht)
  rintro t _ ⟨rs, hrs, ht⟩
  apply Proc.Finds.seq (finds_print ht)
  intro t _ ht
  apply Proc.Finds.seq (finds_prints ht)
  intro t _ ht
  rw [Proc.finds_pure, ht.requests, ht.typed]
  exact .promoted hrs

theorem finds_finishExecuted {id : String} (hrs : Executed objective target id rs)
    (ht : Stands rs [id] t) :
    (finishExecuted client id).Finds (Permitted objective target client)
      (fun t code => Ended objective target (requests t) (typed t) code) t := by
  apply Proc.Finds.seq (finds_prompt ht)
  intro t answer ht
  rw [Proc.finds_ite]
  constructor
  · rintro rfl
    apply Proc.Finds.seq (finds_applyDisposition hrs (Or.inr rfl) ht)
    rintro t _ ⟨rs, hrs, ht⟩
    exact finds_end (.discarded hrs) ht
  intro hdiscard
  rw [Proc.finds_ite]
  refine ⟨fun hkeep => finds_end (.undecided hrs hkeep hdiscard) ht, fun hkeep => ?_⟩
  rw [not_not] at hkeep
  subst hkeep
  apply Proc.Finds.seq (finds_applyDisposition hrs (Or.inl rfl) ht)
  rintro t _ ⟨rs, hrs, ht⟩
  apply Proc.Finds.seq (finds_print ht)
  intro t _ ht
  exact finds_finishKept hrs ht

theorem finds_runSession (ht : Stands [] [] t) :
    (runSession client objective target).Finds (Permitted objective target client)
      (fun t code => Ended objective target (requests t) (typed t) code) t := by
  apply Proc.Finds.seq (finds_runHealth ht)
  rintro t _ ⟨rs, hrs, ht⟩
  apply Proc.Finds.seq (finds_delegate hrs ht)
  rintro t id ⟨rs, hrs, ht⟩
  apply Proc.Finds.seq (finds_print ht)
  intro t _ ht
  apply Proc.Finds.seq (finds_print ht)
  intro t _ ht
  apply Proc.Finds.seq (finds_print ht)
  intro t _ ht
  apply Proc.Finds.seq (finds_readLine ht)
  intro t line ht
  rw [Proc.finds_ite]
  refine ⟨fun hanswer => finds_end (.declined hrs hanswer) ht, fun hanswer => ?_⟩
  rw [not_not] at hanswer
  rw [hanswer] at ht
  apply Proc.Finds.seq (finds_approve hrs ht)
  rintro t _ ⟨rs, hrs, ht⟩
  apply Proc.Finds.seq (finds_print ht)
  intro t _ ht
  apply Proc.Finds.seq (finds_execute hrs ht)
  intro t execution hexecuted
  apply Proc.Finds.ofExcept_bind
  intro review hreview
  obtain ⟨rs, hrs, ht⟩ := hexecuted review hreview
  apply Proc.Finds.seq (finds_renderReview ht)
  intro t _ ht
  exact finds_finishExecuted hrs ht

end Steps

/-! ### The command -/

/-- The base URL of a command is that of a loopback host, and nothing but that. -/
structure IsLoopback [PyTerminal] (parts : SplitUrl) : Prop where
  scheme : parts.scheme ∈ ["http", "https"]
  host : ∃ host ∈ parts.hostname, PyTerminal.lower host ∈ LOOPBACK_HOSTS
  username : parts.username = none
  password : parts.password = none
  path : parts.path ∈ ["", "/"]
  query : parts.query = ""
  fragment : parts.fragment = ""

section Main

variable [PyTerminal] {urlsplit : String → Except Raised SplitUrl} {arguments : Arguments}
  {baseUrl : String} {token : Option String}

theorem isLoopback_of_validateArguments (h : validateArguments urlsplit arguments = .ok baseUrl) :
    baseUrl = rstripSlash arguments.baseUrl ∧
      ∃ parts, urlsplit arguments.baseUrl = .ok parts ∧ IsLoopback parts := by
  rw [validateArguments, Except.bind_eq_ok_iff] at h
  obtain ⟨baseUrl', hbaseUrl, hrest⟩ := h
  obtain ⟨_, -, hreturn⟩ := Except.bind_eq_ok_iff.mp hrest
  obtain rfl := Except.ok.inj hreturn
  simp only [validateBaseUrl, Except.bind_eq_ok_iff, Except.raiseIf_eq_ok_iff, not_not, not_or,
    ne_eq] at hbaseUrl
  obtain ⟨parts, hparts, _, hscheme, _, hhost, _, ⟨husername, hpassword⟩, _, hpath, _,
    ⟨hquery, hfragment⟩, hurl⟩ := hbaseUrl
  obtain rfl := Except.ok.inj hurl
  refine ⟨rfl, parts, ?_, ⟨hscheme, hhost, husername, hpassword, hpath, hquery, hfragment⟩⟩
  cases hsplit : urlsplit arguments.baseUrl with
  | error e => rw [hsplit] at hparts; cases hparts
  | ok parts' => rw [hsplit] at hparts; exact congrArg _ (Except.ok.inj hparts)

/-- The requests a command may send. -/
def Sends (urlsplit : String → Except Raised SplitUrl) (arguments : Arguments)
    (token : Option String) (t : List (Exchange OperatorCalls)) : OperatorCall → Prop
  | .request client request => validateArguments urlsplit arguments = .ok client.baseUrl ∧
    client.headers = bearerHeaders token ∧
      Permits arguments.objective arguments.target (requests t) (typed t) request
  | _ => True

/-- A command that prints why it failed. -/
theorem finds_failed {line : String} {code : ℤ} (hcode : code ≠ 0)
    {t : List (Exchange OperatorCalls)} :
    ((do
      print line .err
      return code) : Session ℤ).Finds (Sends urlsplit arguments token)
      (fun t code => code = 0 →
        Ended arguments.objective arguments.target (requests t) (typed t) 0) t := by
  apply Proc.Finds.seq (B := fun _ _ => True)
  · exact ⟨trivial, fun _ _ _ => trivial⟩
  · intro t _ _
    exact Proc.finds_pure.mpr fun hzero => absurd hzero hcode

theorem finds_main :
    (main urlsplit arguments token).Finds (Sends urlsplit arguments token)
      (fun t code => code = 0 →
        Ended arguments.objective arguments.target (requests t) (typed t) 0) [] := by
  rw [main]
  cases harguments : validateArguments urlsplit arguments with
  | error e =>
    cases e with
    | operator message => exact finds_failed (by decide)
    | http className => exact Proc.finds_throw.mpr trivial
    | other e => exact Proc.finds_throw.mpr trivial
  | ok baseUrl =>
    apply Proc.Finds.handle
    · have hnil : Stands [] [] [] := ⟨rfl, rfl⟩
      have hsession : (runSession ⟨baseUrl, bearerHeaders token⟩ arguments.objective
          arguments.target).Finds (Sends urlsplit arguments token) _ [] :=
        (finds_runSession hnil).permit fun t c _ hpermitted => by
          cases c with
          | request client request =>
            obtain ⟨rfl, hpermits⟩ := hpermitted
            exact ⟨harguments, rfl, hpermits⟩
          | _ => trivial
      refine hsession.mono ?_
      rintro t _ _ hended rfl
      exact hended
    · intro t e
      cases e with
      | operator message => exact finds_failed (by decide)
      | http className => exact finds_failed (by decide)
      | other e => exact Proc.finds_throw.mpr trivial

end Main

/-! ### A server and an operator -/

/-- What a server answers that does as it is asked. -/
def obligingAnswer (request : ApiRequest) : ApiResponse :=
  let bodies : List (ApiRequest × List (String × Value)) := [
    (healthRequest, [("status", .str "ok")]),
    (delegateRequest "add a test" "velox",
      [("status", .str "awaiting_approval"), ("action_id", .str "a1")]),
    (approveRequest "a1", []),
    (executeRequest "a1", [("execution_status", .str "succeeded"), ("review", .dict [])]),
    (dispositionRequest "a1" "keep", [("disposition", .str "keep"), ("succeeded", .bool true)]),
    (promoteRequest "a1" "a test" "added", [("pull_request_number", .int 7)]),
    (statusRequest "a1", [("promoted", .bool true), ("pull_request_number", .int 7)])]
  match bodies.find? fun entry => entry.1 = request with
  | some (_, body) => ⟨200, .ok (.dict body)⟩
  | none => ⟨404, .ok (.dict [])⟩

/-- Such a server, and a terminal with the lines that are going to be typed. -/
def obliging : Handler OperatorCalls (List String)
  | .request _ request, lines => (.ok (obligingAnswer request), lines)
  | .readLine, [] => (.error (.other ⟨.exception "EOFError", ""⟩), [])
  | .readLine, line :: lines => (.ok line, lines)
  | .print .., lines => ((), lines)

/-- A command for the server on this host. -/
def localArguments : Arguments where
  objective := "add a test"
  target := "velox"
  baseUrl := "http://localhost/"
  timeoutValid := true

/-- A URL of this host. -/
def localUrl (_ : String) : Except Raised SplitUrl :=
  .ok { scheme := "http", hostname := some "localhost", username := none, password := none,
        path := "/", query := "", fragment := "" }

/-- What is typed to publish a work product. -/
def publishing : List String := ["a1", " keep ", "promote", "a test", "added"]

/-! ### What holds of every command -/

/-- Whatever a server answers and whatever is typed: every request goes to a loopback host with
the headers of the command, and none is sent before the responses and the typed confirmation it
depends on, or twice. -/
theorem main_permitted [PyTerminal] {urlsplit : String → Except Raised SplitUrl}
    {arguments : Arguments} {token : Option String} {W : Type} {h : Handler OperatorCalls W} {w : W}
    {before after : List (Exchange OperatorCalls)} {client : ApiClient} {request : ApiRequest}
    {r : Except SessionError ApiResponse}
    (hlog : ((main urlsplit arguments token) ()).transcript h w =
      before ++ ⟨.request client request, r⟩ :: after) :
    client = ⟨rstripSlash arguments.baseUrl, bearerHeaders token⟩ ∧
      (∃ parts, urlsplit arguments.baseUrl = .ok parts ∧ IsLoopback parts) ∧
        Permits arguments.objective arguments.target (requests before) (typed before) request := by
  obtain ⟨hvalid, hheaders, hpermits⟩ := Prog.Traced.transcript finds_main h w hlog
  obtain ⟨hbaseUrl, hloopback⟩ := isLoopback_of_validateArguments hvalid
  refine ⟨?_, hloopback, hpermits⟩
  rw [← hbaseUrl, ← hheaders]

theorem exists_of_mem_requests {t : List (Exchange OperatorCalls)} {request : ApiRequest}
    (h : request ∈ (requests t).map Answered.request) :
    ∃ before client r after, t = before ++ ⟨.request client request, r⟩ :: after := by
  obtain ⟨answered, hanswered, rfl⟩ := List.mem_map.mp h
  obtain ⟨e, he, hread⟩ := List.mem_filterMap.mp hanswered
  obtain ⟨before, after, rfl⟩ := List.append_of_mem he
  rcases e with ⟨c, r⟩
  cases c with
  | request client request =>
    obtain rfl := Option.some.inj hread
    exact ⟨before, client, r, after, rfl⟩
  | readLine => cases r <;> cases hread
  | print => cases hread

theorem main_permitted_publishing :
    letI := PyTerminal.plain
    ∃ before client r after,
      ((main localUrl localArguments none) ()).transcript obliging publishing =
        before ++ ⟨.request client (promoteRequest "a1" "a test" "added"), r⟩ :: after ∧
      client = ⟨"http://localhost", []⟩ ∧
        (∃ parts, localUrl "http://localhost/" = .ok parts ∧ IsLoopback parts) ∧
          Permits "add a test" "velox" (requests before) (typed before)
            (promoteRequest "a1" "a test" "added") := by
  let := PyTerminal.plain
  have hmem : promoteRequest "a1" "a test" "added" ∈
      (requests (((main localUrl localArguments none) ()).transcript obliging publishing)).map
        Answered.request := by
    decide +kernel
  obtain ⟨before, client, r, after, hlog⟩ := exists_of_mem_requests hmem
  exact ⟨before, client, r, after, hlog, main_permitted hlog⟩

/-- A command that exits with 0 has come to an end of its course: the work product was
discarded, or it was kept, or the published pull request is the one on record. -/
theorem main_ended [PyTerminal] {urlsplit : String → Except Raised SplitUrl}
    {arguments : Arguments} {token : Option String} {W : Type} {h : Handler OperatorCalls W} {w : W}
    (hcode : ((main urlsplit arguments token).run h () w).1.1 = .ok 0) :
    Ended arguments.objective arguments.target
      (requests (((main urlsplit arguments token) ()).transcript h w))
      (typed (((main urlsplit arguments token) ()).transcript h w)) 0 :=
  finds_main.run h hcode rfl

theorem main_ended_publishing :
    letI := PyTerminal.plain
    Ended "add a test" "velox"
      (requests (((main localUrl localArguments none) ()).transcript obliging publishing))
      (typed (((main localUrl localArguments none) ()).transcript obliging publishing)) 0 := by
  let := PyTerminal.plain
  have hcode : ((main localUrl localArguments none).run obliging () publishing).1.1 = .ok 0 := by
    decide +kernel
  exact main_ended hcode

end TaskSession

end Velox
