import Velox.Integrations.Gmail
import Velox.Lib.PercentEncoding
import Velox.Lib.Transcript

/-!
# What Gmail is asked for is what was validated

The payload of an action is normalized twice, once for the capability and once for the
provider. Recipients, subject and body come out the same. The id of a message is put into
the path as it is, so that an id with a slash addresses something else; a thread id is
stripped for the capability and not for the provider.

## Main definitions

* `Validated` — a request to a capability that the payload of an action leads to
* `RequestDescribes` — a provider request stands for a request to a capability
* `FaithfulPayload` — nothing in the payload is changed on the way to the provider

## Main results

* `finds_execute` — the provider is asked only after the capability
* `describes_iff` — when two requests from one payload agree
* `gmailAgrees_iff`
-/

set_option autoImplicit false

namespace Velox

open GmailWorkerExecutor
open PercentEncoding (IsSegment IsLiteral isSegment_and_unquote_iff unquote)

/-! ### Agreement -/

/-- The capability a request is made to. -/
def GmailCapabilityRequest.capability : GmailCapabilityRequest → String
  | .read _ => GMAIL_READ
  | .send _ => GMAIL_SEND
  | .archive _ => GMAIL_ARCHIVE

/-- A path addresses one message: the id is one segment between a known beginning and a
known end. -/
def AddressesMessage (path ending messageId : String) : Prop :=
  ∃ segment, path = messagesPath ++ segment ++ ending ∧ IsSegment segment ∧
    unquote segment = messageId

/-- The provider body of a send carries the fields of the request. -/
structure BodyDescribes (request : GmailSendRequest) (sent : Dict) : Prop where
  to_ : sent.get "to" = some (.tuple (request.to_.map .str))
  cc : sent.get "cc" = some (.tuple (request.cc.map .str))
  bcc : sent.get "bcc" = some (.tuple (request.bcc.map .str))
  subject : sent.get "subject" = some (.str request.subject)
  body : sent.get "body" = some (.str request.body)
  threadId : sent.get "thread_id" = some (optionalText request.threadId)

/-- A provider request is for the same operation on the same data. -/
def RequestDescribes : GmailCapabilityRequest → GoogleProviderRequest → Prop
  | .read validated, request =>
    request.operation = "read" ∧ request.method = "GET" ∧ request.body = none ∧
      AddressesMessage request.path "" validated.messageId
  | .archive validated, request =>
    request.operation = "archive" ∧ request.method = "POST" ∧
      request.body = some (.ofList [("remove_label_ids", .tuple [.str "INBOX"])]) ∧
      AddressesMessage request.path "/modify" validated.messageId
  | .send validated, request =>
    request.operation = "send" ∧ request.method = "POST" ∧
      request.path = messagesPath ++ "send" ∧
      ∃ body, request.body = some body ∧ BodyDescribes validated body

/-- A thread id that is absent, or a text without surrounding white space. -/
def PlainThreadId : Option Value → Prop
  | none | some .none => True
  | some (.str text) => Python.strip text = text
  | some _ => False

section Payload

variable [PyStr] (action : Action)

/-- Nothing the provider is told differs from what was validated: for a send the thread
id is plain, otherwise the id of the message needs no encoding as a path segment. -/
def FaithfulPayload (capability : String) : Prop :=
  if capability = GMAIL_SEND then PlainThreadId (action.payload.get "thread_id")
  else ∀ messageId, normalizedText (action.payload.get "message_id") = .ok messageId →
    IsLiteral messageId

/-- The payload passes the checks of the executor and gives this request. -/
def Validated : GmailCapabilityRequest → Prop
  | .read request | .archive request =>
    normalizedText (action.payload.get "message_id") = .ok request.messageId ∧
      request.messageId ≠ ""
  | .send request => sendRequest action = .ok request ∧ missingFields request = []

/-- A provider request is made after a request to the same capability, both from the same
payload. -/
def ProviderPermitted (capability : String) (log : List (Exchange GmailCalls))
    (call : GmailCall) : Prop :=
  ∀ request, call = .provider request → ∃ validated reply accountContext,
    log = [⟨.capability validated, reply⟩] ∧ Validated action validated ∧
      validated.capability = capability ∧
      providerRequest action capability accountContext = .ok request

end Payload

/-! ### One payload, two requests -/

theorem addressesMessage_iff {messageId : String} (ending : String) (hne : messageId ≠ "") :
    AddressesMessage (messagesPath ++ messageId ++ ending) ending messageId ↔
      IsLiteral messageId := by
  rw [← isSegment_and_unquote_iff hne]
  constructor
  · rintro ⟨segment, hpath, hsegment, hreads⟩
    obtain rfl : messageId = segment :=
      (String.append_right_inj _).mp ((String.append_left_inj _).mp hpath)
    exact ⟨hsegment, hreads⟩
  · rintro ⟨hsegment, hreads⟩
    exact ⟨messageId, rfl, hsegment, hreads⟩

/-- The provider body of a send is that of its request, the thread id apart. -/
theorem bodyDescribes_iff (request : GmailSendRequest) (threadId : Value) :
    BodyDescribes request (sendBody request.to_ request.subject request.body request.cc request.bcc
      threadId) ↔ threadId = optionalText request.threadId := by
  have hkeys : ["to", "subject", "body", "cc", "bcc", "thread_id"].Nodup := by decide
  constructor
  · intro h
    have hthread : (sendBody request.to_ request.subject request.body request.cc request.bcc
        threadId).get "thread_id" = some threadId := OrderedDict.get_ofList_of_mem hkeys (by simp)
    exact Option.some.inj (hthread.symm.trans h.threadId)
  · rintro rfl
    exact {
      to_ := OrderedDict.get_ofList_of_mem hkeys (by simp)
      cc := OrderedDict.get_ofList_of_mem hkeys (by simp)
      bcc := OrderedDict.get_ofList_of_mem hkeys (by simp)
      subject := OrderedDict.get_ofList_of_mem hkeys (by simp)
      body := OrderedDict.get_ofList_of_mem hkeys (by simp)
      threadId := OrderedDict.get_ofList_of_mem hkeys (by simp) }

section Payload

variable [PyStr] {action : Action} {accountContext : WorkerAccountContext}

theorem optionalText_normalizedThreadId_iff {value : Option Value} {threadId : Option String}
    (h : normalizedThreadId value = .ok threadId) :
    value.getD .none = optionalText threadId ↔ PlainThreadId value := by
  rcases value with _ | value
  · obtain rfl := Except.ok.inj h
    exact iff_of_true rfl trivial
  · by_cases hnone : value = .none
    · subst hnone
      obtain rfl := Except.ok.inj h
      exact iff_of_true rfl trivial
    · obtain ⟨text, htext, h⟩ : ∃ text, PyStr.str value = .ok text ∧
          some (Python.strip text) = threadId := by
        rw [normalizedThreadId] at h
        · obtain ⟨text, htext, h⟩ := Except.bind_eq_ok_iff.mp h
          exact ⟨text, htext, Except.ok.inj h⟩
        · simpa using hnone
      subst h
      -- only a text can be the same before and after
      cases value with
      | str s =>
        rw [PyStr.str_str] at htext
        obtain rfl := Except.ok.inj htext
        simp only [Option.getD_some, optionalText, Option.map_some, PlainThreadId,
          Value.str.injEq]
        exact eq_comm
      | none => exact absurd rfl hnone
      | _ => exact iff_of_false (fun heq => nomatch heq) id

theorem faithfulPayload_iff {capability messageId : String} (hcapability : capability ≠ GMAIL_SEND)
    (hid : normalizedText (action.payload.get "message_id") = .ok messageId) :
    FaithfulPayload action capability ↔ IsLiteral messageId := by
  rw [FaithfulPayload, if_neg hcapability]
  refine ⟨fun h => h messageId hid, fun h messageId' hid' => ?_⟩
  obtain rfl := Except.ok.inj (hid.symm.trans hid')
  exact h

/-- Two requests made from one payload agree exactly when the payload is faithful. -/
theorem describes_iff {validated : GmailCapabilityRequest} {request : GoogleProviderRequest}
    (hvalidated : Validated action validated)
    (hrequest : providerRequest action validated.capability accountContext = .ok request) :
    RequestDescribes validated request ↔ FaithfulPayload action validated.capability := by
  cases validated with
  | read validated =>
    obtain ⟨hid, hne⟩ := hvalidated
    have hread : request = readProviderRequest validated.messageId accountContext := by
      rw [providerRequest, GmailCapabilityRequest.capability, if_pos rfl, hid] at hrequest
      exact (Except.ok.inj hrequest).symm
    subst hread
    rw [GmailCapabilityRequest.capability, faithfulPayload_iff (by decide) hid,
      ← addressesMessage_iff "" hne, String.append_empty]
    exact ⟨fun h => h.2.2.2, fun h => ⟨rfl, rfl, rfl, h⟩⟩
  | archive validated =>
    obtain ⟨hid, hne⟩ := hvalidated
    have harchive : request = archiveProviderRequest validated.messageId accountContext := by
      rw [providerRequest, GmailCapabilityRequest.capability, if_neg (by decide),
        if_neg (by decide), hid] at hrequest
      exact (Except.ok.inj hrequest).symm
    subst harchive
    rw [GmailCapabilityRequest.capability, faithfulPayload_iff (by decide) hid,
      ← addressesMessage_iff "/modify" hne]
    exact ⟨fun h => h.2.2.2, fun h => ⟨rfl, rfl, rfl, h⟩⟩
  | send validated =>
    obtain ⟨hsend, -⟩ := hvalidated
    rw [sendRequest] at hsend
    obtain ⟨to_, hto, hsend⟩ := Except.bind_eq_ok_iff.mp hsend
    obtain ⟨subject, hsubject, hsend⟩ := Except.bind_eq_ok_iff.mp hsend
    obtain ⟨body, hbody, hsend⟩ := Except.bind_eq_ok_iff.mp hsend
    obtain ⟨cc, hcc, hsend⟩ := Except.bind_eq_ok_iff.mp hsend
    obtain ⟨bcc, hbcc, hsend⟩ := Except.bind_eq_ok_iff.mp hsend
    obtain ⟨threadId, hthreadId, hsend⟩ := Except.bind_eq_ok_iff.mp hsend
    obtain rfl := Except.ok.inj hsend
    have hsent : request = sendProviderRequest to_ subject body cc bcc
        ((action.payload.get "thread_id").getD .none) accountContext := by
      rw [providerRequest, GmailCapabilityRequest.capability, if_neg (by decide), if_pos rfl, hto,
        hsubject, hbody, hcc, hbcc] at hrequest
      exact (Except.ok.inj hrequest).symm
    subst hsent
    rw [GmailCapabilityRequest.capability, FaithfulPayload, if_pos rfl,
      ← optionalText_normalizedThreadId_iff hthreadId]
    constructor
    · rintro ⟨-, -, -, sent, hsent, hdescribes⟩
      obtain rfl := Option.some.inj hsent
      exact (bodyDescribes_iff ⟨to_, subject, body, cc, bcc, threadId⟩ _).mp hdescribes
    · intro h
      exact ⟨rfl, rfl, rfl, _, rfl,
        (bodyDescribes_iff ⟨to_, subject, body, cc, bcc, threadId⟩ _).mpr h⟩

end Payload

/-! ### The run of an execution -/

section Run

variable [PyStr] {action : Action}

/-- A capability that succeeded was asked for a request the payload leads to, and was the
only call. -/
def CapabilityShown (action : Action) (capability : String) (log : List (Exchange GmailCalls))
    (result : WorkerExecutionResult) : Prop :=
  result.status = .succeeded → ∃ validated reply, log = [⟨.capability validated, reply⟩] ∧
    Validated action validated ∧ validated.capability = capability

theorem finds_askCapability {validated : GmailCapabilityRequest} {capability : String}
    (hvalidated : Validated action validated) (hcapability : validated.capability = capability) :
    (do
      let result ← askCapability validated
      return resultOf action result : GmailTask WorkerExecutionResult).Finds
        (ProviderPermitted action capability) (CapabilityShown action capability) [] := by
  simp only [askCapability, Proc.finds_bind, Proc.finds_request, Proc.finds_pure]
  refine ⟨fun _ h => (by cases h), fun reply _ _ _ => ?_⟩
  exact ⟨validated, reply, rfl, hvalidated, hcapability⟩

theorem finds_executeRead :
    (executeRead action).Finds (ProviderPermitted action GMAIL_READ)
      (CapabilityShown action GMAIL_READ) [] := by
  rw [executeRead, Proc.finds_bind, Proc.finds_ofExcept]
  intro messageId hid
  split_ifs with hne
  · exact Proc.finds_pure.mpr fun h => nomatch h
  · exact finds_askCapability ⟨hid, hne⟩ rfl

theorem finds_executeArchive :
    (executeArchive action).Finds (ProviderPermitted action GMAIL_ARCHIVE)
      (CapabilityShown action GMAIL_ARCHIVE) [] := by
  rw [executeArchive, Proc.finds_bind, Proc.finds_ofExcept]
  intro messageId hid
  split_ifs with hne
  · exact Proc.finds_pure.mpr fun h => nomatch h
  · have hvalidated : Validated action (.archive { messageId }) := ⟨hid, hne⟩
    exact finds_askCapability hvalidated rfl

theorem finds_executeSend :
    (executeSend action).Finds (ProviderPermitted action GMAIL_SEND)
      (CapabilityShown action GMAIL_SEND) [] := by
  rw [executeSend, Proc.finds_bind, Proc.finds_ofExcept]
  intro request hrequest
  split_ifs with hmissing
  · exact Proc.finds_pure.mpr fun h => nomatch h
  · exact finds_askCapability ⟨hrequest, not_not.mp hmissing⟩ rfl

theorem finds_provide {capability : String} {accountContext : Option WorkerAccountContext}
    {log : List (Exchange GmailCalls)} {result : WorkerExecutionResult}
    (h : CapabilityShown action capability log result) :
    (provide action capability accountContext result).Finds
      (ProviderPermitted action capability) (fun _ _ => True) log := by
  rcases accountContext with _ | accountContext
  · exact Proc.finds_pure.mpr trivial
  · rw [provide]
    split_ifs with hstatus
    · exact Proc.finds_pure.mpr trivial
    · obtain ⟨validated, reply, rfl, hvalidated, rfl⟩ := h (not_not.mp hstatus)
      simp only [askProvider, Proc.finds_bind, Proc.finds_ofExcept, Proc.finds_request,
        Proc.finds_pure]
      refine fun request hrequest => ⟨?_, fun _ _ _ => trivial⟩
      rintro _ ⟨⟩
      exact ⟨validated, reply, accountContext, rfl, hvalidated, rfl, hrequest⟩

/-- The provider is asked only after the capability, and from the same payload. -/
theorem finds_execute (action : Action) (capability : Option String)
    (accountContext : Option WorkerAccountContext) :
    (execute action capability accountContext).Finds
      (ProviderPermitted action (resolvedCapability action capability)) (fun _ _ => True) [] := by
  rw [execute]
  split_ifs with hread hsend harchive
  · rw [hread, Proc.finds_bind]
    exact finds_executeRead.mono fun _ _ _ h => finds_provide h
  · rw [hsend, Proc.finds_bind]
    exact finds_executeSend.mono fun _ _ _ h => finds_provide h
  · rw [harchive, Proc.finds_bind]
    exact finds_executeArchive.mono fun _ _ _ h => finds_provide h
  · exact Proc.finds_pure.mpr trivial

/-- Whenever the provider is asked, the request it gets describes the one the capability
got just before exactly when the payload is faithful. -/
theorem gmailAgrees_iff (action : Action) (capability : Option String)
    (accountContext : Option WorkerAccountContext) {W : Type} (h : Handler GmailCalls W) (w : W)
    {before after : List (Exchange GmailCalls)} {request : GoogleProviderRequest}
    {reply : GmailCalls.Reply (.provider request)}
    (hrun : (execute action capability accountContext ()).transcript h w =
      before ++ ⟨.provider request, reply⟩ :: after) :
    (∃ validated answer, before = [⟨.capability validated, answer⟩] ∧
        Validated action validated ∧ RequestDescribes validated request) ↔
      FaithfulPayload action (resolvedCapability action capability) := by
  have hpermitted := Prog.Traced.transcript (finds_execute action capability accountContext) h w hrun
  obtain ⟨validated, answer, context, hbefore, hvalidated, hcapability, hrequest⟩ :=
    hpermitted request rfl
  rw [List.nil_append] at hbefore
  rw [← hcapability] at hrequest ⊢
  have hdescribes := describes_iff hvalidated hrequest
  constructor
  · rintro ⟨validated', answer', hbefore', -, hother⟩
    -- there is only one request before
    rw [hbefore] at hbefore'
    obtain ⟨hsame, -⟩ := Sigma.mk.inj (List.head_eq_of_cons_eq hbefore')
    obtain rfl := GmailCall.capability.inj hsame
    exact hdescribes.mp hother
  · intro hfaithful
    exact ⟨validated, answer, hbefore, hvalidated, hdescribes.mpr hfaithful⟩

end Run

/-! ### Sample actions -/

/-- The deterministic capabilities, and a provider that accepts every request. -/
def acceptingGmail : Handler GmailCalls Unit
  | .capability request, w => (.ok (inMemoryCapability request), w)
  | .provider _, w => (.ok { statusCode := 200 }, w)

/-- An action that reads a message. -/
def readAction (messageId : String) : Action where
  id := 0
  type := GMAIL_READ
  target := "message"
  payload := .ofList [("message_id", .str messageId)]

/-- An action that sends a message within a thread. -/
def sendAction (threadId : Value) : Action where
  id := 0
  type := GMAIL_SEND
  target := "message"
  payload := .ofList [("to", .str "team@example.com"), ("subject", .str "Status"),
    ("body", .str "Done."), ("thread_id", threadId)]

/-- The account a sample action is executed for. -/
def gmailSampleContext : WorkerAccountContext where
  principal := some "velox-local-principal"
  accountIdentifier := "gmail-local-account"

/-- What a sample read asks for, one after the other. -/
theorem transcript_readAction :
    let _ := PyStr.plain
    (execute (readAction " gmail-message-1 ") none (some gmailSampleContext) ()).transcript
        acceptingGmail () =
      [⟨.capability (.read { messageId := "gmail-message-1" }),
          .ok (inMemoryCapability (.read { messageId := "gmail-message-1" }))⟩] ++
        ⟨.provider (readProviderRequest "gmail-message-1" gmailSampleContext),
          .ok { statusCode := 200 }⟩ :: [] := rfl

/-- The padding of an id is stripped both times. -/
theorem gmailAgrees_of_padded :
    let _ := PyStr.plain
    ∃ validated answer,
      [⟨.capability (.read { messageId := "gmail-message-1" }),
          .ok (inMemoryCapability (.read { messageId := "gmail-message-1" }))⟩] =
        [(⟨.capability validated, answer⟩ : Exchange GmailCalls)] ∧
      Validated (readAction " gmail-message-1 ") validated ∧
      RequestDescribes validated (readProviderRequest "gmail-message-1" gmailSampleContext) := by
  intro _
  refine (gmailAgrees_iff _ none _ acceptingGmail () transcript_readAction).mpr ?_
  refine (faithfulPayload_iff (by decide) rfl).mpr ?_
  exact ⟨by decide, by decide, by decide, by decide, by decide, by decide⟩

/-- The validated request of a sample send within the thread `t`. -/
def GmailSendRequest.sample : GmailSendRequest where
  to_ := ["team@example.com"]
  subject := "Status"
  body := "Done."
  threadId := some "t"

/-- An id with a slash addresses no message, and a padded thread id is validated without
its padding and sent with it. -/
theorem not_gmailAgrees :
    let _ := PyStr.plain
    (∃ answer reply,
      (execute (readAction "a/b") none (some gmailSampleContext) ()).transcript acceptingGmail () =
        [⟨.capability (.read { messageId := "a/b" }), answer⟩,
          ⟨.provider (readProviderRequest "a/b" gmailSampleContext), reply⟩] ∧
      ¬RequestDescribes (.read { messageId := "a/b" }) (readProviderRequest "a/b" gmailSampleContext)) ∧
    ∃ answer reply,
      (execute (sendAction (.str " t ")) none (some gmailSampleContext) ()).transcript acceptingGmail
          () =
        [⟨.capability (.send .sample), answer⟩,
          ⟨.provider (sendProviderRequest ["team@example.com"] "Status" "Done." [] [] (.str " t ")
            gmailSampleContext), reply⟩] ∧
      ¬RequestDescribes (.send .sample) (sendProviderRequest ["team@example.com"] "Status" "Done." [] []
        (.str " t ") gmailSampleContext) := by
  intro _
  refine ⟨⟨_, _, rfl, ?_⟩, _, _, rfl, ?_⟩
  · rintro ⟨-, -, -, haddresses⟩
    have hliteral := (addressesMessage_iff "" (by decide : "a/b" ≠ "")).mp
      (by rwa [String.append_empty])
    exact hliteral.slash (by decide)
  · rintro ⟨-, -, -, sent, hsent, hdescribes⟩
    obtain rfl := Option.some.inj hsent
    have hthread := (bodyDescribes_iff .sample (.str " t ")).mp hdescribes
    exact absurd hthread (by decide)

end Velox
