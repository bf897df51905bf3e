import Velox.Integrations.CalendarEventPath
import Velox.Integrations.CalendarManualSync
import Velox.Integrations.CalendarOrchestrator

/-!
# The layers of a manual sync

An event is checked by the transport, by the executor and by manual sync, and its id is
copied by the normalizer and by the planner. What the transport accepts passes them all
unchanged; what it rejects reaches no store.

## Main definitions

* `AcceptedAs` — the transport accepts a response as the requested event
* `readOver` — the Calendar provider over HTTP
* `PassesThrough` — an event that passes every layer

## Main results

* `mapEvent_fields` — what the transport has checked
* `rawEventOf_of_accepts`, `rawEventOf_of_rejected` — what manual sync makes of a response
* `sync_agrees`
-/

set_option autoImplicit false

namespace Velox

open HttpxCalendarTransportClient ManualCalendarSyncService

/-! ### The transport -/

/-- The transport accepts the response as the event with the id. -/
def AcceptedAs (response : HttpResponse) (eventId : String) (event : CalendarEvent) : Prop :=
  (200 ≤ response.statusCode ∧ response.statusCode ≤ 299) ∧ parseEvent response eventId = some event

section Transport

variable {response : HttpResponse} {eventId : String} {event : CalendarEvent}

theorem strip_ne_of_eventBoundary {value : Option Value} {text : String}
    (h : eventBoundary value = some text) : Python.strip text ≠ "" := by
  cases value with
  | none => cases h
  | some value =>
    cases value with
    | dict entries =>
      simp only [eventBoundary, Option.orElse_eq_orElse, Option.orElse_eq_or,
        Option.or_eq_some_iff] at h
      rcases h with hdateTime | ⟨-, hdate⟩
      · exact of_decide_eq_true (Option.filter_eq_some_iff.mp hdateTime).2
      · exact of_decide_eq_true (Option.filter_eq_some_iff.mp hdate).2
    | _ => cases h

theorem exists_of_mem_mapM {α β : Type} {f : α → Option β} {xs : List α} {ys : List β} {y : β}
    (h : xs.mapM f = some ys) (hy : y ∈ ys) : ∃ x ∈ xs, f x = some y := by
  induction xs generalizing ys with
  | nil =>
    obtain rfl := Option.some.inj h
    exact absurd hy List.not_mem_nil
  | cons x xs ih =>
    rw [List.mapM_cons] at h
    obtain ⟨z, hz, h⟩ := Option.bind_eq_some_iff.mp h
    obtain ⟨zs, hzs, h⟩ := Option.bind_eq_some_iff.mp h
    obtain rfl := Option.some.inj h
    rcases List.mem_cons.mp hy with rfl | hy
    · exact ⟨x, List.mem_cons_self, hz⟩
    · obtain ⟨x', hx', hfx'⟩ := ih hzs hy
      exact ⟨x', List.mem_cons_of_mem x hx', hfx'⟩

theorem strip_ne_of_attendeeEmail {attendee : Value} {email : String}
    (h : attendeeEmail attendee = some email) : Python.strip email ≠ "" := by
  cases attendee with
  | dict entries => exact of_decide_eq_true (Option.filter_eq_some_iff.mp h).2
  | _ => cases h

/-- The fields of a mapped event are not blank, the title apart. -/
theorem mapEvent_fields {rawEvent : List (String × Value)} (h : mapEvent rawEvent = some event) :
    Python.strip event.eventId ≠ "" ∧ Python.strip event.start ≠ "" ∧
      Python.strip event.end_ ≠ "" ∧ ∀ email ∈ event.attendees, Python.strip email ≠ "" := by
  obtain ⟨eventId, hid, h⟩ := Option.bind_eq_some_iff.mp h
  obtain ⟨title, -, h⟩ := Option.bind_eq_some_iff.mp h
  obtain ⟨start, hstart, h⟩ := Option.bind_eq_some_iff.mp h
  obtain ⟨end_, hend, h⟩ := Option.bind_eq_some_iff.mp h
  split at h
  · obtain ⟨attendees, hattendees, h⟩ := Option.bind_eq_some_iff.mp h
    obtain rfl := Option.some.inj h
    refine ⟨of_decide_eq_true (Option.filter_eq_some_iff.mp hid).2,
      strip_ne_of_eventBoundary hstart, strip_ne_of_eventBoundary hend, fun email hemail => ?_⟩
    obtain ⟨attendee, -, hattendee⟩ := exists_of_mem_mapM hattendees hemail
    exact strip_ne_of_attendeeEmail hattendee
  · cases h

theorem parseEvent_fields (h : parseEvent response eventId = some event) :
    event.eventId = eventId ∧ Python.strip event.eventId ≠ "" ∧ Python.strip event.start ≠ "" ∧
      Python.strip event.end_ ≠ "" ∧ ∀ email ∈ event.attendees, Python.strip email ≠ "" := by
  obtain ⟨rawEvent, -, h⟩ := Option.bind_eq_some_iff.mp h
  obtain ⟨mapped, hmapped, h⟩ := Option.bind_eq_some_iff.mp h
  split_ifs at h with hid
  obtain rfl := Option.some.inj h
  exact ⟨hid, mapEvent_fields hmapped⟩

/-- The response to an accepted event. -/
def acceptedResponse (statusCode : ℤ) (event : CalendarEvent) : GoogleProviderResponse where
  statusCode
  body := (safeBody true).update [("found", .bool true), ("event", .dict event.entries)]

theorem mapResponse_of_accepts (h : AcceptedAs response eventId event) :
    mapResponse (some eventId) response = .ok (acceptedResponse response.statusCode event) := by
  obtain ⟨hstatus, hparse⟩ := h
  have h404 : ¬response.statusCode = 404 := by omega
  have h400 : ¬response.statusCode = 400 := by omega
  have h401 : ¬response.statusCode = 401 := by omega
  have h403 : ¬response.statusCode = 403 := by omega
  have h429 : ¬response.statusCode = 429 := by omega
  have h5xx : ¬(500 ≤ response.statusCode ∧ response.statusCode ≤ 599) := by omega
  simp only [mapResponse, h404, false_and, if_false, h400, h401, h403, h429, h5xx, hstatus, and_self,
    not_true_eq_false, successResponse, hparse, Except.pure_eq_ok]
  rfl

/-- A response that says of no event that it was found. -/
def FindsNothing (response : GoogleProviderResponse) : Prop :=
  response.failure.isSome ∨
    response.failure = none ∧ response.body.get "found" = some (.bool false)

/-- A response that is not accepted fails, or its event was not found. -/
theorem mapResponse_of_rejected (h : ∀ event, ¬AcceptedAs response eventId event)
    {mapped : GoogleProviderResponse} (hmapped : mapResponse (some eventId) response = .ok mapped) :
    FindsNothing mapped := by
  rw [mapResponse] at hmapped
  split_ifs at hmapped with h404 h400 h401 h403 h429 h5xx h2xx
  · obtain rfl := Except.ok.inj hmapped
    exact Or.inr ⟨rfl, OrderedDict.get_set_self⟩
  · exact Or.inl (Except.ok.inj hmapped ▸ rfl)
  · exact Or.inl (Except.ok.inj hmapped ▸ rfl)
  · cases hreason : safeErrorReason response with
    | error e =>
      rw [hreason] at hmapped
      cases hmapped
    | ok reason =>
      rw [hreason] at hmapped
      cases reason with
      | none => exact Or.inl (Except.ok.inj hmapped ▸ rfl)
      | some reason => exact Or.inl (Except.ok.inj hmapped ▸ rfl)
  · exact Or.inl (Except.ok.inj hmapped ▸ rfl)
  · exact Or.inl (Except.ok.inj hmapped ▸ rfl)
  · obtain rfl := Except.ok.inj hmapped
    have hparse : parseEvent response eventId = none := by
      cases hevent : parseEvent response eventId with
      | none => rfl
      | some event => exact absurd ⟨h2xx, hevent⟩ (h event)
    refine Or.inl ?_
    simp only [successResponse, hparse]
    rfl
  · exact Or.inl (Except.ok.inj hmapped ▸ rfl)

end Transport

/-! ### The executor and manual sync -/

section Layers

variable {request : ManualCalendarSyncRequest} {event : CalendarEvent}

/-- What the executor makes of a response to the read of a sync. -/
def readResult [PyParse] (request : ManualCalendarSyncRequest) (id : UUID)
    (response : GoogleProviderResponse) : WorkerExecutionResult :=
  CalendarWorkerExecutor.providerResult (request.providerAction id)
    (CalendarWorkerExecutor.readProviderRequest CALENDAR_PREPARE_MEETING request.eventId
      (some request.accountContext))
    CALENDAR_PREPARE_MEETING (some request.accountContext)
    [("calendar_event_id", .str request.eventId)] (calendarCapabilityResult · request.eventId)
    response

/-- The executor reads the requested event. -/
theorem execute_providerAction [PyParse] (request : ManualCalendarSyncRequest) (id : UUID) :
    CalendarWorkerExecutor.execute (request.providerAction id) (some "prepare_meeting")
        (some request.accountContext) =
      CalendarWorkerExecutor.askProvider
        (CalendarWorkerExecutor.readProviderRequest CALENDAR_PREPARE_MEETING request.eventId
          (some request.accountContext)) (readResult request id) := by
  have hpayload : (request.providerAction id).payload.get "calendar_event_id" =
      some (.str request.eventId) :=
    OrderedDict.get_ofList_of_mem (List.nodup_singleton _) List.mem_cons_self
  obtain ⟨hne, hstrip⟩ := request.plain_eventId
  simp only [CalendarWorkerExecutor.execute, hpayload, Option.bind_some, Value.text?,
    Option.filter_some, ne_eq, hne, not_false_eq_true, decide_true, if_true]
  rw [← hstrip]
  rfl

/-- The fields of an accepted event pass the allowlist of manual sync. -/
theorem allowlistedFields_entries (hstart : Python.strip event.start ≠ "")
    (hend : Python.strip event.end_ ≠ "")
    (hattendees : ∀ email ∈ event.attendees, Python.strip email ≠ "") :
    allowlistedFields event.entries event.eventId = some (.ofList event.entries) := by
  have hall : ∀ email ∈ event.attendees, isAttendee (.str email) = true := by
    simpa [isAttendee] using hattendees
  simpa [allowlistedFields, CalendarEvent.entries, lookupEntry, Value.text?, Value.elements?,
    Option.filter, hstart, hend] using hall

/-- What the executor reports of an accepted event. -/
theorem calendarCapabilityResult_accepted (statusCode : ℤ) (hid : event.eventId = request.eventId)
    (hwell : event.WellFormed) :
    calendarCapabilityResult (acceptedResponse statusCode event) request.eventId = {
      status := .succeeded
      reason := some "calendar meeting context provider result"
      metadata := .ofList [("found", .bool true), ("event", .dict event.entries)] } := by
  have hfound : (acceptedResponse statusCode event).body.get "found" = some (.bool true) := by
    simp [acceptedResponse, OrderedDict.update, OrderedDict.get_set]
  have hevent : (acceptedResponse statusCode event).body.get "event" =
      some (.dict event.entries) := by
    simp [acceptedResponse, OrderedDict.update]
  have hadapter : fakeAdapter (acceptedResponse statusCode event).body = [] := by
    simp [fakeAdapter, acceptedResponse, safeBody, OrderedDict.ofList, OrderedDict.update,
      OrderedDict.get_set]
  rw [calendarCapabilityResult, hfound, hevent, hadapter, Option.bind_some,
    allowlistedCalendarEvent_entries hwell]
  dsimp only
  rw [if_neg (not_not_intro hid)]
  rfl

/-- An accepted event succeeds in the executor. -/
theorem readResult_accepted [PyParse] (id : UUID) (statusCode : ℤ)
    (hid : event.eventId = request.eventId) (hwell : event.WellFormed) :
    (readResult request id (acceptedResponse statusCode event)).status = .succeeded ∧
      (readResult request id (acceptedResponse statusCode event)).metadata.get "found" =
        some (.bool true) ∧
      (readResult request id (acceptedResponse statusCode event)).metadata.get "event" =
        some (.dict event.entries) ∧
      performed (readResult request id (acceptedResponse statusCode event)) = true := by
  have hexecuted : (acceptedResponse statusCode event).body.get "external_execution_performed" =
      some (.bool true) := by
    simp [acceptedResponse, safeBody, OrderedDict.ofList, OrderedDict.update, OrderedDict.get_set]
  have hfailure : (acceptedResponse statusCode event).failure = none := rfl
  simp only [readResult, CalendarWorkerExecutor.providerResult, hfailure,
    CalendarWorkerExecutor.capabilityWorkerResult, calendarCapabilityResult_accepted statusCode hid hwell,
    performed, ne_eq, not_true_eq_false, if_false, OrderedDict.get_update_entries, true_and]
  simp [OrderedDict.ofList, OrderedDict.update, OrderedDict.get_set,
    CalendarWorkerExecutor.resultMetadata, hexecuted]

/-- Manual sync passes an accepted event on as it is. -/
theorem rawEventOf_accepted [PyParse] {response : HttpResponse} (id : UUID) (statusCode : ℤ)
    (h : parseEvent response request.eventId = some event) :
    rawEventOf request (readResult request id (acceptedResponse statusCode event)) =
      .ok (.ofList event.entries) := by
  obtain ⟨hid, hwell, hstart, hend, hattendees⟩ := parseEvent_fields h
  obtain ⟨hstatus, hfound, hevent, -⟩ := readResult_accepted id statusCode hid hwell
  rw [rawEventOf, hstatus, if_neg (not_not_intro rfl), hfound, if_neg (not_not_intro rfl), hevent,
    allowlistedRawEvent]
  rw [← hid, allowlistedFields_entries hstart hend hattendees]
  rfl

/-- Manual sync passes nothing on when no event was found. -/
theorem rawEventOf_of_findsNothing [PyParse] {response : GoogleProviderResponse}
    (request : ManualCalendarSyncRequest) (id : UUID) (h : FindsNothing response) :
    ∃ e, rawEventOf request (readResult request id response) = .error e := by
  rcases h with hfailure | ⟨hfailure, hfound⟩
  · obtain ⟨failure, hfailure⟩ := Option.isSome_iff_exists.mp hfailure
    have hstatus : (readResult request id response).status ≠ .succeeded := by
      simp only [readResult, CalendarWorkerExecutor.providerResult, hfailure,
        CalendarWorkerExecutor.providerFailureResult]
      decide
    rw [rawEventOf, if_pos hstatus]
    split
    · exact ⟨_, rfl⟩
    · exact ⟨_, rfl⟩
  · have hreported : (OrderedDict.ofList (("found", Value.bool false) ::
        fakeAdapter response.body)).get "found" = some (.bool false) := by
      by_cases hadapter : response.body.get "adapter" = some (.str "fake_transport") <;>
        simp [fakeAdapter, hadapter, OrderedDict.ofList, OrderedDict.update, OrderedDict.get_set]
    have hstatus : (readResult request id response).status = .succeeded ∧
        (readResult request id response).metadata.get "found" = some (.bool false) := by
      simp [readResult, CalendarWorkerExecutor.providerResult, hfailure,
        CalendarWorkerExecutor.capabilityWorkerResult, calendarCapabilityResult, hfound,
        OrderedDict.get_update_entries, hreported]
    rw [rawEventOf, hstatus.1, hstatus.2, if_neg (not_not_intro rfl), if_pos (by decide)]
    exact ⟨_, rfl⟩

end Layers

/-! ### Over HTTP -/

section Stack

variable [PyUrl] {W V : Type}

/-- The Calendar provider over the HTTP transport. -/
def calendarOver (getCredentials : Option String → Option String → W →
      Except CredentialsRaised GoogleCredentials × W)
    (transport : HttpxCalendarTransportClient) (http : Handler HttpCalls W) :
    Handler ProviderCalls W :=
  GoogleProviderComposition.provider "calendar" (googleOf getCredentials
    fun request credentials w => (transport.execute request credentials).run http w)

/-- Credentials are at hand from `w` on, and Google answers the read of the event. -/
def ReadAnswered (getCredentials : Option String → Option String → W →
      Except CredentialsRaised GoogleCredentials × W)
    (transport : HttpxCalendarTransportClient) (http : Handler HttpCalls W)
    (request : ManualCalendarSyncRequest) (w : W) (response : HttpResponse) (w' : W) : Prop :=
  ∃ credentials w₁, getCredentials request.principal request.accountIdentifier w =
      (.ok credentials, w₁) ∧ Python.strip credentials.accessToken ≠ "" ∧
    http { url := transport.apiBaseUrl ++ (googleCalendarEventPathPrefix ++
             PyParse.quote request.eventId)
           params := ∅
           bearer := credentials.accessToken } w₁ = (.ok response, w')

/-- An event that passes every layer as the transport accepted it. -/
structure PassesThrough [PyLower] (calendar : Handler ProviderCalls W) (k : Handler Outside V)
    (engine : PermissionEngine) (request : ManualCalendarSyncRequest) (event : CalendarEvent)
    (s : Stores) (w : W) (v : V) (w' : W) : Prop where
  /-- The executor found it, and manual sync allowlists its five fields. -/
  executor : ∃ result, (CalendarWorkerExecutor.execute (request.providerAction (k .uuid4 v).1)
      (some "prepare_meeting") (some request.accountContext)).run calendar w = (.ok result, w') ∧
    result.status = .succeeded ∧ result.metadata.get "found" = some (.bool true) ∧
    rawEventOf request result = .ok (.ofList event.entries)
  /-- Ingress is given just these fields; the outcome of the sync is that of ingress. -/
  ingress : (sync BasePlanner.plan engine request).run (Handler.both calendar (ruleBased k)) s (w, v) =
    let r := (CalendarIngressAdapter.ingest BasePlanner.plan engine (.ofList event.entries)
      request.integrationRoute).run (ruleBased k) s (k .uuid4 v).2
    ((ingressOutcome request true r.1.1, r.1.2), (w', r.2))
  /-- From the event one action is planned: it prepares the requested meeting for the
  account of the request. -/
  planned : ∀ id v', ∃ action v'', (BasePlanner.plan (processedOf (normalizedEvent
      (.ofList event.entries) (.str request.eventId) id)
      (some request.integrationRoute))).run (ruleBased k) () v' = ((.ok [action], ()), v'') ∧
    PreparesMeeting (.str request.eventId) request.integrationRoute action
  /-- It is what an ingress that succeeds has evaluated. -/
  evaluated : ∀ ingress, ((CalendarIngressAdapter.ingest BasePlanner.plan engine
      (.ofList event.entries) request.integrationRoute).run (ruleBased k) s
        (k .uuid4 v).2).1.1 = .ok ingress →
    ∃ evaluation, ingress.processing.permissionEvaluations = [evaluation] ∧
      PreparesMeeting (.str request.eventId) request.integrationRoute evaluation.action

variable {getCredentials : Option String → Option String → W →
    Except CredentialsRaised GoogleCredentials × W} {transport : HttpxCalendarTransportClient}
  {http : Handler HttpCalls W} {request : ManualCalendarSyncRequest} {response : HttpResponse}
  {event : CalendarEvent} {w w' : W}

/-- The read of the event, answered. -/
theorem calendarOver_read (h : ReadAnswered getCredentials transport http request w response w') :
    calendarOver getCredentials transport http
        (CalendarWorkerExecutor.readProviderRequest CALENDAR_PREPARE_MEETING request.eventId
          (some request.accountContext)) w =
      (mapResponse (some request.eventId) response, w') := by
  obtain ⟨credentials, w₁, hcredentials, htoken, hhttp⟩ := h
  have hne : request.eventId ≠ "" := by
    intro hblank
    exact request.plain_eventId.1 (by rw [hblank]; decide)
  have hreads : CALENDAR_PREPARE_MEETING ∈ calendarEventReadCapabilityIdentifiers := by decide
  have hrequested :=
    (requestedEventId_readProviderRequest (some request.accountContext) hreads hne).1
  rw [calendarOver, GoogleProviderComposition.provider_of_credentials hcredentials]
  show (transport.execute _ credentials).run http w₁ = _
  rw [HttpxCalendarTransportClient.execute, hrequested]
  dsimp only
  rw [send, if_neg htoken, Prog.run_call]
  show Prog.run http _ (http _ w₁).2 = _
  rw [CalendarWorkerExecutor.readProviderRequest, hhttp]
  rfl

variable [PyLower] {k : Handler Outside V} {v : V} {engine : PermissionEngine} {s : Stores}

/-- What the executor returned decides what a sync does next. -/
theorem run_sync {calendar : Handler ProviderCalls W} {executed : Except Raised WorkerExecutionResult}
    (h : (CalendarWorkerExecutor.execute (request.providerAction (k .uuid4 v).1)
      (some "prepare_meeting") (some request.accountContext)).run calendar w = (executed, w')) :
    (sync BasePlanner.plan engine request).run (Handler.both calendar (ruleBased k)) s (w, v) =
      (do
        let providerResult ← Proc.ofExcept (executed.mapError .other)
        let rawEvent ← Proc.ofExcept (rawEventOf request providerResult)
        let ingress ← Proc.attemptRight (CalendarIngressAdapter.ingest BasePlanner.plan engine
          rawEvent request.integrationRoute)
        Proc.ofExcept (ingressOutcome request (performed providerResult) ingress) :
          Proc SyncCalls Stores SyncRaised ManualCalendarSyncResult).run
        (Handler.both calendar (ruleBased k)) s (w', (k .uuid4 v).2) := by
  have hid : (Proc.request SyncCalls (.inr .uuid4) .ok : Proc SyncCalls Stores SyncRaised UUID).run
      (Handler.both calendar (ruleBased k)) s (w, v) =
        ((.ok (k .uuid4 v).1, s), (w, (k .uuid4 v).2)) := rfl
  rw [sync, Proc.run_bind_of_ok hid, Proc.run_bind_of_ok (Proc.run_ofLeft _), h]

/-- What the transport accepts passes through every layer; what it rejects leaves every
store as it was. -/
theorem sync_agrees (getCredentials : Option String → Option String → W →
      Except CredentialsRaised GoogleCredentials × W)
    (transport : HttpxCalendarTransportClient) (http : Handler HttpCalls W) (k : Handler Outside V)
    (engine : PermissionEngine) (request : ManualCalendarSyncRequest) (response : HttpResponse)
    (s : Stores) (w w' : W) (v : V)
    (h : ReadAnswered getCredentials transport http request w response w') :
    (∀ event, AcceptedAs response request.eventId event →
      PassesThrough (calendarOver getCredentials transport http) k engine request event s w v w') ∧
    ((∀ event, ¬AcceptedAs response request.eventId event) →
      ∃ e, (sync BasePlanner.plan engine request).run
        (Handler.both (calendarOver getCredentials transport http) (ruleBased k)) s (w, v) =
          ((.error e, s), (w', (k .uuid4 v).2))) := by
  have hexecuted : (CalendarWorkerExecutor.execute (request.providerAction (k .uuid4 v).1)
      (some "prepare_meeting") (some request.accountContext)).run
        (calendarOver getCredentials transport http) w =
      ((mapResponse (some request.eventId) response).map (readResult request (k .uuid4 v).1), w') := by
    rw [execute_providerAction, CalendarWorkerExecutor.askProvider, Prog.run_call,
      calendarOver_read h]
    rfl
  constructor
  · intro event haccepts
    obtain ⟨hid, hwell, -⟩ := parseEvent_fields haccepts.2
    rw [mapResponse_of_accepts haccepts] at hexecuted
    obtain ⟨hstatus, hfound, -, hperformed⟩ :=
      readResult_accepted (k .uuid4 v).1 response.statusCode hid hwell
    have hraw := rawEventOf_accepted (k .uuid4 v).1 response.statusCode haccepts.2
    have heventId : (OrderedDict.ofList event.entries).get "event_id" =
        some (.str request.eventId) := by
      rw [← hid]
      simp [CalendarEvent.entries, OrderedDict.ofList, OrderedDict.update, OrderedDict.get_set]
    refine ⟨⟨_, hexecuted, hstatus, hfound, hraw⟩, ?_, fun id v' => ?_, ?_⟩
    · rw [run_sync hexecuted]
      have hresult : (Proc.ofExcept (((.ok (acceptedResponse response.statusCode event) :
          Except Raised GoogleProviderResponse).map (readResult request (k .uuid4 v).1)).mapError
            .other) : Proc SyncCalls Stores SyncRaised WorkerExecutionResult).run
          (Handler.both (calendarOver getCredentials transport http) (ruleBased k)) s
            (w', (k .uuid4 v).2) =
          ((.ok (readResult request (k .uuid4 v).1
            (acceptedResponse response.statusCode event)), s), (w', (k .uuid4 v).2)) := rfl
      rw [Proc.run_bind_of_ok hresult, hraw, Proc.run_bind_of_ok rfl,
        Proc.run_bind_of_ok (Proc.run_attemptRight _), hperformed]
      rfl
    · obtain ⟨action, hplanned, hprepares⟩ := run_plan_normalized (k := k) (v := v')
        (.ofList event.entries) (.str request.eventId) request.integrationRoute id
      exact ⟨action, _, hplanned, hprepares⟩
    · exact (ensures_ingest heventId).run
  · intro hrejected
    cases hmapped : mapResponse (some request.eventId) response with
    | error e =>
      rw [hmapped] at hexecuted
      rw [run_sync hexecuted]
      exact ⟨.other e, Proc.run_bind_of_error rfl⟩
    | ok mapped =>
      rw [hmapped] at hexecuted
      obtain ⟨e, he⟩ := rawEventOf_of_findsNothing request (k .uuid4 v).1
        (mapResponse_of_rejected hrejected hmapped)
      rw [run_sync hexecuted]
      refine ⟨e, ?_⟩
      rw [Proc.run_bind_of_ok (a := readResult request (k .uuid4 v).1 mapped) rfl, he]
      exact Proc.run_bind_of_error rfl

end Stack

/-! ### An event -/

/-- Credentials for everyone. -/
def reviewCredentials (principal account : Option String) (w : Unit) :
    Except CredentialsRaised GoogleCredentials × Unit :=
  (.ok {
    accessToken := "token"
    principal := principal.getD ""
    account := account.getD "" }, w)

/-- A request for an event whose id is quoted. -/
def reviewRequest : ManualCalendarSyncRequest where
  principal := "me"
  accountIdentifier := "me@example.com"
  eventId := "review 1"
  plain_principal := by decide
  plain_accountIdentifier := by decide
  plain_eventId := by decide

/-- What Google answers: an untitled event of one day, with a guest. -/
def reviewResponse : HttpResponse where
  statusCode := 200
  json := some (.dict [("id", .str "review 1"), ("status", .str "confirmed"),
    ("start", .dict [("date", .str "2026-07-27")]), ("end", .dict [("date", .str "2026-07-28")]),
    ("attendees", .list [.dict [("email", .str "you@example.com"), ("self", .bool false)]])])

/-- The event of that answer. -/
def reviewEvent : CalendarEvent where
  eventId := "review 1"
  title := ""
  start := "2026-07-27"
  end_ := "2026-07-28"
  attendees := ["you@example.com"]

/-- The event passes through. -/
theorem sync_agrees_of_reviewResponse :
    letI := PyUrl.ascii
    letI := PyLower.ascii
    PassesThrough (calendarOver reviewCredentials {} fun _ w => (.ok reviewResponse, w))
      (outside Environment.cooperative inMemoryRunRepository) BasePermissionEngine.engine
      reviewRequest reviewEvent {} () (.initial inMemoryRunRepository) () :=
  letI := PyUrl.ascii
  letI := PyLower.ascii
  (sync_agrees reviewCredentials {} (fun _ w => (.ok reviewResponse, w))
    (outside Environment.cooperative inMemoryRunRepository) BasePermissionEngine.engine
    reviewRequest reviewResponse {} () () (.initial inMemoryRunRepository)
    ⟨⟨"token", "me", "me@example.com", "Bearer", none⟩, (), rfl, by decide, rfl⟩).1 reviewEvent
    ⟨by decide, by decide⟩

end Velox
