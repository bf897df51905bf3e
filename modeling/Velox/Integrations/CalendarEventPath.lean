import Velox.Integrations.CalendarExecutor
import Velox.Python.Url

/-!
# Paths of event reads

The executor quotes the id of an event into one path segment, the HTTP transport
removes the prefix of the path and decodes what is left, the deterministic one decodes
the last segment. They agree on every id, and every path but two stays below the events
of the calendar: a dot is quoted as itself, so that the ids `.` and `..` become dot
segments, which a URL does not keep.

## Main definitions

* `FakeCalendarTransportClient.requestedEventId` — the id the deterministic transport
  looks up
* `CalendarWorkerExecutor.AsksForEvent` — an accepted id and the request it leads to
* `PathConfined` — what the path of the request must be

## Main results

* `AsksForEvent.request_eq` — the request of an accepted id
* `pathConfined_iff`
-/

set_option autoImplicit false

namespace Velox

open PercentEncoding (IsSegment isSegment_quote_iff)

/-- The id of the event the deterministic transport looks up. -/
def FakeCalendarTransportClient.requestedEventId [PyParse] (request : GoogleProviderRequest) :
    String :=
  PyParse.unquote (lastSegment request.path)

namespace FakeCalendarTransportClient

theorem lastSegment_append {start segment : String} (h : '/' ∉ segment.toList) :
    lastSegment (start ++ "/" ++ segment) = segment := by
  have htake : (segment.toList.reverse ++ '/' :: start.toList.reverse).takeWhile (· ≠ '/') =
      segment.toList.reverse := by
    rw [List.takeWhile_append_of_pos]
    · simp
    · intro c hc
      refine decide_eq_true ?_
      rintro rfl
      exact h (List.mem_reverse.mp hc)
  have hreverse : (start ++ "/" ++ segment).toList.reverse =
      segment.toList.reverse ++ '/' :: start.toList.reverse := by
    simp
  rw [lastSegment, hreverse, htake, List.reverse_reverse, String.ofList_toList]

/-- The response to an event read depends on the decoded id alone. -/
theorem defaultResponse_read [PyParse] {client : FakeCalendarTransportClient}
    {request : GoogleProviderRequest} {credentials : GoogleCredentials}
    (hoperation : request.operation ∈ calendarEventReadCapabilityIdentifiers) :
    ∃ response, client.defaultResponse request credentials = .ok response ∧
      response.body.get "found" =
        some (.bool (client.events.get (requestedEventId request)).isSome) := by
  have hlist : request.operation ∉ calendarListCapabilityIdentifiers := by
    intro hlist
    rw [List.mem_singleton.mp hlist] at hoperation
    exact absurd hoperation (by decide)
  have hknown : ¬request.operation ∉ calendarCapabilityIdentifiers :=
    not_not_intro (List.mem_append_left [CALENDAR_LIST_EVENTS] hoperation)
  rw [defaultResponse, if_neg hlist, if_neg hknown]
  refine ⟨_, rfl, ?_⟩
  rw [requestedEventId]
  cases client.events.get (PyParse.unquote (lastSegment request.path)) <;> rfl

end FakeCalendarTransportClient

/-! ### Accepted ids -/

namespace CalendarWorkerExecutor

/-- The executor reads an event, and asks its provider for the id the action carries. -/
structure AsksForEvent [PyParse] (action : Action) (capability : Option String)
    (accountContext : Option WorkerAccountContext) (calendarEventId : String)
    (request : GoogleProviderRequest) : Prop where
  reads : (capability.bind orNone).getD action.type ∈ calendarEventReadCapabilityIdentifiers
  payload : action.payload.get "calendar_event_id" = some (.str calendarEventId)
  asks : (execute action capability accountContext).pending = some request

section Accepted

variable [PyParse] {action : Action} {capability : Option String}
  {accountContext : Option WorkerAccountContext} {calendarEventId : String}
  {request : GoogleProviderRequest}

/-- The provider request of one event read. -/
def readProviderRequest (capability calendarEventId : String)
    (accountContext : Option WorkerAccountContext) : GoogleProviderRequest where
  operation := capability
  path := googleCalendarEventPathPrefix ++ PyParse.quote calendarEventId
  accountContext

/-- An id is accepted unless it is blank, and its request is for the stripped id. -/
theorem pending_execute (capability : Option String)
    (hreads : (capability.bind orNone).getD action.type ∈ calendarEventReadCapabilityIdentifiers)
    (hpayload : action.payload.get "calendar_event_id" = some (.str calendarEventId)) :
    (execute action capability accountContext).pending =
      if Python.strip calendarEventId = "" then none
      else some (readProviderRequest ((capability.bind orNone).getD action.type)
        (Python.strip calendarEventId) accountContext) := by
  have hknown : ¬(capability.bind orNone).getD action.type ∉ calendarCapabilityIdentifiers :=
    not_not_intro (List.mem_append_left [CALENDAR_LIST_EVENTS] hreads)
  have hlist : (capability.bind orNone).getD action.type ∉ calendarListCapabilityIdentifiers := by
    intro hlist
    rw [List.mem_singleton.mp hlist] at hreads
    exact absurd hreads (by decide)
  simp only [execute, hknown, hlist, if_false, hpayload, Option.bind_some, Value.text?,
    Option.filter_some]
  by_cases hblank : Python.strip calendarEventId = ""
  · simp only [hblank, ne_eq, not_true_eq_false, decide_false, Bool.false_eq_true, if_false, if_true]
    rfl
  · simp only [hblank, ne_eq, not_false_eq_true, decide_true, if_true, if_false]
    rfl

/-- Every id with some text in it is accepted. -/
theorem asksForEvent_of_ne (action : Action) (capability : Option String)
    (accountContext : Option WorkerAccountContext) {calendarEventId : String}
    (hreads : (capability.bind orNone).getD action.type ∈ calendarEventReadCapabilityIdentifiers)
    (hpayload : action.payload.get "calendar_event_id" = some (.str calendarEventId))
    (hne : Python.strip calendarEventId ≠ "") :
    AsksForEvent action capability accountContext calendarEventId
      (readProviderRequest ((capability.bind orNone).getD action.type)
        (Python.strip calendarEventId) accountContext) :=
  ⟨hreads, hpayload, by rw [pending_execute capability hreads hpayload, if_neg hne]⟩

theorem AsksForEvent.request_eq
    (h : AsksForEvent action capability accountContext calendarEventId request) :
    Python.strip calendarEventId ≠ "" ∧
      request = readProviderRequest ((capability.bind orNone).getD action.type)
        (Python.strip calendarEventId) accountContext := by
  have hasks := h.asks
  rw [pending_execute capability h.reads h.payload] at hasks
  split_ifs at hasks with hblank
  exact ⟨hblank, (Option.some.inj hasks).symm⟩

end Accepted

end CalendarWorkerExecutor

open CalendarWorkerExecutor

/-! ### Confined paths -/

/-- The request of an event read stays below the events of the calendar and stands for
its id alone. -/
structure PathConfined [PyUrl] (calendarEventId : String) (request : GoogleProviderRequest) :
    Prop where
  /-- The path is the prefix and one segment. -/
  segment : ∃ segment, request.path = googleCalendarEventPathPrefix ++ segment ∧ IsSegment segment
  /-- The HTTP transport decodes the stripped id. -/
  transport : HttpxCalendarTransportClient.requestedEventId request =
    some (Python.strip calendarEventId)
  /-- So does the deterministic one. -/
  fake : FakeCalendarTransportClient.requestedEventId request = Python.strip calendarEventId
  /-- No other id leads to the path. -/
  distinct : ∀ action capability accountContext otherEventId otherRequest,
    AsksForEvent action capability accountContext otherEventId otherRequest →
      Python.strip otherEventId ≠ Python.strip calendarEventId → otherRequest.path ≠ request.path

section Paths

variable [PyUrl] {action : Action} {capability : Option String}
  {accountContext : Option WorkerAccountContext} {calendarEventId : String}
  {request : GoogleProviderRequest}

theorem slash_notMem_quote (s : String) : '/' ∉ (PyParse.quote s).toList := by
  rw [PyUrl.quote_eq]
  exact PercentEncoding.notMem_quote (by decide) (by decide) s

/-- The two decoders read the id the executor wrote, whatever it is. -/
theorem requestedEventId_readProviderRequest {operation eventId : String}
    (accountContext : Option WorkerAccountContext)
    (hoperation : operation ∈ calendarEventReadCapabilityIdentifiers) (hne : eventId ≠ "") :
    HttpxCalendarTransportClient.requestedEventId
        (readProviderRequest operation eventId accountContext) = some eventId ∧
      FakeCalendarTransportClient.requestedEventId
        (readProviderRequest operation eventId accountContext) = eventId := by
  have hquote : PyParse.quote eventId ≠ "" := by
    rw [PyUrl.quote_eq]
    exact fun h => hne (PercentEncoding.quote_eq_empty_iff.mp h)
  have hslash := slash_notMem_quote eventId
  constructor
  · simp only [HttpxCalendarTransportClient.requestedEventId, readProviderRequest, hoperation,
      removePrefix_append, hquote, hslash, hne, PyUrl.unquote_quote, not_true_eq_false, ne_eq,
      Option.isSome_none, Bool.false_eq_true, or_self, if_false, Option.bind_eq_bind,
      Option.bind_some]
  · simp only [FakeCalendarTransportClient.requestedEventId, readProviderRequest,
      googleCalendarEventPathPrefix, FakeCalendarTransportClient.lastSegment_append hslash,
      PyUrl.unquote_quote]

/-- The path of a read determines the id. -/
theorem readProviderRequest_path_injective {operation operation' eventId eventId' : String}
    {accountContext' : Option WorkerAccountContext}
    (h : (readProviderRequest operation eventId accountContext).path =
      (readProviderRequest operation' eventId' accountContext').path) : eventId = eventId' := by
  have hquote := (String.append_right_inj _).mp h
  rw [PyUrl.quote_eq, PyUrl.quote_eq] at hquote
  exact PercentEncoding.quote_injective hquote

/-- An accepted id is read under a confined path exactly when it is no dot segment. -/
theorem pathConfined_iff
    (h : AsksForEvent action capability accountContext calendarEventId request) :
    PathConfined calendarEventId request ↔
      Python.strip calendarEventId ≠ "." ∧ Python.strip calendarEventId ≠ ".." := by
  obtain ⟨hne, rfl⟩ := h.request_eq
  obtain ⟨htransport, hfake⟩ := requestedEventId_readProviderRequest accountContext h.reads hne
  constructor
  · intro hconfined
    obtain ⟨segment, hpath, hsegment⟩ := hconfined.segment
    -- there is only one way to read the path
    obtain rfl : PyParse.quote (Python.strip calendarEventId) = segment :=
      (String.append_right_inj _).mp hpath
    rw [PyUrl.quote_eq] at hsegment
    exact (isSegment_quote_iff.mp hsegment).2
  · intro hdots
    refine ⟨⟨_, rfl, ?_⟩, htransport, hfake, ?_⟩
    · rw [PyUrl.quote_eq]
      exact isSegment_quote_iff.mpr ⟨hne, hdots⟩
    · intro _ _ _ otherEventId otherRequest hother hdistinct heq
      obtain ⟨-, rfl⟩ := hother.request_eq
      exact hdistinct (readProviderRequest_path_injective heq)

end Paths

/-- An action that prepares a meeting of a given event. -/
def meetingAction (calendarEventId : String) : Action where
  id := 0
  type := CALENDAR_PREPARE_MEETING
  target := "meeting"
  payload := .ofList [("calendar_event_id", .str calendarEventId)]

/-- A slash of an id does not end the segment. -/
theorem pathConfined_of_slash :
    let _ := PyUrl.ascii
    PathConfined " a/b " (readProviderRequest CALENDAR_PREPARE_MEETING "a/b" none) := by
  intro _
  have hasks : AsksForEvent (meetingAction " a/b ") none none " a/b "
      (readProviderRequest CALENDAR_PREPARE_MEETING "a/b" none) :=
    asksForEvent_of_ne _ none none (by decide) rfl (by decide)
  exact (pathConfined_iff hasks).mpr (by decide)

/-- The id `..` is accepted, and its path is that of the calendar itself. -/
theorem not_pathConfined_parent :
    let _ := PyUrl.ascii
    ∃ request, AsksForEvent (meetingAction "..") none none ".." request ∧
      request.path = "/calendar/v3/calendars/primary/events/.." ∧ ¬PathConfined ".." request := by
  intro _
  have hasks : AsksForEvent (meetingAction "..") none none ".."
      (readProviderRequest CALENDAR_PREPARE_MEETING ".." none) :=
    asksForEvent_of_ne _ none none (by decide) rfl (by decide)
  refine ⟨_, hasks, by decide, fun hconfined => ?_⟩
  exact ((pathConfined_iff hasks).mp hconfined).2 (by decide)

end Velox
