import Velox.Integrations.CalendarPagination

/-!
# The layers of the list read

Four validators look at a page of an event listing: the mapping of the HTTP
transport, the allowlist of the executor, the consistency checks of the
orchestrator, and the token checks of the next request. The first three agree on
every body. The last one rejects padded tokens, which the others let pass.

## Main definitions

* `LayersAgree` — a page is rejected by the transport, or accepted by every layer
* `NamesUnpaddedToken` — a body whose token, if any, is not padded

## Main results

* `isBoundedListRequest_listProviderRequest` — the transport accepts every list
  request of the executor
* `parseEventList_eq_some_iff` — what the transport makes of a body
* `layersAgree_iff` — the layers agree exactly where the token is not padded
-/

set_option autoImplicit false

namespace Velox

/-! ### Requests -/

section Requests

variable [PyParse] (request : CalendarEventListRequest)

theorem entries_asQuery : request.asQuery.entries =
    [("timeMin", .str request.timeMin), ("timeMax", .str request.timeMax),
      ("maxResults", .str (toString request.maxResults)), ("singleEvents", .str "true"),
      ("orderBy", .str "startTime")] ++
      (request.pageToken.map fun token => ("pageToken", Value.str token)).toList := by
  obtain ⟨timeMin, timeMax, maxResults, pageToken, _, _, _⟩ := request
  cases pageToken <;> rfl

theorem get_asQuery (key : String) : request.asQuery.get key =
    lookupEntry ([("timeMin", .str request.timeMin), ("timeMax", .str request.timeMax),
      ("maxResults", .str (toString request.maxResults)), ("singleEvents", .str "true"),
      ("orderBy", .str "startTime")] ++
      (request.pageToken.map fun token => ("pageToken", Value.str token)).toList) key := by
  rw [OrderedDict.get, entries_asQuery, lookupEntry]

/-- A page size in bounds reads back from its text. -/
theorem intOfText_maxResults :
    Python.isdigit (toString request.maxResults) = true ∧
      intOfText (toString request.maxResults) = .ok request.maxResults := by
  obtain ⟨size, hsize⟩ : ∃ size : ℕ, request.maxResults = size :=
    Int.eq_ofNat_of_zero_le (le_trans (by decide) request.bounded.1)
  have hbound : request.maxResults ≤ 50 := request.bounded.2
  have htext : toString request.maxResults = toString size := by rw [hsize]; rfl
  rw [htext, hsize]
  exact ⟨Python.isdigit_toString size,
    intOfText_toString (Python.lt_pow_intMaxStrDigits (by omega : size < 10 ^ 3))⟩

/-- `int` reads the text of a page size. -/
theorem parseInt_maxResults :
    PyStd.parseInt (toString request.maxResults) = some request.maxResults := by
  have hint : intOfText (toString request.maxResults) = .ok request.maxResults :=
    (intOfText_maxResults request).2
  unfold intOfText at hint
  split at hint
  · next size hread => rw [hread, ← Except.ok.inj hint]
  · cases hint

/-- A page's query has one of the two accepted shapes. -/
theorem hasKeys_asQuery :
    HttpxCalendarTransportClient.hasKeys request.asQuery calendarListQueryFields ∨
      HttpxCalendarTransportClient.hasKeys request.asQuery calendarListPagedQueryFields := by
  unfold HttpxCalendarTransportClient.hasKeys
  rw [OrderedDict.keys, entries_asQuery]
  cases request.pageToken with
  | none => exact Or.inl (by simp [calendarListQueryFields])
  | some token => exact Or.inr (by simp [calendarListPagedQueryFields, calendarListQueryFields])

/-- The transport accepts every list request of the executor. -/
theorem isBoundedListRequest_listProviderRequest (accountContext : Option WorkerAccountContext) :
    HttpxCalendarTransportClient.isBoundedListRequest
      (CalendarWorkerExecutor.listProviderRequest CALENDAR_LIST_EVENTS accountContext request) =
        .ok true := by
  have hlist : CALENDAR_LIST_EVENTS ∈ calendarListCapabilityIdentifiers := by decide
  have hsingle : request.asQuery.get "singleEvents" = some (.str "true") := by
    simp [get_asQuery, lookupEntry]
  have horder : request.asQuery.get "orderBy" = some (.str "startTime") := by
    simp [get_asQuery, lookupEntry]
  have htoken : request.asQuery.get "pageToken" ≠ some .none := by
    rw [CalendarEventListRequest.get_asQuery_pageToken]
    cases request.pageToken <;> simp
  have hnew : CalendarEventListRequest.new ((request.asQuery.get "timeMin").getD .none)
      ((request.asQuery.get "timeMax").getD .none) (.int request.maxResults)
      ((request.asQuery.get "pageToken").getD .none) = .ok request := by
    refine CalendarEventListRequest.new_eq_ok_iff.mpr ⟨?_, ?_, rfl, ?_⟩
    · simp [get_asQuery, lookupEntry]
    · simp [get_asQuery, lookupEntry]
    · rw [CalendarEventListRequest.get_asQuery_pageToken]
      rfl
  obtain ⟨hdigits, hint⟩ := intOfText_maxResults request
  simp only [HttpxCalendarTransportClient.isBoundedListRequest,
    CalendarWorkerExecutor.listProviderRequest, hlist, not_true_eq_false, ne_eq,
    Option.isSome_none, Bool.false_eq_true, or_self, if_false, hasKeys_asQuery, hsingle, horder,
    CalendarEventListRequest.get_asQuery_maxResults, hdigits, Bool.true_eq_false, htoken, hint,
    Except.ok_bind, hnew, Except.pure_eq_ok]

end Requests

namespace HttpxCalendarTransportClient

/-! ### The mapping of the transport -/

/-- The raw items of a body; `none` where it is not an object with a list of them. -/
def rawItems (response : HttpResponse) : Option (List Value) := do
  match lookupEntryD (← parseJsonObject response) "items" (.list []) with
  | .list items => some items
  | _ => none

/-- The continuation token a body names; `none` where it is malformed. -/
def rawPageToken (response : HttpResponse) : Option (Option String) := do
  reportedPageToken (lookupEntry (← parseJsonObject response) "nextPageToken")

/-- A body is mapped when it has a list of items and a token or none; the mappable
items are kept in order and the others are counted. -/
theorem parseEventList_eq_some_iff {response : HttpResponse} {page : EventList} :
    parseEventList response = some page ↔ ∃ items, rawItems response = some items ∧
      rawPageToken response = some page.nextPageToken ∧ page.events = items.filterMap mapItem ∧
      page.skippedEventCount = items.countP fun item => (mapItem item).isNone := by
  unfold parseEventList rawItems rawPageToken
  rcases parseJsonObject response with _ | rawList
  · simp
  · simp only [Option.bind_eq_bind, Option.bind_some]
    cases hitems : lookupEntryD rawList "items" (.list []) with
    | list items =>
      obtain ⟨events, skippedEventCount, nextPageToken⟩ := page
      rcases reportedPageToken (lookupEntry rawList "nextPageToken") with _ | token
      · simp
      · simp only [Option.bind_some, Option.pure_def, Option.some.injEq, EventList.mk.injEq,
          exists_eq_left']
        constructor
        · rintro ⟨rfl, rfl, rfl⟩
          exact ⟨rfl, rfl, rfl⟩
        · rintro ⟨rfl, rfl, rfl⟩
          exact ⟨rfl, rfl, rfl⟩
    | _ => simp

theorem wellFormed_of_mapItem {item : Value} {event : CalendarEvent}
    (h : mapItem item = some event) : event.WellFormed := by
  cases item with
  | dict rawEvent =>
    obtain ⟨eventId, hid, h⟩ := Option.bind_eq_some_iff.mp h
    obtain ⟨title, -, h⟩ := Option.bind_eq_some_iff.mp h
    obtain ⟨start, -, h⟩ := Option.bind_eq_some_iff.mp h
    obtain ⟨end_, -, h⟩ := Option.bind_eq_some_iff.mp h
    split at h
    · obtain ⟨attendees, -, h⟩ := Option.bind_eq_some_iff.mp h
      obtain rfl := Option.some.inj h
      have hblank := (Option.filter_eq_some_iff.mp hid).2
      exact of_decide_eq_true hblank
    · cases h
  | _ => cases h

/-- Every item is mapped or skipped. -/
theorem length_filterMap_add_countP (items : List Value) :
    (items.filterMap mapItem).length + items.countP (fun item => (mapItem item).isNone) =
      items.length := by
  induction items with
  | nil => rfl
  | cons item items ih =>
    rcases hitem : mapItem item with _ | event <;>
      simp only [List.filterMap_cons, hitem, List.countP_cons, List.length_cons, Option.isNone_none,
        Option.isNone_some, if_true, Bool.false_eq_true, if_false] <;> omega

theorem strip_ne_of_rawPageToken {response : HttpResponse} {token : String}
    (h : rawPageToken response = some (some token)) : Python.strip token ≠ "" := by
  obtain ⟨rawList, -, h⟩ := Option.bind_eq_some_iff.mp h
  unfold reportedPageToken at h
  split at h
  · cases h
  · cases h
  · split_ifs at h with hblank
    obtain rfl := Option.some.inj (Option.some.inj h)
    exact hblank
  · cases h

end HttpxCalendarTransportClient

/-! ### The layers together -/

open HttpxCalendarTransportClient (rawItems rawPageToken mapItem)

variable [PyParse] {W : Type}

/-- The Calendar executor over the HTTP transport. -/
def httpPages (getCredentials : Option String → Option String → W →
      Except CredentialsRaised GoogleCredentials × W)
    (transport : HttpxCalendarTransportClient) (http : Handler HttpCalls W) :
    Handler PageCalls W :=
  CalendarWorkerExecutor.pages (GoogleProviderComposition.provider "calendar"
    (googleOf getCredentials fun request credentials w =>
      (transport.execute request credentials).run http w))

/-- The transport reports the response invalid, and the executor passes that on. -/
def ReportedInvalid (result : WorkerExecutionResult) : Prop :=
  result.status = .failed ∧ ∃ failure, result.failure = some failure ∧
    failure.metadata.get "provider_reason" = some (.str "invalidProviderResponse")

/-- A token that the next request accepts verbatim, and its transport too. -/
def Continues (listRequest : CalendarEventListRequest) (token : String) : Prop :=
  ∃ next, CalendarEventListRequest.new (.str listRequest.timeMin) (.str listRequest.timeMax)
      (.int listRequest.maxResults) (.str token) = .ok next ∧
    ∀ accountContext, HttpxCalendarTransportClient.isBoundedListRequest
      (CalendarWorkerExecutor.listProviderRequest CALENDAR_LIST_EVENTS accountContext next) =
        .ok true

/-- Every layer accepts the page: the mappable items in order, every other item
counted, and a token that continues the walk. -/
structure AcceptedByAll (listRequest : CalendarEventListRequest) (response : HttpResponse)
    (result : WorkerExecutionResult) : Prop where
  page : ∃ items page, rawItems response = some items ∧ acceptedPage result = some page ∧
    page.events = (items.filterMap mapItem).map (fun event => .dict event.entries) ∧
    result.metadata.get "event_count" = some (.int page.events.length) ∧
    result.metadata.get "skipped_event_count" = some (.int page.skippedEventCount) ∧
    page.events.length + page.skippedEventCount = items.length ∧
    result.metadata.get "page_complete" = some (.bool (page.skippedEventCount = 0)) ∧
    ∀ token, page.nextPageToken = some token → Continues listRequest token

/-- The layers agree on a response: all of them reject it, or all of them accept it. -/
def LayersAgree (listRequest : CalendarEventListRequest) (response : HttpResponse)
    (reply : Except Raised WorkerExecutionResult) : Prop :=
  ∃ result, reply = .ok result ∧
    (ReportedInvalid result ∨ AcceptedByAll listRequest response result)

omit [PyParse] in
/-- A body that is mapped names no padded token. -/
def NamesUnpaddedToken (response : HttpResponse) : Prop :=
  ∀ items token, rawItems response = some items → rawPageToken response = some (some token) →
    Python.strip token = token

section Stack

variable {getCredentials : Option String → Option String → W →
    Except CredentialsRaised GoogleCredentials × W} {transport : HttpxCalendarTransportClient}
  {http : Handler HttpCalls W} {action : Action} {accountContext : Option WorkerAccountContext}
  {listRequest : CalendarEventListRequest} {credentials : GoogleCredentials}
  {response : HttpResponse} {w w' w'' : W}

/-- With credentials at hand, a list request reaches Google, and a 2xx answer is
mapped. -/
theorem run_execute_list (htoken : Python.strip credentials.accessToken ≠ "")
    (hhttp : http { url := transport.apiBaseUrl ++ googleCalendarEventsPath
                    params := listRequest.asQuery
                    bearer := credentials.accessToken } w' = (.ok response, w''))
    (hstatus : 200 ≤ response.statusCode ∧ response.statusCode ≤ 299) :
    (transport.execute (CalendarWorkerExecutor.listProviderRequest CALENDAR_LIST_EVENTS
        accountContext listRequest) credentials).run http w' =
      (.ok (HttpxCalendarTransportClient.successResponse none response), w'') := by
  have hread : CALENDAR_LIST_EVENTS ∉ calendarEventReadCapabilityIdentifiers := by decide
  have hnone : HttpxCalendarTransportClient.requestedEventId
      (CalendarWorkerExecutor.listProviderRequest CALENDAR_LIST_EVENTS accountContext listRequest) =
      none := if_pos (Or.inl hread)
  have hmap : HttpxCalendarTransportClient.mapResponse none response =
      .ok (HttpxCalendarTransportClient.successResponse none response) := by
    have h400 : ¬response.statusCode = 400 := by omega
    have h401 : ¬response.statusCode = 401 := by omega
    have h403 : ¬response.statusCode = 403 := by omega
    have h429 : ¬response.statusCode = 429 := by omega
    have h5xx : ¬(500 ≤ response.statusCode ∧ response.statusCode ≤ 599) := by omega
    simp only [HttpxCalendarTransportClient.mapResponse, Option.isSome_none, Bool.false_eq_true,
      and_false, if_false, h400, h401, h403, h429, h5xx, hstatus, and_self, not_true_eq_false,
      Except.pure_eq_ok]
  simp only [HttpxCalendarTransportClient.execute, hnone, isBoundedListRequest_listProviderRequest,
    HttpxCalendarTransportClient.send, htoken, if_false, Prog.run_call]
  rw [CalendarWorkerExecutor.listProviderRequest, hhttp]
  simp only [Prog.run_ret, hmap]

/-- The result of one page read over HTTP. -/
theorem httpPages_eq (hrequest : CalendarWorkerExecutor.listRequestOf action = .ok listRequest)
    (hcredentials : getCredentials (accountContext.bind (·.principal))
      (accountContext.map (·.accountIdentifier)) w = (.ok credentials, w'))
    (htoken : Python.strip credentials.accessToken ≠ "")
    (hhttp : http { url := transport.apiBaseUrl ++ googleCalendarEventsPath
                    params := listRequest.asQuery
                    bearer := credentials.accessToken } w' = (.ok response, w''))
    (hstatus : 200 ≤ response.statusCode ∧ response.statusCode ≤ 299) :
    httpPages getCredentials transport http
        { action, capability := some CALENDAR_LIST_EVENTS, accountContext } w =
      (.ok (CalendarWorkerExecutor.listResult action CALENDAR_LIST_EVENTS accountContext listRequest
        (HttpxCalendarTransportClient.successResponse none response)), w'') := by
  have hprovider : GoogleProviderComposition.provider "calendar"
      (googleOf getCredentials fun request credentials w =>
        (transport.execute request credentials).run http w)
      (CalendarWorkerExecutor.listProviderRequest CALENDAR_LIST_EVENTS accountContext listRequest)
      w = (.ok (HttpxCalendarTransportClient.successResponse none response), w'') := by
    rw [GoogleProviderComposition.provider_of_credentials hcredentials]
    exact run_execute_list htoken hhttp hstatus
  change (CalendarWorkerExecutor.execute action (some CALENDAR_LIST_EVENTS) accountContext).run _ w
    = _
  rw [CalendarWorkerExecutor.execute_list, CalendarWorkerExecutor.executeListProviderRequest,
    hrequest]
  simp only [CalendarWorkerExecutor.askProvider, Prog.run_call, Prog.run_ret, hprovider]
  rfl

/-- A body that is not mapped is reported invalid. -/
theorem reportedInvalid_of_parse_eq_none (action : Action)
    (accountContext : Option WorkerAccountContext) (listRequest : CalendarEventListRequest)
    (h : HttpxCalendarTransportClient.parseEventList response = none) :
    ReportedInvalid (CalendarWorkerExecutor.listResult action CALENDAR_LIST_EVENTS accountContext
      listRequest (HttpxCalendarTransportClient.successResponse none response)) := by
  have hresponse : HttpxCalendarTransportClient.successResponse none response =
      HttpxCalendarTransportClient.invalidProviderResponse response.statusCode := by
    simp only [HttpxCalendarTransportClient.successResponse, h]
  rw [hresponse]
  refine ⟨rfl, _, rfl, ?_⟩
  simp [OrderedDict.update, OrderedDict.get_set, optionalText]

/-- A mapped body becomes a page that every layer up to the orchestrator accepts. -/
theorem acceptedPage_successResponse {page : HttpxCalendarTransportClient.EventList}
    (h : HttpxCalendarTransportClient.parseEventList response = some page) (action : Action)
    (accountContext : Option WorkerAccountContext) (listRequest : CalendarEventListRequest) :
    acceptedPage (CalendarWorkerExecutor.listResult action CALENDAR_LIST_EVENTS accountContext
        listRequest (HttpxCalendarTransportClient.successResponse none response)) =
      some { events := page.events.map fun event => .dict event.entries
             skippedEventCount := page.skippedEventCount
             nextPageToken := page.nextPageToken } := by
  obtain ⟨items, -, htoken, hevents, -⟩ :=
    HttpxCalendarTransportClient.parseEventList_eq_some_iff.mp h
  have hwell : ∀ event ∈ page.events, event.WellFormed := by
    intro event hmem
    rw [hevents, List.mem_filterMap] at hmem
    obtain ⟨item, -, hitem⟩ := hmem
    exact HttpxCalendarTransportClient.wellFormed_of_mapItem hitem
  have hblank : ∀ t ∈ page.nextPageToken, Python.strip t ≠ "" := by
    intro t ht
    rw [Option.mem_def.mp ht] at htoken
    exact HttpxCalendarTransportClient.strip_ne_of_rawPageToken htoken
  have hresponse : HttpxCalendarTransportClient.successResponse none response =
      { statusCode := response.statusCode
        body := (HttpxCalendarTransportClient.safeBody true).update page.entries } := by
    simp only [HttpxCalendarTransportClient.successResponse, h]
  rw [hresponse]
  refine acceptedPage_listResult page.nextPageToken rfl ?_ ?_ ?_ hwell hblank action
    CALENDAR_LIST_EVENTS accountContext listRequest
  · simp [HttpxCalendarTransportClient.EventList.entries, OrderedDict.update, OrderedDict.get_set]
  · simp [HttpxCalendarTransportClient.EventList.entries, OrderedDict.update, OrderedDict.get_set]
  · simp [HttpxCalendarTransportClient.EventList.entries, OrderedDict.update]

/-- A token continues the walk exactly when it is not blank and not padded. -/
theorem continues_iff (listRequest : CalendarEventListRequest) (token : String) :
    Continues listRequest token ↔ IsPageToken token := by
  constructor
  · rintro ⟨next, hnew, -⟩
    obtain ⟨-, -, -, htoken⟩ := CalendarEventListRequest.new_eq_ok_iff.mp hnew
    have hnext : next.pageToken = some token := by
      have htext := congrArg Value.text? htoken
      rw [text?_optionalText] at htext
      exact htext.symm
    exact next.isPageToken token hnext
  · intro htoken
    exact ⟨{ listRequest with pageToken := some token, isPageToken := by simpa using htoken },
      CalendarEventListRequest.new_eq_ok_iff.mpr ⟨rfl, rfl, rfl, rfl⟩,
      fun accountContext => isBoundedListRequest_listProviderRequest _ accountContext⟩

/-- A token that every layer accepts is not padded. -/
theorem namesUnpaddedToken_of_layersAgree
    (h : LayersAgree listRequest response (.ok (CalendarWorkerExecutor.listResult action
      CALENDAR_LIST_EVENTS accountContext listRequest
      (HttpxCalendarTransportClient.successResponse none response)))) :
    NamesUnpaddedToken response := by
  intro items token hitems hraw
  -- a body with items and a token is mapped, so nothing is reported invalid
  have hparse : HttpxCalendarTransportClient.parseEventList response = some {
      events := items.filterMap mapItem
      skippedEventCount := items.countP fun item => (mapItem item).isNone
      nextPageToken := some token } :=
    HttpxCalendarTransportClient.parseEventList_eq_some_iff.mpr ⟨items, hitems, hraw, rfl, rfl⟩
  have haccepted := acceptedPage_successResponse hparse action accountContext listRequest
  obtain ⟨result, hresult, hagree⟩ := h
  obtain rfl := Except.ok.inj hresult
  rcases hagree with ⟨hfailed, -⟩ | ⟨-, page, -, hpage, -, -, -, -, -, hcontinues⟩
  · rw [acceptedPage, hfailed] at haccepted
    cases haccepted
  · obtain rfl := Option.some.inj (haccepted.symm.trans hpage)
    exact ((continues_iff listRequest token).mp (hcontinues token rfl)).2

/-- A body without a padded token is reported invalid, or accepted by every layer. -/
theorem layersAgree_of_namesUnpaddedToken (action : Action)
    (accountContext : Option WorkerAccountContext) (listRequest : CalendarEventListRequest)
    (h : NamesUnpaddedToken response) :
    LayersAgree listRequest response (.ok (CalendarWorkerExecutor.listResult action
      CALENDAR_LIST_EVENTS accountContext listRequest
      (HttpxCalendarTransportClient.successResponse none response))) := by
  rcases hparse : HttpxCalendarTransportClient.parseEventList response with _ | page
  · exact ⟨_, rfl, Or.inl (reportedInvalid_of_parse_eq_none action accountContext listRequest
      hparse)⟩
  · have haccepted := acceptedPage_successResponse hparse action accountContext listRequest
    obtain ⟨items, hitems, hraw, hevents, hskipped⟩ :=
      HttpxCalendarTransportClient.parseEventList_eq_some_iff.mp hparse
    have hconsistent := haccepted
    rw [acceptedPage] at hconsistent
    split_ifs at hconsistent
    obtain ⟨-, hcount, hskippedCount, hcomplete, -⟩ := get_of_consistentPage hconsistent
    refine ⟨_, rfl, Or.inr ⟨items, _, hitems, haccepted, ?_, hcount, hskippedCount, ?_, hcomplete,
      ?_⟩⟩
    · rw [hevents]
    · rw [List.length_map, hevents, hskipped]
      exact HttpxCalendarTransportClient.length_filterMap_add_countP items
    · intro token hnext
      have hnext' : page.nextPageToken = some token := hnext
      rw [hnext'] at hraw
      have hstrip := h items token hitems hraw
      refine (continues_iff listRequest token).mpr ⟨?_, hstrip⟩
      rw [← hstrip]
      exact HttpxCalendarTransportClient.strip_ne_of_rawPageToken hraw

/-- The layers agree on a 2xx answer to an accepted list request exactly when the
token it names, if it is mapped and names one, is not padded. -/
theorem layersAgree_iff (hrequest : CalendarWorkerExecutor.listRequestOf action = .ok listRequest)
    (hcredentials : getCredentials (accountContext.bind (·.principal))
      (accountContext.map (·.accountIdentifier)) w = (.ok credentials, w'))
    (htoken : Python.strip credentials.accessToken ≠ "")
    (hhttp : http { url := transport.apiBaseUrl ++ googleCalendarEventsPath
                    params := listRequest.asQuery
                    bearer := credentials.accessToken } w' = (.ok response, w''))
    (hstatus : 200 ≤ response.statusCode ∧ response.statusCode ≤ 299) :
    LayersAgree listRequest response (httpPages getCredentials transport http
        { action, capability := some CALENDAR_LIST_EVENTS, accountContext } w).1 ↔
      NamesUnpaddedToken response := by
  rw [httpPages_eq hrequest hcredentials htoken hhttp hstatus]
  exact ⟨namesUnpaddedToken_of_layersAgree,
    layersAgree_of_namesUnpaddedToken action accountContext listRequest⟩

end Stack

/-! ### An instance -/

open CalendarEventListOrchestrator (Sample.request Sample.action Sample.account
  Sample.getCredentials)

/-- An empty page that names a token. -/
def emptyPage (token : String) : HttpResponse where
  statusCode := 200
  json := some (.dict [("items", .list []), ("nextPageToken", .str token)])

omit [PyParse] in
/-- The layers agree on a page that names a plain token. -/
theorem layersAgree_of_plain_token :
    letI := PyParse.ascii
    LayersAgree (Sample.request.page none (by simp)) (emptyPage "tok")
      (httpPages Sample.getCredentials {} (fun _ w => (.ok (emptyPage "tok"), w))
        { action := Sample.action
          capability := some CALENDAR_LIST_EVENTS
          accountContext := some Sample.account } ()).1 :=
  letI := PyParse.ascii
  (layersAgree_iff (CalendarEventListRequest.new_eq_ok_iff.mpr ⟨rfl, rfl, rfl, rfl⟩) rfl
    (by decide) rfl (by decide)).mpr fun items token _ hraw => by
      have htoken : rawPageToken (emptyPage "tok") = some (some "tok") := by decide
      obtain rfl := Option.some.inj (Option.some.inj (htoken.symm.trans hraw))
      decide

omit [PyParse] in
/-- A page that names a padded token is handed out as a success, and the next request
rejects the token. -/
theorem not_layersAgree_of_padded_token :
    letI := PyParse.ascii
    ¬LayersAgree (Sample.request.page none (by simp)) (emptyPage " tok ")
      (httpPages Sample.getCredentials {} (fun _ w => (.ok (emptyPage " tok "), w))
        { action := Sample.action
          capability := some CALENDAR_LIST_EVENTS
          accountContext := some Sample.account } ()).1 := by
  let _ := PyParse.ascii
  intro h
  have hreply := @httpPages_eq _ Unit Sample.getCredentials {}
    (fun _ w => (.ok (emptyPage " tok "), w)) Sample.action (some Sample.account)
    (Sample.request.page none (by simp)) _ _ () () ()
    (CalendarEventListRequest.new_eq_ok_iff.mpr ⟨rfl, rfl, rfl, rfl⟩) rfl (by decide) rfl (by decide)
  rw [hreply] at h
  have hstrip := namesUnpaddedToken_of_layersAgree h [] " tok " rfl (by decide)
  exact absurd hstrip (by decide)

end Velox
