import Velox.Integrations.CalendarOrchestrator

/-!
# Bounded pagination is complete

Whatever the page executor does, the orchestrator walks along the chain of tokens
from the first page, within the page limit and never twice to the same token, and
either fails without events or returns the events of the chain in order. Over the
deterministic transport the chain is the stored listing itself.

## Main definitions

* `Delivered` — an exchange that fetched a page of the chain
* `Outcome` — what the walk makes of its last page
* `BoundedWalk` — what holds of the exchanges and the result of a walk

## Main results

* `walk_outcome` — the walk, from any point on
* `boundedWalk_execute` — the walk of a valid request
* `pagination_complete` — the walk, and the deterministic transport at the end of it
-/

set_option autoImplicit false

namespace Velox

open CursorWalk (Termination Visit cursors Underway Ends)

namespace CalendarEventListOrchestrator

/-! ### The walk as its visits -/

/-- The state of the loop after some pages. -/
def Walk.of (visits : List (Visit String CalendarPage)) (pending : Option String) : Walk where
  events := visits.flatMap fun visit => visit.2.events
  pagesFetched := visits.length
  skippedEventCount := (visits.map fun visit => visit.2.skippedEventCount).sum
  everyPageComplete := visits.all fun visit => visit.2.skippedEventCount = 0
  seenPageTokens := (cursors visits pending).filterMap id
  pageToken := pending

/-- The result of a walk over some pages: their events in order, and complete when
the pages were exhausted and none skipped an event. -/
def aggregate (resultAction : Action) (pages : List CalendarPage) (reason : Termination) :
    WorkerExecutionResult where
  action := resultAction
  status := .succeeded
  reason := some "bounded calendar event list orchestration result"
  metadata := .ofList [("events", .tuple (pages.flatMap CalendarPage.events)),
    ("event_count", .int (pages.flatMap CalendarPage.events).length),
    ("pages_fetched", .int pages.length),
    ("skipped_event_count", .int (pages.map CalendarPage.skippedEventCount).sum),
    ("aggregate_complete",
      .bool (reason = .exhausted ∧ ∀ page ∈ pages, page.skippedEventCount = 0)),
    ("termination_reason", .str (terminationReason reason))]

variable {visits : List (Visit String CalendarPage)} {pending : Option String}
  {page : CalendarPage}

theorem Walk.seenPageTokens_of (token : String) :
    token ∈ (Walk.of visits pending).seenPageTokens ↔ some token ∈ cursors visits pending := by
  simp [Walk.of]

/-- Going on to a token adds the page to the visits. -/
theorem Walk.of_append (token : String) :
    { (Walk.of visits pending).extend page with
      seenPageTokens := ((Walk.of visits pending).extend page).seenPageTokens ++ [token]
      pageToken := some token } = Walk.of (visits ++ [(pending, page)]) (some token) := by
  simp [Walk.of, Walk.extend, CursorWalk.cursors_append]

/-- A walk that ends returns the aggregate of its pages. -/
theorem Walk.result_extend (resultAction : Action) (reason : Termination) :
    ((Walk.of visits pending).extend page).result resultAction reason =
      aggregate resultAction (visits.map Prod.snd ++ [page]) reason := by
  have hcomplete : (decide (reason = .exhausted) &&
      ((visits.all fun visit => visit.2.skippedEventCount = 0) &&
        decide (page.skippedEventCount = 0))) =
      decide (reason = .exhausted ∧
        ∀ p ∈ visits.map Prod.snd ++ [page], p.skippedEventCount = 0) := by
    rw [Bool.eq_iff_iff]
    simp only [Bool.and_eq_true, decide_eq_true_eq, List.all_eq_true, List.forall_mem_append,
      List.forall_mem_map, List.forall_mem_singleton]
  simp only [Walk.result, Walk.extend, Walk.of, aggregate, hcomplete, List.flatMap_append,
    List.flatMap_map, List.map_append, List.map_map, List.sum_append, List.length_append,
    List.length_map, List.length_singleton, List.map_cons, List.map_nil, List.sum_cons,
    List.sum_nil, List.flatMap_singleton, Function.comp_def, Nat.add_zero]

/-! ### The walk of any page executor -/

section Walk

variable [PyParse] {W : Type} (request : CalendarEventListOrchestrationRequest) (action : Action)
  (accountContext : Option WorkerAccountContext)

/-- An exchange with the page executor. -/
abbrev Exchange := Σ c : PageCalls.Call, PageCalls.Reply c

/-- An exchange that fetched a page of the chain: the page was asked for under its
token and is consistent. -/
def Delivered (visit : Visit String CalendarPage) (exchange : Exchange) : Prop :=
  ∃ result, acceptedPage result = some visit.2 ∧
    exchange = ⟨pageCall request action accountContext visit.1, .ok result⟩

/-- What the walk makes of the reply to its last request, after some pages. -/
inductive Outcome (visits : List (Visit String CalendarPage)) (pending : Option String) :
    Except Raised WorkerExecutionResult → Except Raised WorkerExecutionResult → Prop
  /-- An exception of the page executor is passed on. -/
  | raised (e : Raised) : Outcome visits pending (.error e) (.error e)
  /-- A page that fails or is inconsistent fails the walk, without events. -/
  | failed {pageResult result : WorkerExecutionResult} : acceptedPage pageResult = none →
      result.status = .failed → result.metadata = ∅ →
      Outcome visits pending (.ok pageResult) (.ok result)
  /-- A page that ends the chain ends the walk with the events of all pages. -/
  | succeeded {pageResult : WorkerExecutionResult} {page : CalendarPage} {reason : Termination} :
      acceptedPage pageResult = some page →
      Ends CalendarPage.nextPageToken request.maxPages.toNat visits pending page reason →
      Outcome visits pending (.ok pageResult)
        (.ok (aggregate (pageTokenRedactedAction action) (visits.map Prod.snd ++ [page]) reason))

variable {request}

/-- What the loop does with a page: fail without events, end, or go on. -/
theorem afterPage_of (hunder : Underway CalendarPage.nextPageToken request.maxPages.toNat visits
      pending) (pageResult : WorkerExecutionResult) :
    (∃ result, afterPage request action (Walk.of visits pending) pageResult = .inl result ∧
        Outcome request action visits pending (.ok pageResult) (.ok result)) ∨
      ∃ page token, acceptedPage pageResult = some page ∧ page.nextPageToken = some token ∧
        afterPage request action (Walk.of visits pending) pageResult =
          .inr (Walk.of (visits ++ [(pending, page)]) (some token)) ∧
        Underway CalendarPage.nextPageToken request.maxPages.toNat (visits ++ [(pending, page)])
          (some token) := by
  have hwithin := hunder.within
  by_cases hstatus : pageResult.status = .succeeded
  · rcases hpage : consistentPage pageResult.metadata with _ | page
    · refine Or.inl ⟨invalidPageFailure (pageTokenRedactedAction action), ?_, ?_⟩
      · simp [afterPage, hstatus, hpage]
      · exact .failed (by simp [acceptedPage, hpage]) rfl rfl
    · have haccepted : acceptedPage pageResult = some page := by
        simp [acceptedPage, hstatus, hpage]
      have hfetched : ((Walk.of visits pending).extend page).pagesFetched = visits.length + 1 := rfl
      have hresult : ∀ reason, ((Walk.of visits pending).extend page).result
          (pageTokenRedactedAction action) reason = aggregate (pageTokenRedactedAction action)
            (visits.map Prod.snd ++ [page]) reason := fun reason => Walk.result_extend _ reason
      rcases hnext : page.nextPageToken with _ | token
      · refine Or.inl ⟨_, ?_, .succeeded haccepted (.exhausted hnext)⟩
        simp [afterPage, hstatus, hpage, hnext, hresult]
      · by_cases hlimit : visits.length + 1 = request.maxPages.toNat
        · have hge : ((visits.length + 1 : ℕ) : ℤ) ≥ request.maxPages := by omega
          refine Or.inl ⟨_, ?_, .succeeded haccepted (.pageLimit hnext hlimit)⟩
          simp only [afterPage, hstatus, hpage, hnext, hfetched, hge, hresult, ne_eq,
            not_true_eq_false, if_false, if_true]
        · have hlt : ¬((visits.length + 1 : ℕ) : ℤ) ≥ request.maxPages := by omega
          have hlt' : visits.length + 1 < request.maxPages.toNat := by omega
          have hseen : token ∈ ((Walk.of visits pending).extend page).seenPageTokens ↔
            some token ∈ cursors visits pending := Walk.seenPageTokens_of token
          by_cases hmem : some token ∈ cursors visits pending
          · refine Or.inl ⟨_, ?_, .succeeded haccepted (.repeatedCursor hnext hlt' hmem)⟩
            simp only [afterPage, hstatus, hpage, hnext, hfetched, hlt, hseen, hmem, hresult, ne_eq,
              not_true_eq_false, if_false, if_true]
          · refine Or.inr ⟨page, token, haccepted, hnext, ?_, hunder.step hnext hlt' hmem⟩
            simp only [afterPage, hstatus, hpage, hnext, hfetched, hlt, hseen, hmem, ne_eq,
              not_true_eq_false, if_false, ← Walk.of_append]
  · refine Or.inl ⟨pageFailure (pageTokenRedactedAction action) pageResult, ?_, ?_⟩
    · simp [afterPage, hstatus]
    · exact .failed (by simp [acceptedPage, hstatus]) rfl rfl

/-- From any point on, the walk fetches further pages of the chain and ends with the
reply to one last request. -/
theorem walk_outcome (h : Handler PageCalls W)
    (hunder : Underway CalendarPage.nextPageToken request.maxPages.toNat visits pending) (w : W) :
    ∃ more pending' reply exchanges,
      Underway CalendarPage.nextPageToken request.maxPages.toNat (visits ++ more) pending' ∧
      List.Forall₂ (Delivered request action accountContext) more exchanges ∧
      (walk request action accountContext (Walk.of visits pending)).transcript h w =
        exchanges ++ [⟨pageCall request action accountContext pending', reply⟩] ∧
      Outcome request action (visits ++ more) pending' reply
        ((walk request action accountContext (Walk.of visits pending)).run h w).1 := by
  -- the room that is left under the page limit shrinks with every page
  induction hroom : request.maxPages.toNat - visits.length using Nat.strong_induction_on
    generalizing visits pending w with
  | _ room ih =>
    rw [walk_eq, Prog.transcript_call, Prog.run_call]
    have hpending : (Walk.of visits pending).pageToken = pending := rfl
    rw [hpending]
    rcases hreply : h (pageCall request action accountContext pending) w with ⟨reply, w'⟩
    rcases reply with e | pageResult
    · exact ⟨[], pending, .error e, [], by simpa using hunder, .nil, rfl, .raised e⟩
    · rcases afterPage_of action hunder pageResult with
        ⟨result, hafter, houtcome⟩ | ⟨page, token, haccepted, -, hafter, hunder'⟩
      · refine ⟨[], pending, .ok pageResult, [], by simpa using hunder, .nil, ?_, ?_⟩
        · simp [hafter]
        · simpa [hafter] using houtcome
      · have hwithin := hunder.within
        have hsmaller : request.maxPages.toNat - (visits ++ [(pending, page)]).length < room := by
          rw [List.length_append, List.length_singleton]
          omega
        obtain ⟨more, pending', reply, exchanges, hunder'', hdelivered, htranscript, houtcome⟩ :=
          ih _ hsmaller hunder' w' rfl
        refine ⟨(pending, page) :: more, pending', reply, _ :: exchanges, ?_,
          .cons ⟨pageResult, haccepted, rfl⟩ hdelivered, ?_, ?_⟩
        · simpa using hunder''
        · simp [hafter, htranscript]
        · simpa [hafter] using houtcome

/-- The token a page is asked for under. -/
def requestedToken (call : PageCall) : Option String :=
  (call.action.payload.get "page_token").bind Value.text?

variable (request)

@[simp] theorem requestedToken_pageCall (token : Option String) :
    requestedToken (pageCall request action accountContext token) = token := by
  cases token <;>
    simp [requestedToken, pageCall, pagePayload, OrderedDict.ofList, OrderedDict.update,
      OrderedDict.get_set, Value.text?]

/-- What holds of the exchanges and the result of a walk. -/
structure BoundedWalk (exchanges : List Exchange) (result : Except Raised WorkerExecutionResult) :
    Prop where
  /-- At most `max_pages` pages are asked for. -/
  atMost : exchanges.length ≤ request.maxPages
  /-- Every page is asked for with the same window and page size. -/
  sameWindow : ∀ exchange ∈ exchanges, ∃ token,
    exchange.1 = pageCall request action accountContext token
  /-- No token is asked for twice. -/
  distinct : (exchanges.filterMap fun exchange => requestedToken exchange.1).Nodup
  /-- The pages before the last request are the chain of tokens from the first page,
  and the reply to the last request decides. -/
  outcome : ∃ visits pending reply fetched,
    exchanges = fetched ++ [⟨pageCall request action accountContext pending, reply⟩] ∧
    List.Forall₂ (Delivered request action accountContext) visits fetched ∧
    cursors visits pending = none :: visits.map (CalendarPage.nextPageToken ∘ Prod.snd) ∧
    Outcome request action visits pending reply result

/-- The request an action carries, and no page token. -/
def IsWalkRequest : Prop :=
  action.payload.contains "page_token" = false ∧
    action.payload.get "time_min" = some (.str request.timeMin) ∧
    action.payload.get "time_max" = some (.str request.timeMax) ∧
    action.payload.get "max_results" = some (.int request.maxResults) ∧
    action.payload.get "max_pages" = some (.int request.maxPages)

variable {request action accountContext}

theorem execute_of_isWalkRequest (hrequest : IsWalkRequest request action) :
    execute action accountContext = walk request action accountContext (Walk.of [] none) := by
  obtain ⟨htoken, hmin, hmax, hresults, hpages⟩ := hrequest
  have hnew : CalendarEventListOrchestrationRequest.new
      ((action.payload.get "time_min").getD .none) ((action.payload.get "time_max").getD .none)
      ((action.payload.get "max_results").getD .none)
      ((action.payload.get "max_pages").getD .none) = .ok request := by
    rw [hmin, hmax, hresults, hpages]
    exact CalendarEventListOrchestrationRequest.new_eq_ok_iff.mpr ⟨rfl, rfl, rfl, rfl⟩
  simp only [execute, htoken, Bool.false_eq_true, if_false, hnew]
  rfl

theorem underway_nil : Underway CalendarPage.nextPageToken request.maxPages.toNat
    ([] : List (Visit String CalendarPage)) none := by
  refine CursorWalk.underway_start ?_
  have hpages : 1 ≤ request.maxPages := request.boundedPages.1
  omega

theorem map_fst_of_delivered {exchanges : List Exchange}
    (h : List.Forall₂ (Delivered request action accountContext) visits exchanges) :
    exchanges.map Sigma.fst =
      (visits.map Prod.fst).map (pageCall request action accountContext) := by
  induction h with
  | nil => rfl
  | cons hhead _ ih =>
    obtain ⟨result, -, rfl⟩ := hhead
    rw [List.map_cons, List.map_cons, List.map_cons, ih]

/-- The walk of a valid request, whatever the page executor does. -/
theorem boundedWalk_execute (h : Handler PageCalls W) (w : W)
    (hrequest : IsWalkRequest request action) :
    BoundedWalk request action accountContext ((execute action accountContext).transcript h w)
      ((execute action accountContext).run h w).1 := by
  rw [execute_of_isWalkRequest hrequest]
  obtain ⟨visits, pending, reply, fetched, hunder, hdelivered, htranscript, houtcome⟩ :=
    walk_outcome action accountContext h underway_nil w
  rw [List.nil_append] at hunder houtcome
  -- the calls are those under the cursors of the walk
  have hcalls : ((walk request action accountContext (Walk.of [] none)).transcript h w).map
      Sigma.fst = (cursors visits pending).map (pageCall request action accountContext) := by
    rw [htranscript, List.map_append, map_fst_of_delivered hdelivered, cursors, List.map_append]
    rfl
  have hlength := congrArg List.length hcalls
  rw [List.length_map, List.length_map] at hlength
  exact {
    atMost := by
      have hle := hunder.length_cursors_le
      have hpages : 1 ≤ request.maxPages := request.boundedPages.1
      omega
    sameWindow := by
      intro exchange hmem
      have hcall : exchange.1 ∈ (cursors visits pending).map
        (pageCall request action accountContext) := hcalls ▸ List.mem_map_of_mem hmem
      obtain ⟨token, -, htoken⟩ := List.mem_map.mp hcall
      exact ⟨token, htoken.symm⟩
    distinct := by
      have htokens : ((walk request action accountContext (Walk.of [] none)).transcript h w).filterMap
          (fun exchange => requestedToken exchange.1) = (cursors visits pending).filterMap id := by
        have hstep := congrArg (List.filterMap requestedToken) hcalls
        rw [List.filterMap_map, List.filterMap_map] at hstep
        refine hstep.trans (List.filterMap_congr fun token _ => ?_)
        exact requestedToken_pageCall request action accountContext token
      rw [htokens]
      exact hunder.nodup_cursors
    outcome := ⟨visits, pending, reply, fetched, htranscript, hdelivered, hunder.linked, houtcome⟩ }

end Walk

/-! ### The deterministic transport -/

section Fake

variable [PyParse] {W : Type}

/-- The Calendar executor over the deterministic transport. -/
def fakePages (getCredentials : Option String → Option String → W →
      Except CredentialsRaised GoogleCredentials × W) (client : FakeCalendarTransportClient) :
    Handler PageCalls W :=
  CalendarWorkerExecutor.pages (GoogleProviderComposition.provider "calendar"
    (googleOf getCredentials fun request credentials w => (client.execute request credentials, w)))

/-- Whatever happened before, there are credentials for an account context. -/
def Resolves (getCredentials : Option String → Option String → W →
      Except CredentialsRaised GoogleCredentials × W)
    (accountContext : Option WorkerAccountContext) : Prop :=
  ∀ w, ∃ credentials w', getCredentials (accountContext.bind (·.principal))
    (accountContext.map (·.accountIdentifier)) w = (.ok credentials, w')

/-- The token under which the transport serves an offset. -/
def tokenAt (offset : ℕ) : Option String :=
  if offset = 0 then none else some (FakeCalendarTransportClient.mintedToken offset)

/-- The page the transport serves at an offset. -/
def pageAt (events : List CalendarEvent) (size offset : ℕ) : CalendarPage where
  events := ((events.drop offset).take size).map fun event => .dict event.entries
  skippedEventCount := 0
  nextPageToken := if offset + ((events.drop offset).take size).length < events.length then
    some (FakeCalendarTransportClient.mintedToken (offset + ((events.drop offset).take size).length))
    else none

omit [PyParse] in
theorem isPageToken_mintedToken (offset : ℕ) :
    IsPageToken (FakeCalendarTransportClient.mintedToken offset) := by
  constructor
  · intro h
    have hlength := congrArg (fun s => s.toList.length) h
    simp [FakeCalendarTransportClient.mintedToken,
      FakeCalendarTransportClient.fakeCalendarPageTokenPrefix] at hlength
  · refine Python.strip_eq_self fun c hc => ?_
    rw [FakeCalendarTransportClient.mintedToken, String.toList_append, List.mem_append] at hc
    rcases hc with hc | hc
    · have hall : (FakeCalendarTransportClient.fakeCalendarPageTokenPrefix.toList.all fun c =>
        !Python.isSpace c) = true := by decide
      simpa using List.all_eq_true.mp hall c hc
    · exact Python.not_isSpace_of_isDigit (Python.isDigit_of_mem_toString hc)

omit [PyParse] in
theorem isPageToken_tokenAt (offset : ℕ) : ∀ t ∈ tokenAt offset, IsPageToken t := by
  intro t ht
  unfold tokenAt at ht
  split_ifs at ht with hzero
  · cases ht
  · obtain rfl := Option.some.inj ht
    exact isPageToken_mintedToken offset

omit [PyParse] in
theorem mintedToken_injective : Function.Injective FakeCalendarTransportClient.mintedToken := by
  intro m n h
  have hlists := congrArg String.toList h
  rw [FakeCalendarTransportClient.mintedToken, FakeCalendarTransportClient.mintedToken,
    String.toList_append, String.toList_append] at hlists
  have hdigits := List.append_cancel_left hlists
  rw [Python.toList_toString, Python.toList_toString] at hdigits
  rw [← @Nat.ofDigitChars_ten_toDigits m, hdigits, Nat.ofDigitChars_ten_toDigits]

variable {client : FakeCalendarTransportClient} {request : CalendarEventListOrchestrationRequest}
  {accountContext : Option WorkerAccountContext} {offset : ℕ}

/-- The transport serves the page at the offset its token stands for. -/
theorem defaultListResponse_page (hoffset : offset ≤ client.events.values.length)
    (hsmall : offset < 10 ^ Python.intMaxStrDigits) :
    client.defaultListResponse (CalendarWorkerExecutor.listProviderRequest CALENDAR_LIST_EVENTS
        accountContext (request.page (tokenAt offset) (isPageToken_tokenAt offset))) =
      .ok (client.pageResponse request.maxResults.toNat offset) := by
  obtain ⟨size, hsize⟩ : ∃ size : ℕ, request.maxResults = size :=
    Int.eq_ofNat_of_zero_le (le_trans (by decide) request.bounded.1)
  have hbound : request.maxResults ≤ 50 := request.bounded.2
  have hint := intOfText_toString (Python.lt_pow_intMaxStrDigits (by omega : size < 10 ^ 3))
  have hresults : (request.page (tokenAt offset) (isPageToken_tokenAt offset)).maxResults = size :=
    hsize
  have htoString : toString (size : ℤ) = toString size := rfl
  simp only [FakeCalendarTransportClient.defaultListResponse,
    CalendarWorkerExecutor.listProviderRequest, CalendarEventListRequest.get_asQuery_maxResults,
    CalendarEventListRequest.get_asQuery_pageToken, hresults, htoString, Python.isdigit_toString,
    if_true, hint, Except.ok_bind, Except.pure_eq_ok, Int.toNat_natCast, hsize]
  by_cases hzero : offset = 0
  · simp [CalendarEventListOrchestrationRequest.page, tokenAt, hzero]
  · simp [CalendarEventListOrchestrationRequest.page, tokenAt, hzero,
      FakeCalendarTransportClient.pageTokenOffset_mintedToken hoffset hsmall]

theorem listRequestOf_pageCall (action : Action) (token : Option String)
    (htoken : ∀ t ∈ token, IsPageToken t) :
    CalendarWorkerExecutor.listRequestOf (pageCall request action accountContext token).action =
      .ok (request.page token htoken) := by
  refine CalendarEventListRequest.new_eq_ok_iff.mpr ?_
  cases token <;>
    simp [pageCall, pagePayload, CalendarEventListOrchestrationRequest.page, optionalText,
      OrderedDict.ofList, OrderedDict.update, OrderedDict.get_set]

variable {getCredentials : Option String → Option String → W →
  Except CredentialsRaised GoogleCredentials × W}

/-- What the executor makes of a page of the deterministic transport. -/
theorem acceptedPage_pageResponse (hwell : ∀ event ∈ client.events.values, event.WellFormed)
    (size : ℕ) (action : Action) (listRequest : CalendarEventListRequest) :
    acceptedPage (CalendarWorkerExecutor.listResult action CALENDAR_LIST_EVENTS accountContext
      listRequest (client.pageResponse size offset)) =
        some (pageAt client.events.values size offset) := by
  have hblank : ∀ t ∈ (pageAt client.events.values size offset).nextPageToken,
      Python.strip t ≠ "" := by
    intro t ht
    simp only [pageAt] at ht
    split_ifs at ht with hlast
    · obtain rfl := Option.some.inj ht
      rw [(isPageToken_mintedToken _).2]
      exact (isPageToken_mintedToken _).1
    · cases ht
  have hevents : ∀ event ∈ (client.events.values.drop offset).take size, event.WellFormed :=
    fun event he => hwell event (List.mem_of_mem_drop (List.mem_of_mem_take he))
  refine acceptedPage_listResult (pageAt client.events.values size offset).nextPageToken rfl
    ?_ ?_ ?_ hevents hblank action CALENDAR_LIST_EVENTS accountContext listRequest
  · simp [FakeCalendarTransportClient.pageResponse, OrderedDict.ofList, OrderedDict.update,
      OrderedDict.get_set]
  · simp [FakeCalendarTransportClient.pageResponse, OrderedDict.ofList, OrderedDict.update,
      OrderedDict.get_set]
  · simp [FakeCalendarTransportClient.pageResponse, pageAt, OrderedDict.ofList, OrderedDict.update]

/-- The page executor over the deterministic transport serves the page at an offset. -/
theorem fakePages_pageCall (hresolves : Resolves getCredentials accountContext)
    (hresponses : client.responses = ∅) (hfailures : client.failures = ∅)
    (hwell : ∀ event ∈ client.events.values, event.WellFormed)
    (hoffset : offset ≤ client.events.values.length)
    (hsmall : offset < 10 ^ Python.intMaxStrDigits) (action : Action) (w : W) :
    ∃ result w', fakePages getCredentials client
        (pageCall request action accountContext (tokenAt offset)) w = (.ok result, w') ∧
      acceptedPage result =
        some (pageAt client.events.values request.maxResults.toNat offset) := by
  obtain ⟨credentials, w', hcredentials⟩ := hresolves w
  have hlist : CALENDAR_LIST_EVENTS ∈ calendarListCapabilityIdentifiers := by decide
  have htransport : client.execute (CalendarWorkerExecutor.listProviderRequest CALENDAR_LIST_EVENTS
      accountContext (request.page (tokenAt offset) (isPageToken_tokenAt offset))) credentials =
      .ok (client.pageResponse request.maxResults.toNat offset) := by
    rw [← defaultListResponse_page hoffset hsmall]
    simp only [FakeCalendarTransportClient.execute, FakeGoogleTransportClient.execute, hresponses,
      hfailures, OrderedDict.get_empty]
    exact if_pos hlist
  have hprovider : GoogleProviderComposition.provider "calendar"
      (googleOf getCredentials fun request credentials w => (client.execute request credentials, w))
      (CalendarWorkerExecutor.listProviderRequest CALENDAR_LIST_EVENTS accountContext
        (request.page (tokenAt offset) (isPageToken_tokenAt offset))) w =
      (.ok (client.pageResponse request.maxResults.toNat offset), w') := by
    rw [GoogleProviderComposition.provider_of_credentials hcredentials]
    exact Prod.ext htransport rfl
  have hreply : fakePages getCredentials client
      (pageCall request action accountContext (tokenAt offset)) w =
      (.ok (CalendarWorkerExecutor.listResult
        (pageCall request action accountContext (tokenAt offset)).action CALENDAR_LIST_EVENTS
        accountContext (request.page (tokenAt offset) (isPageToken_tokenAt offset))
        (client.pageResponse request.maxResults.toNat offset)), w') := by
    change (CalendarWorkerExecutor.execute _ (some CALENDAR_LIST_EVENTS) accountContext).run _ w = _
    rw [CalendarWorkerExecutor.execute_list, CalendarWorkerExecutor.executeListProviderRequest,
      listRequestOf_pageCall action (tokenAt offset) (isPageToken_tokenAt offset)]
    simp only [CalendarWorkerExecutor.askProvider, Prog.run_call, Prog.run_ret, hprovider]
    rfl
  exact ⟨_, w', hreply, acceptedPage_pageResponse hwell _ _ _⟩

/-- The first pages of the transport, each under the token its predecessor mints. -/
def fakeVisits (events : List CalendarEvent) (size count : ℕ) :
    List (Visit String CalendarPage) :=
  (List.range count).map fun i => (tokenAt (i * size), pageAt events size (i * size))

omit [PyParse] in
theorem cursors_fakeVisits (events : List CalendarEvent) (size count : ℕ) :
    cursors (fakeVisits events size count) (tokenAt (count * size)) =
      (List.range (count + 1)).map fun i => tokenAt (i * size) := by
  simp [cursors, fakeVisits, List.range_succ, Function.comp_def]

omit [PyParse] in
/-- The pages before the end of the listing are full. -/
theorem nextPageToken_pageAt {events : List CalendarEvent} {size count : ℕ} :
    (pageAt events size (count * size)).nextPageToken =
      if (count + 1) * size < events.length then
        some (FakeCalendarTransportClient.mintedToken ((count + 1) * size)) else none := by
  have hlength : ((events.drop (count * size)).take size).length =
      min size (events.length - count * size) := by
    rw [List.length_take, List.length_drop]
  have hnext : (count + 1) * size = count * size + size := Nat.succ_mul count size
  simp only [pageAt, hlength, hnext]
  by_cases hfull : count * size + size < events.length
  · have hmin : min size (events.length - count * size) = size := by omega
    rw [hmin]
  · have hmin : ¬count * size + min size (events.length - count * size) < events.length := by omega
    rw [if_neg hmin, if_neg hfull]

omit [PyParse] in
theorem flatMap_pageAt (events : List CalendarEvent) (size count : ℕ) :
    ((List.range count).map fun i => pageAt events size (i * size)).flatMap CalendarPage.events =
      (events.take (count * size)).map fun event => .dict event.entries := by
  induction count with
  | zero => simp
  | succ count ih =>
    have hnext : (count + 1) * size = count * size + size := Nat.succ_mul count size
    rw [List.range_succ, List.map_append, List.flatMap_append, ih, hnext, List.take_add,
      List.map_append]
    simp [pageAt]

omit [PyParse] in
/-- A token that the transport mints was not asked for before. -/
theorem mintedToken_notMem_cursors {events : List CalendarEvent} {size count : ℕ} (hsize : 0 < size) :
    some (FakeCalendarTransportClient.mintedToken ((count + 1) * size)) ∉
      cursors (fakeVisits events size count) (tokenAt (count * size)) := by
  rw [cursors_fakeVisits, List.mem_map]
  rintro ⟨i, hi, htoken⟩
  have hlt : i * size < (count + 1) * size :=
    Nat.mul_lt_mul_of_pos_right (List.mem_range.mp hi) hsize
  unfold tokenAt at htoken
  split_ifs at htoken with hzero
  have hsame := mintedToken_injective (Option.some.inj htoken)
  omega

/-- The pages the transport serves in a walk of any length: all of them up to the end
of the listing, or as many as the limit admits. -/
inductive ServedPages (events : List CalendarEvent) (size limit : ℕ) (count : ℕ) : Termination → Prop
  | exhausted : count ≤ limit → events.length ≤ count * size →
      ServedPages events size limit count .exhausted
  | pageLimit : count = limit → count * size < events.length →
      ServedPages events size limit count .pageLimit

/-- The walk over the deterministic transport, after any number of its pages. -/
theorem walk_fakePages (hresolves : Resolves getCredentials accountContext)
    (hresponses : client.responses = ∅) (hfailures : client.failures = ∅)
    (hwell : ∀ event ∈ client.events.values, event.WellFormed) (action : Action) {count : ℕ}
    (hcount : count * request.maxResults.toNat ≤ client.events.values.length)
    (hunder : Underway CalendarPage.nextPageToken request.maxPages.toNat
      (fakeVisits client.events.values request.maxResults.toNat count)
      (tokenAt (count * request.maxResults.toNat))) (w : W) :
    ∃ total reason, ServedPages client.events.values request.maxResults.toNat
        request.maxPages.toNat total reason ∧
      ((walk request action accountContext (Walk.of
          (fakeVisits client.events.values request.maxResults.toNat count)
          (tokenAt (count * request.maxResults.toNat)))).run (fakePages getCredentials client) w).1 =
        .ok (aggregate (pageTokenRedactedAction action) ((List.range total).map fun i =>
          pageAt client.events.values request.maxResults.toNat
            (i * request.maxResults.toNat)) reason) := by
  have hsize : 0 < request.maxResults.toNat := by
    have hmin : 1 ≤ request.maxResults := request.bounded.1
    omega
  have hwithin : count < request.maxPages.toNat := by
    have hlength := hunder.within
    rwa [fakeVisits, List.length_map, List.length_range] at hlength
  -- the pages left under the limit
  induction hroom : request.maxPages.toNat - count generalizing count w with
  | zero => omega
  | succ room ih =>
    have hsmall : count * request.maxResults.toNat < 10 ^ Python.intMaxStrDigits := by
      have hpages : request.maxPages ≤ 10 := request.boundedPages.2
      have hresults : request.maxResults ≤ 50 := request.bounded.2
      refine Python.lt_pow_intMaxStrDigits ?_
      calc count * request.maxResults.toNat ≤ 10 * 50 := Nat.mul_le_mul (by omega) (by omega)
        _ < 10 ^ 3 := by norm_num
    obtain ⟨result, w', hreply, haccepted⟩ : ∃ result w', fakePages getCredentials client
          (pageCall request action accountContext (tokenAt (count * request.maxResults.toNat))) w =
            (.ok result, w') ∧ acceptedPage result = some (pageAt client.events.values
              request.maxResults.toNat (count * request.maxResults.toNat)) :=
      fakePages_pageCall hresolves hresponses hfailures hwell hcount hsmall action w
    have hpage : (fakeVisits client.events.values request.maxResults.toNat count).map Prod.snd ++
        [pageAt client.events.values request.maxResults.toNat (count * request.maxResults.toNat)] =
        (List.range (count + 1)).map fun i =>
          pageAt client.events.values request.maxResults.toNat (i * request.maxResults.toNat) := by
      simp [fakeVisits, List.range_succ, Function.comp_def]
    have hpending : (Walk.of (fakeVisits client.events.values request.maxResults.toNat count)
      (tokenAt (count * request.maxResults.toNat))).pageToken =
        tokenAt (count * request.maxResults.toNat) := rfl
    rw [walk_eq, Prog.run_call, hpending, hreply]
    have hnextToken : (pageAt client.events.values request.maxResults.toNat
        (count * request.maxResults.toNat)).nextPageToken =
        if (count + 1) * request.maxResults.toNat < client.events.values.length then
          some (FakeCalendarTransportClient.mintedToken ((count + 1) * request.maxResults.toNat))
        else none := nextPageToken_pageAt
    rcases afterPage_of action hunder result with
      ⟨final, hafter, houtcome⟩ | ⟨page, token, hpageAccepted, hnext, hafter, hunder'⟩
    · simp only [hafter, Prog.run_ret]
      cases houtcome with
      | failed hnone => rw [haccepted] at hnone; cases hnone
      | succeeded hsome hends =>
        obtain rfl := Option.some.inj (haccepted.symm.trans hsome)
        rw [hpage]
        cases hends with
        | exhausted hnone =>
          refine ⟨count + 1, .exhausted, .exhausted hwithin ?_, rfl⟩
          rw [hnextToken] at hnone
          by_contra hmore
          rw [if_pos (by omega)] at hnone
          cases hnone
        | pageLimit hsomeToken hlimit =>
          refine ⟨count + 1, .pageLimit, .pageLimit ?_ ?_, rfl⟩
          · rwa [fakeVisits, List.length_map, List.length_range] at hlimit
          · rw [hnextToken] at hsomeToken
            by_contra hmore
            rw [if_neg hmore] at hsomeToken
            cases hsomeToken
        | repeatedCursor hsomeToken _ hmem =>
          rw [hnextToken] at hsomeToken
          split_ifs at hsomeToken with hmore
          obtain rfl := Option.some.inj hsomeToken
          exact absurd hmem (mintedToken_notMem_cursors hsize)
    · obtain rfl := Option.some.inj (haccepted.symm.trans hpageAccepted)
      rw [hnextToken] at hnext
      split_ifs at hnext with hmore
      obtain rfl := Option.some.inj hnext
      have hvisits : fakeVisits client.events.values request.maxResults.toNat count ++
          [(tokenAt (count * request.maxResults.toNat),
            pageAt client.events.values request.maxResults.toNat
              (count * request.maxResults.toNat))] =
          fakeVisits client.events.values request.maxResults.toNat (count + 1) := by
        simp [fakeVisits, List.range_succ]
      have htoken : some (FakeCalendarTransportClient.mintedToken
          ((count + 1) * request.maxResults.toNat)) =
          tokenAt ((count + 1) * request.maxResults.toNat) := by
        rw [tokenAt, if_neg (Nat.mul_pos (Nat.succ_pos count) hsize).ne']
      rw [hvisits, htoken] at hafter hunder'
      simp only [hafter]
      have hlength := hunder'.within
      rw [fakeVisits, List.length_map, List.length_range] at hlength
      exact ih hmore.le hunder' w' hlength (by omega)

/-- The result over the deterministic transport: all events when the pages suffice,
otherwise as many as the pages hold. -/
structure ListsAll (events : List CalendarEvent) (capacity : ℕ) (result : WorkerExecutionResult) :
    Prop where
  succeeded : result.status = .succeeded
  listed : result.metadata.get "events" =
    some (.tuple ((events.take capacity).map fun event => .dict event.entries))
  complete : result.metadata.get "aggregate_complete" = some (.bool (events.length ≤ capacity))
  reason : result.metadata.get "termination_reason" =
    some (.str (if events.length ≤ capacity then "exhausted" else "page_limit"))

omit [PyParse] in
theorem listsAll_aggregate {events : List CalendarEvent} {size limit total : ℕ}
    {reason : Termination} (hserved : ServedPages events size limit total reason)
    (resultAction : Action) :
    ListsAll events (size * limit) (aggregate resultAction
      ((List.range total).map fun i => pageAt events size (i * size)) reason) := by
  have hskipped : ∀ page ∈ (List.range total).map fun i => pageAt events size (i * size),
      page.skippedEventCount = 0 := by
    intro page hpage
    obtain ⟨i, -, rfl⟩ := List.mem_map.mp hpage
    rfl
  have hall : decide (reason = .exhausted ∧
      ∀ page ∈ (List.range total).map fun i => pageAt events size (i * size),
        page.skippedEventCount = 0) = decide (reason = .exhausted) := by
    rw [decide_eq_decide]
    exact and_iff_left hskipped
  have hcapacity : (reason = .exhausted ↔ events.length ≤ size * limit) ∧
      events.take (total * size) = events.take (size * limit) := by
    cases hserved with
    | exhausted hle hlength =>
      have hle' : total * size ≤ size * limit := by
        rw [Nat.mul_comm size limit]
        exact Nat.mul_le_mul_right size hle
      refine ⟨iff_of_true rfl (hlength.trans hle'), ?_⟩
      rw [List.take_of_length_le hlength, List.take_of_length_le (hlength.trans hle')]
    | pageLimit hlimit hlength =>
      subst hlimit
      rw [Nat.mul_comm size total]
      exact ⟨iff_of_false (by decide) (by omega), rfl⟩
  have hreason : terminationReason reason =
      if events.length ≤ size * limit then "exhausted" else "page_limit" := by
    rw [← if_congr hcapacity.1 rfl rfl]
    cases hserved <;> rfl
  have hdecide : decide (reason = .exhausted) = decide (events.length ≤ size * limit) :=
    decide_eq_decide.mpr hcapacity.1
  exact {
    succeeded := rfl
    listed := by
      simp [aggregate, OrderedDict.ofList, OrderedDict.update, OrderedDict.get_set, flatMap_pageAt,
        hcapacity.2]
    complete := by
      simp only [aggregate, OrderedDict.ofList, OrderedDict.update, List.foldl_cons, List.foldl_nil,
        hall, hdecide]
      simp [OrderedDict.get_set]
    reason := by
      simp [aggregate, OrderedDict.ofList, OrderedDict.update, hreason] }

/-- Bounded pagination is complete and terminates: the walk of a valid request, for
every behaviour of the page executor, and its result over the deterministic
transport with any number of well-formed events. -/
theorem pagination_complete (request : CalendarEventListOrchestrationRequest) (action : Action)
    (accountContext : Option WorkerAccountContext) (hrequest : IsWalkRequest request action) :
    (∀ (h : Handler PageCalls W) (w : W),
      BoundedWalk request action accountContext ((execute action accountContext).transcript h w)
        ((execute action accountContext).run h w).1) ∧
    ∀ (getCredentials : Option String → Option String → W →
        Except CredentialsRaised GoogleCredentials × W) (events : OrderedDict String CalendarEvent),
      Resolves getCredentials accountContext →
      (∀ event ∈ events.values, event.WellFormed) → ∀ w, ∃ result,
        ((execute action accountContext).run (fakePages getCredentials { events }) w).1 =
          .ok result ∧
        ListsAll events.values (request.maxResults.toNat * request.maxPages.toNat) result := by
  refine ⟨fun h w => boundedWalk_execute h w hrequest, ?_⟩
  intro getCredentials events hresolves hwell w
  have hstart : Underway CalendarPage.nextPageToken request.maxPages.toNat
      (fakeVisits events.values request.maxResults.toNat 0)
      (tokenAt (0 * request.maxResults.toNat)) := by
    rw [Nat.zero_mul]
    exact underway_nil
  obtain ⟨total, reason, hserved, hrun⟩ := @walk_fakePages _ W { events } request accountContext
    getCredentials hresolves rfl rfl hwell action 0 (by simp) hstart w
  refine ⟨_, ?_, listsAll_aggregate hserved (pageTokenRedactedAction action)⟩
  rw [execute_of_isWalkRequest hrequest]
  rw [Nat.zero_mul] at hrun
  exact hrun

end Fake

/-! ### An instance -/

namespace Sample

/-- A walk over a day in pages of one event, at most two of them. -/
def request : @CalendarEventListOrchestrationRequest PyParse.ascii :=
  letI := PyParse.ascii
  { timeMin := "2026-07-27T00:00:00Z"
    timeMax := "2026-07-28T00:00:00Z"
    maxResults := 1
    maxPages := 2
    isWindow := isWindow_day
    bounded := by decide
    boundedPages := by decide }

/-- The action that asks for it. -/
def action : Action where
  id := 0
  type := CALENDAR_LIST_EVENTS
  target := "primary"
  payload := .ofList [("time_min", .str "2026-07-27T00:00:00Z"),
    ("time_max", .str "2026-07-28T00:00:00Z"), ("max_results", .int 1), ("max_pages", .int 2)]

theorem isWalkRequest : @IsWalkRequest PyParse.ascii request action :=
  ⟨by decide, by decide, by decide, by decide, by decide⟩

def account : WorkerAccountContext where
  principal := some "owner"
  accountIdentifier := "calendar-account"

/-- The deterministic credentials provider. -/
def getCredentials (principal account : Option String) (w : Unit) :
    Except CredentialsRaised GoogleCredentials × Unit :=
  (({ service := "calendar" } : FakeGoogleCredentialsProvider).getCredentials principal account, w)

end Sample

/-- Two pages of one event do not hold three events. -/
theorem pagination_complete_of_three_events :
    letI := PyParse.ascii
    ∃ result, ((execute Sample.action (some Sample.account)).run (fakePages Sample.getCredentials {
        events := .ofList [("a", { eventId := "a", title := "A", start := "s", end_ := "e" }),
          ("b", { eventId := "b", title := "B", start := "s", end_ := "e" }),
          ("c", { eventId := "c", title := "C", start := "s", end_ := "e" })] }) ()).1 = .ok result ∧
      ListsAll [{ eventId := "a", title := "A", start := "s", end_ := "e" },
        { eventId := "b", title := "B", start := "s", end_ := "e" },
        { eventId := "c", title := "C", start := "s", end_ := "e" }] 2 result :=
  letI := PyParse.ascii
  (pagination_complete Sample.request Sample.action (some Sample.account)
    Sample.isWalkRequest).2 Sample.getCredentials _ (fun _ => ⟨_, _, rfl⟩) (by decide) ()

end CalendarEventListOrchestrator

end Velox
