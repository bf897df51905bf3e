import Velox.Integrations.CalendarExecutor
import Velox.Lib.CursorWalk

/-!
# The Calendar list orchestrator

A bounded walk over the pages of one window. Every page is one execution of the
single-page capability; the walk ends when the pages are exhausted, when the page
limit is reached, or when a page names a token that was requested already.

## Main definitions

* `PageCalls` — what the orchestrator asks of the page executor
* `acceptedPage` — the page of a result that is consistent
* `CalendarEventListOrchestrator.execute`
* `CalendarEventListOrchestrator.walk` — the loop
* `CalendarWorkerExecutor.pages` — the Calendar executor as the page executor

## Main results

* `CalendarEventListOrchestrator.walk_eq` — one round of the loop
-/

set_option autoImplicit false

namespace Velox

open CursorWalk (Termination)

/-- One execution asked of the page executor. -/
structure PageCall where
  action : Action
  capability : Option String
  accountContext : Option WorkerAccountContext

/-- What the orchestrator asks of the page executor. -/
@[reducible] def PageCalls : Signature where
  Call := PageCall
  Reply _ := Except Raised WorkerExecutionResult

/-- The Calendar executor over a provider, as the page executor. -/
def CalendarWorkerExecutor.pages [PyParse] {W : Type} (provider : Handler ProviderCalls W) :
    Handler PageCalls W := fun call w =>
  (CalendarWorkerExecutor.execute call.action call.capability call.accountContext).run provider w

/-! ### Pages -/

/-- One consistent page. -/
structure CalendarPage where
  events : List Value
  skippedEventCount : ℕ
  nextPageToken : Option String
  deriving DecidableEq

/-- `isinstance(value, dict)`. -/
def isDict : Value → Bool
  | .dict _ => true
  | _ => false

/-- The page in the metadata of a result; `none` where the metadata contradicts
itself. -/
def consistentPage (metadata : Dict) : Option CalendarPage := do
  let nextPageToken ← reportedPageToken (metadata.get "next_page_token")
  match metadata.get "events", metadata.get "event_count", metadata.get "skipped_event_count",
      metadata.get "page_complete", metadata.get "has_more_pages" with
  | some (.tuple events), some (.int eventCount), some (.int skippedEventCount),
      some (.bool pageComplete), some (.bool hasMorePages) =>
    if events.all isDict ∧ eventCount = events.length ∧ 0 ≤ skippedEventCount ∧
        pageComplete = decide (skippedEventCount = 0) ∧ hasMorePages = nextPageToken.isSome then
      some { events, skippedEventCount := skippedEventCount.toNat, nextPageToken }
    else none
  | _, _, _, _, _ => none

/-- The page of a result that succeeded and is consistent. -/
def acceptedPage (result : WorkerExecutionResult) : Option CalendarPage :=
  if result.status = .succeeded then consistentPage result.metadata else none

/-- What the metadata of a consistent page says. -/
theorem get_of_consistentPage {metadata : Dict} {page : CalendarPage}
    (h : consistentPage metadata = some page) :
    metadata.get "events" = some (.tuple page.events) ∧
      metadata.get "event_count" = some (.int page.events.length) ∧
      metadata.get "skipped_event_count" = some (.int page.skippedEventCount) ∧
      metadata.get "page_complete" = some (.bool (page.skippedEventCount = 0)) ∧
      reportedPageToken (metadata.get "next_page_token") = some page.nextPageToken := by
  unfold consistentPage at h
  obtain ⟨token, htoken, h⟩ := Option.bind_eq_some_iff.mp h
  split at h
  · next events count skipped complete more hevents hcount hskipped hcomplete hmore =>
    split_ifs at h with hconsistent
    obtain rfl := Option.some.inj h
    obtain ⟨-, rfl, hnonneg, rfl, rfl⟩ := hconsistent
    obtain ⟨n, rfl⟩ := Int.eq_ofNat_of_zero_le hnonneg
    refine ⟨hevents, hcount, hskipped, ?_, htoken⟩
    simpa using hcomplete
  · cases h

/-! ### The pages of the executor -/

/-- An event whose fields pass the checks of the executor. -/
def CalendarEvent.WellFormed (event : CalendarEvent) : Prop := Python.strip event.eventId ≠ ""

instance (event : CalendarEvent) : Decidable event.WellFormed :=
  inferInstanceAs (Decidable (_ ≠ _))

theorem mapM_text?_str (texts : List String) :
    texts.mapM (Value.text? ∘ Value.str) = some texts := by
  induction texts with
  | nil => rfl
  | cons text texts ih => simp [ih, Value.text?]

/-- The entries of a well-formed event are allowlisted as that event. -/
theorem allowlistedCalendarEvent_entries {event : CalendarEvent} (h : event.WellFormed) :
    allowlistedCalendarEvent (.dict event.entries) = some event := by
  have hid : Python.strip event.eventId ≠ "" := h
  simp [allowlistedCalendarEvent, CalendarEvent.entries, lookupEntry, Value.text?,
    Value.elements?, textList, mapM_text?_str, hid, Option.filter]

theorem mapM_allowlistedCalendarEvent {events : List CalendarEvent}
    (h : ∀ event ∈ events, event.WellFormed) :
    (events.map fun event => Value.dict event.entries).mapM allowlistedCalendarEvent =
      some events := by
  induction events with
  | nil => rfl
  | cons event events ih =>
    have hevent := allowlistedCalendarEvent_entries (h event List.mem_cons_self)
    have hevents := ih fun e he => h e (List.mem_cons_of_mem event he)
    simp [hevent, hevents]

theorem reportedPageToken_optionalText {token : Option String}
    (h : ∀ t ∈ token, Python.strip t ≠ "") :
    reportedPageToken (some (optionalText token)) = some token := by
  rcases token with _ | t
  · rfl
  · simp [optionalText, reportedPageToken, h t rfl]

/-- The metadata of a page is consistent, beside whatever else a result carries. -/
theorem consistentPage_update {base : Dict} {events : List CalendarEvent} {skipped : ℕ}
    {token : Option String} {body : Dict} (htoken : ∀ t ∈ token, Python.strip t ≠ "") :
    consistentPage (base.update (OrderedDict.ofList
      (pageMetadata events skipped token ++ fakeAdapter body)).entries) =
      some { events := events.map fun event => .dict event.entries
             skippedEventCount := skipped
             nextPageToken := token } := by
  have hdict : (events.map fun event => Value.dict event.entries).all isDict = true := by
    simp [isDict]
  have hreported := reportedPageToken_optionalText htoken
  simp only [consistentPage, OrderedDict.get_update_entries]
  by_cases hadapter : body.get "adapter" = some (.str "fake_transport") <;>
    simp [OrderedDict.ofList, OrderedDict.update, OrderedDict.get_set, pageMetadata, fakeAdapter,
      hadapter, hreported, hdict]

/-- A response that carries well-formed events, a count and a token or none becomes
a successful, consistent page with just these. -/
theorem acceptedPage_listResult [PyParse] {response : GoogleProviderResponse}
    {events : List CalendarEvent} {skipped : ℕ} (token : Option String)
    (hfailure : response.failure = none)
    (hevents : response.body.get "events" =
      some (.tuple (events.map fun event => .dict event.entries)))
    (hskipped : response.body.get "skipped_event_count" = some (.int skipped))
    (htoken : response.body.get "next_page_token" = some (optionalText token))
    (hwell : ∀ event ∈ events, event.WellFormed) (hblank : ∀ t ∈ token, Python.strip t ≠ "")
    (action : Action) (capability : String) (accountContext : Option WorkerAccountContext)
    (listRequest : CalendarEventListRequest) :
    acceptedPage (CalendarWorkerExecutor.listResult action capability accountContext listRequest
      response) = some { events := events.map fun event => .dict event.entries
                         skippedEventCount := skipped
                         nextPageToken := token } := by
  have hcapability : calendarEventListResult response = {
      status := .succeeded
      reason := some "calendar event list provider result"
      metadata := .ofList (pageMetadata events skipped token ++ fakeAdapter response.body) } := by
    have hpages : (response.body.get "events").bind Value.elements? =
        some (events.map fun event => .dict event.entries) := by rw [hevents]; rfl
    have hcount : (response.body.get "skipped_event_count").bind Value.integer? =
        some (skipped : ℤ) := by rw [hskipped]; rfl
    have hnonneg : ¬(skipped : ℤ) < 0 := by omega
    simp [calendarEventListResult, hpages, hcount, htoken, mapM_allowlistedCalendarEvent hwell,
      reportedPageToken_optionalText hblank, hnonneg]
  simp only [acceptedPage, CalendarWorkerExecutor.listResult, CalendarWorkerExecutor.providerResult,
    hfailure, CalendarWorkerExecutor.capabilityWorkerResult, hcapability, ne_eq, not_true_eq_false,
    if_false, if_true, consistentPage_update hblank]

namespace CalendarEventListOrchestrator

/-! ### Results -/

/-- The text of a reason to end. -/
def terminationReason : Termination → String
  | .exhausted => "exhausted"
  | .pageLimit => "page_limit"
  | .repeatedCursor => "repeated_page_token"

/-- `_request_failure`. -/
def requestFailure (action : Action) (fieldName : String)
    (reason : String := "calendar list orchestration does not accept page_token") :
    WorkerExecutionResult where
  action
  status := .failed
  reason := some reason
  failure := some {
    category := .permanent
    message := some reason
    metadata := .ofList [("field", .str fieldName)] }

/-- `_page_failure`. -/
def pageFailure (action : Action) (pageResult : WorkerExecutionResult) : WorkerExecutionResult :=
  let reason := (pageResult.reason.bind orNone).getD "calendar list orchestration page failed"
  { action
    status := .failed
    reason := some reason
    failure := some (pageResult.failure.getD { category := .internal, message := some reason }) }

/-- `_invalid_page_failure`. -/
def invalidPageFailure (action : Action) : WorkerExecutionResult :=
  let reason := "calendar list orchestrator received invalid page result"
  { action
    status := .failed
    reason := some reason
    failure := some { category := .internal, message := some reason } }

/-- What the loop has gathered, and the token of the page to ask for. -/
structure Walk where
  events : List Value := []
  pagesFetched : ℕ := 0
  skippedEventCount : ℕ := 0
  everyPageComplete : Bool := true
  seenPageTokens : List String := []
  pageToken : Option String := none

/-- The walk after one more page. -/
def Walk.extend (walk : Walk) (page : CalendarPage) : Walk :=
  { walk with
    events := walk.events ++ page.events
    pagesFetched := walk.pagesFetched + 1
    skippedEventCount := walk.skippedEventCount + page.skippedEventCount
    everyPageComplete := walk.everyPageComplete && decide (page.skippedEventCount = 0) }

/-- The result of a walk that ended. -/
def Walk.result (walk : Walk) (resultAction : Action) (reason : Termination) :
    WorkerExecutionResult where
  action := resultAction
  status := .succeeded
  reason := some "bounded calendar event list orchestration result"
  metadata := .ofList [("events", .tuple walk.events), ("event_count", .int walk.events.length),
    ("pages_fetched", .int walk.pagesFetched),
    ("skipped_event_count", .int walk.skippedEventCount),
    ("aggregate_complete", .bool (reason = .exhausted && walk.everyPageComplete)),
    ("termination_reason", .str (terminationReason reason))]

section Loop

variable [PyParse] (request : CalendarEventListOrchestrationRequest) (action : Action)
  (accountContext : Option WorkerAccountContext)

/-- The payload of the execution that reads one page. -/
def pagePayload (pageToken : Option String) : Dict :=
  let payload : Dict := .ofList [("time_min", .str request.timeMin),
    ("time_max", .str request.timeMax), ("max_results", .int request.maxResults)]
  match pageToken with
  | none => payload
  | some token => payload.set "page_token" (.str token)

/-- The execution that reads one page. -/
def pageCall (pageToken : Option String) : PageCall where
  action := { action with payload := pagePayload request pageToken }
  capability := some CALENDAR_LIST_EVENTS
  accountContext

/-- What the loop does with the result of a page: end, or go on. -/
def afterPage (walk : Walk) (pageResult : WorkerExecutionResult) : WorkerExecutionResult ⊕ Walk :=
  let resultAction := pageTokenRedactedAction action
  if pageResult.status ≠ .succeeded then .inl (pageFailure resultAction pageResult)
  else
    match consistentPage pageResult.metadata with
    | none => .inl (invalidPageFailure resultAction)
    | some page =>
      let walk := walk.extend page
      match page.nextPageToken with
      | none => .inl (walk.result resultAction .exhausted)
      | some token =>
        if walk.pagesFetched ≥ request.maxPages then .inl (walk.result resultAction .pageLimit)
        else if token ∈ walk.seenPageTokens then .inl (walk.result resultAction .repeatedCursor)
        else .inr { walk with
          seenPageTokens := walk.seenPageTokens ++ [token]
          pageToken := some token }

variable {request action}

/-- Going on takes a page, and leaves room for another. -/
theorem pagesFetched_of_afterPage {walk walk' : Walk} {pageResult : WorkerExecutionResult}
    (h : afterPage request action walk pageResult = .inr walk') :
    walk'.pagesFetched = walk.pagesFetched + 1 ∧ walk.pagesFetched + 1 < request.maxPages := by
  simp only [afterPage] at h
  split_ifs at h with hstatus
  split at h
  · cases h
  · split at h
    · cases h
    · split_ifs at h with hlimit hseen
      obtain rfl := Sum.inr.inj h
      refine ⟨rfl, ?_⟩
      simpa [Walk.extend] using hlimit

variable (request action)

/-- The loop of `execute`. -/
def walk (state : Walk) : Prog PageCalls (Except Raised WorkerExecutionResult) :=
  .call (F := PageCalls) (pageCall request action accountContext state.pageToken) fun
    | .error e => .ret (.error e)
    | .ok pageResult =>
      match _h : afterPage request action state pageResult with
      | .inl result => .ret (.ok result)
      | .inr state' => walk state'
termination_by request.maxPages.toNat - state.pagesFetched
decreasing_by
  have hstep := pagesFetched_of_afterPage _h
  omega

/-- One round of the loop. -/
theorem walk_eq (state : Walk) :
    walk request action accountContext state =
      .call (F := PageCalls) (pageCall request action accountContext state.pageToken) fun
        | .error e => .ret (.error e)
        | .ok pageResult =>
          match afterPage request action state pageResult with
          | .inl result => .ret (.ok result)
          | .inr state' => walk request action accountContext state' := by
  rw [walk]
  congr 1
  funext reply
  rcases reply with e | pageResult
  · rfl
  · dsimp only
    split
    · next result hafter => rw [hafter]
    · next state' hafter => rw [hafter]

end Loop

/-- `execute`: walk from page one until exhaustion or a bounded safety condition. -/
def execute [PyParse] (action : Action) (accountContext : Option WorkerAccountContext) :
    Prog PageCalls (Except Raised WorkerExecutionResult) :=
  let resultAction := pageTokenRedactedAction action
  if action.payload.contains "page_token" then .ret (.ok (requestFailure resultAction "page_token"))
  else
    match CalendarEventListOrchestrationRequest.new ((action.payload.get "time_min").getD .none)
        ((action.payload.get "time_max").getD .none) ((action.payload.get "max_results").getD .none)
        ((action.payload.get "max_pages").getD .none) with
    | .error error => .ret (.ok (requestFailure resultAction error.field error.message))
    | .ok request => walk request action accountContext {}

end CalendarEventListOrchestrator

end Velox
