import Velox.Integrations.CalendarPagination
import Velox.Lib.Coupling

/-!
# Page tokens are opaque and confined

Two providers that differ only in the names of their continuation tokens cannot be
told apart by the orchestrator, and the single-page results over them differ only in
the token they report.

## Main definitions

* `TokenRenaming` — an injective map between page tokens
* `TokenRenaming.request`, `TokenRenaming.response`, `TokenRenaming.action`,
  `TokenRenaming.result` — the same with its page token renamed
* `RenamedProvider` — two providers that differ by a renaming

## Main results

* `TokenRenaming.listResult_renamed` — one page over a renamed response
* `TokenRenaming.coupled_execute` — the orchestrator goes side by side with itself
* `tokens_confined` — the results over two such providers
-/

set_option autoImplicit false

namespace Velox

/-- An injective map between non-blank unpadded strings. -/
structure TokenRenaming where
  map : String → String
  injective : ∀ s t, IsPageToken s → IsPageToken t → map s = map t → s = t
  isPageToken : ∀ s, IsPageToken s → IsPageToken (map s)

namespace TokenRenaming

variable (ρ : TokenRenaming)

/-- Rename a page token; any other text stays as it is. -/
def rename (s : String) : String := if IsPageToken s then ρ.map s else s

variable {ρ}

theorem isPageToken_rename_iff {s : String} : IsPageToken (ρ.rename s) ↔ IsPageToken s := by
  unfold rename
  split_ifs with hs
  · exact iff_of_true (ρ.isPageToken s hs) hs
  · exact Iff.rfl

theorem rename_injective : Function.Injective ρ.rename := by
  intro s t h
  have hsame : IsPageToken s ↔ IsPageToken t := by
    rw [← @isPageToken_rename_iff ρ s, h, isPageToken_rename_iff]
  by_cases hs : IsPageToken s
  · have ht := hsame.mp hs
    rw [rename, rename, if_pos hs, if_pos ht] at h
    exact ρ.injective s t hs ht h
  · have ht := fun ht => hs (hsame.mpr ht)
    rwa [rename, rename, if_neg hs, if_neg ht] at h

/-- A renamed token is blank exactly when the token is. -/
theorem strip_rename_eq_empty_iff {s : String} :
    Python.strip (ρ.rename s) = "" ↔ Python.strip s = "" := by
  by_cases hs : IsPageToken s
  · have hr : IsPageToken (ρ.rename s) := isPageToken_rename_iff.mpr hs
    rw [hs.2, hr.2]
    exact iff_of_false hr.1 hs.1
  · rw [rename, if_neg hs]

variable (ρ)

/-- Rename a token where it is the value of a dictionary. -/
def value : Value → Value
  | .str s => .str (ρ.rename s)
  | v => v

/-- Rename the token under a key of a dictionary. -/
def entry (key : String) (d : Dict) : Dict :=
  match d.get key with
  | some v => d.set key (ρ.value v)
  | none => d

/-- The request with its page token renamed. -/
def request (request : GoogleProviderRequest) : GoogleProviderRequest :=
  { request with query := ρ.entry "pageToken" request.query }

/-- The response with its continuation token renamed. -/
def response (response : GoogleProviderResponse) : GoogleProviderResponse :=
  { response with body := ρ.entry "next_page_token" response.body }

/-- The action with its page token renamed. -/
def action (action : Action) : Action :=
  { action with payload := ρ.entry "page_token" action.payload }

/-- The result with the token it reports renamed. -/
def result (result : WorkerExecutionResult) : WorkerExecutionResult :=
  { result with metadata := ρ.entry "next_page_token" result.metadata }

variable {ρ} {key : String} {d : Dict}

theorem get_entry_self : (ρ.entry key d).get key = (d.get key).map ρ.value := by
  unfold entry
  rcases h : d.get key with _ | v
  · exact h
  · exact OrderedDict.get_set_self

theorem entry_of_get_eq_none (h : d.get key = none) : ρ.entry key d = d := by
  unfold entry
  rw [h]

theorem entry_of_get_eq_some {v : Value} (h : d.get key = some v) :
    ρ.entry key d = d.set key (ρ.value v) := by
  unfold entry
  rw [h]

theorem get_entry_of_ne {key' : String} (h : key' ≠ key) :
    (ρ.entry key d).get key' = d.get key' := by
  unfold entry
  rcases d.get key with _ | v
  · rfl
  · exact OrderedDict.get_set_of_ne h

/-- Overwriting the token forgets its name. -/
theorem set_entry (v : Value) (h : (d.get key).isSome) :
    (ρ.entry key d).set key v = d.set key v := by
  unfold entry
  obtain ⟨v₀, hv₀⟩ := Option.isSome_iff_exists.mp h
  rw [hv₀]
  exact OrderedDict.set_set

theorem contains_entry {key' : String} : (ρ.entry key d).contains key' = d.contains key' := by
  unfold OrderedDict.contains
  by_cases h : key' = key
  · rw [h, get_entry_self, Option.isSome_map]
  · rw [get_entry_of_ne h]

/-- The entries of a dictionary, seen through a function that does not look at the
token, are the same. -/
theorem map_entries_entry {α : Type} {f : String × Value → α}
    (hf : ∀ v v', f (key, v) = f (key, v')) : (ρ.entry key d).entries.map f = d.entries.map f := by
  unfold entry
  rcases h : d.get key with _ | v
  · rfl
  · rw [OrderedDict.entries_set_of_get_eq_some h, List.map_map]
    refine List.map_congr_left fun e _ => ?_
    simp only [Function.comp_apply]
    split_ifs with hkey
    · obtain ⟨k, u⟩ := e
      obtain rfl : k = key := hkey
      exact hf _ _
    · rfl

/-! ### One page -/

/-- A token is reported under its new name. -/
theorem reportedPageToken_value {v : Option Value} :
    reportedPageToken (v.map ρ.value) = (reportedPageToken v).map (Option.map ρ.rename) := by
  rcases v with _ | v
  · rfl
  · cases v with
    | str token =>
      by_cases h : Python.strip token = ""
      · have h' : Python.strip (ρ.rename token) = "" := strip_rename_eq_empty_iff.mpr h
        simp [value, reportedPageToken, h, h']
      · have h' : ¬Python.strip (ρ.rename token) = "" :=
          fun hr => h (strip_rename_eq_empty_iff.mp hr)
        simp [value, reportedPageToken, h, h']
    | _ => rfl

/-- Whatever a page says, it says the same about its events over a renamed token. -/
theorem calendarEventListResult_response (response : GoogleProviderResponse) :
    (calendarEventListResult response = invalidEventData
        "calendar provider returned invalid event list data" ∧
      calendarEventListResult (ρ.response response) = calendarEventListResult response) ∨
    ∃ events skipped token,
      calendarEventListResult response = {
        status := .succeeded
        reason := some "calendar event list provider result"
        metadata := .ofList (pageMetadata events skipped token ++ fakeAdapter response.body) } ∧
      calendarEventListResult (ρ.response response) = {
        status := .succeeded
        reason := some "calendar event list provider result"
        metadata := .ofList (pageMetadata events skipped (token.map ρ.rename) ++
          fakeAdapter response.body) } := by
  have hevents : (ρ.response response).body.get "events" = response.body.get "events" :=
    get_entry_of_ne (by decide)
  have hskipped : (ρ.response response).body.get "skipped_event_count" =
      response.body.get "skipped_event_count" := get_entry_of_ne (by decide)
  have hadapter : fakeAdapter (ρ.response response).body = fakeAdapter response.body := by
    have hget : (ρ.response response).body.get "adapter" = response.body.get "adapter" :=
      get_entry_of_ne (by decide)
    simp only [fakeAdapter, hget]
  have htoken : reportedPageToken ((ρ.response response).body.get "next_page_token") =
      (reportedPageToken (response.body.get "next_page_token")).map (Option.map ρ.rename) := by
    rw [TokenRenaming.response, get_entry_self, reportedPageToken_value]
  simp only [calendarEventListResult, hevents, hskipped, hadapter, htoken]
  rcases (response.body.get "events").bind Value.elements? with _ | values
  · exact Or.inl ⟨rfl, rfl⟩
  rcases hmap : values.mapM allowlistedCalendarEvent with _ | events
  · exact Or.inl (by simp [hmap])
  rcases (response.body.get "skipped_event_count").bind Value.integer? with _ | skipped
  · exact Or.inl (by simp)
  rcases reportedPageToken (response.body.get "next_page_token") with _ | token
  · exact Or.inl (by simp)
  by_cases hnegative : skipped < 0
  · exact Or.inl (by simp [hnegative])
  · exact Or.inr ⟨events, skipped, token, by simp [hmap, hnegative], by simp [hmap, hnegative]⟩

/-- The mirror of a request does not show its token. -/
theorem calendarProviderRequestMetadata_request (request : GoogleProviderRequest) :
    calendarProviderRequestMetadata (ρ.request request) =
      calendarProviderRequestMetadata request := by
  have hquery : (ρ.request request).query.entries.map (fun entry =>
        (entry.1, if entry.1 = "pageToken" then redactedQueryValue else entry.2)) =
      request.query.entries.map fun entry =>
        (entry.1, if entry.1 = "pageToken" then redactedQueryValue else entry.2) :=
    map_entries_entry fun v v' => rfl
  rw [calendarProviderRequestMetadata, hquery]
  rfl

/-- Nor does the mirror of a response. -/
theorem calendarProviderResponseMetadata_response (response : GoogleProviderResponse) :
    calendarProviderResponseMetadata (ρ.response response) =
      calendarProviderResponseMetadata response := by
  have hget : ∀ key ≠ "next_page_token",
      (ρ.response response).body.get key = response.body.get key := fun key => get_entry_of_ne
  simp only [calendarProviderResponseMetadata, hget "external_execution_performed" (by decide),
    hget "integration" (by decide), hget "adapter" (by decide), hget "failed" (by decide)]

/-- The action in a result does not show its token. -/
theorem pageTokenRedactedAction_action (a : Action) :
    pageTokenRedactedAction (ρ.action a) = pageTokenRedactedAction a := by
  have hcontains : (ρ.action a).payload.contains "page_token" = a.payload.contains "page_token" :=
    contains_entry
  unfold pageTokenRedactedAction
  rw [hcontains]
  split_ifs with h
  · have hset : (ρ.action a).payload.set "page_token" redactedQueryValue =
      a.payload.set "page_token" redactedQueryValue := set_entry _ h
    rw [hset]
    rfl
  · have hnone : a.payload.get "page_token" = none := by
      simpa [OrderedDict.contains] using h
    simp [TokenRenaming.action, entry, hnone]

section Requests

variable [PyParse]

/-- The list request with its page token renamed. -/
def listRequest (ρ : TokenRenaming) (r : CalendarEventListRequest) : CalendarEventListRequest :=
  { r with
    pageToken := r.pageToken.map ρ.rename
    isPageToken := by
      intro t ht
      obtain ⟨s, hs, rfl⟩ := Option.map_eq_some_iff.mp ht
      exact isPageToken_rename_iff.mpr (r.isPageToken s hs) }

omit [PyParse] in
theorem value_optionalText (token : Option String) :
    ρ.value (optionalText token) = optionalText (token.map ρ.rename) := by
  cases token <;> rfl

/-- A request is accepted under a renamed token exactly when it is under the token,
and rejected with the same error. -/
theorem new_value (timeMin timeMax maxResults pageToken : Value) :
    CalendarEventListRequest.new timeMin timeMax maxResults (ρ.value pageToken) =
      (CalendarEventListRequest.new timeMin timeMax maxResults pageToken).map ρ.listRequest := by
  have hcheck : checkPageToken (ρ.value pageToken) = checkPageToken pageToken := by
    cases pageToken with
    | str token =>
      have hbad : (ρ.rename token = "" ∨ ρ.rename token ≠ Python.strip (ρ.rename token)) ↔
          (token = "" ∨ token ≠ Python.strip token) := by
        have hiff := (@isPageToken_rename_iff ρ token).not
        simpa only [IsPageToken, not_and_or, not_not, ne_eq, eq_comm] using hiff
      simp only [value, checkPageToken, Except.raiseIf, hbad]
    | _ => rfl
  have hpost : CalendarEventListRequest.postInit timeMin timeMax maxResults (ρ.value pageToken) =
      CalendarEventListRequest.postInit timeMin timeMax maxResults pageToken := by
    simp only [CalendarEventListRequest.postInit, hcheck]
  rcases hnew : CalendarEventListRequest.new timeMin timeMax maxResults pageToken with e | r
  · unfold CalendarEventListRequest.new at hnew ⊢
    split at hnew
    · next e' herror =>
      obtain rfl := Except.error.inj hnew
      split
      · next e'' herror' =>
        rw [hpost, herror] at herror'
        exact congrArg _ (Except.error.inj herror').symm
      · next hok =>
        rw [hpost, herror] at hok
        cases hok
    · cases hnew
  · obtain ⟨rfl, rfl, rfl, rfl⟩ := CalendarEventListRequest.new_eq_ok_iff.mp hnew
    exact CalendarEventListRequest.new_eq_ok_iff.mpr ⟨rfl, rfl, rfl, value_optionalText _⟩

theorem listRequestOf_action (a : Action) :
    CalendarWorkerExecutor.listRequestOf (ρ.action a) =
      (CalendarWorkerExecutor.listRequestOf a).map ρ.listRequest := by
  have hget : ∀ key ≠ "page_token", (ρ.action a).payload.get key = a.payload.get key :=
    fun key => get_entry_of_ne
  have htoken : ((ρ.action a).payload.get "page_token").getD .none =
      ρ.value ((a.payload.get "page_token").getD .none) := by
    rw [TokenRenaming.action, get_entry_self]
    cases a.payload.get "page_token" <;> rfl
  rw [CalendarWorkerExecutor.listRequestOf, hget "time_min" (by decide),
    hget "time_max" (by decide), hget "max_results" (by decide), htoken, new_value]
  rfl

theorem listProviderRequest_listRequest (capability : String)
    (accountContext : Option WorkerAccountContext) (r : CalendarEventListRequest) :
    CalendarWorkerExecutor.listProviderRequest capability accountContext (ρ.listRequest r) =
      ρ.request (CalendarWorkerExecutor.listProviderRequest capability accountContext r) := by
  have hquery : (ρ.listRequest r).asQuery = ρ.entry "pageToken" r.asQuery := by
    rw [entry, CalendarEventListRequest.get_asQuery_pageToken]
    obtain ⟨timeMin, timeMax, maxResults, pageToken, _, _, _⟩ := r
    cases pageToken with
    | none => rfl
    | some token => exact OrderedDict.set_set.symm
  simp only [CalendarWorkerExecutor.listProviderRequest, hquery, request]

/-- The mirrors in the metadata of a page do not show the token. -/
theorem resultMetadata_renamed (response : GoogleProviderResponse) (capability : String)
    (accountContext : Option WorkerAccountContext) (r : CalendarEventListRequest) :
    CalendarWorkerExecutor.resultMetadata (ρ.response response)
        (CalendarWorkerExecutor.listProviderRequest capability accountContext (ρ.listRequest r))
        capability accountContext (CalendarWorkerExecutor.listExtra (ρ.listRequest r)) =
      CalendarWorkerExecutor.resultMetadata response
        (CalendarWorkerExecutor.listProviderRequest capability accountContext r) capability
        accountContext (CalendarWorkerExecutor.listExtra r) := by
  have hexternal : (ρ.response response).body.get "external_execution_performed" =
      response.body.get "external_execution_performed" := get_entry_of_ne (by decide)
  have hextra : CalendarWorkerExecutor.listExtra (ρ.listRequest r) =
      CalendarWorkerExecutor.listExtra r := by
    simp [CalendarWorkerExecutor.listExtra, listRequest]
  rw [listProviderRequest_listRequest, CalendarWorkerExecutor.resultMetadata, hexternal, hextra,
    calendarProviderRequestMetadata_request, calendarProviderResponseMetadata_response]
  rfl

/-- The keys of a result before the page is added. -/
theorem keys_resultMetadata (response : GoogleProviderResponse) (request : GoogleProviderRequest)
    (capability : String) (accountContext : Option WorkerAccountContext)
    (r : CalendarEventListRequest) :
    (CalendarWorkerExecutor.resultMetadata response request capability accountContext
      (CalendarWorkerExecutor.listExtra r)).keys =
      ["external_execution_performed", "integration", "capability", "time_min", "time_max",
        "max_results", "page_token_supplied", "account_context_used", "provider_request",
        "provider_response"] := by
  rw [OrderedDict.keys, CalendarWorkerExecutor.resultMetadata, OrderedDict.entries_ofList]
  · rfl
  · simp [CalendarWorkerExecutor.listExtra]

omit [PyParse] in
theorem entries_pageMetadata (events : List CalendarEvent) (skipped : ℤ) (token : Option String)
    (body : Dict) : (OrderedDict.ofList
      (pageMetadata events skipped token ++ fakeAdapter body)).entries =
        pageMetadata events skipped token ++ fakeAdapter body := by
  refine OrderedDict.entries_ofList ?_
  unfold fakeAdapter
  split_ifs <;> simp [pageMetadata]

/-- A page reports its token under the new name, where the old one stood. -/
theorem update_pageMetadata (response : GoogleProviderResponse) (request : GoogleProviderRequest)
    (capability : String) (accountContext : Option WorkerAccountContext)
    (r : CalendarEventListRequest) (events : List CalendarEvent) (skipped : ℤ)
    (token : Option String) :
    (CalendarWorkerExecutor.resultMetadata response request capability accountContext
        (CalendarWorkerExecutor.listExtra r)).update (OrderedDict.ofList
          (pageMetadata events skipped (token.map ρ.rename) ++ fakeAdapter response.body)).entries =
      ρ.entry "next_page_token" ((CalendarWorkerExecutor.resultMetadata response request capability
        accountContext (CalendarWorkerExecutor.listExtra r)).update (OrderedDict.ofList
          (pageMetadata events skipped token ++ fakeAdapter response.body)).entries) := by
  have hget : ((CalendarWorkerExecutor.resultMetadata response request capability
      accountContext (CalendarWorkerExecutor.listExtra r)).update (OrderedDict.ofList
        (pageMetadata events skipped token ++ fakeAdapter response.body)).entries).get
          "next_page_token" = some (optionalText token) := by
    rw [OrderedDict.get_update_entries, OrderedDict.get, entries_pageMetadata]
    simp [pageMetadata]
  have hnodup : ((CalendarWorkerExecutor.resultMetadata response request capability accountContext
      (CalendarWorkerExecutor.listExtra r)).keys ++
        (pageMetadata events skipped token ++ fakeAdapter response.body).map Prod.fst).Nodup := by
    rw [keys_resultMetadata]
    unfold fakeAdapter
    split_ifs <;> simp [pageMetadata]
  rw [entry_of_get_eq_some hget, value_optionalText, entries_pageMetadata, entries_pageMetadata,
    OrderedDict.set_update hnodup (by simp [pageMetadata])]
  congr 1
  unfold fakeAdapter
  split_ifs <;> simp [pageMetadata]

/-- The result of a page over a renamed token and a renamed response is the result
of the page, with the token it reports renamed. -/
theorem listResult_renamed (a : Action) (capability : String)
    (accountContext : Option WorkerAccountContext) (r : CalendarEventListRequest)
    (response : GoogleProviderResponse) :
    CalendarWorkerExecutor.listResult (ρ.action a) capability accountContext (ρ.listRequest r)
        (ρ.response response) =
      ρ.result (CalendarWorkerExecutor.listResult a capability accountContext r response) := by
  -- without a page there is no token to rename
  have hunchanged : ρ.entry "next_page_token" (CalendarWorkerExecutor.resultMetadata response
      (CalendarWorkerExecutor.listProviderRequest capability accountContext r) capability
      accountContext (CalendarWorkerExecutor.listExtra r)) =
      CalendarWorkerExecutor.resultMetadata response
        (CalendarWorkerExecutor.listProviderRequest capability accountContext r) capability
        accountContext (CalendarWorkerExecutor.listExtra r) := by
    refine entry_of_get_eq_none (OrderedDict.get_eq_none_iff.mpr ?_)
    rw [keys_resultMetadata]
    decide
  unfold CalendarWorkerExecutor.listResult CalendarWorkerExecutor.providerResult
  rw [pageTokenRedactedAction_action, resultMetadata_renamed]
  have hfailure : (ρ.response response).failure = response.failure := rfl
  rw [hfailure]
  rcases response.failure with _ | failure
  · rcases @calendarEventListResult_response ρ response with
      ⟨hinvalid, hsame⟩ | ⟨events, skipped, token, hpage, hrenamed⟩
    · simp only [hsame, hinvalid]
      simp only [CalendarWorkerExecutor.capabilityWorkerResult, invalidEventData, result,
        reduceCtorEq, not_false_eq_true, ne_eq, if_true, hunchanged, TokenRenaming.response]
    · simp only [hpage, hrenamed, CalendarWorkerExecutor.capabilityWorkerResult, ne_eq,
        not_true_eq_false, if_false, result, update_pageMetadata]
  · simp only [CalendarWorkerExecutor.providerFailureResult, result, hunchanged,
      TokenRenaming.response]

/-! ### The walk -/

omit [PyParse] in
theorem consistentPage_entry (metadata : Dict) :
    consistentPage (ρ.entry "next_page_token" metadata) =
      (consistentPage metadata).map fun page =>
        { page with nextPageToken := page.nextPageToken.map ρ.rename } := by
  have hget : ∀ key ≠ "next_page_token",
      (ρ.entry "next_page_token" metadata).get key = metadata.get key := fun key => get_entry_of_ne
  simp only [consistentPage, get_entry_self, reportedPageToken_value, hget "events" (by decide),
    hget "event_count" (by decide), hget "skipped_event_count" (by decide),
    hget "page_complete" (by decide), hget "has_more_pages" (by decide)]
  rcases reportedPageToken (metadata.get "next_page_token") with _ | token
  · rfl
  · simp only [Option.map_some, Option.bind_eq_bind, Option.bind_some, Option.isSome_map]
    split
    · split_ifs <;> rfl
    · rfl

open CalendarEventListOrchestrator

omit [PyParse] in
/-- The state of the loop with its tokens renamed. -/
def walk (ρ : TokenRenaming) (walk : Walk) : Walk :=
  { walk with
    seenPageTokens := walk.seenPageTokens.map ρ.rename
    pageToken := walk.pageToken.map ρ.rename }

/-- The loop does the same with a renamed page. -/
theorem afterPage_renamed (request : CalendarEventListOrchestrationRequest) (a : Action)
    (state : Walk) (pageResult : WorkerExecutionResult) :
    afterPage request a (ρ.walk state) (ρ.result pageResult) =
      (afterPage request a state pageResult).map id ρ.walk := by
  have hstatus : (ρ.result pageResult).status = pageResult.status := rfl
  have hfailure : ∀ action, pageFailure action (ρ.result pageResult) =
      pageFailure action pageResult := fun action => rfl
  have hmetadata : (ρ.result pageResult).metadata =
      ρ.entry "next_page_token" pageResult.metadata := rfl
  unfold afterPage
  rw [hstatus, hmetadata, consistentPage_entry]
  by_cases hsucceeded : pageResult.status = .succeeded
  · rcases consistentPage pageResult.metadata with _ | page
    · simp [hsucceeded]
    · rcases hnext : page.nextPageToken with _ | token
      · simp only [hsucceeded, ne_eq, not_true_eq_false, if_false, Option.map_some, hnext]
        rfl
      · -- a token was seen exactly when its new name was
        have hseen : ρ.rename token ∈ ((ρ.walk state).extend
            { page with nextPageToken := some (ρ.rename token) }).seenPageTokens ↔
              token ∈ (state.extend page).seenPageTokens := by
          simp only [walk, Walk.extend, List.mem_map]
          constructor
          · rintro ⟨s, hs, hsame⟩
            exact rename_injective hsame ▸ hs
          · exact fun hmem => ⟨token, hmem, rfl⟩
        have hfetched : ((ρ.walk state).extend
            { page with nextPageToken := some (ρ.rename token) }).pagesFetched =
              (state.extend page).pagesFetched := rfl
        simp only [hsucceeded, ne_eq, not_true_eq_false, if_false, Option.map_some, hnext, hseen,
          hfetched]
        split_ifs
        · rfl
        · rfl
        · simp [walk, Walk.extend]
  · simp [hsucceeded, hfailure]

/-- The call that asks for a page under a renamed token. -/
def call (ρ : TokenRenaming) (call : PageCall) : PageCall :=
  { call with action := ρ.action call.action }

theorem pageCall_renamed (request : CalendarEventListOrchestrationRequest) (a : Action)
    (accountContext : Option WorkerAccountContext) (token : Option String) :
    pageCall request a accountContext (token.map ρ.rename) =
      ρ.call (pageCall request a accountContext token) := by
  have hpayload : pagePayload request (token.map ρ.rename) =
      ρ.entry "page_token" (pagePayload request token) := by
    cases token with
    | none => rfl
    | some token =>
      rw [entry_of_get_eq_some (v := .str token) (by simp [pagePayload])]
      exact OrderedDict.set_set.symm
  simp only [pageCall, hpayload, call, TokenRenaming.action]

/-- The second asks for the page of the first, under its renamed token. -/
def Asks (ρ : TokenRenaming) (c d : PageCalls.Call) : Prop :=
  c.capability = some CALENDAR_LIST_EVENTS ∧ d = ρ.call c

/-- The second is given the page of the first, with its token renamed. -/
def Replies (ρ : TokenRenaming) (c d : PageCalls.Call) (r : PageCalls.Reply c)
    (s : PageCalls.Reply d) : Prop := s = Except.map ρ.result r

/-- The walk goes side by side with itself over renamed pages. -/
theorem coupled_walk (request : CalendarEventListOrchestrationRequest) (a : Action)
    (accountContext : Option WorkerAccountContext) (state : Walk) :
    Prog.Coupled ρ.Asks ρ.Replies Eq
      (CalendarEventListOrchestrator.walk request a accountContext state)
      (CalendarEventListOrchestrator.walk request a accountContext (ρ.walk state)) := by
  induction hroom : request.maxPages.toNat - state.pagesFetched using Nat.strong_induction_on
    generalizing state with
  | _ room ih =>
    rw [walk_eq, walk_eq]
    refine ⟨⟨rfl, pageCall_renamed request a accountContext state.pageToken⟩, ?_⟩
    rintro (e | pageResult) s rfl
    · rfl
    · simp only [Except.map, afterPage_renamed]
      rcases hafter : afterPage request a state pageResult with result | state'
      · rfl
      · have hstep := pagesFetched_of_afterPage hafter
        exact ih _ (by omega) state' rfl

/-- So does the orchestrator: its own action carries no token. -/
theorem coupled_execute (a : Action) (accountContext : Option WorkerAccountContext) :
    Prog.Coupled ρ.Asks ρ.Replies Eq (CalendarEventListOrchestrator.execute a accountContext)
      (CalendarEventListOrchestrator.execute a accountContext) := by
  simp only [CalendarEventListOrchestrator.execute]
  split_ifs
  · rfl
  · split
    · rfl
    · exact coupled_walk _ a accountContext {}

end Requests

end TokenRenaming

/-! ### Two providers -/

section Providers

variable {W V : Type} {ρ : TokenRenaming} {R : W → V → Prop}

/-- In related worlds the second provider answers a request under a renamed token
with the response of the first, its token renamed. -/
def RenamedProvider (ρ : TokenRenaming) (R : W → V → Prop) (p : Handler ProviderCalls W)
    (q : Handler ProviderCalls V) : Prop :=
  ∀ request w v, R w v →
    (q (ρ.request request) v).1 = (p request w).1.map ρ.response ∧
      R (p request w).2 (q (ρ.request request) v).2

variable {p : Handler ProviderCalls W} {q : Handler ProviderCalls V} [PyParse]

/-- The list capability, under whichever name it was asked for. -/
theorem execute_of_resolved {a : Action} {capability : Option String}
    (hlist : (capability.bind orNone).getD a.type = CALENDAR_LIST_EVENTS)
    (accountContext : Option WorkerAccountContext) :
    CalendarWorkerExecutor.execute a capability accountContext =
      CalendarWorkerExecutor.executeListProviderRequest a CALENDAR_LIST_EVENTS
        accountContext := by
  rw [← CalendarWorkerExecutor.execute_list]
  simp only [CalendarWorkerExecutor.execute, hlist]
  rfl

/-- One page over two such providers: the same, but for the token it reports. -/
theorem page_renamed (h : RenamedProvider ρ R p q) (a : Action)
    (accountContext : Option WorkerAccountContext) {w : W} {v : V} (hR : R w v) :
    ((CalendarWorkerExecutor.executeListProviderRequest (ρ.action a) CALENDAR_LIST_EVENTS
        accountContext).run q v).1 =
      ((CalendarWorkerExecutor.executeListProviderRequest a CALENDAR_LIST_EVENTS
        accountContext).run p w).1.map ρ.result ∧
    R ((CalendarWorkerExecutor.executeListProviderRequest a CALENDAR_LIST_EVENTS
        accountContext).run p w).2
      ((CalendarWorkerExecutor.executeListProviderRequest (ρ.action a) CALENDAR_LIST_EVENTS
        accountContext).run q v).2 := by
  unfold CalendarWorkerExecutor.executeListProviderRequest
  rw [TokenRenaming.listRequestOf_action]
  rcases CalendarWorkerExecutor.listRequestOf a with error | listRequest
  · -- rejected before the provider is asked
    simp only [Except.map, Prog.run_ret, TokenRenaming.pageTokenRedactedAction_action]
    exact ⟨rfl, hR⟩
  · have hreply := h (CalendarWorkerExecutor.listProviderRequest CALENDAR_LIST_EVENTS
      accountContext listRequest) w v hR
    rw [← TokenRenaming.listProviderRequest_listRequest] at hreply
    refine ⟨?_, hreply.2⟩
    have hresult := @TokenRenaming.listResult_renamed ρ _ a CALENDAR_LIST_EVENTS accountContext
      listRequest
    simp only [CalendarWorkerExecutor.askProvider, Except.map, Prog.run_call, Prog.run_ret]
    rw [hreply.1]
    cases (p (CalendarWorkerExecutor.listProviderRequest CALENDAR_LIST_EVENTS accountContext
      listRequest) w).1 with
    | error e => rfl
    | ok response => exact congrArg _ (hresult response)

/-- Page tokens are opaque and confined: over two providers that differ only in the
names of their tokens, the orchestrator returns the same, and a single page under a
renamed token differs only in the token it reports. -/
theorem tokens_confined (h : RenamedProvider ρ R p q) (action : Action)
    (accountContext : Option WorkerAccountContext) {w : W} {v : V} (hR : R w v) :
    ((CalendarEventListOrchestrator.execute action accountContext).run
        (CalendarWorkerExecutor.pages q) v).1 =
      ((CalendarEventListOrchestrator.execute action accountContext).run
        (CalendarWorkerExecutor.pages p) w).1 ∧
    ∀ capability : Option String,
      (capability.bind orNone).getD action.type = CALENDAR_LIST_EVENTS →
        ((CalendarWorkerExecutor.execute (ρ.action action) capability accountContext).run q v).1 =
          ((CalendarWorkerExecutor.execute action capability accountContext).run p w).1.map
            ρ.result := by
  constructor
  · have hcoupled := @TokenRenaming.coupled_execute ρ _ action accountContext
    refine (Prog.Coupled.run ?_ hcoupled hR).1.symm
    rintro ⟨pageAction, capability, account⟩ _ w v ⟨rfl, rfl⟩ hR
    have hpage := page_renamed h pageAction account hR
    simp only [CalendarWorkerExecutor.pages, TokenRenaming.call, TokenRenaming.Replies,
      CalendarWorkerExecutor.execute_list]
    exact hpage
  · intro capability hlist
    rw [execute_of_resolved hlist, execute_of_resolved (a := ρ.action action) hlist]
    exact (page_renamed h action accountContext hR).1

end Providers

/-! ### An instance -/

namespace TokenSample

/-- Two tokens change places. -/
def swap : TokenRenaming where
  map := Equiv.swap "a" "b"
  injective s t _ _ h := (Equiv.swap "a" "b").injective h
  isPageToken s hs := by
    by_cases ha : s = "a"
    · rw [ha, Equiv.swap_apply_left]
      decide
    · by_cases hb : s = "b"
      · rw [hb, Equiv.swap_apply_right]
        decide
      · rwa [Equiv.swap_apply_of_ne_of_ne ha hb]

/-- A provider that always has one more page, under the same token. -/
def provider (token : String) : Handler ProviderCalls Unit := fun _ w =>
  (.ok {
    statusCode := 200
    body := .ofList [("events", .tuple []), ("skipped_event_count", .int 0),
      ("next_page_token", .str token)] }, w)

theorem renamedProvider : RenamedProvider swap (fun _ _ => True) (provider "a") (provider "b") := by
  intro request w v _
  have hrename : swap.rename "a" = "b" := by
    rw [TokenRenaming.rename, if_pos (by decide)]
    exact Equiv.swap_apply_left "a" "b"
  have hget : (OrderedDict.ofList [("events", Value.tuple []), ("skipped_event_count", .int 0),
      ("next_page_token", .str "a")]).get "next_page_token" = some (.str "a") := by decide
  simp only [provider, Except.map, TokenRenaming.response, TokenRenaming.entry_of_get_eq_some hget,
    TokenRenaming.value, hrename, and_true]
  rfl

end TokenSample

/-- Over a provider that repeats one token, a walk does not show which one it is. -/
theorem tokens_confined_of_swap :
    letI := PyParse.ascii
    ((CalendarEventListOrchestrator.execute CalendarEventListOrchestrator.Sample.action none).run
        (CalendarWorkerExecutor.pages (TokenSample.provider "b")) ()).1 =
      ((CalendarEventListOrchestrator.execute CalendarEventListOrchestrator.Sample.action none).run
        (CalendarWorkerExecutor.pages (TokenSample.provider "a")) ()).1 :=
  letI := PyParse.ascii
  (tokens_confined TokenSample.renamedProvider CalendarEventListOrchestrator.Sample.action none
    trivial).1

end Velox
