import Velox.Integrations.CalendarAgreement

/-!
# The last boundary before Google

`_is_bounded_list_request` decodes an untyped query and re-validates it, while
`as_query` encodes a validated request. The page size is where the two differ: the
decoder takes every text of digits to `int`, the encoder writes one numeral for each
number.

## Main definitions

* `IsListRead` — the requests the boundary is there to accept
* `DecidesListRead` — the boundary returns, and accepts exactly these
* `PageSizeText` — the text the boundary hands to `int`
* `NamesPageSizePlainly` — that text is a numeral `str` writes, where it matters

## Main results

* `isBoundedListRequest_of_read` — what the boundary decides once `int` has read the text
* `decidesListRead_iff` — the boundary decides exactly the requests that name their
  page size plainly
-/

set_option autoImplicit false

namespace Velox

/-- `query == other`: dictionaries are compared without regard to order. -/
def SameQuery (query other : Dict) : Prop := ∀ key, query.get key = other.get key

section Boundary

variable [PyParse] (request : GoogleProviderRequest)

open HttpxCalendarTransportClient (hasKeys isBoundedListRequest)

/-- A read of one page: the query is that of a valid list request. -/
structure IsListRead : Prop where
  operation : request.operation ∈ calendarListCapabilityIdentifiers
  method : request.method = "GET"
  body : request.body = none
  path : request.path = googleCalendarEventsPath
  query : ∃ listRequest : CalendarEventListRequest, SameQuery request.query listRequest.asQuery

/-- The boundary returns a boolean, which is true exactly for a list read. -/
def DecidesListRead : Prop :=
  ∃ accepted, isBoundedListRequest request = .ok accepted ∧
    (accepted = true ↔ IsListRead request)

/-! ### The page size -/

/-- The request passes every check that comes before `int`, and `text` is what is
handed to it. -/
structure PageSizeText (text : String) : Prop where
  operation : request.operation ∈ calendarListCapabilityIdentifiers
  method : request.method = "GET"
  body : request.body = none
  path : request.path = googleCalendarEventsPath
  keys : hasKeys request.query calendarListQueryFields ∨
    hasKeys request.query calendarListPagedQueryFields
  singleEvents : request.query.get "singleEvents" = some (.str "true")
  orderBy : request.query.get "orderBy" = some (.str "startTime")
  pageToken : request.query.get "pageToken" ≠ some .none
  maxResults : request.query.get "maxResults" = some (.str text)
  isdigit : Python.isdigit text = true

/-- The window, a page size of `size` and the page token are those of a list request. -/
def Admits (size : ℤ) : Prop :=
  ∃ listRequest : CalendarEventListRequest,
    (request.query.get "timeMin").getD .none = .str listRequest.timeMin ∧
      (request.query.get "timeMax").getD .none = .str listRequest.timeMax ∧
      size = listRequest.maxResults ∧
      (request.query.get "pageToken").getD .none = optionalText listRequest.pageToken

/-- The text handed to `int` is read, and where the rest of the query is in order it
is the numeral of the number read. -/
def NamesPageSizePlainly : Prop :=
  ∀ text, PageSizeText request text →
    ∃ size, PyStd.parseInt text = some size ∧ (Admits request size → text = toString size)

variable {request} {text : String}

theorem PageSizeText.unique {text' : String} (h : PageSizeText request text)
    (h' : PageSizeText request text') : text = text' := by
  have heq := h.maxResults.symm.trans h'.maxResults
  simpa using heq

/-! ### What the boundary returns -/

/-- A request that fails a check before `int` is rejected. -/
theorem isBoundedListRequest_of_not_reached (h : ∀ text, ¬PageSizeText request text) :
    isBoundedListRequest request = .ok false := by
  by_cases hroute : request.operation ∉ calendarListCapabilityIdentifiers ∨
      request.method ≠ "GET" ∨ request.body.isSome ∨ request.path ≠ googleCalendarEventsPath
  · exact if_pos hroute
  by_cases hkeys : hasKeys request.query calendarListQueryFields ∨
      hasKeys request.query calendarListPagedQueryFields
  swap
  · simp only [isBoundedListRequest, hroute, hkeys, not_false_eq_true, if_true, if_false]
    rfl
  by_cases hfixed : request.query.get "singleEvents" ≠ some (.str "true") ∨
      request.query.get "orderBy" ≠ some (.str "startTime")
  · simp only [isBoundedListRequest, hroute, hkeys, hfixed, not_true_eq_false, if_true, if_false]
    rfl
  simp only [isBoundedListRequest, hroute, hkeys, hfixed, not_true_eq_false, if_false]
  split
  · next text hmax =>
    by_cases hdigits : Python.isdigit text = false
    · simp only [hdigits, if_true, Except.pure_eq_ok]
    by_cases htoken : request.query.get "pageToken" = some .none
    · simp [hdigits, htoken]
    -- every check was passed, so the text was handed to `int`
    simp only [not_or, not_not, Option.not_isSome_iff_eq_none, ne_eq] at hroute hfixed
    obtain ⟨hoperation, hmethod, hbody, hpath⟩ := hroute
    exact absurd ⟨hoperation, hmethod, hbody, hpath, hkeys, hfixed.1, hfixed.2, htoken, hmax,
      Bool.eq_true_of_not_eq_false hdigits⟩ (h text)
  · rfl

/-- Past the checks, `int` decides whether the boundary returns at all. -/
theorem isBoundedListRequest_of_reached (h : PageSizeText request text) :
    isBoundedListRequest request = (do
      let size ← intOfText text
      match CalendarEventListRequest.new ((request.query.get "timeMin").getD .none)
          ((request.query.get "timeMax").getD .none) (.int size)
          ((request.query.get "pageToken").getD .none) with
      | .error _ => return false
      | .ok _ => return true) := by
  have hroute : ¬(request.operation ∉ calendarListCapabilityIdentifiers ∨
      request.method ≠ "GET" ∨ request.body.isSome ∨ request.path ≠ googleCalendarEventsPath) := by
    simp [h.operation, h.method, h.body, h.path]
  have hfixed : ¬(request.query.get "singleEvents" ≠ some (.str "true") ∨
      request.query.get "orderBy" ≠ some (.str "startTime")) := by
    simp [h.singleEvents, h.orderBy]
  have hdigits : ¬Python.isdigit text = false := ne_false_of_eq_true h.isdigit
  rw [isBoundedListRequest, if_neg hroute, if_neg (not_not_intro h.keys), if_neg hfixed,
    h.maxResults]
  exact (if_neg hdigits).trans (if_neg h.pageToken)

theorem isBoundedListRequest_of_unread (h : PageSizeText request text)
    (hread : PyStd.parseInt text = none) :
    ∃ e, isBoundedListRequest request = .error e := by
  refine ⟨⟨.valueError, "invalid literal for int() with base 10"⟩, ?_⟩
  rw [isBoundedListRequest_of_reached h, intOfText, hread]
  rfl

theorem isBoundedListRequest_of_read {size : ℤ} (h : PageSizeText request text)
    (hread : PyStd.parseInt text = some size) :
    ∃ accepted, isBoundedListRequest request = .ok accepted ∧
      (accepted = true ↔ Admits request size) := by
  have hint : intOfText text = .ok size := by rw [intOfText, hread]; rfl
  rw [isBoundedListRequest_of_reached h, hint, Except.ok_bind]
  split
  · next e herror =>
    refine ⟨false, rfl, iff_of_false Bool.false_ne_true ?_⟩
    rintro ⟨listRequest, hmin, hmax, hsize, htoken⟩
    rw [CalendarEventListRequest.new_eq_ok_iff.mpr ⟨hmin, hmax, congrArg _ hsize, htoken⟩] at herror
    cases herror
  · next listRequest hok =>
    obtain ⟨hmin, hmax, hsize, htoken⟩ := CalendarEventListRequest.new_eq_ok_iff.mp hok
    exact ⟨true, rfl, iff_of_true rfl ⟨listRequest, hmin, hmax, Value.int.inj hsize, htoken⟩⟩

/-! ### The image of the encoder -/

omit [PyParse] in
theorem mem_keys_of_sameQuery {query other : Dict} (h : SameQuery query other) (key : String) :
    key ∈ query.keys ↔ key ∈ other.keys := by
  rw [OrderedDict.mem_keys_iff, OrderedDict.mem_keys_iff, h key]

omit [PyParse] in
theorem hasKeys_of_sameQuery {query other : Dict} (h : SameQuery query other)
    {fields : List String} (hkeys : hasKeys other fields) : hasKeys query fields := by
  refine ⟨fun key hkey => hkeys.1 key ((mem_keys_of_sameQuery h key).mp hkey), fun field hfield => ?_⟩
  exact (mem_keys_of_sameQuery h field).mpr (hkeys.2 field hfield)

/-- A list read passes every check, and its page size is a numeral. -/
theorem pageSizeText_of_isListRead (h : IsListRead request) :
    ∃ listRequest : CalendarEventListRequest, SameQuery request.query listRequest.asQuery ∧
      PageSizeText request (toString listRequest.maxResults) := by
  obtain ⟨listRequest, hquery⟩ := h.query
  refine ⟨listRequest, hquery, h.operation, h.method, h.body, h.path, ?_, ?_, ?_, ?_, ?_, ?_⟩
  · exact (hasKeys_asQuery listRequest).imp (hasKeys_of_sameQuery hquery)
      (hasKeys_of_sameQuery hquery)
  · rw [hquery]
    simp [get_asQuery, lookupEntry]
  · rw [hquery]
    simp [get_asQuery, lookupEntry]
  · rw [hquery, CalendarEventListRequest.get_asQuery_pageToken]
    cases listRequest.pageToken <;> simp
  · rw [hquery, CalendarEventListRequest.get_asQuery_maxResults]
  · exact (intOfText_maxResults listRequest).1

theorem admits_of_sameQuery {listRequest : CalendarEventListRequest}
    (h : SameQuery request.query listRequest.asQuery) : Admits request listRequest.maxResults := by
  refine ⟨listRequest, ?_, ?_, rfl, ?_⟩
  · rw [h]
    simp [get_asQuery, lookupEntry]
  · rw [h]
    simp [get_asQuery, lookupEntry]
  · rw [h, CalendarEventListRequest.get_asQuery_pageToken]
    rfl

/-! ### When the boundary decides -/

theorem namesPageSizePlainly_of_decides (h : DecidesListRead request) :
    NamesPageSizePlainly request := by
  intro text htext
  obtain ⟨accepted, haccepted, hiff⟩ := h
  rcases hread : PyStd.parseInt text with _ | size
  · obtain ⟨e, herror⟩ := isBoundedListRequest_of_unread htext hread
    rw [haccepted] at herror
    cases herror
  · refine ⟨size, rfl, fun hadmits => ?_⟩
    obtain ⟨accepted', haccepted', hiff'⟩ := isBoundedListRequest_of_read htext hread
    obtain rfl : accepted = accepted' := Except.ok.inj (haccepted.symm.trans haccepted')
    -- the request is accepted, so its query is the encoding of a list request
    obtain ⟨listRequest, hquery, htext'⟩ :=
      pageSizeText_of_isListRead (hiff.mp (hiff'.mpr hadmits))
    have heq : text = toString listRequest.maxResults := htext.unique htext'
    have hint : PyStd.parseInt (toString listRequest.maxResults) = some listRequest.maxResults :=
      parseInt_maxResults listRequest
    rw [← heq, hread] at hint
    rw [heq, Option.some.inj hint]

/-- A query with these keys and values is the encoding of the request it was decoded to. -/
theorem sameQuery_of_admits (htext : PageSizeText request text) {listRequest : CalendarEventListRequest}
    (hmin : (request.query.get "timeMin").getD .none = .str listRequest.timeMin)
    (hmax : (request.query.get "timeMax").getD .none = .str listRequest.timeMax)
    (hsize : text = toString listRequest.maxResults)
    (htoken : (request.query.get "pageToken").getD .none = optionalText listRequest.pageToken) :
    SameQuery request.query listRequest.asQuery := by
  have hpresent : ∀ {key : String} {value : Value}, value ≠ .none →
      (request.query.get key).getD .none = value → request.query.get key = some value := by
    intro key value hne hget
    cases hkey : request.query.get key with
    | none =>
      rw [hkey] at hget
      exact absurd hget.symm hne
    | some found => rwa [hkey, Option.getD_some, ← Option.some.injEq] at hget
  have htoken' : request.query.get "pageToken" = listRequest.pageToken.map .str := by
    cases hkey : request.query.get "pageToken" with
    | none =>
      rw [hkey] at htoken
      cases hopt : listRequest.pageToken with
      | none => rfl
      | some token =>
        rw [hopt] at htoken
        cases htoken
    | some found =>
      rw [hkey, Option.getD_some] at htoken
      cases hopt : listRequest.pageToken with
      | none =>
        rw [hopt] at htoken
        exact absurd (hkey.trans (congrArg some htoken)) htext.pageToken
      | some token =>
        rw [hopt] at htoken
        exact congrArg some htoken
  intro key
  by_cases hfield : key ∈ calendarListPagedQueryFields
  · simp only [calendarListPagedQueryFields, calendarListQueryFields, List.cons_append,
      List.nil_append, List.mem_cons, List.not_mem_nil, or_false] at hfield
    rcases hfield with rfl | rfl | rfl | rfl | rfl | rfl
    · rw [hpresent (by simp) hmin]
      simp [get_asQuery, lookupEntry]
    · rw [hpresent (by simp) hmax]
      simp [get_asQuery, lookupEntry]
    · rw [htext.maxResults, CalendarEventListRequest.get_asQuery_maxResults, hsize]
    · rw [htext.singleEvents]
      simp [get_asQuery, lookupEntry]
    · rw [htext.orderBy]
      simp [get_asQuery, lookupEntry]
    · rw [htoken', CalendarEventListRequest.get_asQuery_pageToken]
  · -- neither query has a key outside the two shapes
    have hnone : ∀ {query : Dict}, hasKeys query calendarListQueryFields ∨
        hasKeys query calendarListPagedQueryFields → query.get key = none := by
      intro query hkeys
      rw [OrderedDict.get_eq_none_iff]
      intro hkey
      rcases hkeys with hkeys | hkeys
      · exact hfield (List.mem_append_left _ (hkeys.1 key hkey))
      · exact hfield (hkeys.1 key hkey)
    rw [hnone htext.keys, hnone (hasKeys_asQuery listRequest)]

theorem decides_of_namesPageSizePlainly (h : NamesPageSizePlainly request) :
    DecidesListRead request := by
  by_cases hreached : ∃ text, PageSizeText request text
  · obtain ⟨text, htext⟩ := hreached
    obtain ⟨size, hread, hplain⟩ := h text htext
    obtain ⟨accepted, haccepted, hiff⟩ := isBoundedListRequest_of_read htext hread
    refine ⟨accepted, haccepted, hiff.trans ⟨fun hadmits => ?_, fun hlist => ?_⟩⟩
    · have hnumeral : text = toString size := hplain hadmits
      obtain ⟨listRequest, hmin, hmax, rfl, htoken⟩ := hadmits
      exact ⟨htext.operation, htext.method, htext.body, htext.path, listRequest,
        sameQuery_of_admits htext hmin hmax hnumeral htoken⟩
    · obtain ⟨listRequest, hquery, htext'⟩ := pageSizeText_of_isListRead hlist
      have hint : PyStd.parseInt (toString listRequest.maxResults) = some listRequest.maxResults :=
        parseInt_maxResults listRequest
      rw [← htext.unique htext', hread] at hint
      rw [Option.some.inj hint]
      exact admits_of_sameQuery hquery
  · refine ⟨false, isBoundedListRequest_of_not_reached (not_exists.mp hreached),
      iff_of_false Bool.false_ne_true fun hlist => ?_⟩
    obtain ⟨listRequest, -, htext⟩ := pageSizeText_of_isListRead hlist
    exact hreached ⟨_, htext⟩

/-- The boundary returns a boolean, true exactly for a list read, if and only if the
text it hands to `int` is read and, where the rest of the query is in order, is the
numeral of the number read. -/
theorem decidesListRead_iff (request : GoogleProviderRequest) :
    DecidesListRead request ↔ NamesPageSizePlainly request :=
  ⟨namesPageSizePlainly_of_decides, decides_of_namesPageSizePlainly⟩

end Boundary

/-! ### A superscript and a leading zero -/

/-- Reading text that may hold superscripts, which `str.isdigit` counts as digits and
`int` does not read. -/
@[reducible] def superscriptParse : PyParse where
  toPyStd := PyParse.ascii.toPyStd
  isdecimal := Char.isDigit
  isdigitChar c := c.isDigit || c == '²'
  fromisoformat := Python.fromisoformat
  quote := id
  unquote := id
  isdigitChar_of_isDigit c h := by rw [h]; rfl
  parseInt_toString n _ := Python.parseInt_toString n

/-- A list read of one day with a given text for the page size. -/
def readWithPageSize (text : String) : GoogleProviderRequest where
  operation := CALENDAR_LIST_EVENTS
  path := googleCalendarEventsPath
  query := .ofList [("timeMin", .str "2026-07-27T00:00:00Z"), ("timeMax", .str "2026-07-28T00:00:00Z"),
    ("maxResults", .str text), ("singleEvents", .str "true"), ("orderBy", .str "startTime")]

theorem pageSizeText_readWithPageSize [PyParse] {text : String} (h : Python.isdigit text = true) :
    PageSizeText (readWithPageSize text) text where
  operation := by simp [readWithPageSize, calendarListCapabilityIdentifiers]
  method := rfl
  body := rfl
  path := rfl
  keys := Or.inl ⟨fun _ => id, fun _ => id⟩
  singleEvents := rfl
  orderBy := rfl
  pageToken := fun h => nomatch h
  maxResults := rfl
  isdigit := h

/-- On the page size `²` the boundary raises, and on `07` it accepts a query that no
list request encodes. -/
theorem not_decidesListRead :
    ¬@DecidesListRead superscriptParse (readWithPageSize "²") ∧
      ¬@DecidesListRead PyParse.ascii (readWithPageSize "07") := by
  constructor
  · intro h
    let _ := superscriptParse
    obtain ⟨size, hread, -⟩ := namesPageSizePlainly_of_decides h "²"
      (pageSizeText_readWithPageSize (by decide))
    have hnone : PyStd.parseInt "²" = none := by decide
    rw [hnone] at hread
    cases hread
  · intro h
    let _ := PyParse.ascii
    obtain ⟨size, hread, hplain⟩ := namesPageSizePlainly_of_decides h "07"
      (pageSizeText_readWithPageSize (by decide))
    obtain rfl : size = 7 := by simpa using hread.symm.trans (show _ = some 7 by decide)
    refine absurd (hplain ⟨⟨_, _, 7, none, isWindow_day, by decide, by simp⟩, rfl, rfl, rfl, rfl⟩) ?_
    decide

end Velox
