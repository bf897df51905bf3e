import Velox.Lib.Guard
import Velox.Python.Parse
import Velox.Workers.Executor

/-!
# Calendar list requests

The bounded window of a primary-calendar event listing, one page of it, and the
bounds of a walk over several pages. A request that exists has passed its checks.

## Main definitions

* `validatedRfc3339Timestamp` — the checks of a window bound
* `CalendarEventListRequest`, `CalendarEventListRequest.new`
* `CalendarEventListRequest.asQuery` — the query of one page
* `CalendarEventListOrchestrationRequest`
* `IsPageToken` — non-blank and unpadded, as a page token must be

## Main results

* `CalendarEventListRequest.new_eq_ok_iff` — when a request is accepted
* `CalendarEventListOrchestrationRequest.new_eq_ok_iff`
-/

set_option autoImplicit false

/-- The text of a value, if it is one. -/
def Value.text? : Value → Option String
  | .str s => some s
  | _ => Option.none

/-- The integer of a value, if it is one. -/
def Value.integer? : Value → Option ℤ
  | .int n => some n
  | _ => Option.none

namespace Velox

/-- The page size bounds the server owns. -/
def CALENDAR_LIST_MIN_MAX_RESULTS : ℤ := 1

def CALENDAR_LIST_MAX_MAX_RESULTS : ℤ := 50

/-- The bounds on the number of pages of a walk. -/
def CALENDAR_LIST_MIN_MAX_PAGES : ℤ := 1

def CALENDAR_LIST_MAX_MAX_PAGES : ℤ := 10

/-- Safe rejection of a bounded list request, naming only the field. -/
structure CalendarEventListRequestError where
  message : String
  field : String
  deriving DecidableEq

@[simp] theorem text?_optionalText (s : Option String) : (optionalText s).text? = s := by
  cases s <;> rfl

section Checks

variable [PyParse]

/-! ### The window -/

/-- Take `n` characters that `\d` matches off the front of a text. -/
def takeDecimals : ℕ → List Char → Option (List Char)
  | 0, cs => some cs
  | _ + 1, [] => none
  | n + 1, c :: cs => if PyParse.isdecimal c then takeDecimals n cs else none

/-- `(?:\.\d+)?` of the pattern. -/
def takeFraction : List Char → Option (List Char)
  | '.' :: cs =>
    if cs.takeWhile PyParse.isdecimal = [] then none else some (cs.dropWhile PyParse.isdecimal)
  | cs => some cs

/-- `(?:Z|[+-]\d{2}:\d{2})` of the pattern. -/
def takeOffset : List Char → Option (List Char)
  | 'Z' :: cs => some cs
  | sign :: cs =>
    if sign = '+' ∨ sign = '-' then do
      takeDecimals 2 (← DateTime.readChar ':' (← takeDecimals 2 cs))
    else none
  | [] => none

/-- `_RFC3339_TIMESTAMP_PATTERN.fullmatch(value)`. -/
def rfc3339TimestampPattern (value : String) : Bool :=
  let rest := do
    let cs ← takeDecimals 4 value.toList
    let cs ← takeDecimals 2 (← DateTime.readChar '-' cs)
    let cs ← takeDecimals 2 (← DateTime.readChar '-' cs)
    let cs ← takeDecimals 2 (← DateTime.readChar 'T' cs)
    let cs ← takeDecimals 2 (← DateTime.readChar ':' cs)
    let cs ← takeDecimals 2 (← DateTime.readChar ':' cs)
    takeOffset (← takeFraction cs)
  rest = some []

/-- `_validated_rfc3339_timestamp`. -/
def validatedRfc3339Timestamp (value : Value) (fieldName : String) :
    Except CalendarEventListRequestError Timestamp :=
  let malformed : CalendarEventListRequestError :=
    ⟨"calendar list request " ++ fieldName ++ " must be an RFC3339 timestamp", fieldName⟩
  match value with
  | .str text => do
    Except.raiseIf (rfc3339TimestampPattern text = false) malformed
    match PyParse.fromisoformat text with
    | none => throw malformed
    | some parsed => do
      Except.raiseIf (parsed.aware = false)
        ⟨"calendar list request " ++ fieldName ++ " must carry an explicit UTC offset", fieldName⟩
      return parsed
  | _ => throw malformed

/-- A text that passes the checks of a window bound, and the time it denotes. -/
def Denotes (text : String) (t : Timestamp) : Prop :=
  rfc3339TimestampPattern text = true ∧ PyParse.fromisoformat text = some t ∧ t.aware = true

theorem validatedRfc3339Timestamp_eq_ok_iff {value : Value} {fieldName : String} {t : Timestamp} :
    validatedRfc3339Timestamp value fieldName = .ok t ↔
      ∃ text, value = .str text ∧ Denotes text t := by
  cases value with
  | str text =>
    simp only [validatedRfc3339Timestamp, Except.bind_eq_ok_iff, Except.raiseIf_eq_ok_iff,
      Value.str.injEq, exists_eq_left', Denotes, exists_const, Bool.not_eq_false]
    rcases PyParse.fromisoformat text with _ | parsed
    · simp
    · simp only [Except.bind_eq_ok_iff, Except.raiseIf_eq_ok_iff, exists_const,
        Bool.not_eq_false, Except.pure_eq_ok, Except.ok.injEq, Option.some.injEq]
      constructor
      · rintro ⟨hpattern, haware, rfl⟩
        exact ⟨hpattern, rfl, haware⟩
      · rintro ⟨hpattern, rfl, haware⟩
        exact ⟨hpattern, haware, rfl⟩
  | _ => simp [validatedRfc3339Timestamp]

/-- Two texts that bound a window: canonical timestamps, strictly ordered. -/
def IsWindow (timeMin timeMax : String) : Prop :=
  ∃ s e, Denotes timeMin s ∧ Denotes timeMax e ∧ s.instant < e.instant

omit [PyParse] in
/-- A day is a window. -/
theorem isWindow_day : @IsWindow PyParse.ascii "2026-07-27T00:00:00Z" "2026-07-28T00:00:00Z" :=
  ⟨⟨63920707200000000, true⟩, ⟨63920793600000000, true⟩, ⟨by decide, by decide, rfl⟩,
    ⟨by decide, by decide, rfl⟩, by decide⟩

/-! ### The page token -/

omit [PyParse] in
/-- What a page token must be: a non-blank unpadded string. -/
def IsPageToken (token : String) : Prop := token ≠ "" ∧ Python.strip token = token

instance (token : String) : Decidable (IsPageToken token) :=
  inferInstanceAs (Decidable (_ ∧ _))

/-- The check of `page_token`. The token itself is never placed in the message. -/
def checkPageToken (pageToken : Value) : Except CalendarEventListRequestError Unit :=
  let error : CalendarEventListRequestError :=
    ⟨"calendar list request page_token must be a non-blank unpadded string", "page_token"⟩
  match pageToken with
  | .none => return ()
  | .str token => Except.raiseIf (token = "" ∨ token ≠ Python.strip token) error
  | _ => throw error

omit [PyParse] in
theorem checkPageToken_eq_ok_iff {pageToken : Value} :
    checkPageToken pageToken = .ok () ↔
      ∃ token, pageToken = optionalText token ∧ ∀ t ∈ token, IsPageToken t := by
  cases pageToken with
  | none => exact ⟨fun _ => ⟨none, rfl, by simp⟩, fun _ => rfl⟩
  | str token =>
    simp only [checkPageToken, Except.raiseIf_eq_ok_iff, not_or, not_not]
    constructor
    · rintro ⟨hne, hstrip⟩
      exact ⟨some token, rfl, by simpa [IsPageToken] using ⟨hne, hstrip.symm⟩⟩
    · rintro ⟨_ | t, ht, hall⟩
      · cases ht
      · obtain rfl : token = t := by simpa [optionalText] using ht
        exact ⟨(hall _ rfl).1, (hall _ rfl).2.symm⟩
  | _ =>
    simp only [checkPageToken, Except.throw_eq_error, reduceCtorEq, false_iff]
    rintro ⟨_ | t, ht, -⟩ <;> cases ht

/-! ### One page -/

/-- `CalendarEventListRequest.__post_init__`. -/
def CalendarEventListRequest.postInit (timeMin timeMax maxResults pageToken : Value) :
    Except CalendarEventListRequestError Unit := do
  let windowStart ← validatedRfc3339Timestamp timeMin "time_min"
  let windowEnd ← validatedRfc3339Timestamp timeMax "time_max"
  Except.raiseIf (windowStart.instant ≥ windowEnd.instant)
    ⟨"calendar list request requires time_min earlier than time_max", "time_min"⟩
  match maxResults with
  | .int maxResults => do
    Except.raiseIf (¬(CALENDAR_LIST_MIN_MAX_RESULTS ≤ maxResults ∧
        maxResults ≤ CALENDAR_LIST_MAX_MAX_RESULTS))
      ⟨"calendar list request max_results is outside the allowed range", "max_results"⟩
    checkPageToken pageToken
  | _ => throw ⟨"calendar list request max_results must be an integer", "max_results"⟩

end Checks

/-- The values of a list request. A page token may be absent, which means the
first page. -/
structure CalendarEventListRequest [PyParse] where
  timeMin : String
  timeMax : String
  maxResults : ℤ
  pageToken : Option String
  isWindow : IsWindow timeMin timeMax
  bounded : CALENDAR_LIST_MIN_MAX_RESULTS ≤ maxResults ∧
    maxResults ≤ CALENDAR_LIST_MAX_MAX_RESULTS
  isPageToken : ∀ t ∈ pageToken, IsPageToken t

namespace CalendarEventListRequest

variable [PyParse] {timeMin timeMax maxResults pageToken : Value}

/-- The checks pass exactly on a window, a page size in bounds and a page token or
none. -/
theorem postInit_eq_ok_iff :
    postInit timeMin timeMax maxResults pageToken = .ok () ↔
      ∃ request : CalendarEventListRequest, timeMin = .str request.timeMin ∧
        timeMax = .str request.timeMax ∧ maxResults = .int request.maxResults ∧
        pageToken = optionalText request.pageToken := by
  simp only [postInit, Except.bind_eq_ok_iff, Except.raiseIf_eq_ok_iff, exists_const,
    validatedRfc3339Timestamp_eq_ok_iff, not_le, ge_iff_le]
  constructor
  · rintro ⟨s, ⟨tmin, rfl, hs⟩, e, ⟨tmax, rfl, he⟩, hlt, hrest⟩
    cases maxResults with
    | int n =>
      simp only [Except.bind_eq_ok_iff, Except.raiseIf_eq_ok_iff, not_not, exists_const,
        checkPageToken_eq_ok_iff] at hrest
      obtain ⟨hbounded, token, rfl, htoken⟩ := hrest
      exact ⟨⟨tmin, tmax, n, token, ⟨s, e, hs, he, hlt⟩, hbounded, htoken⟩, rfl, rfl, rfl, rfl⟩
    | _ => cases hrest
  · rintro ⟨⟨tmin, tmax, n, token, ⟨s, e, hs, he, hlt⟩, hbounded, htoken⟩, rfl, rfl, rfl, rfl⟩
    refine ⟨s, ⟨tmin, rfl, hs⟩, e, ⟨tmax, rfl, he⟩, hlt, ?_⟩
    simp only [Except.bind_eq_ok_iff, Except.raiseIf_eq_ok_iff, not_not, exists_const]
    exact ⟨hbounded, checkPageToken_eq_ok_iff.mpr ⟨token, rfl, htoken⟩⟩

/-- `CalendarEventListRequest(...)`. -/
def new (timeMin timeMax maxResults pageToken : Value) :
    Except CalendarEventListRequestError CalendarEventListRequest :=
  match h : postInit timeMin timeMax maxResults pageToken with
  | .error e => .error e
  | .ok () => .ok {
      timeMin := timeMin.text?.getD ""
      timeMax := timeMax.text?.getD ""
      maxResults := maxResults.integer?.getD 0
      pageToken := pageToken.text?
      isWindow := by
        obtain ⟨request, rfl, rfl, rfl, rfl⟩ := postInit_eq_ok_iff.mp h
        exact request.isWindow
      bounded := by
        obtain ⟨request, rfl, rfl, rfl, rfl⟩ := postInit_eq_ok_iff.mp h
        exact request.bounded
      isPageToken := by
        obtain ⟨request, rfl, rfl, rfl, rfl⟩ := postInit_eq_ok_iff.mp h
        rw [text?_optionalText]
        exact request.isPageToken }

/-- A request is accepted exactly as the values of a request. -/
theorem new_eq_ok_iff {request : CalendarEventListRequest} :
    new timeMin timeMax maxResults pageToken = .ok request ↔
      timeMin = .str request.timeMin ∧ timeMax = .str request.timeMax ∧
        maxResults = .int request.maxResults ∧ pageToken = optionalText request.pageToken := by
  unfold new
  constructor
  · intro h
    split at h
    · cases h
    · next hok =>
      obtain ⟨request', rfl, rfl, rfl, rfl⟩ := postInit_eq_ok_iff.mp hok
      obtain rfl := Except.ok.inj h
      exact ⟨rfl, rfl, rfl, congrArg optionalText (text?_optionalText _).symm⟩
  · rintro ⟨rfl, rfl, rfl, rfl⟩
    split
    · next e herror =>
      rw [postInit_eq_ok_iff.mpr ⟨request, rfl, rfl, rfl, rfl⟩] at herror
      cases herror
    · obtain ⟨timeMin, timeMax, maxResults, pageToken, _, _, _⟩ := request
      -- only the token is not read back by computation
      cases pageToken <;> rfl

/-- The exact query parameters of a page. A continuation adds the page token and
changes nothing else. -/
def asQuery (request : CalendarEventListRequest) : Dict :=
  let query : Dict := .ofList [("timeMin", .str request.timeMin), ("timeMax", .str request.timeMax),
    ("maxResults", .str (toString request.maxResults)), ("singleEvents", .str "true"),
    ("orderBy", .str "startTime")]
  match request.pageToken with
  | none => query
  | some token => query.set "pageToken" (.str token)

variable (request : CalendarEventListRequest)

@[simp] theorem get_asQuery_maxResults :
    request.asQuery.get "maxResults" = some (.str (toString request.maxResults)) := by
  unfold asQuery
  cases request.pageToken <;>
    simp only [OrderedDict.ofList, OrderedDict.update, OrderedDict.get_set, List.foldl_cons,
      List.foldl_nil] <;> rfl

@[simp] theorem get_asQuery_pageToken :
    request.asQuery.get "pageToken" = request.pageToken.map .str := by
  unfold asQuery
  cases request.pageToken <;>
    simp [OrderedDict.ofList, OrderedDict.update, OrderedDict.get_set]

end CalendarEventListRequest

/-! ### A walk over pages -/

/-- The bounds of one in-process walk over pages. -/
structure CalendarEventListOrchestrationRequest [PyParse] where
  timeMin : String
  timeMax : String
  maxResults : ℤ
  maxPages : ℤ
  isWindow : IsWindow timeMin timeMax
  bounded : CALENDAR_LIST_MIN_MAX_RESULTS ≤ maxResults ∧
    maxResults ≤ CALENDAR_LIST_MAX_MAX_RESULTS
  boundedPages : CALENDAR_LIST_MIN_MAX_PAGES ≤ maxPages ∧ maxPages ≤ CALENDAR_LIST_MAX_MAX_PAGES

namespace CalendarEventListOrchestrationRequest

variable [PyParse] {timeMin timeMax maxResults maxPages : Value}

/-- `CalendarEventListOrchestrationRequest.__post_init__`. -/
def postInit (timeMin timeMax maxResults maxPages : Value) :
    Except CalendarEventListRequestError Unit := do
  CalendarEventListRequest.postInit timeMin timeMax maxResults .none
  match maxPages with
  | .int maxPages =>
    Except.raiseIf (¬(CALENDAR_LIST_MIN_MAX_PAGES ≤ maxPages ∧
        maxPages ≤ CALENDAR_LIST_MAX_MAX_PAGES))
      ⟨"calendar list orchestration max_pages is outside the allowed range", "max_pages"⟩
  | _ => throw ⟨"calendar list orchestration max_pages must be an integer", "max_pages"⟩

/-- The checks pass exactly on a window, a page size and a number of pages in
bounds. -/
theorem postInit_eq_ok_iff :
    postInit timeMin timeMax maxResults maxPages = .ok () ↔
      ∃ request : CalendarEventListOrchestrationRequest, timeMin = .str request.timeMin ∧
        timeMax = .str request.timeMax ∧ maxResults = .int request.maxResults ∧
        maxPages = .int request.maxPages := by
  unfold postInit
  rw [Except.bind_eq_ok_iff]
  constructor
  · rintro ⟨_, hpage, hpages⟩
    obtain ⟨page, rfl, rfl, rfl, -⟩ := CalendarEventListRequest.postInit_eq_ok_iff.mp hpage
    cases maxPages with
    | int n =>
      simp only [Except.raiseIf_eq_ok_iff, not_not] at hpages
      exact ⟨⟨page.timeMin, page.timeMax, page.maxResults, n, page.isWindow, page.bounded, hpages⟩,
        rfl, rfl, rfl, rfl⟩
    | _ => cases hpages
  · rintro ⟨⟨tmin, tmax, n, pages, hwindow, hbounded, hpages⟩, rfl, rfl, rfl, rfl⟩
    refine ⟨(), CalendarEventListRequest.postInit_eq_ok_iff.mpr
      ⟨⟨tmin, tmax, n, none, hwindow, hbounded, by simp⟩, rfl, rfl, rfl, rfl⟩, ?_⟩
    exact Except.raiseIf_neg (not_not.mpr hpages)

/-- `CalendarEventListOrchestrationRequest(...)`. -/
def new (timeMin timeMax maxResults maxPages : Value) :
    Except CalendarEventListRequestError CalendarEventListOrchestrationRequest :=
  match h : postInit timeMin timeMax maxResults maxPages with
  | .error e => .error e
  | .ok () => .ok {
      timeMin := timeMin.text?.getD ""
      timeMax := timeMax.text?.getD ""
      maxResults := maxResults.integer?.getD 0
      maxPages := maxPages.integer?.getD 0
      isWindow := by
        obtain ⟨request, rfl, rfl, rfl, rfl⟩ := postInit_eq_ok_iff.mp h
        exact request.isWindow
      bounded := by
        obtain ⟨request, rfl, rfl, rfl, rfl⟩ := postInit_eq_ok_iff.mp h
        exact request.bounded
      boundedPages := by
        obtain ⟨request, rfl, rfl, rfl, rfl⟩ := postInit_eq_ok_iff.mp h
        exact request.boundedPages }

/-- A walk is accepted exactly as the values of a request. -/
theorem new_eq_ok_iff {request : CalendarEventListOrchestrationRequest} :
    new timeMin timeMax maxResults maxPages = .ok request ↔
      timeMin = .str request.timeMin ∧ timeMax = .str request.timeMax ∧
        maxResults = .int request.maxResults ∧ maxPages = .int request.maxPages := by
  unfold new
  constructor
  · intro h
    split at h
    · cases h
    · next hok =>
      obtain ⟨request', rfl, rfl, rfl, rfl⟩ := postInit_eq_ok_iff.mp hok
      obtain rfl := Except.ok.inj h
      exact ⟨rfl, rfl, rfl, rfl⟩
  · rintro ⟨rfl, rfl, rfl, rfl⟩
    split
    · next e herror =>
      rw [postInit_eq_ok_iff.mpr ⟨request, rfl, rfl, rfl, rfl⟩] at herror
      cases herror
    · rfl

/-- The request of one page of the walk. -/
def page (request : CalendarEventListOrchestrationRequest) (pageToken : Option String)
    (h : ∀ t ∈ pageToken, IsPageToken t) : CalendarEventListRequest where
  timeMin := request.timeMin
  timeMax := request.timeMax
  maxResults := request.maxResults
  pageToken
  isWindow := request.isWindow
  bounded := request.bounded
  isPageToken := h

end CalendarEventListOrchestrationRequest

end Velox
