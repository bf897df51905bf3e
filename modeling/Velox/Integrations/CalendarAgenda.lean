import Velox.Integrations.CalendarOrchestrator
import Velox.Python.ZoneInfo

/-!
# The agenda of tomorrow

The agenda workflow lists the events between two local midnights, that of the day after
today and that of the day after it, through the bounded Calendar orchestrator. Each midnight
is written with the offset its time zone gives it without a fold.

The window is that of a civil day as long as the clock of the time zone jumps neither over
one of the midnights nor from one to the other.

## Main definitions

* `CalendarTomorrowAgendaRequest`, `CalendarTomorrowAgendaResult`
* `CalendarTomorrowAgendaWorkflow.window` — the two midnights
* `CalendarTomorrowAgendaWorkflow.execute`
* `ListsTomorrow` — a window of exactly the instants whose local date is tomorrow
* `RegularTomorrow` — no jump of the clock over a midnight, or over the day

## Main results

* `rfc3339TimestampPattern_isoSeconds` — the text of a time is an RFC 3339 timestamp
* `execute_of_listsTomorrow` — the workflow walks over that window
* `tomorrow_exact_iff`
-/

set_option autoImplicit false

namespace Velox

/-! ### The workflow -/

/-- The intent of the workflow. -/
def CALENDAR_TOMORROW_INTENT : String := "tomorrow"

/-- A failure of the workflow, or an exception it lets through. -/
inductive CalendarAgendaError
  | workflow (message : String) (field : Option String)
      (category : Option WorkerExecutionFailureCategory)
  | raised (error : Raised)
  deriving DecidableEq

/-- Semantic, routing, time zone and clock inputs for tomorrow. -/
structure CalendarTomorrowAgendaRequest where
  intent : Value
  accountContext : WorkerAccountContext
  timezone : Value
  now : LocalDatetime

/-- The agenda of one local day. -/
structure CalendarTomorrowAgendaResult where
  intent : String
  timezone : String
  localDate : String
  timeMin : String
  timeMax : String
  events : List Value
  eventCount : ℤ
  aggregateComplete : Bool
  skippedEventCount : ℤ
  terminationReason : String

/-- The two midnights of tomorrow, with its date. -/
structure CalendarAgendaWindow where
  localDate : Date
  timeMin : String
  timeMax : String

namespace CalendarTomorrowAgendaWorkflow

/-- A rejection that names a field of the request. -/
def invalid (message field : String) : CalendarAgendaError := .workflow message (some field) none

/-- A text that is blank or padded, or none. -/
def isPadded (text : Option String) : Bool :=
  match text with
  | none => true
  | some text => text = "" || text ≠ Python.strip text

/-- `_validate_request`, given the known time zones: the time zone and its key. -/
def validateRequest (zones : String → Option ZoneInfo) (request : CalendarTomorrowAgendaRequest) :
    Except CalendarAgendaError (String × ZoneInfo) := do
  .raiseIf (request.intent ≠ .str CALENDAR_TOMORROW_INTENT)
    (invalid "calendar agenda intent is unsupported" "intent")
  .raiseIf (isPadded request.timezone.text?)
    (invalid "calendar agenda timezone must be a non-blank unpadded string" "timezone")
  let key := request.timezone.text?.getD ""
  match zones key with
  | none => throw (invalid "calendar agenda timezone is not a valid IANA timezone" "timezone")
  | some zone =>
    .raiseIf (request.now.utcoffset = none)
      (invalid "calendar agenda now must be a timezone-aware datetime" "now")
    .raiseIf (isPadded request.accountContext.principal)
      (invalid "calendar agenda account context is invalid" "principal")
    .raiseIf (isPadded (some request.accountContext.accountIdentifier))
      (invalid "calendar agenda account context is invalid" "account_identifier")
    return (key, zone)

/-- `_local_midnight`. -/
def localMidnight (localDate : Date) (zone : ZoneInfo) : String :=
  Python.isoSeconds localDate 0 (zone.utcoffset false (localDate.number * 86400))

/-- The window that `execute` asks for. -/
def window (now : LocalDatetime) (key : String) (zone : ZoneInfo) :
    Except Raised CalendarAgendaWindow := do
  let localNow ← now.astimezone key zone
  let localDate ← localNow.date.addDays 1
  let followingLocalDate ← localDate.addDays 1
  return {
    localDate
    timeMin := localMidnight localDate zone
    timeMax := localMidnight followingLocalDate zone }

/-- The payload of the action that lists the events of a window. -/
def payload (window : CalendarAgendaWindow) : Dict :=
  .ofList [("time_min", .str window.timeMin), ("time_max", .str window.timeMax),
    ("max_results", .int CALENDAR_LIST_MAX_MAX_RESULTS),
    ("max_pages", .int CALENDAR_LIST_MAX_MAX_PAGES)]

/-- The action that lists the events of a window. -/
def agendaAction (actionId : UUID) (window : CalendarAgendaWindow) : Action where
  id := actionId
  type := CALENDAR_LIST_EVENTS
  target := "calendar-agenda-tomorrow"
  payload := payload window
  executorRole := some ExecutorRole.contextPreparation.value

/-- The reasons to end that the workflow passes on. -/
def terminationReasons : List String := ["exhausted", "page_limit", "repeated_page_token"]

/-- What the workflow makes of the result of the orchestrator. -/
def agendaResult (timezone : String) (window : CalendarAgendaWindow)
    (result : WorkerExecutionResult) : Except CalendarAgendaError CalendarTomorrowAgendaResult :=
  if result.status ≠ .succeeded then
    .error (.workflow "calendar tomorrow agenda orchestration failed" none
      (some ((result.failure.map (·.category)).getD .internal)))
  else
    let metadata := result.metadata
    let malformed : CalendarAgendaError := .workflow
      "calendar tomorrow agenda orchestration returned invalid data" none (some .internal)
    match metadata.get "events", metadata.get "event_count", metadata.get "aggregate_complete",
        metadata.get "skipped_event_count", metadata.get "termination_reason" with
    | some (.tuple events), some (.int eventCount), some (.bool aggregateComplete),
        some (.int skippedEventCount), some (.str terminationReason) =>
      if events.all isDict ∧ eventCount = events.length ∧ 0 ≤ skippedEventCount ∧
          terminationReason ∈ terminationReasons then
        .ok {
          intent := CALENDAR_TOMORROW_INTENT
          timezone
          localDate := window.localDate.isoformat
          timeMin := window.timeMin
          timeMax := window.timeMax
          events
          eventCount
          aggregateComplete
          skippedEventCount
          terminationReason }
      else .error malformed
    | _, _, _, _, _ => .error malformed

/-- `execute`: the bounded agenda for the next local civil day. -/
def execute [PyParse] (zones : String → Option ZoneInfo) (actionId : UUID)
    (request : CalendarTomorrowAgendaRequest) :
    Prog PageCalls (Except CalendarAgendaError CalendarTomorrowAgendaResult) :=
  match validateRequest zones request with
  | .error error => .ret (.error error)
  | .ok (key, zone) =>
    match window request.now key zone with
    | .error error => .ret (.error (.raised error))
    | .ok window =>
      (CalendarEventListOrchestrator.execute (agendaAction actionId window)
        (some request.accountContext)).bind fun
          | .error error => .ret (.error (.raised error))
          | .ok result => .ret (agendaResult key window result)

end CalendarTomorrowAgendaWorkflow

/-! ### The texts of the window -/

section Texts

variable [PyIsoTime]

/-- A numeral of a given width is taken off the front of a text. -/
theorem takeDecimals_encode {w n : ℕ} (hn : n < 10 ^ w) (cs : List Char) :
    takeDecimals w (FixedWidth.encode 10 w n ++ cs) = some cs := by
  have hdigits : ∀ digits : List ℕ, (∀ d ∈ digits, d < 10) →
      takeDecimals digits.length (digits.map Nat.digitChar ++ cs) = some cs := by
    intro digits hdigits
    induction digits with
    | nil => rfl
    | cons d digits ih =>
      have hd : d < 10 := hdigits d List.mem_cons_self
      have hdigit : (Nat.digitChar d).isDigit = true := by interval_cases d <;> rfl
      rw [List.length_cons, List.map_cons, List.cons_append, takeDecimals,
        if_pos (PyIsoTime.isdecimal_of_isDigit _ hdigit)]
      exact ih fun e he => hdigits e (List.mem_cons_of_mem d he)
  have hall := hdigits (FixedWidth.digits 10 w n) fun d => FixedWidth.lt_of_mem_digits hn
  rwa [FixedWidth.length_digits] at hall

/-- The text of a time is an RFC 3339 timestamp. -/
theorem rfc3339TimestampPattern_isoSeconds {d : Date} {second : ℕ} {offset : ℤ}
    (hsecond : second < 86400) (hoffset : Python.IsOffset offset) :
    rfc3339TimestampPattern (Python.isoSeconds d second offset) = true := by
  obtain ⟨⟨hy, hy'⟩, ⟨hmo, hmo'⟩, hd, hd'⟩ := d.valid
  obtain ⟨hlow, hhigh⟩ := hoffset
  have hday := d.day_lt
  have take2 : ∀ n < 100, ∀ cs, takeDecimals 2 (FixedWidth.encode 10 2 n ++ cs) = some cs :=
    fun n hn => takeDecimals_encode (by simpa using hn)
  have take4 : ∀ cs, takeDecimals 4 (FixedWidth.encode 10 4 d.year ++ cs) = some cs :=
    takeDecimals_encode (by omega)
  have hend := take2 (offset.natAbs % 60) (by omega) []
  rw [List.append_nil] at hend
  have hfraction : takeFraction (Python.offsetChars offset) = some (Python.offsetChars offset) := by
    unfold Python.offsetChars
    split_ifs <;> rfl
  have htail : takeOffset (Python.offsetChars offset) = some [] := by
    have hsign : ∀ sign : Char, sign = '-' ∨ sign = '+' → ∀ cs, takeOffset (sign :: cs) =
        (do takeDecimals 2 (← DateTime.readChar ':' (← takeDecimals 2 cs))) := by
      rintro _ (rfl | rfl) cs <;> rfl
    rw [Python.offsetChars, hsign _ (by split_ifs <;> simp), take2 _ (by omega)]
    simp [hend]
  simp only [rfc3339TimestampPattern, Python.isoSeconds, String.toList_ofList, Date.isoChars,
    Python.clockChars, List.append_assoc, List.cons_append, take4, take2 d.day hday,
    take2 d.month (by omega), take2 (second / 3600) (by omega), take2 (second / 60 % 60) (by omega),
    take2 (second % 60) (by omega), DateTime.readChar_cons, Option.bind_eq_bind, Option.bind_some,
    hfraction, htail, decide_true]

/-- A midnight, and the instant it denotes. -/
theorem denotes_localMidnight (d : Date) (zone : ZoneInfo) :
    Denotes (CalendarTomorrowAgendaWorkflow.localMidnight d zone)
      (Python.timeOf d 0 (zone.utcoffset false (d.number * 86400))) := by
  have hoffset := zone.isOffset_utcoffset false (d.number * 86400)
  exact ⟨rfc3339TimestampPattern_isoSeconds (by norm_num) hoffset,
    PyIsoTime.fromisoformat_isoSeconds d 0 _ (by norm_num) hoffset, rfl⟩

end Texts

/-! ### The window of tomorrow -/

open CalendarTomorrowAgendaWorkflow (localMidnight window payload)

/-- A payload whose window is accepted by the orchestrator, and is that of the instants
whose local date has a given number. -/
def IsWindowOfDay [PyParse] (zone : ZoneInfo) (day : ℤ) (payload : Dict) : Prop :=
  ∃ request s e, CalendarEventListOrchestrationRequest.new ((payload.get "time_min").getD .none)
      ((payload.get "time_max").getD .none) ((payload.get "max_results").getD .none)
      ((payload.get "max_pages").getD .none) = .ok request ∧
    Denotes request.timeMin s ∧ Denotes request.timeMax e ∧
    ∀ t : ℤ, s.instant ≤ t ∧ t < e.instant ↔ zone.localDay t = day

/-- The workflow asks for a window, of exactly the instants whose local date is the day
after that of now. -/
def ListsTomorrow [PyParse] (now : LocalDatetime) (key : String) (zone : ZoneInfo) : Prop :=
  ∃ localNow w, now.astimezone key zone = .ok localNow ∧ window now key zone = .ok w ∧
    IsWindowOfDay zone (localNow.day + 1) (payload w)

/-- Now can be told in the time zone, three days before the end of the calendar, and the
clock does not jump over either midnight of tomorrow, or over the whole day. -/
def RegularTomorrow (now : LocalDatetime) (key : String) (zone : ZoneInfo) : Prop :=
  ∃ localNow, now.astimezone key zone = .ok localNow ∧ localNow.day + 2 < Date.count ∧
    zone.clock.Regular (86400 * (localNow.day + 1)) (86400 * (localNow.day + 2))

/-- No jump of the clock is longer than a day. -/
def JumpsWithinDay (zone : ZoneInfo) : Prop :=
  ∀ i < zone.clock.count, |zone.clock.jumpsTo i - zone.clock.jumpsFrom i| ≤ 86400

section Window

variable {now : LocalDatetime} {key : String} {zone : ZoneInfo} {localNow : LocalTime}
  {w : CalendarAgendaWindow}

/-- The entries of the payload; it asks for no page in particular. -/
theorem get_payload (w : CalendarAgendaWindow) :
    (payload w).get "time_min" = some (.str w.timeMin) ∧
      (payload w).get "time_max" = some (.str w.timeMax) ∧
      (payload w).get "max_results" = some (.int CALENDAR_LIST_MAX_MAX_RESULTS) ∧
      (payload w).get "max_pages" = some (.int CALENDAR_LIST_MAX_MAX_PAGES) ∧
      (payload w).get "page_token" = none := by
  simp [payload, OrderedDict.ofList, OrderedDict.update, OrderedDict.get_set]

theorem window_eq_ok (h : now.astimezone key zone = .ok localNow)
    (hlt : localNow.day + 2 < Date.count) : ∃ w, window now key zone = .ok w := by
  have hnumber := localNow.number_date
  have hfirst : localNow.date.number + 1 < Date.count := by omega
  have hsecond : (Date.ofNumber _ hfirst).number + 1 < Date.count := by
    rw [Date.number_ofNumber]
    omega
  rw [window, h, Except.ok_bind, Date.addDays_eq_ok_iff.mpr ⟨hfirst, rfl⟩, Except.ok_bind,
    Date.addDays_eq_ok_iff.mpr ⟨hsecond, rfl⟩]
  exact ⟨_, rfl⟩

/-- The midnights are those of the two days after today. -/
theorem midnights_of_window (h : now.astimezone key zone = .ok localNow)
    (hw : window now key zone = .ok w) :
    localNow.day + 2 < Date.count ∧ ∃ d d' : Date, (d.number : ℤ) = localNow.day + 1 ∧
      (d'.number : ℤ) = localNow.day + 2 ∧ w.timeMin = localMidnight d zone ∧
      w.timeMax = localMidnight d' zone := by
  have hnumber := localNow.number_date
  rw [window, h, Except.ok_bind] at hw
  obtain ⟨d, hd, hw⟩ := Except.bind_eq_ok_iff.mp hw
  obtain ⟨d', hd', hw⟩ := Except.bind_eq_ok_iff.mp hw
  obtain ⟨hfirst, rfl⟩ := Date.addDays_eq_ok_iff.mp hd
  obtain ⟨hsecond, rfl⟩ := Date.addDays_eq_ok_iff.mp hd'
  obtain rfl := Except.ok.inj hw
  have hnext : (Date.ofNumber _ hfirst).number = localNow.date.number + 1 :=
    Date.number_ofNumber hfirst
  have hlast : (Date.ofNumber _ hsecond).number = (Date.ofNumber _ hfirst).number + 1 :=
    Date.number_ofNumber hsecond
  exact ⟨by omega, _, _, by omega, by omega, rfl, rfl⟩

/-- Bounding the instants of a day is bounding its seconds. -/
theorem instants_iff_seconds {s e day : ℤ} :
    (s * 1000000 < e * 1000000 ∧
        ∀ t : ℤ, s * 1000000 ≤ t ∧ t < e * 1000000 ↔ zone.localDay t = day) ↔
      zone.clock.Window (86400 * day) (86400 * (day + 1)) s e := by
  rw [JumpingClock.Window]
  refine and_congr (by omega) ⟨fun h u => ?_, fun h t => ?_⟩
  · have hinstant := h (u * 1000000)
    rw [ZoneInfo.localDay_eq, Int.mul_ediv_cancel _ (by norm_num)] at hinstant
    omega
  · have hsecond := h (t / 1000000)
    rw [ZoneInfo.localDay_eq]
    omega

variable [PyIsoTime]

/-- Two texts are accepted as a window if they denote times in order. -/
theorem isWindowOfDay_iff {s e : Timestamp} {day : ℤ} (hs : Denotes w.timeMin s)
    (he : Denotes w.timeMax e) : IsWindowOfDay zone day (payload w) ↔
      s.instant < e.instant ∧ ∀ t : ℤ, s.instant ≤ t ∧ t < e.instant ↔ zone.localDay t = day := by
  obtain ⟨hmin, hmax, hresults, hpages, -⟩ := get_payload w
  rw [IsWindowOfDay, hmin, hmax, hresults, hpages]
  simp only [Option.getD_some]
  have hunique : ∀ {text : String} {t t' : Timestamp}, Denotes text t → Denotes text t' → t = t' := by
    intro text t t' h h'
    exact Option.some.inj (h.2.1.symm.trans h'.2.1)
  constructor
  · rintro ⟨request, s', e', hnew, hs', he', hday⟩
    obtain ⟨htmin, htmax, -, -⟩ := CalendarEventListOrchestrationRequest.new_eq_ok_iff.mp hnew
    rw [← Value.str.inj htmin] at hs'
    rw [← Value.str.inj htmax] at he'
    obtain rfl := hunique hs hs'
    obtain rfl := hunique he he'
    obtain ⟨s', e', hs'', he'', hlt⟩ := request.isWindow
    rw [← Value.str.inj htmin] at hs''
    rw [← Value.str.inj htmax] at he''
    obtain rfl := hunique hs hs''
    obtain rfl := hunique he he''
    exact ⟨hlt, hday⟩
  · rintro ⟨hlt, hday⟩
    exact ⟨⟨w.timeMin, w.timeMax, CALENDAR_LIST_MAX_MAX_RESULTS, CALENDAR_LIST_MAX_MAX_PAGES,
      ⟨s, e, hs, he, hlt⟩, by decide, by decide⟩, s, e,
      CalendarEventListOrchestrationRequest.new_eq_ok_iff.mpr ⟨rfl, rfl, rfl, rfl⟩, hs, he, hday⟩

/-- The window is that of the day exactly when the times of its midnights are. -/
theorem isWindowOfDay_iff_window (h : now.astimezone key zone = .ok localNow)
    (hw : window now key zone = .ok w) :
    ∃ j j', IsPlace zone.clock.wall zone.clock.count (86400 * (localNow.day + 1)) j ∧
      IsPlace zone.clock.wall zone.clock.count (86400 * (localNow.day + 2)) j' ∧
      (IsWindowOfDay zone (localNow.day + 1) (payload w) ↔
        zone.clock.Window (86400 * (localNow.day + 1)) (86400 * (localNow.day + 2))
          (zone.clock.firstAt (86400 * (localNow.day + 1)) j)
          (zone.clock.firstAt (86400 * (localNow.day + 2)) j')) := by
  obtain ⟨-, d, d', hd, hd', hmin, hmax⟩ := midnights_of_window h hw
  obtain ⟨j, hj, hfirst⟩ := zone.exists_place_utcoffset (d.number * 86400)
  obtain ⟨j', hj', hlast⟩ := zone.exists_place_utcoffset (d'.number * 86400)
  have hs := denotes_localMidnight d zone
  have he := denotes_localMidnight d' zone
  rw [← hmin] at hs
  rw [← hmax] at he
  rw [hd, mul_comm] at hj hfirst
  rw [hd', mul_comm] at hj' hlast
  refine ⟨j, j', hj, hj', ?_⟩
  have hinstant : ∀ (d : Date) (n : ℤ), (d.number : ℤ) = n →
      (Python.timeOf d 0 (zone.utcoffset false (d.number * 86400))).instant =
        (86400 * n - 60 * zone.utcoffset false (86400 * n)) * 1000000 := by
    rintro d _ rfl
    rw [Python.timeOf, mul_comm (86400 : ℤ)]
    rw [Nat.cast_zero, add_zero]
  have hnext : localNow.day + 1 + 1 = localNow.day + 2 := by omega
  rw [isWindowOfDay_iff hs he, hinstant d _ hd, hinstant d' _ hd', instants_iff_seconds, hnext,
    hfirst, hlast]

end Window

/-- The workflow walks over the pages of the window it asks for. -/
theorem execute_of_listsTomorrow [PyParse] {zones : String → Option ZoneInfo} {actionId : UUID}
    {request : CalendarTomorrowAgendaRequest} {key : String} {zone : ZoneInfo}
    (hvalid : CalendarTomorrowAgendaWorkflow.validateRequest zones request = .ok (key, zone))
    (h : ListsTomorrow request.now key zone) :
    ∃ w orchestration, window request.now key zone = .ok w ∧
      orchestration.timeMin = w.timeMin ∧ orchestration.timeMax = w.timeMax ∧
      CalendarTomorrowAgendaWorkflow.execute zones actionId request =
        (CalendarEventListOrchestrator.walk orchestration
          (CalendarTomorrowAgendaWorkflow.agendaAction actionId w) (some request.accountContext)
          {}).bind fun
            | .error error => .ret (.error (.raised error))
            | .ok result => .ret (CalendarTomorrowAgendaWorkflow.agendaResult key w result) := by
  obtain ⟨localNow, w, -, hw, orchestration, s, e, hnew, -⟩ := h
  obtain ⟨hmin, hmax, -, -, htoken⟩ := get_payload w
  have haccepted := CalendarEventListOrchestrationRequest.new_eq_ok_iff.mp hnew
  rw [hmin, hmax] at haccepted
  refine ⟨w, orchestration, hw, (Value.str.inj haccepted.1).symm,
    (Value.str.inj haccepted.2.1).symm, ?_⟩
  have horchestrator : CalendarEventListOrchestrator.execute
      (CalendarTomorrowAgendaWorkflow.agendaAction actionId w) (some request.accountContext) =
      CalendarEventListOrchestrator.walk orchestration
        (CalendarTomorrowAgendaWorkflow.agendaAction actionId w) (some request.accountContext)
        {} := by
    have hnone : ¬(CalendarTomorrowAgendaWorkflow.agendaAction actionId w).payload.contains
        "page_token" = true := by
      rw [OrderedDict.contains, CalendarTomorrowAgendaWorkflow.agendaAction, htoken]
      exact Bool.false_ne_true
    rw [CalendarEventListOrchestrator.execute, if_neg hnone,
      CalendarTomorrowAgendaWorkflow.agendaAction, hnew]
  rw [CalendarTomorrowAgendaWorkflow.execute, hvalid]
  dsimp only
  rw [hw]
  dsimp only
  rw [horchestrator]

/-- Where the clock of a time zone does not jump over a midnight of tomorrow, or over the
whole day, the agenda is that of exactly the local day after today. Where no jump of the clock
is longer than a day, it is so nowhere else. -/
theorem tomorrow_exact_iff [PyIsoTime] (now : LocalDatetime) (key : String) (zone : ZoneInfo) :
    (RegularTomorrow now key zone → ListsTomorrow now key zone) ∧
      (JumpsWithinDay zone → ListsTomorrow now key zone → RegularTomorrow now key zone) := by
  constructor
  · rintro ⟨localNow, hnow, hlt, hregular⟩
    obtain ⟨w, hw⟩ := window_eq_ok hnow hlt
    obtain ⟨j, j', hj, hj', hiff⟩ := isWindowOfDay_iff_window hnow hw
    exact ⟨localNow, w, hnow, hw,
      hiff.mpr (JumpingClock.window_of_regular hj hj' (by omega) hregular)⟩
  · rintro hshort ⟨localNow, w, hnow, hw, hday⟩
    obtain ⟨j, j', hj, hj', hiff⟩ := isWindowOfDay_iff_window hnow hw
    refine ⟨localNow, hnow, (midnights_of_window hnow hw).1, ?_⟩
    refine JumpingClock.regular_of_window hj hj' (fun i hi => ?_) (hiff.mp hday)
    exact (hshort i hi).trans (by omega)

/-- The east of America, where the clocks go forward on March 8, 2026, at two in the morning. -/
def springForward : ZoneInfo where
  before := -300
  transitions := [(63908550000, -240)]
  increasing := by decide
  isOffset := by decide

/-- March 7, 2026, at noon in UTC. -/
def dayBeforeSpring : LocalDatetime where
  shown := ⟨63908481600000000, by decide⟩
  utcoffset := some 0
  zoneKey := some "UTC"

/-- A zone with one transition jumps over a reading there or nowhere. -/
theorem not_jumpsOver_of_count_one {c : JumpingClock} {m : ℤ} (hcount : c.count = 1)
    (h : ¬(c.SkipsAt 0 m ∨ c.RepeatsAt 0 m)) : ¬c.JumpsOver m := by
  rintro ⟨i, hi, hjump⟩
  obtain rfl : i = 0 := by omega
  exact h hjump

/-- A day of twenty-three hours is listed whole. -/
theorem tomorrow_exact_of_springForward :
    @ListsTomorrow PyIsoTime.ascii.toPyParse dayBeforeSpring "America/New_York" springForward ∧
      RegularTomorrow dayBeforeSpring "America/New_York" springForward := by
  have hclock : springForward.clock.count = 1 := rfl
  have hregular : RegularTomorrow dayBeforeSpring "America/New_York" springForward := by
    refine ⟨⟨63908463600000000, by decide⟩, rfl, by decide, ?_⟩
    refine ⟨not_jumpsOver_of_count_one hclock ?_, not_jumpsOver_of_count_one hclock ?_, ?_⟩
    · unfold JumpingClock.SkipsAt JumpingClock.RepeatsAt
      decide
    · unfold JumpingClock.SkipsAt JumpingClock.RepeatsAt
      decide
    · rintro ⟨i, hi, hacross⟩
      obtain rfl : i = 0 := by omega
      revert hacross
      decide
  have hlists := (@tomorrow_exact_iff PyIsoTime.ascii dayBeforeSpring "America/New_York"
    springForward).1 hregular
  refine ⟨hlists, (@tomorrow_exact_iff PyIsoTime.ascii dayBeforeSpring "America/New_York"
    springForward).2 ?_ hlists⟩
  intro i hi
  obtain rfl : i = 0 := by omega
  decide

/-- Newfoundland, where the clocks go back on November 7, 2010, from a minute past midnight
to a minute past eleven in the evening of the day before. -/
def fallBackOverMidnight : ZoneInfo where
  before := -150
  transitions := [(63424693860, -210)]
  increasing := by decide
  isOffset := by decide

/-- November 6, 2010, at noon in UTC. -/
def dayBeforeFall : LocalDatetime where
  shown := ⟨63424641600000000, by decide⟩
  utcoffset := some 0
  zoneKey := some "UTC"

/-- The agenda begins a minute before the clock goes back, and takes in the last hour of
November 6. -/
theorem not_listsTomorrow_fallBackOverMidnight :
    (∃ w s e, window dayBeforeFall "America/St_Johns" fallBackOverMidnight = .ok w ∧
      w.timeMin = "2010-11-07T00:00:00-02:30" ∧ w.timeMax = "2010-11-08T00:00:00-03:30" ∧
      @Denotes PyIsoTime.ascii.toPyParse w.timeMin s ∧
      @Denotes PyIsoTime.ascii.toPyParse w.timeMax e ∧
      s.instant ≤ 63424693860000000 ∧ 63424693860000000 < e.instant ∧
      fallBackOverMidnight.localDay 63424693860000000 = 734081) ∧
    ¬@ListsTomorrow PyIsoTime.ascii.toPyParse dayBeforeFall "America/St_Johns"
      fallBackOverMidnight := by
  obtain ⟨w, hw⟩ : ∃ w, window dayBeforeFall "America/St_Johns" fallBackOverMidnight = .ok w :=
    ⟨_, rfl⟩
  have hmidnights : w.timeMin = "2010-11-07T00:00:00-02:30" ∧
      w.timeMax = "2010-11-08T00:00:00-03:30" := by
    obtain rfl := Except.ok.inj hw
    decide
  have hs : @Denotes PyIsoTime.ascii.toPyParse w.timeMin ⟨63424693800000000, true⟩ := by
    rw [hmidnights.1]
    exact ⟨by decide, by decide, rfl⟩
  have he : @Denotes PyIsoTime.ascii.toPyParse w.timeMax ⟨63424783800000000, true⟩ := by
    rw [hmidnights.2]
    exact ⟨by decide, by decide, rfl⟩
  have hday : fallBackOverMidnight.localDay 63424693860000000 = 734081 := by decide
  refine ⟨⟨w, _, _, hw, hmidnights.1, hmidnights.2, hs, he, by decide, by decide, hday⟩, ?_⟩
  rintro ⟨localNow, w', hnow, hw', hwindow⟩
  obtain rfl := Except.ok.inj (hw.symm.trans hw')
  have htoday : localNow.day = 734081 := by
    obtain rfl := Except.ok.inj hnow
    decide
  have hexact := ((@isWindowOfDay_iff _ _ PyIsoTime.ascii _ _ _ hs he).mp hwindow).2 63424693860000000
  have hin := hexact.mp ⟨by decide, by decide⟩
  omega

end Velox
