import Velox.Lib.JumpingClock
import Velox.Python.Date

/-!
# Time zones

`zoneinfo.ZoneInfo` with an offset before its first transition and one from each transition
on. Offsets are whole minutes, transitions are counted in seconds from the beginning of the
year 1 in UTC. A local time is looked up among the transitions as the clock shows them; one
that is shown twice, or never, has the offset before the transition unless its fold is set.

## Main definitions

* `ZoneInfo` — the offsets of a time zone
* `ZoneInfo.utcoffset` — the offset of a local time
* `ZoneInfo.localTime` — what the clock of a time zone shows at an instant
* `ZoneInfo.localDay` — the number of the date it shows
* `LocalTime` — what a `datetime` shows
* `LocalDatetime`, `LocalDatetime.astimezone` — a `datetime`, and what it shows elsewhere

## Main results

* `ZoneInfo.exists_place_utcoffset` — the offset of a local time is that of its place
* `ZoneInfo.localDay_eq` — the local date is read off the clock of the time zone
-/

set_option autoImplicit false

/-- The data of a time zone. -/
structure ZoneInfo where
  /-- `_tti_before`. -/
  before : ℤ
  /-- The time of each transition, and the offset from then on. -/
  transitions : List (ℤ × ℤ)
  increasing : (transitions.map Prod.fst).Pairwise (· < ·)
  isOffset : ∀ offset ∈ before :: transitions.map Prod.snd, Python.IsOffset offset

namespace ZoneInfo

/-- `_trans_utc`. -/
def transUtc (zone : ZoneInfo) : List ℤ := zone.transitions.map Prod.fst

/-- `_ttinfos`. -/
def ttinfos (zone : ZoneInfo) : List ℤ := zone.transitions.map Prod.snd

/-- `_tz_after`, where no rule goes on. -/
def after (zone : ZoneInfo) : ℤ := zone.ttinfos.getLastD zone.before

/-- `_ts_to_local`: the later end of each transition, or with a fold the earlier one. -/
def tsToLocal (fold : Bool) : ℤ → List (ℤ × ℤ) → List ℤ
  | _, [] => []
  | before, (time, after) :: transitions =>
    (time + 60 * (if fold then min before after else max before after)) ::
      tsToLocal fold after transitions

/-- `_trans_local[fold]`. -/
def transLocal (zone : ZoneInfo) (fold : Bool) : List ℤ :=
  tsToLocal fold zone.before zone.transitions

/-- The search for a timestamp among the transitions. -/
def find (zone : ZoneInfo) (transitions : List ℤ) (ts : ℤ) : ℤ :=
  if transitions ≠ [] ∧ ts < transitions.headD 0 then zone.before
  else if transitions = [] ∨ transitions.getLastD 0 < ts then zone.after
  else zone.ttinfos.getD (bisectRight transitions ts - 1) 0

/-- `_find_trans`: the offset of a local time. -/
def utcoffset (zone : ZoneInfo) (fold : Bool) (ts : ℤ) : ℤ := zone.find (zone.transLocal fold) ts

/-- What the clock shows at an instant, both in microseconds. -/
def localTime (zone : ZoneInfo) (instant : ℤ) : ℤ :=
  instant + 60 * zone.find zone.transUtc (instant / 1000000) * 1000000

/-- The microseconds of a day. -/
def microsecondsPerDay : ℤ := 86400000000

/-- The number of the date the clock shows. -/
def localDay (zone : ZoneInfo) (instant : ℤ) : ℤ := zone.localTime instant / microsecondsPerDay

/-- The clock of a time zone, in seconds. -/
def clock (zone : ZoneInfo) : JumpingClock where
  initial := 60 * zone.before
  jumps := zone.transitions.map fun transition => (transition.1, 60 * transition.2)
  increasing := by
    rw [List.map_map]
    exact zone.increasing

section Clock

variable (zone : ZoneInfo)

theorem times_clock : zone.clock.times = zone.transUtc := by
  rw [JumpingClock.times, clock, List.map_map]
  rfl

theorem count_clock : zone.clock.count = zone.transitions.length := by
  rw [JumpingClock.count, times_clock, transUtc, List.length_map]

theorem ahead_clock (i : ℕ) :
    zone.clock.ahead i = 60 * (zone.before :: zone.ttinfos).getD i 0 := by
  have hmap : zone.clock.initial :: zone.clock.jumps.map Prod.snd =
      (zone.before :: zone.ttinfos).map (60 * ·) := by
    simp [clock, ttinfos]
  rw [JumpingClock.ahead, hmap]
  exact List.getD_map _ 0 fun offset : ℤ => 60 * offset

theorem length_tsToLocal (fold : Bool) (before : ℤ) (transitions : List (ℤ × ℤ)) :
    (tsToLocal fold before transitions).length = transitions.length := by
  induction transitions generalizing before with
  | nil => rfl
  | cons transition transitions ih => simp [tsToLocal, ih]

/-- Without a fold, the transitions as the clock shows them are its walls. -/
theorem getD_tsToLocal {before : ℤ} {transitions : List (ℤ × ℤ)} {i : ℕ}
    (hi : i < transitions.length) :
    (tsToLocal false before transitions).getD i 0 =
      (transitions.map Prod.fst).getD i 0 + 60 * max ((before :: transitions.map Prod.snd).getD i 0)
        ((before :: transitions.map Prod.snd).getD (i + 1) 0) := by
  induction transitions generalizing before i with
  | nil => exact absurd hi (Nat.not_lt_zero i)
  | cons transition transitions ih =>
    cases i with
    | zero => rfl
    | succ i =>
      rw [List.length_cons, Nat.succ_lt_succ_iff] at hi
      exact ih hi

theorem wall_clock {i : ℕ} (hi : i < zone.transitions.length) :
    zone.clock.wall i = (zone.transLocal false).getD i 0 := by
  rw [transLocal, getD_tsToLocal hi, JumpingClock.wall, ahead_clock, ahead_clock,
    JumpingClock.time, times_clock, transUtc, ttinfos, mul_max_of_nonneg _ _ (by norm_num)]

theorem getLastD_eq_getD {α : Type} (a d : α) (l : List α) :
    l.getLastD a = (a :: l).getD l.length d := by
  induction l generalizing a with
  | nil => rfl
  | cons b l ih => rw [List.getLastD_cons, ih, List.length_cons, List.getD_cons_succ]

/-- The search among the transitions finds the offset of the place. -/
theorem exists_place_find {transitions : List ℤ} (hlength : transitions.length = zone.ttinfos.length)
    (ts : ℤ) : ∃ j, IsPlace (transitions.getD · 0) transitions.length ts j ∧
      zone.find transitions ts = (zone.before :: zone.ttinfos).getD j 0 := by
  have hplace := isPlace_bisectRight transitions ts
  rw [find]
  split_ifs with hbefore hafter
  · obtain ⟨hne, hlt⟩ := hbefore
    refine ⟨0, ⟨Nat.zero_le _, fun i hi => absurd hi (Nat.succ_ne_zero i), fun _ => ?_⟩, rfl⟩
    cases transitions with
    | nil => exact absurd rfl hne
    | cons first transitions => exact hlt
  · refine ⟨transitions.length, ⟨le_rfl, fun i hi => ?_, fun h => absurd h (lt_irrefl _)⟩, ?_⟩
    · rcases hafter with rfl | hlast
      · exact absurd hi (Nat.succ_ne_zero i)
      · rw [getLastD_eq_getD 0 0, ← hi, List.getD_cons_succ] at hlast
        exact hlast.le
    · rw [after, hlength]
      exact getLastD_eq_getD ..
  · obtain ⟨hne, -⟩ := not_or.mp hafter
    have hpos : bisectRight transitions ts ≠ 0 := by
      intro hzero
      rw [hzero] at hplace
      have hlt := hplace.after (List.length_pos_of_ne_nil hne)
      refine hbefore ⟨hne, ?_⟩
      cases transitions with
      | nil => exact absurd rfl hne
      | cons first transitions => exact hlt
    obtain ⟨j, hj⟩ := Nat.exists_eq_succ_of_ne_zero hpos
    rw [hj] at hplace ⊢
    exact ⟨j + 1, hplace, rfl⟩

/-- The offset of a local time is that of its place among the walls. -/
theorem exists_place_utcoffset (ts : ℤ) : ∃ j, IsPlace zone.clock.wall zone.clock.count ts j ∧
    ts - 60 * zone.utcoffset false ts = zone.clock.firstAt ts j := by
  have hlength : (zone.transLocal false).length = zone.ttinfos.length := by
    rw [transLocal, length_tsToLocal, ttinfos, List.length_map]
  obtain ⟨j, hplace, hfind⟩ := zone.exists_place_find hlength ts
  have hcount : (zone.transLocal false).length = zone.clock.count := by
    rw [transLocal, length_tsToLocal, count_clock]
  rw [hcount] at hplace
  have hwalls : ∀ i < zone.clock.count, (zone.transLocal false).getD i 0 = zone.clock.wall i := by
    intro i hi
    rw [count_clock] at hi
    exact (zone.wall_clock hi).symm
  refine ⟨j, hplace.congr hwalls, ?_⟩
  rw [utcoffset, hfind, JumpingClock.firstAt, ahead_clock]

/-- The clock shows a time plus the offset found for it. -/
theorem reading_clock (ts : ℤ) : zone.clock.reading ts = ts + 60 * zone.find zone.transUtc ts := by
  have hlength : zone.transUtc.length = zone.ttinfos.length := by
    rw [transUtc, ttinfos, List.length_map, List.length_map]
  obtain ⟨j, hplace, hfind⟩ := zone.exists_place_find hlength ts
  have hcount : zone.transUtc.length = zone.clock.count := by
    rw [transUtc, List.length_map, count_clock]
  rw [hcount] at hplace
  have htimes : ∀ i < zone.clock.count, zone.transUtc.getD i 0 = zone.clock.time i := by
    intro i _
    rw [JumpingClock.time, times_clock]
  rw [JumpingClock.reading, JumpingClock.offset_eq (hplace.congr htimes), ahead_clock, hfind]

theorem isOffset_find {transitions : List ℤ} (hlength : transitions.length = zone.ttinfos.length)
    (ts : ℤ) : Python.IsOffset (zone.find transitions ts) := by
  obtain ⟨j, -, hfind⟩ := zone.exists_place_find hlength ts
  rw [hfind]
  by_cases hj : j < (zone.before :: zone.ttinfos).length
  · rw [List.getD_eq_getElem _ _ hj]
    exact zone.isOffset _ (List.getElem_mem hj)
  · rw [List.getD_eq_default _ _ (not_lt.mp hj)]
    exact ⟨by norm_num, by norm_num⟩

theorem isOffset_utcoffset (fold : Bool) (ts : ℤ) : Python.IsOffset (zone.utcoffset fold ts) := by
  apply isOffset_find
  rw [transLocal, length_tsToLocal, ttinfos, List.length_map]

/-- The date shown at an instant is that of the second it is in. -/
theorem localDay_eq (instant : ℤ) :
    zone.localDay instant = zone.clock.reading (instant / 1000000) / 86400 := by
  rw [localDay, localTime, microsecondsPerDay, reading_clock]
  omega

end Clock

end ZoneInfo

/-! ### Datetimes -/

/-- What a `datetime` shows, in microseconds from the beginning of the year 1. -/
structure LocalTime where
  microsecond : ℤ
  inRange : 0 ≤ microsecond ∧ microsecond < Date.count * ZoneInfo.microsecondsPerDay

namespace LocalTime

/-- The number of the date. -/
def day (time : LocalTime) : ℤ := time.microsecond / ZoneInfo.microsecondsPerDay

theorem toNat_day (time : LocalTime) : (time.day.toNat : ℤ) = time.day ∧ time.day.toNat < Date.count := by
  obtain ⟨hlow, hhigh⟩ := time.inRange
  rw [day]
  simp only [Date.count, ZoneInfo.microsecondsPerDay] at hhigh ⊢
  omega

/-- `date()`. -/
def date (time : LocalTime) : Date := .ofNumber time.day.toNat time.toNat_day.2

@[simp] theorem number_date (time : LocalTime) : (time.date.number : ℤ) = time.day := by
  rw [date, Date.number_ofNumber, time.toNat_day.1]

/-- A time outside of the years from 1 to 9999 raises. -/
def ofMicrosecond (microsecond : ℤ) : Except Velox.Raised LocalTime :=
  if h : 0 ≤ microsecond ∧ microsecond < Date.count * ZoneInfo.microsecondsPerDay then
    .ok ⟨microsecond, h⟩
  else .error { kind := .overflowError, message := "date value out of range" }

end LocalTime

/-- A `datetime`. -/
structure LocalDatetime where
  shown : LocalTime
  /-- `utcoffset()`, in microseconds. -/
  utcoffset : Option ℤ
  /-- The key of its time zone, where that is a `ZoneInfo`. -/
  zoneKey : Option String

/-- What `now.astimezone(zone)` shows, for an aware `now`. One that is in the time zone
already is returned as it is. -/
def LocalDatetime.astimezone (now : LocalDatetime) (key : String) (zone : ZoneInfo) :
    Except Velox.Raised LocalTime := do
  if now.zoneKey = some key then return now.shown
  let utc ← LocalTime.ofMicrosecond (now.shown.microsecond - now.utcoffset.getD 0)
  LocalTime.ofMicrosecond (zone.localTime utc.microsecond)
