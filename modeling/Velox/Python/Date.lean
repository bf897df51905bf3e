import Velox.Core.Error
import Velox.Python.Parse

/-!
# Dates

`datetime.date` in the proleptic Gregorian calendar, from the year 1 to the year 9999.
A date is numbered by the days before it, the first of January of the year 1 having
number zero.

## Main definitions

* `Date` — a valid date
* `Date.number`, `Date.ofNumber` — its number, and the date of a number
* `Date.addDays` — `date + timedelta(days=n)`
* `Date.isoformat` — its ISO 8601 text
* `Python.isoSeconds` — the text of a time with a UTC offset
* `PyIsoTime` — reading such a text

## Main results

* `Date.number_ofNumber` — the date of a number has that number
* `Python.fromisoformat_isoSeconds` — the text of a time reads back
-/

set_option autoImplicit false

/-- `datetime.date`. -/
structure Date where
  year : ℕ
  month : ℕ
  day : ℕ
  valid : (1 ≤ year ∧ year ≤ 9999) ∧ (1 ≤ month ∧ month ≤ 12) ∧
    (1 ≤ day ∧ day ≤ daysInMonth year month)
  deriving DecidableEq

namespace Date

/-- The number of dates. -/
def count : ℕ := 3652059

/-- The number of days before a date. -/
def number (d : Date) : ℕ := Python.daysBefore d.year d.month d.day

/-- The number of days before a year. -/
def daysBeforeYear (year : ℕ) : ℕ :=
  365 * (year - 1) + (year - 1) / 4 - (year - 1) / 100 + (year - 1) / 400

/-- The number of days of a year before a month. -/
def daysBeforeMonth (year month : ℕ) : ℕ :=
  ((List.range (month - 1)).map fun m => daysInMonth year (m + 1)).sum

/-- The number of days of a year. -/
def daysInYear (year : ℕ) : ℕ := daysBeforeMonth year 13

/-- The year of a day, and how many days of it come before. -/
def splitYear (n : ℕ) : ℕ × ℕ :=
  let n400 := n / 146097
  let n100 := min (n % 146097 / 36524) 3
  let rest := n % 146097 - n100 * 36524
  let n4 := rest / 1461
  let n1 := min (rest % 1461 / 365) 3
  (n400 * 400 + n100 * 100 + n4 * 4 + n1 + 1, rest % 1461 - n1 * 365)

/-- The month of a day of a year, counting on from some month, and how many days of it
come before. -/
def splitMonth (year : ℕ) : ℕ → ℕ → ℕ → ℕ × ℕ
  | 0, month, rest => (month, rest)
  | more + 1, month, rest =>
    if rest < daysInMonth year month then (month, rest)
    else splitMonth year more (month + 1) (rest - daysInMonth year month)

theorem daysBeforeMonth_succ (year : ℕ) {month : ℕ} (h : 1 ≤ month) :
    daysBeforeMonth year (month + 1) = daysBeforeMonth year month + daysInMonth year month := by
  obtain ⟨m, rfl⟩ : ∃ m, month = m + 1 := ⟨month - 1, by omega⟩
  simp [daysBeforeMonth, List.range_succ]

@[simp] theorem daysBeforeMonth_one (year : ℕ) : daysBeforeMonth year 1 = 0 := rfl

theorem daysInYear_eq (year : ℕ) : daysInYear year = 337 + daysInMonth year 2 := by
  -- the other months have the same days in every year
  change 31 + (daysInMonth year 2 + (31 + (30 + (31 + (30 + (31 + (31 + (30 + (31 + (30 +
    (31 + 0))))))))))) = 337 + daysInMonth year 2
  omega

/-- Four centuries, a century, four years and a year have their days. -/
theorem daysBeforeYear_eq (n400 : ℕ) {n100 n4 n1 : ℕ} (h100 : n100 ≤ 3) (h4 : n4 ≤ 24)
    (h1 : n1 ≤ 3) : daysBeforeYear (n400 * 400 + n100 * 100 + n4 * 4 + n1 + 1) =
      146097 * n400 + 36524 * n100 + 1461 * n4 + 365 * n1 := by
  rw [daysBeforeYear, Nat.add_sub_cancel]
  have hfour : (n400 * 400 + n100 * 100 + n4 * 4 + n1) / 4 = n400 * 100 + n100 * 25 + n4 := by omega
  have hcentury : (n400 * 400 + n100 * 100 + n4 * 4 + n1) / 100 = n400 * 4 + n100 := by omega
  have hcycle : (n400 * 400 + n100 * 100 + n4 * 4 + n1) / 400 = n400 := by omega
  rw [hfour, hcentury, hcycle]
  omega

/-- The last of four years is a leap year, but for the last of a century that is not the
last of four. -/
theorem daysInMonth_february (n400 n100 : ℕ) {n4 : ℕ} (h4 : n4 ≤ 24) (h : n4 ≠ 24 ∨ n100 = 3) :
    daysInMonth (n400 * 400 + n100 * 100 + n4 * 4 + 3 + 1) 2 = 29 := by
  rw [daysInMonth, if_pos rfl, if_pos]
  omega

/-- The days before the year found, and those of the year before the day, are all the days
before the day. -/
theorem splitYear_spec (n : ℕ) :
    daysBeforeYear (splitYear n).1 + (splitYear n).2 = n ∧
      (splitYear n).2 < daysInYear (splitYear n).1 := by
  obtain ⟨n100, h100⟩ : ∃ k, k = min (n % 146097 / 36524) 3 := ⟨_, rfl⟩
  obtain ⟨rest, hrest⟩ : ∃ k, k = n % 146097 - n100 * 36524 := ⟨_, rfl⟩
  obtain ⟨n1, h1⟩ : ∃ k, k = min (rest % 1461 / 365) 3 := ⟨_, rfl⟩
  have hsplit : splitYear n =
      (n / 146097 * 400 + n100 * 100 + rest / 1461 * 4 + n1 + 1, rest % 1461 - n1 * 365) := by
    rw [splitYear, ← h100, ← hrest, ← h1]
  have hbound : rest ≤ 36524 ∧ (rest = 36524 → n100 = 3) := by omega
  have h4 : rest / 1461 ≤ 24 := by omega
  rw [hsplit, daysBeforeYear_eq _ (by omega) h4 (by omega), daysInYear_eq]
  constructor
  · omega
  · -- only a leap year has a day after the 365 counted
    by_cases hlast : n1 = 3 ∧ rest % 1461 = 1460
    · obtain ⟨rfl, hlast⟩ := hlast
      have hleap := daysInMonth_february (n / 146097) n100 h4 (by omega)
      dsimp only
      omega
    · have hfebruary : 28 ≤ daysInMonth (n / 146097 * 400 + n100 * 100 + rest / 1461 * 4 + n1 + 1) 2 := by
        rw [daysInMonth, if_pos rfl]
        split_ifs <;> omega
      dsimp only
      omega

/-- The same for the month found, which is one of those counted. -/
theorem splitMonth_spec {year : ℕ} (more : ℕ) {month rest : ℕ} (hmonth : 1 ≤ month)
    (hrest : daysBeforeMonth year month + rest < daysBeforeMonth year (month + more + 1)) :
    daysBeforeMonth year (splitMonth year more month rest).1 +
        (splitMonth year more month rest).2 = daysBeforeMonth year month + rest ∧
      month ≤ (splitMonth year more month rest).1 ∧
      (splitMonth year more month rest).1 ≤ month + more ∧
      (splitMonth year more month rest).2 < daysInMonth year (splitMonth year more month rest).1 := by
  induction more generalizing month rest with
  | zero =>
    rw [Nat.add_zero, daysBeforeMonth_succ year hmonth] at hrest
    refine ⟨rfl, le_rfl, le_rfl, ?_⟩
    change rest < daysInMonth year month
    omega
  | succ more ih =>
    rw [splitMonth]
    split_ifs with hlt
    · exact ⟨rfl, le_rfl, by omega, hlt⟩
    · have hnext := daysBeforeMonth_succ year hmonth
      have hsame : month + 1 + more + 1 = month + (more + 1) + 1 := by omega
      have hlater : daysBeforeMonth year (month + 1) + (rest - daysInMonth year month) <
          daysBeforeMonth year (month + 1 + more + 1) := by
        rw [hsame]
        omega
      obtain ⟨hsum, hge, hle, hin⟩ := ih (by omega) hlater
      exact ⟨by omega, by omega, by omega, hin⟩

theorem splitYear_bounds {n : ℕ} (h : n < count) :
    1 ≤ (splitYear n).1 ∧ (splitYear n).1 ≤ 9999 := by
  rw [count] at h
  simp only [splitYear]
  omega

/-- The month of a day, and how many days of it come before. -/
def monthOf (n : ℕ) : ℕ × ℕ := splitMonth (splitYear n).1 11 1 (splitYear n).2

theorem monthOf_spec (n : ℕ) :
    daysBeforeMonth (splitYear n).1 (monthOf n).1 + (monthOf n).2 = (splitYear n).2 ∧
      1 ≤ (monthOf n).1 ∧ (monthOf n).1 ≤ 12 ∧
      (monthOf n).2 < daysInMonth (splitYear n).1 (monthOf n).1 := by
  have hin : daysBeforeMonth (splitYear n).1 1 + (splitYear n).2 <
      daysBeforeMonth (splitYear n).1 (1 + 11 + 1) := by
    rw [daysBeforeMonth_one, Nat.zero_add]
    exact (splitYear_spec n).2
  have hmonth := splitMonth_spec 11 le_rfl hin
  rwa [daysBeforeMonth_one, Nat.zero_add] at hmonth

/-- The date of a number. -/
def ofNumber (n : ℕ) (h : n < count) : Date where
  year := (splitYear n).1
  month := (monthOf n).1
  day := (monthOf n).2 + 1
  valid := by
    obtain ⟨-, hge, hle, hin⟩ := monthOf_spec n
    exact ⟨splitYear_bounds h, ⟨hge, hle⟩, by omega, by omega⟩

/-- The date of a number has that number. -/
@[simp] theorem number_ofNumber {n : ℕ} (h : n < count) : (ofNumber n h).number = n := by
  obtain ⟨hyear, -⟩ := splitYear_spec n
  obtain ⟨hmonth, -⟩ := monthOf_spec n
  change daysBeforeYear (splitYear n).1 + daysBeforeMonth (splitYear n).1 (monthOf n).1 +
    ((monthOf n).2 + 1 - 1) = n
  omega

/-- `date + timedelta(days=days)`. -/
def addDays (d : Date) (days : ℕ) : Except Velox.Raised Date :=
  if h : d.number + days < count then .ok (ofNumber _ h)
  else .error { kind := .overflowError, message := "date value out of range" }

theorem addDays_eq_ok_iff {d d' : Date} {days : ℕ} :
    d.addDays days = .ok d' ↔ ∃ h : d.number + days < count, ofNumber _ h = d' := by
  rw [addDays]
  split_ifs with h
  · simp [h]
  · simp [h]

/-- `date.isoformat()`, as a list of characters. -/
def isoChars (d : Date) : List Char :=
  FixedWidth.encode 10 4 d.year ++ '-' :: (FixedWidth.encode 10 2 d.month ++
    '-' :: FixedWidth.encode 10 2 d.day)

/-- `date.isoformat()`. -/
def isoformat (d : Date) : String := String.ofList d.isoChars

theorem day_lt (d : Date) : d.day < 100 := by
  have hmonth : daysInMonth d.year d.month ≤ 31 := by
    unfold daysInMonth
    split_ifs <;> omega
  have := d.valid.2.2.2
  omega

end Date

namespace Python

/-- The text of a UTC offset, in minutes. -/
def offsetChars (offset : ℤ) : List Char :=
  (if offset < 0 then '-' else '+') :: (FixedWidth.encode 10 2 (offset.natAbs / 60) ++
    ':' :: FixedWidth.encode 10 2 (offset.natAbs % 60))

/-- The text of a second of a day. -/
def clockChars (second : ℕ) : List Char :=
  FixedWidth.encode 10 2 (second / 3600) ++ ':' :: (FixedWidth.encode 10 2 (second / 60 % 60) ++
    ':' :: FixedWidth.encode 10 2 (second % 60))

/-- `datetime.isoformat(timespec='seconds')` at a second of a day, with a UTC offset in
minutes. -/
def isoSeconds (d : Date) (second : ℕ) (offset : ℤ) : String :=
  String.ofList (d.isoChars ++ 'T' :: (clockChars second ++ offsetChars offset))

/-- The time such a text denotes. -/
def timeOf (d : Date) (second : ℕ) (offset : ℤ) : Timestamp where
  instant := (d.number * 86400 + second - 60 * offset) * 1000000
  aware := true

/-- An offset is less than a day. -/
def IsOffset (offset : ℤ) : Prop := -1440 < offset ∧ offset < 1440

instance (offset : ℤ) : Decidable (IsOffset offset) := inferInstanceAs (Decidable (_ ∧ _))

section Read

variable {d : Date} {second : ℕ} {offset : ℤ}

theorem read_two {n : ℕ} (h : n < 100) (cs : List Char) :
    FixedWidth.read 10 2 (FixedWidth.encode 10 2 n ++ cs) = some (n, cs) :=
  FixedWidth.read_encode_append (by norm_num) (by simpa using h) cs

theorem readOffset_sign {sign : Char} (hsign : sign ≠ 'Z') {hours minutes : ℕ} (hh : hours < 24)
    (hm : minutes < 60) :
    readOffset (sign :: (FixedWidth.encode 10 2 hours ++ ':' :: FixedWidth.encode 10 2 minutes)) =
      if sign = '+' then some (some (hours * 3600 + minutes * 60 : ℤ))
      else if sign = '-' then some (some (-(hours * 3600 + minutes * 60 : ℤ)))
      else none := by
  have hread := read_two (n := minutes) (by omega) []
  rw [List.append_nil] at hread
  have hshort : (hours * 3600 + minutes * 60 : ℤ) < 86400 := by omega
  rw [readOffset]
  · simp [read_two (n := hours) (by omega), hread, hshort]
  · intro heq
    exact absurd heq hsign

theorem readOffset_offsetChars (h : IsOffset offset) :
    readOffset (offsetChars offset) = some (some (60 * offset)) := by
  obtain ⟨hlow, hhigh⟩ := h
  rw [offsetChars, readOffset_sign (by split_ifs <;> decide) (by omega) (by omega)]
  by_cases hneg : offset < 0
  · rw [if_pos hneg, if_neg (by decide), if_pos rfl, Option.some.injEq, Option.some.injEq]
    omega
  · rw [if_neg hneg, if_pos rfl, Option.some.injEq, Option.some.injEq]
    omega

theorem readMicrosecond_offsetChars : readMicrosecond (offsetChars offset) = (0, offsetChars offset) := by
  unfold offsetChars
  split_ifs <;> rfl

/-- A numeral of a given width is read, and what follows goes on with the rest. -/
theorem read_bind {α : Type} {w n : ℕ} {cs : List Char} {f : ℕ × List Char → Option α}
    (h : n < 10 ^ w) : (FixedWidth.read 10 w (FixedWidth.encode 10 w n ++ cs) >>= f) = f (n, cs) := by
  rw [FixedWidth.read_encode_append (by norm_num) h]
  rfl

theorem readChar_bind {α : Type} {c : Char} {cs : List Char} {f : List Char → Option α} :
    (DateTime.readChar c (c :: cs) >>= f) = f cs := by
  rw [DateTime.readChar_cons]
  rfl

/-- The fields of the text of a time, in their order. -/
theorem toList_isoSeconds : (isoSeconds d second offset).toList =
    FixedWidth.encode 10 4 d.year ++ '-' :: (FixedWidth.encode 10 2 d.month ++
      '-' :: (FixedWidth.encode 10 2 d.day ++ 'T' :: (FixedWidth.encode 10 2 (second / 3600) ++
      ':' :: (FixedWidth.encode 10 2 (second / 60 % 60) ++ ':' :: (FixedWidth.encode 10 2 (second % 60) ++
      offsetChars offset))))) := by
  simp [isoSeconds, Date.isoChars, clockChars]

/-- The text of a time reads back. -/
theorem fromisoformat_isoSeconds (hsecond : second < 86400) (h : IsOffset offset) :
    fromisoformat (isoSeconds d second offset) = some (timeOf d second offset) := by
  obtain ⟨⟨hy, hy'⟩, ⟨hmo, hmo'⟩, hd, hd'⟩ := d.valid
  have hday := d.day_lt
  have hvalid : ValidDateTime d.year d.month d.day (second / 3600) (second / 60 % 60)
      (second % 60) 0 :=
    ⟨⟨hy, hy'⟩, ⟨hmo, hmo'⟩, ⟨hd, hd'⟩, by omega, by omega, by omega, by norm_num⟩
  rw [fromisoformat, toList_isoSeconds]
  refine (read_bind (by omega)).trans ?_
  refine readChar_bind.trans ?_
  refine (read_bind (by omega)).trans ?_
  refine readChar_bind.trans ?_
  refine (read_bind (by omega)).trans ?_
  refine readChar_bind.trans ?_
  refine (read_bind (by omega)).trans ?_
  refine readChar_bind.trans ?_
  refine (read_bind (by omega)).trans ?_
  refine readChar_bind.trans ?_
  refine (read_bind (by omega)).trans ?_
  dsimp only
  rw [readMicrosecond_offsetChars]
  dsimp only
  rw [readOffset_offsetChars h]
  change (if _ then _ else _) = _
  rw [if_pos hvalid]
  refine congrArg (fun instant => some (Timestamp.mk instant true)) ?_
  rw [Date.number, Option.getD_some]
  omega

end Read

end Python

/-- Reading the texts that `isoformat` writes, as documented. -/
class PyIsoTime extends PyParse where
  /-- `\d` matches the ASCII digits. -/
  isdecimal_of_isDigit (c : Char) : c.isDigit → isdecimal c
  /-- `datetime.fromisoformat` reads what `isoformat` writes. -/
  fromisoformat_isoSeconds (d : Date) (second : ℕ) (offset : ℤ) : second < 86400 →
    Python.IsOffset offset →
    fromisoformat (Python.isoSeconds d second offset) = some (Python.timeOf d second offset)

/-- On ASCII text. -/
@[reducible] def PyIsoTime.ascii : PyIsoTime where
  toPyParse := PyParse.ascii
  isdecimal_of_isDigit _ h := h
  fromisoformat_isoSeconds _ _ _ := Python.fromisoformat_isoSeconds
