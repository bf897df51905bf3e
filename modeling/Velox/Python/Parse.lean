import Velox.Python.Time
import Velox.Python.Text

/-!
# Reading numerals, timestamps and quoted text

What the Calendar integration reads through the standard library. Decimal
numerals of ASCII digits read back as documented; how other digits, timestamps and
percent-encoded text are read is a parameter.

## Main definitions

* `Timestamp` — a parsed `datetime`, as far as it is compared
* `PyParse` — `re`'s `\d`, `str.isdigit`, `datetime.fromisoformat`, `quote` and
  `unquote`
* `Python.isdigit` — `str.isdigit()`
* `PyParse.ascii` — their behaviour on ASCII text

## Main results

* `Python.isdigit_toString` — a decimal numeral consists of digits
-/

set_option autoImplicit false

/-- A parsed `datetime`. The instant counts microseconds from the beginning of the
year 1 in UTC; a naive one is taken for UTC. -/
structure Timestamp where
  instant : ℤ
  /-- `parsed.tzinfo is not None`. -/
  aware : Bool
  deriving DecidableEq

/-- The number of digits up to which `int` reads a numeral. -/
def Python.intMaxStrDigits : ℕ := 4300

/-- What the server reads through `re`, `int`, `datetime` and `urllib`. -/
class PyParse extends PyStd where
  /-- Whether `\d` of a regular expression matches a character. -/
  isdecimal : Char → Bool
  /-- Whether `str.isdigit` counts a character as a digit. -/
  isdigitChar : Char → Bool
  /-- `datetime.fromisoformat(text)`; `none` where it raises `ValueError`. -/
  fromisoformat : String → Option Timestamp
  /-- `urllib.parse.quote(text, safe='')`. -/
  quote : String → String
  /-- `urllib.parse.unquote(text)`. -/
  unquote : String → String
  /-- ASCII digits are digits. -/
  isdigitChar_of_isDigit (c : Char) : c.isDigit → isdigitChar c
  /-- `int` reads what `str` writes, up to the limit on the number of digits. -/
  parseInt_toString (n : ℕ) : n < 10 ^ Python.intMaxStrDigits →
    parseInt (toString n) = some (n : ℤ)

namespace Python

/-- `str.isdigit()`. -/
def isdigit [PyParse] (s : String) : Bool := s ≠ "" && s.toList.all PyParse.isdigitChar

theorem lt_pow_intMaxStrDigits {n : ℕ} (h : n < 10 ^ 3) : n < 10 ^ intMaxStrDigits :=
  h.trans_le (Nat.pow_le_pow_right (by norm_num) (by decide))

theorem toList_toString (n : ℕ) : (toString n).toList = Nat.toDigits 10 n := by
  rw [Nat.toString_eq_ofList_toDigits, String.toList_ofList]

theorem isDigit_of_mem_toString {n : ℕ} {c : Char} (hc : c ∈ (toString n).toList) :
    c.isDigit := by
  rw [toList_toString] at hc
  exact Nat.isDigit_of_mem_toDigits (by norm_num) (by norm_num) hc

theorem toString_ne_empty (n : ℕ) : toString n ≠ "" := by
  intro h
  have hnil : Nat.toDigits 10 n = [] := by rw [← toList_toString, h]; rfl
  exact Nat.toDigits_ne_nil hnil

/-- A decimal numeral consists of digits. -/
@[simp] theorem isdigit_toString [PyParse] (n : ℕ) : isdigit (toString n) = true := by
  simp only [isdigit, Bool.and_eq_true, decide_eq_true_eq, List.all_eq_true]
  exact ⟨toString_ne_empty n, fun c hc => PyParse.isdigitChar_of_isDigit c
    (isDigit_of_mem_toString hc)⟩

theorem not_isSpace_of_isDigit {c : Char} (hc : c.isDigit) : isSpace c = false := by
  simp only [Char.isDigit, Bool.and_eq_true, decide_eq_true_eq, ge_iff_le,
    UInt32.le_iff_toNat_le] at hc
  change 48 ≤ c.toNat ∧ c.toNat ≤ 57 at hc
  rw [Bool.eq_false_iff]
  intro hspace
  simp only [isSpace, Bool.or_eq_true, Bool.and_eq_true, decide_eq_true_eq, beq_iff_eq] at hspace
  omega

/-! ### ASCII text -/

/-- The number an ASCII decimal numeral denotes. -/
def readDecimal (cs : List Char) : Option ℕ :=
  if cs ≠ [] ∧ cs.all Char.isDigit then some (Nat.ofDigitChars 10 cs 0) else none

/-- `int(text)` on ASCII text without underscores. -/
def parseInt (s : String) : Option ℤ :=
  match (strip s).toList with
  | '-' :: cs => (readDecimal cs).map fun n => -Int.ofNat n
  | '+' :: cs => (readDecimal cs).map Int.ofNat
  | cs => (readDecimal cs).map Int.ofNat

theorem readDecimal_toDigits (n : ℕ) : readDecimal (Nat.toDigits 10 n) = some n := by
  have hall : (Nat.toDigits 10 n).all Char.isDigit = true := List.all_eq_true.mpr fun c hc =>
    Nat.isDigit_of_mem_toDigits (by norm_num) (by norm_num) hc
  rw [readDecimal, if_pos ⟨Nat.toDigits_ne_nil, hall⟩, Nat.ofDigitChars_ten_toDigits]

theorem parseInt_toString (n : ℕ) : parseInt (toString n) = some (n : ℤ) := by
  have hstrip : strip (toString n) = toString n := strip_eq_self fun c hc =>
    not_isSpace_of_isDigit (isDigit_of_mem_toString hc)
  rw [parseInt, hstrip, toList_toString]
  -- a numeral does not begin with a sign
  split
  · next cs hcs =>
    have hsign : '-'.isDigit = true := Nat.isDigit_of_mem_toDigits (b := 10) (n := n)
      (by norm_num) (by norm_num) (hcs ▸ List.mem_cons_self)
    exact absurd hsign (by decide)
  · next cs hcs =>
    have hsign : '+'.isDigit = true := Nat.isDigit_of_mem_toDigits (b := 10) (n := n)
      (by norm_num) (by norm_num) (hcs ▸ List.mem_cons_self)
    exact absurd hsign (by decide)
  · rw [readDecimal_toDigits]
    rfl

/-- The number of days before a day of the proleptic Gregorian calendar. -/
def daysBefore (year month day : ℕ) : ℕ :=
  let years := year - 1
  365 * years + years / 4 - years / 100 + years / 400 +
    ((List.range (month - 1)).map fun m => daysInMonth year (m + 1)).sum + (day - 1)

/-- Read a fraction of a second in microseconds, further digits being dropped. -/
def readMicrosecond (cs : List Char) : ℕ × List Char :=
  match cs with
  | '.' :: cs =>
    let digits := cs.takeWhile Char.isDigit
    (Nat.ofDigitChars 10 ((digits ++ List.replicate 6 '0').take 6) 0, cs.dropWhile Char.isDigit)
  | cs => (0, cs)

/-- Read a UTC offset in seconds; `none` inside where the text ends without one. -/
def readOffset : List Char → Option (Option ℤ)
  | [] => some none
  | ['Z'] => some (some 0)
  | sign :: cs => do
    let (hours, cs) ← FixedWidth.read 10 2 cs
    let cs ← DateTime.readChar ':' cs
    let (minutes, cs) ← FixedWidth.read 10 2 cs
    let seconds : ℤ := hours * 3600 + minutes * 60
    if cs ≠ [] ∨ seconds ≥ 86400 then none
    else if sign = '+' then some (some seconds)
    else if sign = '-' then some (some (-seconds))
    else none

/-- `datetime.fromisoformat(text)` on RFC 3339 timestamps. -/
def fromisoformat (s : String) : Option Timestamp := do
  let (year, cs) ← FixedWidth.read 10 4 s.toList
  let cs ← DateTime.readChar '-' cs
  let (month, cs) ← FixedWidth.read 10 2 cs
  let cs ← DateTime.readChar '-' cs
  let (day, cs) ← FixedWidth.read 10 2 cs
  let cs ← DateTime.readChar 'T' cs
  let (hour, cs) ← FixedWidth.read 10 2 cs
  let cs ← DateTime.readChar ':' cs
  let (minute, cs) ← FixedWidth.read 10 2 cs
  let cs ← DateTime.readChar ':' cs
  let (second, cs) ← FixedWidth.read 10 2 cs
  let (microsecond, cs) := readMicrosecond cs
  let offset ← readOffset cs
  if ValidDateTime year month day hour minute second microsecond then
    let seconds : ℤ := (daysBefore year month day * 24 + hour) * 3600 + minute * 60 + second
    return { instant := (seconds - offset.getD 0) * 1000000 + microsecond
             aware := offset.isSome }
  else none

end Python

/-- Reading ASCII text. Percent-encoding leaves text without special characters
as it is. -/
@[reducible] def PyParse.ascii : PyParse where
  toPyStd := { PyStd.ascii with parseInt := Python.parseInt }
  isdecimal := Char.isDigit
  isdigitChar := Char.isDigit
  fromisoformat := Python.fromisoformat
  quote := id
  unquote := id
  isdigitChar_of_isDigit _ h := h
  parseInt_toString n _ := Python.parseInt_toString n
