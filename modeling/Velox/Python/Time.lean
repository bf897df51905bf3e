import Velox.Lib.FixedWidth

/-!
# Identifiers and timestamps

`uuid.UUID` and timezone-aware `datetime` values in UTC, with the text forms the
durable store keeps them in. Identifiers are unbounded numbers, so that there is
always a fresh one.

## Main definitions

* `UUID.str`, `UUID.parse` — `str(uuid)` and `UUID(text)`
* `DateTime` — a valid UTC date and time
* `DateTime.isoformat`, `DateTime.fromisoformat` — its ISO 8601 text

## Main results

* `UUID.parse_str`, `DateTime.fromisoformat_isoformat` — the texts read back
* `DateTime.isoformat_lt_isoformat` — later times have later texts
-/

set_option autoImplicit false

/-- `uuid.UUID`. -/
abbrev UUID := ℕ

namespace UUID

/-- The hexadecimal digits of an identifier, thirty-two or more. -/
def hex (id : UUID) : List Char := FixedWidth.encode 16 (max 32 (Nat.log 16 id + 1)) id

/-- Put hyphens after the eighth, twelfth, sixteenth and twentieth digit. -/
def hyphenate (cs : List Char) : List Char :=
  cs.take 8 ++ '-' :: ((cs.drop 8).take 4 ++ '-' :: ((cs.drop 12).take 4 ++
    '-' :: ((cs.drop 16).take 4 ++ '-' :: cs.drop 20)))

/-- `str(uuid)`. -/
def str (id : UUID) : String := String.ofList (hyphenate (hex id))

/-- `UUID(text)`; `none` where it raises `ValueError`. -/
def parse (s : String) : Option UUID :=
  let digits := s.toList.filter (· ≠ '-')
  if 32 ≤ digits.length then FixedWidth.decode 16 digits else none

theorem lt_pow_width (id : UUID) : id < 16 ^ max 32 (Nat.log 16 id + 1) :=
  (Nat.lt_pow_succ_log_self (by norm_num) id).trans_le
    (Nat.pow_le_pow_right (by norm_num) (le_max_right _ _))

theorem ne_hyphen_of_mem_hex {id : UUID} {c : Char} (hc : c ∈ hex id) : c ≠ '-' := by
  obtain ⟨d, hd, rfl⟩ := List.mem_map.mp hc
  have hlt : d < 16 := FixedWidth.lt_of_mem_digits (lt_pow_width id) hd
  interval_cases d <;> decide

theorem filter_hyphenate {cs : List Char} (h : ∀ c ∈ cs, c ≠ '-') :
    (hyphenate cs).filter (· ≠ '-') = cs := by
  have hkeep : ∀ ds : List Char, (∀ c ∈ ds, c ∈ cs) → ds.filter (· ≠ '-') = ds := fun ds hds =>
    List.filter_eq_self.mpr fun c hc => by simpa using h c (hds c hc)
  have htake : ∀ i j, ((cs.drop i).take j).filter (· ≠ '-') = (cs.drop i).take j := fun i j =>
    hkeep _ fun c hc => List.mem_of_mem_drop (List.mem_of_mem_take hc)
  have hfirst := hkeep (cs.take 8) fun c hc => List.mem_of_mem_take hc
  have hlast := hkeep (cs.drop 20) fun c hc => List.mem_of_mem_drop hc
  have hjoin : ∀ i j, (cs.drop i).take j ++ cs.drop (i + j) = cs.drop i := fun i j => by
    rw [← List.drop_drop, List.take_append_drop]
  simp only [hyphenate, List.filter_append, hfirst, htake, hlast, List.filter_cons,
    ne_eq, not_true_eq_false, decide_false, Bool.false_eq_true, if_false]
  rw [hjoin 16 4, hjoin 12 4, hjoin 8 4, List.take_append_drop]

@[simp] theorem parse_str (id : UUID) : parse (str id) = some id := by
  have hlen : 32 ≤ (hex id).length := by simp [hex]
  have hfilter : (hyphenate (hex id)).filter (· ≠ '-') = hex id :=
    filter_hyphenate fun _ => ne_hyphen_of_mem_hex
  simp only [parse, str, String.toList_ofList, hfilter, hlen, if_true]
  exact FixedWidth.decode_encode (by norm_num) (lt_pow_width id)

theorem str_injective : Function.Injective str := by
  intro id id' h
  have hparse := congrArg parse h
  rwa [parse_str, parse_str, Option.some.injEq] at hparse

/-- The text of an identifier consists of hexadecimal digits and hyphens. -/
theorem of_mem_str {id : UUID} {p : Char → Prop} (hhyphen : p '-')
    (hdigit : ∀ d < 16, p (Nat.digitChar d)) {c : Char} (hc : c ∈ (str id).toList) : p c := by
  have hhex : ∀ c ∈ hex id, p c := by
    intro c hc
    obtain ⟨d, hd, rfl⟩ := List.mem_map.mp hc
    exact hdigit d (FixedWidth.lt_of_mem_digits (lt_pow_width id) hd)
  rw [str, String.toList_ofList, hyphenate] at hc
  simp only [List.mem_append, List.mem_cons] at hc
  rcases hc with hc | rfl | hc | rfl | hc | rfl | hc | rfl | hc
  · exact hhex c (List.mem_of_mem_take hc)
  · exact hhyphen
  · exact hhex c (List.mem_of_mem_drop (List.mem_of_mem_take hc))
  · exact hhyphen
  · exact hhex c (List.mem_of_mem_drop (List.mem_of_mem_take hc))
  · exact hhyphen
  · exact hhex c (List.mem_of_mem_drop (List.mem_of_mem_take hc))
  · exact hhyphen
  · exact hhex c (List.mem_of_mem_drop hc)

theorem notMem_str {id : UUID} {c : Char} (hdigit : FixedWidth.charDigit c = none)
    (hhyphen : c ≠ '-') : c ∉ (str id).toList := by
  intro hmem
  refine of_mem_str (p := fun c' => c' ≠ c) hhyphen.symm (fun d hd heq => ?_) hmem rfl
  rw [← heq, FixedWidth.charDigit_digitChar hd] at hdigit
  cases hdigit

end UUID

/-- The number of days of a month. -/
def daysInMonth (year month : ℕ) : ℕ :=
  if month = 2 then
    if year % 4 = 0 ∧ (year % 100 ≠ 0 ∨ year % 400 = 0) then 29 else 28
  else if month = 4 ∨ month = 6 ∨ month = 9 ∨ month = 11 then 30
  else 31

/-- The ranges `datetime` checks its arguments against. -/
def ValidDateTime (year month day hour minute second microsecond : ℕ) : Prop :=
  (1 ≤ year ∧ year ≤ 9999) ∧ (1 ≤ month ∧ month ≤ 12) ∧ (1 ≤ day ∧ day ≤ daysInMonth year month) ∧
    hour < 24 ∧ minute < 60 ∧ second < 60 ∧ microsecond < 1000000

instance (y mo d h mi s us : ℕ) : Decidable (ValidDateTime y mo d h mi s us) :=
  inferInstanceAs (Decidable (_ ∧ _))

/-- A timezone-aware `datetime` in UTC. -/
structure DateTime where
  year : ℕ
  month : ℕ
  day : ℕ
  hour : ℕ
  minute : ℕ
  second : ℕ
  microsecond : ℕ
  valid : ValidDateTime year month day hour minute second microsecond
  deriving DecidableEq

namespace DateTime

/-- `datetime.min`, in UTC. -/
def min : DateTime := ⟨1, 1, 1, 0, 0, 0, 0, by decide⟩

instance : Inhabited DateTime := ⟨min⟩

/-- The fields from the most to the least significant. -/
def fields (t : DateTime) : List ℕ :=
  [t.year, t.month, t.day, t.hour, t.minute, t.second, t.microsecond]

/-- Earlier than. -/
instance : LT DateTime := ⟨fun t u => t.fields < u.fields⟩

/-- The fraction of a second, written only when there is one. -/
def isoFraction (t : DateTime) : List Char :=
  (if t.microsecond = 0 then [] else '.' :: FixedWidth.encode 10 6 t.microsecond) ++
    "+00:00".toList

/-- `datetime.isoformat()`, as a list of characters. -/
def isoChars (t : DateTime) : List Char :=
  FixedWidth.encode 10 4 t.year ++ '-' :: (FixedWidth.encode 10 2 t.month ++
    '-' :: (FixedWidth.encode 10 2 t.day ++ 'T' :: (FixedWidth.encode 10 2 t.hour ++
    ':' :: (FixedWidth.encode 10 2 t.minute ++ ':' :: (FixedWidth.encode 10 2 t.second ++
    t.isoFraction)))))

/-- `datetime.isoformat()`. -/
def isoformat (t : DateTime) : String := String.ofList t.isoChars

/-- Take one expected character off the front of a text. -/
def readChar (c : Char) : List Char → Option (List Char)
  | [] => none
  | d :: ds => if d = c then some ds else none

/-- Read the fraction of a second and the UTC offset. -/
def readFraction (cs : List Char) : Option ℕ := do
  if cs = "+00:00".toList then return 0
  let cs ← readChar '.' cs
  let (us, cs) ← FixedWidth.read 10 6 cs
  if cs = "+00:00".toList then return us else none

/-- `datetime.fromisoformat(text)` on the texts `isoformat` writes; `none` where
it raises `ValueError`. -/
def fromisoformat (s : String) : Option DateTime := do
  let (year, cs) ← FixedWidth.read 10 4 s.toList
  let cs ← readChar '-' cs
  let (month, cs) ← FixedWidth.read 10 2 cs
  let cs ← readChar '-' cs
  let (day, cs) ← FixedWidth.read 10 2 cs
  let cs ← readChar 'T' cs
  let (hour, cs) ← FixedWidth.read 10 2 cs
  let cs ← readChar ':' cs
  let (minute, cs) ← FixedWidth.read 10 2 cs
  let cs ← readChar ':' cs
  let (second, cs) ← FixedWidth.read 10 2 cs
  let microsecond ← readFraction cs
  if h : ValidDateTime year month day hour minute second microsecond then
    return ⟨year, month, day, hour, minute, second, microsecond, h⟩
  else none

@[simp] theorem readChar_cons (c : Char) (cs : List Char) : readChar c (c :: cs) = some cs := by
  simp [readChar]

@[simp] theorem readFraction_isoFraction (t : DateTime) :
    readFraction t.isoFraction = some t.microsecond := by
  have hus : t.microsecond < 10 ^ 6 := t.valid.2.2.2.2.2.2
  by_cases h : t.microsecond = 0
  · simp [readFraction, isoFraction, h]
  · have hhead : '.' :: (FixedWidth.encode 10 6 t.microsecond ++ "+00:00".toList) ≠
        "+00:00".toList := fun heq => absurd (List.head_eq_of_cons_eq heq) (by decide)
    simp only [readFraction, isoFraction, h, if_false, List.cons_append, hhead, readChar_cons,
      Option.bind_eq_bind, Option.bind_some, FixedWidth.read_encode_append (by norm_num) hus,
      if_true, pure]

/-- The text of a timestamp reads back as that timestamp. -/
@[simp] theorem fromisoformat_isoformat (t : DateTime) : fromisoformat t.isoformat = some t := by
  obtain ⟨⟨_, hy⟩, ⟨_, hmo⟩, ⟨_, hd⟩, hh, hmi, hs, _⟩ := t.valid
  have hday : daysInMonth t.year t.month ≤ 31 := by
    unfold daysInMonth
    split_ifs <;> omega
  have read2 : ∀ n < 100, ∀ cs, FixedWidth.read 10 2 (FixedWidth.encode 10 2 n ++ cs) =
      some (n, cs) := fun n hn => FixedWidth.read_encode_append (by norm_num) (by simpa using hn)
  have read4 : ∀ cs, FixedWidth.read 10 4 (FixedWidth.encode 10 4 t.year ++ cs) =
      some (t.year, cs) := FixedWidth.read_encode_append (by norm_num) (by omega)
  simp only [fromisoformat, isoformat, String.toList_ofList, isoChars, read4,
    read2 t.month (by omega), read2 t.day (by omega), read2 t.hour (by omega),
    read2 t.minute (by omega), read2 t.second (by omega), Option.bind_eq_bind, Option.bind_some,
    readChar_cons, readFraction_isoFraction, t.valid, dif_pos, pure]

/-- The text of a timestamp has no vertical bar. -/
theorem bar_notMem_isoChars (t : DateTime) : '|' ∉ t.isoChars := by
  obtain ⟨⟨_, hy⟩, ⟨_, hmo⟩, ⟨_, hd⟩, hh, hmi, hs, hus⟩ := t.valid
  have hday : daysInMonth t.year t.month ≤ 31 := by
    unfold daysInMonth
    split_ifs <;> omega
  have hfield : ∀ w n, n < 10 ^ w → '|' ∉ FixedWidth.encode 10 w n := fun w n hn =>
    FixedWidth.notMem_encode (by norm_num) hn (by decide)
  have hfraction : '|' ∉ t.isoFraction := by
    unfold isoFraction
    split_ifs <;> simp [hfield 6 t.microsecond hus]
  simp only [isoChars, List.mem_append, List.mem_cons, hfield 4 t.year (by omega),
    hfield 2 t.month (by omega), hfield 2 t.day (by omega), hfield 2 t.hour (by omega),
    hfield 2 t.minute (by omega), hfield 2 t.second (by omega), hfraction]
  decide

/-! ### Text order -/

/-- A two-digit field and everything after it, compared as text. -/
theorem block_lt_block {w m n : ℕ} {c : Char} {xs ys : List Char} (hn : n < 10 ^ w)
    (h : m < n ∨ m = n ∧ xs < ys) :
    FixedWidth.encode 10 w m ++ c :: xs < FixedWidth.encode 10 w n ++ c :: ys := by
  rcases h with hlt | ⟨rfl, hlt⟩
  · exact FixedWidth.append_lt_append (by simp) (FixedWidth.encode_lt_encode (by norm_num) hlt hn)
  · exact List.append_left_lt (List.cons_lt_cons_iff.mpr (Or.inr ⟨rfl, hlt⟩))

theorem isoFraction_lt_isoFraction {t u : DateTime} (h : t.microsecond < u.microsecond) :
    t.isoFraction < u.isoFraction := by
  have hu : u.microsecond ≠ 0 := by omega
  have hus : u.microsecond < 10 ^ 6 := u.valid.2.2.2.2.2.2
  by_cases ht : t.microsecond = 0
  · simp only [isoFraction, ht, hu, if_true, if_false, List.nil_append, List.cons_append]
    exact List.cons_lt_cons_iff.mpr (Or.inl (by decide))
  · simp only [isoFraction, ht, hu, if_false]
    exact FixedWidth.append_lt_append (by simp) (List.cons_lt_cons_iff.mpr
      (Or.inr ⟨rfl, FixedWidth.encode_lt_encode (by norm_num) h hus⟩))

/-- A later timestamp has a later text, so that text order is time order. -/
theorem isoformat_lt_isoformat {t u : DateTime} (h : t < u) : t.isoformat < u.isoformat := by
  obtain ⟨⟨_, hy⟩, ⟨_, hmo⟩, ⟨_, hd⟩, hh, hmi, hs, _⟩ := u.valid
  have hday : daysInMonth u.year u.month ≤ 31 := by
    unfold daysInMonth
    split_ifs <;> omega
  change t.fields < u.fields at h
  simp only [fields, List.cons_lt_cons_iff, List.not_lt_nil, and_false, or_false] at h
  rw [String.lt_iff, isoformat, isoformat, String.toList_ofList, String.toList_ofList]
  refine block_lt_block (by omega) (h.imp_right fun ⟨e₁, h⟩ => ⟨e₁, ?_⟩)
  refine block_lt_block (by omega) (h.imp_right fun ⟨e₂, h⟩ => ⟨e₂, ?_⟩)
  refine block_lt_block (by omega) (h.imp_right fun ⟨e₃, h⟩ => ⟨e₃, ?_⟩)
  refine block_lt_block (by omega) (h.imp_right fun ⟨e₄, h⟩ => ⟨e₄, ?_⟩)
  refine block_lt_block (by omega) (h.imp_right fun ⟨e₅, h⟩ => ⟨e₅, ?_⟩)
  rcases h with hlt | ⟨e₆, hlt⟩
  · exact FixedWidth.append_lt_append (by simp)
      (FixedWidth.encode_lt_encode (by norm_num) hlt (by omega))
  · rw [e₆]
    exact List.append_left_lt (isoFraction_lt_isoFraction hlt)

end DateTime
