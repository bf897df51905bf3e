import Mathlib.Algebra.Order.Group.Nat
import Mathlib.Data.Nat.Log
import Mathlib.Tactic.IntervalCases

/-!
# Numerals of fixed width

Numbers written with a given number of digits, most significant digit first, in
a base of at most sixteen. Such numerals can be read back from the front of a
longer text, and comparing two of them as text compares the numbers.

## Main definitions

* `FixedWidth.encode` — the numeral of a given base and width
* `FixedWidth.read` — take a numeral of a given width off the front of a text

## Main results

* `FixedWidth.read_encode_append` — reading back what was written
* `FixedWidth.encode_lt_encode` — the order of numerals is the order of numbers
* `FixedWidth.append_lt_append` — comparing texts with a common width up front
-/

set_option autoImplicit false

namespace FixedWidth

variable {b w m n : ℕ}

/-- The `w` digits of a number below `b ^ w`, most significant first. -/
def digits (b : ℕ) : ℕ → ℕ → List ℕ
  | 0, _ => []
  | w + 1, n => n / b ^ w :: digits b w (n % b ^ w)

/-- The number a list of digits denotes. -/
def value (b : ℕ) : List ℕ → ℕ
  | [] => 0
  | d :: ds => d * b ^ ds.length + value b ds

@[simp] theorem length_digits (b w n : ℕ) : (digits b w n).length = w := by
  induction w generalizing n with
  | zero => rfl
  | succ w ih => simp [digits, ih]

theorem value_digits (hn : n < b ^ w) : value b (digits b w n) = n := by
  induction w generalizing n with
  | zero => simp_all [digits, value]
  | succ w ih =>
    have hpos : 0 < b ^ w := Nat.pos_of_ne_zero fun h => by simp [pow_succ, h] at hn
    rw [digits, value, length_digits, ih (Nat.mod_lt _ hpos)]
    exact Nat.div_add_mod' n (b ^ w)

theorem lt_of_mem_digits (hn : n < b ^ w) {d : ℕ} (hd : d ∈ digits b w n) : d < b := by
  induction w generalizing n with
  | zero => simp [digits] at hd
  | succ w ih =>
    have hpos : 0 < b ^ w := Nat.pos_of_ne_zero fun h => by simp [pow_succ, h] at hn
    rcases List.mem_cons.mp hd with rfl | hd
    · exact Nat.div_lt_of_lt_mul (by rwa [pow_succ] at hn)
    · exact ih (Nat.mod_lt _ hpos) hd

/-! ### Digits as characters -/

/-- The digit a character stands for, if any. -/
def charDigit (c : Char) : Option ℕ :=
  if '0' ≤ c ∧ c ≤ '9' then some (c.toNat - '0'.toNat)
  else if 'a' ≤ c ∧ c ≤ 'f' then some (c.toNat - 'a'.toNat + 10)
  else none

theorem charDigit_digitChar {d : ℕ} (hd : d < 16) : charDigit (Nat.digitChar d) = some d := by
  interval_cases d <;> decide

theorem digitChar_lt_digitChar {d e : ℕ} (hde : d < e) (he : e < 16) :
    Nat.digitChar d < Nat.digitChar e := by
  have hall : ∀ e' : Fin 16, ∀ d' : Fin 16, d' < e' →
      Nat.digitChar d'.val < Nat.digitChar e'.val := by decide
  exact hall ⟨e, he⟩ ⟨d, hde.trans he⟩ hde

/-- The numeral of base `b` and width `w`. -/
def encode (b w n : ℕ) : List Char := (digits b w n).map Nat.digitChar

@[simp] theorem length_encode (b w n : ℕ) : (encode b w n).length = w := by simp [encode]

/-- The number a numeral of any width denotes. -/
def decode (b : ℕ) (cs : List Char) : Option ℕ := (cs.mapM charDigit).map (value b)

theorem mapM_charDigit {ds : List ℕ} (h : ∀ d ∈ ds, d < 16) :
    (ds.map Nat.digitChar).mapM charDigit = some ds := by
  induction ds with
  | nil => rfl
  | cons d ds ih =>
    have hd : charDigit (Nat.digitChar d) = some d := charDigit_digitChar (h d (by simp))
    have hds : (ds.map Nat.digitChar).mapM charDigit = some ds :=
      ih fun e he => h e (List.mem_cons_of_mem d he)
    simp [hd, hds]

theorem decode_encode (hb : b ≤ 16) (hn : n < b ^ w) : decode b (encode b w n) = some n := by
  have hds : ∀ d ∈ digits b w n, d < 16 := fun d hd => (lt_of_mem_digits hn hd).trans_le hb
  rw [decode, encode, mapM_charDigit hds, Option.map_some, value_digits hn]

/-- A written number consists of digits. -/
theorem notMem_encode (hb : b ≤ 16) (hn : n < b ^ w) {c : Char} (hc : charDigit c = none) :
    c ∉ encode b w n := by
  intro hmem
  obtain ⟨d, hd, rfl⟩ := List.mem_map.mp hmem
  rw [charDigit_digitChar ((lt_of_mem_digits hn hd).trans_le hb)] at hc
  cases hc

/-- Take a numeral of width `w` off the front of a text. -/
def read (b w : ℕ) (cs : List Char) : Option (ℕ × List Char) :=
  if w ≤ cs.length then (decode b (cs.take w)).map fun n => (n, cs.drop w) else none

theorem read_encode_append (hb : b ≤ 16) (hn : n < b ^ w) (rest : List Char) :
    read b w (encode b w n ++ rest) = some (n, rest) := by
  have htake : (encode b w n ++ rest).take w = encode b w n :=
    List.take_left' (length_encode b w n)
  have hdrop : (encode b w n ++ rest).drop w = rest := List.drop_left' (length_encode b w n)
  simp [read, htake, hdrop, decode_encode hb hn]

/-! ### Comparing as text -/

theorem append_lt_append {cs ds xs ys : List Char} (hlen : cs.length = ds.length) (h : cs < ds) :
    cs ++ xs < ds ++ ys := by
  induction cs generalizing ds with
  | nil => simp_all [List.length_eq_zero_iff.mp hlen.symm]
  | cons c cs ih =>
    rcases ds with _ | ⟨d, ds⟩
    · simp at hlen
    · simp only [List.cons_append, List.cons_lt_cons_iff] at h ⊢
      exact h.imp_right fun ⟨heq, hlt⟩ => ⟨heq, ih (by simpa using hlen) hlt⟩

theorem encode_lt_encode (hb : b ≤ 16) (hmn : m < n) (hn : n < b ^ w) :
    encode b w m < encode b w n := by
  induction w generalizing m n with
  | zero => simp_all
  | succ w ih =>
    have hpos : 0 < b ^ w := Nat.pos_of_ne_zero fun h => by simp [pow_succ, h] at hn
    simp only [encode, digits, List.map_cons, List.cons_lt_cons_iff]
    rcases (Nat.div_le_div_right hmn.le : m / b ^ w ≤ n / b ^ w).lt_or_eq with hlt | heq
    · have hlead : n / b ^ w < b := Nat.div_lt_of_lt_mul (by rwa [pow_succ] at hn)
      exact Or.inl (digitChar_lt_digitChar hlt (hlead.trans_le hb))
    · have hrest : m % b ^ w < n % b ^ w := by
        have hm := Nat.div_add_mod m (b ^ w)
        have hn' := Nat.div_add_mod n (b ^ w)
        rw [heq] at hm
        omega
      exact Or.inr ⟨by rw [heq], ih hrest (Nat.mod_lt _ hpos)⟩

end FixedWidth
