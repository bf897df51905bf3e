import Mathlib.Data.List.DropRight
import Mathlib.Data.List.TakeWhile

/-!
# Python text

The string operations the server calls, on Lean strings. `strip` is spelled out;
what depends on the whole of Unicode or on a digest is a parameter.

## Main definitions

* `Python.strip` — `str.strip()`
* `PyStd` — `str.casefold`, `int(str)` and `hashlib.sha256(...).hexdigest()`
* `PyStd.ascii` — its behaviour on ASCII text, with an injective stand-in for the
  digest

## Main results

* `Python.strip_strip` — stripping twice is stripping once
-/

set_option autoImplicit false

namespace Python

/-- The characters `str.strip()` removes: those of Unicode type `Zs` and of
bidirectional class `WS`, `B` or `S`. -/
def isSpace (c : Char) : Bool :=
  (0x09 ≤ c.toNat && c.toNat ≤ 0x0D) || (0x1C ≤ c.toNat && c.toNat ≤ 0x20) || c.toNat == 0x85 ||
    c.toNat == 0xA0 || c.toNat == 0x1680 || (0x2000 ≤ c.toNat && c.toNat ≤ 0x200A) ||
    c.toNat == 0x2028 || c.toNat == 0x2029 || c.toNat == 0x202F || c.toNat == 0x205F ||
    c.toNat == 0x3000

/-- Remove the leading and trailing characters that satisfy `p`. -/
def trim {α : Type*} (p : α → Bool) (l : List α) : List α := (l.dropWhile p).rdropWhile p

/-- `str.strip()`. -/
def strip (s : String) : String := String.ofList (trim isSpace s.toList)

theorem trim_trim {α : Type*} (p : α → Bool) (l : List α) : trim p (trim p l) = trim p l := by
  have hfront : (trim p l).dropWhile p = trim p l := by
    rw [List.dropWhile_eq_self_iff]
    intro hpos
    -- trimming the back leaves the first kept character in front
    have hpre : trim p l <+: l.dropWhile p := List.rdropWhile_prefix p _
    have hne : l.dropWhile p ≠ [] := List.ne_nil_of_length_pos (hpos.trans_le hpre.length_le)
    rw [hpre.getElem hpos, ← List.head_eq_getElem hne, Bool.not_eq_true]
    exact List.head_dropWhile_not p hne
  calc trim p (trim p l) = ((trim p l).dropWhile p).rdropWhile p := rfl
    _ = (trim p l).rdropWhile p := by rw [hfront]
    _ = trim p l := List.rdropWhile_idempotent p _

@[simp] theorem strip_strip (s : String) : strip (strip s) = strip s := by
  simp [strip, trim_trim]

theorem trim_eq_self {α : Type*} {p : α → Bool} {l : List α} (h : ∀ a ∈ l, p a = false) :
    trim p l = l := by
  have hfront : l.dropWhile p = l := by
    rw [List.dropWhile_eq_self_iff]
    intro hpos
    simp [h _ (List.getElem_mem hpos)]
  rw [trim, hfront, List.rdropWhile_eq_self_iff]
  intro hne
  simp [h _ (List.getLast_mem hne)]

/-- A text without white space is not padded. -/
theorem strip_eq_self {s : String} (h : ∀ c ∈ s.toList, isSpace c = false) : strip s = s := by
  rw [strip, trim_eq_self h, String.ofList_toList]

theorem toLower_of_identifier {c : Char} (h : ('a' ≤ c ∧ c ≤ 'z') ∨ c = '.' ∨ c = '_') :
    c.toLower = c := by
  rcases h with ⟨hlower, -⟩ | rfl | rfl
  · have hnot : ¬(c.val ≥ 'A'.val ∧ c.val ≤ 'Z'.val) := fun hupper =>
      absurd (UInt32.le_trans hlower hupper.2) (by decide)
    exact dif_neg hnot
  · decide
  · decide

end Python

/-- What the server uses of Python's standard library beyond plain string
handling. -/
class PyStd where
  /-- `str.casefold()`. -/
  casefold : String → String
  /-- `int(text)`; `none` where it raises `ValueError`. -/
  parseInt : String → Option Int
  /-- `hashlib.sha256(text.encode("utf-8")).hexdigest()`. -/
  sha256Hexdigest : String → String
  /-- Lower-case ASCII letters and the punctuation of identifiers fold to themselves. -/
  casefold_identifier (s : String) :
    (s.toList.all fun c => ('a' ≤ c ∧ c ≤ 'z') ∨ c = '.' ∨ c = '_') → casefold s = s

/-- The standard library on ASCII text. The digest of a text is the text itself. -/
@[reducible] def PyStd.ascii : PyStd where
  casefold s := String.ofList (s.toList.map Char.toLower)
  parseInt s := (Python.strip s).toInt?
  sha256Hexdigest s := s
  casefold_identifier s hs := by
    have hkeep : s.toList.map Char.toLower = s.toList.map id :=
      List.map_congr_left fun c hc => Python.toLower_of_identifier
        (of_decide_eq_true (List.all_eq_true.mp hs c hc))
    rw [hkeep, List.map_id, String.ofList_toList]
