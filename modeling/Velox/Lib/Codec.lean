import Mathlib.Data.List.Basic
import Mathlib.Logic.Basic

/-!
# Printing and reading back

A codec writes values as words over an alphabet and reads them back off the front of a
longer word. Codecs are put together from smaller ones; where a reader has to choose, it
looks at one symbol.

## Main definitions

* `Codec` — a printer and a reader that takes back what was printed
* `Codec.Avoids` — no printed word is empty or begins with a symbol
* `Codec.literal`, `Codec.after`, `Codec.pair`, `Codec.either`, `Codec.along` — fixed
  symbols, sequences, alternatives and changes of type
* `Codec.terminated`, `Codec.separated` — lists up to a closing symbol

## Main results

* `Codec.readUntil_print` — reading a list back, given enough fuel
* `Codec.print_injective` — different values are printed differently
-/

set_option autoImplicit false

/-- A printer and a reader that takes back what was printed. -/
structure Codec (σ α : Type*) where
  print : α → List σ
  /-- Read one value off the front of a word. -/
  read : List σ → Option (α × List σ)
  read_print (a : α) (rest : List σ) : read (print a ++ rest) = some (a, rest)

namespace Codec

variable {σ α β : Type*}

theorem print_injective (C : Codec σ α) : Function.Injective C.print := by
  intro a b h
  have ha := C.read_print a []
  rw [h, C.read_print b []] at ha
  exact (Prod.mk.inj (Option.some.inj ha)).1.symm

/-- No value is printed as the empty word or as one that begins with the symbol. -/
def Avoids (C : Codec σ α) (c : σ) : Prop := ∀ a, ∃ d ds, C.print a = d :: ds ∧ d ≠ c

/-- Read the whole of a word. -/
def readAll (C : Codec σ α) (cs : List σ) : Option α :=
  match C.read cs with
  | some (a, []) => some a
  | _ => none

@[simp] theorem readAll_print (C : Codec σ α) (a : α) : C.readAll (C.print a) = some a := by
  have h := C.read_print a []
  rw [List.append_nil] at h
  rw [readAll, h]

/-- Print values of another type, as far as they can be taken back. -/
def along (C : Codec σ α) (f : β → α) (g : α → Option β) (h : ∀ b, g (f b) = some b) :
    Codec σ β where
  print b := C.print (f b)
  read cs := (C.read cs).bind fun r => (g r.1).map fun b => (b, r.2)
  read_print b rest := by
    rw [C.read_print, Option.bind_some, h, Option.map_some]

/-- One value after another. -/
def pair (A : Codec σ α) (B : Codec σ β) : Codec σ (α × β) where
  print p := A.print p.1 ++ B.print p.2
  read cs := (A.read cs).bind fun r => (B.read r.2).map fun r' => ((r.1, r'.1), r'.2)
  read_print p rest := by
    rw [List.append_assoc, A.read_print, Option.bind_some, B.read_print, Option.map_some]

theorem Avoids.along {C : Codec σ α} {c : σ} (hC : C.Avoids c) {f : β → α} {g : α → Option β}
    {h : ∀ b, g (f b) = some b} : (C.along f g h).Avoids c := fun b => hC (f b)

theorem Avoids.pair {A : Codec σ α} {c : σ} (hA : A.Avoids c) (B : Codec σ β) :
    (A.pair B).Avoids c := by
  rintro ⟨a, b⟩
  obtain ⟨d, ds, hprint, hd⟩ := hA a
  exact ⟨d, ds ++ B.print b, congrArg (· ++ B.print b) hprint, hd⟩

section Symbols

variable [DecidableEq σ]

/-- A single symbol. -/
def literal (c : σ) : Codec σ Unit where
  print _ := [c]
  read
    | [] => none
    | d :: cs => if d = c then some ((), cs) else none
  read_print _ _ := if_pos rfl

/-- A value behind a symbol. -/
def after (c : σ) (C : Codec σ α) : Codec σ α :=
  ((literal c).pair C).along (fun a => ((), a)) (fun p => some p.2) fun _ => rfl

theorem print_after (c : σ) (C : Codec σ α) (a : α) : (after c C).print a = c :: C.print a := rfl

theorem avoids_after {c d : σ} (h : c ≠ d) (C : Codec σ α) : (after c C).Avoids d :=
  fun a => ⟨c, C.print a, rfl, h⟩

/-- One of two kinds of values, told apart by the first symbol. -/
def either (A : Codec σ α) (B : Codec σ β) (c : σ) (hA : ∀ a, (A.print a).head? = some c)
    (hB : B.Avoids c) : Codec σ (α ⊕ β) where
  print := Sum.elim A.print B.print
  read cs :=
    if cs.head? = some c then (A.read cs).map fun r => (.inl r.1, r.2)
    else (B.read cs).map fun r => (.inr r.1, r.2)
  read_print x rest := by
    rcases x with a | b
    · have hfirst : (A.print a ++ rest).head? = some c := by rw [List.head?_append, hA a]; rfl
      rw [Sum.elim_inl, if_pos hfirst, A.read_print, Option.map_some]
    · obtain ⟨d, ds, hprint, hd⟩ := hB b
      have hfirst : (B.print b ++ rest).head? ≠ some c := by
        rw [hprint]
        exact fun h => hd (Option.some.inj h)
      rw [Sum.elim_inr, if_neg hfirst, B.read_print, Option.map_some]

/-! ### Lists -/

/-- Read values until a symbol, at most so many symbols and values. -/
def readUntil (C : Codec σ α) (stop : σ) : ℕ → List σ → Option (List α × List σ)
  | 0, _ => none
  | _ + 1, [] => none
  | fuel + 1, c :: cs =>
    if c = stop then some ([], cs)
    else (C.read (c :: cs)).bind fun r =>
      (readUntil C stop fuel r.2).map fun r' => (r.1 :: r'.1, r'.2)

theorem readUntil_print {C : Codec σ α} {stop : σ} (h : C.Avoids stop) (as : List α) {fuel : ℕ}
    (hfuel : as.length < fuel) (rest : List σ) :
    readUntil C stop fuel (as.flatMap C.print ++ stop :: rest) = some (as, rest) := by
  induction as generalizing fuel with
  | nil =>
    obtain ⟨fuel, rfl⟩ := Nat.exists_eq_add_one_of_ne_zero (Nat.ne_zero_of_lt hfuel)
    exact if_pos rfl
  | cons a as ih =>
    rw [List.length_cons] at hfuel
    obtain ⟨fuel, rfl⟩ := Nat.exists_eq_add_one_of_ne_zero (Nat.ne_zero_of_lt hfuel)
    obtain ⟨c, cs, hprint, hc⟩ := h a
    have hread := C.read_print a (as.flatMap C.print ++ stop :: rest)
    rw [List.flatMap_cons, List.append_assoc]
    rw [hprint, List.cons_append] at hread ⊢
    rw [readUntil, if_neg hc, hread, Option.bind_some, ih (by omega), Option.map_some]

omit [DecidableEq σ] in
/-- Every value takes up at least one symbol. -/
theorem length_le_flatMap_print {C : Codec σ α} {stop : σ} (h : C.Avoids stop) (as : List α) :
    as.length ≤ (as.flatMap C.print).length := by
  induction as with
  | nil => exact Nat.le_refl 0
  | cons a as ih =>
    obtain ⟨c, cs, hprint, -⟩ := h a
    rw [List.flatMap_cons, List.length_append, hprint, List.length_cons, List.length_cons]
    omega

/-- Values one after another, up to a closing symbol. -/
def terminated (C : Codec σ α) (stop : σ) (h : C.Avoids stop) : Codec σ (List α) where
  print as := as.flatMap C.print ++ [stop]
  read cs := readUntil C stop cs.length cs
  read_print as rest := by
    rw [List.append_assoc, List.singleton_append]
    refine readUntil_print h as ?_ rest
    have hlength := length_le_flatMap_print h as
    rw [List.length_append, List.length_cons]
    omega

/-- A list by its first value and the others. -/
private def uncons : List α → Unit ⊕ (α × List α)
  | [] => .inl ()
  | a :: as => .inr (a, as)

/-- Values with a symbol between them, up to a closing symbol. -/
def separated (C : Codec σ α) (separator stop : σ) (h : C.Avoids stop) (hne : separator ≠ stop) :
    Codec σ (List α) :=
  ((literal stop).either (C.pair ((after separator C).terminated stop (avoids_after hne C))) stop
    (fun _ => rfl) (h.pair _)).along uncons
    (fun x => some (x.elim (fun _ => []) fun p => p.1 :: p.2)) fun as => by cases as <;> rfl

end Symbols

end Codec
