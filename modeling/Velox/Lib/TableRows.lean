import Mathlib.Data.List.Forall2
import Mathlib.Data.List.Sort
import Velox.Lib.ColumnTable

/-!
# Rows of tables

Rows of a table are selected by a condition on their values, updated by assignments to
some of their columns, and inserted with values for some of them. Where every row holds
the values of an item, selecting, updating and inserting rows is filtering, mapping and
appending items.

## Main definitions

* `ColumnTable.select`, `ColumnTable.update`, `ColumnTable.insert` — the statements
* `ColumnTable.Holds` — a row holds the values of an item
* `ColumnTable.Lists` — the rows hold the values of items, in their order

## Main results

* `ColumnTable.value_assign` — the values of a row after assignments
* `ColumnTable.Lists.select`, `ColumnTable.Lists.update`, `ColumnTable.Lists.insert` — the
  statements, read as operations on the items
-/

set_option autoImplicit false

namespace ColumnTable

variable {κ δ ν α : Type*} [DecidableEq κ] {t : ColumnTable κ δ ν}

/-! ### Statements -/

/-- The rows whose values meet a condition. -/
def select (t : ColumnTable κ δ ν) (p : (κ → Option ν) → Bool) : List (List ν) :=
  t.rows.filter fun row => p (t.value row)

/-- A row after assignments to some of its columns. -/
def assign (t : ColumnTable κ δ ν) (assignments : List (κ × ν)) (row : List ν) : List ν :=
  (t.names.zip row).map fun c => (assignments.lookup c.1).getD c.2

theorem length_assign {assignments : List (κ × ν)} {row : List ν}
    (h : row.length = t.columns.length) : (t.assign assignments row).length = t.columns.length := by
  rw [assign, List.length_map, List.length_zip, names, List.length_map, h, Nat.min_self]

/-- Make assignments to the rows whose values meet a condition. -/
def update (t : ColumnTable κ δ ν) (p : (κ → Option ν) → Bool) (assignments : List (κ × ν)) :
    ColumnTable κ δ ν where
  columns := t.columns
  rows := t.rows.map fun row => if p (t.value row) then t.assign assignments row else row
  nodup := t.nodup
  width := by
    intro row hrow
    obtain ⟨old, hold, rfl⟩ := List.mem_map.mp hrow
    split_ifs
    · exact length_assign (t.width old hold)
    · exact t.width old hold

/-- A new row with the given values, and a default for every other column. -/
def newRow (t : ColumnTable κ δ ν) (values : List (κ × ν)) (default : ν) : List ν :=
  t.names.map fun name => (values.lookup name).getD default

/-- Append a new row. -/
def insert (t : ColumnTable κ δ ν) (values : List (κ × ν)) (default : ν) : ColumnTable κ δ ν where
  columns := t.columns
  rows := t.rows ++ [t.newRow values default]
  nodup := t.nodup
  width := by
    intro row hrow
    rcases List.mem_append.mp hrow with hold | hnew
    · exact t.width row hold
    · rw [List.mem_singleton.mp hnew, newRow, List.length_map, names, List.length_map]

variable {p : (κ → Option ν) → Bool} {assignments values : List (κ × ν)} {default : ν}
  {row : List ν} {k : κ}

@[simp] theorem names_update : (t.update p assignments).names = t.names := rfl

@[simp] theorem names_insert : (t.insert values default).names = t.names := rfl

@[simp] theorem value_update : (t.update p assignments).value = t.value := rfl

@[simp] theorem value_insert : (t.insert values default).value = t.value := rfl

theorem lookup_zip_map_zip {ks : List κ} {xs : List ν} (f : κ × ν → ν) :
    (ks.zip ((ks.zip xs).map f)).lookup k = ((ks.zip xs).lookup k).map fun x => f (k, x) := by
  induction ks generalizing xs with
  | nil => rfl
  | cons l ks ih =>
    cases xs with
    | nil => rfl
    | cons x xs =>
      rw [List.zip_cons_cons, List.map_cons, List.zip_cons_cons, List.lookup_cons, List.lookup_cons]
      by_cases hl : k = l
      · subst hl
        simp
      · rw [beq_false_of_ne hl]
        exact ih

theorem lookup_zip_map {ks : List κ} (f : κ → ν) (hk : k ∈ ks) :
    (ks.zip (ks.map f)).lookup k = some (f k) := by
  induction ks with
  | nil => exact absurd hk List.not_mem_nil
  | cons l ks ih =>
    rw [List.map_cons, List.zip_cons_cons, List.lookup_cons]
    by_cases hl : k = l
    · subst hl
      simp
    · rw [beq_false_of_ne hl]
      exact ih ((List.mem_cons.mp hk).resolve_left hl)

/-- Every column has its assigned value, or else the one it had. -/
theorem value_assign :
    t.value (t.assign assignments row) k =
      (t.value row k).map fun old => (assignments.lookup k).getD old :=
  lookup_zip_map_zip _

theorem value_newRow (hk : k ∈ t.names) :
    t.value (t.newRow values default) k = some ((values.lookup k).getD default) :=
  lookup_zip_map _ hk

/-! ### Rows that hold the values of items -/

section Lists

variable {encode : α → List (κ × ν)}

/-- A row holds the values of an item. -/
def Holds (encode : α → List (κ × ν)) (t : ColumnTable κ δ ν) (row : List ν) (a : α) : Prop :=
  ∀ c ∈ encode a, t.value row c.1 = some c.2

/-- The rows hold the values of items, in their order. -/
def Lists (encode : α → List (κ × ν)) (t : ColumnTable κ δ ν) (items : List α) : Prop :=
  List.Forall₂ (Holds encode t) t.rows items

variable {items : List α} {a : α} {q : α → Bool}

/-- Assignments to a row, read as a change of its item. -/
theorem Holds.assign {b : α} (h : Holds encode t row a)
    (hb : encode b = (encode a).map fun c => (c.1, (assignments.lookup c.1).getD c.2)) :
    Holds encode t (t.assign assignments row) b := by
  intro c hc
  rw [hb] at hc
  obtain ⟨old, hold, rfl⟩ := List.mem_map.mp hc
  rw [value_assign, h old hold]
  rfl

/-- Sorting related lists by orders that agree. -/
theorem forall₂_insertionSort {β : Type*} {R : α → β → Prop} {r : α → α → Prop} {s : β → β → Prop}
    [DecidableRel r] [DecidableRel s] (hrs : ∀ {a b c d}, R a c → R b d → (r a b ↔ s c d)) :
    ∀ {l : List α} {m : List β}, List.Forall₂ R l m →
      List.Forall₂ R (l.insertionSort r) (m.insertionSort s) := by
  have hinsert : ∀ {l : List α} {m : List β} {a : α} {c : β}, R a c → List.Forall₂ R l m →
      List.Forall₂ R (l.orderedInsert r a) (m.orderedInsert s c) := by
    intro l m a c hac hlm
    induction hlm with
    | nil => exact .cons hac .nil
    | @cons b d l m hbd hlm ih =>
      rw [List.orderedInsert_cons, List.orderedInsert_cons]
      by_cases hab : r a b
      · rw [if_pos hab, if_pos ((hrs hac hbd).mp hab)]
        exact .cons hac (.cons hbd hlm)
      · rw [if_neg hab, if_neg fun hcd => hab ((hrs hac hbd).mpr hcd)]
        exact .cons hbd ih
  intro l m hlm
  induction hlm with
  | nil => exact .nil
  | cons hac _ ih => exact hinsert hac ih

theorem Lists.select (h : Lists encode t items)
    (hpq : ∀ {row a}, Holds encode t row a → (p (t.value row) = true ↔ q a = true)) :
    List.Forall₂ (Holds encode t) (t.select p) (items.filter q) :=
  List.rel_filter (fun _ _ hrow => hpq hrow) h

theorem Lists.update (h : Lists encode t items) {f : α → α}
    (hpq : ∀ {row a}, Holds encode t row a → (p (t.value row) = true ↔ q a = true))
    (hf : ∀ a, q a = true → encode (f a) =
      (encode a).map fun c => (c.1, (assignments.lookup c.1).getD c.2)) :
    Lists encode (t.update p assignments) (items.map fun a => if q a then f a else a) := by
  refine List.rel_map (fun row a hrow => ?_) h
  by_cases hq : q a = true
  · rw [if_pos ((hpq hrow).mpr hq), if_pos hq]
    exact hrow.assign (hf a hq)
  · rw [if_neg fun hp => hq ((hpq hrow).mp hp), if_neg hq]
    exact hrow

theorem Lists.insert (h : Lists encode t items) (hnames : ∀ c ∈ encode a, c.1 ∈ t.names)
    (ha : ∀ c ∈ encode a, c.2 = (values.lookup c.1).getD default) :
    Lists encode (t.insert values default) (items ++ [a]) := by
  refine List.rel_append h (List.Forall₂.cons (fun c hc => ?_) .nil)
  exact (value_newRow (hnames c hc)).trans (congrArg some (ha c hc).symm)

end Lists

end ColumnTable
