import Mathlib.Data.List.Nodup
import Mathlib.Data.List.Perm.Basic

/-!
# Tables whose columns grow

A table has named columns, each with a declaration, and rows with a value for every
column. Adding a column gives every row a default value under it. Columns are only added
where they are missing, so adding a list of columns can be taken up again after it
stopped anywhere.

## Main definitions

* `ColumnTable` — columns with distinct names and rows of their width
* `ColumnTable.value` — the value of a row under a name
* `ColumnTable.addColumn`, `ColumnTable.addMissing` — add columns that are missing

## Main results

* `ColumnTable.addMissing_resume` — a list of columns that was added in part
* `ColumnTable.columns_addMissing`, `ColumnTable.rows_addMissing` — what is added
* `ColumnTable.columns_addMissing_take` — beginnings of a list of columns
* `ColumnTable.value_append_of_mem`, `ColumnTable.value_append_of_notMem` — old values stay,
  new values are the default
-/

set_option autoImplicit false

/-- Columns with distinct names, and rows that have a value for each. -/
structure ColumnTable (κ δ ν : Type*) where
  columns : List (κ × δ)
  rows : List (List ν)
  nodup : (columns.map Prod.fst).Nodup
  width : ∀ row ∈ rows, row.length = columns.length

namespace ColumnTable

variable {κ δ ν : Type*} {t u : ColumnTable κ δ ν}

/-- The names of the columns. -/
def names (t : ColumnTable κ δ ν) : List κ := t.columns.map Prod.fst

theorem ext_columns_rows (hcolumns : t.columns = u.columns) (hrows : t.rows = u.rows) : t = u := by
  cases t
  cases u
  subst hcolumns hrows
  rfl

variable [DecidableEq κ]

/-- The value of a row under a name. -/
def value (t : ColumnTable κ δ ν) (row : List ν) (k : κ) : Option ν := (t.names.zip row).lookup k

/-- Add a column that is missing, with a default for every row. -/
def addColumn (t : ColumnTable κ δ ν) (c : κ × δ) (default : ν) : ColumnTable κ δ ν :=
  if h : c.1 ∈ t.names then t
  else
    { columns := t.columns ++ [c]
      rows := t.rows.map (· ++ [default])
      nodup := by
        rw [List.map_append, List.nodup_append]
        refine ⟨t.nodup, List.nodup_singleton _, fun a ha b hb => ?_⟩
        obtain rfl := List.mem_singleton.mp hb
        exact fun hab => h (hab ▸ ha)
      width := by
        intro row hrow
        obtain ⟨old, hold, rfl⟩ := List.mem_map.mp hrow
        rw [List.length_append, List.length_append, t.width old hold]
        rfl }

/-- Add columns, one after the other, where they are missing. -/
def addMissing (t : ColumnTable κ δ ν) (cs : List (κ × δ)) (default : ν) : ColumnTable κ δ ν :=
  cs.foldl (fun t c => t.addColumn c default) t

variable {c : κ × δ} {cs ds : List (κ × δ)} {default : ν}

theorem addColumn_of_mem (h : c.1 ∈ t.names) : t.addColumn c default = t := dif_pos h

theorem columns_addColumn (h : c.1 ∉ t.names) : (t.addColumn c default).columns = t.columns ++ [c] := by
  rw [addColumn, dif_neg h]

theorem rows_addColumn (h : c.1 ∉ t.names) :
    (t.addColumn c default).rows = t.rows.map (· ++ [default]) := by
  rw [addColumn, dif_neg h]

theorem mem_names_addColumn {k : κ} : k ∈ (t.addColumn c default).names ↔ k ∈ t.names ∨ k = c.1 := by
  by_cases h : c.1 ∈ t.names
  · rw [addColumn_of_mem h]
    exact ⟨Or.inl, fun hk => hk.elim id fun heq => heq ▸ h⟩
  · rw [names, columns_addColumn h, List.map_append, List.mem_append, List.map_singleton,
      List.mem_singleton]
    rfl

@[simp] theorem addMissing_nil : t.addMissing [] default = t := rfl

@[simp] theorem addMissing_cons :
    t.addMissing (c :: cs) default = (t.addColumn c default).addMissing cs default := rfl

theorem addMissing_append :
    t.addMissing (cs ++ ds) default = (t.addMissing cs default).addMissing ds default :=
  List.foldl_append ..

theorem mem_names_addMissing {k : κ} :
    k ∈ (t.addMissing cs default).names ↔ k ∈ t.names ∨ k ∈ cs.map Prod.fst := by
  induction cs generalizing t with
  | nil => simp
  | cons c cs ih => rw [addMissing_cons, ih, mem_names_addColumn, List.map_cons, List.mem_cons, or_assoc]

/-- Columns that are all there are not added again. -/
theorem addMissing_of_forall_mem (h : ∀ c ∈ cs, c.1 ∈ t.names) : t.addMissing cs default = t := by
  induction cs with
  | nil => rfl
  | cons c cs ih =>
    rw [addMissing_cons, addColumn_of_mem (h c List.mem_cons_self)]
    exact ih fun d hd => h d (List.mem_cons_of_mem c hd)

theorem addMissing_addMissing_append :
    (t.addMissing cs default).addMissing (cs ++ ds) default = t.addMissing (cs ++ ds) default := by
  rw [addMissing_append, addMissing_append]
  congr 1
  refine addMissing_of_forall_mem fun c hc => ?_
  exact mem_names_addMissing.mpr (Or.inr (List.mem_map_of_mem hc))

/-- A list of columns that was added in part is taken up again. -/
theorem addMissing_resume (n : ℕ) :
    (t.addMissing (cs.take n) default).addMissing cs default = t.addMissing cs default := by
  have hresume : (t.addMissing (cs.take n) default).addMissing (cs.take n ++ cs.drop n) default =
      t.addMissing (cs.take n ++ cs.drop n) default := addMissing_addMissing_append
  rwa [List.take_append_drop] at hresume

/-- Adding two beginnings of a list is adding the longer one. -/
theorem addMissing_take_take (m n : ℕ) :
    (t.addMissing (cs.take m) default).addMissing (cs.take n) default =
      t.addMissing (cs.take (max m n)) default := by
  rcases Nat.le_total n m with h | h
  · rw [Nat.max_eq_left h]
    refine addMissing_of_forall_mem fun c hc => ?_
    have hmem : c ∈ cs.take m := (List.take_prefix_take_left h).subset hc
    exact mem_names_addMissing.mpr (Or.inr (List.mem_map_of_mem hmem))
  · have htake : cs.take m = (cs.take n).take m := by rw [List.take_take, Nat.min_eq_left h]
    rw [Nat.max_eq_right h, htake, addMissing_resume]

/-- The columns of a list that a table lacks. -/
def missing (t : ColumnTable κ δ ν) (cs : List (κ × δ)) : List (κ × δ) :=
  cs.filter fun c => c.1 ∉ t.names

theorem missing_addColumn (hc : c.1 ∉ cs.map Prod.fst) :
    (t.addColumn c default).missing cs = t.missing cs := by
  refine List.filter_congr fun d hd => ?_
  have hne : d.1 ≠ c.1 := fun heq => hc (heq ▸ List.mem_map_of_mem hd)
  simp only [mem_names_addColumn, hne, or_false]

/-- The missing columns come last, in the order of the list. -/
theorem columns_addMissing (hcs : (cs.map Prod.fst).Nodup) :
    (t.addMissing cs default).columns = t.columns ++ t.missing cs := by
  induction cs generalizing t with
  | nil => exact (List.append_nil _).symm
  | cons c cs ih =>
    obtain ⟨hc, hcs⟩ := List.nodup_cons.mp hcs
    rw [addMissing_cons, ih hcs, missing_addColumn hc, missing, missing]
    by_cases h : c.1 ∈ t.names
    · rw [addColumn_of_mem h, List.filter_cons_of_neg (by simpa using h)]
    · rw [columns_addColumn h, List.filter_cons_of_pos (by simpa using h), List.append_assoc,
        List.singleton_append]

/-- Every row gets the default for each column that was missing. -/
theorem rows_addMissing (hcs : (cs.map Prod.fst).Nodup) :
    (t.addMissing cs default).rows =
      t.rows.map (· ++ List.replicate (t.missing cs).length default) := by
  induction cs generalizing t with
  | nil => simp [missing]
  | cons c cs ih =>
    obtain ⟨hc, hcs⟩ := List.nodup_cons.mp hcs
    rw [addMissing_cons, ih hcs, missing_addColumn hc, missing, missing]
    by_cases h : c.1 ∈ t.names
    · rw [addColumn_of_mem h, List.filter_cons_of_neg (by simpa using h)]
    · rw [rows_addColumn h, List.filter_cons_of_pos (by simpa using h), List.map_map]
      refine List.map_congr_left fun row _ => ?_
      rw [Function.comp_apply, List.append_assoc, List.length_cons, List.replicate_succ,
        List.singleton_append]

/-- Among columns with distinct names, those of both lists are there afterwards. -/
theorem mem_columns_addMissing {all : List (κ × δ)} (hall : (all.map Prod.fst).Nodup)
    (ht : t.columns ⊆ all) (hcs : cs ⊆ all) (hnodup : (cs.map Prod.fst).Nodup) {d : κ × δ} :
    d ∈ (t.addMissing cs default).columns ↔ d ∈ t.columns ∨ d ∈ cs := by
  rw [columns_addMissing hnodup, List.mem_append, missing, List.mem_filter, decide_eq_true_iff]
  constructor
  · exact fun h => h.imp_right And.left
  · rintro (hd | hd)
    · exact Or.inl hd
    · by_cases hname : d.1 ∈ t.names
      · -- the column of that name is this one
        obtain ⟨c, hc, heq⟩ := List.mem_map.mp hname
        exact Or.inl (List.inj_on_of_nodup_map hall (ht hc) (hcs hd) heq ▸ hc)
      · exact Or.inr ⟨hd, hname⟩

/-- A table that has a beginning of the columns has the longer beginning afterwards. -/
theorem columns_addMissing_take {base : List (κ × δ)} (hall : ((base ++ cs).map Prod.fst).Nodup)
    {k : ℕ} (ht : t.columns.Perm (base ++ cs.take k)) (n : ℕ) :
    (t.addMissing (cs.take n) default).columns.Perm (base ++ cs.take (max k n)) := by
  have hsub (m : ℕ) : base ++ cs.take m ⊆ base ++ cs :=
    List.append_subset.mpr ⟨List.subset_append_left base cs,
      fun _ hc => List.mem_append_right base (List.take_subset m cs hc)⟩
  have hcs : ((cs.take n).map Prod.fst).Nodup := by
    rw [List.map_append] at hall
    exact hall.of_append_right.sublist ((List.take_sublist n cs).map Prod.fst)
  have htake (m : ℕ) : (base ++ cs.take m).Nodup :=
    (hall.of_map).sublist (List.Sublist.append_left (List.take_sublist m cs) base)
  refine (List.perm_ext_iff_of_nodup (t.addMissing (cs.take n) default).nodup.of_map (htake _)).mpr
    fun d => ?_
  rw [mem_columns_addMissing hall (fun c hc => hsub k (ht.subset hc))
    (fun c hc => List.mem_append_right base (List.take_subset n cs hc)) hcs, ht.mem_iff,
    List.mem_append, List.mem_append, or_assoc]
  refine or_congr_right ⟨?_, fun hd => ?_⟩
  · rintro (hd | hd)
    · exact (List.take_prefix_take_left (Nat.le_max_left k n)).subset hd
    · exact (List.take_prefix_take_left (Nat.le_max_right k n)).subset hd
  · rcases Nat.le_total n k with h | h
    · exact Or.inl (Nat.max_eq_left h ▸ hd)
    · exact Or.inr (Nat.max_eq_right h ▸ hd)

/-! ### Values -/

theorem lookup_zip_append {ks ls : List κ} {xs ys : List ν} (hlength : ks.length = xs.length)
    {k : κ} (hk : k ∈ ks) : ((ks ++ ls).zip (xs ++ ys)).lookup k = (ks.zip xs).lookup k := by
  induction ks generalizing xs with
  | nil => exact absurd hk List.not_mem_nil
  | cons l ks ih =>
    cases xs with
    | nil => exact nomatch hlength
    | cons x xs =>
      rw [List.cons_append, List.cons_append, List.zip_cons_cons, List.zip_cons_cons,
        List.lookup_cons, List.lookup_cons]
      by_cases hl : k = l
      · subst hl
        simp
      · rw [ih (Nat.succ.inj hlength) ((List.mem_cons.mp hk).resolve_left hl)]

theorem lookup_zip_replicate {ls : List κ} {k : κ} (hk : k ∈ ls) :
    (ls.zip (List.replicate ls.length default)).lookup k = some default := by
  induction ls with
  | nil => exact absurd hk List.not_mem_nil
  | cons l ls ih =>
    rw [List.length_cons, List.replicate_succ, List.zip_cons_cons, List.lookup_cons]
    by_cases hl : k = l
    · subst hl
      simp
    · rw [beq_false_of_ne hl]
      exact ih ((List.mem_cons.mp hk).resolve_left hl)

theorem lookup_zip_append_of_notMem {ks ls : List κ} {xs ys : List ν}
    (hlength : ks.length = xs.length) {k : κ} (hk : k ∉ ks) :
    ((ks ++ ls).zip (xs ++ ys)).lookup k = (ls.zip ys).lookup k := by
  induction ks generalizing xs with
  | nil =>
    cases xs with
    | nil => rfl
    | cons x xs => exact nomatch hlength
  | cons l ks ih =>
    cases xs with
    | nil => exact nomatch hlength
    | cons x xs =>
      obtain ⟨hl, hks⟩ := not_or.mp (fun h => hk (List.mem_cons.mpr h))
      have hbeq : (k == l) = false := beq_false_of_ne hl
      rw [List.cons_append, List.cons_append, List.zip_cons_cons, List.lookup_cons, hbeq,
        ih (Nat.succ.inj hlength) hks]

/-- A row keeps its values when columns are added. -/
theorem value_append_of_mem {added : List (κ × δ)} (hcolumns : u.columns = t.columns ++ added)
    {row : List ν} (hrow : row ∈ t.rows) (values : List ν) {k : κ} (hk : k ∈ t.names) :
    u.value (row ++ values) k = t.value row k := by
  have hlength : t.names.length = row.length := by rw [names, List.length_map, t.width row hrow]
  rw [value, names, hcolumns, List.map_append]
  exact lookup_zip_append hlength hk

/-- Under an added column a row has the default. -/
theorem value_append_of_notMem {added : List (κ × δ)} (hcolumns : u.columns = t.columns ++ added)
    {row : List ν} (hrow : row ∈ t.rows) {k : κ} (hk : k ∉ t.names) (hadded : k ∈ u.names) :
    u.value (row ++ List.replicate added.length default) k = some default := by
  have hlength : t.names.length = row.length := by rw [names, List.length_map, t.width row hrow]
  rw [names, hcolumns, List.map_append] at hadded
  have hnew : k ∈ added.map Prod.fst := (List.mem_append.mp hadded).resolve_left hk
  have hvalues : ((added.map Prod.fst).zip
      (List.replicate (added.map Prod.fst).length default)).lookup k = some default :=
    lookup_zip_replicate hnew
  rw [List.length_map] at hvalues
  rw [value, names, hcolumns, List.map_append]
  exact (lookup_zip_append_of_notMem hlength hk).trans hvalues

end ColumnTable
