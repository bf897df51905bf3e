import Mathlib.Data.List.Nodup

/-!
# Insertion-ordered dictionaries

A finite map that remembers the order in which its keys first arrived.
Overwriting a key keeps its place and erasing it forgets the place, so the
values of a dictionary that is only ever overwritten are listed in creation
order.

## Main definitions

* `OrderedDict` — entries together with the proof that no key occurs twice
* `OrderedDict.get`, `OrderedDict.set`, `OrderedDict.erase`, `OrderedDict.update`

## Main results

* `get_set`, `get_erase`, `get_update_entries` — reading after writing, at every key
* `values_set_of_get_eq_none`, `values_set_of_get_eq_some` — where a written
  value lands in the listing
-/

/-- A dictionary whose entries are kept in the order their keys first arrived. -/
structure OrderedDict (κ ν : Type*) where
  entries : List (κ × ν)
  nodupKeys : (entries.map Prod.fst).Nodup

namespace OrderedDict

variable {κ ν : Type*} [DecidableEq κ] {d : OrderedDict κ ν} {k k' : κ} {v v' : ν}

/-- The dictionary without entries. -/
def empty : OrderedDict κ ν := ⟨[], List.nodup_nil⟩

instance : EmptyCollection (OrderedDict κ ν) := ⟨empty⟩

instance : Inhabited (OrderedDict κ ν) := ⟨empty⟩

/-- The keys in arrival order. -/
def keys (d : OrderedDict κ ν) : List κ := d.entries.map Prod.fst

/-- The values in the arrival order of their keys. -/
def values (d : OrderedDict κ ν) : List ν := d.entries.map Prod.snd

/-- The value stored under a key, if any. -/
def get (d : OrderedDict κ ν) (k : κ) : Option ν :=
  (d.entries.find? fun e => e.1 = k).map Prod.snd

/-- Whether a key is present. -/
def contains (d : OrderedDict κ ν) (k : κ) : Bool := (d.get k).isSome

private def replaceEntry (k : κ) (v : ν) (e : κ × ν) : κ × ν := if e.1 = k then (k, v) else e

private theorem map_fst_replaceEntry (es : List (κ × ν)) (k : κ) (v : ν) :
    (es.map (replaceEntry k v)).map Prod.fst = es.map Prod.fst := by
  rw [List.map_map]
  refine List.map_congr_left fun e _ => ?_
  simp only [Function.comp_apply, replaceEntry]
  split_ifs with h
  · exact h.symm
  · rfl

/-- Store a value: an existing key keeps its place, a new one goes to the end. -/
def set (d : OrderedDict κ ν) (k : κ) (v : ν) : OrderedDict κ ν :=
  if h : k ∈ d.keys then
    ⟨d.entries.map (replaceEntry k v), by
      rw [map_fst_replaceEntry]; exact d.nodupKeys⟩
  else
    ⟨d.entries ++ [(k, v)], by
      rw [List.map_append, List.nodup_append]
      refine ⟨d.nodupKeys, by simp, fun a ha b hb => ?_⟩
      obtain rfl : b = k := by simpa using hb
      exact fun hab => h (hab ▸ ha)⟩

/-- Forget a key. -/
def erase (d : OrderedDict κ ν) (k : κ) : OrderedDict κ ν :=
  ⟨d.entries.filter fun e => e.1 ≠ k,
    d.nodupKeys.sublist (List.filter_sublist.map _)⟩

/-- Store every entry of a list in turn. -/
def update (d : OrderedDict κ ν) (es : List (κ × ν)) : OrderedDict κ ν :=
  es.foldl (fun acc e => acc.set e.1 e.2) d

/-- The dictionary a literal denotes: a repeated key keeps its last value. -/
def ofList (es : List (κ × ν)) : OrderedDict κ ν := update ∅ es

@[simp] theorem get_empty (k : κ) : (∅ : OrderedDict κ ν).get k = none := rfl

theorem get_eq_none_iff : d.get k = none ↔ k ∉ d.keys := by
  simp only [get, keys, Option.map_eq_none_iff, List.find?_eq_none, decide_eq_true_eq,
    List.mem_map, Prod.exists, exists_and_right, exists_eq_right, not_exists, Prod.forall]
  exact ⟨fun h v hmem => h k v hmem rfl, fun h a b hmem hk => h b (hk ▸ hmem)⟩

theorem mem_keys_iff : k ∈ d.keys ↔ ∃ v, d.get k = some v := by
  rw [← not_iff_not, ← get_eq_none_iff]
  cases d.get k <;> simp

theorem mem_entries_of_get (h : d.get k = some v) : (k, v) ∈ d.entries := by
  obtain ⟨⟨k₀, v₀⟩, hfind, rfl⟩ := Option.map_eq_some_iff.mp h
  obtain rfl : k₀ = k := by simpa using List.find?_some hfind
  exact List.mem_of_find?_eq_some hfind

theorem get_of_mem_entries (h : (k, v) ∈ d.entries) : d.get k = some v := by
  have hkey : k ∈ d.keys := List.mem_map_of_mem h
  obtain ⟨v', hv'⟩ := mem_keys_iff.mp hkey
  have hsame : (k, v') = (k, v) :=
    List.inj_on_of_nodup_map d.nodupKeys (mem_entries_of_get hv') h rfl
  rw [hv', (Prod.mk.inj hsame).2]

theorem get_eq_some_iff : d.get k = some v ↔ (k, v) ∈ d.entries :=
  ⟨mem_entries_of_get, get_of_mem_entries⟩

/-- At most one entry has a given key. -/
theorem filter_entries_key :
    (d.entries.filter fun e => e.1 = k) = ((d.get k).map fun v => (k, v)).toList := by
  cases hget : d.get k with
  | none =>
    have hk : k ∉ d.keys := get_eq_none_iff.mp hget
    refine List.filter_eq_nil_iff.mpr fun e he hek => hk ?_
    exact of_decide_eq_true hek ▸ List.mem_map_of_mem he
  | some v =>
    have hmem : (k, v) ∈ d.entries := mem_entries_of_get hget
    have hsame : ∀ e ∈ d.entries, decide (e.1 = k) = true ↔ e = (k, v) := fun e he =>
      ⟨fun hek => List.inj_on_of_nodup_map d.nodupKeys he hmem (of_decide_eq_true hek),
        fun heq => decide_eq_true (congrArg Prod.fst heq)⟩
    have hnodup : (d.entries.filter fun e => e.1 = k).Nodup := (d.nodupKeys.of_map).filter _
    refine List.perm_singleton.mp ((List.perm_ext_iff_of_nodup hnodup (List.nodup_singleton _)).mpr
      fun e => ?_)
    rw [List.mem_filter, List.mem_singleton]
    exact ⟨fun h => (hsame e h.1).mp h.2, fun h => h ▸ ⟨hmem, (hsame _ hmem).mpr rfl⟩⟩

theorem mem_values_iff : v ∈ d.values ↔ ∃ k, d.get k = some v := by
  simp [values, get_eq_some_iff]

theorem mem_entries_set_iff {e : κ × ν} :
    e ∈ (d.set k v).entries ↔ e = (k, v) ∨ (e.1 ≠ k ∧ e ∈ d.entries) := by
  unfold set
  split_ifs with h
  · simp only [List.mem_map, replaceEntry]
    constructor
    · rintro ⟨e', he', rfl⟩
      split_ifs with hk
      · exact Or.inl rfl
      · exact Or.inr ⟨hk, he'⟩
    · rintro (rfl | ⟨hk, he⟩)
      · obtain ⟨e', he', hk⟩ := List.mem_map.mp h
        exact ⟨e', he', by simp [hk]⟩
      · exact ⟨e, he, by simp [hk]⟩
  · simp only [List.mem_append, List.mem_singleton]
    constructor
    · rintro (he | rfl)
      · exact Or.inr ⟨fun hk => h (hk ▸ List.mem_map_of_mem he), he⟩
      · exact Or.inl rfl
    · rintro (rfl | ⟨-, he⟩)
      · exact Or.inr rfl
      · exact Or.inl he

@[simp] theorem get_set_self : (d.set k v).get k = some v :=
  get_of_mem_entries (mem_entries_set_iff.mpr (Or.inl rfl))

theorem get_set_of_ne (h : k' ≠ k) : (d.set k v).get k' = d.get k' := by
  apply Option.ext
  intro v'
  rw [get_eq_some_iff, get_eq_some_iff, mem_entries_set_iff]
  constructor
  · rintro (heq | ⟨-, hmem⟩)
    · exact absurd (Prod.mk.inj heq).1 h
    · exact hmem
  · exact fun hmem => Or.inr ⟨h, hmem⟩

/-- Reading any key after storing one. -/
theorem get_set : (d.set k v).get k' = if k' = k then some v else d.get k' := by
  split_ifs with h
  · rw [h, get_set_self]
  · exact get_set_of_ne h

theorem mem_entries_erase_iff {e : κ × ν} :
    e ∈ (d.erase k).entries ↔ e ∈ d.entries ∧ e.1 ≠ k := by
  simp [erase, List.mem_filter]

@[simp] theorem get_erase_self : (d.erase k).get k = none := by
  rw [get_eq_none_iff]
  simp [keys, erase]

theorem get_erase_of_ne (h : k' ≠ k) : (d.erase k).get k' = d.get k' := by
  apply Option.ext
  intro v'
  rw [get_eq_some_iff, get_eq_some_iff, mem_entries_erase_iff]
  exact and_iff_left h

/-- Reading any key after erasing one. -/
theorem get_erase : (d.erase k).get k' = if k' = k then none else d.get k' := by
  split_ifs with h
  · rw [h, get_erase_self]
  · exact get_erase_of_ne h

theorem get_update_of_notMem {es : List (κ × ν)} (h : k ∉ es.map Prod.fst) :
    (d.update es).get k = d.get k := by
  induction es generalizing d with
  | nil => rfl
  | cons e es ih =>
    rw [List.map_cons, List.mem_cons, not_or] at h
    exact (ih h.2).trans (get_set_of_ne h.1)

/-- Overwriting a key leaves every entry in its place. -/
theorem entries_set_of_get_eq_some (h : d.get k = some v') :
    (d.set k v).entries = d.entries.map fun e => if e.1 = k then (k, v) else e := by
  have hk : k ∈ d.keys := mem_keys_iff.mpr ⟨v', h⟩
  simp only [set, hk, dite_true]
  rfl

omit [DecidableEq κ] in
theorem ext_entries {d' : OrderedDict κ ν} (h : d.entries = d'.entries) : d = d' := by
  obtain ⟨es, _⟩ := d
  obtain ⟨es', _⟩ := d'
  obtain rfl : es = es' := h
  rfl

/-- Only the last value stored under a key remains. -/
theorem set_set : (d.set k v).set k v' = d.set k v' := by
  apply ext_entries
  rw [entries_set_of_get_eq_some get_set_self]
  by_cases hk : k ∈ d.keys
  · obtain ⟨v₀, hv₀⟩ := mem_keys_iff.mp hk
    rw [entries_set_of_get_eq_some hv₀, entries_set_of_get_eq_some hv₀, List.map_map]
    refine List.map_congr_left fun e _ => ?_
    simp only [Function.comp_apply]
    split_ifs <;> simp_all
  · have hother : ∀ e ∈ d.entries, e.1 ≠ k := fun e he hek => hk (hek ▸ List.mem_map_of_mem he)
    have hset : ∀ u, (d.set k u).entries = d.entries ++ [(k, u)] := fun u => by simp [set, hk]
    rw [hset, hset, List.map_append, List.map_singleton, if_pos rfl]
    congr 1
    refine (List.map_congr_left fun e he => if_neg (hother e he)).trans (List.map_id _)

/-- Reading after storing every entry of another dictionary. -/
theorem get_update_entries (d' : OrderedDict κ ν) :
    (d.update d'.entries).get k = (d'.get k).or (d.get k) := by
  obtain ⟨es, hnodup⟩ := d'
  change (d.update es).get k = ((es.find? fun e => e.1 = k).map Prod.snd).or (d.get k)
  induction es generalizing d with
  | nil => rfl
  | cons e es ih =>
    rw [List.map_cons, List.nodup_cons] at hnodup
    change ((d.set e.1 e.2).update es).get k = _
    rw [ih hnodup.2, List.find?_cons, get_set]
    by_cases hk : e.1 = k
    · -- a key occurs once, so nothing later overwrites the entry
      have hlater : (es.find? fun e' => e'.1 = k) = none := by
        rw [List.find?_eq_none]
        intro e' he' hkey
        exact hnodup.1 (List.mem_map.mpr ⟨e', he', (of_decide_eq_true hkey).trans hk.symm⟩)
      simp [hk, hlater]
    · simp [hk, Ne.symm hk]

/-- Storing new keys adds their entries at the end. -/
theorem entries_update {es : List (κ × ν)} (h : (d.keys ++ es.map Prod.fst).Nodup) :
    (d.update es).entries = d.entries ++ es := by
  induction es generalizing d with
  | nil => exact (List.append_nil _).symm
  | cons e es ih =>
    have hnew : e.1 ∉ d.keys := by
      intro hmem
      rw [List.map_cons, List.nodup_append] at h
      exact h.2.2 _ hmem _ List.mem_cons_self rfl
    have hentries : (d.set e.1 e.2).entries = d.entries ++ [e] := by simp [set, hnew]
    have hkeys : (d.set e.1 e.2).keys = d.keys ++ [e.1] := by
      rw [keys, hentries, List.map_append, keys, List.map_singleton]
    change ((d.set e.1 e.2).update es).entries = _
    rw [ih (by rwa [hkeys, List.append_assoc, List.singleton_append, ← List.map_cons]), hentries,
      List.append_assoc, List.singleton_append]

/-- Overwriting one of the entries just stored. -/
theorem set_update {es : List (κ × ν)} (h : (d.keys ++ es.map Prod.fst).Nodup)
    (hk : k ∈ es.map Prod.fst) :
    (d.update es).set k v = d.update (es.map fun e => if e.1 = k then (k, v) else e) := by
  have hkeys : (es.map fun e => if e.1 = k then (k, v) else e).map Prod.fst = es.map Prod.fst := by
    rw [List.map_map]
    refine List.map_congr_left fun e _ => ?_
    simp only [Function.comp_apply]
    split_ifs with hek
    · exact hek.symm
    · rfl
  have hold : ∀ e ∈ d.entries, e.1 ≠ k := fun e he hek =>
    (List.nodup_append.mp h).2.2 _ (List.mem_map_of_mem he) _ hk hek
  obtain ⟨e₀, he₀, rfl⟩ := List.mem_map.mp hk
  have hget : (d.update es).get e₀.1 = some e₀.2 := by
    rw [get_eq_some_iff, entries_update h]
    exact List.mem_append_right _ he₀
  apply ext_entries
  rw [entries_set_of_get_eq_some hget, entries_update h, entries_update (by rwa [hkeys]),
    List.map_append]
  congr 1
  exact (List.map_congr_left fun e he => if_neg (hold e he)).trans (List.map_id _)

/-- A literal without repeated keys has exactly the entries it lists. -/
theorem entries_ofList {es : List (κ × ν)} (h : (es.map Prod.fst).Nodup) :
    (ofList es).entries = es :=
  entries_update h

/-- A literal says nothing about the keys it does not list. -/
theorem get_ofList_of_mem {es : List (κ × ν)} (h : (es.map Prod.fst).Nodup) (hmem : (k, v) ∈ es) :
    (ofList es).get k = some v := by
  refine get_of_mem_entries ?_
  rwa [entries_ofList h]

theorem contains_ofList_of_notMem {es : List (κ × ν)} (h : k ∉ es.map Prod.fst) :
    (ofList es).contains k = false := by
  rw [contains, ofList, get_update_of_notMem h]
  rfl

theorem contains_set_of_ne (h : k' ≠ k) : (d.set k v).contains k' = d.contains k' := by
  rw [contains, get_set_of_ne h, contains]

/-- A new key is listed last. -/
theorem keys_set_of_notMem (h : k ∉ d.keys) : (d.set k v).keys = d.keys ++ [k] := by
  have hentries : (d.set k v).entries = d.entries ++ [(k, v)] := by simp [set, h]
  rw [keys, hentries, List.map_append]
  rfl

/-- A new key's value is listed last. -/
theorem values_set_of_get_eq_none (h : d.get k = none) :
    (d.set k v).values = d.values ++ [v] := by
  have hk : k ∉ d.keys := get_eq_none_iff.mp h
  simp [set, hk, values]

/-- An overwritten key's value is listed where the old one stood. -/
theorem values_set_of_get_eq_some (h : d.get k = some v') :
    (d.set k v).values = d.entries.map fun e => if e.1 = k then v else e.2 := by
  have hk : k ∈ d.keys := mem_keys_iff.mpr ⟨v', h⟩
  simp only [set, hk, dite_true, values, List.map_map]
  refine List.map_congr_left fun e _ => ?_
  simp only [Function.comp_apply, replaceEntry]
  split_ifs <;> rfl

end OrderedDict
