import Velox.Python.Lines

/-!
# Paths

`pathlib.PurePosixPath`: a root and the parts below it. What a path leads to is a
question to the file system and is not answered here.

## Main definitions

* `PurePath`, `PurePath.ofString`, `PurePath.str` — paths and their text
* `PurePath.child` — `path / segment`
* `PurePath.parent`, `PurePath.parents` — the paths above a path

## Main results

* `PurePath.exists_mem_parts_ofString` — the characters of a path are those of its text
-/

set_option autoImplicit false

/-- `PurePosixPath`. -/
structure PurePath where
  /-- `""`, `"/"`, or `"//"` for exactly two leading slashes. -/
  root : String
  parts : List String
  deriving DecidableEq

namespace PurePath

/-- `Path(text)`: empty segments and single dots are dropped. -/
def ofString (text : String) : PurePath where
  root :=
    match (text.toList.takeWhile (· = '/')).length with
    | 0 => ""
    | 2 => "//"
    | _ => "/"
  parts := ((text.toList.splitOnP (· = '/')).filter fun part => part ≠ [] ∧ part ≠ ['.']).map
    String.ofList

theorem mem_flatten_splitOnP {α : Type*} {p : α → Bool} {a : α} (l : List α) :
    a ∈ (l.splitOnP p).flatten ↔ a ∈ l ∧ p a = false := by
  induction l with
  | nil => simp
  | cons b l ih =>
    rw [List.splitOnP_cons_eq_if_modifyHead]
    split_ifs with hb
    · rw [List.flatten_cons, List.nil_append, ih, List.mem_cons]
      refine ⟨fun h => ⟨Or.inr h.1, h.2⟩, ?_⟩
      rintro ⟨rfl | h, ha⟩
      · rw [hb] at ha
        cases ha
      · exact ⟨h, ha⟩
    · obtain ⟨segment, segments, hsegments⟩ := List.exists_cons_of_ne_nil (l.splitOnP_ne_nil p)
      rw [hsegments, List.flatten_cons, List.mem_append] at ih
      rw [hsegments, List.modifyHead_cons, List.flatten_cons, List.cons_append, List.mem_cons,
        List.mem_append, ih, List.mem_cons]
      refine ⟨?_, fun h => h.1.imp id fun ha => ⟨ha, h.2⟩⟩
      rintro (rfl | h)
      · exact ⟨Or.inl rfl, Bool.eq_false_iff.mpr hb⟩
      · exact ⟨Or.inr h.1, h.2⟩

/-- The characters of the parts of a path are those of its text, slashes and single
dots apart. -/
theorem exists_mem_parts_ofString {text : String} {c : Char} (hdot : c ≠ '.') :
    (∃ part ∈ (ofString text).parts, c ∈ part.toList) ↔ c ∈ text.toList ∧ c ≠ '/' := by
  have hmem := mem_flatten_splitOnP (p := fun c => decide (c = '/')) (a := c) text.toList
  rw [decide_eq_false_iff_not] at hmem
  rw [← ne_eq] at hmem
  rw [← hmem, List.mem_flatten]
  constructor
  · rintro ⟨part, hpart, hc⟩
    obtain ⟨segment, hsegment, rfl⟩ := List.mem_map.mp hpart
    rw [String.toList_ofList] at hc
    exact ⟨segment, (List.mem_filter.mp hsegment).1, hc⟩
  · rintro ⟨segment, hsegment, hc⟩
    refine ⟨_, List.mem_map_of_mem (List.mem_filter.mpr ⟨hsegment, ?_⟩), ?_⟩
    · refine decide_eq_true ⟨List.ne_nil_of_mem hc, ?_⟩
      rintro rfl
      exact hdot (List.mem_singleton.mp hc)
    · rwa [String.toList_ofList]

/-- `str(path)`. -/
def str (path : PurePath) : String :=
  if path.root = "" ∧ path.parts = [] then "." else path.root ++ "/".intercalate path.parts

/-- `path / segment`: an absolute segment takes the place of the path. -/
def child (path : PurePath) (segment : String) : PurePath :=
  if (ofString segment).root ≠ "" then ofString segment
  else { path with parts := path.parts ++ (ofString segment).parts }

/-- A text that names one part of a path. -/
structure IsName (name : String) : Prop where
  ne_empty : name ≠ ""
  ne_dot : name ≠ "."
  slash_notMem : '/' ∉ name.toList

theorem ofString_of_isName {name : String} (h : IsName name) :
    ofString name = { root := "", parts := [name] } := by
  have hslash : ∀ c ∈ name.toList, decide (c = '/') = false := by
    intro c hc
    refine decide_eq_false ?_
    rintro rfl
    exact h.slash_notMem hc
  have hroot : name.toList.takeWhile (· = '/') = [] := by
    rw [List.takeWhile_eq_nil_iff]
    intro hpos
    simp [hslash _ (List.getElem_mem hpos)]
  have hne : name.toList ≠ [] := fun hnil => h.ne_empty (String.toList_injective hnil)
  have hdot : name.toList ≠ ['.'] := fun hdot => h.ne_dot (String.toList_injective hdot)
  rw [ofString, hroot, List.splitOnP_eq_singleton hslash]
  simp [hne, hdot]

theorem child_of_isName (path : PurePath) {name : String} (h : IsName name) :
    path.child name = { path with parts := path.parts ++ [name] } := by
  rw [child, ofString_of_isName h]
  simp

/-- Different names lead to different texts. -/
theorem eq_of_str_child_eq {path : PurePath} {name name' : String} (h : IsName name)
    (h' : IsName name') (heq : (path.child name).str = (path.child name').str) : name = name' := by
  have hparts : ∀ last : String, ¬(path.root = "" ∧ path.parts ++ [last] = []) := fun last hnil =>
    List.append_ne_nil_of_right_ne_nil path.parts (List.cons_ne_nil last []) hnil.2
  rw [child_of_isName path h, child_of_isName path h', str, str, if_neg (hparts name),
    if_neg (hparts name'), String.append_right_inj] at heq
  rcases eq_or_ne path.parts [] with hnil | hne
  · rwa [hnil, List.nil_append, List.nil_append, String.intercalate_singleton,
      String.intercalate_singleton] at heq
  · rwa [String.intercalate_append_of_ne_nil hne (List.cons_ne_nil _ _),
      String.intercalate_append_of_ne_nil hne (List.cons_ne_nil _ _), String.intercalate_singleton,
      String.intercalate_singleton, String.append_right_inj] at heq

/-- `path.is_absolute()`. -/
def isAbsolute (path : PurePath) : Bool := path.root ≠ ""

/-- `path.name`. -/
def name (path : PurePath) : String := path.parts.getLast?.getD ""

/-- `path.parent`. -/
def parent (path : PurePath) : PurePath := { path with parts := path.parts.dropLast }

/-- `path.parents`, the nearest first. -/
def parents (path : PurePath) : List PurePath :=
  (List.range path.parts.length).reverse.map fun n => { path with parts := path.parts.take n }

end PurePath
