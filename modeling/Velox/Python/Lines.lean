import Mathlib.Data.Nat.Notation
import Velox.Python.Text

/-!
# Lines and words

How the server takes apart what a command printed: into lines, into words, and a
line after a known beginning.

## Main definitions

* `Python.splitlines`, `Python.split` — `str.splitlines()` and `str.split()`
* `Python.afterPrefix` — what follows a beginning, if the text has it

## Main results

* `Python.splitlines_line_append` — the first line of a text
* `Python.isLine_of_mem_splitlines` — no line contains a line break
* `Python.strip_append_newline`, `Python.head_split_append` — a word read back
  from the line it was printed on
* `Python.split_strip` — stripping keeps the words
* `Python.afterFirstChars_separator`, `Python.afterFirstChars_eq_none_iff` — what follows
  the first occurrence of a separator, if there is one
-/

set_option autoImplicit false

namespace Python

/-! ### Lines -/

/-- The characters `str.splitlines()` ends a line at. -/
def isLineBreak (c : Char) : Bool :=
  (0x0A ≤ c.toNat && c.toNat ≤ 0x0D) || (0x1C ≤ c.toNat && c.toNat ≤ 0x1E) || c.toNat == 0x85 ||
    c.toNat == 0x2028 || c.toNat == 0x2029

/-- `str.splitlines()` on characters: a carriage return and a line feed after it end
one line. -/
def splitLineChars : List Char → List (List Char)
  | [] => []
  | '\r' :: '\n' :: cs => [] :: splitLineChars cs
  | c :: cs =>
    if isLineBreak c then [] :: splitLineChars cs
    else
      match splitLineChars cs with
      | [] => [[c]]
      | line :: lines => (c :: line) :: lines

/-- `str.splitlines()`. -/
def splitlines (s : String) : List String := (splitLineChars s.toList).map String.ofList

/-- A text on one line. -/
def IsLine (s : String) : Prop := ∀ c ∈ s.toList, isLineBreak c = false

theorem splitLineChars_append {line : List Char} (rest : List Char)
    (h : ∀ c ∈ line, isLineBreak c = false) :
    splitLineChars (line ++ '\n' :: rest) = line :: splitLineChars rest := by
  induction line with
  | nil =>
    rw [List.nil_append, splitLineChars.eq_3 _ _ fun _ heq _ => absurd heq (by decide)]
    rfl
  | cons c line ih =>
    have hc : isLineBreak c = false := h c List.mem_cons_self
    have hreturn : c ≠ '\r' := by
      rintro rfl
      exact absurd hc (by decide)
    rw [List.cons_append, splitLineChars.eq_3 _ _ fun _ heq _ => hreturn heq,
      ih fun c' hc' => h c' (List.mem_cons_of_mem c hc')]
    simp [hc]

/-- A line that is ended by a line feed is the first line. -/
theorem splitlines_line_append {line : String} (rest : String) (h : IsLine line) :
    splitlines (line ++ "\n" ++ rest) = line :: splitlines rest := by
  have hlist : (line ++ "\n" ++ rest).toList = line.toList ++ '\n' :: rest.toList := by simp
  rw [splitlines, hlist, splitLineChars_append rest.toList h, List.map_cons, String.ofList_toList]
  rfl

@[simp] theorem splitlines_empty : splitlines "" = [] := rfl

/-- A line that is not ended is the last line. -/
theorem splitLineChars_line {line : List Char} (h : ∀ c ∈ line, isLineBreak c = false)
    (hne : line ≠ []) : splitLineChars line = [line] := by
  induction line with
  | nil => exact absurd rfl hne
  | cons c line ih =>
    have hc : isLineBreak c = false := h c List.mem_cons_self
    have hreturn : c ≠ '\r' := by
      rintro rfl
      exact absurd hc (by decide)
    rw [splitLineChars.eq_3 _ _ fun _ heq _ => hreturn heq]
    rcases line with _ | ⟨d, line⟩
    · simp [hc, splitLineChars]
    · rw [ih (fun c' hc' => h c' (List.mem_cons_of_mem c hc')) (List.cons_ne_nil d line)]
      simp [hc]

theorem splitlines_line {line : String} (h : IsLine line) (hne : line ≠ "") :
    splitlines line = [line] := by
  have hchars : line.toList ≠ [] := fun hnil => hne (String.toList_injective hnil)
  rw [splitlines, splitLineChars_line h hchars, List.map_singleton, String.ofList_toList]

theorem not_isLineBreak_of_mem_splitLineChars {cs line : List Char} (h : line ∈ splitLineChars cs) :
    ∀ c ∈ line, isLineBreak c = false := by
  induction cs using splitLineChars.induct generalizing line with
  | case1 => cases h
  | case2 cs ih =>
    rw [splitLineChars] at h
    rcases List.mem_cons.mp h with rfl | h
    · exact fun c hc => nomatch hc
    · exact ih h
  | case3 c cs hother hbreak ih =>
    rw [splitLineChars.eq_3 _ _ hother, if_pos hbreak] at h
    rcases List.mem_cons.mp h with rfl | h
    · exact fun c hc => nomatch hc
    · exact ih h
  | case4 c cs hother hbreak hnil ih =>
    rw [splitLineChars.eq_3 _ _ hother, if_neg hbreak, hnil] at h
    obtain rfl := List.mem_singleton.mp h
    intro d hd
    obtain rfl := List.mem_singleton.mp hd
    exact Bool.eq_false_iff.mpr hbreak
  | case5 c cs hother hbreak first lines hlines ih =>
    rw [splitLineChars.eq_3 _ _ hother, if_neg hbreak, hlines] at h
    rcases List.mem_cons.mp h with rfl | h
    · -- the character stands before those of the line it begins
      intro d hd
      rcases List.mem_cons.mp hd with rfl | hd
      · exact Bool.eq_false_iff.mpr hbreak
      · exact ih (hlines ▸ List.mem_cons_self) d hd
    · exact ih (hlines ▸ List.mem_cons_of_mem first h)

/-- Every line is on one line. -/
theorem isLine_of_mem_splitlines {s line : String} (h : line ∈ splitlines s) : IsLine line := by
  obtain ⟨cs, hcs, rfl⟩ := List.mem_map.mp h
  intro c hc
  rw [String.toList_ofList] at hc
  exact not_isLineBreak_of_mem_splitLineChars hcs c hc

/-- Lines written one after another are read back. -/
theorem splitlines_join {lines : List String} (h : ∀ line ∈ lines, IsLine line) :
    splitlines (String.join (lines.map (· ++ "\n"))) = lines := by
  induction lines with
  | nil => rfl
  | cons line lines ih =>
    have hjoin : String.join ((line :: lines).map (· ++ "\n")) =
        line ++ "\n" ++ String.join (lines.map (· ++ "\n")) := by
      simp [String.join_cons]
    rw [hjoin, splitlines_line_append _ (h line List.mem_cons_self),
      ih fun line' hline' => h line' (List.mem_cons_of_mem line hline')]

/-! ### Words -/

/-- `str.split()`. -/
def split (s : String) : List String :=
  ((s.toList.splitOnP isSpace).filter (· ≠ [])).map String.ofList

/-- A text that is one word. -/
structure IsWord (s : String) : Prop where
  ne_empty : s ≠ ""
  not_isSpace : ∀ c ∈ s.toList, isSpace c = false

theorem isWord_of_all {s : String} (hne : s ≠ "")
    (h : (s.toList.all fun c => !isSpace c) = true) : IsWord s where
  ne_empty := hne
  not_isSpace c hc := by simpa using List.all_eq_true.mp h c hc

/-- What stands between two kept characters is kept, and what is removed after it goes. -/
theorem trim_append {α : Type*} {p : α → Bool} {l t : List α} (hhead : ∀ a ∈ l.head?, p a = false)
    (hlast : ∀ a ∈ l.getLast?, p a = false) (ht : ∀ a ∈ t, p a = true) : trim p (l ++ t) = l := by
  have hback : (l ++ t).rdropWhile p = l := by
    induction t using List.reverseRecOn with
    | nil =>
      rw [List.append_nil, List.rdropWhile_eq_self_iff]
      intro hne
      simp [hlast _ (List.getLast_mem_getLast? hne)]
    | append_singleton t a ih =>
      rw [← List.append_assoc, List.rdropWhile_concat_pos p _ a (ht a (by simp))]
      exact ih fun b hb => ht b (List.mem_append_left [a] hb)
  rcases l with _ | ⟨b, bs⟩
  · rw [List.nil_append, trim, List.dropWhile_eq_nil_iff.mpr ht]
    rfl
  · have hfront : ((b :: bs) ++ t).dropWhile p = (b :: bs) ++ t :=
      List.dropWhile_cons_of_neg (by simp [hhead b rfl])
    rw [trim, hfront, hback]

/-- A text that white space neither begins nor ends is read back from white space after it. -/
theorem strip_append {s t : String} (hhead : ∀ c ∈ s.toList.head?, isSpace c = false)
    (hlast : ∀ c ∈ s.toList.getLast?, isSpace c = false) (ht : ∀ c ∈ t.toList, isSpace c = true) :
    strip (s ++ t) = s := by
  rw [strip, String.toList_append, trim_append hhead hlast ht, String.ofList_toList]

theorem isSpace_of_mem_newline : ∀ c ∈ "\n".toList, isSpace c = true :=
  List.all_eq_true.mp (by decide)

/-- A word printed on a line of its own is read back by stripping. -/
theorem strip_append_newline {s : String} (h : IsWord s) : strip (s ++ "\n") = s :=
  strip_append (fun c hc => h.not_isSpace c (List.mem_of_mem_head? hc))
    (fun c hc => h.not_isSpace c (List.mem_of_mem_getLast? hc)) isSpace_of_mem_newline

/-- The first word of a text that begins with a word and a white space. -/
theorem head_split_append {s rest : String} {c : Char} (h : IsWord s) (hc : isSpace c = true) :
    (split (s ++ String.ofList (c :: rest.toList))).head? = some s := by
  have hne : s.toList ≠ [] := fun hnil => h.ne_empty (String.toList_injective hnil)
  have hlist : (s ++ String.ofList (c :: rest.toList)).toList = s.toList ++ c :: rest.toList := by
    simp
  rw [split, hlist, List.splitOnP_append_cons_of_forall_mem h.not_isSpace c hc,
    List.filter_cons_of_pos (by simpa using hne), List.map_cons, List.head?_cons,
    String.ofList_toList]

/-- Removing separators in front keeps the words. -/
theorem words_dropWhile {α : Type*} [DecidableEq α] (p : α → Bool) (l : List α) :
    ((l.dropWhile p).splitOnP p).filter (· ≠ []) = (l.splitOnP p).filter (· ≠ []) := by
  induction l with
  | nil => rfl
  | cons a l ih =>
    by_cases ha : p a = true
    · rw [List.dropWhile_cons_of_pos ha, ih, List.splitOnP_cons_eq_if_modifyHead, if_pos ha]
      simp
    · rw [List.dropWhile_cons_of_neg ha]

/-- Removing separators at the end keeps the words. -/
theorem words_rdropWhile {α : Type*} [DecidableEq α] (p : α → Bool) (l : List α) :
    ((l.rdropWhile p).splitOnP p).filter (· ≠ []) = (l.splitOnP p).filter (· ≠ []) := by
  induction l using List.reverseRecOn with
  | nil => rfl
  | append_singleton l a ih =>
    by_cases ha : p a = true
    · rw [List.rdropWhile_concat_pos p l a ha, ih, List.splitOnP_append_cons _ _ ha]
      simp
    · rw [List.rdropWhile_concat_neg p l a ha]

/-- A stripped text has the same words. -/
@[simp] theorem split_strip (s : String) : split (strip s) = split s := by
  rw [split, split, strip, String.toList_ofList, trim, words_rdropWhile, words_dropWhile]

/-! ### Beginnings -/

/-- What follows the first occurrence of a separator. -/
def afterFirstChars (separator : List Char) : List Char → Option (List Char)
  | [] => if separator = [] then some [] else none
  | c :: cs =>
    if separator.isPrefixOf (c :: cs) then some ((c :: cs).drop separator.length)
    else afterFirstChars separator cs

/-- `s.split(separator, 1)[-1]`. -/
def afterFirst (separator s : String) : String :=
  ((afterFirstChars separator.toList s.toList).map String.ofList).getD s

section AfterFirst

variable {separator cs rest : List Char}

/-- A text without the separator has nothing after it. -/
theorem afterFirstChars_eq_none_iff (h : separator ≠ []) :
    afterFirstChars separator cs = none ↔ ¬separator <:+: cs := by
  induction cs with
  | nil => simp [afterFirstChars, h]
  | cons c cs ih =>
    rw [afterFirstChars, List.infix_cons_iff, ← List.isPrefixOf_iff_prefix]
    split_ifs with hbegins
    · simp [hbegins]
    · rw [ih]
      simp [hbegins]

/-- What follows the separator ends the text, and is shorter by it at least. -/
theorem length_of_afterFirstChars (h : afterFirstChars separator cs = some rest) :
    rest.length + separator.length ≤ cs.length ∧ rest <:+ cs := by
  induction cs with
  | nil =>
    simp only [afterFirstChars, Option.ite_none_right_eq_some, Option.some.injEq] at h
    obtain ⟨rfl, rfl⟩ := h
    exact ⟨le_rfl, List.suffix_rfl⟩
  | cons c cs ih =>
    rw [afterFirstChars] at h
    split_ifs at h with hbegins
    · obtain rfl := Option.some.inj h
      have hle := (List.isPrefixOf_iff_prefix.mp hbegins).length_le
      refine ⟨?_, List.drop_suffix _ _⟩
      rw [List.length_drop]
      omega
    · obtain ⟨hle, hsuffix⟩ := ih h
      refine ⟨?_, hsuffix.trans (List.suffix_cons c cs)⟩
      rw [List.length_cons]
      omega

/-- The first occurrence stays the first when a text goes on. -/
theorem afterFirstChars_append {before : List Char} (hne : separator ≠ [])
    (h : afterFirstChars separator before = some cs) :
    afterFirstChars separator (before ++ rest) = some (cs ++ rest) := by
  induction before with
  | nil => simp [afterFirstChars, hne] at h
  | cons c before ih =>
    rw [afterFirstChars] at h
    rw [List.cons_append, afterFirstChars]
    split_ifs at h with hbegins
    · have hle := (List.isPrefixOf_iff_prefix.mp hbegins).length_le
      have hlonger : separator.isPrefixOf (c :: (before ++ rest)) = true :=
        List.isPrefixOf_iff_prefix.mpr
          ((List.isPrefixOf_iff_prefix.mp hbegins).trans (List.prefix_append _ rest))
      rw [if_pos hlonger, ← Option.some.inj h, ← List.cons_append, List.drop_append_of_le_length hle]
    · -- a separator that begins here would end within the text, as a later one does
      obtain ⟨hle, -⟩ := length_of_afterFirstChars h
      have hlonger : ¬separator.isPrefixOf (c :: (before ++ rest)) = true := by
        intro hlonger
        refine hbegins (List.isPrefixOf_iff_prefix.mpr ?_)
        refine List.prefix_of_prefix_length_le (List.isPrefixOf_iff_prefix.mp hlonger)
          (List.prefix_append (c :: before) rest) ?_
        rw [List.length_cons]
        omega
      rw [if_neg hlonger]
      exact ih h

/-- What follows a separator that does not occur before, not even in part. -/
theorem afterFirstChars_separator {before : List Char} (hne : separator ≠ [])
    (h : ¬separator <:+: before ++ separator.dropLast) :
    afterFirstChars separator (before ++ separator ++ rest) = some rest := by
  induction before with
  | nil =>
    obtain ⟨c, tail, rfl⟩ := List.exists_cons_of_ne_nil hne
    have hbegins : (c :: tail).isPrefixOf (c :: (tail ++ rest)) = true :=
      List.isPrefixOf_iff_prefix.mpr (List.prefix_append (c :: tail) rest)
    rw [List.nil_append, List.cons_append, afterFirstChars, if_pos hbegins, ← List.cons_append,
      List.drop_left]
  | cons c before ih =>
    rw [List.cons_append, List.cons_append, afterFirstChars]
    have hlater : ¬separator <:+: before ++ separator.dropLast := fun hin =>
      h (hin.trans (List.suffix_cons c _).isInfix)
    have hhere : ¬separator.isPrefixOf (c :: (before ++ separator ++ rest)) = true := by
      intro hbegins
      refine h (List.IsPrefix.isInfix ?_)
      have hwhole : c :: before ++ separator.dropLast <+: c :: (before ++ separator ++ rest) := by
        rw [List.cons_append, List.append_assoc]
        refine List.cons_prefix_cons.mpr ⟨rfl, (List.prefix_append_right_inj before).mpr ?_⟩
        exact (List.dropLast_prefix separator).trans (List.prefix_append ..)
      refine List.prefix_of_prefix_length_le (List.isPrefixOf_iff_prefix.mp hbegins) hwhole ?_
      have := List.length_pos_of_ne_nil hne
      simp only [List.length_append, List.length_cons, List.length_dropLast]
      omega
    rw [if_neg hhere]
    exact ih hlater

end AfterFirst

/-- `s[:n]`. -/
def take (n : ℕ) (s : String) : String := String.ofList (s.toList.take n)

/-- `s[n:]`. -/
def drop (n : ℕ) (s : String) : String := String.ofList (s.toList.drop n)

/-- `s[len(start):]` of a text that begins with `start`. -/
def afterPrefix (start s : String) : Option String :=
  if start.toList.isPrefixOf s.toList then some (String.ofList (s.toList.drop start.length))
  else none

/-- What follows a beginning is on the same line. -/
theorem IsLine.afterPrefix {start s rest : String} (hs : IsLine s)
    (h : Python.afterPrefix start s = some rest) : IsLine rest := by
  rw [Python.afterPrefix] at h
  split_ifs at h
  obtain rfl := Option.some.inj h
  intro c hc
  rw [String.toList_ofList] at hc
  exact hs c (List.mem_of_mem_drop hc)

@[simp] theorem afterPrefix_append (start s : String) : afterPrefix start (start ++ s) = some s := by
  have hbegins : start.toList.isPrefixOf (start ++ s).toList = true := by simp
  rw [afterPrefix, if_pos hbegins, String.toList_append, ← String.length_toList, List.drop_left,
    String.ofList_toList]

end Python
