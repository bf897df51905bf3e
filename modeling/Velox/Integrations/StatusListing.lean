import Velox.Integrations.WorkProductSafety

/-!
# The files of a status listing

`git status --porcelain=v1` prints an entry on a line: two letters, a blank and a path, or
two paths with an arrow between them where the file was renamed or copied. A path with a
blank or a special character is put in quotation marks, but an arrow in it stays an arrow.

Whatever the letters say, the server takes what follows the first arrow of a line.

## Main definitions

* `PrintedPath` — a path as git prints it
* `StatusEntry`, `StatusEntry.line` — an entry, and its line
* `porcelainStatus` — the listing
* `StatusEntry.Unambiguous` — the first arrow of the line, if any, is the separator
* `FaithfulListing` — the changed files are the printed paths, in every review as well

## Main results

* `changedFiles_porcelainStatus` — unambiguous entries are listed faithfully
* `unambiguous_of_changedFiles` — and no others
* `finds_reviewedFiles` — a review is read off the status of the worktree
* `changedFiles_faithful_iff`
-/

set_option autoImplicit false

namespace Velox

open TrustedGitWorkspace (changedFiles)

/-! ### Printed paths -/

/-- A character that git prints as it is, without quotation marks around the path. -/
def isPlainPathChar (c : Char) : Bool :=
  0x20 < c.toNat && c.toNat ≠ 0x7F && c ≠ '"' && c ≠ '\\'

/-- The letters of the escapes other than numbers. -/
def pathEscapeLetters : List Char := ['a', 'b', 't', 'n', 'v', 'f', 'r', '"', '\\']

/-- A part of a quoted path. -/
inductive QuotedPart
  | shown (c : Char) (isShown : c = ' ' ∨ isPlainPathChar c = true)
  | escaped (letter : Char) (isLetter : letter ∈ pathEscapeLetters)
  | byte (value : Fin 256)

/-- How a part is written. -/
def QuotedPart.chars : QuotedPart → List Char
  | .shown c _ => [c]
  | .escaped letter _ => ['\\', letter]
  | .byte value => '\\' :: FixedWidth.encode 8 3 value

/-- A path as git prints it. -/
inductive PrintedPath
  | bare (cs : List Char) (isPlain : cs ≠ [] ∧ cs.all isPlainPathChar = true)
  | quoted (parts : List QuotedPart)

namespace PrintedPath

/-- The characters of a printed path. -/
def chars : PrintedPath → List Char
  | .bare cs _ => cs
  | .quoted parts => '"' :: (parts.flatMap QuotedPart.chars ++ ['"'])

/-- The text of a printed path. -/
def text (path : PrintedPath) : String := String.ofList path.chars

theorem chars_ne_nil (path : PrintedPath) : path.chars ≠ [] := by
  cases path with
  | bare cs isPlain => exact isPlain.1
  | quoted parts => exact List.cons_ne_nil _ _

/-- A path that ends in a blank and an arrowhead would be in quotation marks. -/
theorem not_suffix_chars (path : PrintedPath) : ¬" ->".toList <:+ path.chars := by
  intro hsuffix
  cases path with
  | bare cs isPlain =>
    have hblank : isPlainPathChar ' ' = true :=
      List.all_eq_true.mp isPlain.2 ' ' (hsuffix.subset (by decide))
    exact absurd hblank (by decide)
  | quoted parts =>
    rw [chars, ← List.cons_append] at hsuffix
    have hlast := List.IsSuffix.getLast hsuffix (by decide)
    rw [List.getLast_concat] at hlast
    exact absurd hlast (by decide)

end PrintedPath

/-! ### Entries -/

/-- A status letter. -/
inductive StatusLetter
  | unmodified
  | modified
  | typeChanged
  | added
  | deleted
  | renamed
  | copied
  | unmerged
  | untracked
  | ignored
  deriving DecidableEq

namespace StatusLetter

/-- How the letter is written. -/
def char : StatusLetter → Char
  | .unmodified => ' '
  | .modified => 'M'
  | .typeChanged => 'T'
  | .added => 'A'
  | .deleted => 'D'
  | .renamed => 'R'
  | .copied => 'C'
  | .unmerged => 'U'
  | .untracked => '?'
  | .ignored => '!'

/-- Renamed or copied. -/
def hasOriginal : StatusLetter → Bool
  | .renamed | .copied => true
  | _ => false

theorem char_eq_question_iff {letter : StatusLetter} : letter.char = '?' ↔ letter = .untracked := by
  cases letter <;> decide

theorem not_isLineBreak_char (letter : StatusLetter) : Python.isLineBreak letter.char = false := by
  cases letter <;> decide

end StatusLetter

/-- An entry of a status listing. -/
structure StatusEntry where
  index : StatusLetter
  worktree : StatusLetter
  path : PrintedPath
  /-- The former path, of a renamed or copied file only. -/
  original : Option PrintedPath
  hasOriginal : original.isSome = (index.hasOriginal || worktree.hasOriginal)

/-- What separates the two paths of a renamed or copied file. -/
def arrow : List Char := " -> ".toList

namespace StatusEntry

/-- The paths of the line, with the separator. -/
def pathChars (entry : StatusEntry) : List Char :=
  match entry.original with
  | none => entry.path.chars
  | some original => original.chars ++ arrow ++ entry.path.chars

/-- The line of an entry. -/
def line (entry : StatusEntry) : String :=
  String.ofList (entry.index.char :: entry.worktree.char :: ' ' :: entry.pathChars)

theorem toList_line (entry : StatusEntry) :
    entry.line.toList = entry.index.char :: entry.worktree.char :: ' ' :: entry.pathChars :=
  String.toList_ofList

/-- The path that comes first on the line. -/
def firstPath (entry : StatusEntry) : PrintedPath := entry.original.getD entry.path

/-- The first path has no arrow in it, and the line is one line. -/
structure Unambiguous (entry : StatusEntry) : Prop where
  noArrow : ¬arrow <:+: entry.firstPath.chars
  isLine : Python.IsLine entry.line

end StatusEntry

/-- What `git status --porcelain=v1` prints. -/
def porcelainStatus (entries : List StatusEntry) : String :=
  String.join (entries.map fun entry => entry.line ++ "\n")

/-! ### Reading a listing -/

section Read

variable {entry : StatusEntry} {entries : List StatusEntry}

/-- What the server takes for the file of a line. -/
def changedFile (line : String) : String := Python.afterFirst " -> " (Python.drop 3 line)

theorem drop_line (entry : StatusEntry) :
    Python.drop 3 entry.line = String.ofList entry.pathChars := by
  rw [Python.drop, entry.toList_line]
  rfl

theorem length_line (entry : StatusEntry) : 3 < entry.line.length := by
  have hpath : 0 < entry.pathChars.length := by
    rw [StatusEntry.pathChars]
    have hne := List.length_pos_of_ne_nil entry.path.chars_ne_nil
    cases entry.original with
    | none => exact hne
    | some original =>
      dsimp only
      rw [List.length_append]
      omega
  rw [StatusEntry.line, String.length_ofList, List.length_cons, List.length_cons, List.length_cons]
  omega

/-- The arrow occurs before a separator only where it occurs in the path there: a printed
path does not end in the first part of one. -/
theorem infix_append_dropLast_iff {path : PrintedPath} :
    arrow <:+: path.chars ++ arrow.dropLast ↔ arrow <:+: path.chars := by
  refine ⟨fun h => ?_, fun h => h.trans (List.prefix_append _ _).isInfix⟩
  have hsplit : path.chars ++ arrow.dropLast = path.chars ++ [' '] ++ ['-'] ++ ['>'] := by
    simp [arrow]
  have hlast : ∀ {cs : List Char} {c : Char}, c ≠ ' ' → arrow <:+: cs ++ [c] → arrow <:+: cs := by
    intro cs c hc hin
    rcases List.infix_concat_iff.mp hin with hsuffix | hin
    · have heq := List.IsSuffix.getLast hsuffix (by decide)
      rw [List.getLast_concat] at heq
      exact absurd heq.symm (Ne.symm hc).symm
    · exact hin
  rw [hsplit] at h
  have hblank := hlast (by decide) (hlast (by decide) h)
  rcases List.infix_concat_iff.mp hblank with hsuffix | hin
  · refine absurd ?_ path.not_suffix_chars
    have hstart : arrow = " ->".toList ++ [' '] := by decide
    rw [hstart] at hsuffix
    rcases List.suffix_concat_iff.mp hsuffix with hnil | ⟨tail, htail, hin⟩
    · exact absurd hnil (by decide)
    · rwa [List.append_cancel_right htail]
  · exact hin

theorem changedFile_line (entry : StatusEntry) :
    changedFile entry.line =
      String.ofList ((Python.afterFirstChars arrow entry.pathChars).getD entry.pathChars) := by
  rw [changedFile, drop_line, Python.afterFirst, String.toList_ofList (l := entry.pathChars)]
  change ((Python.afterFirstChars arrow entry.pathChars).map String.ofList).getD _ = _
  cases Python.afterFirstChars arrow entry.pathChars <;> rfl

/-- The first path of an entry decides what the server takes. -/
theorem changedFile_line_iff :
    changedFile entry.line = entry.path.text ↔ ¬arrow <:+: entry.firstPath.chars := by
  have harrow : arrow ≠ [] := by decide
  rw [changedFile_line, PrintedPath.text, String.ofList_inj]
  rcases horiginal : entry.original with _ | original
  · have hpaths : entry.pathChars = entry.path.chars := by rw [StatusEntry.pathChars, horiginal]
    have hfirst : entry.firstPath = entry.path := by rw [StatusEntry.firstPath, horiginal]; rfl
    rw [hpaths, hfirst, ← Python.afterFirstChars_eq_none_iff harrow]
    rcases hrest : Python.afterFirstChars arrow entry.path.chars with _ | rest
    · exact iff_of_true rfl rfl
    · -- what follows an arrow is shorter
      obtain ⟨hle, -⟩ := Python.length_of_afterFirstChars hrest
      refine iff_of_false (fun heq => ?_) (Option.some_ne_none rest)
      rw [Option.getD_some] at heq
      rw [heq, arrow] at hle
      exact absurd hle (by simp)
  · have hpaths : entry.pathChars = original.chars ++ arrow ++ entry.path.chars := by
      rw [StatusEntry.pathChars, horiginal]
    have hfirst : entry.firstPath = original := by rw [StatusEntry.firstPath, horiginal]; rfl
    rw [hpaths, hfirst]
    by_cases hin : arrow <:+: original.chars
    · -- the separator is left over
      refine iff_of_false (fun heq => ?_) (not_not.mpr hin)
      obtain ⟨rest, hrest⟩ : ∃ rest, Python.afterFirstChars arrow original.chars = some rest :=
        Option.ne_none_iff_exists'.mp fun hnone =>
          (Python.afterFirstChars_eq_none_iff harrow).mp hnone hin
      rw [List.append_assoc, Python.afterFirstChars_append harrow hrest, Option.getD_some] at heq
      have hlength := congrArg List.length heq
      have hlong : arrow.length = 4 := rfl
      simp only [List.length_append] at hlength
      omega
    · refine iff_of_true ?_ hin
      rw [Python.afterFirstChars_separator harrow (infix_append_dropLast_iff.not.mpr hin),
        Option.getD_some]

/-! ### Listings -/

/-- The lines of a listing are read back. -/
theorem splitlines_porcelainStatus (h : ∀ entry ∈ entries, Python.IsLine entry.line) :
    Python.splitlines (porcelainStatus entries) = entries.map StatusEntry.line := by
  have hjoin : porcelainStatus entries =
      String.join ((entries.map StatusEntry.line).map (· ++ "\n")) := by
    rw [porcelainStatus, List.map_map]
    rfl
  rw [hjoin, Python.splitlines_join]
  intro line hline
  obtain ⟨entry, hentry, rfl⟩ := List.mem_map.mp hline
  exact h entry hentry

/-- Each of them gives a file. -/
theorem changedFiles_of_isLine (h : ∀ entry ∈ entries, Python.IsLine entry.line) :
    changedFiles (porcelainStatus entries) = entries.map fun entry => changedFile entry.line := by
  have hlong : (entries.map StatusEntry.line).filter (fun line => 3 < line.length) =
      entries.map StatusEntry.line := by
    refine List.filter_eq_self.mpr fun line hline => ?_
    obtain ⟨entry, -, rfl⟩ := List.mem_map.mp hline
    exact decide_eq_true (length_line entry)
  rw [changedFiles, splitlines_porcelainStatus h, hlong, List.map_map]
  refine List.map_congr_left fun entry _ => ?_
  rw [Function.comp_apply, changedFile]

/-- Unambiguous entries are listed faithfully. -/
theorem changedFiles_porcelainStatus (h : ∀ entry ∈ entries, entry.Unambiguous) :
    changedFiles (porcelainStatus entries) = entries.map fun entry => entry.path.text := by
  rw [changedFiles_of_isLine fun entry hentry => (h entry hentry).isLine]
  exact List.map_congr_left fun entry hentry => changedFile_line_iff.mpr (h entry hentry).noArrow

/-- What is taken from a line is on one line. -/
theorem isLine_of_mem_changedFiles (status : String) {file : String} (h : file ∈ changedFiles status) :
    Python.IsLine file := by
  obtain ⟨line, hline, rfl⟩ := List.mem_map.mp h
  have hone := Python.isLine_of_mem_splitlines (List.mem_of_mem_filter hline)
  have hrest : Python.IsLine (Python.drop 3 line) := by
    intro c hc
    rw [Python.drop, String.toList_ofList] at hc
    exact hone c (List.mem_of_mem_drop hc)
  rw [Python.afterFirst]
  rcases hafter : Python.afterFirstChars " -> ".toList (Python.drop 3 line).toList with _ | rest
  · exact hrest
  · intro c hc
    rw [Option.map_some, Option.getD_some, String.toList_ofList] at hc
    exact hrest c ((Python.length_of_afterFirstChars hafter).2.subset hc)

theorem not_isLineBreak_arrow : ∀ c ∈ arrow, Python.isLineBreak c = false := by
  have hall : arrow.all (fun c => !Python.isLineBreak c) = true := by decide
  intro c hc
  exact (Bool.not_eq_true' _).mp (List.all_eq_true.mp hall c hc)

/-- A line is one line where its paths are. -/
theorem isLine_line (hpath : Python.IsLine entry.path.text)
    (horiginal : ∀ original ∈ entry.original, Python.IsLine original.text) :
    Python.IsLine entry.line := by
  have hpaths : ∀ c ∈ entry.pathChars, Python.isLineBreak c = false := by
    intro c hc
    have hof : c ∈ entry.path.chars → Python.isLineBreak c = false := fun hin =>
      hpath c (by rwa [PrintedPath.text, String.toList_ofList])
    rw [StatusEntry.pathChars] at hc
    rcases hcase : entry.original with _ | original
    · rw [hcase] at hc
      exact hof hc
    · rw [hcase, List.mem_append, List.mem_append] at hc
      rcases hc with (hc | hc) | hc
      · exact horiginal original hcase c (by rwa [PrintedPath.text, String.toList_ofList])
      · exact not_isLineBreak_arrow c hc
      · exact hof hc
  intro c hc
  rw [entry.toList_line] at hc
  rcases List.mem_cons.mp hc with rfl | hc
  · exact entry.index.not_isLineBreak_char
  rcases List.mem_cons.mp hc with rfl | hc
  · exact entry.worktree.not_isLineBreak_char
  rcases List.mem_cons.mp hc with rfl | hc
  · decide
  · exact hpaths c hc

/-- Entries that are listed faithfully are unambiguous, but for line breaks in the former
path of a file. -/
theorem unambiguous_of_changedFiles
    (hlines : ∀ entry ∈ entries, ∀ original ∈ entry.original, Python.IsLine original.text)
    (h : changedFiles (porcelainStatus entries) = entries.map fun entry => entry.path.text) :
    ∀ entry ∈ entries, entry.Unambiguous := by
  have hline : ∀ entry ∈ entries, Python.IsLine entry.line := by
    intro entry hentry
    refine isLine_line (isLine_of_mem_changedFiles (porcelainStatus entries) ?_)
      (hlines entry hentry)
    rw [h]
    exact List.mem_map_of_mem hentry
  rw [changedFiles_of_isLine hline] at h
  intro entry hentry
  exact ⟨changedFile_line_iff.mp (List.map_inj_left.mp h entry hentry), hline entry hentry⟩

end Read

/-! ### Reviews -/

section Review

open WorkProductService (review git)

variable {entries : List StatusEntry}

/-- The untracked files of a status. -/
def untrackedFiles (status : String) : List String :=
  ((Python.splitlines status).filter fun line =>
    (Python.afterPrefix "?? " line).isSome).map (Python.drop 3)

/-- An untracked entry has one path. -/
theorem original_of_afterPrefix {entry : StatusEntry}
    (h : (Python.afterPrefix "?? " entry.line).isSome = true) : entry.original = none := by
  have hbegins : "?? ".toList.isPrefixOf entry.line.toList = true := by
    rw [Python.afterPrefix] at h
    split_ifs at h with hbegins
    · exact hbegins
    · cases h
  rw [List.isPrefixOf_iff_prefix, entry.toList_line] at hbegins
  have hletters := List.cons_prefix_cons.mp hbegins
  have hindex : entry.index = .untracked :=
    StatusLetter.char_eq_question_iff.mp hletters.1.symm
  have hworktree : entry.worktree = .untracked :=
    StatusLetter.char_eq_question_iff.mp (List.cons_prefix_cons.mp hletters.2).1.symm
  have hnone := entry.hasOriginal
  rw [hindex, hworktree] at hnone
  exact Option.not_isSome_iff_eq_none.mp (Bool.eq_false_iff.mp hnone)

/-- The untracked files are among the changed files, in their order. -/
theorem untrackedFiles_sublist (h : ∀ entry ∈ entries, entry.Unambiguous) :
    (untrackedFiles (porcelainStatus entries)).Sublist (changedFiles (porcelainStatus entries)) := by
  rw [changedFiles_of_isLine fun entry hentry => (h entry hentry).isLine, untrackedFiles,
    splitlines_porcelainStatus fun entry hentry => (h entry hentry).isLine]
  have hsame : ((entries.map StatusEntry.line).filter fun line =>
      (Python.afterPrefix "?? " line).isSome).map (Python.drop 3) =
      ((entries.map StatusEntry.line).filter fun line =>
        (Python.afterPrefix "?? " line).isSome).map changedFile := by
    refine List.map_congr_left fun line hline => ?_
    obtain ⟨hmem, huntracked⟩ := List.mem_filter.mp hline
    obtain ⟨entry, hentry, rfl⟩ := List.mem_map.mp hmem
    have hone := original_of_afterPrefix huntracked
    rw [changedFile_line_iff.mpr (h entry hentry).noArrow, drop_line, StatusEntry.pathChars, hone,
      PrintedPath.text]
  rw [hsame, ← Function.comp_def changedFile, ← List.map_map]
  exact List.filter_sublist.map changedFile

/-- What a review says of the files is read off the status of the worktree. -/
theorem finds_reviewedFiles (service : WorkProductService) (actionId : UUID) :
    (service.review actionId).Finds Queries (fun log review => ∃ status,
      Printed log (.git .status) (service.workspace.expectedWorktree actionId).path status ∧
        review.changedFiles = changedFiles status ∧ review.untrackedFiles = untrackedFiles status)
      [] := by
  simp only [review, Proc.finds_bind, Proc.finds_tryCatch_throw, Proc.finds_pure, git]
  refine finds_identity fun _ _ _ _ _ _ => ?_
  refine finds_printed id fun t status _ hstatus => ?_
  refine finds_printed id fun t₁ _ ht₁ _ => ?_
  refine finds_printed id fun t₂ _ ht₂ _ => ?_
  refine finds_printed id fun t₃ _ ht₃ _ => ?_
  exact ⟨status, hstatus.mono (ht₁.trans (ht₂.trans ht₃)), rfl, rfl⟩

/-- A review of a worktree with some entries: each has its printed path among the changed
files, in order, and the untracked files are among them. -/
structure FaithfulReview (entries : List StatusEntry) (review : WorkProductReview) : Prop where
  changed : review.changedFiles = entries.map fun entry => entry.path.text
  untracked : review.untrackedFiles.Sublist review.changedFiles

/-- The changed files of a listing are the printed paths, and so are those of every review
of a worktree whose status is the listing. -/
structure FaithfulListing (entries : List StatusEntry) : Prop where
  changed : changedFiles (porcelainStatus entries) = entries.map fun entry => entry.path.text
  reviews : ∀ (service : WorkProductService) (actionId : UUID) (W : Type) (h : Handler Host W)
    (w : W) (review : WorkProductReview),
    ((service.review actionId).run h () w).1.1 = .ok review →
    (∀ status, Printed ((service.review actionId ()).transcript h w) (.git .status)
        (service.workspace.expectedWorktree actionId).path status →
      status = porcelainStatus entries) →
    FaithfulReview entries review

/-- The changed files are faithful where no first path of a line has an arrow in it and no
path has a line break. Nowhere else are they, but for line breaks in the former path of a
renamed or copied file. -/
theorem changedFiles_faithful_iff (entries : List StatusEntry) :
    ((∀ entry ∈ entries, entry.Unambiguous) → FaithfulListing entries) ∧
      ((∀ entry ∈ entries, ∀ original ∈ entry.original, Python.IsLine original.text) →
        FaithfulListing entries → ∀ entry ∈ entries, entry.Unambiguous) := by
  refine ⟨fun h => ⟨changedFiles_porcelainStatus h, ?_⟩,
    fun hlines hfaithful => unambiguous_of_changedFiles hlines hfaithful.changed⟩
  intro service actionId W handler w review hreview hprinted
  obtain ⟨status, hstatus, hchanged, huntracked⟩ :=
    (finds_reviewedFiles service actionId).run handler hreview
  obtain rfl := hprinted status hstatus
  exact ⟨hchanged.trans (changedFiles_porcelainStatus h),
    by rw [hchanged, huntracked]; exact untrackedFiles_sublist h⟩

/-- A renamed file, whose new path has an arrow in it, and an untracked one. -/
def renamedListing : List StatusEntry :=
  [{ index := .renamed
     worktree := .unmodified
     path := .quoted [.shown 'b' (by decide), .shown ' ' (by decide), .shown '-' (by decide),
       .shown '>' (by decide), .shown ' ' (by decide), .shown 'c' (by decide)]
     original := some (.bare ['a'] (by decide))
     hasOriginal := rfl },
   { index := .untracked
     worktree := .untracked
     path := .bare ['d'] (by decide)
     original := none
     hasOriginal := rfl }]

theorem changedFiles_faithful_of_renamed :
    FaithfulListing renamedListing ∧ ∀ entry ∈ renamedListing, entry.Unambiguous := by
  have hclear : ∀ entry ∈ renamedListing, entry.Unambiguous := by
    intro entry hentry
    rcases List.mem_pair.mp hentry with rfl | rfl
    · exact ⟨by decide, isLine_of_all (by decide)⟩
    · exact ⟨by decide, isLine_of_all (by decide)⟩
  have hlines : ∀ entry ∈ renamedListing, ∀ original ∈ entry.original,
      Python.IsLine original.text := by
    intro entry hentry original horiginal
    rcases List.mem_pair.mp hentry with rfl | rfl
    · obtain rfl := Option.some.inj horiginal
      exact isLine_of_all (by decide)
    · cases horiginal
  have hfaithful := (changedFiles_faithful_iff renamedListing).1 hclear
  exact ⟨hfaithful, (changedFiles_faithful_iff renamedListing).2 hlines hfaithful⟩

/-- An untracked file whose name has an arrow in it. -/
def arrowEntry : StatusEntry where
  index := .untracked
  worktree := .untracked
  path := .quoted [.shown 'a' (by decide), .shown ' ' (by decide), .shown '-' (by decide),
    .shown '>' (by decide), .shown ' ' (by decide), .shown 'b' (by decide)]
  original := none
  hasOriginal := rfl

/-- It is listed as what follows the arrow. -/
theorem not_faithfulListing_arrowEntry :
    porcelainStatus [arrowEntry] = "?? \"a -> b\"\n" ∧
      changedFiles (porcelainStatus [arrowEntry]) = ["b\""] ∧
      untrackedFiles (porcelainStatus [arrowEntry]) = ["\"a -> b\""] ∧
      ¬FaithfulListing [arrowEntry] := by
  have hchanged : changedFiles (porcelainStatus [arrowEntry]) = ["b\""] := by decide
  refine ⟨by decide, hchanged, by decide, fun h => ?_⟩
  have heq := h.changed
  rw [hchanged] at heq
  exact absurd heq (by decide)

end Review

end Velox
