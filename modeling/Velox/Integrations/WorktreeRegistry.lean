import Velox.Integrations.WorkProduct

/-!
# Reading the worktree registry

git prints its worktree registry line by line, and the listing is read back by way of
`str.splitlines`, which ends lines at more characters than the line feed that git ends
them with. Paths are printed as they are, and so are branches: where one of them contains
such a character, the listing is misread, and the identity check with it.

## Main definitions

* `ListedWorktree` — an entry with all the lines git may print for it
* `quoteCStyle` — how git quotes the reason of a lock
* `ReadBack` — the listing is read back, and the identity check decides what it should

## Main results

* `registeredWorktrees_listing_iff` — when a listing is read back
* `run_branchesAt` — the branches at a path where paths resolve deterministically
* `readBack_iff`
-/

set_option autoImplicit false

namespace Velox

/-! ### What git prints -/

/-- The characters git prints unquoted. -/
def isPlain (c : Char) : Bool := 0x20 ≤ c.toNat && c.toNat < 0x7F && c ≠ '"' && c ≠ '\\'

/-- The bytes with an escape letter of their own. -/
def escapeLetters : List (ℕ × Char) :=
  [(7, 'a'), (8, 'b'), (9, 't'), (10, 'n'), (11, 'v'), (12, 'f'), (13, 'r'), (34, '"'), (92, '\\')]

def octalDigit (n : ℕ) : Char := Char.ofNat ('0'.toNat + n)

/-- A quoted byte: an escape letter or three octal digits. -/
def escapeByte (b : UInt8) : List Char :=
  '\\' :: (match escapeLetters.lookup b.toNat with
    | some letter => [letter]
    | none => [octalDigit (b.toNat / 64), octalDigit (b.toNat / 8 % 8), octalDigit (b.toNat % 8)])

/-- A character inside quotes. -/
def quoteChar (c : Char) : List Char :=
  if isPlain c then [c] else (String.utf8EncodeChar c).flatMap escapeByte

/-- git's `quote_c_style`: a text of plain characters is printed as it is. -/
def quoteCStyle (s : String) : String :=
  if s.toList.all isPlain then s
  else String.ofList ('"' :: s.toList.flatMap quoteChar ++ ['"'])

/-- What an entry has checked out. -/
inductive Checkout
  | branch (ref : String)
  | detached
  | bare
  deriving DecidableEq

/-- The branch ref of an entry. -/
def Checkout.ref? : Checkout → Option String
  | branch ref => some ref
  | detached | bare => none

/-- An entry of git's worktree registry with all that is printed of it. -/
structure ListedWorktree where
  path : String
  isAbsolute : path.toList.head? = some '/'
  newline_notMem : '\n' ∉ path.toList
  /-- The object id of the commit; a bare repository has none. -/
  head : Option String
  isAlphanum_head : ∀ id ∈ head, ∀ c ∈ id.toList, c.isAlphanum
  checkout : Checkout
  /-- The reason of a lock, empty where none was given. -/
  locked : Option String := none
  /-- Why the entry can be pruned, in a message of git's own. -/
  prunable : Option { message : String // Python.IsLine message } := none

namespace ListedWorktree

def checkoutLine : Checkout → String
  | .branch ref => "branch " ++ ref
  | .detached => "detached"
  | .bare => "bare"

def lockedLine (reason : String) : String :=
  if reason = "" then "locked" else "locked " ++ quoteCStyle reason

/-- The lines after the path of an entry, up to the blank one. -/
def details (entry : ListedWorktree) : List String :=
  (entry.head.map ("HEAD " ++ ·)).toList ++ [checkoutLine entry.checkout] ++
    (entry.locked.map lockedLine).toList ++
    (entry.prunable.map fun message => "prunable " ++ message.val).toList

/-- The lines git prints for an entry. -/
def lines (entry : ListedWorktree) : List String :=
  ("worktree " ++ entry.path) :: entry.details ++ [""]

/-- What the entry is to be read back as. -/
def registered (entry : ListedWorktree) : PurePath × Option String :=
  (.ofString entry.path, entry.checkout.ref?)

/-- Neither the path nor the branch contains a line break. -/
structure OnLines (entry : ListedWorktree) : Prop where
  path : Python.IsLine entry.path
  branch : ∀ ref ∈ entry.checkout.ref?, Python.IsLine ref

end ListedWorktree

/-- What `git worktree list --porcelain` prints. -/
def porcelainListing (listed : List ListedWorktree) : String :=
  String.join ((listed.flatMap ListedWorktree.lines).map (· ++ "\n"))

/-! ### Quoted text stays on its line -/

theorem isLineBreak_of_isPlain {c : Char} (h : isPlain c) : Python.isLineBreak c = false := by
  simp only [isPlain, Bool.and_eq_true, decide_eq_true_eq] at h
  obtain ⟨⟨⟨hlow, hhigh⟩, -⟩, -⟩ := h
  rw [Bool.eq_false_iff]
  intro hbreak
  simp only [Python.isLineBreak, Bool.or_eq_true, Bool.and_eq_true, decide_eq_true_eq,
    beq_iff_eq] at hbreak
  omega

theorem isLineBreak_octalDigit : ∀ n < 8, Python.isLineBreak (octalDigit n) = false := by decide

theorem isLineBreak_of_mem_escapeByte {b : UInt8} {c : Char} (h : c ∈ escapeByte b) :
    Python.isLineBreak c = false := by
  have hlt : b.toNat < 256 := b.toNat_lt
  rcases List.mem_cons.mp h with rfl | h
  · rfl
  · split at h
    · next letter hletter =>
      obtain rfl := List.mem_singleton.mp h
      have hall : ∀ entry ∈ escapeLetters, Python.isLineBreak entry.2 = false := by decide
      obtain ⟨before, after, hletters, -⟩ := List.lookup_eq_some_iff.mp hletter
      refine hall (b.toNat, c) ?_
      rw [hletters]
      exact List.mem_append_right before List.mem_cons_self
    · simp only [List.mem_cons, List.not_mem_nil, or_false] at h
      rcases h with rfl | rfl | rfl
      · exact isLineBreak_octalDigit _ (by omega)
      · exact isLineBreak_octalDigit _ (by omega)
      · exact isLineBreak_octalDigit _ (by omega)

theorem isLine_quoteCStyle (s : String) : Python.IsLine (quoteCStyle s) := by
  rw [quoteCStyle]
  split_ifs with hplain
  · exact fun c hc => isLineBreak_of_isPlain (List.all_eq_true.mp hplain c hc)
  · intro c hc
    rw [String.toList_ofList, List.mem_append, List.mem_cons, List.mem_flatMap,
      List.mem_singleton] at hc
    rcases hc with (rfl | ⟨d, -, hc⟩) | rfl
    · rfl
    · rw [quoteChar] at hc
      split_ifs at hc with hd
      · obtain rfl := List.mem_singleton.mp hc
        exact isLineBreak_of_isPlain hd
      · obtain ⟨b, -, hc⟩ := List.mem_flatMap.mp hc
        exact isLineBreak_of_mem_escapeByte hc
    · rfl

theorem isLineBreak_of_isAlphanum {c : Char} (h : c.isAlphanum) : Python.isLineBreak c = false := by
  have hcode : c.toNat = c.val.toNat := rfl
  delta Char.isAlphanum Char.isAlpha Char.isUpper Char.isLower Char.isDigit at h
  simp only [Bool.or_eq_true, Bool.and_eq_true, decide_eq_true_eq, UInt32.le_iff_toNat_le,
    ge_iff_le] at h
  rw [Bool.eq_false_iff]
  intro hbreak
  simp only [Python.isLineBreak, Bool.or_eq_true, Bool.and_eq_true, decide_eq_true_eq,
    beq_iff_eq, hcode] at hbreak
  have hupper : 'A'.val.toNat = 65 ∧ 'Z'.val.toNat = 90 := ⟨rfl, rfl⟩
  have hlower : 'a'.val.toNat = 97 ∧ 'z'.val.toNat = 122 := ⟨rfl, rfl⟩
  have hdigit : '0'.val.toNat = 48 ∧ '9'.val.toNat = 57 := ⟨rfl, rfl⟩
  omega

namespace ListedWorktree

variable {entry : ListedWorktree}

theorem isLine_lockedLine (reason : String) : Python.IsLine (lockedLine reason) := by
  rw [lockedLine]
  split_ifs
  · exact isLine_of_all rfl
  · exact isLine_append (isLine_of_all rfl) (isLine_quoteCStyle reason)

/-- Where path and branch are on lines, everything is. -/
theorem OnLines.isLine (h : entry.OnLines) {line : String} (hline : line ∈ entry.lines) :
    Python.IsLine line := by
  simp only [lines, details, List.cons_append, List.mem_cons, List.mem_append, Option.mem_toList,
    Option.map_eq_some_iff, List.not_mem_nil, or_false] at hline
  rcases hline with rfl | (((⟨id, hid, rfl⟩ | rfl) | ⟨reason, -, rfl⟩) | ⟨message, -, rfl⟩) | rfl
  · exact isLine_append (isLine_of_all rfl) h.path
  · exact isLine_append (isLine_of_all rfl) fun c hc =>
      isLineBreak_of_isAlphanum (entry.isAlphanum_head id hid c hc)
  · cases hcheckout : entry.checkout with
    | branch ref =>
      refine isLine_append (isLine_of_all rfl) (h.branch ref ?_)
      rw [hcheckout]
      rfl
    | detached => exact isLine_of_all rfl
    | bare => exact isLine_of_all rfl
  · exact isLine_lockedLine reason
  · exact isLine_append (isLine_of_all rfl) message.property
  · exact isLine_of_all rfl

end ListedWorktree

/-! ### Reading a listing back -/

namespace WorktreeScan

/-- A line that is neither a path, nor a branch, nor blank. -/
def IsIgnored (text : String) : Prop :=
  Python.afterPrefix "worktree " text = none ∧ Python.afterPrefix "branch " text = none ∧ text ≠ ""

theorem isIgnored_append {start : String} (hstart : start ∈ ["HEAD ", "locked ", "prunable "])
    (text : String) : IsIgnored (start ++ text) := by
  simp only [List.mem_cons, List.not_mem_nil, or_false] at hstart
  refine ⟨?_, ?_, ?_⟩
  · rw [Python.afterPrefix, String.toList_append]
    rcases hstart with rfl | rfl | rfl <;> rfl
  · rw [Python.afterPrefix, String.toList_append]
    rcases hstart with rfl | rfl | rfl <;> rfl
  · rcases hstart with rfl | rfl | rfl <;> simp

theorem foldl_ignored {texts : List String} (h : ∀ text ∈ texts, IsIgnored text)
    (scan : WorktreeScan) : texts.foldl line scan = scan := by
  induction texts generalizing scan with
  | nil => rfl
  | cons text texts ih =>
    obtain ⟨hworktree, hbranch, hne⟩ := h text List.mem_cons_self
    have hline : scan.line text = scan := by
      rw [line, hworktree, hbranch]
      rcases scan.path with _ | path
      · rfl
      · simp only [hne, if_false]
    rw [List.foldl_cons, hline]
    exact ih (fun text' htext' => h text' (List.mem_cons_of_mem text htext')) scan

theorem isIgnored_lockedLine (reason : String) : IsIgnored (ListedWorktree.lockedLine reason) := by
  rw [ListedWorktree.lockedLine]
  split_ifs
  · exact ⟨rfl, rfl, by decide⟩
  · exact isIgnored_append (by simp) _

theorem line_checkoutLine {scan : WorktreeScan} (hscan : scan.branch = none) (checkout : Checkout) :
    scan.line (ListedWorktree.checkoutLine checkout) = { scan with branch := checkout.ref? } := by
  cases checkout with
  | branch ref => exact line_branch scan ref
  | detached =>
    rw [ListedWorktree.checkoutLine, line_detached, Checkout.ref?, ← hscan]
  | bare =>
    have hignored : ∀ text ∈ ["bare"], IsIgnored text := by
      intro text htext
      obtain rfl := List.mem_singleton.mp htext
      exact ⟨rfl, rfl, by decide⟩
    have hline : scan.line "bare" = scan := foldl_ignored hignored scan
    rw [ListedWorktree.checkoutLine, hline, Checkout.ref?, ← hscan]

/-- The lines after a path only tell the branch. -/
theorem foldl_details (entry : ListedWorktree) {scan : WorktreeScan} (hscan : scan.branch = none) :
    entry.details.foldl line scan = { scan with branch := entry.checkout.ref? } := by
  have hhead : ∀ text ∈ (entry.head.map ("HEAD " ++ ·)).toList, IsIgnored text := by
    intro text htext
    obtain ⟨id, -, rfl⟩ := Option.map_eq_some_iff.mp (Option.mem_toList.mp htext)
    exact isIgnored_append (by simp) id
  have hlocked : ∀ text ∈ (entry.locked.map ListedWorktree.lockedLine).toList, IsIgnored text := by
    intro text htext
    obtain ⟨reason, -, rfl⟩ := Option.map_eq_some_iff.mp (Option.mem_toList.mp htext)
    exact isIgnored_lockedLine reason
  have hprunable : ∀ text ∈ (entry.prunable.map fun message => "prunable " ++ message.val).toList,
      IsIgnored text := by
    intro text htext
    obtain ⟨message, -, rfl⟩ := Option.map_eq_some_iff.mp (Option.mem_toList.mp htext)
    exact isIgnored_append (by simp) message.val
  rw [ListedWorktree.details, List.foldl_append, List.foldl_append, List.foldl_append,
    foldl_ignored hhead, List.foldl_cons, List.foldl_nil, line_checkoutLine hscan,
    foldl_ignored hlocked, foldl_ignored hprunable]

theorem foldl_listedLines (listed : List ListedWorktree)
    (entries : List (PurePath × Option String)) :
    (listed.flatMap ListedWorktree.lines).foldl line { entries } =
      { entries := entries ++ listed.map ListedWorktree.registered } := by
  induction listed generalizing entries with
  | nil => simp
  | cons entry listed ih =>
    have hentry : entry.lines.foldl line { entries } =
        { entries := entries ++ [entry.registered] } := by
      rw [ListedWorktree.lines, List.cons_append, List.foldl_cons, line_worktree, List.foldl_append,
        foldl_details entry rfl, List.foldl_cons, List.foldl_nil, line_empty]
      rfl
    rw [List.flatMap_cons, List.foldl_append, hentry, ih, List.map_cons, List.append_assoc,
      List.singleton_append]

/-- What the scan keeps of a listing is free of line breaks. -/
structure OnLines (scan : WorktreeScan) : Prop where
  path : ∀ path ∈ scan.path, ∃ text, path = .ofString text ∧ Python.IsLine text
  branch : ∀ branch ∈ scan.branch, Python.IsLine branch
  entries : ∀ entry ∈ scan.entries, (∃ text, entry.1 = .ofString text ∧ Python.IsLine text) ∧
    ∀ branch ∈ entry.2, Python.IsLine branch

theorem OnLines.line {scan : WorktreeScan} (h : scan.OnLines) {text : String}
    (htext : Python.IsLine text) : (scan.line text).OnLines := by
  rw [WorktreeScan.line]
  split
  · next path hpath =>
    refine ⟨?_, fun _ hbranch => absurd hbranch (Option.not_mem_none _), h.entries⟩
    rintro _ ⟨⟩
    exact ⟨path, rfl, htext.afterPrefix hpath⟩
  · split
    · next branch hbranch =>
      refine ⟨h.path, ?_, h.entries⟩
      rintro _ ⟨⟩
      exact htext.afterPrefix hbranch
    · split
      · next path hpath =>
        split_ifs
        · -- a blank line ends the entry
          refine ⟨fun _ hnone => absurd hnone (Option.not_mem_none _),
            fun _ hnone => absurd hnone (Option.not_mem_none _), ?_⟩
          intro entry hentry
          rcases List.mem_append.mp hentry with hentry | hentry
          · exact h.entries entry hentry
          · obtain rfl := List.mem_singleton.mp hentry
            exact ⟨h.path path hpath, h.branch⟩
        · exact h
      · exact h

theorem OnLines.foldl {scan : WorktreeScan} (h : scan.OnLines) {lines : List String}
    (hlines : ∀ line ∈ lines, Python.IsLine line) : (lines.foldl WorktreeScan.line scan).OnLines := by
  induction lines generalizing scan with
  | nil => exact h
  | cons line lines ih =>
    exact ih (h.line (hlines line List.mem_cons_self)) fun line' hline' =>
      hlines line' (List.mem_cons_of_mem line hline')

end WorktreeScan

/-- Whatever is printed, no path and no branch that is read contains a line break. -/
theorem onLines_of_mem_registeredWorktrees {porcelain : String} {path : PurePath}
    {branch : Option String} (h : (path, branch) ∈ registeredWorktrees porcelain) :
    (∀ part ∈ path.parts, Python.IsLine part) ∧ ∀ ref ∈ branch, Python.IsLine ref := by
  have hstart : WorktreeScan.OnLines {} :=
    ⟨fun _ hnone => (nomatch hnone), fun _ hnone => (nomatch hnone), fun _ hnil => (nomatch hnil)⟩
  have hlines : ∀ line ∈ Python.splitlines porcelain ++ [""], Python.IsLine line := by
    intro line hline
    rcases List.mem_append.mp hline with hline | hline
    · exact Python.isLine_of_mem_splitlines hline
    · obtain rfl := List.mem_singleton.mp hline
      exact isLine_of_all rfl
  obtain ⟨⟨text, rfl, htext⟩, hbranch⟩ := (hstart.foldl hlines).entries (path, branch) h
  refine ⟨fun part hpart c hc => ?_, hbranch⟩
  by_cases hdot : c = '.'
  · rw [hdot]
    rfl
  · exact htext c ((PurePath.exists_mem_parts_ofString hdot).mp ⟨part, hpart, hc⟩).1

/-- A listing is read back exactly when no path and no branch contains a line break. -/
theorem registeredWorktrees_listing_iff (listed : List ListedWorktree) :
    registeredWorktrees (porcelainListing listed) = listed.map ListedWorktree.registered ↔
      ∀ entry ∈ listed, entry.OnLines := by
  constructor
  · intro hread entry hentry
    have hmem : entry.registered ∈ registeredWorktrees (porcelainListing listed) := by
      rw [hread]
      exact List.mem_map_of_mem hentry
    obtain ⟨hparts, hbranch⟩ := onLines_of_mem_registeredWorktrees hmem
    refine ⟨fun c hc => ?_, hbranch⟩
    -- a slash or a dot is no line break, any other character is in a part
    by_cases hplain : c = '.' ∨ c = '/'
    · rcases hplain with rfl | rfl <;> rfl
    · obtain ⟨hdot, hslash⟩ := not_or.mp hplain
      obtain ⟨part, hpart, hc⟩ := (PurePath.exists_mem_parts_ofString hdot).mpr ⟨hc, hslash⟩
      exact hparts part hpart c hc
  · intro h
    have hlines : Python.splitlines (porcelainListing listed) =
        listed.flatMap ListedWorktree.lines := by
      refine Python.splitlines_join fun line hline => ?_
      obtain ⟨entry, hentry, hline⟩ := List.mem_flatMap.mp hline
      exact (h entry hentry).isLine hline
    rw [registeredWorktrees, hlines, List.foldl_append, WorktreeScan.foldl_listedLines,
      List.foldl_cons, List.foldl_nil, WorktreeScan.line_empty]
    rfl

/-! ### The identity check -/

open WorkProductService (branchesAt)

theorem ensures_resolve {W : Type} {h : Handler Host W} {P : HostCall → W → Prop}
    {Q : Except Raised PurePath → Unit → W → Prop} {path : PurePath} {w : W} :
    (resolve path).Ensures h P Q () w ↔
      P (.resolve path) w ∧ Q (h (.resolve path) w).1 () (h (.resolve path) w).2 := Iff.rfl

/-- The branches at a path, where every path resolves and always to the same one. -/
theorem run_branchesAt {W : Type} {h : Handler Host W} {resolved : PurePath → PurePath}
    (hresolve : ∀ path w, h (.resolve path) w = (.ok (resolved path), w)) (derived : PurePath)
    (entries : List (PurePath × Option String)) (w : W) :
    ((branchesAt derived entries).run h () w).1.1 =
      .ok ((entries.filter fun entry => resolved entry.1 = derived).map Prod.snd) := by
  suffices hensures : (branchesAt derived entries).Ensures h (fun _ _ => True)
      (fun r _ _ => r = .ok ((entries.filter fun entry => resolved entry.1 = derived).map
        Prod.snd)) () w from hensures.run
  induction entries generalizing w with
  | nil => exact Proc.ensures_pure.mpr rfl
  | cons entry entries ih =>
    obtain ⟨path, branch⟩ := entry
    simp only [branchesAt, Proc.ensures_bind, ensures_resolve, hresolve, true_and, Except.either]
    refine (ih w).mono fun r _ _ hr => ?_
    subst hr
    simp only [Proc.ensures_pure, List.filter_cons]
    by_cases hpath : resolved path = derived <;> simp [hpath]

/-- Among the linked worktrees, git lists exactly one at a path, and on the given
branch. -/
def ListedOnce (listed : List ListedWorktree) (resolved : PurePath → PurePath) (derived : PurePath)
    (ref : String) : Prop :=
  ∃ before entry after, listed.tail = before ++ entry :: after ∧
    resolved (.ofString entry.path) = derived ∧ entry.checkout = .branch ref ∧
    ∀ other ∈ before ++ after, resolved (.ofString other.path) ≠ derived

theorem listedOnce_iff {listed : List ListedWorktree} {resolved : PurePath → PurePath}
    {derived : PurePath} {ref : String} :
    ListedOnce listed resolved derived ref ↔
      (((listed.map ListedWorktree.registered).tail.filter fun entry =>
        resolved entry.1 = derived).map Prod.snd) = [some ref] := by
  have hbranch : ∀ checkout : Checkout, checkout.ref? = some ref ↔ checkout = .branch ref := by
    rintro (_ | _ | _) <;> simp [Checkout.ref?]
  rw [← List.map_tail, List.filter_map, List.map_map, List.map_eq_singleton_iff]
  constructor
  · rintro ⟨before, entry, after, htail, hentry, hcheckout, hothers⟩
    have hnone : ∀ others : List ListedWorktree, (∀ other ∈ others, other ∈ before ++ after) →
        others.filter ((fun entry => decide (resolved entry.1 = derived)) ∘
          ListedWorktree.registered) = [] := by
      intro others hmem
      rw [List.filter_eq_nil_iff]
      intro other hother hpath
      exact hothers other (hmem other hother) (of_decide_eq_true hpath)
    have hkept : ((fun entry => decide (resolved entry.1 = derived)) ∘
      ListedWorktree.registered) entry = true := decide_eq_true hentry
    refine ⟨entry, ?_, (hbranch _).mpr hcheckout⟩
    rw [htail, List.filter_append, hnone before fun _ => List.mem_append_left after,
      List.nil_append, List.filter_cons_of_pos hkept,
      hnone after fun _ => List.mem_append_right before]
  · rintro ⟨entry, hfilter, hcheckout⟩
    obtain ⟨before, after, htail, hbefore, hentry, hafter⟩ := List.filter_eq_cons_iff.mp hfilter
    refine ⟨before, entry, after, htail, of_decide_eq_true hentry, (hbranch _).mp hcheckout,
      fun other hother hpath => ?_⟩
    rcases List.mem_append.mp hother with hother | hother
    · exact hbefore other hother (decide_eq_true hpath)
    · exact List.filter_eq_nil_iff.mp hafter other hother (decide_eq_true hpath)

/-- A listing is read back entry by entry, and where paths resolve deterministically the
identity check passes for what git lists once and on its branch. -/
structure ReadBack (listed : List ListedWorktree) : Prop where
  entries : registeredWorktrees (porcelainListing listed) = listed.map ListedWorktree.registered
  identity : ∀ (W : Type) (h : Handler Host W) (w : W) (resolved : PurePath → PurePath),
    (∀ path w, h (.resolve path) w = (.ok (resolved path), w)) →
      ∀ (derived : PurePath) (branch : String),
        ((branchesAt derived (registeredWorktrees (porcelainListing listed)).tail).run h () w).1.1 =
            .ok [some (refsHeads branch)] ↔
          ListedOnce listed resolved derived (refsHeads branch)

/-- Exactly the listings without line breaks inside paths and branches are read back. -/
theorem readBack_iff (listed : List ListedWorktree) :
    ReadBack listed ↔ ∀ entry ∈ listed, entry.OnLines := by
  refine ⟨fun h => (registeredWorktrees_listing_iff listed).mp h.entries, fun h => ?_⟩
  have hread := (registeredWorktrees_listing_iff listed).mpr h
  refine ⟨hread, fun W h w resolved hresolve derived branch => ?_⟩
  rw [run_branchesAt hresolve, hread, listedOnce_iff, Except.ok.injEq]

/-- An entry on a branch of its own, as git lists it. -/
def ListedWorktree.onBranch (path ref : String) (hpath : path.toList.head? = some '/')
    (hline : '\n' ∉ path.toList) : ListedWorktree where
  path
  isAbsolute := hpath
  newline_notMem := hline
  head := some "4b825dc642cb6eb9a060e54bf8d69288fbee4904"
  isAlphanum_head := by
    rintro id ⟨⟩
    exact List.all_eq_true.mp (by decide)
  checkout := .branch ref

/-- The path of a linked worktree contains line separators, and between them what looks
like the entry of another one. -/
def forgingListing : List ListedWorktree :=
  [.onBranch "/repo" "refs/heads/main" (by decide) (by decide),
    .onBranch "/tmp/x\u2028\u2028worktree /wt\u2028branch refs/heads/b\u2028\u2028" "refs/heads/c"
      (by decide) (by decide)]

/-- git lists nothing at the path `/wt`, and the identity check passes for it. -/
theorem not_readBack_forgingListing :
    ¬ReadBack forgingListing ∧
      (PurePath.ofString "/wt", some (refsHeads "b")) ∈
        registeredWorktrees (porcelainListing forgingListing) ∧
      ¬ListedOnce forgingListing id (.ofString "/wt") (refsHeads "b") := by
  refine ⟨fun h => ?_, by decide +kernel, ?_⟩
  · have honLines := (readBack_iff forgingListing).mp h _ (List.mem_cons_of_mem _ List.mem_cons_self)
    exact absurd (honLines.path '\u2028' (by decide)) (by decide)
  · rw [listedOnce_iff]
    decide

end Velox
