import Velox.Core.Environment
import Velox.Integrations.Workspace

/-!
# Review and disposition of work products

A work product is the uncommitted change a coding worker leaves in the worktree of
its action. Every operation first proves, through git's own worktree registry, that
the derived path is a linked worktree of the canonical repository on exactly the
derived branch.

The texts of a diff are left out of a review: nothing depends on them.

## Main definitions

* `registeredWorktrees` — the entries of `git worktree list --porcelain`
* `WorkProductService.verified`, `WorkProductService.review`,
  `WorkProductService.apply`

## Main results

* `registeredWorktrees_worktreeListing` — a listing is read back
-/

set_option autoImplicit false

namespace Velox

/-- `WorkProductIdentityError`. -/
def identityError (message : String) : Raised := ⟨.workProductIdentityError, message⟩

/-! ### The worktree registry -/

/-- The state of `_registered_worktrees` between two lines. -/
structure WorktreeScan where
  entries : List (PurePath × Option String) := []
  path : Option PurePath := none
  branch : Option String := none

/-- One line of the listing. -/
def WorktreeScan.line (scan : WorktreeScan) (line : String) : WorktreeScan :=
  match Python.afterPrefix "worktree " line with
  | some path => { scan with path := some (.ofString path), branch := none }
  | none =>
    match Python.afterPrefix "branch " line with
    | some branch => { scan with branch := some branch }
    | none =>
      match scan.path with
      | some path =>
        if line = "" then { entries := scan.entries ++ [(path, scan.branch)] } else scan
      | none => scan

/-- `_registered_worktrees`: path and branch of each entry. -/
def registeredWorktrees (porcelain : String) : List (PurePath × Option String) :=
  ((Python.splitlines porcelain ++ [""]).foldl WorktreeScan.line {}).entries

/-- An entry of git's worktree registry. -/
structure WorktreeEntry where
  path : String
  head : String
  branch : Option String

namespace WorktreeEntry

/-- The lines git lists an entry with. -/
def lines (entry : WorktreeEntry) : List String :=
  ["worktree " ++ entry.path, "HEAD " ++ entry.head,
    (entry.branch.map fun branch => "branch " ++ branch).getD "detached", ""]

/-- No text of the entry contains a line break. -/
structure WellFormed (entry : WorktreeEntry) : Prop where
  path : Python.IsLine entry.path
  head : Python.IsLine entry.head
  branch : ∀ branch ∈ entry.branch, Python.IsLine branch

end WorktreeEntry

/-- What `git worktree list --porcelain` prints. -/
def worktreeListing (entries : List WorktreeEntry) : String :=
  String.join ((entries.flatMap WorktreeEntry.lines).map (· ++ "\n"))

theorem isLine_of_all {s : String} (h : (s.toList.all fun c => !Python.isLineBreak c) = true) :
    Python.IsLine s := fun c hc => by simpa using List.all_eq_true.mp h c hc

theorem isLine_append {s t : String} (hs : Python.IsLine s) (ht : Python.IsLine t) :
    Python.IsLine (s ++ t) := by
  intro c hc
  rw [String.toList_append, List.mem_append] at hc
  exact hc.elim (hs c) (ht c)

theorem WorktreeEntry.WellFormed.isLine {entry : WorktreeEntry} (h : entry.WellFormed) {line : String}
    (hline : line ∈ entry.lines) : Python.IsLine line := by
  simp only [lines, List.mem_cons, List.not_mem_nil, or_false] at hline
  rcases hline with rfl | rfl | rfl | rfl
  · exact isLine_append (isLine_of_all rfl) h.path
  · exact isLine_append (isLine_of_all rfl) h.head
  · rcases hbranch : entry.branch with _ | branch
    · exact isLine_of_all rfl
    · exact isLine_append (isLine_of_all rfl) (h.branch branch hbranch)
  · exact isLine_of_all rfl

/-! ### Reading a listing back -/

namespace WorktreeScan

variable (scan : WorktreeScan) (text : String)

@[simp] theorem line_worktree :
    scan.line ("worktree " ++ text) = { scan with path := some (.ofString text), branch := none } := by
  simp [line]

@[simp] theorem line_branch : scan.line ("branch " ++ text) = { scan with branch := some text } := by
  have hother : Python.afterPrefix "worktree " ("branch " ++ text) = none := by
    rw [Python.afterPrefix, String.toList_append]
    rfl
  simp [line, hother]

@[simp] theorem line_head : scan.line ("HEAD " ++ text) = scan := by
  have hworktree : Python.afterPrefix "worktree " ("HEAD " ++ text) = none := by
    rw [Python.afterPrefix, String.toList_append]
    rfl
  have hbranch : Python.afterPrefix "branch " ("HEAD " ++ text) = none := by
    rw [Python.afterPrefix, String.toList_append]
    rfl
  have hne : "HEAD " ++ text ≠ "" := by simp
  rw [line, hworktree, hbranch]
  rcases scan.path with _ | path <;> simp [hne]

@[simp] theorem line_detached : scan.line "detached" = scan := by
  rw [line, show Python.afterPrefix "worktree " "detached" = none from rfl,
    show Python.afterPrefix "branch " "detached" = none from rfl]
  rcases scan.path with _ | path <;> rfl

theorem line_empty : scan.line "" =
    (scan.path.map fun path => { entries := scan.entries ++ [(path, scan.branch)] }).getD scan := by
  rw [line, show Python.afterPrefix "worktree " "" = none from rfl,
    show Python.afterPrefix "branch " "" = none from rfl]
  rcases scan.path with _ | path <;> rfl

/-- Scanning the lines of one entry adds it. -/
theorem foldl_lines (entry : WorktreeEntry) (entries : List (PurePath × Option String)) :
    entry.lines.foldl line { entries } =
      { entries := entries ++ [(.ofString entry.path, entry.branch)] } := by
  rcases hbranch : entry.branch with _ | branch <;>
    simp [WorktreeEntry.lines, hbranch, line_empty]

theorem foldl_flatMap_lines (listed : List WorktreeEntry)
    (entries : List (PurePath × Option String)) :
    (listed.flatMap WorktreeEntry.lines).foldl line { entries } =
      { entries := entries ++ listed.map fun entry => (.ofString entry.path, entry.branch) } := by
  induction listed generalizing entries with
  | nil => simp
  | cons entry listed ih =>
    rw [List.flatMap_cons, List.foldl_append, foldl_lines, ih]
    simp

end WorktreeScan

/-- The entries of a listing are read back from it. -/
theorem registeredWorktrees_worktreeListing {listed : List WorktreeEntry}
    (h : ∀ entry ∈ listed, entry.WellFormed) :
    registeredWorktrees (worktreeListing listed) =
      listed.map fun entry => (.ofString entry.path, entry.branch) := by
  have hlines : Python.splitlines (worktreeListing listed) =
      listed.flatMap WorktreeEntry.lines := by
    refine Python.splitlines_join fun line hline => ?_
    obtain ⟨entry, hentry, hline⟩ := List.mem_flatMap.mp hline
    exact (h entry hentry).isLine hline
  have hscan := WorktreeScan.foldl_flatMap_lines listed []
  rw [registeredWorktrees, hlines, List.foldl_append, hscan]
  simp [WorktreeScan.line_empty]

/-! ### The service -/

/-- The service that reviews and disposes of work products. -/
structure WorkProductService where
  workspace : TrustedGitWorkspace

namespace WorkProductService

open TrustedGitWorkspace (runGit gitOutput status changedFiles)

/-- `_git`. -/
def git (command : GitCommand) (cwd : PurePath) : HostTask String :=
  gitOutput (identityError "git command failed during verification") command cwd

/-- `except WorkspaceUnavailableError: raise WorkProductIdentityError(message)`. -/
def unavailableAs (message : String) (error : Raised) : Raised :=
  if error.kind = workspaceUnavailableError then identityError message else error

/-- A check of the identity of a worktree. -/
def check (c : Prop) [Decidable c] (message : String) : HostTask Unit :=
  Proc.ofExcept (.raiseIf c (identityError message))

/-- `_branch_exists`. -/
def branchExists (root : PurePath) (branch : String) : HostTask Bool := do
  let result ← runGit (.verifyBranch branch) root
  return ¬result.Failed

/-- The branches of the registered worktrees at a resolved path. -/
def branchesAt (derived : PurePath) : List (PurePath × Option String) →
    HostTask (List (Option String))
  | [] => return []
  | (path, branch) :: entries => do
    let resolved ← resolve path
    let branches ← branchesAt derived entries
    return if resolved = derived then branch :: branches else branches

variable (service : WorkProductService)

/-- The canonical root with its status. -/
def canonicalStatus : HostTask (PurePath × String) := do
  let root ← service.workspace.validate
  let canonicalStatus ← status root
  return (root, canonicalStatus)

/-- `_verified`: canonical root, derived worktree and canonical status. -/
def verified (actionId : UUID) : HostTask (PurePath × IsolatedWorktree × String) := do
  let (root, canonicalStatus) ← tryCatch service.canonicalStatus fun error =>
    throw (unavailableAs "trusted workspace is unavailable" error)
  let worktree := service.workspace.expectedWorktree actionId
  let present ← isDir worktree.path
  check (¬present) "isolated worktree does not exist"
  let canonical ← resolve root
  let derived ← resolve worktree.path
  check (derived = canonical ∨ canonical ∈ derived.parents)
    "derived worktree overlaps the canonical checkout"
  let listing ← git .worktreeList root
  match registeredWorktrees listing with
  | [] => throw (identityError "canonical checkout is not the main worktree")
  | (mainPath, _) :: linked =>
    let main ← resolve mainPath
    check (main ≠ canonical) "canonical checkout is not the main worktree"
    let branches ← branchesAt derived linked
    check (branches ≠ [some (refsHeads worktree.branch)])
      "derived worktree is not registered on its branch"
    let toplevel ← git .showToplevel worktree.path
    let actual ← resolve (.ofString (Python.strip toplevel))
    check (actual ≠ derived) "derived worktree is not its own checkout"
    return (root, worktree, canonicalStatus)

/-- `review`: what git says about the work product. -/
def review (actionId : UUID) : HostTask WorkProductReview := do
  let (root, worktree, canonicalBefore) ← service.verified actionId
  let worktreeStatus ← tryCatch (status worktree.path) fun error =>
    throw (unavailableAs "worktree status is unavailable" error)
  let _ ← git .diffStat worktree.path
  let _ ← git .diff worktree.path
  let canonicalAfter ← tryCatch (status root) fun error =>
    throw (unavailableAs "canonical status is unavailable" error)
  return {
    changedFiles := changedFiles worktreeStatus
    untrackedFiles :=
      ((Python.splitlines worktreeStatus).filter fun line =>
        (Python.afterPrefix "?? " line).isSome).map (Python.drop 3)
    dirty := Python.strip worktreeStatus ≠ ""
    canonicalClean := Python.strip canonicalAfter = ""
    canonicalUnchanged := canonicalAfter = canonicalBefore }

/-- The canonical status, or nothing where it is unavailable. -/
def statusIfAvailable (root : PurePath) : HostTask (Option String) :=
  tryCatch (do return some (← status root)) fun error =>
    if error.kind = workspaceUnavailableError then return none else throw error

/-- `apply`: keeping changes nothing, discarding removes the derived pair. -/
def apply (actionId : UUID) (disposition : WorkProductDisposition) :
    HostTask WorkProductDispositionResult := do
  let (root, worktree, canonicalBefore) ← service.verified actionId
  match disposition with
  | .keep =>
    return { actionId, disposition, worktreePresent := true, branchPresent := true
             canonicalUnchanged := true }
  | .discard =>
    -- workers cannot commit; a branch that did gain commits is not discarded
    let commits ← git (.revListCount ("HEAD.." ++ refsHeads worktree.branch)) root
    check (Python.strip commits ≠ "0") "branch has commits not in the canonical HEAD"
    let _ ← runGit (.worktreeRemove worktree.path) root
    let worktreePresent ← pathExists worktree.path
    if worktreePresent then pure () else (runGit (.deleteBranch worktree.branch) root).discard
    let canonicalAfter ← statusIfAvailable root
    let branchPresent ← branchExists root worktree.branch
    return { actionId, disposition, worktreePresent, branchPresent
             canonicalUnchanged := canonicalAfter = some canonicalBefore }

end WorkProductService

end Velox
