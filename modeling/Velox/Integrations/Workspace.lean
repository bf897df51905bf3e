import Velox.Core.Error
import Velox.Lib.Effect
import Velox.Python.Path
import Velox.Python.Time

/-!
# The trusted workspace

What a coding worker's provider and the services around its work product share:
child processes and the file system as calls, and the one configured repository
with an isolated worktree for each action.

Timeouts, durations and the configured names of the executables are left out:
nothing depends on them.

## Main definitions

* `GitCommand`, `GhCommand`, `Command` — the commands the server runs
* `Host`, `HostTask` — the calls to the machine, and methods that make them
* `TrustedGitWorkspace` — the repository a coding worker may branch from

## Main results

* `TrustedGitWorkspace.gitOutput_eq` — a checked git command is a single call
-/

set_option autoImplicit false

namespace Velox

/-! ### Commands -/

/-- The git commands the server runs. -/
inductive GitCommand
  | showToplevel
  | status
  | worktreeList
  | worktreeAdd (branch : String) (path : PurePath)
  | worktreeRemove (path : PurePath)
  | verifyBranch (branch : String)
  | deleteBranch (branch : String)
  | diffStat
  | diff
  | symbolicRef
  | remoteGetUrl (remote : String)
  | revParse (revision : String)
  | revListCount (range : String)
  | showMessage (revision : String)
  | lsRemote (remote branch : String)
  | addAll
  | diffCached
  | commit (authorName authorEmail subject trailer : String)
  | push (remote branch : String)
  deriving DecidableEq

/-- `refs/heads/<branch>`. -/
def refsHeads (branch : String) : String := "refs/heads/" ++ branch

/-- The arguments of a git command. -/
def GitCommand.args : GitCommand → List String
  | showToplevel => ["rev-parse", "--show-toplevel"]
  | status => ["status", "--porcelain=v1", "--untracked-files=all"]
  | worktreeList => ["worktree", "list", "--porcelain"]
  | worktreeAdd branch path => ["worktree", "add", "-b", branch, path.str, "HEAD"]
  | worktreeRemove path => ["worktree", "remove", "--force", path.str]
  | verifyBranch branch => ["rev-parse", "--verify", "--quiet", refsHeads branch]
  | deleteBranch branch => ["branch", "-D", branch]
  | diffStat => ["diff", "--no-ext-diff", "--no-textconv", "--no-color", "--stat", "HEAD"]
  | diff => ["diff", "--no-ext-diff", "--no-textconv", "--no-color", "HEAD"]
  | symbolicRef => ["symbolic-ref", "--quiet", "--short", "HEAD"]
  | remoteGetUrl remote => ["remote", "get-url", remote]
  | revParse revision => ["rev-parse", revision]
  | revListCount range => ["rev-list", "--count", range]
  | showMessage revision => ["show", "-s", "--format=%B", revision]
  | lsRemote remote branch => ["ls-remote", "--heads", remote, refsHeads branch]
  | addAll => ["add", "--all"]
  | diffCached => ["diff", "--cached", "--quiet"]
  | commit authorName authorEmail subject trailer =>
    ["-c", "user.name=" ++ authorName, "-c", "user.email=" ++ authorEmail, "commit", "--no-verify",
      "-m", subject, "-m", trailer]
  | push remote branch =>
    ["push", "--porcelain", remote, refsHeads branch ++ ":" ++ refsHeads branch]

/-- The GitHub CLI commands the server runs. -/
inductive GhCommand
  | prList (headBranch : String)
  | prCreate (baseBranch headBranch title body : String)
  deriving DecidableEq

/-- The arguments of a GitHub CLI command. -/
def GhCommand.args : GhCommand → List String
  | prList headBranch =>
    ["pr", "list", "--state", "all", "--head", headBranch, "--limit", "10", "--json",
      "number,url,headRefName,baseRefName"]
  | prCreate baseBranch headBranch title body =>
    ["pr", "create", "--base", baseBranch, "--head", headBranch, "--title", title, "--body", body]

/-- A command with what it is given besides its directory. -/
inductive Command
  | git (command : GitCommand)
  | gh (command : GhCommand)
  | workerVersion (environment : List (String × String))
  | worker (argv : List String) (stdin : String) (environment : List (String × String))
  deriving DecidableEq

/-- Outcome of one bounded child process; `returncode` is `none` on timeout. -/
structure ProcessResult where
  returncode : Option Int
  stdout : String := ""
  stderr : String := ""
  timedOut : Bool := false
  deriving DecidableEq

/-- The process exited with another status than zero, or was stopped. -/
def ProcessResult.Failed (result : ProcessResult) : Prop :=
  result.returncode ≠ some 0 ∨ result.timedOut = true

instance (result : ProcessResult) : Decidable result.Failed := inferInstanceAs (Decidable (_ ∨ _))

/-! ### The machine -/

/-- The calls to child processes and the file system. -/
inductive HostCall
  | run (command : Command) (cwd : PurePath)
  | isDir (path : PurePath)
  | exists (path : PurePath)
  | resolve (path : PurePath)
  | mkdir (path : PurePath)
  deriving DecidableEq

/-- What a call returns when it does not raise. -/
@[reducible] def HostCall.Value : HostCall → Type
  | .run .. => ProcessResult
  | .isDir _ => Bool
  | .exists _ => Bool
  | .resolve _ => PurePath
  | .mkdir _ => Unit

/-- The calls with their replies. -/
abbrev Host : Signature := ⟨HostCall, fun c => Except Raised c.Value⟩

/-- A method that runs commands and looks at the file system. -/
abbrev HostTask (α : Type) := Proc Host Unit Raised α

/-- Make a call to the machine. -/
def askHost (call : HostCall) : HostTask call.Value := Proc.request Host call id

/-- `path.is_dir()`. -/
abbrev isDir (path : PurePath) : HostTask Bool := askHost (.isDir path)

/-- `path.exists()`. -/
abbrev pathExists (path : PurePath) : HostTask Bool := askHost (.exists path)

/-- `path.resolve()`. -/
abbrev resolve (path : PurePath) : HostTask PurePath := askHost (.resolve path)

/-- `path.mkdir(parents=True, exist_ok=True)`. -/
abbrev mkdir (path : PurePath) : HostTask Unit := askHost (.mkdir path)

/-- `ExecutableNotFoundError`. -/
abbrev executableNotFoundError : ErrorKind := .exception "ExecutableNotFoundError"

/-- `WorkspaceUnavailableError`. -/
abbrev workspaceUnavailableError : ErrorKind := .exception "WorkspaceUnavailableError"

/-- A `WorkspaceUnavailableError` with its message. -/
def unavailable (message : String) : Raised := ⟨workspaceUnavailableError, message⟩

/-! ### The workspace -/

/-- A worktree and branch derived only from the action id. -/
structure IsolatedWorktree where
  path : PurePath
  branch : String
  deriving DecidableEq

/-- The one configured repository a coding worker may branch from. -/
structure TrustedGitWorkspace where
  root : PurePath
  /-- `worktrees_root`, where one is configured. -/
  configuredWorktreesRoot : Option PurePath := none

namespace TrustedGitWorkspace

/-- A missing executable makes the workspace unavailable. -/
def gitError (error : Raised) : Raised :=
  if error.kind = executableNotFoundError then unavailable "git is not available" else error

/-- `run_git`. -/
def runGit (command : GitCommand) (cwd : PurePath) : HostTask ProcessResult :=
  tryCatch (askHost (.run (.git command) cwd)) fun error => throw (gitError error)

/-- What a process printed; a failed process raises the given exception. -/
def checked (failure : Raised) (result : ProcessResult) : Except Raised String := do
  .raiseIf result.Failed failure
  return result.stdout

/-- What a git command printed; a failed command raises the given exception. -/
def gitOutput (failure : Raised) (command : GitCommand) (cwd : PurePath) : HostTask String := do
  let result ← runGit command cwd
  Proc.ofExcept (checked failure result)

/-- `status`. -/
def status (path : PurePath) : HostTask String :=
  gitOutput (unavailable "workspace status is unavailable") .status path

/-- `changed_files`. -/
def changedFiles (status : String) : List String :=
  ((Python.splitlines status).filter fun line => 3 < line.length).map fun line =>
    Python.afterFirst " -> " (Python.drop 3 line)

variable (workspace : TrustedGitWorkspace)

/-- `validate`. -/
def validate : HostTask PurePath := do
  Proc.ofExcept (.raiseIf (¬workspace.root.isAbsolute)
    (unavailable "trusted workspace does not exist"))
  let present ← isDir workspace.root
  Proc.ofExcept (.raiseIf (¬present) (unavailable "trusted workspace does not exist"))
  let toplevel ← gitOutput (unavailable "trusted workspace is not a git repository") .showToplevel
    workspace.root
  let actual ← resolve (.ofString (Python.strip toplevel))
  let expected ← resolve workspace.root
  Proc.ofExcept (.raiseIf (actual ≠ expected)
    (unavailable "trusted workspace is not the repository root"))
  return workspace.root

/-- `worktrees_root`. -/
def worktreesRoot : PurePath :=
  workspace.configuredWorktreesRoot.getD
    (workspace.root.parent.child ("." ++ workspace.root.name ++ "-velox-worktrees"))

/-- `expected_worktree`. -/
def expectedWorktree (actionId : UUID) : IsolatedWorktree where
  path := workspace.worktreesRoot.child ("se-" ++ UUID.str actionId)
  branch := "velox/" ++ ("se-" ++ UUID.str actionId)

/-- `create_worktree`. -/
def createWorktree (actionId : UUID) : HostTask IsolatedWorktree := do
  let root ← workspace.validate
  let worktree := workspace.expectedWorktree actionId
  let present ← pathExists worktree.path
  Proc.ofExcept (.raiseIf present (unavailable "isolated worktree already exists"))
  mkdir worktree.path.parent
  let _ ← gitOutput (unavailable "isolated worktree could not be created")
    (.worktreeAdd worktree.branch worktree.path) root
  return worktree

/-! ### A checked command as one call -/

/-- What a checked git command makes of the reply. -/
def readOutput (failure : Raised) (reply : Except Raised ProcessResult) : Except Raised String :=
  reply.mapError gitError >>= checked failure

theorem checked_eq_ok_iff {failure : Raised} {result : ProcessResult} {output : String} :
    checked failure result = .ok output ↔ ¬result.Failed ∧ result.stdout = output := by
  by_cases h : result.Failed <;> simp [checked, h]

theorem readOutput_eq_ok_iff {failure : Raised} {reply : Except Raised ProcessResult}
    {output : String} : readOutput failure reply = .ok output ↔
      ∃ result, reply = .ok result ∧ ¬result.Failed ∧ result.stdout = output := by
  rcases reply with e | result
  · simp [readOutput, Except.mapError]
  · simp [readOutput, Except.mapError, checked_eq_ok_iff]

/-- A checked git command is a single call. -/
theorem gitOutput_eq (failure : Raised) (command : GitCommand) (cwd : PurePath) :
    gitOutput failure command cwd =
      Proc.request Host (.run (.git command) cwd) (readOutput failure) := by
  rw [gitOutput, runGit, askHost, Proc.tryCatch_request_throw, Proc.request_bind_ofExcept]
  rfl

/-- A checked git command under any handler. -/
@[simp] theorem ensures_gitOutput {W : Type} {h : Handler Host W} {P : HostCall → W → Prop}
    {Q : Except Raised String → Unit → W → Prop} {failure : Raised} {command : GitCommand}
    {cwd : PurePath} {u : Unit} {w : W} :
    (gitOutput failure command cwd).Ensures h P Q u w ↔
      P (.run (.git command) cwd) w ∧
        Q (readOutput failure (h (.run (.git command) cwd) w).1) u
          (h (.run (.git command) cwd) w).2 := by
  rw [gitOutput_eq]
  exact Iff.rfl

end TrustedGitWorkspace

/-- A call to the machine under any handler. -/
@[simp] theorem ensures_askHost {W : Type} {h : Handler Host W} {P : HostCall → W → Prop}
    {call : HostCall} {Q : Except Raised call.Value → Unit → W → Prop} {u : Unit} {w : W} :
    (askHost call).Ensures h P Q u w ↔ P call w ∧ Q (h call w).1 u (h call w).2 := Iff.rfl

end Velox
