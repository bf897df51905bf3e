import Velox.Integrations.PromotionGate
import Velox.Lib.Machine

/-!
# A repository, its remote and its pull requests

What git, the file system and the pull-request host do with the work product of one
action when nothing goes wrong, for the calls that promotions and dispositions make. What
else the commands print is left open.

## Main definitions

* `Pair`, `SiteState` — the worktree and the branch of an action, and all that its
  commands can change
* `SiteCall` — the calls made about the work product
* `GitSite` — the repository and its surroundings
* `GitSite.answer`, `GitSite.effect` — what a call is answered with, and what it does
* `GitSite.machine` — both together, and how calls fail

## Main results

* `GitSite.yields_verified` — a pair that is in place is verified
* `GitSite.raises_verified` — no other is
-/

set_option autoImplicit false

namespace Velox

/-- The derived pair of an action, the worktree and the branch. -/
structure Pair where
  /-- The directory of the worktree exists. -/
  directory : Bool
  /-- It is linked to the repository. -/
  checkout : Bool
  /-- The worktree is in git's registry. -/
  registered : Bool
  branch : Bool
  /-- How many commits the branch has beyond canonical HEAD. -/
  commits : ℕ
  deriving DecidableEq

/-- The worktree is what it was created as. -/
def Pair.InPlace (pair : Pair) : Prop :=
  pair.directory = true ∧ pair.checkout = true ∧ pair.registered = true

instance (pair : Pair) : Decidable pair.InPlace := inferInstanceAs (Decidable (_ ∧ _))

/-- What the commands about a work product can change. -/
structure SiteState extends Pair where
  /-- The worktree has changes that are not staged, and changes that are. -/
  changes : Bool := false
  staged : Bool := false
  /-- The commits pushed to the branch of the remote, the latest last. -/
  pushed : List String := []
  /-- How many pull requests the host has for the branch. -/
  pullRequests : ℕ := 0
  canonicalStatus : String := ""
  deriving DecidableEq

/-- The calls about a work product. The commit that is asked about is the first one made on
the branch. -/
inductive SiteCall
  | rootIsDir
  | rootToplevel
  | rootStatus
  | worktreeList
  | currentBranch
  | remoteUrl
  | canonicalHead
  | remoteBase
  | resolve (path : PurePath)
  | worktreeIsDir
  | worktreeExists
  | worktreeToplevel
  | worktreeStatus
  | diffStat
  | diff
  | worktreeHead
  | addAll
  | diffCached
  | commit
  | commitsBeyondHead
  | commitCount
  | commitParent
  | commitMessage
  | branchExists
  | branchHead
  | removeWorktree
  | deleteBranch
  | push
  | remoteHead
  | listPullRequests
  | createPullRequest (title body : String)
  deriving DecidableEq

/-- The calls that only ask. -/
def SiteCall.Asks : SiteCall → Prop
  | addAll | commit | removeWorktree | deleteBranch | push | createPullRequest .. => False
  | _ => True

/-- The repository of a work product and what is around it. -/
structure GitSite (settings : PromotionSettings) (actionId : UUID) where
  /-- What paths target to. -/
  target : PurePath → PurePath
  /-- What git prints as the roots of the checkouts, and of a repository around the
  worktree, if there is one. -/
  rootToplevel : String
  worktreeToplevel : String
  enclosingToplevel : Option String
  /-- What git lists as worktrees, with or without the derived one. -/
  listing : Bool → String
  canonicalHead : String
  /-- The SHA of each commit made on the branch. -/
  sha : ℕ → String
  currentBranch : String
  remoteUrl : String
  remoteBase : String
  /-- The status of the worktree, by whether it has changes and staged ones. -/
  worktreeStatus : Bool → Bool → String
  /-- What `gh pr list` prints for so many pull requests. -/
  pullRequestListing : ℕ → String
  /-- What is printed besides: output that is not read, and messages. -/
  stdout : SiteCall → SiteState → String
  stderr : SiteCall → SiteState → String
  root_absolute : settings.workspace.root.isAbsolute = true
  target_rootToplevel :
    target (.ofString (Python.strip rootToplevel)) = target settings.workspace.root
  target_worktreeToplevel : target (.ofString (Python.strip worktreeToplevel)) =
    target (settings.workspace.expectedWorktree actionId).path
  target_enclosingToplevel : ∀ toplevel ∈ enclosingToplevel,
    target (.ofString (Python.strip toplevel)) ≠
      target (settings.workspace.expectedWorktree actionId).path
  apart : ¬(target (settings.workspace.expectedWorktree actionId).path =
      target settings.workspace.root ∨
    target settings.workspace.root ∈
      (target (settings.workspace.expectedWorktree actionId).path).parents)
  /-- The canonical checkout comes first, and the derived path is listed once, on its
  branch, while it is registered. -/
  listed : ∀ registered, ∃ mainPath mainBranch linked,
    registeredWorktrees (listing registered) = (mainPath, mainBranch) :: linked ∧
    target mainPath = target settings.workspace.root ∧
    (linked.filter fun entry =>
        target entry.1 = target (settings.workspace.expectedWorktree actionId).path).map Prod.snd =
      if registered then [some (refsHeads (settings.workspace.expectedWorktree actionId).branch)]
      else []
  isWord_canonicalHead : Python.IsWord canonicalHead
  isWord_sha : ∀ n, Python.IsWord (sha n)
  sha_ne_canonicalHead : ∀ n, sha n ≠ canonicalHead
  strip_worktreeStatus : ∀ changes staged,
    Python.strip (worktreeStatus changes staged) = "" ↔ changes = false ∧ staged = false

/-- A command that raises or exits with a failure, and any other call that raises. -/
def HostFails : (call : HostCall) → Host.Reply call → Prop
  | .run .., r => r.either ProcessResult.Failed fun _ => True
  | _, r => r.raised = true

namespace GitSite

variable {settings : PromotionSettings} {actionId : UUID} (site : GitSite settings actionId)

/-- The derived worktree. -/
abbrev worktree (_ : GitSite settings actionId) : IsolatedWorktree :=
  settings.workspace.expectedWorktree actionId

/-- The call as it is made. -/
@[reducible] def host : SiteCall → HostCall
  | .rootIsDir => .isDir settings.workspace.root
  | .rootToplevel => .run (.git .showToplevel) settings.workspace.root
  | .rootStatus => .run (.git .status) settings.workspace.root
  | .worktreeList => .run (.git .worktreeList) settings.workspace.root
  | .currentBranch => .run (.git .symbolicRef) settings.workspace.root
  | .remoteUrl => .run (.git (.remoteGetUrl settings.remote)) settings.workspace.root
  | .canonicalHead => .run (.git (.revParse "HEAD")) settings.workspace.root
  | .remoteBase =>
    .run (.git (.lsRemote settings.remote settings.baseBranch)) settings.workspace.root
  | .resolve path => .resolve path
  | .worktreeIsDir => .isDir site.worktree.path
  | .worktreeExists => .exists site.worktree.path
  | .worktreeToplevel => .run (.git .showToplevel) site.worktree.path
  | .worktreeStatus => .run (.git .status) site.worktree.path
  | .diffStat => .run (.git .diffStat) site.worktree.path
  | .diff => .run (.git .diff) site.worktree.path
  | .worktreeHead => .run (.git (.revParse "HEAD")) site.worktree.path
  | .addAll => .run (.git .addAll) site.worktree.path
  | .diffCached => .run (.git .diffCached) site.worktree.path
  | .commit =>
    .run (.git (.commit settings.authorName settings.authorEmail
      (SoftwareEngineeringPromotionService.subject actionId)
      (SoftwareEngineeringPromotionService.trailer actionId))) site.worktree.path
  | .commitsBeyondHead =>
    .run (.git (.revListCount ("HEAD.." ++ refsHeads site.worktree.branch))) settings.workspace.root
  | .commitCount =>
    .run (.git (.revListCount (site.canonicalHead ++ ".." ++ site.sha 0))) settings.workspace.root
  | .commitParent => .run (.git (.revParse (site.sha 0 ++ "^"))) settings.workspace.root
  | .commitMessage => .run (.git (.showMessage (site.sha 0))) settings.workspace.root
  | .branchExists => .run (.git (.verifyBranch site.worktree.branch)) settings.workspace.root
  | .branchHead => .run (.git (.revParse site.worktree.branch)) settings.workspace.root
  | .removeWorktree => .run (.git (.worktreeRemove site.worktree.path)) settings.workspace.root
  | .deleteBranch => .run (.git (.deleteBranch site.worktree.branch)) settings.workspace.root
  | .push => .run (.git (.push settings.remote site.worktree.branch)) settings.workspace.root
  | .remoteHead =>
    .run (.git (.lsRemote settings.remote site.worktree.branch)) settings.workspace.root
  | .listPullRequests => .run (.gh (.prList site.worktree.branch)) settings.workspace.root
  | .createPullRequest title body =>
    .run (.gh (.prCreate settings.baseBranch site.worktree.branch title body))
      settings.workspace.root

/-- The commit a number of commits lead to from canonical HEAD. -/
def commitAt : ℕ → String
  | 0 => site.canonicalHead
  | n + 1 => site.sha n

/-- The message of a promotion commit. -/
def message (actionId : UUID) : String :=
  SoftwareEngineeringPromotionService.subject actionId ++ "\n" ++ ("" ++ "\n" ++
    SoftwareEngineeringPromotionService.trailer actionId)

/-- What a successful command prints. -/
def printed (call : SiteCall) (s : SiteState) (text : String) : Except Raised ProcessResult :=
  .ok { returncode := some 0, stdout := text, stderr := site.stderr call s }

/-- A command whose output is not read. -/
def exited (call : SiteCall) (s : SiteState) (returncode : Int) : Except Raised ProcessResult :=
  .ok { returncode := some returncode, stdout := site.stdout call s, stderr := site.stderr call s }

/-- What a call is answered with when nothing goes wrong. -/
def answer : (c : SiteCall) → SiteState → Host.Reply (site.host c)
  | .rootIsDir, _ => (Except.ok true : Except Raised Bool)
  | .rootToplevel, s => site.printed .rootToplevel s site.rootToplevel
  | .rootStatus, s => site.printed .rootStatus s s.canonicalStatus
  | .worktreeList, s => site.printed .worktreeList s (site.listing s.registered)
  | .currentBranch, s => site.printed .currentBranch s (site.currentBranch ++ "\n")
  | .remoteUrl, s => site.printed .remoteUrl s site.remoteUrl
  | .canonicalHead, s => site.printed .canonicalHead s (site.canonicalHead ++ "\n")
  | .remoteBase, s => site.printed .remoteBase s site.remoteBase
  | .resolve path, _ => (Except.ok (site.target path) : Except Raised PurePath)
  | .worktreeIsDir, s => (Except.ok s.directory : Except Raised Bool)
  | .worktreeExists, s => (Except.ok s.directory : Except Raised Bool)
  | .worktreeToplevel, s =>
    if s.checkout then site.printed .worktreeToplevel s site.worktreeToplevel
    else match site.enclosingToplevel with
      | some toplevel => site.printed .worktreeToplevel s toplevel
      | none => site.exited .worktreeToplevel s 128
  | .worktreeStatus, s => site.printed .worktreeStatus s (site.worktreeStatus s.changes s.staged)
  | .diffStat, s => site.exited .diffStat s 0
  | .diff, s => site.exited .diff s 0
  | .worktreeHead, s => site.printed .worktreeHead s (site.commitAt s.commits ++ "\n")
  | .addAll, s => site.exited .addAll s 0
  | .diffCached, s => site.exited .diffCached s (if s.staged then 1 else 0)
  | .commit, s => site.exited .commit s (if s.staged then 0 else 1)
  | .commitsBeyondHead, s =>
    if s.branch then site.printed .commitsBeyondHead s (toString s.commits ++ "\n")
    else site.exited .commitsBeyondHead s 128
  | .commitCount, s =>
    if s.commits = 0 then site.exited .commitCount s 128 else site.printed .commitCount s "1\n"
  | .commitParent, s =>
    if s.commits = 0 then site.exited .commitParent s 128
    else site.printed .commitParent s (site.canonicalHead ++ "\n")
  | .commitMessage, s =>
    if s.commits = 0 then site.exited .commitMessage s 128
    else site.printed .commitMessage s (message actionId ++ "\n\n")
  | .branchExists, s => site.exited .branchExists s (if s.branch then 0 else 1)
  | .branchHead, s =>
    if s.branch then site.printed .branchHead s (site.commitAt s.commits ++ "\n")
    else site.exited .branchHead s 128
  | .removeWorktree, s =>
    site.exited .removeWorktree s (if s.registered ∧ (s.directory → s.checkout) then 0 else 128)
  | .deleteBranch, s => site.exited .deleteBranch s (if s.branch ∧ ¬s.registered then 0 else 1)
  | .push, s => site.exited .push s (if s.branch then 0 else 1)
  | .remoteHead, s =>
    site.printed .remoteHead s (match s.pushed.getLast? with
      | some sha => sha ++ "\t" ++ refsHeads site.worktree.branch ++ "\n"
      | none => "")
  | .listPullRequests, s => site.printed .listPullRequests s (site.pullRequestListing s.pullRequests)
  | .createPullRequest title body, s =>
    site.exited (.createPullRequest title body) s (if s.pushed = [] then 1 else 0)

/-- What a call does when nothing goes wrong. -/
def effect : SiteCall → SiteState → SiteState
  | .addAll, s => { s with changes := false, staged := s.changes || s.staged }
  | .commit, s => if s.staged then { s with staged := false, commits := s.commits + 1 } else s
  | .removeWorktree, s =>
    -- git refuses to remove a directory that is not linked to the repository
    if s.registered ∧ (s.directory → s.checkout) then
      { s with
        directory := false
        checkout := false
        registered := false
        changes := false
        staged := false }
    else s
  | .deleteBranch, s =>
    -- git refuses to delete the branch of a registered worktree
    if s.branch ∧ ¬s.registered then { s with branch := false } else s
  | .push, s => if s.branch then { s with pushed := s.pushed ++ [site.commitAt s.commits] } else s
  | .createPullRequest .., s =>
    if s.pushed = [] then s else { s with pullRequests := s.pullRequests + 1 }
  | _, s => s

/-- A call that reports a failure. -/
def Fails : (c : SiteCall) → Host.Reply (site.host c) → Prop
  -- the status 1 tells that there are staged changes
  | .diffCached, r => Except.either (α := ProcessResult) (fun result =>
      result.timedOut = true ∨ result.returncode ≠ some 0 ∧ result.returncode ≠ some 1)
      (fun _ => True) r
  | c, r => HostFails (site.host c) r

/-- Git, the file system and the pull-request host. A call may fail before or after
it took effect. -/
def machine : Machine (Host.restrict site.host) SiteState where
  respond c s := (site.answer c s, site.effect c s)
  Fails := site.Fails
  Leaves c s s' := s' = s ∨ s' = site.effect c s

/-- Questions are answered as the machine answers them. -/
def Answers (faults : Prop) {W : Type} (h : Handler Host W) (view : W → SiteState) : Prop :=
  ∀ c, SiteCall.Asks c → site.machine.FollowsAt faults (h.restrict site.host) view c

/-! ### Single calls -/

section Calls

open TrustedGitWorkspace (readOutput gitOutput gitOutput_eq)

variable {site} {faults : Prop} {W : Type} {h : Handler Host W} {view : W → SiteState}
  {I : SiteState → Prop} {s : SiteState}

theorem raised_readOutput {failure : Raised} {command : Command} {cwd : PurePath}
    {r : Host.Reply (.run command cwd)} (hr : HostFails (.run command cwd) r) :
    (readOutput failure r).raised = true := by
  rcases r with e | result
  · rfl
  · have hfailed : result.Failed := hr
    simp [readOutput, Except.mapError, TrustedGitWorkspace.checked, hfailed]

theorem readOutput_printed {failure : Raised} {call : SiteCall} {text : String} :
    readOutput failure (site.printed call s text) = .ok text :=
  TrustedGitWorkspace.readOutput_eq_ok_iff.mpr ⟨_, rfl, by simp [ProcessResult.Failed], rfl⟩

theorem readOutput_exited {failure : Raised} {call : SiteCall} :
    readOutput failure (site.exited call s 0) = .ok (site.stdout call s) :=
  TrustedGitWorkspace.readOutput_eq_ok_iff.mpr ⟨_, rfl, by simp [ProcessResult.Failed], rfl⟩

theorem readOutput_exited_of_ne {failure : Raised} {call : SiteCall} {returncode : Int}
    (hne : returncode ≠ 0) :
    readOutput failure (site.exited call s returncode) = .error failure := by
  simp [readOutput, exited, Except.mapError, TrustedGitWorkspace.checked, ProcessResult.Failed, hne]

/-- A call that is answered as it should be. -/
theorem yields_call {α : Type} (c : SiteCall)
    (hc : site.machine.FollowsAt faults (h.restrict site.host) view c)
    (unpack : Host.Reply (site.host c) → Except Raised α) {a : α} (hI : I s) (hI' : I (site.effect c s)) (hreply : unpack (site.answer c s) = .ok a)
    (hfails : ∀ r, site.Fails c r → (unpack r).raised = true) :
    (Proc.request Host (site.host c) unpack : HostTask α).Yields h view faults I s a
      (site.effect c s) := by
  refine Proc.yields_request_restrict hc hI hreply rfl hfails fun s₁ hleft => ?_
  rcases hleft with rfl | rfl
  · exact hI
  · exact hI'

variable (hM : site.Answers faults h view)
include hM

/-- A path is resolved. -/
theorem yields_resolve (hI : I s) (path : PurePath) :
    (resolve path).Yields h view faults I s (site.target path) s :=
  yields_call (.resolve path) (hM _ trivial) id hI hI rfl fun _ hr => hr

/-- So are the registered paths, one after the other. -/
theorem yields_branchesAt (hI : I s) (derived : PurePath)
    (entries : List (PurePath × Option String)) :
    (WorkProductService.branchesAt derived entries).Yields h view faults I s
      ((entries.filter fun entry => site.target entry.1 = derived).map Prod.snd) s := by
  induction entries with
  | nil => exact Proc.yields_pure _
  | cons entry entries ih =>
    obtain ⟨path, branch⟩ := entry
    refine Proc.Yields.bind (yields_resolve hM hI path) (Proc.Yields.bind ih ?_)
    by_cases hpath : site.target path = derived
    · simpa [hpath] using Proc.yields_pure _
    · simpa [hpath] using Proc.yields_pure _

/-! ### The identity of the pair -/

theorem yields_status (hI : I s) :
    (TrustedGitWorkspace.status settings.workspace.root).Yields h view faults I s
      s.canonicalStatus s := by
  rw [TrustedGitWorkspace.status, gitOutput_eq]
  exact yields_call .rootStatus (hM _ trivial) (readOutput _) hI hI readOutput_printed fun _ => raised_readOutput

/-- The canonical root is a repository's own. -/
theorem yields_validate (hI : I s) :
    settings.workspace.validate.Yields h view faults I s settings.workspace.root s := by
  rw [TrustedGitWorkspace.validate]
  refine Proc.Yields.bind_check (not_not_intro site.root_absolute) ?_
  refine Proc.Yields.bind (yields_call .rootIsDir (hM _ trivial) id hI hI rfl fun _ hr => hr) ?_
  refine Proc.Yields.bind_check (not_not_intro rfl) ?_
  rw [gitOutput_eq]
  refine Proc.Yields.bind (yields_call .rootToplevel (hM _ trivial) (readOutput _) hI hI readOutput_printed
    fun _ => raised_readOutput) ?_
  refine Proc.Yields.bind (yields_resolve hM hI _) (Proc.Yields.bind (yields_resolve hM hI _) ?_)
  exact Proc.Yields.bind_check (not_not_intro site.target_rootToplevel) (Proc.yields_pure _)

theorem yields_canonicalStatus (hI : I s) :
    (WorkProductService.mk settings.workspace).canonicalStatus.Yields h view faults I s
      (settings.workspace.root, s.canonicalStatus) s :=
  Proc.Yields.bind (yields_validate hM hI)
    (Proc.Yields.bind (yields_status hM hI) (Proc.yields_pure _))

theorem yields_isDir (hI : I s) :
    (isDir site.worktree.path).Yields h view faults I s s.directory s :=
  yields_call .worktreeIsDir (hM _ trivial) id hI hI rfl fun _ hr => hr

/-- A pair that is in place is verified. -/
theorem yields_verified (hI : I s) (hplace : s.InPlace) :
    ((WorkProductService.mk settings.workspace).verified actionId).Yields h view faults I s
      (settings.workspace.root, site.worktree, s.canonicalStatus) s := by
  obtain ⟨hdirectory, hcheckout, hregistered⟩ := hplace
  obtain ⟨mainPath, mainBranch, linked, hread, hmain, honce⟩ := site.listed s.registered
  rw [WorkProductService.verified]
  refine Proc.Yields.bind (Proc.Yields.tryCatch (yields_canonicalStatus hM hI)) ?_
  refine Proc.Yields.bind (yields_isDir hM hI) ?_
  refine Proc.Yields.bind_check (not_not_intro hdirectory) ?_
  refine Proc.Yields.bind (yields_resolve hM hI _) (Proc.Yields.bind (yields_resolve hM hI _) ?_)
  refine Proc.Yields.bind_check site.apart ?_
  rw [WorkProductService.git, gitOutput_eq]
  refine Proc.Yields.bind (yields_call .worktreeList (hM _ trivial) (readOutput _) hI hI readOutput_printed
    fun _ => raised_readOutput) ?_
  rw [hread]
  refine Proc.Yields.bind (yields_resolve hM hI _) ?_
  refine Proc.Yields.bind_check (not_not_intro hmain) ?_
  refine Proc.Yields.bind (yields_branchesAt hM hI _ linked) ?_
  refine Proc.Yields.bind_check (not_not_intro (by rw [honce, if_pos hregistered])) ?_
  rw [WorkProductService.git, gitOutput_eq]
  refine Proc.Yields.bind (yields_call .worktreeToplevel (hM _ trivial) (readOutput _) hI hI
    (a := site.worktreeToplevel) ?_ fun _ => raised_readOutput) ?_
  · rw [answer, if_pos hcheckout]
    exact readOutput_printed
  refine Proc.Yields.bind (yields_resolve hM hI _) ?_
  exact Proc.Yields.bind_check (not_not_intro site.target_worktreeToplevel) (Proc.yields_pure _)

omit hM in
/-- No other pair is. -/
theorem raises_verified (hM : site.Answers False h view)
    (hplace : ¬s.InPlace) :
    ((WorkProductService.mk settings.workspace).verified actionId).Raises h view
      (fun e => e.kind = .workProductIdentityError) s := by
  obtain ⟨I, hI⟩ : ∃ I : SiteState → Prop, I s := ⟨fun _ => True, trivial⟩
  have hpasses : ∀ {c : Prop} [Decidable c] {message : String}, ¬c →
      (WorkProductService.check c message).Yields h view False I s () s :=
    fun hc => Proc.yields_ofExcept (Except.raiseIf_neg hc)
  have hraises : ∀ {c : Prop} [Decidable c] {message : String}, c →
      (WorkProductService.check c message).Raises h view
        (fun e => e.kind = .workProductIdentityError) s :=
    fun hc => Proc.raises_check hc rfl
  obtain ⟨mainPath, mainBranch, linked, hread, hmain, honce⟩ := site.listed s.registered
  rw [WorkProductService.verified]
  refine Proc.Yields.raises (Proc.Yields.tryCatch (yields_canonicalStatus hM hI)) ?_
  refine Proc.Yields.raises (yields_isDir hM hI) ?_
  by_cases hdirectory : s.directory = true
  swap
  · exact (hraises hdirectory).bind
  refine Proc.Yields.raises (hpasses (not_not_intro hdirectory)) ?_
  refine Proc.Yields.raises (yields_resolve hM hI _) ?_
  refine Proc.Yields.raises (yields_resolve hM hI _) (Proc.Yields.raises (hpasses site.apart) ?_)
  rw [WorkProductService.git, gitOutput_eq]
  refine Proc.Yields.raises (yields_call .worktreeList (hM _ trivial) (readOutput _) hI hI readOutput_printed
    fun _ => raised_readOutput) ?_
  rw [hread]
  refine Proc.Yields.raises (yields_resolve hM hI _) ?_
  refine Proc.Yields.raises (hpasses (not_not_intro hmain)) ?_
  refine Proc.Yields.raises (yields_branchesAt hM hI _ linked) ?_
  rw [honce]
  by_cases hregistered : s.registered = true
  swap
  · refine (hraises ?_).bind
    simp [hregistered]
  rw [if_pos hregistered]
  refine Proc.Yields.raises (hpasses (not_not_intro rfl)) ?_
  have hcheckout : ¬s.checkout = true := fun hcheckout =>
    hplace ⟨hdirectory, hcheckout, hregistered⟩
  rw [WorkProductService.git, gitOutput_eq]
  rcases henclosing : site.enclosingToplevel with _ | toplevel
  · -- git finds no repository from there
    have hreply : readOutput (identityError "git command failed during verification")
        (site.answer .worktreeToplevel s) =
        .error (identityError "git command failed during verification") := by
      rw [answer, if_neg hcheckout, henclosing]
      exact readOutput_exited_of_ne (by decide)
    refine Proc.Raises.bind ?_
    exact Proc.raises_request_restrict (hM .worktreeToplevel trivial) hreply rfl
  · -- git finds the repository around the worktree
    refine Proc.Yields.raises (yields_call .worktreeToplevel (hM _ trivial) (readOutput _) hI hI
      (a := toplevel) ?_ fun _ => raised_readOutput) ?_
    · rw [answer, if_neg hcheckout, henclosing]
      exact readOutput_printed
    refine Proc.Yields.raises (yields_resolve hM hI _) ?_
    exact (hraises (site.target_enclosingToplevel toplevel henclosing)).bind

end Calls

/-! ### A world that follows the machine -/

/-- Which call a call to the machine can be. -/
def decode : HostCall → Option SiteCall
  | .resolve path => some (.resolve path)
  | .isDir path => some (if path = settings.workspace.root then .rootIsDir else .worktreeIsDir)
  | .exists _ => some .worktreeExists
  | .mkdir _ => none
  | .run (.gh (.prList _)) _ => some .listPullRequests
  | .run (.gh (.prCreate _ _ title body)) _ => some (.createPullRequest title body)
  | .run (.git command) cwd => match command with
    | .showToplevel =>
      some (if cwd = settings.workspace.root then .rootToplevel else .worktreeToplevel)
    | .status => some (if cwd = settings.workspace.root then .rootStatus else .worktreeStatus)
    | .worktreeList => some .worktreeList
    | .worktreeAdd .. => none
    | .worktreeRemove _ => some .removeWorktree
    | .verifyBranch _ => some .branchExists
    | .deleteBranch _ => some .deleteBranch
    | .diffStat => some .diffStat
    | .diff => some .diff
    | .symbolicRef => some .currentBranch
    | .remoteGetUrl _ => some .remoteUrl
    | .revParse revision =>
      some (if cwd = site.worktree.path then .worktreeHead
        else if revision = "HEAD" then .canonicalHead
        else if revision = site.worktree.branch then .branchHead else .commitParent)
    | .revListCount range =>
      some (if range = site.canonicalHead ++ ".." ++ site.sha 0 then .commitCount
        else .commitsBeyondHead)
    | .showMessage _ => some .commitMessage
    | .lsRemote _ branch =>
      some (if branch = site.worktree.branch then .remoteHead else .remoteBase)
    | .addAll => some .addAll
    | .diffCached => some .diffCached
    | .commit .. => some .commit
    | .push .. => some .push
  | .run _ _ => none

/-- The calls of the machine are answered by it, and no other. -/
def handler : Handler Host SiteState := fun call s =>
  match site.decode call with
  | some c => if h : site.host c = call then (h ▸ site.answer c s, site.effect c s) else
    (.error (unavailable "no other command can be run"), s)
  | none => (.error (unavailable "no other command can be run"), s)

variable {site}

/-- No two calls of a site are the same call to the machine. -/
structure Distinguishable (site : GitSite settings actionId) : Prop where
  head : site.worktree.branch ≠ "HEAD"
  parent : site.sha 0 ++ "^" ≠ "HEAD" ∧ site.sha 0 ++ "^" ≠ site.worktree.branch
  range : "HEAD.." ++ refsHeads site.worktree.branch ≠ site.canonicalHead ++ ".." ++ site.sha 0
  base : settings.baseBranch ≠ site.worktree.branch

theorem root_ne_path : settings.workspace.root ≠ site.worktree.path := by
  intro h
  exact site.apart (Or.inl (congrArg site.target h.symm))

theorem decode_host (h : site.Distinguishable) (c : SiteCall) :
    site.decode (site.host c) = some c := by
  have hpath : site.worktree.path ≠ settings.workspace.root := site.root_ne_path.symm
  cases c with
  | rootIsDir => exact congrArg some (if_pos rfl)
  | rootToplevel => exact congrArg some (if_pos rfl)
  | rootStatus => exact congrArg some (if_pos rfl)
  | worktreeIsDir => exact congrArg some (if_neg hpath)
  | worktreeToplevel => exact congrArg some (if_neg hpath)
  | worktreeStatus => exact congrArg some (if_neg hpath)
  | canonicalHead => simp [decode, root_ne_path]
  | worktreeHead => exact congrArg some (if_pos rfl)
  | branchHead => simp [decode, root_ne_path, h.head]
  | commitParent => simp [decode, root_ne_path, h.parent]
  | commitsBeyondHead => exact congrArg some (if_neg h.range)
  | commitCount => exact congrArg some (if_pos rfl)
  | remoteHead => exact congrArg some (if_pos rfl)
  | remoteBase => exact congrArg some (if_neg h.base)
  | _ => rfl

theorem handler_host (h : site.Distinguishable) (c : SiteCall) (s : SiteState) :
    site.handler (site.host c) s = (site.answer c s, site.effect c s) := by
  simp [handler, decode_host h c]

theorem follows_handler (h : site.Distinguishable) (faults : Prop) :
    site.machine.Follows faults (site.handler.restrict site.host) id := by
  intro c s
  have hcall := handler_host h c s
  exact Or.inl ⟨congrArg Prod.fst hcall, congrArg Prod.snd hcall⟩

/-- A question changes nothing. -/
theorem effect_of_asks {c : SiteCall} (hc : c.Asks) (s : SiteState) : site.effect c s = s := by
  cases c <;> first | rfl | exact hc.elim

/-- A call that is no call of the machine changes nothing. -/
theorem handler_cases (call : HostCall) (s : SiteState) :
    (site.handler call s).2 = s ∨ ∃ c, site.host c = call ∧ (site.handler call s).2 = site.effect c s := by
  unfold handler
  split
  · next c hdecode =>
    split
    · next hc => exact Or.inr ⟨c, hc, rfl⟩
    · exact Or.inl rfl
  · exact Or.inl rfl

/-! ### A site -/

/-- The worktree of the first action in a repository at `/srv/velox`. -/
def sampleWorktree : IsolatedWorktree where
  path := {
    root := "/"
    parts := ["srv", ".velox-velox-worktrees", "se-00000000-0000-0000-0000-000000000000"] }
  branch := "velox/se-00000000-0000-0000-0000-000000000000"

/-- The text of its path. -/
def samplePath : String := "/srv/.velox-velox-worktrees/se-00000000-0000-0000-0000-000000000000"

/-- The worktrees of the repository. -/
def sampleEntries (registered : Bool) : List WorktreeEntry :=
  { path := "/srv/velox", head := "c0ffee", branch := some "refs/heads/main" } ::
    if registered then
      [{ path := samplePath, head := "c0ffee", branch := some (refsHeads sampleWorktree.branch) }]
    else []

theorem expectedWorktree_sample :
    PromotionSettings.sample.workspace.expectedWorktree 0 = sampleWorktree := by
  decide +kernel

theorem ofString_samplePath : PurePath.ofString samplePath = sampleWorktree.path := by
  decide +kernel

theorem ofString_sampleRoot :
    PurePath.ofString "/srv/velox" = PromotionSettings.sample.workspace.root := by
  decide +kernel

theorem wellFormed_sampleEntries (registered : Bool) :
    ∀ entry ∈ sampleEntries registered, entry.WellFormed := by
  have hmain : WorktreeEntry.WellFormed {
      path := "/srv/velox", head := "c0ffee", branch := some "refs/heads/main" } :=
    ⟨isLine_of_all rfl, isLine_of_all rfl, by simpa using isLine_of_all rfl⟩
  have hlinked : WorktreeEntry.WellFormed {
      path := samplePath, head := "c0ffee", branch := some (refsHeads sampleWorktree.branch) } :=
    ⟨isLine_of_all rfl, isLine_of_all rfl, by simpa using isLine_of_all rfl⟩
  cases registered <;> simp [sampleEntries, hmain, hlinked]

/-- A repository where every path resolves to itself. -/
def sample : GitSite PromotionSettings.sample 0 where
  target path := path
  rootToplevel := "/srv/velox\n"
  worktreeToplevel := samplePath ++ "\n"
  enclosingToplevel := none
  listing registered := worktreeListing (sampleEntries registered)
  canonicalHead := "c0ffee"
  sha n := String.ofList ('d' :: List.replicate n 'e')
  currentBranch := "main"
  remoteUrl := "https://host/velox.git\n"
  remoteBase := "c0ffee\trefs/heads/main\n"
  worktreeStatus changes staged := if changes || staged then " M app.py\n" else ""
  pullRequestListing n := if n = 0 then "[]\n" else "[{}]\n"
  stdout _ _ := ""
  stderr _ _ := ""
  root_absolute := rfl
  target_rootToplevel := by
    rw [show Python.strip "/srv/velox\n" = "/srv/velox" by decide +kernel, ofString_sampleRoot]
  target_worktreeToplevel := by
    have hword : Python.IsWord samplePath := Python.isWord_of_all (by decide) rfl
    rw [Python.strip_append_newline hword, ofString_samplePath, expectedWorktree_sample]
  target_enclosingToplevel := by simp
  apart := by
    rw [expectedWorktree_sample]
    decide
  listed := by
    intro registered
    rw [registeredWorktrees_worktreeListing (wellFormed_sampleEntries registered),
      expectedWorktree_sample]
    refine ⟨_, _, _, List.map_cons, ofString_sampleRoot, ?_⟩
    cases registered
    · rfl
    · simp [ofString_samplePath]
  isWord_canonicalHead := Python.isWord_of_all (by decide) rfl
  isWord_sha n := by
    refine ⟨by simp, fun c hc => ?_⟩
    rw [String.toList_ofList] at hc
    rcases List.mem_cons.mp hc with rfl | hc
    · rfl
    · rw [List.eq_of_mem_replicate hc]
      rfl
  sha_ne_canonicalHead n h := by
    have hlist := congrArg String.toList h
    rw [String.toList_ofList] at hlist
    exact absurd (List.cons.inj hlist).1 (by decide)
  strip_worktreeStatus := by decide

theorem distinguishable_sample : sample.Distinguishable where
  head := by
    rw [worktree, expectedWorktree_sample]
    decide
  parent := by
    rw [worktree, expectedWorktree_sample]
    decide
  range := by
    rw [worktree, expectedWorktree_sample]
    decide
  base := by
    rw [worktree, expectedWorktree_sample]
    decide

end GitSite

end Velox
