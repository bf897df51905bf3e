import Velox.Integrations.PullRequest
import Velox.Integrations.WorkProduct
import Velox.Lib.Substitution
import Velox.SoftwareEngineering.RunControl

/-!
# Promotion of kept work products

How a kept work product is committed, pushed and published: every step is checked
through git before the next is taken. The programs here are what stands behind the
calls that the services make about work products.

## Main definitions

* `PromotionSettings` — the trusted configuration of a promotion
* `SoftwareEngineeringPromotionService.verifyCommit`,
  `SoftwareEngineeringPromotionService.createOrRecoverCommit`,
  `SoftwareEngineeringPromotionService.publish`
* `PromotionSettings.implement` — the programs behind the calls
* `PromotionSettings.promote`, `PromotionSettings.dispose` — promotion and
  disposition with every command they run
-/

set_option autoImplicit false

namespace Velox

/-- The trusted configuration of a promotion. -/
structure PromotionSettings where
  workspace : TrustedGitWorkspace
  enabled : Bool
  /-- Workspace, work products and publisher are all configured. -/
  available : Bool
  remote : String
  baseBranch : String
  authorName : String
  authorEmail : String

namespace SoftwareEngineeringPromotionService

open TrustedGitWorkspace (runGit gitOutput status)

/-- `SoftwareEngineeringPromotionExternalError`. -/
def externalError (message : String) : Raised :=
  ⟨.softwareEngineeringPromotionExternalError, message⟩

/-- A check of a precondition or of a git invariant. -/
def check (c : Prop) [Decidable c] (message : String) : HostTask Unit :=
  Proc.ofExcept (.raiseIf c (stateError message))

/-- `_git`. -/
def git (command : GitCommand) (cwd : PurePath) : HostTask String := do
  let output ← gitOutput (stateError "trusted git verification failed") command cwd
  return Python.strip output

/-- The line that names the action in a commit message. -/
def trailer (actionId : UUID) : String := "VELOX-Action: " ++ UUID.str actionId

/-- The subject of a promotion commit. -/
def subject (actionId : UUID) : String :=
  "VELOX: promote software engineering action " ++ UUID.str actionId

/-- A commit under verification, with what it has to agree with. -/
structure Candidate where
  actionId : UUID
  root : PurePath
  worktreePath : PurePath
  branch : String
  canonicalHead : String

/-- `_verify_commit`. -/
def verifyCommit (candidate : Candidate) (commitSha : String) : HostTask Unit := do
  let count ← git (.revListCount (candidate.canonicalHead ++ ".." ++ commitSha)) candidate.root
  check (count ≠ "1") "promotion branch has unexpected commit history"
  let parent ← git (.revParse (commitSha ++ "^")) candidate.root
  check (parent ≠ candidate.canonicalHead)
    "promotion commit does not descend directly from canonical HEAD"
  let message ← git (.showMessage commitSha) candidate.root
  check (trailer candidate.actionId ∉ (Python.splitlines message).map Python.strip)
    "promotion commit is missing trusted Action identity"
  let head ← git (.revParse candidate.branch) candidate.root
  check (head ≠ commitSha) "promotion branch does not point to the promotion commit"
  let worktreeStatus ← status candidate.worktreePath
  check (Python.strip worktreeStatus ≠ "") "promotion worktree is not clean after commit"

/-- The text starts with a hyphen. -/
def IsOption (text : String) : Prop := (Python.afterPrefix "-" text).isSome = true

instance (text : String) : Decidable (IsOption text) := inferInstanceAs (Decidable (_ = true))

variable (settings : PromotionSettings)

/-- Commit what the worktree contains, and verify the commit. -/
def createCommit (candidate : Candidate) : HostTask String := do
  let _ ← gitOutput (stateError "work product could not be staged") .addAll candidate.worktreePath
  let staged ← runGit .diffCached candidate.worktreePath
  check (staged.timedOut = true ∨ staged.returncode ≠ some 0 ∧ staged.returncode ≠ some 1)
    "staged diff could not be verified"
  check (staged.returncode = some 0) "kept work product contains no promotable changes"
  let _ ← gitOutput (stateError "VELOX promotion commit failed")
    (.commit settings.authorName settings.authorEmail (subject candidate.actionId)
      (trailer candidate.actionId)) candidate.worktreePath
  let commitSha ← git (.revParse "HEAD") candidate.worktreePath
  verifyCommit candidate commitSha
  return commitSha

/-- `_create_or_recover_commit`. -/
def createOrRecoverCommit (candidate : Candidate) (dirty : Bool) : HostTask String := do
  let worktreeHead ← git (.revParse "HEAD") candidate.worktreePath
  if worktreeHead ≠ candidate.canonicalHead then
    check dirty "promotion worktree has both commits and uncommitted changes"
    verifyCommit candidate worktreeHead
    return worktreeHead
  else
    check (¬dirty) "kept work product contains no promotable changes"
    createCommit settings candidate

/-! ### The stages of a promotion -/

/-- A work product that cannot be verified cannot be promoted. -/
def unverifiable (error : Raised) : Raised :=
  if error.kind = workspaceUnavailableError ∨ error.kind = .workProductIdentityError then
    stateError "software engineering work product is unavailable or unverifiable"
  else error

/-- The validated root and the review of the work product. -/
def reviewed (actionId : UUID) : HostTask (PurePath × WorkProductReview) := do
  let root ← settings.workspace.validate
  let review ← WorkProductService.review ⟨settings.workspace⟩ actionId
  return (root, review)

/-- The checks before anything is changed: canonical root, canonical HEAD, and
whether the worktree has uncommitted changes. -/
def preflight (actionId : UUID) : HostTask (PurePath × String × Bool) := do
  let (root, review) ← tryCatch (reviewed settings actionId) fun error => throw (unverifiable error)
  check (¬review.canonicalClean ∨ ¬review.canonicalUnchanged)
    "canonical checkout changed during promotion verification"
  let currentBranch ← git .symbolicRef root
  check (currentBranch ≠ settings.baseBranch) "canonical checkout is not on the trusted base branch"
  let canonicalStatus ← status root
  check (Python.strip canonicalStatus ≠ "") "canonical checkout is not clean"
  check (settings.remote = "" ∨ IsOption settings.remote) "trusted promotion remote is invalid"
  check (settings.baseBranch = "" ∨ IsOption settings.baseBranch)
    "trusted promotion base branch is invalid"
  let _ ← git (.remoteGetUrl settings.remote) root
  let canonicalHead ← git (.revParse "HEAD") root
  let remoteBase ← git (.lsRemote settings.remote settings.baseBranch) root
  check ((Python.split remoteBase).head? ≠ some canonicalHead)
    "trusted remote base does not match canonical HEAD"
  return (root, canonicalHead, review.dirty)

/-- The canonical checkout is looked at once more before the push. -/
def recheck (root : PurePath) (canonicalHead : String) : HostTask Unit := do
  let head ← git (.revParse "HEAD") root
  check (head ≠ canonicalHead) "canonical checkout changed before promotion push"
  let canonicalStatus ← status root
  check (Python.strip canonicalStatus ≠ "") "canonical checkout changed before promotion push"

/-- Push the branch and read it back. -/
def pushBranch (root : PurePath) (branch commitSha : String) : HostTask Unit := do
  let _ ← gitOutput (externalError "promotion push failed") (.push settings.remote branch) root
  let remoteHead ← git (.lsRemote settings.remote branch) root
  Proc.ofExcept (.raiseIf ((Python.split remoteHead).head? ≠ some commitSha)
    (externalError "promotion branch could not be verified on the remote"))

variable [PyJson]

/-- A failed publication is an external error. -/
def publicationFailed (error : Raised) : Raised :=
  if error.kind = pullRequestPublicationError then externalError "pull-request publication failed"
  else error

/-- Publish the pull request of the pushed branch. -/
def publishPullRequest (root : PurePath) (branch title body : String) :
    HostTask PullRequestPublication := do
  let publication ← tryCatch
    (GitHubCliPullRequestPublisher.publish root settings.baseBranch branch title body)
    fun error => throw (publicationFailed error)
  Proc.ofExcept (.raiseIf
    (publication.baseBranch ≠ settings.baseBranch ∨ publication.headBranch ≠ branch)
    (externalError "pull-request identity did not match trusted promotion branches"))
  return publication

/-- What is committed, given what has been checked. -/
def candidate (actionId : UUID) (root : PurePath) (canonicalHead : String) : Candidate where
  actionId
  root
  worktreePath := (settings.workspace.expectedWorktree actionId).path
  branch := (settings.workspace.expectedWorktree actionId).branch
  canonicalHead

/-- The part of `promote` between the durable evidence and the durable record. -/
def publish (actionId : UUID) (title body : String) : HostTask PromotionPublication := do
  let (root, canonicalHead, dirty) ← preflight settings actionId
  let branch := (settings.workspace.expectedWorktree actionId).branch
  let commitSha ← createOrRecoverCommit settings (candidate settings actionId root canonicalHead)
    dirty
  recheck root canonicalHead
  pushBranch settings root branch commitSha
  let publication ← publishPullRequest settings root branch title body
  return {
    commitSha
    number := publication.number
    url := publication.url
    baseBranch := publication.baseBranch
    headBranch := publication.headBranch
    created := publication.created }

end SoftwareEngineeringPromotionService

namespace PromotionSettings

variable (settings : PromotionSettings)

/-- What the promotion service looks at before it runs a command. -/
def configuration : SoftwareEngineeringPromotionService.Configuration where
  enabled := settings.enabled
  available := settings.available
  baseBranch := settings.baseBranch
  expectedBranch actionId := (settings.workspace.expectedWorktree actionId).branch

variable [PyJson]

/-- The programs behind the calls about work products; every other call is made as
it is. -/
def implement : (c : OutsideCall) → Prog (Outside.sum Host) c.Reply
  | .reviewWorkProduct actionId =>
    ((WorkProductService.mk settings.workspace).review actionId).outcome.inr
  | .disposeWorkProduct actionId disposition =>
    ((WorkProductService.mk settings.workspace).apply actionId disposition).outcome.inr
  | .publishPromotion actionId title body =>
    (SoftwareEngineeringPromotionService.publish settings actionId title body).outcome.inr
  | .uuid4 => .call (.inl .uuid4) .ret
  | .utcnow => .call (.inl .utcnow) .ret
  | .classify event => .call (.inl (.classify event)) .ret
  | .resolveContext event classification =>
    .call (.inl (.resolveContext event classification)) .ret
  | .plan processedEvent => .call (.inl (.plan processedEvent)) .ret
  | .evaluatePermission action => .call (.inl (.evaluatePermission action)) .ret
  | .execute execution => .call (.inl (.execute execution)) .ret
  | .store call => .call (.inl (.store call)) .ret

/-- `promote`, with every command it runs. -/
def promote (actionId : UUID) (title body : String) :
    Proc (Outside.sum Host) Unit Raised PromotionPublication :=
  (SoftwareEngineeringPromotionService.promote settings.configuration actionId title body).expand
    settings.implement

/-- `WorkProductDispositionService.apply`, with every command it runs. -/
def dispose (actionId : UUID) (disposition : WorkProductDisposition) :
    Proc (Outside.sum Host) Unit Raised WorkProductDispositionResult :=
  (WorkProductDispositionService.apply true actionId disposition).expand settings.implement

/-! ### Calls that are made as they are -/

section Ensures

variable {R : RunRepository} {env : Environment} {V : Type} {k : Handler Host V}
  {P : (Outside.sum Host).Call → World R × V → Prop} {u : Unit} {w : World R} {v : V}

@[simp] theorem ensures_get {actionId : UUID}
    {Q : Except Raised (Option RunState) → Unit → World R × V → Prop} :
    ((Repository.get actionId).expand settings.implement).Ensures
        (Handler.both (outside env R) k) P Q u (w, v) ↔
      P (.inl (.store (.get actionId))) (w, v) ∧ Q (.ok (w.row actionId)) u (w, v) :=
  (Proc.ensures_inl (m := Repository.get actionId)).trans Repository.ensures_get

theorem ensures_stamped {write : DateTime → RunWrite}
    {Q : Except Raised RunState → Unit → World R × V → Prop}
    (h : (Repository.stamped write).Ensures (outside env R) (fun c w => P (.inl c) (w, v))
      (fun r u w => Q r u (w, v)) u w) :
    ((Repository.stamped write).expand settings.implement).Ensures
      (Handler.both (outside env R) k) P Q u (w, v) :=
  Proc.ensures_inl.mpr h

theorem ensures_utcnow {Q : Except Raised DateTime → Unit → World R × V → Prop} :
    ((utcnow : Task DateTime).expand settings.implement).Ensures
        (Handler.both (outside env R) k) P Q u (w, v) ↔
      P (.inl .utcnow) (w, v) ∧ Q (.ok (env.clock w.ticks)) u (w.tick, v) := Iff.rfl

/-- A call about work products is carried out by its program. -/
theorem ensures_publishPromotion {actionId : UUID} {title body : String}
    {Q : Except Raised PromotionPublication → Unit → World R × V → Prop} :
    ((publishPromotion actionId title body : Task PromotionPublication).expand
        settings.implement).Ensures (Handler.both (outside env R) k) P Q u (w, v) ↔
      (SoftwareEngineeringPromotionService.publish settings actionId title body).Ensures k
        (fun c v => P (.inr c) (w, v)) (fun r _ v => Q r u (w, v)) () v :=
  Proc.ensures_expand_request.trans Proc.ensures_outcome_inr

theorem ensures_disposeWorkProduct {actionId : UUID} {disposition : WorkProductDisposition}
    {Q : Except Raised WorkProductDispositionResult → Unit → World R × V → Prop} :
    ((disposeWorkProduct actionId disposition : Task WorkProductDispositionResult).expand
        settings.implement).Ensures (Handler.both (outside env R) k) P Q u (w, v) ↔
      ((WorkProductService.mk settings.workspace).apply actionId disposition).Ensures k
        (fun c v => P (.inr c) (w, v)) (fun r _ v => Q r u (w, v)) () v :=
  Proc.ensures_expand_request.trans Proc.ensures_outcome_inr

end Ensures

end PromotionSettings

end Velox
