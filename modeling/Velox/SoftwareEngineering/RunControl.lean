import Velox.SoftwareEngineering.Recovery

/-!
# Run status, reconciliation, disposition and promotion

The operator's view of a durable run, the reconciliation of an ambiguous claim
that is bound to an inspected state, and the recording of what became of a work
product. None of them invokes a worker.

What a promotion does to git and to the pull-request host is one call here.

## Main definitions

* `RunStatus`, `RunControl.status`, `RunControl.reconcile`
* `WorkProductDispositionService.apply`
* `SoftwareEngineeringPromotionService.promote`
-/

set_option autoImplicit false

namespace Velox

/-- Safe derived lifecycle phase of one durable run. -/
inductive RunPhase
  | registered
  | routeRejected
  | awaitingApproval
  | approved
  | claimed
  | runningOrAmbiguous
  | abandoned
  | rejected
  | succeeded
  | failed
  | skipped
  | kept
  | discarded
  | promoted
  deriving DecidableEq

/-- Operator-controlled reconciliation choices. -/
inductive ClaimReconciliation
  | release
  | abandon
  deriving DecidableEq

/-- Whether bounded work-product inspection was available. -/
inductive WorkProductInspectionStatus
  | notApplicable
  | available
  | unavailable
  deriving DecidableEq

/-- Safe bounded work-product summary. -/
structure WorkProductSummary where
  status : WorkProductInspectionStatus
  dirty : Option Bool := none
  changedFilesCount : Option ℕ := none
  untrackedFilesCount : Option ℕ := none
  canonicalClean : Option Bool := none
  canonicalUnchanged : Option Bool := none
  deriving DecidableEq

/-- Provider-neutral public status of one durable action. -/
structure RunStatus where
  actionId : UUID
  target : String
  phase : RunPhase
  approvalStatus : Option ApprovalStatus
  claimed : Bool
  workerStarted : Bool
  executionStatus : Option String
  externalExecutionPerformed : Option Bool
  disposition : Option WorkProductDisposition
  claimResolution : Option ClaimResolution
  promoted : Bool
  pullRequestNumber : Option Int
  pullRequestUrl : Option String
  promotionBaseBranch : Option String
  promotionHeadBranch : Option String
  reconciliationOptions : List ClaimReconciliation
  retriable : Bool
  stateToken : String
  workProduct : WorkProductSummary
  deriving DecidableEq

namespace RunControl

/-- `SoftwareEngineeringRunControlStateError`. -/
def stateError (message : String) : Raised := ⟨.softwareEngineeringRunControlStateError, message⟩

/-- `SoftwareEngineeringRunControlNotFoundError`. -/
def notFoundError : Raised :=
  ⟨.softwareEngineeringRunControlNotFoundError, "software engineering action was not found"⟩

/-- `_get`. -/
def getState (actionId : UUID) : Task RunState := do
  let state ← onRunStateError (Repository.get actionId)
    (stateError "software engineering durable state is unavailable")
  match state with
  | none => throw notFoundError
  | some state =>
    Proc.ofExcept (.raiseIf (¬IsCanonicalState state) notFoundError)
    return state

/-- The text of a claim resolution. -/
def resolutionText : ClaimResolution → String
  | .releasedBeforeStart => "released_before_start"
  | .abandonedAfterStart => "abandoned_after_start"

/-- `_state_token`. -/
def stateToken [PyStd] (state : RunState) : Except Raised String :=
  match state.updatedAt with
  | none => .error (stateError "software engineering run has no durable state version")
  | some updatedAt => .ok <| PyStd.sha256Hexdigest <| "|".intercalate [
      UUID.str state.actionId,
      updatedAt.isoformat,
      (state.claimId.map UUID.str).getD "",
      (state.executionStartedAt.map DateTime.isoformat).getD "",
      state.executionStatus.getD "",
      (state.claimResolution.map resolutionText).getD ""]

/-- `_phase`. -/
def phase (state : RunState) : RunPhase :=
  if state.promotionFinishedAt.isSome then .promoted
  else if state.dispositionSucceeded = some true ∧ state.disposition = some .keep then .kept
  else if state.dispositionSucceeded = some true ∧ state.disposition = some .discard then .discarded
  else if state.executionStatus = some "succeeded" then .succeeded
  else if state.executionStatus = some "failed" then .failed
  else if state.executionStatus = some "skipped" then .skipped
  else if state.claimResolution = some .abandonedAfterStart then .abandoned
  else if state.claimId.isSome ∧ state.executionStartedAt.isSome then .runningOrAmbiguous
  else if state.claimId.isSome then .claimed
  else match state.approvalStatus with
    | some .rejected => .rejected
    | some .approved => .approved
    | some .awaitingApproval => .awaitingApproval
    | none => if state.delegationStatus = some "route_rejected" then .routeRejected else .registered

/-- `_reconciliation_options`. -/
def reconciliationOptions (state : RunState) : List ClaimReconciliation :=
  if state.executionStatus.isSome ∨ state.claimId.isNone then []
  else if state.claimResolution = some .abandonedAfterStart then []
  else if state.executionStartedAt.isNone then [.release]
  else [.abandon]

/-- Whether the status calls a run retriable. -/
def retriable (state : RunState) : Bool :=
  state.approvalStatus = some .approved ∧ state.claimId = none ∧ state.executionStatus = none ∧
    state.claimResolution ≠ some .abandonedAfterStart

/-- `_inspect_work_product`. -/
def inspectWorkProduct (inspector : Bool) (actionId : UUID) : Task WorkProductSummary :=
  if inspector then
    tryCatch
      (do
        let review ← reviewWorkProduct actionId
        return {
          status := .available
          dirty := some review.dirty
          changedFilesCount := some review.changedFiles.length
          untrackedFilesCount := some review.untrackedFiles.length
          canonicalClean := some review.canonicalClean
          canonicalUnchanged := some review.canonicalUnchanged })
      fun error =>
        if error.kind = .workProductIdentityError then return { status := .unavailable }
        else throw error
  else return { status := .unavailable }

/-- Whether a status looks at the work product. -/
def inspects (state : RunState) : Prop :=
  .abandon ∈ reconciliationOptions state ∨ state.claimResolution = some .abandonedAfterStart

instance (state : RunState) : Decidable (inspects state) := inferInstanceAs (Decidable (_ ∨ _))

/-- The status of a run, given its work product. -/
def statusOf (state : RunState) (stateToken : String) (workProduct : WorkProductSummary) :
    RunStatus where
  actionId := state.actionId
  target := state.target
  phase := phase state
  approvalStatus := state.approvalStatus
  claimed := state.claimId.isSome
  workerStarted := state.executionStartedAt.isSome
  executionStatus := state.executionStatus
  externalExecutionPerformed := state.externalExecutionPerformed
  disposition := state.disposition
  claimResolution := state.claimResolution
  promoted := state.promotionFinishedAt.isSome
  pullRequestNumber := state.pullRequestNumber
  pullRequestUrl := state.pullRequestUrl
  promotionBaseBranch := state.promotionBaseBranch
  promotionHeadBranch := state.promotionHeadBranch
  reconciliationOptions := reconciliationOptions state
  retriable := retriable state
  stateToken
  workProduct

variable [PyStd]

/-- `_status_from_state`. -/
def statusFromState (inspector : Bool) (state : RunState) : Task RunStatus := do
  let workProduct ←
    if inspects state then inspectWorkProduct inspector state.actionId
    else pure { status := .notApplicable }
  let token ← Proc.ofExcept (stateToken state)
  return statusOf state token workProduct

/-- Safe durable status, inspecting the work product only when relevant. -/
def status (inspector : Bool) (actionId : UUID) : Task RunStatus := do
  let state ← getState actionId
  statusFromState inspector state

/-- `_require_releasable`. -/
def requireReleasable (state : RunState) : Except Raised Unit :=
  .raiseIf (state.claimId = none ∨ state.executionStartedAt ≠ none ∨
      state.executionStatus ≠ none ∨ state.approvalStatus ≠ some .approved)
    (stateError "software engineering claim cannot be safely released")

/-- `_require_abandonable`. -/
def requireAbandonable (state : RunState) (acknowledged : Bool) : Except Raised Unit := do
  .raiseIf (¬acknowledged)
    (stateError "possible external execution side effects were not acknowledged")
  .raiseIf (state.claimId = none ∨ state.executionStartedAt = none ∨
      state.executionStatus ≠ none ∨ state.claimResolution = some .abandonedAfterStart)
    (stateError "software engineering claim cannot be abandoned")

/-- `_inspect_for_abandon`: an unverifiable work product is itself a result. -/
def inspectForAbandon (inspector : Bool) (actionId : UUID) : Task Unit :=
  if inspector then
    tryCatch (do let _ ← reviewWorkProduct actionId) fun error =>
      if error.kind = .workProductIdentityError then return () else throw error
  else throw (stateError "software engineering work-product inspection is unavailable")

/-- The update of the row that a reconciliation makes, once its checks passed. -/
def resolve (inspector : Bool) (actionId : UUID) (resolution : ClaimReconciliation)
    (acknowledged : Bool) (state : RunState) (updatedAt now : DateTime) : Task RunState :=
  match resolution with
  | .release => do
    Proc.ofExcept (requireReleasable state)
    Repository.releaseUnstartedClaim actionId updatedAt now
  | .abandon => do
    Proc.ofExcept (requireAbandonable state acknowledged)
    inspectForAbandon inspector actionId
    Repository.abandonStartedClaim actionId updatedAt now

/-- Apply one evidence-gated reconciliation. -/
def reconcile (inspector : Bool) (actionId : UUID) (resolution : ClaimReconciliation)
    (token : String) (acknowledged : Bool) : Task RunStatus := do
  let state ← getState actionId
  let current ← Proc.ofExcept (stateToken state)
  Proc.ofExcept (.raiseIf (current ≠ token)
    (stateError "software engineering run state changed since status inspection"))
  match state.updatedAt with
  | none => throw (stateError "software engineering run has no durable state version")
  | some updatedAt =>
    let now ← utcnow
    let updated ← onRunStateError
      (resolve inspector actionId resolution acknowledged state updatedAt now)
      (stateError "software engineering claim reconciliation failed closed")
    statusFromState inspector updated

end RunControl

/-! ### Disposition -/

namespace WorkProductDispositionService

/-- `SoftwareEngineeringDispositionStateError`. -/
def stateError (message : String) : Raised := ⟨.softwareEngineeringDispositionStateError, message⟩

/-- The execution statuses after which a work product may be disposed of. -/
def terminalExecutionStatuses : List String := ["succeeded", "failed", "skipped"]

/-- Apply one exact disposition after durable route and state verification. -/
def apply (workProducts : Bool) (actionId : UUID) (disposition : WorkProductDisposition) :
    Task WorkProductDispositionResult := do
  let state ← Repository.get actionId
  match state with
  | none =>
    throw ⟨.softwareEngineeringDispositionNotFoundError, "software engineering action was not found"⟩
  | some state =>
    Proc.ofExcept (.raiseIf (¬IsCanonicalState state)
      ⟨.softwareEngineeringDispositionRouteError,
        "action was not executed through the software engineering route"⟩)
    Proc.ofExcept (.raiseIf
      ((¬∃ status ∈ state.executionStatus, status ∈ terminalExecutionStatuses) ∨
        state.executionFinishedAt = none)
      (stateError "software engineering action has not finished execution"))
    Proc.ofExcept (.raiseIf (¬workProducts)
      (stateError "software engineering work-product service is unavailable"))
    let result ← tryCatch (disposeWorkProduct actionId disposition) fun error =>
      if error.kind = .workProductIdentityError then
        throw (stateError "software engineering work product is unavailable or unverifiable")
      else throw error
    if result.succeeded then
      let _ ← Repository.recordDisposition result
      return result
    else return result

end WorkProductDispositionService

/-! ### Promotion -/

namespace SoftwareEngineeringPromotionService

/-- `SoftwareEngineeringPromotionStateError`. -/
def stateError (message : String) : Raised := ⟨.softwareEngineeringPromotionStateError, message⟩

/-- What a promotion service is configured with. -/
structure Configuration where
  enabled : Bool
  available : Bool
  baseBranch : String
  /-- `workspace.expected_worktree(action_id).branch`. -/
  expectedBranch : UUID → String

/-- `_verify_action`. -/
def verifyAction (state : RunState) : Except Raised Unit := do
  .raiseIf (¬IsCanonicalState state)
    (stateError "software engineering durable route evidence is invalid")
  .raiseIf (state.executionStatus ≠ some "succeeded" ∨ state.executionFinishedAt = none)
    (stateError "software engineering action did not complete successfully")
  .raiseIf (state.disposition ≠ some .keep ∨ state.dispositionSucceeded ≠ some true ∨
      state.worktreePresent ≠ some true ∨ state.branchPresent ≠ some true ∨
      state.canonicalUnchanged ≠ some true)
    (stateError "work product has not been explicitly kept")

/-- Some promotion field of a row is set. -/
def HasPromotion (state : RunState) : Prop :=
  state.promotionCommitSha.isSome ∨ state.pullRequestNumber.isSome ∨
    state.pullRequestUrl.isSome ∨ state.promotionBaseBranch.isSome ∨
    state.promotionHeadBranch.isSome ∨ state.promotionFinishedAt.isSome

instance (state : RunState) : Decidable (HasPromotion state) := inferInstanceAs (Decidable (_ ∨ _))

/-- The promotion a row already records. -/
def recordedPromotion (configuration : Configuration) (actionId : UUID) (state : RunState) :
    Except Raised PromotionPublication := do
  match state.promotionCommitSha, state.pullRequestNumber, state.pullRequestUrl,
    state.promotionBaseBranch, state.promotionHeadBranch, state.promotionFinishedAt with
  | some commitSha, some number, some url, some baseBranch, some headBranch, some _ =>
    .raiseIf (baseBranch ≠ configuration.baseBranch ∨
        headBranch ≠ configuration.expectedBranch actionId)
      (stateError "durable promotion identity does not match trusted branches")
    return { commitSha, number, url, baseBranch, headBranch, created := false }
  | _, _, _, _, _, _ => throw (stateError "durable promotion state is incomplete")

/-- Promote one explicitly kept work product, or return the promotion already
recorded. -/
def promote (configuration : Configuration) (actionId : UUID) (title body : String) :
    Task PromotionPublication := do
  Proc.ofExcept (.raiseIf (¬configuration.enabled)
    (stateError "software engineering promotion is disabled"))
  let state ← Repository.get actionId
  match state with
  | none =>
    throw ⟨.softwareEngineeringPromotionNotFoundError, "software engineering action was not found"⟩
  | some state =>
    Proc.ofExcept (verifyAction state)
    Proc.ofExcept (.raiseIf (¬configuration.available)
      (stateError "software engineering promotion is unavailable"))
    if HasPromotion state then
      Proc.ofExcept (recordedPromotion configuration actionId state)
    else
      let publication ← publishPromotion actionId title body
      let finishedAt ← utcnow
      let _ ← Repository.recordPromotion {
        actionId
        commitSha := publication.commitSha
        pullRequestNumber := publication.number
        pullRequestUrl := publication.url
        baseBranch := publication.baseBranch
        headBranch := publication.headBranch
        finishedAt }
      return publication

end SoftwareEngineeringPromotionService

end Velox
