import Velox.SoftwareEngineering.Repository
import Velox.SoftwareEngineering.RunStatements

/-!
# The SQLite run repository

The durable implementation of the run repository, transaction by transaction. Most
operations read the row in one transaction, check it, write it in another and read it
again in a third; claiming and reconciling check the row in the transaction that writes.

As in the process-local implementation, what an operation reads off the clock and the
claim id it draws are arguments.

## Main definitions

* `RunWrite.assignments`, `RunWrite.conditions` — the `UPDATE` of each operation
* `SqliteRunRepository.registerAction` and one definition for each other operation
* `SqliteRunRepository.implement` — the program behind each call of the Role
-/

set_option autoImplicit false

namespace Velox

/-! ### The columns an operation writes -/

/-- A column with its new value, if there is one. -/
def assignedIf {α : Type} (column : String) (write : α → SqlValue) (value : Option α) :
    List (String × SqlValue) :=
  (value.map fun a => (column, write a)).toList

/-- What `INSERT` is given for a new row. -/
def Registration.inserted (registration : Registration) (objective : Option String)
    (now : DateTime) : List (String × SqlValue) := [
  ("action_id", .ofUUID registration.actionId),
  ("executor_role", .text registration.executorRole),
  ("capability", .text registration.capability),
  ("target", .text registration.target),
  ("delegation_status", .ofOption .text registration.delegationStatus),
  ("pending_objective", .ofOption .text objective),
  ("approval_status", .ofOption (fun status => .text status.value) registration.approvalStatus),
  ("created_at", .ofDateTime now),
  ("updated_at", .ofDateTime now)]

namespace RunWrite

/-- The assignments of an operation, the row having been read with the given pending
objective. -/
def assignments : RunWrite → Option String → List (String × SqlValue)
  | registerAction now registration, pendingObjective =>
    ("updated_at", .ofDateTime now) ::
      assignedIf "delegation_status" .text registration.delegationStatus ++
      assignedIf "pending_objective" .text
        (if pendingObjective = none then registration.objective.map Python.strip else none) ++
      assignedIf "approval_status" (fun status => .text status.value) registration.approvalStatus
  | recordApproval now _ objective approvedAt, _ => [
    ("pending_objective", .text (Python.strip objective)),
    ("approval_status", .text ApprovalStatus.approved.value),
    ("approved_at", .ofDateTime approvedAt),
    ("updated_at", .ofDateTime now)]
  | recordRejection now _ rejectedAt, _ => [
    ("pending_objective", .null),
    ("approval_status", .text ApprovalStatus.rejected.value),
    ("rejected_at", .ofDateTime rejectedAt),
    ("updated_at", .ofDateTime now)]
  | recordExecutionStarted now _ startedAt, _ => [
    ("execution_started_at", .ofDateTime startedAt),
    ("updated_at", .ofDateTime now)]
  | releaseUnstartedClaim _ _ reconciledAt, _ => [
    ("claim_id", .null),
    ("claimed_at", .null),
    ("claim_resolution", .text ClaimResolution.releasedBeforeStart.value),
    ("claim_reconciled_at", .ofDateTime reconciledAt),
    ("updated_at", .ofDateTime reconciledAt)]
  | abandonStartedClaim _ _ reconciledAt, _ => [
    ("pending_objective", .null),
    ("claim_resolution", .text ClaimResolution.abandonedAfterStart.value),
    ("claim_reconciled_at", .ofDateTime reconciledAt),
    ("updated_at", .ofDateTime reconciledAt)]
  | recordExecution now _ status finishedAt external, _ => [
    ("pending_objective", .null),
    ("execution_status", .text status),
    ("execution_finished_at", .ofDateTime finishedAt),
    ("external_execution_performed", .ofBool external),
    ("updated_at", .ofDateTime now)]
  | recordDisposition now result, _ => [
    ("disposition", .text result.disposition.value),
    ("disposition_succeeded", .ofBool result.succeeded),
    ("worktree_present", .ofBool result.worktreePresent),
    ("branch_present", .ofBool result.branchPresent),
    ("canonical_unchanged", .ofBool result.canonicalUnchanged),
    ("updated_at", .ofDateTime now)]
  | recordPromotion now promotion, _ => [
    ("promotion_commit_sha", .text promotion.commitSha),
    ("pull_request_number", .integer promotion.pullRequestNumber),
    ("pull_request_url", .text promotion.pullRequestUrl),
    ("promotion_base_branch", .text promotion.baseBranch),
    ("promotion_head_branch", .text promotion.headBranch),
    ("promotion_finished_at", .ofDateTime promotion.finishedAt),
    ("updated_at", .ofDateTime now)]

/-- The conditions an operation puts on the row it writes. Only reconciliation has some
besides the identity of the row. -/
def conditions : RunWrite → List SqlCondition
  | releaseUnstartedClaim actionId expectedUpdatedAt _ => [
    .isAction actionId,
    .equals "approval_status" (.text ApprovalStatus.approved.value),
    .isNotNull "claim_id",
    .isNull "execution_started_at",
    .isNull "execution_status",
    .equals "updated_at" (.ofDateTime expectedUpdatedAt)]
  | abandonStartedClaim actionId expectedUpdatedAt _ => [
    .isAction actionId,
    .isNotNull "claim_id",
    .isNotNull "execution_started_at",
    .isNull "execution_status",
    .equals "updated_at" (.ofDateTime expectedUpdatedAt)]
  | write => [.isAction write.actionId]

/-- What is raised where an operation finds no row to write. -/
def unchanged : RunWrite → String
  | releaseUnstartedClaim .. => "software engineering unstarted claim could not be released"
  | abandonStartedClaim .. => "software engineering started claim could not be abandoned"
  | _ => "software engineering run state does not exist"

/-- What is raised where the database fails an operation. -/
def unavailable : RunWrite → String
  | releaseUnstartedClaim .. => "software engineering claim release could not be persisted"
  | abandonStartedClaim .. => "software engineering claim abandonment could not be persisted"
  | _ => "software engineering state could not be updated"

/-- The transaction that writes. -/
def transaction (write : RunWrite) (pendingObjective : Option String) : RunTransaction :=
  .update (write.assignments pendingObjective) write.conditions write.unchanged

end RunWrite

/-! ### The operations -/

/-- A method of the SQLite repository. -/
abbrev SqliteTask (α : Type) := Proc RunTransactions Unit Raised α

/-- What `except sqlite3.Error` catches. -/
def IsSqliteError (e : Raised) : Prop :=
  e.kind = .exception "sqlite3.Error" ∨ e.kind = .exception "sqlite3.IntegrityError"

instance (e : Raised) : Decidable (IsSqliteError e) := inferInstanceAs (Decidable (_ ∨ _))

/-- `except sqlite3.Error: raise SoftwareEngineeringRunStateError(message)`. -/
def databaseError (message : String) (e : Raised) : Raised :=
  if IsSqliteError e then runStateError message else e

namespace SqliteRunRepository

/-- Make a transaction; what the database raises is replaced. -/
def transaction (t : RunTransaction) (message : String) : SqliteTask t.Value :=
  tryCatch (Proc.request RunTransactions t id) fun e => throw (databaseError message e)

section Operations

variable [PyStd] [PyIsoformat]

/-- `_state_from_row(row) if row is not None else None`. -/
def optionalState : Option SqlRow → Except Raised (Option RunState)
  | none => .ok none
  | some row => (stateFromRow row).map some

/-- `get`. -/
def get (actionId : UUID) : SqliteTask (Option RunState) := do
  let row ← transaction (.get actionId) "software engineering state could not be read"
  Proc.ofExcept (optionalState row)

/-- `list_pending_approval`. -/
def listPendingApproval : SqliteTask (List RunState) := do
  let rows ← transaction .listPendingApproval
    "software engineering pending approvals could not be read"
  Proc.ofExcept (rows.mapM stateFromRow)

/-- `_require`. -/
def require (actionId : UUID) : SqliteTask RunState := do
  let current ← get actionId
  Proc.ofExcept (requireState current)

/-- The `UPDATE` of an operation. Where it has no conditions of its own this is `_update`. -/
def update (write : RunWrite) (pendingObjective : Option String) : SqliteTask Unit :=
  transaction (write.transaction pendingObjective) write.unavailable

/-- What is checked of a row that is there already. -/
def requireSame (registration : Registration) (objective : Option String) (current : RunState) :
    Except Raised Unit := do
  requireSameIdentity current registration.target registration.executorRole
    registration.capability
  requireCompatibleObjective current objective

/-- The `INSERT` of `register_action`. A row that came into being since is checked. -/
def insert (registration : Registration) (objective : Option String) (now : DateTime) :
    SqliteTask Unit :=
  tryCatch (Proc.request RunTransactions (.insert (registration.inserted objective now)) id)
    fun e => do
      let unregistered := "software engineering action identity could not be registered"
      if e.kind = .exception "sqlite3.IntegrityError" then
        match ← get registration.actionId with
        | none => throw (runStateError unregistered)
        | some current => Proc.ofExcept (requireSame registration objective current)
      else throw (databaseError unregistered e)

/-- `register_action`. -/
def registerAction (now : DateTime) (registration : Registration) : SqliteTask RunState := do
  let objective ← Proc.ofExcept (normalizeObjective registration.objective)
  match ← get registration.actionId with
  | some current => do
    Proc.ofExcept (requireSame registration objective current)
    update (.registerAction now registration) current.pendingObjective
    require registration.actionId
  | none => do
    insert registration objective now
    require registration.actionId

/-- An operation that reads the row, checks it, writes it and reads it again. -/
def checked (write : RunWrite) (check : RunState → Except Raised Unit) : SqliteTask RunState := do
  let current ← require write.actionId
  Proc.ofExcept (check current)
  update write current.pendingObjective
  require write.actionId

/-- `record_approval`. -/
def recordApproval (now : DateTime) (actionId : UUID) (objective : String)
    (approvedAt : DateTime) : SqliteTask RunState :=
  checked (.recordApproval now actionId objective approvedAt) fun current => do
    let normalized ← normalizeRequiredObjective (some objective)
    requireCompatibleObjective current (some normalized)
    .raiseIf (current.approvalStatus = some .rejected)
      (runStateError "rejected software engineering action cannot be approved")

/-- `record_rejection`. -/
def recordRejection (now : DateTime) (actionId : UUID) (rejectedAt : DateTime) :
    SqliteTask RunState :=
  checked (.recordRejection now actionId rejectedAt) fun current =>
    .raiseIf (current.claimId ≠ none ∨ current.executionStatus ≠ none)
      (runStateError "claimed or executed software engineering action cannot be rejected")

/-- `record_execution_started`. -/
def recordExecutionStarted (now : DateTime) (actionId : UUID) (startedAt : DateTime) :
    SqliteTask RunState :=
  checked (.recordExecutionStarted now actionId startedAt) fun current => do
    .raiseIf (current.claimId = none)
      (runStateError "software engineering execution has no durable claim")
    .raiseIf (current.executionStatus ≠ none)
      (runStateError "software engineering action already has an execution result")

/-- `record_execution`. -/
def recordExecution (now : DateTime) (actionId : UUID) (status : String) (finishedAt : DateTime)
    (externalExecutionPerformed : Bool) : SqliteTask RunState :=
  checked (.recordExecution now actionId status finishedAt externalExecutionPerformed)
    fun _ => .ok ()

/-- `record_disposition`. -/
def recordDisposition (now : DateTime) (result : WorkProductDispositionResult) :
    SqliteTask RunState :=
  checked (.recordDisposition now result) fun _ => .ok ()

/-- `record_promotion`. -/
def recordPromotion (now : DateTime) (promotion : PromotionRecord) : SqliteTask RunState :=
  checked (.recordPromotion now promotion) fun _ => .ok ()

/-- An operation whose checks are the conditions of its `UPDATE`. -/
def guarded (write : RunWrite) : SqliteTask RunState := do
  -- no row is read before, and what is written depends on none
  update write none
  require write.actionId

/-- `release_unstarted_claim`. -/
def releaseUnstartedClaim (actionId : UUID) (expectedUpdatedAt reconciledAt : DateTime) :
    SqliteTask RunState :=
  guarded (.releaseUnstartedClaim actionId expectedUpdatedAt reconciledAt)

/-- `abandon_started_claim`. -/
def abandonStartedClaim (actionId : UUID) (expectedUpdatedAt reconciledAt : DateTime) :
    SqliteTask RunState :=
  guarded (.abandonStartedClaim actionId expectedUpdatedAt reconciledAt)

/-- `claim_approved`. -/
def claimApproved (claimedAt : DateTime) (claimId actionId : UUID) : SqliteTask ActionClaim := do
  let (current, objective) ← transaction (.claim claimedAt claimId actionId)
    "software engineering execution claim could not be persisted"
  return { actionId, claimId, target := current.target, objective, claimedAt }

/-- The operation behind a write. -/
def write : RunWrite → SqliteTask RunState
  | .registerAction now registration => registerAction now registration
  | .recordApproval now actionId objective approvedAt =>
    recordApproval now actionId objective approvedAt
  | .recordRejection now actionId rejectedAt => recordRejection now actionId rejectedAt
  | .recordExecutionStarted now actionId startedAt => recordExecutionStarted now actionId startedAt
  | .releaseUnstartedClaim actionId expectedUpdatedAt reconciledAt =>
    releaseUnstartedClaim actionId expectedUpdatedAt reconciledAt
  | .abandonStartedClaim actionId expectedUpdatedAt reconciledAt =>
    abandonStartedClaim actionId expectedUpdatedAt reconciledAt
  | .recordExecution now actionId status finishedAt external =>
    recordExecution now actionId status finishedAt external
  | .recordDisposition now result => recordDisposition now result
  | .recordPromotion now promotion => recordPromotion now promotion

/-- The program behind each call of the Role. -/
def implement : (call : RunCall) → SqliteTask call.Value
  | .get actionId => get actionId
  | .listPendingApproval => listPendingApproval
  | .claimApproved claimedAt claimId actionId => claimApproved claimedAt claimId actionId
  | .write w => write w

end Operations

end SqliteRunRepository

end Velox
