import Velox.Core.Action
import Velox.Lib.Guard

/-!
# Durable run state

The normalized durable evidence for one Software Engineering action, and what
each operation of the run repository does to the row of its action. Every
timestamp an operation reads off the clock, and the claim id it draws, is an
argument here.

## Main definitions

* `RunState`, `ActionClaim` — a row, and a claim on it
* `RunWrite` — the operations that change a row, with their arguments
* `claimApproved`, `RunWrite.apply` — the row after an operation, or the reason
  it is refused

## Main results

* `claimApproved_eq_ok_iff` and one `_eq_ok_iff` for each other operation — when
  it succeeds and what the row is then
* `RunWrite.actionId_of_apply` — no operation changes the identity of a row
-/

set_option autoImplicit false

namespace Velox

/-- Durable approval state of one recoverable action. -/
inductive ApprovalStatus
  | awaitingApproval
  | approved
  | rejected
  deriving DecidableEq

/-- Durable operator reconciliation outcome for one execution claim. -/
inductive ClaimResolution
  | releasedBeforeStart
  | abandonedAfterStart
  deriving DecidableEq

/-- What an operator decides about a work product. -/
inductive WorkProductDisposition
  | keep
  | discard
  deriving DecidableEq

/-- What a disposition did and what, if anything, still remains. -/
structure WorkProductDispositionResult where
  actionId : UUID
  disposition : WorkProductDisposition
  worktreePresent : Bool
  branchPresent : Bool
  canonicalUnchanged : Bool
  deriving DecidableEq

/-- The resources a discard failed to remove. -/
def WorkProductDispositionResult.remaining (result : WorkProductDispositionResult) : List String :=
  match result.disposition with
  | .keep => []
  | .discard =>
    (if result.worktreePresent then ["worktree"] else []) ++
      if result.branchPresent then ["branch"] else []

/-- Whether nothing remains and the canonical checkout is unchanged. -/
def WorkProductDispositionResult.succeeded (result : WorkProductDispositionResult) : Bool :=
  result.remaining.isEmpty && result.canonicalUnchanged

/-- One durable, non-expiring claim for exact execution. -/
structure ActionClaim where
  actionId : UUID
  claimId : UUID
  target : String
  objective : String
  claimedAt : DateTime
  deriving DecidableEq

/-- Normalized durable evidence for one Software Engineering action. -/
structure RunState where
  actionId : UUID
  executorRole : String
  capability : String
  target : String
  delegationStatus : Option String := none
  pendingObjective : Option String := none
  approvalStatus : Option ApprovalStatus := none
  approvedAt : Option DateTime := none
  rejectedAt : Option DateTime := none
  claimId : Option UUID := none
  claimedAt : Option DateTime := none
  executionStartedAt : Option DateTime := none
  claimResolution : Option ClaimResolution := none
  claimReconciledAt : Option DateTime := none
  executionStatus : Option String := none
  executionFinishedAt : Option DateTime := none
  externalExecutionPerformed : Option Bool := none
  disposition : Option WorkProductDisposition := none
  dispositionSucceeded : Option Bool := none
  worktreePresent : Option Bool := none
  branchPresent : Option Bool := none
  canonicalUnchanged : Option Bool := none
  promotionCommitSha : Option String := none
  pullRequestNumber : Option Int := none
  pullRequestUrl : Option String := none
  promotionBaseBranch : Option String := none
  promotionHeadBranch : Option String := none
  promotionFinishedAt : Option DateTime := none
  createdAt : Option DateTime := none
  updatedAt : Option DateTime := none
  deriving DecidableEq

/-- `SoftwareEngineeringRunStateError`. -/
def runStateError (message : String) : Raised := ⟨.softwareEngineeringRunStateError, message⟩

/-! ### Objectives and identities -/

/-- `_normalize_objective`: strip the text; a blank text is refused. -/
def normalizeObjective : Option String → Except Raised (Option String)
  | none => .ok none
  | some value =>
    if Python.strip value = "" then
      .error (runStateError "software engineering pending objective must not be blank")
    else .ok (some (Python.strip value))

/-- `_normalize_required_objective`. -/
def normalizeRequiredObjective (value : Option String) : Except Raised String := do
  match ← normalizeObjective value with
  | some normalized => return normalized
  | none => throw (runStateError "software engineering pending objective is unavailable")

/-- A pending objective and a new one differ. -/
def ObjectivesConflict (state : RunState) (objective : Option String) : Prop :=
  objective.isSome ∧ state.pendingObjective.isSome ∧ state.pendingObjective ≠ objective

instance (state : RunState) (objective : Option String) :
    Decidable (ObjectivesConflict state objective) := inferInstanceAs (Decidable (_ ∧ _))

/-- `_require_compatible_objective`. -/
def requireCompatibleObjective (state : RunState) (objective : Option String) :
    Except Raised Unit :=
  .raiseIf (ObjectivesConflict state objective)
    (runStateError "software engineering pending objective conflicts with durable state")

/-- A row belongs to a given target, role and capability. -/
def SameIdentity (state : RunState) (target executorRole capability : String) : Prop :=
  state.target = target ∧ state.executorRole = executorRole ∧ state.capability = capability

instance (state : RunState) (target executorRole capability : String) :
    Decidable (SameIdentity state target executorRole capability) :=
  inferInstanceAs (Decidable (_ ∧ _))

/-- `_require_same_identity`. -/
def requireSameIdentity (state : RunState) (target executorRole capability : String) :
    Except Raised Unit :=
  .raiseIf (¬SameIdentity state target executorRole capability)
    (runStateError "software engineering Action identity conflicts with durable state")

theorem normalizeObjective_eq_ok_iff {value normalized : Option String} :
    normalizeObjective value = .ok normalized ↔
      normalized = value.map Python.strip ∧ value.map Python.strip ≠ some "" := by
  rcases value with _ | value
  · simp [normalizeObjective, eq_comm]
  · by_cases h : Python.strip value = "" <;> simp [normalizeObjective, h, eq_comm]

theorem normalizeRequiredObjective_eq_ok_iff {value : Option String} {normalized : String} :
    normalizeRequiredObjective value = .ok normalized ↔
      value.map Python.strip = some normalized ∧ normalized ≠ "" := by
  rcases value with _ | value
  · simp [normalizeRequiredObjective, normalizeObjective]
  · by_cases h : Python.strip value = ""
    · simp only [normalizeRequiredObjective, normalizeObjective, h, if_true, Except.error_bind,
        reduceCtorEq, Option.map_some, Option.some.injEq, false_iff, not_and, not_not]
      exact Eq.symm
    · simp only [normalizeRequiredObjective, normalizeObjective, h, if_false, Except.ok_bind,
        Except.pure_eq_ok, Except.ok.injEq, Option.map_some, Option.some.injEq]
      exact ⟨fun heq => ⟨heq, heq ▸ h⟩, And.left⟩

/-! ### The operations on a row

Each operation is given the row of its action, or `none` when there is none. -/

/-- `_require`. -/
def requireState : Option RunState → Except Raised RunState
  | some state => .ok state
  | none => .error (runStateError "software engineering run state does not exist")

@[simp] theorem requireState_eq_ok_iff {current : Option RunState} {state : RunState} :
    requireState current = .ok state ↔ current = some state := by
  cases current <;> simp [requireState]

theorem requireState_bind_pure_eq_ok_iff {current : Option RunState} {state : RunState}
    {f : RunState → RunState} :
    (requireState current >>= fun row => pure (f row)) = .ok state ↔
      ∃ row, current = some row ∧ state = f row := by
  cases current <;> simp [requireState, eq_comm]

/-- The arguments of `register_action`. -/
structure Registration where
  actionId : UUID
  target : String
  executorRole : String
  capability : String
  delegationStatus : Option String := none
  objective : Option String := none
  approvalStatus : Option ApprovalStatus := none
  deriving DecidableEq

/-- The row a registration creates. -/
def Registration.newState (registration : Registration) (objective : Option String)
    (now : DateTime) : RunState where
  actionId := registration.actionId
  executorRole := registration.executorRole
  capability := registration.capability
  target := registration.target
  delegationStatus := registration.delegationStatus
  pendingObjective := objective
  approvalStatus := registration.approvalStatus
  createdAt := now
  updatedAt := now

/-- What a registration adds to a row that is already there. -/
def Registration.merge (registration : Registration) (objective : Option String)
    (now : DateTime) (current : RunState) : RunState :=
  { current with
    delegationStatus := registration.delegationStatus.or current.delegationStatus
    pendingObjective := current.pendingObjective.or objective
    approvalStatus := registration.approvalStatus.or current.approvalStatus
    updatedAt := some now }

/-- `register_action`. -/
def registerAction (now : DateTime) (registration : Registration) (current : Option RunState) :
    Except Raised RunState := do
  let objective ← normalizeObjective registration.objective
  match current with
  | some current =>
    requireSameIdentity current registration.target registration.executorRole
      registration.capability
    requireCompatibleObjective current objective
    return registration.merge objective now current
  | none => return registration.newState objective now

/-- A row whose update time is set. -/
def RunState.touched (state : RunState) (now : DateTime) : RunState :=
  { state with updatedAt := some now }

/-- A row that has been approved. -/
def RunState.approved (state : RunState) (objective : String) (approvedAt now : DateTime) :
    RunState :=
  { state with
    pendingObjective := some objective
    approvalStatus := some .approved
    approvedAt := some approvedAt
    updatedAt := some now }

/-- `record_approval`. -/
def recordApproval (now : DateTime) (objective : String) (approvedAt : DateTime)
    (current : Option RunState) : Except Raised RunState := do
  let current ← requireState current
  let normalized ← normalizeRequiredObjective (some objective)
  requireCompatibleObjective current (some normalized)
  .raiseIf (current.approvalStatus = some .rejected)
    (runStateError "rejected software engineering action cannot be approved")
  return current.approved normalized approvedAt now

/-- A row that has been rejected. -/
def RunState.rejected (state : RunState) (rejectedAt now : DateTime) : RunState :=
  { state with
    pendingObjective := none
    approvalStatus := some .rejected
    rejectedAt := some rejectedAt
    updatedAt := some now }

/-- `record_rejection`. -/
def recordRejection (now rejectedAt : DateTime) (current : Option RunState) :
    Except Raised RunState := do
  let current ← requireState current
  .raiseIf (current.claimId ≠ none ∨ current.executionStatus ≠ none)
    (runStateError "claimed or executed software engineering action cannot be rejected")
  return current.rejected rejectedAt now

/-- A row that has been claimed. -/
def RunState.claimed (state : RunState) (claimId : UUID) (claimedAt : DateTime) : RunState :=
  { state with
    claimId := some claimId
    claimedAt := some claimedAt
    claimResolution := none
    claimReconciledAt := none
    updatedAt := some claimedAt }

/-- `claim_approved`. -/
def claimApproved (claimedAt : DateTime) (claimId : UUID) (current : Option RunState) :
    Except Raised (ActionClaim × RunState) := do
  let current ← requireState current
  .raiseIf (current.approvalStatus ≠ some .approved)
    (runStateError "software engineering action is not durably approved")
  .raiseIf (current.executionStatus ≠ none)
    (runStateError "software engineering action already has an execution result")
  .raiseIf (current.claimId ≠ none)
    (runStateError "software engineering action already has a durable execution claim")
  let objective ← normalizeRequiredObjective current.pendingObjective
  return (
    { actionId := current.actionId, claimId, target := current.target, objective, claimedAt },
    current.claimed claimId claimedAt)

/-- A row whose execution has started. -/
def RunState.started (state : RunState) (startedAt now : DateTime) : RunState :=
  { state with executionStartedAt := some startedAt, updatedAt := some now }

/-- `record_execution_started`. -/
def recordExecutionStarted (now startedAt : DateTime) (current : Option RunState) :
    Except Raised RunState := do
  let current ← requireState current
  .raiseIf (current.claimId = none)
    (runStateError "software engineering execution has no durable claim")
  .raiseIf (current.executionStatus ≠ none)
    (runStateError "software engineering action already has an execution result")
  return current.started startedAt now

/-- A row whose claim has been released. -/
def RunState.released (state : RunState) (reconciledAt : DateTime) : RunState :=
  { state with
    claimId := none
    claimedAt := none
    claimResolution := some .releasedBeforeStart
    claimReconciledAt := some reconciledAt
    updatedAt := some reconciledAt }

/-- `release_unstarted_claim`. -/
def releaseUnstartedClaim (expectedUpdatedAt reconciledAt : DateTime) (current : Option RunState) :
    Except Raised RunState := do
  let current ← requireState current
  .raiseIf (current.updatedAt ≠ some expectedUpdatedAt)
    (runStateError "software engineering run state changed during reconciliation")
  .raiseIf (current.claimId = none)
    (runStateError "software engineering action has no durable execution claim")
  .raiseIf (current.executionStartedAt ≠ none)
    (runStateError "software engineering execution already started")
  .raiseIf (current.executionStatus ≠ none)
    (runStateError "software engineering action already has an execution result")
  return current.released reconciledAt

/-- A row whose claim has been abandoned. -/
def RunState.abandoned (state : RunState) (reconciledAt : DateTime) : RunState :=
  { state with
    pendingObjective := none
    claimResolution := some .abandonedAfterStart
    claimReconciledAt := some reconciledAt
    updatedAt := some reconciledAt }

/-- `abandon_started_claim`. -/
def abandonStartedClaim (expectedUpdatedAt reconciledAt : DateTime) (current : Option RunState) :
    Except Raised RunState := do
  let current ← requireState current
  .raiseIf (current.updatedAt ≠ some expectedUpdatedAt)
    (runStateError "software engineering run state changed during reconciliation")
  .raiseIf (current.claimId = none)
    (runStateError "software engineering action has no durable execution claim")
  .raiseIf (current.executionStartedAt = none)
    (runStateError "software engineering execution never started")
  .raiseIf (current.executionStatus ≠ none)
    (runStateError "software engineering action already has an execution result")
  return current.abandoned reconciledAt

/-- A row with an execution result. -/
def RunState.executed (state : RunState) (now : DateTime) (status : String) (finishedAt : DateTime)
    (externalExecutionPerformed : Bool) : RunState :=
  { state with
    pendingObjective := none
    executionStatus := some status
    executionFinishedAt := some finishedAt
    externalExecutionPerformed := some externalExecutionPerformed
    updatedAt := some now }

/-- `record_execution`. -/
def recordExecution (now : DateTime) (status : String) (finishedAt : DateTime)
    (externalExecutionPerformed : Bool) (current : Option RunState) : Except Raised RunState := do
  let current ← requireState current
  return current.executed now status finishedAt externalExecutionPerformed

/-- A row whose work product has been disposed of. -/
def RunState.disposed (state : RunState) (result : WorkProductDispositionResult) (now : DateTime) :
    RunState :=
  { state with
    disposition := some result.disposition
    dispositionSucceeded := some result.succeeded
    worktreePresent := some result.worktreePresent
    branchPresent := some result.branchPresent
    canonicalUnchanged := some result.canonicalUnchanged
    updatedAt := some now }

/-- `record_disposition`. -/
def recordDisposition (now : DateTime) (result : WorkProductDispositionResult)
    (current : Option RunState) : Except Raised RunState := do
  let current ← requireState current
  return current.disposed result now

/-- The arguments of `record_promotion`. -/
structure PromotionRecord where
  actionId : UUID
  commitSha : String
  pullRequestNumber : Int
  pullRequestUrl : String
  baseBranch : String
  headBranch : String
  finishedAt : DateTime
  deriving DecidableEq

/-- A row whose work product has been promoted. -/
def RunState.promoted (state : RunState) (promotion : PromotionRecord) (now : DateTime) : RunState :=
  { state with
    promotionCommitSha := some promotion.commitSha
    pullRequestNumber := some promotion.pullRequestNumber
    pullRequestUrl := some promotion.pullRequestUrl
    promotionBaseBranch := some promotion.baseBranch
    promotionHeadBranch := some promotion.headBranch
    promotionFinishedAt := some promotion.finishedAt
    updatedAt := some now }

/-- `record_promotion`. -/
def recordPromotion (now : DateTime) (promotion : PromotionRecord) (current : Option RunState) :
    Except Raised RunState := do
  let current ← requireState current
  return current.promoted promotion now

/-! ### When an operation succeeds -/

section Spec

variable {now t u : DateTime} {current : Option RunState} {state : RunState}

theorem registerAction_eq_ok_iff {registration : Registration} :
    registerAction now registration current = .ok state ↔
      registration.objective.map Python.strip ≠ some "" ∧
        ((current = none ∧
            state = registration.newState (registration.objective.map Python.strip) now) ∨
          ∃ row, current = some row ∧
            SameIdentity row registration.target registration.executorRole
              registration.capability ∧
            ¬ObjectivesConflict row (registration.objective.map Python.strip) ∧
            state = registration.merge (registration.objective.map Python.strip) now row) := by
  simp only [registerAction, Except.bind_eq_ok_iff, normalizeObjective_eq_ok_iff]
  constructor
  · rintro ⟨objective, ⟨rfl, hblank⟩, hrest⟩
    refine ⟨hblank, ?_⟩
    rcases current with _ | row
    · exact Or.inl ⟨rfl, (Except.ok.inj hrest).symm⟩
    · simp only [requireSameIdentity, requireCompatibleObjective, Except.bind_eq_ok_iff,
        Except.raiseIf_eq_ok_iff, not_not] at hrest
      obtain ⟨-, hid, -, hcompat, hstate⟩ := hrest
      exact Or.inr ⟨row, rfl, hid, hcompat, (Except.ok.inj hstate).symm⟩
  · rintro ⟨hblank, ⟨rfl, rfl⟩ | ⟨row, rfl, hid, hcompat, rfl⟩⟩
    · exact ⟨_, ⟨rfl, hblank⟩, rfl⟩
    · refine ⟨_, ⟨rfl, hblank⟩, ?_⟩
      simp [requireSameIdentity, requireCompatibleObjective, hid, hcompat]

theorem recordApproval_eq_ok_iff {objective : String} :
    recordApproval now objective t current = .ok state ↔
      ∃ row, current = some row ∧ Python.strip objective ≠ "" ∧
        ¬ObjectivesConflict row (some (Python.strip objective)) ∧
        row.approvalStatus ≠ some .rejected ∧
        state = row.approved (Python.strip objective) t now := by
  simp only [recordApproval, Except.bind_eq_ok_iff, requireState_eq_ok_iff,
    normalizeRequiredObjective_eq_ok_iff, Option.map_some, Option.some.injEq,
    requireCompatibleObjective, Except.raiseIf_eq_ok_iff]
  constructor
  · rintro ⟨row, rfl, _, ⟨rfl, hblank⟩, _, hcompat, _, hstatus, hstate⟩
    exact ⟨row, rfl, hblank, hcompat, hstatus, (Except.ok.inj hstate).symm⟩
  · rintro ⟨row, rfl, hblank, hcompat, hstatus, rfl⟩
    exact ⟨row, rfl, _, ⟨rfl, hblank⟩, (), hcompat, (), hstatus, rfl⟩

theorem recordRejection_eq_ok_iff :
    recordRejection now t current = .ok state ↔
      ∃ row, current = some row ∧ row.claimId = none ∧ row.executionStatus = none ∧
        state = row.rejected t now := by
  simp only [recordRejection, Except.bind_eq_ok_iff, requireState_eq_ok_iff,
    Except.raiseIf_eq_ok_iff, not_or, ne_eq, not_not]
  constructor
  · rintro ⟨row, rfl, _, ⟨hclaim, hexec⟩, hstate⟩
    exact ⟨row, rfl, hclaim, hexec, (Except.ok.inj hstate).symm⟩
  · rintro ⟨row, rfl, hclaim, hexec, rfl⟩
    exact ⟨row, rfl, (), ⟨hclaim, hexec⟩, rfl⟩

theorem claimApproved_eq_ok_iff {claimId : UUID} {claim : ActionClaim} :
    claimApproved now claimId current = .ok (claim, state) ↔
      ∃ row objective, current = some row ∧ row.approvalStatus = some .approved ∧
        row.executionStatus = none ∧ row.claimId = none ∧
        row.pendingObjective.map Python.strip = some objective ∧ objective ≠ "" ∧
        claim = { actionId := row.actionId, claimId, target := row.target, objective,
                  claimedAt := now } ∧
        state = row.claimed claimId now := by
  simp only [claimApproved, Except.bind_eq_ok_iff, requireState_eq_ok_iff,
    Except.raiseIf_eq_ok_iff, normalizeRequiredObjective_eq_ok_iff, ne_eq, not_not]
  constructor
  · rintro ⟨row, rfl, _, happroved, _, hexec, _, hclaim, objective, ⟨hobj, hblank⟩, hret⟩
    obtain ⟨hc, hs⟩ := Prod.mk.inj (Except.ok.inj hret)
    exact ⟨row, objective, rfl, happroved, hexec, hclaim, hobj, hblank, hc.symm, hs.symm⟩
  · rintro ⟨row, objective, rfl, happroved, hexec, hclaim, hobj, hblank, rfl, rfl⟩
    exact ⟨row, rfl, (), happroved, (), hexec, (), hclaim, objective, ⟨hobj, hblank⟩, rfl⟩

theorem recordExecutionStarted_eq_ok_iff :
    recordExecutionStarted now t current = .ok state ↔
      ∃ row, current = some row ∧ row.claimId ≠ none ∧ row.executionStatus = none ∧
        state = row.started t now := by
  simp only [recordExecutionStarted, Except.bind_eq_ok_iff, requireState_eq_ok_iff,
    Except.raiseIf_eq_ok_iff, ne_eq, not_not]
  constructor
  · rintro ⟨row, rfl, _, hclaim, _, hexec, hstate⟩
    exact ⟨row, rfl, hclaim, hexec, (Except.ok.inj hstate).symm⟩
  · rintro ⟨row, rfl, hclaim, hexec, rfl⟩
    exact ⟨row, rfl, (), hclaim, (), hexec, rfl⟩

theorem releaseUnstartedClaim_eq_ok_iff :
    releaseUnstartedClaim t u current = .ok state ↔
      ∃ row, current = some row ∧ row.updatedAt = some t ∧ row.claimId ≠ none ∧
        row.executionStartedAt = none ∧ row.executionStatus = none ∧
        state = row.released u := by
  simp only [releaseUnstartedClaim, Except.bind_eq_ok_iff, requireState_eq_ok_iff,
    Except.raiseIf_eq_ok_iff, ne_eq, not_not]
  constructor
  · rintro ⟨row, rfl, _, hupdated, _, hclaim, _, hstarted, _, hexec, hstate⟩
    exact ⟨row, rfl, hupdated, hclaim, hstarted, hexec, (Except.ok.inj hstate).symm⟩
  · rintro ⟨row, rfl, hupdated, hclaim, hstarted, hexec, rfl⟩
    exact ⟨row, rfl, (), hupdated, (), hclaim, (), hstarted, (), hexec, rfl⟩

theorem abandonStartedClaim_eq_ok_iff :
    abandonStartedClaim t u current = .ok state ↔
      ∃ row, current = some row ∧ row.updatedAt = some t ∧ row.claimId ≠ none ∧
        row.executionStartedAt ≠ none ∧ row.executionStatus = none ∧
        state = row.abandoned u := by
  simp only [abandonStartedClaim, Except.bind_eq_ok_iff, requireState_eq_ok_iff,
    Except.raiseIf_eq_ok_iff, ne_eq, not_not]
  constructor
  · rintro ⟨row, rfl, _, hupdated, _, hclaim, _, hstarted, _, hexec, hstate⟩
    exact ⟨row, rfl, hupdated, hclaim, hstarted, hexec, (Except.ok.inj hstate).symm⟩
  · rintro ⟨row, rfl, hupdated, hclaim, hstarted, hexec, rfl⟩
    exact ⟨row, rfl, (), hupdated, (), hclaim, (), hstarted, (), hexec, rfl⟩

theorem recordExecution_eq_ok_iff {status : String} {external : Bool} :
    recordExecution now status t external current = .ok state ↔
      ∃ row, current = some row ∧ state = row.executed now status t external :=
  requireState_bind_pure_eq_ok_iff

theorem recordDisposition_eq_ok_iff {result : WorkProductDispositionResult} :
    recordDisposition now result current = .ok state ↔
      ∃ row, current = some row ∧ state = row.disposed result now :=
  requireState_bind_pure_eq_ok_iff

theorem recordPromotion_eq_ok_iff {promotion : PromotionRecord} :
    recordPromotion now promotion current = .ok state ↔
      ∃ row, current = some row ∧ state = row.promoted promotion now :=
  requireState_bind_pure_eq_ok_iff

end Spec

/-! ### Why an operation is refused

Every refusal is a `SoftwareEngineeringRunStateError`. -/

/-- The exceptions of the run repository. -/
abbrev IsRunStateError (e : Raised) : Prop := e.kind = .softwareEngineeringRunStateError

theorem normalizeObjective_raisesOnly (value : Option String) :
    (normalizeObjective value).RaisesOnly IsRunStateError := by
  rcases value with _ | value
  · simp [normalizeObjective]
  · by_cases h : Python.strip value = "" <;> simp [normalizeObjective, h, runStateError]

theorem normalizeRequiredObjective_raisesOnly (value : Option String) :
    (normalizeRequiredObjective value).RaisesOnly IsRunStateError := by
  refine Except.raisesOnly_bind.mpr ⟨normalizeObjective_raisesOnly value, fun objective _ => ?_⟩
  cases objective <;> simp [runStateError]

theorem requireState_raisesOnly (current : Option RunState) :
    (requireState current).RaisesOnly IsRunStateError := by
  cases current <;> simp [requireState, runStateError]

theorem claimApproved_raisesOnly (claimedAt : DateTime) (claimId : UUID)
    (current : Option RunState) :
    (claimApproved claimedAt claimId current).RaisesOnly IsRunStateError := by
  simp [claimApproved, requireState_raisesOnly, normalizeRequiredObjective_raisesOnly,
    runStateError]

/-! ### Operations as data -/

/-- The operations that answer with the row they leave behind. -/
inductive RunWrite
  | registerAction (now : DateTime) (registration : Registration)
  | recordApproval (now : DateTime) (actionId : UUID) (objective : String) (approvedAt : DateTime)
  | recordRejection (now : DateTime) (actionId : UUID) (rejectedAt : DateTime)
  | recordExecutionStarted (now : DateTime) (actionId : UUID) (startedAt : DateTime)
  | releaseUnstartedClaim (actionId : UUID) (expectedUpdatedAt reconciledAt : DateTime)
  | abandonStartedClaim (actionId : UUID) (expectedUpdatedAt reconciledAt : DateTime)
  | recordExecution (now : DateTime) (actionId : UUID) (status : String) (finishedAt : DateTime)
      (externalExecutionPerformed : Bool)
  | recordDisposition (now : DateTime) (result : WorkProductDispositionResult)
  | recordPromotion (now : DateTime) (promotion : PromotionRecord)
  deriving DecidableEq

namespace RunWrite

/-- The action whose row an operation is about. -/
def actionId : RunWrite → UUID
  | registerAction _ registration => registration.actionId
  | recordApproval _ id _ _ => id
  | recordRejection _ id _ => id
  | recordExecutionStarted _ id _ => id
  | releaseUnstartedClaim id _ _ => id
  | abandonStartedClaim id _ _ => id
  | recordExecution _ id _ _ _ => id
  | recordDisposition _ result => result.actionId
  | recordPromotion _ promotion => promotion.actionId

/-- The row an operation leaves behind, or why it is refused. -/
def apply : RunWrite → Option RunState → Except Raised RunState
  | registerAction now registration => Velox.registerAction now registration
  | recordApproval now _ objective approvedAt => Velox.recordApproval now objective approvedAt
  | recordRejection now _ rejectedAt => Velox.recordRejection now rejectedAt
  | recordExecutionStarted now _ startedAt => Velox.recordExecutionStarted now startedAt
  | releaseUnstartedClaim _ expected reconciled => Velox.releaseUnstartedClaim expected reconciled
  | abandonStartedClaim _ expected reconciled => Velox.abandonStartedClaim expected reconciled
  | recordExecution now _ status finishedAt external =>
    Velox.recordExecution now status finishedAt external
  | recordDisposition now result => Velox.recordDisposition now result
  | recordPromotion now promotion => Velox.recordPromotion now promotion

/-- The row an operation leaves behind belongs to the action it was about. -/
theorem actionId_of_apply {write : RunWrite} {current : Option RunState} {state : RunState}
    (hcurrent : ∀ row, current = some row → row.actionId = write.actionId)
    (h : write.apply current = .ok state) : state.actionId = write.actionId := by
  cases write with
  | registerAction now registration =>
    obtain ⟨-, ⟨-, rfl⟩ | ⟨row, rfl, -, -, rfl⟩⟩ := registerAction_eq_ok_iff.mp h
    · rfl
    · exact hcurrent row rfl
  | recordApproval now id objective approvedAt =>
    obtain ⟨row, rfl, -, -, -, rfl⟩ := recordApproval_eq_ok_iff.mp h
    exact hcurrent row rfl
  | recordRejection now id rejectedAt =>
    obtain ⟨row, rfl, -, -, rfl⟩ := recordRejection_eq_ok_iff.mp h
    exact hcurrent row rfl
  | recordExecutionStarted now id startedAt =>
    obtain ⟨row, rfl, -, -, rfl⟩ := recordExecutionStarted_eq_ok_iff.mp h
    exact hcurrent row rfl
  | releaseUnstartedClaim id expected reconciled =>
    obtain ⟨row, rfl, -, -, -, -, rfl⟩ := releaseUnstartedClaim_eq_ok_iff.mp h
    exact hcurrent row rfl
  | abandonStartedClaim id expected reconciled =>
    obtain ⟨row, rfl, -, -, -, -, rfl⟩ := abandonStartedClaim_eq_ok_iff.mp h
    exact hcurrent row rfl
  | recordExecution now id status finishedAt external =>
    obtain ⟨row, rfl, rfl⟩ := recordExecution_eq_ok_iff.mp h
    exact hcurrent row rfl
  | recordDisposition now result =>
    obtain ⟨row, rfl, rfl⟩ := recordDisposition_eq_ok_iff.mp h
    exact hcurrent row rfl
  | recordPromotion now promotion =>
    obtain ⟨row, rfl, rfl⟩ := recordPromotion_eq_ok_iff.mp h
    exact hcurrent row rfl

theorem apply_raisesOnly (write : RunWrite) (current : Option RunState) :
    (write.apply current).RaisesOnly IsRunStateError := by
  cases write with
  | registerAction now registration =>
    refine Except.raisesOnly_bind.mpr ⟨normalizeObjective_raisesOnly _, fun objective _ => ?_⟩
    cases current <;> simp [requireSameIdentity, requireCompatibleObjective, runStateError]
  | recordApproval =>
    simp [apply, Velox.recordApproval, requireState_raisesOnly,
      normalizeRequiredObjective_raisesOnly, requireCompatibleObjective, runStateError]
  | recordRejection => simp [apply, Velox.recordRejection, requireState_raisesOnly, runStateError]
  | recordExecutionStarted =>
    simp [apply, Velox.recordExecutionStarted, requireState_raisesOnly, runStateError]
  | releaseUnstartedClaim =>
    simp [apply, Velox.releaseUnstartedClaim, requireState_raisesOnly, runStateError]
  | abandonStartedClaim =>
    simp [apply, Velox.abandonStartedClaim, requireState_raisesOnly, runStateError]
  | recordExecution => simp [apply, Velox.recordExecution, requireState_raisesOnly]
  | recordDisposition => simp [apply, Velox.recordDisposition, requireState_raisesOnly]
  | recordPromotion => simp [apply, Velox.recordPromotion, requireState_raisesOnly]

end RunWrite

end Velox
