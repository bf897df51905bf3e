import Velox.SoftwareEngineering.RunSchema
import Velox.SoftwareEngineering.RunState

/-!
# Rows of the run table

How a run state is written to a row, column by column, and how `_state_from_row` reads
it back. A row is read by the names of its columns.

`datetime.fromisoformat` is a parameter that reads back what `isoformat` writes.

## Main definitions

* `PyIsoformat` — `datetime.fromisoformat`
* `RunState.values` — the values of a state, under their columns
* `stateFromRow` — `_state_from_row`

## Main results

* `stateFromRow_of_values` — a row that holds the values of a state reads back as it
-/

set_option autoImplicit false

/-- Reading timestamps. -/
class PyIsoformat where
  /-- `datetime.fromisoformat(text)`: `none` where it raises `ValueError`, else the moment
  in UTC, if it is aware of its time zone. -/
  fromisoformat : String → Option (Option DateTime)
  fromisoformat_isoformat (t : DateTime) : fromisoformat t.isoformat = some (some t)

/-- Reading what `isoformat` writes, and nothing else. -/
@[reducible] def PyIsoformat.plain : PyIsoformat where
  fromisoformat s := (DateTime.fromisoformat s).map some
  fromisoformat_isoformat t := by rw [DateTime.fromisoformat_isoformat, Option.map_some]

namespace Velox

/-! ### Texts of enumerations -/

/-- The text of an approval status. -/
def ApprovalStatus.value : ApprovalStatus → String
  | .awaitingApproval => "awaiting_approval"
  | .approved => "approved"
  | .rejected => "rejected"

/-- `SoftwareEngineeringApprovalStatus(text)`. -/
def ApprovalStatus.parse (s : String) : Option ApprovalStatus :=
  [awaitingApproval, approved, rejected].find? fun status => status.value = s

/-- The text of a claim resolution. -/
def ClaimResolution.value : ClaimResolution → String
  | .releasedBeforeStart => "released_before_start"
  | .abandonedAfterStart => "abandoned_after_start"

/-- `SoftwareEngineeringClaimResolution(text)`. -/
def ClaimResolution.parse (s : String) : Option ClaimResolution :=
  [releasedBeforeStart, abandonedAfterStart].find? fun resolution => resolution.value = s

/-- The text of a disposition. -/
def WorkProductDisposition.value : WorkProductDisposition → String
  | .keep => "keep"
  | .discard => "discard"

/-- `WorkProductDisposition(text)`. -/
def WorkProductDisposition.parse (s : String) : Option WorkProductDisposition :=
  [keep, discard].find? fun disposition => disposition.value = s

theorem ApprovalStatus.parse_value : ∀ status : ApprovalStatus, parse status.value = some status
  | .awaitingApproval | .approved | .rejected => by decide

theorem ClaimResolution.parse_value :
    ∀ resolution : ClaimResolution, parse resolution.value = some resolution
  | .releasedBeforeStart | .abandonedAfterStart => by decide

theorem WorkProductDisposition.parse_value :
    ∀ disposition : WorkProductDisposition, parse disposition.value = some disposition
  | .keep | .discard => by decide

/-! ### Writing -/

/-- A value that may be absent. -/
def SqlValue.ofOption {α : Type} (write : α → SqlValue) (value : Option α) : SqlValue :=
  (value.map write).getD .null

/-- `int(value)` of a truth value. -/
def SqlValue.ofBool (b : Bool) : SqlValue := .integer (if b then 1 else 0)

/-- `value.isoformat()`. -/
def SqlValue.ofDateTime (t : DateTime) : SqlValue := .text t.isoformat

/-- `str(value)` of an identifier. -/
def SqlValue.ofUUID (id : UUID) : SqlValue := .text (UUID.str id)

/-- The values the repository writes for a state, under their columns. -/
def RunState.values (state : RunState) : List (String × SqlValue) := [
  ("action_id", .ofUUID state.actionId),
  ("executor_role", .text state.executorRole),
  ("capability", .text state.capability),
  ("target", .text state.target),
  ("delegation_status", .ofOption .text state.delegationStatus),
  ("pending_objective", .ofOption .text state.pendingObjective),
  ("approval_status", .ofOption (fun status => .text status.value) state.approvalStatus),
  ("approved_at", .ofOption .ofDateTime state.approvedAt),
  ("rejected_at", .ofOption .ofDateTime state.rejectedAt),
  ("claim_id", .ofOption .ofUUID state.claimId),
  ("claimed_at", .ofOption .ofDateTime state.claimedAt),
  ("execution_started_at", .ofOption .ofDateTime state.executionStartedAt),
  ("claim_resolution", .ofOption (fun resolution => .text resolution.value) state.claimResolution),
  ("claim_reconciled_at", .ofOption .ofDateTime state.claimReconciledAt),
  ("execution_status", .ofOption .text state.executionStatus),
  ("execution_finished_at", .ofOption .ofDateTime state.executionFinishedAt),
  ("external_execution_performed", .ofOption .ofBool state.externalExecutionPerformed),
  ("disposition", .ofOption (fun disposition => .text disposition.value) state.disposition),
  ("disposition_succeeded", .ofOption .ofBool state.dispositionSucceeded),
  ("worktree_present", .ofOption .ofBool state.worktreePresent),
  ("branch_present", .ofOption .ofBool state.branchPresent),
  ("canonical_unchanged", .ofOption .ofBool state.canonicalUnchanged),
  ("promotion_commit_sha", .ofOption .text state.promotionCommitSha),
  ("pull_request_number", .ofOption .integer state.pullRequestNumber),
  ("pull_request_url", .ofOption .text state.pullRequestUrl),
  ("promotion_base_branch", .ofOption .text state.promotionBaseBranch),
  ("promotion_head_branch", .ofOption .text state.promotionHeadBranch),
  ("promotion_finished_at", .ofOption .ofDateTime state.promotionFinishedAt),
  ("created_at", .ofOption .ofDateTime state.createdAt),
  ("updated_at", .ofOption .ofDateTime state.updatedAt)]

/-- A state has a value for every column of version 3. -/
theorem RunState.names_values (state : RunState) :
    state.values.map Prod.fst = v3Columns.map Prod.fst := rfl

/-! ### Reading -/

/-- `sqlite3.Row`. -/
abbrev SqlRow := String → Option SqlValue

/-- `row[key]`. -/
def SqlRow.item (row : SqlRow) (key : String) : Except Raised SqlValue :=
  match row key with
  | some value => .ok value
  | none => .error ⟨.exception "IndexError", "No item with that key"⟩

/-- `_optional_text`. -/
def optionalStr (value : SqlValue) : Option String :=
  if value = .null then none else some value.str

/-- `_optional_bool`. -/
def optionalBool : SqlValue → Except Raised (Option Bool)
  | .null => .ok none
  | .integer n => .ok (some (n ≠ 0))
  | _ => .error (runStateError "software engineering durable boolean state is invalid")

/-- `parse(str(value)) if value is not None else None`. -/
def optionalParsed {α : Type} (parse : String → Option α) (value : SqlValue) :
    Except Raised (Option α) :=
  if value = .null then .ok none
  else match parse value.str with
    | some a => .ok (some a)
    | none => .error ⟨.valueError, "invalid value"⟩

/-- `int(value) if value is not None else None`. -/
def optionalInt [PyStd] (value : SqlValue) : Except Raised (Option ℤ) :=
  if value = .null then .ok none else value.toInt.map some

/-- `_optional_datetime`. -/
def optionalDatetime [PyIsoformat] (value : SqlValue) : Except Raised (Option DateTime) :=
  if value = .null then .ok none
  else match PyIsoformat.fromisoformat value.str with
    | none => .error ⟨.valueError, "Invalid isoformat string"⟩
    | some none =>
      .error (runStateError "software engineering state timestamp must be timezone-aware")
    | some (some t) => .ok (some t)

/-- `UUID(str(value))`. -/
def requiredUUID (value : SqlValue) : Except Raised UUID :=
  match UUID.parse value.str with
  | some id => .ok id
  | none => .error ⟨.valueError, "badly formed hexadecimal UUID string"⟩

/-- `except (KeyError, TypeError, ValueError)`. -/
def invalidState (e : Raised) : Raised :=
  if e.kind = .exception "KeyError" ∨ e.kind = .typeError ∨ e.kind = .valueError then
    runStateError "software engineering durable state is invalid"
  else e

section Read

variable [PyStd] [PyIsoformat]

/-- The body of `_state_from_row`. -/
def readState (row : SqlRow) : Except Raised RunState := do
  let dispositionRaw ← row.item "disposition"
  let actionId ← row.item "action_id" >>= requiredUUID
  let executorRole ← row.item "executor_role"
  let capability ← row.item "capability"
  let target ← row.item "target"
  let delegationStatus ← row.item "delegation_status"
  let pendingObjective ← row.item "pending_objective"
  let approvalStatus ← row.item "approval_status" >>= optionalParsed ApprovalStatus.parse
  let approvedAt ← row.item "approved_at" >>= optionalDatetime
  let rejectedAt ← row.item "rejected_at" >>= optionalDatetime
  let claimId ← row.item "claim_id" >>= optionalParsed UUID.parse
  let claimedAt ← row.item "claimed_at" >>= optionalDatetime
  let executionStartedAt ← row.item "execution_started_at" >>= optionalDatetime
  let claimResolution ← row.item "claim_resolution" >>= optionalParsed ClaimResolution.parse
  let claimReconciledAt ← row.item "claim_reconciled_at" >>= optionalDatetime
  let executionStatus ← row.item "execution_status"
  let executionFinishedAt ← row.item "execution_finished_at" >>= optionalDatetime
  let externalExecutionPerformed ← row.item "external_execution_performed" >>= optionalBool
  let disposition ← optionalParsed WorkProductDisposition.parse dispositionRaw
  let dispositionSucceeded ← row.item "disposition_succeeded" >>= optionalBool
  let worktreePresent ← row.item "worktree_present" >>= optionalBool
  let branchPresent ← row.item "branch_present" >>= optionalBool
  let canonicalUnchanged ← row.item "canonical_unchanged" >>= optionalBool
  let promotionCommitSha ← row.item "promotion_commit_sha"
  let pullRequestNumber ← row.item "pull_request_number" >>= optionalInt
  let pullRequestUrl ← row.item "pull_request_url"
  let promotionBaseBranch ← row.item "promotion_base_branch"
  let promotionHeadBranch ← row.item "promotion_head_branch"
  let promotionFinishedAt ← row.item "promotion_finished_at" >>= optionalDatetime
  let createdAt ← row.item "created_at" >>= optionalDatetime
  let updatedAt ← row.item "updated_at" >>= optionalDatetime
  return {
    actionId
    executorRole := executorRole.str
    capability := capability.str
    target := target.str
    delegationStatus := optionalStr delegationStatus
    pendingObjective := optionalStr pendingObjective
    approvalStatus
    approvedAt
    rejectedAt
    claimId
    claimedAt
    executionStartedAt
    claimResolution
    claimReconciledAt
    executionStatus := optionalStr executionStatus
    executionFinishedAt
    externalExecutionPerformed
    disposition
    dispositionSucceeded
    worktreePresent
    branchPresent
    canonicalUnchanged
    promotionCommitSha := optionalStr promotionCommitSha
    pullRequestNumber
    pullRequestUrl := optionalStr pullRequestUrl
    promotionBaseBranch := optionalStr promotionBaseBranch
    promotionHeadBranch := optionalStr promotionHeadBranch
    promotionFinishedAt
    createdAt
    updatedAt }

/-- `_state_from_row`. -/
def stateFromRow (row : SqlRow) : Except Raised RunState := (readState row).mapError invalidState

end Read

/-! ### Reading back -/

theorem SqlRow.item_eq {row : SqlRow} {key : String} {value : SqlValue} (h : row key = some value) :
    row.item key = .ok value := by
  rw [item, h]

theorem requiredUUID_ofUUID (id : UUID) : requiredUUID (.ofUUID id) = .ok id := by
  rw [requiredUUID, SqlValue.ofUUID, SqlValue.str, UUID.parse_str]

theorem optionalStr_ofOption (value : Option String) :
    optionalStr (.ofOption .text value) = value := by
  cases value <;> rfl

theorem optionalBool_ofOption (value : Option Bool) :
    optionalBool (.ofOption .ofBool value) = .ok value := by
  rcases value with _ | _ | _ <;> rfl

theorem optionalParsed_ofOption {α : Type} {parse : String → Option α} {write : α → String}
    (h : ∀ a, parse (write a) = some a) (value : Option α) :
    optionalParsed parse (.ofOption (fun a => .text (write a)) value) = .ok value := by
  cases value with
  | none => rfl
  | some a =>
    have hne : SqlValue.text (write a) ≠ .null := fun h => nomatch h
    rw [SqlValue.ofOption, Option.map_some, Option.getD_some, optionalParsed, if_neg hne,
      SqlValue.str, h]

theorem optionalInt_ofOption [PyStd] (value : Option ℤ) :
    optionalInt (.ofOption .integer value) = .ok value := by
  cases value <;> rfl

theorem optionalDatetime_ofOption [PyIsoformat] (value : Option DateTime) :
    optionalDatetime (.ofOption .ofDateTime value) = .ok value := by
  cases value with
  | none => rfl
  | some t =>
    have hne : SqlValue.ofDateTime t ≠ .null := fun h => nomatch h
    rw [SqlValue.ofOption, Option.map_some, Option.getD_some, optionalDatetime, if_neg hne,
      SqlValue.ofDateTime, SqlValue.str, PyIsoformat.fromisoformat_isoformat]

/-- A row that holds the values of a state reads back as that state. -/
theorem stateFromRow_of_values [PyStd] [PyIsoformat] {row : SqlRow} {state : RunState}
    (h : ∀ p ∈ state.values, row p.1 = some p.2) : stateFromRow row = .ok state := by
  simp only [RunState.values, List.forall_mem_cons] at h
  obtain ⟨hactionId, hexecutorRole, hcapability, htarget, hdelegation, hobjective, happroval,
    happroved, hrejected, hclaim, hclaimed, hstarted, hresolution, hreconciled, hstatus, hfinished,
    hexternal, hdisposition, hsucceeded, hworktree, hbranch, hcanonical, hsha, hnumber, hurl,
    hbase, hhead, hpromoted, hcreated, hupdated, -⟩ := h
  have huuid : ∀ value : Option UUID,
      optionalParsed UUID.parse (.ofOption .ofUUID value) = .ok value :=
    optionalParsed_ofOption UUID.parse_str
  have hread : readState row = .ok state := by
    simp only [readState, SqlRow.item_eq hactionId, SqlRow.item_eq hexecutorRole,
      SqlRow.item_eq hcapability, SqlRow.item_eq htarget, SqlRow.item_eq hdelegation,
      SqlRow.item_eq hobjective, SqlRow.item_eq happroval, SqlRow.item_eq happroved,
      SqlRow.item_eq hrejected, SqlRow.item_eq hclaim, SqlRow.item_eq hclaimed,
      SqlRow.item_eq hstarted, SqlRow.item_eq hresolution, SqlRow.item_eq hreconciled,
      SqlRow.item_eq hstatus, SqlRow.item_eq hfinished, SqlRow.item_eq hexternal,
      SqlRow.item_eq hdisposition, SqlRow.item_eq hsucceeded, SqlRow.item_eq hworktree,
      SqlRow.item_eq hbranch, SqlRow.item_eq hcanonical, SqlRow.item_eq hsha,
      SqlRow.item_eq hnumber, SqlRow.item_eq hurl, SqlRow.item_eq hbase, SqlRow.item_eq hhead,
      SqlRow.item_eq hpromoted, SqlRow.item_eq hcreated, SqlRow.item_eq hupdated, Except.ok_bind,
      requiredUUID_ofUUID, optionalStr_ofOption, optionalBool_ofOption, optionalInt_ofOption,
      optionalDatetime_ofOption, huuid, optionalParsed_ofOption ApprovalStatus.parse_value,
      optionalParsed_ofOption ClaimResolution.parse_value,
      optionalParsed_ofOption WorkProductDisposition.parse_value, SqlValue.str, Except.pure_eq_ok]
  rw [stateFromRow, hread]
  rfl

end Velox
