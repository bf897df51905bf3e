import Velox.Lib.Pool
import Velox.SoftwareEngineering.RepositoryAgreement

/-!
# Interleaved transactions

Any number of operations of the durable run repository go on at the same time, each
carried out transaction by transaction; between two of them others may have had any
number of theirs, and an operation may stop anywhere. Most operations write without
checking again what they have read, so little of what holds of one operation at a time
holds here. This is what does.

## Main definitions

* `RunTransaction.Issued` — the transactions the operations make
* `Steps` — what such a transaction does to the states
* `RunState.Consistent` — what holds of every row
* `RunState.Later` — what a row may have become

## Main results

* `interleaved_consistent` — every row is consistent
* `interleaved_later` — what is never taken back
* `interleaved_claims` — an action is claimed again only after its claim was released
-/

set_option autoImplicit false

namespace Velox

/-! ### The transactions of the operations -/

/-- The transactions that an operation of the repository makes. -/
inductive RunTransaction.IssuedBy (call : RunCall) : RunTransaction → Prop
  | get (id : UUID) : IssuedBy call (.get id)
  | listPendingApproval : IssuedBy call .listPendingApproval
  | insert (registration : Registration) (objective : Option String) (now : DateTime)
    (hcall : call = .write (.registerAction now registration)) :
    IssuedBy call (.insert (registration.inserted objective now))
  | update (write : RunWrite) (pendingObjective : Option String) (hcall : call = .write write) :
    IssuedBy call (write.transaction pendingObjective)
  | claim (claimedAt : DateTime) (claimId id : UUID)
    (hcall : call = .claimApproved claimedAt claimId id) :
    IssuedBy call (.claim claimedAt claimId id)

/-- The transactions that some operation makes. -/
def RunTransaction.Issued (transaction : RunTransaction) : Prop :=
  ∃ call, transaction.IssuedBy call

namespace SqliteRunRepository

variable {call : RunCall}

theorem calls_transaction {transaction : RunTransaction} (h : transaction.IssuedBy call)
    (message : String) :
    (SqliteRunRepository.transaction transaction message).Calls (RunTransaction.IssuedBy call)
      fun _ => True :=
  Proc.Calls.tryCatch (A := fun _ => True) (Proc.Calls.request h fun _ => trivial)
    (fun _ _ => trivial) fun _ _ => Proc.Calls.throw trivial

theorem calls_update (write : RunWrite) (pendingObjective : Option String) :
    (update write pendingObjective).Calls (RunTransaction.IssuedBy (.write write)) fun _ => True :=
  calls_transaction (.update write pendingObjective rfl) _

variable [PyStd] [PyIsoformat]

theorem calls_get (id : UUID) : (get id).Calls (RunTransaction.IssuedBy call) fun _ => True :=
  Proc.Calls.seq (calls_transaction (.get id) _) fun _ => Proc.Calls.ofExcept trivial

theorem calls_require (id : UUID) : (require id).Calls (RunTransaction.IssuedBy call) fun _ => True :=
  Proc.Calls.seq (calls_get id) fun _ => Proc.Calls.ofExcept trivial

theorem calls_checked (write : RunWrite) (check : RunState → Except Raised Unit) :
    (checked write check).Calls (RunTransaction.IssuedBy (.write write)) fun _ => True := by
  apply Proc.Calls.seq (calls_require _)
  intro current
  apply Proc.Calls.seq (Proc.Calls.ofExcept trivial)
  intro _
  exact Proc.Calls.seq (calls_update write _) fun _ => calls_require _

theorem calls_guarded (write : RunWrite) :
    (guarded write).Calls (RunTransaction.IssuedBy (.write write)) fun _ => True :=
  Proc.Calls.seq (calls_update write none) fun _ => calls_require _

theorem calls_insert (registration : Registration) (objective : Option String) (now : DateTime) :
    (insert registration objective now).Calls
      (RunTransaction.IssuedBy (.write (.registerAction now registration))) fun _ => True := by
  apply Proc.Calls.tryCatch (A := fun _ => True)
    (Proc.Calls.request (.insert registration objective now rfl) fun _ => trivial) fun _ _ => trivial
  intro e _
  split
  · apply Proc.Calls.seq (calls_get _)
    rintro (_ | current)
    · exact Proc.Calls.throw trivial
    · exact Proc.Calls.ofExcept trivial
  · exact Proc.Calls.throw trivial

theorem calls_registerAction (now : DateTime) (registration : Registration) :
    (registerAction now registration).Calls
      (RunTransaction.IssuedBy (.write (.registerAction now registration))) fun _ => True := by
  apply Proc.Calls.seq (Proc.Calls.ofExcept trivial)
  intro objective
  apply Proc.Calls.seq (calls_get _)
  rintro (_ | current)
  · exact Proc.Calls.seq (calls_insert registration objective now) fun _ => calls_require _
  · apply Proc.Calls.seq (Proc.Calls.ofExcept trivial)
    intro _
    exact Proc.Calls.seq (calls_update _ _) fun _ => calls_require _

/-- Whatever they are answered, the operations make no other transactions. -/
theorem calls_implement (call : RunCall) :
    (implement call).Calls (RunTransaction.IssuedBy call) fun _ => True := by
  cases call with
  | get id => exact calls_get id
  | listPendingApproval =>
    exact Proc.Calls.seq (calls_transaction .listPendingApproval _) fun _ =>
      Proc.Calls.ofExcept trivial
  | claimApproved claimedAt claimId id =>
    exact Proc.Calls.seq (calls_transaction (.claim claimedAt claimId id rfl) _) fun _ =>
      Proc.Calls.pure trivial
  | write w =>
    cases w with
    | registerAction now registration => exact calls_registerAction now registration
    | releaseUnstartedClaim => exact calls_guarded _
    | abandonStartedClaim => exact calls_guarded _
    | _ => exact calls_checked _ _

end SqliteRunRepository

/-! ### What a transaction does to the states -/

/-- What a transaction of an operation does to the states, with its reply. -/
inductive Steps [PyStd] [PyIsoformat] (repository : InMemoryRunRepository) (call : RunCall) :
    (transaction : RunTransaction) → Except Raised transaction.Value → InMemoryRunRepository → Prop
  | got {id : UUID} {row : Option SqlRow}
    (hrow : SqliteRunRepository.optionalState row = .ok (repository.states.get id)) :
    Steps repository call (.get id) (.ok row) repository
  | listed {rows : List SqlRow} : Steps repository call .listPendingApproval (.ok rows) repository
  | refused {transaction : RunTransaction} {e : Raised} :
    Steps repository call transaction (.error e) repository
  | inserted {registration : Registration} {objective : Option String} {now : DateTime}
    (hcall : call = .write (.registerAction now registration))
    (hnone : repository.states.get registration.actionId = none) :
    Steps repository call (.insert (registration.inserted objective now)) (.ok ())
      (repository.store (registration.newState objective now))
  | written {write : RunWrite} {pendingObjective : Option String} {row : RunState}
    (hcall : call = .write write) (hrow : repository.states.get write.actionId = some row)
    (hallows : write.Allows row) :
    Steps repository call (write.transaction pendingObjective) (.ok ())
      (repository.store (write.written pendingObjective row))
  | claimed {claimedAt : DateTime} {claimId id : UUID} {current row : RunState}
    {objective : String} (hcall : call = .claimApproved claimedAt claimId id)
    (hrow : repository.states.get id = some row) (hunclaimed : row.Unclaimed) :
    Steps repository call (.claim claimedAt claimId id) (.ok (current, objective))
      (repository.store (row.claimed claimId claimedAt))

section Steps

variable [PyStd] [PyIsoformat] {t : RunsTable} {repository : InMemoryRunRepository}

/-- On a table that persists a repository, the transactions of the operations are steps of
the repository. -/
theorem steps_transact (h : t.Persists repository) {call : RunCall}
    {transaction : RunTransaction} (hissued : transaction.IssuedBy call) :
    ∃ repository', (transact transaction t).2.Persists repository' ∧
      Steps repository call transaction (transact transaction t).1 repository' := by
  cases hissued with
  | get id =>
    obtain ⟨row, htransact, hrow⟩ := transact_get h id
    rw [htransact]
    exact ⟨repository, h, .got hrow⟩
  | listPendingApproval =>
    obtain ⟨rows, htransact, -⟩ := transact_listPendingApproval h
    rw [htransact]
    exact ⟨repository, h, .listed⟩
  | insert registration objective now hcall =>
    rcases transact_insert h registration objective now with
      ⟨hnone, t', htransact, hstored⟩ | ⟨-, htransact⟩
    · rw [htransact]
      exact ⟨_, hstored, .inserted hcall hnone⟩
    · rw [htransact]
      exact ⟨repository, h, .refused⟩
  | update write pendingObjective hcall =>
    rcases transact_update h write pendingObjective with ⟨-, htransact⟩ |
      ⟨-, row, t', hrow, hallows, htransact, hstored⟩ | ⟨-, -, htransact⟩
    · rw [htransact]
      exact ⟨repository, h, .refused⟩
    · rw [htransact]
      exact ⟨_, hstored, .written hcall hrow hallows⟩
    · rw [htransact]
      exact ⟨repository, h, .refused⟩
  | claim claimedAt claimId id hcall =>
    cases hclaim : claimApproved claimedAt claimId (repository.states.get id) with
    | error e =>
      rw [transact_claim_error h hclaim]
      exact ⟨repository, h, .refused⟩
    | ok claimed =>
      obtain ⟨row, _, hrow, happroved, hexecution, hunclaimed, -, -, -, hstate⟩ :=
        claimApproved_eq_ok_iff.mp hclaim
      obtain ⟨current, objective, t', htransact, -, hstored⟩ :=
        transact_claim_ok h hclaim
      rw [htransact]
      rw [hstate] at hstored
      exact ⟨_, hstored, .claimed hcall hrow ⟨happroved, hunclaimed, hexecution⟩⟩

end Steps

/-! ### Rows that are consistent -/

/-- What holds of every row, whatever the order of the transactions. -/
structure RunState.Consistent (state : RunState) : Prop where
  claimed : state.claimId.isSome = state.claimedAt.isSome
  reconciled : state.claimResolution.isSome = state.claimReconciledAt.isSome
  released : state.claimResolution = some .releasedBeforeStart → state.claimId = none
  abandoned : state.claimResolution = some .abandonedAfterStart →
    state.claimId ≠ none ∧ state.executionStartedAt ≠ none
  finished : state.executionStatus.isSome = state.executionFinishedAt.isSome
  performed : state.executionStatus.isSome = state.externalExecutionPerformed.isSome
  disposed : state.disposition.isSome = state.dispositionSucceeded.isSome
  worktree : state.disposition.isSome = state.worktreePresent.isSome
  branch : state.disposition.isSome = state.branchPresent.isSome
  canonical : state.disposition.isSome = state.canonicalUnchanged.isSome
  numbered : state.promotionCommitSha.isSome = state.pullRequestNumber.isSome
  located : state.promotionCommitSha.isSome = state.pullRequestUrl.isSome
  based : state.promotionCommitSha.isSome = state.promotionBaseBranch.isSome
  headed : state.promotionCommitSha.isSome = state.promotionHeadBranch.isSome
  promoted : state.promotionCommitSha.isSome = state.promotionFinishedAt.isSome
  created : state.createdAt ≠ none
  updated : state.updatedAt ≠ none

namespace RunState.Consistent

variable {state : RunState}

theorem newState (registration : Registration) (objective : Option String) (now : DateTime) :
    (registration.newState objective now).Consistent := by
  constructor <;> simp [Registration.newState]

theorem claim (h : state.Consistent) (claimId : UUID) (claimedAt : DateTime) :
    (state.claimed claimId claimedAt).Consistent :=
  { h with
    claimed := rfl
    reconciled := rfl
    released := nofun
    abandoned := nofun
    updated := nofun }

/-- The `UPDATE` of an operation keeps a row consistent. -/
theorem written (h : state.Consistent) {write : RunWrite} {pendingObjective : Option String}
    (hallows : write.Allows state) : (write.written pendingObjective state).Consistent := by
  cases write with
  | registerAction now registration => exact { h with updated := nofun }
  | recordApproval now id objective approvedAt => exact { h with updated := nofun }
  | recordRejection now id rejectedAt => exact { h with updated := nofun }
  | recordExecutionStarted now id startedAt =>
    exact { h with
      abandoned := fun habandoned => ⟨(h.abandoned habandoned).1, nofun⟩
      updated := nofun }
  | releaseUnstartedClaim id expected reconciled =>
    exact { h with
      claimed := rfl
      reconciled := rfl
      released := fun _ => rfl
      abandoned := nofun
      updated := nofun }
  | abandonStartedClaim id expected reconciled =>
    obtain ⟨hclaim, hstarted, -⟩ := hallows
    exact { h with
      reconciled := rfl
      released := nofun
      abandoned := fun _ => ⟨hclaim, hstarted⟩
      updated := nofun }
  | recordExecution now id status finishedAt external =>
    exact { h with
      finished := rfl
      performed := rfl
      updated := nofun }
  | recordDisposition now result =>
    exact { h with
      disposed := rfl
      worktree := rfl
      branch := rfl
      canonical := rfl
      updated := nofun }
  | recordPromotion now promotion =>
    exact { h with
      numbered := rfl
      located := rfl
      based := rfl
      headed := rfl
      promoted := rfl
      updated := nofun }

end RunState.Consistent

/-! ### What is never taken back -/

/-- What a row may have become. -/
structure RunState.Later (state later : RunState) : Prop where
  actionId : later.actionId = state.actionId
  executorRole : later.executorRole = state.executorRole
  capability : later.capability = state.capability
  target : later.target = state.target
  createdAt : later.createdAt = state.createdAt
  delegated : state.delegationStatus ≠ none → later.delegationStatus ≠ none
  decided : state.approvalStatus ≠ none → later.approvalStatus ≠ none
  approved : state.approvedAt ≠ none → later.approvedAt ≠ none
  rejected : state.rejectedAt ≠ none → later.rejectedAt ≠ none
  started : state.executionStartedAt ≠ none → later.executionStartedAt ≠ none
  executed : state.executionStatus ≠ none → later.executionStatus ≠ none
  disposed : state.disposition ≠ none → later.disposition ≠ none
  promoted : state.promotionCommitSha ≠ none → later.promotionCommitSha ≠ none
  /-- The claim on a started execution is neither released nor replaced. -/
  held : state.claimId ≠ none → state.executionStartedAt ≠ none →
    later.claimId = state.claimId ∧ later.claimedAt = state.claimedAt
  /-- Nothing is claimed or released once there is a result. -/
  settled : state.executionStatus ≠ none →
    later.claimId = state.claimId ∧ later.claimedAt = state.claimedAt

namespace RunState.Later

variable {state later latest : RunState}

theorem refl (state : RunState) : state.Later state := by
  constructor <;> simp

theorem trans (h : state.Later later) (h' : later.Later latest) : state.Later latest where
  actionId := h'.actionId.trans h.actionId
  executorRole := h'.executorRole.trans h.executorRole
  capability := h'.capability.trans h.capability
  target := h'.target.trans h.target
  createdAt := h'.createdAt.trans h.createdAt
  delegated hsome := h'.delegated (h.delegated hsome)
  decided hsome := h'.decided (h.decided hsome)
  approved hsome := h'.approved (h.approved hsome)
  rejected hsome := h'.rejected (h.rejected hsome)
  started hsome := h'.started (h.started hsome)
  executed hsome := h'.executed (h.executed hsome)
  disposed hsome := h'.disposed (h.disposed hsome)
  promoted hsome := h'.promoted (h.promoted hsome)
  held hclaim hstarted := by
    obtain ⟨hid, htime⟩ := h.held hclaim hstarted
    obtain ⟨hid', htime'⟩ := h'.held (hid ▸ hclaim) (h.started hstarted)
    exact ⟨hid'.trans hid, htime'.trans htime⟩
  settled hexecuted := by
    obtain ⟨hid, htime⟩ := h.settled hexecuted
    obtain ⟨hid', htime'⟩ := h'.settled (h.executed hexecuted)
    exact ⟨hid'.trans hid, htime'.trans htime⟩

theorem claim (hunclaimed : state.Unclaimed) (claimId : UUID) (claimedAt : DateTime) :
    state.Later (state.claimed claimId claimedAt) :=
  { refl state with
    held := fun hclaim => absurd hunclaimed.2.1 hclaim
    settled := fun hexecuted => absurd hunclaimed.2.2 hexecuted }

theorem or_ne_none {α : Type} {a b : Option α} (hb : b ≠ none) : a.or b ≠ none := by
  cases a
  · exact hb
  · exact nofun

theorem written {write : RunWrite} {pendingObjective : Option String}
    (hallows : write.Allows state) : state.Later (write.written pendingObjective state) := by
  cases write with
  | registerAction now registration =>
    exact { refl state with
      delegated := or_ne_none
      decided := or_ne_none }
  | recordApproval now id objective approvedAt =>
    exact { refl state with
      decided := fun _ => nofun
      approved := fun _ => nofun }
  | recordRejection now id rejectedAt =>
    exact { refl state with
      decided := fun _ => nofun
      rejected := fun _ => nofun }
  | recordExecutionStarted now id startedAt =>
    exact { refl state with started := fun _ => nofun }
  | releaseUnstartedClaim id expected reconciled =>
    obtain ⟨-, -, hunstarted, hunexecuted, -⟩ := hallows
    exact { refl state with
      held := fun _ hstarted => absurd hunstarted hstarted
      settled := fun hexecuted => absurd hunexecuted hexecuted }
  | abandonStartedClaim id expected reconciled => exact { refl state with }
  | recordExecution now id status finishedAt external =>
    exact { refl state with executed := fun _ => nofun }
  | recordDisposition now result => exact { refl state with disposed := fun _ => nofun }
  | recordPromotion now promotion => exact { refl state with promoted := fun _ => nofun }

end RunState.Later

/-! ### Counting claims -/

/-- An exchange that claims an action. -/
def claims (id : UUID) : Exchange RunTransactions → ℕ
  | ⟨.claim _ _ id', .ok _⟩ => if id' = id then 1 else 0
  | _ => 0

/-- An exchange that empties the claim of an action. -/
def releases (id : UUID) : Exchange RunTransactions → ℕ
  | ⟨.update assignments conditions _, .ok _⟩ =>
    if ("claim_id", .null) ∈ assignments ∧ .isAction id ∈ conditions then 1 else 0
  | _ => 0

/-- Whether an action is claimed. -/
def held (row : Option RunState) : ℕ := if (row.bind RunState.claimId).isSome then 1 else 0

/-- Whether an operation releases a claim. -/
def RunWrite.Releases : RunWrite → Prop
  | .releaseUnstartedClaim .. => True
  | _ => False

instance (write : RunWrite) : Decidable write.Releases :=
  match write with
  | .releaseUnstartedClaim .. => .isTrue trivial
  | .registerAction .. | .recordApproval .. | .recordRejection .. | .recordExecutionStarted ..
  | .abandonStartedClaim .. | .recordExecution .. | .recordDisposition ..
  | .recordPromotion .. => .isFalse id

section Counting

variable {id : UUID} {write : RunWrite} {pendingObjective : Option String} {row : RunState}

theorem isAction_mem_conditions : .isAction id ∈ write.conditions ↔ write.actionId = id := by
  have hinj : ∀ {a b : UUID}, SqlValue.ofUUID a = SqlValue.ofUUID b ↔ a = b :=
    SqlValue.ofUUID_injective.eq_iff
  cases write <;> simp [RunWrite.conditions, SqlCondition.isAction, RunWrite.actionId, hinj, eq_comm]

theorem null_mem_assignments :
    ("claim_id", .null) ∈ write.assignments pendingObjective ↔ write.Releases := by
  cases write <;> simp [RunWrite.assignments, assignedIf, RunWrite.Releases]

/-- The `UPDATE` that empties a claim is that of a release. -/
theorem releases_transaction : releases id ⟨write.transaction pendingObjective, .ok ()⟩ =
    if write.Releases ∧ write.actionId = id then 1 else 0 := by
  show (if ("claim_id", .null) ∈ write.assignments pendingObjective ∧
    .isAction id ∈ write.conditions then 1 else 0) = _
  simp only [null_mem_assignments, isAction_mem_conditions]

theorem claimId_written (hallows : write.Allows row) (pendingObjective : Option String) :
    held (some row) = (if write.Releases then 1 else 0) +
      held (some (write.written pendingObjective row)) := by
  cases write with
  | releaseUnstartedClaim id expected reconciled =>
    obtain ⟨-, hclaim, -⟩ := hallows
    obtain ⟨claimId, hclaim⟩ := Option.ne_none_iff_exists'.mp hclaim
    simp [held, hclaim, RunWrite.Releases, RunWrite.written, RunState.released]
  | _ => exact (Nat.zero_add _).symm

theorem held_store {repository : InMemoryRunRepository} :
    held ((repository.store row).states.get id) =
      if id = row.actionId then held (some row) else held (repository.states.get id) := by
  rw [InMemoryRunRepository.get_store, Function.update_apply]
  split_ifs <;> rfl

/-- A step claims an action that was not claimed, releases one that was, or neither. -/
theorem Steps.count [PyStd] [PyIsoformat] {repository repository' : InMemoryRunRepository}
    {call : RunCall} {transaction : RunTransaction} {reply : Except Raised transaction.Value}
    (h : Steps repository call transaction reply repository') (id : UUID) :
    claims id ⟨transaction, reply⟩ + held (repository.states.get id) =
      releases id ⟨transaction, reply⟩ + held (repository'.states.get id) := by
  cases h with
  | got => rfl
  | listed => rfl
  | refused => cases transaction <;> rfl
  | @inserted registration objective now _ hnone =>
    rw [held_store]
    split_ifs with hid
    · rw [hid]
      show 0 + held (repository.states.get registration.actionId) = 0 + 0
      rw [hnone]
      rfl
    · rfl
  | @written write pendingObjective row _ hrow hallows =>
    have hwritten := claimId_written hallows pendingObjective
    have hactionId := repository.identified hrow
    rw [releases_transaction, held_store, RunWrite.actionId_written, hactionId]
    show 0 + held (repository.states.get id) = _
    by_cases hid : id = write.actionId
    · subst hid
      rw [hrow, hwritten, if_pos rfl]
      by_cases hreleases : write.Releases <;> simp [hreleases]
    · rw [if_neg hid, if_neg fun h => hid h.2.symm]
  | @claimed claimedAt claimId id' current row objective _ hrow hunclaimed =>
    have hactionId : (row.claimed claimId claimedAt).actionId = id' :=
      (repository.identified hrow : row.actionId = id')
    rw [held_store, hactionId]
    show (if id' = id then 1 else 0) + _ = 0 + _
    by_cases hid : id' = id
    · subst hid
      rw [hrow, if_pos rfl, if_pos rfl]
      simp [held, hunclaimed.2.1, RunState.claimed]
    · rw [if_neg hid, if_neg fun h => hid h.symm]

end Counting

/-! ### Interleavings -/

namespace InMemoryRunRepository

variable {repository repository' : InMemoryRunRepository} {transaction : RunTransaction}
  {reply : Except Raised transaction.Value}

/-- Every row is consistent. -/
def Consistent (repository : InMemoryRunRepository) : Prop :=
  ∀ id row, repository.states.get id = some row → row.Consistent

theorem consistent_empty : Consistent .empty := by
  intro id row hrow
  have hnone : empty.states.get id = none := rfl
  rw [hnone] at hrow
  cases hrow

/-- Every row is there later. -/
def Later (repository later : InMemoryRunRepository) : Prop :=
  ∀ id row, repository.states.get id = some row →
    ∃ row', later.states.get id = some row' ∧ row.Later row'

theorem Later.refl (repository : InMemoryRunRepository) : repository.Later repository :=
  fun _ row hrow => ⟨row, hrow, .refl row⟩

theorem Later.trans {latest : InMemoryRunRepository} (h : repository.Later repository')
    (h' : repository'.Later latest) : repository.Later latest := by
  intro id row hrow
  obtain ⟨row', hrow', hlater⟩ := h id row hrow
  obtain ⟨row'', hrow'', hlater'⟩ := h' id row' hrow'
  exact ⟨row'', hrow'', hlater.trans hlater'⟩

theorem Consistent.store {state : RunState} (h : repository.Consistent) (hstate : state.Consistent) :
    (repository.store state).Consistent := by
  intro id row hrow
  rw [get_store] at hrow
  exact RunRepository.update_invariant h hstate id row hrow

theorem later_store {state : RunState}
    (h : ∀ row, repository.states.get state.actionId = some row → row.Later state) :
    repository.Later (repository.store state) := by
  intro id row hrow
  rw [get_store]
  by_cases hid : id = state.actionId
  · subst hid
    exact ⟨state, Function.update_self .., h row hrow⟩
  · exact ⟨row, by rw [Function.update_of_ne hid]; exact hrow, .refl row⟩

theorem Consistent.steps [PyStd] [PyIsoformat] {call : RunCall} (h : repository.Consistent)
    (hsteps : Steps repository call transaction reply repository') : repository'.Consistent := by
  cases hsteps with
  | got => exact h
  | listed => exact h
  | refused => exact h
  | inserted _ hnone => exact h.store (.newState ..)
  | written _ hrow hallows => exact h.store ((h _ _ hrow).written hallows)
  | claimed _ hrow hunclaimed => exact h.store ((h _ _ hrow).claim ..)

theorem later_steps [PyStd] [PyIsoformat] {call : RunCall}
    (hsteps : Steps repository call transaction reply repository') :
    repository.Later repository' := by
  cases hsteps with
  | got => exact .refl repository
  | listed => exact .refl repository
  | refused => exact .refl repository
  | @inserted registration objective now _ hnone =>
    refine later_store fun row hrow => ?_
    exact absurd (hrow.symm.trans hnone) nofun
  | @written write pendingObjective row _ hrow hallows =>
    refine later_store fun row' hrow' => ?_
    rw [RunWrite.actionId_written, repository.identified hrow, hrow] at hrow'
    obtain rfl := Option.some.inj hrow'
    exact .written hallows
  | @claimed claimedAt claimId id current row objective _ hrow hunclaimed =>
    refine later_store fun row' hrow' => ?_
    have hactionId : (row.claimed claimId claimedAt).actionId = id :=
      (repository.identified hrow : row.actionId = id)
    rw [hactionId, hrow] at hrow'
    obtain rfl := Option.some.inj hrow'
    exact .claim hunclaimed claimId claimedAt

end InMemoryRunRepository

/-- A result of an operation. -/
abbrev RunReply := Σ call : RunCall, Except Raised call.Value

/-- An operation begins, or one that is underway makes its next transaction. -/
abbrev RunTurn := RunCall ⊕ ℕ

section Interleaved

variable [PyStd] [PyIsoformat]

/-- An operation as a program underway. -/
def SqliteRunRepository.task (call : RunCall) : Prog RunTransactions RunReply :=
  (implement call ()).bind fun r => .ret ⟨call, r.1⟩

/-- A turn of the pool. -/
def RunTurn.turn : RunTurn → Turn RunTransactions RunReply
  | .inl call => .join (SqliteRunRepository.task call)
  | .inr i => .advance i

/-- The operations underway, the table and the transactions so far, from an empty table on. -/
def interleave (turns : List RunTurn) :
    Pool RunTransactions RunReply (RunsTable × List (Exchange RunTransactions)) :=
  Run.after (Pool.turn transact.logged) (.empty (emptyRuns, [])) (turns.map RunTurn.turn)

/-- The table after some turns. -/
def tableAfter (turns : List RunTurn) : RunsTable := (interleave turns).world.1

/-- The transactions of some turns. -/
def logAfter (turns : List RunTurn) : List (Exchange RunTransactions) := (interleave turns).world.2

theorem calls_task (call : RunCall) :
    (SqliteRunRepository.task call).Calls RunTransaction.Issued fun _ => True := by
  have hcalls := (SqliteRunRepository.calls_implement call).permit
    fun _ h => (⟨call, h⟩ : RunTransaction.Issued _)
  exact Prog.calls_bind.mpr ((hcalls ()).mono fun _ _ => trivial)

theorem joining_turns (turns : List RunTurn) :
    Pool.Joining (·.Calls RunTransaction.Issued fun _ => True) (turns.map RunTurn.turn) := by
  intro p hp
  obtain ⟨turn, -, hturn⟩ := List.mem_map.mp hp
  cases turn with
  | inl call =>
    obtain rfl := Turn.join.inj hturn
    exact calls_task call
  | inr i => cases hturn

/-- What holds of the table and the transactions so far. -/
def Sound (world : RunsTable × List (Exchange RunTransactions)) : Prop :=
  ∃ repository, world.1.Persists repository ∧ repository.Consistent ∧
    ∀ id, Pool.granted (claims id) world.2 =
      Pool.granted (releases id) world.2 + held (repository.states.get id)

theorem Sound.transact {transaction : RunTransaction} (hissued : transaction.Issued)
    {world : RunsTable × List (Exchange RunTransactions)} (h : Sound world) :
    Sound (transact.logged transaction world).2 := by
  obtain ⟨repository, hpersists, hconsistent, hcount⟩ := h
  obtain ⟨call, hissued⟩ := hissued
  obtain ⟨repository', hpersists', hsteps⟩ := steps_transact hpersists hissued
  refine ⟨repository', hpersists', hconsistent.steps hsteps, fun id => ?_⟩
  have hstep := hsteps.count id
  have hbefore := hcount id
  show Pool.granted (claims id) (world.2 ++ [_]) = Pool.granted (releases id) (world.2 ++ [_]) + _
  rw [Pool.granted_append, Pool.granted_append]
  show _ + (claims id _ + 0) = _ + (releases id _ + 0) + _
  omega

/-- The operations underway make their transactions only, and what was said of the table and
the transactions so far holds. -/
theorem keeps_interleave (turns : List RunTurn) :
    (interleave turns).Keeps RunTransaction.Issued (fun _ => True) Sound := by
  refine Pool.invariant (fun _ _ hissued h => h.transact hissued) (Pool.keeps_empty ?_)
    (joining_turns turns)
  exact ⟨.empty, RunsTable.persists_empty, InMemoryRunRepository.consistent_empty, fun _ => rfl⟩

end Interleaved

/-- Every row is consistent, whatever the order of the transactions. -/
theorem interleaved_consistent [PyStd] [PyIsoformat] {turns : List RunTurn} {id : UUID} {row : RunState}
    (hrow : (tableAfter turns).state id = some row) : row.Consistent := by
  obtain ⟨-, repository, hpersists, hconsistent, -⟩ := keeps_interleave turns
  rw [tableAfter, hpersists.state] at hrow
  exact hconsistent id row hrow

/-- An action is registered while another registration of it is underway: both have read
that there is no row, and one of them inserts it. -/
def racingRegistrations : List RunTurn :=
  let registration : Registration :=
    { actionId := 0, target := "t", executorRole := "r", capability := "c", objective := some "o",
      approvalStatus := some .awaitingApproval }
  let call : RunCall := .write (.registerAction DateTime.min registration)
  [.inl call, .inl call, .inr 0, .inr 1, .inr 1, .inr 0, .inr 0, .inr 0]

theorem exists_row_racingRegistrations :
    letI := PyStd.ascii
    letI := PyIsoformat.plain
    ∃ row, (tableAfter racingRegistrations).state 0 = some row := by
  let := PyStd.ascii
  let := PyIsoformat.plain
  have hsome : ((tableAfter racingRegistrations).state 0).isSome = true := by decide +kernel
  exact Option.isSome_iff_exists.mp hsome

theorem consistent_racingRegistrations :
    letI := PyStd.ascii
    letI := PyIsoformat.plain
    ∃ row, (tableAfter racingRegistrations).state 0 = some row ∧ row.Consistent := by
  let := PyStd.ascii
  let := PyIsoformat.plain
  obtain ⟨row, hrow⟩ := exists_row_racingRegistrations
  exact ⟨row, hrow, interleaved_consistent hrow⟩

/-- An action is claimed as often as it was released, and once more while it is claimed:
whatever the order of the transactions, between two claims there is a release. -/
theorem interleaved_claims [PyStd] [PyIsoformat] (turns : List RunTurn) (id : UUID) :
    Pool.granted (claims id) (logAfter turns) =
      Pool.granted (releases id) (logAfter turns) + held ((tableAfter turns).state id) := by
  obtain ⟨-, repository, hpersists, -, hcount⟩ := keeps_interleave turns
  rw [tableAfter, hpersists.state]
  exact hcount id

/-- Whatever else happens, a row stays, and what is on record stays on record. -/
theorem interleaved_later [PyStd] [PyIsoformat] {turns turns' : List RunTurn} {id : UUID}
    {row : RunState} (hrow : (tableAfter turns).state id = some row) :
    ∃ row', (tableAfter (turns ++ turns')).state id = some row' ∧ row.Later row' := by
  obtain ⟨htasks, repository, hpersists, -, -⟩ := keeps_interleave turns
  have hafter : interleave (turns ++ turns') =
      Run.after (Pool.turn transact.logged) (interleave turns) (turns'.map RunTurn.turn) := by
    rw [interleave, List.map_append, Run.after_append]
    rfl
  obtain ⟨-, repository', hpersists', hlater⟩ : (interleave (turns ++ turns')).Keeps
      RunTransaction.Issued (fun _ => True) fun world =>
        ∃ repository', world.1.Persists repository' ∧ repository.Later repository' := by
    rw [hafter]
    apply Pool.invariant _ ⟨htasks, repository, hpersists, .refl repository⟩ (joining_turns turns')
    rintro transaction world ⟨call, hissued⟩ ⟨repository', hpersists', hlater⟩
    obtain ⟨repository'', hpersists'', hsteps⟩ := steps_transact hpersists' hissued
    exact ⟨repository'', hpersists'', hlater.trans (InMemoryRunRepository.later_steps hsteps)⟩
  rw [tableAfter, hpersists.state] at hrow
  rw [tableAfter, hpersists'.state]
  exact hlater id row hrow

theorem later_racingRegistrations :
    letI := PyStd.ascii
    letI := PyIsoformat.plain
    ∃ row row', (tableAfter racingRegistrations).state 0 = some row ∧
      (tableAfter (racingRegistrations ++
        [.inl (.write (.recordRejection DateTime.min 0 DateTime.min)), .inr 2, .inr 2])).state 0 =
        some row' ∧ row.Later row' := by
  let := PyStd.ascii
  let := PyIsoformat.plain
  obtain ⟨row, hrow⟩ := exists_row_racingRegistrations
  obtain ⟨row', hrow', hlater⟩ := interleaved_later hrow
  exact ⟨row, row', hrow, hrow', hlater⟩

end Velox
