import Velox.Lib.Substitution
import Velox.SoftwareEngineering.SqliteTransactions

/-!
# What the operations of the SQLite repository do

Undisturbed, each operation of the durable repository does on a table what the
process-local repository does on the states the table persists. They part where a claim is
released on a row that is not approved, which the durable repository refuses, and where a
pull request number does not fit into 64 bits, which cannot be bound.

## Main definitions

* `RunWrite.Alike` — the operations both repositories accept

## Main results

* `SqliteRunRepository.run_get`, `SqliteRunRepository.run_listPendingApproval` — reading
* `SqliteRunRepository.run_claimApproved`, `SqliteRunRepository.run_write` — writing
-/

set_option autoImplicit false

namespace Velox

/-- What the durable repository asks in addition: a claim is released on an approved row,
and a pull request number that is recorded has 64 bits. -/
def RunWrite.Alike (write : RunWrite) (row : RunState) : Prop :=
  match write with
  | .releaseUnstartedClaim .. => row.approvalStatus = some .approved
  | _ => write.Fits

section Rows

variable {row state : RunState} {id : UUID} {expected reconciled : DateTime}

/-- A registration of an action that has a row. -/
theorem registerAction_some {registration : Registration} {objective : Option String}
    (now : DateTime) (row : RunState)
    (hobjective : normalizeObjective registration.objective = .ok objective) :
    (RunWrite.registerAction now registration).apply (some row) =
      (SqliteRunRepository.requireSame registration objective row).map fun _ =>
        (RunWrite.registerAction now registration).written row.pendingObjective row := by
  have hmerge : registration.merge objective now row =
      (RunWrite.registerAction now registration).written row.pendingObjective row := by
    obtain ⟨rfl, -⟩ := normalizeObjective_eq_ok_iff.mp hobjective
    exact RunWrite.merge_eq_written
  rw [RunWrite.apply, Velox.registerAction, hobjective, ← hmerge, SqliteRunRepository.requireSame]
  show (requireSameIdentity row _ _ _ >>= _) = Except.map _ (requireSameIdentity row _ _ _ >>= _)
  cases requireSameIdentity row registration.target registration.executorRole
    registration.capability with
  | error e => rfl
  | ok _ => cases requireCompatibleObjective row objective <;> rfl

/-- What a release of a claim asks for, and that the row is approved. -/
theorem releaseUnstartedClaim_some :
    (RunWrite.releaseUnstartedClaim id expected reconciled).apply (some row) = .ok state ∧
        row.approvalStatus = some .approved ↔
      (RunWrite.releaseUnstartedClaim id expected reconciled).Allows row ∧
        state = row.released reconciled := by
  rw [RunWrite.apply, releaseUnstartedClaim_eq_ok_iff]
  simp only [Option.some.injEq, exists_eq_left', RunWrite.Allows]
  tauto

theorem abandonStartedClaim_some :
    (RunWrite.abandonStartedClaim id expected reconciled).apply (some row) = .ok state ↔
      (RunWrite.abandonStartedClaim id expected reconciled).Allows row ∧
        state = row.abandoned reconciled := by
  rw [RunWrite.apply, abandonStartedClaim_eq_ok_iff]
  simp only [Option.some.injEq, exists_eq_left', RunWrite.Allows]
  tauto

end Rows

theorem not_isSqliteError_runStateError (message : String) :
    ¬IsSqliteError (runStateError message) := by
  simp [IsSqliteError, runStateError]

theorem not_isSqliteError_bindingError : ¬IsSqliteError bindingError := by
  simp [IsSqliteError, bindingError]

namespace SqliteRunRepository

variable [PyStd] [PyIsoformat] {t t' : RunsTable} {repository : InMemoryRunRepository}

/-! ### Transactions -/

theorem run_transaction_of_ok {transaction : RunTransaction} {message : String}
    {a : transaction.Value} (h : transact transaction t = (.ok a, t')) :
    (SqliteRunRepository.transaction transaction message).run transact () t = ((.ok a, ()), t') :=
  Proc.run_tryCatch_of_ok (Proc.run_request_of_eq h)

/-- What is not raised by the database is raised on. -/
theorem run_transaction_of_error {transaction : RunTransaction} {message : String} {e : Raised}
    (h : transact transaction t = (.error e, t')) (he : ¬IsSqliteError e) :
    (SqliteRunRepository.transaction transaction message).run transact () t =
      ((.error e, ()), t') := by
  have hrequest : (Proc.request RunTransactions transaction id : SqliteTask _).run transact () t =
      ((.error e, ()), t') := Proc.run_request_of_eq h
  refine (Proc.run_tryCatch_of_error hrequest).trans ?_
  show ((Except.error (databaseError message e), ()), t') = _
  rw [databaseError, if_neg he]

/-! ### Reading -/

theorem run_get (h : t.Persists repository) (id : UUID) :
    (get id).run transact () t = ((.ok (repository.states.get id), ()), t) := by
  obtain ⟨row, htransact, hstate⟩ := transact_get h id
  refine (Proc.run_bind_of_ok (run_transaction_of_ok htransact)).trans ?_
  show ((optionalState row, ()), t) = _
  rw [hstate]

theorem run_require (h : t.Persists repository) (id : UUID) :
    (require id).run transact () t = ((requireState (repository.states.get id), ()), t) :=
  Proc.run_bind_of_ok (run_get h id)

theorem run_listPendingApproval (h : t.Persists repository) :
    listPendingApproval.run transact () t =
      ((.ok ((repository.states.values.filter RunState.PendingApproval).insertionSort
        fun a b => RunState.le a b), ()), t) := by
  obtain ⟨rows, htransact, hstates⟩ := transact_listPendingApproval h
  refine (Proc.run_bind_of_ok (run_transaction_of_ok htransact)).trans ?_
  show ((rows.mapM stateFromRow, ()), t) = _
  rw [hstates]

/-! ### Claiming -/

theorem run_claimApproved (h : t.Persists repository) (claimedAt : DateTime) (claimId id : UUID) :
    (Velox.claimApproved claimedAt claimId (repository.states.get id)).either
      (fun claimed => ∃ t', (claimApproved claimedAt claimId id).run transact () t =
        ((.ok claimed.1, ()), t') ∧ t'.Persists (repository.store claimed.2))
      fun e => (claimApproved claimedAt claimId id).run transact () t = ((.error e, ()), t) := by
  cases hclaim : Velox.claimApproved claimedAt claimId (repository.states.get id) with
  | ok claimed =>
    obtain ⟨current, objective, t', htransact, hclaimed, hstored⟩ :=
      transact_claim_ok h hclaim
    refine ⟨t', (Proc.run_bind_of_ok (run_transaction_of_ok htransact)).trans ?_, hstored⟩
    rw [hclaimed]
    rfl
  | error e =>
    have hkind : IsRunStateError e := claimApproved_raisesOnly _ _ _ _ hclaim
    refine Proc.run_bind_of_error (run_transaction_of_error (transact_claim_error h hclaim) ?_)
    simp [IsSqliteError, hkind]

/-! ### Writing -/

/-- What an operation comes to on a table that persists a repository: the state is written
as the process-local repository writes it, or the operation is refused as there, or the two
repositories part. -/
inductive Outcome (t : RunsTable) (repository : InMemoryRunRepository) (write : RunWrite) :
    Except Raised RunState → RunsTable → Prop
  | written {state : RunState} {t' : RunsTable}
      (happly : write.apply (repository.states.get write.actionId) = .ok state)
      (halike : ∀ row, repository.states.get write.actionId = some row → write.Alike row)
      (hstored : t'.Persists (repository.store state)) :
      Outcome t repository write (.ok state) t'
  | refused {e e' : Raised}
      (happly : write.apply (repository.states.get write.actionId) = .error e')
      (hkind : IsRunStateError e) :
      Outcome t repository write (.error e) t
  | apart {row state : RunState} {e : Raised}
      (hrow : repository.states.get write.actionId = some row)
      (happly : write.apply (some row) = .ok state) (halike : ¬write.Alike row)
      (hexception : e.isException) :
      Outcome t repository write (.error e) t

variable {write : RunWrite} {row state : RunState} {message : String}

/-- The state of an action that has just been stored is read again. -/
theorem run_require_store (h : t.Persists (repository.store state)) {id : UUID}
    (hid : state.actionId = id) : (require id).run transact () t = ((.ok state, ()), t) := by
  rw [run_require h, InMemoryRunRepository.get_store, hid, Function.update_self]
  rfl

/-- The `UPDATE` of an operation. -/
theorem run_update (h : t.Persists repository) (write : RunWrite)
    (pendingObjective : Option String) :
    (¬write.Fits ∧ (update write pendingObjective).run transact () t =
        ((.error bindingError, ()), t)) ∨
      (write.Fits ∧ ∃ row t', repository.states.get write.actionId = some row ∧
        write.Allows row ∧ (update write pendingObjective).run transact () t = ((.ok (), ()), t') ∧
        t'.Persists (repository.store (write.written pendingObjective row))) ∨
      (write.Fits ∧ (∀ row, repository.states.get write.actionId = some row → ¬write.Allows row) ∧
        (update write pendingObjective).run transact () t =
          ((.error (runStateError write.unchanged), ()), t)) := by
  rcases transact_update h write pendingObjective with ⟨hfits, htransact⟩ |
    ⟨hfits, row, t', hrow, hallows, htransact, hstored⟩ | ⟨hfits, hrow, htransact⟩
  · exact Or.inl ⟨hfits, run_transaction_of_error htransact not_isSqliteError_bindingError⟩
  · exact Or.inr (Or.inl ⟨hfits, row, t', hrow, hallows, run_transaction_of_ok htransact, hstored⟩)
  · exact Or.inr (Or.inr ⟨hfits, hrow,
      run_transaction_of_error htransact (not_isSqliteError_runStateError _)⟩)

/-- An operation whose conditions are checked before it writes. -/
theorem run_checked (h : t.Persists repository) (write : RunWrite) {check : RunState → Except Raised Unit}
    (hallows : ∀ row, write.Allows row) (halike : ∀ row, write.Alike row ↔ write.Fits)
    (hnone : ∃ e, write.apply none = .error e)
    (hsome : ∀ row, write.apply (some row) =
      (check row).map fun _ => write.written row.pendingObjective row) :
    Outcome t repository write ((checked write check).run transact () t).1.1
      ((checked write check).run transact () t).2 := by
  have hrequire := run_require h write.actionId
  cases hstate : repository.states.get write.actionId with
  | none =>
    rw [hstate] at hrequire
    rw [checked, Proc.run_bind_of_error hrequire]
    obtain ⟨e, he⟩ := hnone
    exact .refused (hstate ▸ he) rfl
  | some row =>
    rw [hstate] at hrequire
    rw [checked, Proc.run_bind_of_ok hrequire]
    have happly := hsome row
    cases hcheck : check row with
    | error e =>
      rw [hcheck] at happly
      rw [Proc.run_ofExcept_bind_error]
      exact .refused (hstate ▸ happly) (write.apply_raisesOnly _ _ happly)
    | ok _ =>
      rw [hcheck] at happly
      rw [Proc.run_ofExcept_bind_ok]
      rcases run_update h write row.pendingObjective with ⟨hfits, hrun⟩ |
        ⟨hfits, row', t', hrow, -, hrun, hstored⟩ | ⟨-, hnot, -⟩
      · rw [Proc.run_bind_of_error hrun]
        exact .apart hstate happly (fun hlike => hfits ((halike row).mp hlike)) rfl
      · obtain rfl : row = row' := Option.some.inj (hstate.symm.trans hrow)
        rw [Proc.run_bind_of_ok hrun, run_require_store hstored
          (RunWrite.actionId_written.trans (repository.identified hstate))]
        exact .written (hstate ▸ happly) (fun row _ => (halike row).mpr hfits) hstored
      · exact absurd (hallows row) (hnot row hstate)

/-- An operation whose checks are the conditions of its `UPDATE`. -/
theorem run_guarded (h : t.Persists repository) (write : RunWrite) (hfits : write.Fits)
    (hnone : ∃ e, write.apply none = .error e)
    (hsome : ∀ row, write.Allows row →
      write.Alike row ∧ write.apply (some row) = .ok (write.written none row))
    (hnot : ∀ row state, write.apply (some row) = .ok state → write.Alike row → write.Allows row) :
    Outcome t repository write ((guarded write).run transact () t).1.1
      ((guarded write).run transact () t).2 := by
  rcases run_update h write none with ⟨hlarge, -⟩ | ⟨-, row, t', hrow, hallows, hrun, hstored⟩ |
    ⟨-, hrefused, hrun⟩
  · exact absurd hfits hlarge
  · rw [guarded, Proc.run_bind_of_ok hrun, run_require_store hstored
      (RunWrite.actionId_written.trans (repository.identified hrow))]
    refine .written (hrow ▸ (hsome row hallows).2) (fun row' hrow' => ?_) hstored
    obtain rfl := Option.some.inj (hrow.symm.trans hrow')
    exact (hsome row hallows).1
  · rw [guarded, Proc.run_bind_of_error hrun]
    cases hstate : repository.states.get write.actionId with
    | none =>
      obtain ⟨e, he⟩ := hnone
      exact .refused (hstate ▸ he) rfl
    | some row =>
      cases happly : write.apply (some row) with
      | error e => exact .refused (hstate ▸ happly) rfl
      | ok state =>
        exact .apart hstate happly (fun hlike => hrefused row hstate (hnot row state happly hlike)) rfl

/-- A registration: the row is written, or a new one is. -/
theorem run_registerAction (h : t.Persists repository) (now : DateTime)
    (registration : Registration) :
    Outcome t repository (.registerAction now registration)
      ((registerAction now registration).run transact () t).1.1
      ((registerAction now registration).run transact () t).2 := by
  cases hobjective : normalizeObjective registration.objective with
  | error e =>
    have happly : (RunWrite.registerAction now registration).apply
        (repository.states.get registration.actionId) = .error e := by
      rw [RunWrite.apply, Velox.registerAction, hobjective]
      rfl
    rw [registerAction, hobjective, Proc.run_ofExcept_bind_error]
    exact .refused happly (RunWrite.apply_raisesOnly _ _ _ happly)
  | ok objective =>
    rw [registerAction, hobjective, Proc.run_ofExcept_bind_ok,
      Proc.run_bind_of_ok (run_get h registration.actionId)]
    cases hstate : repository.states.get registration.actionId with
    | none =>
      have happly : (RunWrite.registerAction now registration).apply none =
          .ok (registration.newState objective now) := by
        rw [RunWrite.apply, Velox.registerAction, hobjective]
        rfl
      rcases transact_insert h registration objective now with
        ⟨-, t', htransact, hstored⟩ | ⟨hsome, -⟩
      · have hinsert : (insert registration objective now).run transact () t =
            ((.ok (), ()), t') := Proc.run_tryCatch_of_ok (Proc.run_request_of_eq htransact)
        have hread : (require registration.actionId).run transact () t' =
            ((.ok (registration.newState objective now), ()), t') := run_require_store hstored rfl
        rw [Proc.run_bind_of_ok hinsert, hread]
        exact .written (hstate ▸ happly) (fun _ _ => trivial) hstored
      · exact absurd hstate hsome
    | some row =>
      have happly := registerAction_some now row hobjective
      cases hsame : requireSame registration objective row with
      | error e =>
        have hcheck : (Proc.ofExcept (requireSame registration objective row) :
            SqliteTask Unit).run transact () t = ((.error e, ()), t) := by rw [hsame]; rfl
        rw [hsame] at happly
        rw [Proc.run_bind_of_error hcheck]
        exact .refused (hstate ▸ happly) (RunWrite.apply_raisesOnly _ _ _ happly)
      | ok _ =>
        have hcheck : (Proc.ofExcept (requireSame registration objective row) :
            SqliteTask Unit).run transact () t = ((.ok (), ()), t) := by rw [hsame]; rfl
        rw [hsame] at happly
        rw [Proc.run_bind_of_ok hcheck]
        rcases run_update h (.registerAction now registration) row.pendingObjective with
          ⟨hfits, -⟩ | ⟨-, row', t', hrow, -, hrun, hstored⟩ | ⟨-, hnot, -⟩
        · exact absurd trivial hfits
        · obtain rfl : row = row' := Option.some.inj (hstate.symm.trans hrow)
          rw [Proc.run_bind_of_ok hrun, run_require_store hstored
            (RunWrite.actionId_written.trans (repository.identified hstate))]
          exact .written (hstate ▸ happly) (fun _ _ => trivial) hstored
        · exact absurd trivial (hnot row hstate)

/-- On a table that persists a repository, every operation writes what the process-local
repository writes, or is refused as there, or the two part. -/
theorem run_write (h : t.Persists repository) (w : RunWrite) :
    Outcome t repository w ((SqliteRunRepository.write w).run transact () t).1.1
      ((SqliteRunRepository.write w).run transact () t).2 := by
  cases w with
  | registerAction now registration => exact run_registerAction h now registration
  | recordApproval now id objective approvedAt =>
    refine run_checked h (.recordApproval now id objective approvedAt) (fun _ => trivial)
      (fun _ => Iff.rfl) ⟨_, rfl⟩ fun row => ?_
    show (normalizeRequiredObjective (some objective) >>= _) = Except.map _ (_ >>= _)
    cases hobjective : normalizeRequiredObjective (some objective) with
    | error e => rfl
    | ok normalized =>
      obtain ⟨hstrip, -⟩ := normalizeRequiredObjective_eq_ok_iff.mp hobjective
      obtain rfl := Option.some.inj hstrip
      simp only [requireCompatibleObjective, Except.raiseIf, Except.ok_bind]
      split_ifs <;> rfl
  | recordRejection now id rejectedAt =>
    refine run_checked h (.recordRejection now id rejectedAt) (fun _ => trivial)
      (fun _ => Iff.rfl) ⟨_, rfl⟩ fun row => ?_
    simp only [RunWrite.apply, Velox.recordRejection, requireState, Except.ok_bind, Except.raiseIf]
    split_ifs <;> rfl
  | recordExecutionStarted now id startedAt =>
    refine run_checked h (.recordExecutionStarted now id startedAt) (fun _ => trivial)
      (fun _ => Iff.rfl) ⟨_, rfl⟩ fun row => ?_
    simp only [RunWrite.apply, Velox.recordExecutionStarted, requireState, Except.ok_bind,
      Except.raiseIf]
    split_ifs <;> rfl
  | releaseUnstartedClaim id expected reconciled =>
    refine run_guarded h (.releaseUnstartedClaim id expected reconciled) trivial ⟨_, rfl⟩ ?_ ?_
    · intro row hallows
      exact (releaseUnstartedClaim_some.mpr ⟨hallows, rfl⟩).symm
    · intro row state happly halike
      exact (releaseUnstartedClaim_some.mp ⟨happly, halike⟩).1
  | abandonStartedClaim id expected reconciled =>
    refine run_guarded h (.abandonStartedClaim id expected reconciled) trivial ⟨_, rfl⟩ ?_ ?_
    · intro row hallows
      exact ⟨trivial, abandonStartedClaim_some.mpr ⟨hallows, rfl⟩⟩
    · intro row state happly _
      exact (abandonStartedClaim_some.mp happly).1
  | recordExecution now id status finishedAt external =>
    exact run_checked h (.recordExecution now id status finishedAt external) (fun _ => trivial)
      (fun _ => Iff.rfl) ⟨_, rfl⟩ fun row => rfl
  | recordDisposition now result =>
    exact run_checked h (.recordDisposition now result) (fun _ => trivial) (fun _ => Iff.rfl)
      ⟨_, rfl⟩ fun row => rfl
  | recordPromotion now promotion =>
    exact run_checked h (.recordPromotion now promotion) (fun _ => trivial) (fun _ => Iff.rfl)
      ⟨_, rfl⟩ fun row => rfl

end SqliteRunRepository

end Velox
