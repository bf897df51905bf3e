import Velox.SoftwareEngineering.RunPersistence

/-!
# What the transactions of the run repository do

On a table that persists a repository, each transaction is an operation on the states: it
returns what they say, and leaves a table that persists the states after it.

## Main results

* `transact_get`, `transact_listPendingApproval` — reading
* `transact_update`, `transact_insert`, `transact_claim_ok`, `transact_claim_error` — writing
-/

set_option autoImplicit false

namespace Velox

section Transactions

/-- The order in which the actions that wait for approval are listed. -/
def RunState.le (a b : RunState) : Bool :=
  let x := SqlValue.ofOption .ofDateTime a.createdAt
  let y := SqlValue.ofOption .ofDateTime b.createdAt
  if x = y then UUID.str a.actionId ≤ UUID.str b.actionId else x.le y

/-- Rows are ordered as the states they hold. -/
theorem sqlRowLe_of_holds {t : RunsTable} {row row' : List SqlValue} {a b : RunState}
    (ha : t.Holds RunState.values row a) (hb : t.Holds RunState.values row' b) :
    SqlRow.le ["created_at", "action_id"] (t.value row) (t.value row') = RunState.le a b := by
  have hcreated : ∀ {row state}, t.Holds RunState.values row state →
      t.value row "created_at" = some (.ofOption .ofDateTime state.createdAt) :=
    fun hrow => RunsTable.value_of_holds hrow (by simp [RunState.values])
  have haction : ∀ {row state}, t.Holds RunState.values row state →
      t.value row "action_id" = some (.ofUUID state.actionId) :=
    fun hrow => RunsTable.value_of_holds hrow (by simp [RunState.values])
  simp only [SqlRow.le, RunState.le, hcreated ha, hcreated hb, haction ha, haction hb,
    Option.getD_some]
  split_ifs with hsame hid
  · rw [SqlValue.ofUUID_injective hid]
    simp
  · rfl
  · rfl

theorem mapM_eq_ok_of_forall₂ {α β ε : Type} {f : α → Except ε β} {xs : List α} {ys : List β}
    (h : List.Forall₂ (fun x y => f x = .ok y) xs ys) : xs.mapM f = .ok ys := by
  induction h with
  | nil => rfl
  | cons hxy _ ih => rw [List.mapM_cons, hxy, ih]; rfl

variable [PyStd] [PyIsoformat] {t : RunsTable} {repository : InMemoryRunRepository}
  {state : RunState} {id claimId : UUID} {claimedAt : DateTime}

theorem transact_of_ok {transaction : RunTransaction} {a : transaction.Value} {u : Unit}
    {t' : RunsTable} (h : transaction.body.run runStatement () t = ((.ok a, u), t')) :
    transact transaction t = (.ok a, t') := by
  rw [transact, h]

theorem transact_of_error {transaction : RunTransaction} {e : Raised} {u : Unit} {t' : RunsTable}
    (h : transaction.body.run runStatement () t = ((.error e, u), t')) :
    transact transaction t = (.error e, t) := by
  rw [transact, h]

/-- The rows of an action: none, or one that is read back as its state. -/
theorem run_selectAction (h : t.Persists repository) (id : UUID) :
    ∃ rows, runStatement (.select [.isAction id] []) t = (.ok rows, t) ∧
      SqliteRunRepository.optionalState rows.head? = .ok (repository.states.get id) := by
  have hrefusal : (RunStatement.select [.isAction id] []).refusal t = none :=
    refusal_eq_none h (fun _ => isRunColumn_of_all rfl)
      (by simp [RunStatement.bound, SqlCondition.bound, SqlCondition.isAction])
  have hrows := select_isAction h id
  refine ⟨_, run_select hrefusal, ?_⟩
  cases hstate : repository.states.get id with
  | none =>
    rw [hstate] at hrows
    rw [List.forall₂_nil_right_iff.mp hrows]
    rfl
  | some state =>
    rw [hstate] at hrows
    obtain ⟨row, rest, hrow, hrest, hselect⟩ := List.forall₂_cons_right_iff.mp hrows
    obtain rfl := List.forall₂_nil_right_iff.mp hrest
    rw [hselect]
    show (stateFromRow (t.value row)).map some = _
    rw [RunsTable.stateFromRow_of_holds hrow]
    rfl

/-- Reading a row: what is found reads back as the state of the action. -/
theorem transact_get (h : t.Persists repository) (id : UUID) :
    ∃ row, transact (.get id) t = (.ok row, t) ∧
      SqliteRunRepository.optionalState row = .ok (repository.states.get id) := by
  obtain ⟨rows, hrun, hstate⟩ := run_selectAction h id
  refine ⟨rows.head?, transact_of_ok (u := ()) ?_, hstate⟩
  exact Proc.run_bind_of_ok (Proc.run_request_of_eq hrun)

/-- The rows that wait for approval read back as the states that do, sorted. -/
theorem transact_listPendingApproval (h : t.Persists repository) :
    ∃ rows, transact .listPendingApproval t = (.ok rows, t) ∧
      rows.mapM stateFromRow =
        .ok ((repository.states.values.filter RunState.PendingApproval).insertionSort
          fun a b => RunState.le a b) := by
  have hrefusal : (RunStatement.select [
      .equals "approval_status" (.text ApprovalStatus.awaitingApproval.value),
      .isNull "claim_id",
      .isNull "execution_status"] ["created_at", "action_id"]).refusal t = none :=
    refusal_eq_none h (fun _ => isRunColumn_of_all rfl)
      (by simp [RunStatement.bound, SqlCondition.bound])
  refine ⟨_, transact_of_ok (u := ()) (Proc.run_request_of_eq (run_select hrefusal)), ?_⟩
  have hpending : List.Forall₂ (t.Holds RunState.values) (t.select (Meets [
      .equals "approval_status" (.text ApprovalStatus.awaitingApproval.value),
      .isNull "claim_id",
      .isNull "execution_status"])) (repository.states.values.filter RunState.PendingApproval) :=
    h.rows.select fun hrow => by
      have hclaim := holds_isNull (value_claimId hrow) fun _ => SqlValue.noConfusion
      have hexecution := holds_isNull (value_executionStatus hrow) fun _ => SqlValue.noConfusion
      rw [decide_eq_true_iff]
      simp [Meets, holds_approvalStatus hrow, hclaim, hexecution, RunState.PendingApproval]
  have hread : List.Forall₂ (fun row state => ∃ values, row = t.value values ∧
      t.Holds RunState.values values state) _ _ :=
    ColumnTable.forall₂_insertionSort
      (r := fun a b => SqlRow.le ["created_at", "action_id"] a b = true)
      (s := fun a b => RunState.le a b = true)
      (by
        rintro _ _ a b ⟨_, rfl, ha⟩ ⟨_, rfl, hb⟩
        rw [sqlRowLe_of_holds ha hb])
      (List.forall₂_map_left_iff.mpr (hpending.imp fun values _ hrow => ⟨values, rfl, hrow⟩))
  refine mapM_eq_ok_of_forall₂ (hread.imp ?_)
  rintro _ state ⟨values, rfl, hrow⟩
  exact RunsTable.stateFromRow_of_holds hrow

/-- Writing the row of an action: the `UPDATE` of an operation is made where the row allows
it. -/
theorem transact_update (h : t.Persists repository) (write : RunWrite)
    (pendingObjective : Option String) :
    (¬write.Fits ∧ transact (write.transaction pendingObjective) t = (.error bindingError, t)) ∨
      (write.Fits ∧ ∃ state t', repository.states.get write.actionId = some state ∧
        write.Allows state ∧ transact (write.transaction pendingObjective) t = (.ok (), t') ∧
        t'.Persists (repository.store (write.written pendingObjective state))) ∨
      (write.Fits ∧ (∀ state, repository.states.get write.actionId = some state →
        ¬write.Allows state) ∧
        transact (write.transaction pendingObjective) t =
          (.error (runStateError write.unchanged), t)) := by
  have hrefusal := refusal_update h write pendingObjective
  by_cases hfits : write.Fits
  swap
  · rw [if_neg hfits] at hrefusal
    have hrun : runStatement (.update (write.assignments pendingObjective) write.conditions) t =
        (.error bindingError, t) := by rw [runStatement, hrefusal]
    have hbody : (write.transaction pendingObjective).body.run runStatement () t =
        ((.error bindingError, ()), t) := Proc.run_bind_of_error (Proc.run_request_of_eq hrun)
    exact Or.inl ⟨hfits, transact_of_error hbody⟩
  rw [if_pos hfits] at hrefusal
  obtain ⟨hcount, hstored⟩ := run_update (p := fun s => write.Allows s)
    (f := write.written pendingObjective) h hrefusal
    (fun hrow => by rw [RunWrite.meets_conditions hrow, decide_eq_true_iff])
    (fun _ => RunWrite.values_written) fun _ => RunWrite.actionId_written
  rcases hrun : runStatement (.update (write.assignments pendingObjective) write.conditions) t with
    ⟨_, t'⟩
  rw [hrun] at hcount hstored
  obtain rfl := hcount
  have hbody := run_updateOne write.unchanged hrun
  cases hstate : repository.states.get write.actionId with
  | none =>
    rw [hstate] at hbody
    refine Or.inr (Or.inr ⟨hfits, fun _ h => (Option.some_ne_none _ h.symm).elim, ?_⟩)
    exact transact_of_error hbody
  | some state =>
    rw [hstate] at hbody
    by_cases hallows : write.Allows state
    · have hone : [state].filter (fun s => write.Allows s) = [state] :=
        List.filter_cons_of_pos (by simpa using hallows)
      rw [Option.toList_some, hone] at hbody
      exact Or.inr (Or.inl ⟨hfits, state, t', rfl, hallows, transact_of_ok hbody,
        hstored state hstate (by simpa using hallows)⟩)
    · have hnone : [state].filter (fun s => write.Allows s) = [] :=
        List.filter_cons_of_neg (by simpa using hallows)
      rw [Option.toList_some, hnone] at hbody
      refine Or.inr (Or.inr ⟨hfits, fun s hs => ?_, transact_of_error hbody⟩)
      obtain rfl := Option.some.inj hs
      exact hallows

/-- What is done with the row of an action that is to be claimed. -/
theorem run_claimRow (h : t.Persists repository) (claimedAt : DateTime) (claimId : UUID)
    {row : Option SqlRow}
    (hrow : SqliteRunRepository.optionalState row = .ok (repository.states.get id)) :
    (claimApproved claimedAt claimId (repository.states.get id)).either
      (fun claimed => ∃ current objective t',
        (RunTransaction.claimRow claimedAt claimId id row).run runStatement () t =
            ((.ok (current, objective), ()), t') ∧
          claimed.1 = { actionId := id, claimId, target := current.target, objective, claimedAt } ∧
          t'.Persists (repository.store claimed.2))
      fun e => (RunTransaction.claimRow claimedAt claimId id row).run runStatement () t =
        ((.error e, ()), t) := by
  rcases row with _ | row
  · have hnone : repository.states.get id = none := (Except.ok.inj hrow).symm
    rw [hnone]
    rfl
  · rw [SqliteRunRepository.optionalState] at hrow
    cases hread : stateFromRow row with
    | error e =>
      rw [hread] at hrow
      cases hrow
    | ok current =>
      rw [hread] at hrow
      have hcurrent : repository.states.get id = some current := (Except.ok.inj hrow).symm
      have hchecked : (RunTransaction.claimRow claimedAt claimId id (some row)).run runStatement () t =
          (Proc.ofExcept (RunTransaction.claimable current) >>= fun objective => do
            RunTransaction.updateOne (RunTransaction.claimAssignments claimedAt claimId)
              (RunTransaction.claimConditions id)
              "software engineering action could not be claimed atomically"
            return (current, objective) : StatementTask _).run runStatement () t :=
        Proc.run_bind_of_ok (congrArg (fun r => ((r, ()), t)) hread)
      rw [hchecked, hcurrent, claimApproved_some]
      cases hclaimable : RunTransaction.claimable current with
      | error e => exact Proc.run_bind_of_error rfl
      | ok objective =>
        obtain ⟨t', hupdate, hstored⟩ := run_claimOne h
          hcurrent (unclaimed_of_claimable hclaimable)
        refine ⟨current, objective, t', ?_, ?_, hstored⟩
        · exact (Proc.run_bind_of_ok rfl).trans (Proc.run_bind_of_ok hupdate)
        · rw [repository.identified hcurrent]

theorem run_claim {rows : List SqlRow} (hselect : runStatement (.select [.isAction id] []) t = (.ok rows, t)) :
    (RunTransaction.claim claimedAt claimId id).body.run runStatement () t =
      (RunTransaction.claimRow claimedAt claimId id rows.head?).run runStatement () t :=
  Proc.run_bind_of_ok (Proc.run_request_of_eq hselect)

theorem transact_claim_ok (h : t.Persists repository) {claim : ActionClaim}
    (hclaim : claimApproved claimedAt claimId (repository.states.get id) = .ok (claim, state)) :
    ∃ current objective t',
      transact (.claim claimedAt claimId id) t = (.ok (current, objective), t') ∧
        claim = { actionId := id, claimId, target := current.target, objective, claimedAt } ∧
        t'.Persists (repository.store state) := by
  obtain ⟨rows, hselect, hstate⟩ := run_selectAction h id
  have hrow := run_claimRow h claimedAt claimId hstate
  rw [hclaim] at hrow
  obtain ⟨current, objective, t', hrun, hclaim, hstored⟩ := hrow
  exact ⟨current, objective, t', transact_of_ok ((run_claim hselect).trans hrun), hclaim, hstored⟩

theorem transact_claim_error (h : t.Persists repository) {e : Raised}
    (hclaim : claimApproved claimedAt claimId (repository.states.get id) = .error e) :
    transact (.claim claimedAt claimId id) t = (.error e, t) := by
  obtain ⟨rows, hselect, hstate⟩ := run_selectAction h id
  have hrow := run_claimRow h claimedAt claimId hstate
  rw [hclaim, Except.either_error] at hrow
  exact transact_of_error ((run_claim hselect).trans hrow)

/-- A new row: it is appended, unless the action has one. -/
theorem transact_insert (h : t.Persists repository) (registration : Registration)
    (objective : Option String) (now : DateTime) :
    (repository.states.get registration.actionId = none ∧
      ∃ t', transact (.insert (registration.inserted objective now)) t = (.ok (), t') ∧
        t'.Persists (repository.store (registration.newState objective now))) ∨
      repository.states.get registration.actionId ≠ none ∧
        transact (.insert (registration.inserted objective now)) t = (.error integrityError, t) := by
  have hrefusal : (RunStatement.insert (registration.inserted objective now)).refusal t = none :=
    refusal_eq_none h (fun _ => isRunColumn_of_all rfl) fits_inserted
  have hrun : runStatement (.insert (registration.inserted objective now)) t =
      if t.Violates (registration.inserted objective now) then (.error integrityError, t)
      else (.ok (), t.insert (registration.inserted objective now) .null) := by
    rw [runStatement, hrefusal]
  by_cases hviolates : t.Violates (registration.inserted objective now)
  · rw [if_pos hviolates] at hrun
    exact Or.inr ⟨(violates_inserted h).mp hviolates,
      transact_of_error (u := ()) (Proc.run_request_of_eq hrun)⟩
  · rw [if_neg hviolates] at hrun
    have hnone : repository.states.get registration.actionId = none :=
      not_not.mp fun hsome => hviolates ((violates_inserted h).mpr hsome)
    refine Or.inl ⟨hnone, _, transact_of_ok (u := ()) (Proc.run_request_of_eq hrun), h.columns, ?_⟩
    rw [InMemoryRunRepository.values_store_of_none hnone]
    refine h.rows.insert (fun c hc => h.mem_names ?_) values_newState
    rw [IsRunColumn, ← RunState.names_values]
    exact List.mem_map_of_mem hc

end Transactions

end Velox
