import Velox.Lib.Substitution
import Velox.SoftwareEngineering.SqliteRepository

/-!
# Tables that persist a repository

A table persists a repository when its rows hold the states, in the order the actions
arrived. The statements of the run repository are then operations on the states.

## Main definitions

* `RunsTable.Persists` — the table holds the states of a repository
* `RunWrite.written`, `RunWrite.Allows` — an `UPDATE`, read as a change of states

## Main results

* `RunWrite.values_written`, `RunWrite.meets_conditions` — the columns an operation writes,
  and the rows it writes to
* `select_states`, `run_update`, `run_claimOne`, `violates_inserted` — the statements
-/

set_option autoImplicit false

namespace Velox

/-! ### Columns -/

/-- A statement may name every column of version 3. -/
def IsRunColumn (name : String) : Prop := name ∈ v3Columns.map Prod.fst

instance (name : String) : Decidable (IsRunColumn name) := inferInstanceAs (Decidable (_ ∈ _))

theorem isRunColumn_of_all {names : List String} (h : names.all (IsRunColumn ·) = true)
    {name : String} (hname : name ∈ names) : IsRunColumn name :=
  of_decide_eq_true (List.all_eq_true.mp h name hname)

/-- The table holds the states of a repository, in the order they arrived. -/
structure RunsTable.Persists (t : RunsTable) (repository : InMemoryRunRepository) : Prop where
  columns : t.columns.Perm v3Columns
  rows : t.Lists RunState.values repository.states.values

namespace RunsTable

variable {t : RunsTable} {repository : InMemoryRunRepository} {row : List SqlValue}
  {state : RunState} {actionId : UUID}

theorem persists_empty : RunsTable.Persists emptyRuns .empty := ⟨.refl _, .nil⟩

theorem Persists.mem_names (h : t.Persists repository) {name : String} (hname : IsRunColumn name) :
    name ∈ t.names :=
  (h.columns.map Prod.fst).mem_iff.mpr hname

/-- What a row holds under a column. -/
theorem value_of_holds (h : t.Holds RunState.values row state) {name : String} {value : SqlValue}
    (hvalue : (name, value) ∈ state.values) : t.value row name = some value :=
  h _ hvalue

/-- A row is read back as the state it holds. -/
theorem stateFromRow_of_holds [PyStd] [PyIsoformat] (h : t.Holds RunState.values row state) :
    stateFromRow (t.value row) = .ok state :=
  stateFromRow_of_values h

end RunsTable

@[simp] theorem SqlValue.fits_null : SqlValue.null.Fits := trivial

@[simp] theorem SqlValue.fits_text (s : String) : (SqlValue.text s).Fits := trivial

@[simp] theorem SqlValue.fits_ofUUID (id : UUID) : (SqlValue.ofUUID id).Fits := trivial

@[simp] theorem SqlValue.fits_ofDateTime (t : DateTime) : (SqlValue.ofDateTime t).Fits := trivial

@[simp] theorem SqlValue.fits_ofBool (b : Bool) : (SqlValue.ofBool b).Fits := by
  cases b <;> decide

@[simp] theorem SqlValue.fits_integer (n : ℤ) :
    (SqlValue.integer n).Fits ↔ -2 ^ 63 ≤ n ∧ n < 2 ^ 63 := Iff.rfl

/-! ### The states of a repository -/

namespace InMemoryRunRepository

variable {repository : InMemoryRunRepository} {state : RunState} {id : UUID}

theorem actionId_of_mem_entries {e : UUID × RunState} (he : e ∈ repository.states.entries) :
    e.2.actionId = e.1 :=
  repository.identified (OrderedDict.get_of_mem_entries he)

/-- The states of an action that satisfy a condition. -/
theorem filter_states {p : RunState → Bool} :
    (repository.states.values.filter fun s => s.actionId = id ∧ p s = true) =
      (repository.states.get id).toList.filter p := by
  have hentries : (repository.states.entries.filter fun e => e.2.actionId = id) =
      ((repository.states.get id).map fun s => (id, s)).toList := by
    rw [← OrderedDict.filter_entries_key]
    exact List.filter_congr fun e he => by rw [actionId_of_mem_entries he]
  have hstates : (repository.states.values.filter fun s => s.actionId = id) =
      (repository.states.get id).toList := by
    rw [OrderedDict.values, List.filter_map]
    refine (congrArg (List.map Prod.snd) hentries).trans ?_
    cases repository.states.get id <;> rfl
  rw [← hstates, List.filter_filter]
  exact List.filter_congr fun s _ => by rw [Bool.decide_and, Bool.and_comm, Bool.decide_eq_true]

/-- Changing the state of an action in its place. -/
theorem values_store {p : RunState → Bool} {f : RunState → RunState}
    (hstate : repository.states.get id = some state) (hp : p state = true)
    (hf : (f state).actionId = id) :
    (repository.store (f state)).states.values =
      repository.states.values.map fun s => if s.actionId = id ∧ p s = true then f s else s := by
  have hstored : (repository.store (f state)).states = repository.states.set id (f state) := by
    rw [← hf]
    rfl
  rw [hstored, OrderedDict.values_set_of_get_eq_some hstate, OrderedDict.values, List.map_map]
  refine List.map_congr_left fun e he => ?_
  rw [Function.comp_apply, actionId_of_mem_entries he]
  by_cases hid : e.1 = id
  · -- the entry of the action is the one its state is read from
    obtain rfl : e.2 = state := by
      have hget := OrderedDict.get_of_mem_entries he
      rw [hid, hstate] at hget
      exact (Option.some.inj hget).symm
    rw [if_pos hid, if_pos ⟨hid, hp⟩]
  · rw [if_neg hid, if_neg fun h => hid h.1]

/-- A new action comes last. -/
theorem values_store_of_none (hstate : repository.states.get state.actionId = none) :
    (repository.store state).states.values = repository.states.values ++ [state] :=
  OrderedDict.values_set_of_get_eq_none hstate

end InMemoryRunRepository

/-! ### Conditions -/

theorem SqlValue.ofUUID_injective : Function.Injective SqlValue.ofUUID := by
  intro a b hab
  exact UUID.str_injective (SqlValue.text.inj hab)

theorem SqlValue.ofDateTime_injective : Function.Injective SqlValue.ofDateTime := by
  intro a b hab
  have htext : a.isoformat = b.isoformat := SqlValue.text.inj hab
  have hread := congrArg DateTime.fromisoformat htext
  rw [DateTime.fromisoformat_isoformat, DateTime.fromisoformat_isoformat] at hread
  exact Option.some.inj hread

section Holds

variable {t : RunsTable} {row : List SqlValue} {state : RunState}

/-- A condition that a column has a value which is not `NULL`. -/
theorem holds_equals {column : String} {value old : SqlValue}
    (hold : t.value row column = some old) (hnull : value ≠ .null) :
    SqlCondition.holds (t.value row) (.equals column value) = true ↔ old = value := by
  simp [SqlCondition.holds, hold, hnull]

theorem holds_isNull {α : Type} {column : String} {write : α → SqlValue} {value : Option α}
    (hold : t.value row column = some (.ofOption write value)) (hwrite : ∀ a, write a ≠ .null) :
    SqlCondition.holds (t.value row) (.isNull column) = true ↔ value = none := by
  cases value <;> simp [SqlCondition.holds, hold, SqlValue.ofOption, hwrite]

theorem holds_isNotNull {α : Type} {column : String} {write : α → SqlValue} {value : Option α}
    (hold : t.value row column = some (.ofOption write value)) (hwrite : ∀ a, write a ≠ .null) :
    SqlCondition.holds (t.value row) (.isNotNull column) = true ↔ value ≠ none := by
  cases value <;> simp [SqlCondition.holds, hold, SqlValue.ofOption, hwrite]

theorem ofOption_eq_iff {α : Type} {write : α → SqlValue} (hwrite : Function.Injective write)
    {value : Option α} {a : α} (hnull : write a ≠ .null) :
    SqlValue.ofOption write value = write a ↔ value = some a := by
  cases value with
  | none => simp [SqlValue.ofOption, hnull.symm]
  | some b => simp [SqlValue.ofOption, hwrite.eq_iff]

theorem ApprovalStatus.value_injective :
    Function.Injective fun status : ApprovalStatus => SqlValue.text status.value := by
  intro a b hab
  have hread := congrArg ApprovalStatus.parse (SqlValue.text.inj hab)
  rw [ApprovalStatus.parse_value, ApprovalStatus.parse_value] at hread
  exact Option.some.inj hread

variable (h : t.Holds RunState.values row state)

include h

theorem holds_isAction {actionId : UUID} :
    SqlCondition.holds (t.value row) (.isAction actionId) = true ↔ state.actionId = actionId := by
  have hold : t.value row "action_id" = some (.ofUUID state.actionId) :=
    RunsTable.value_of_holds h (by simp [RunState.values])
  rw [SqlCondition.isAction, holds_equals hold (by simp [SqlValue.ofUUID])]
  exact SqlValue.ofUUID_injective.eq_iff

theorem holds_approvalStatus {status : ApprovalStatus} :
    SqlCondition.holds (t.value row) (.equals "approval_status" (.text status.value)) = true ↔
      state.approvalStatus = some status := by
  have hold : t.value row "approval_status" =
      some (.ofOption (fun status => .text status.value) state.approvalStatus) :=
    RunsTable.value_of_holds h (by simp [RunState.values])
  rw [holds_equals hold (by simp)]
  exact ofOption_eq_iff ApprovalStatus.value_injective (by simp)

theorem holds_updatedAt {expected : DateTime} :
    SqlCondition.holds (t.value row) (.equals "updated_at" (.ofDateTime expected)) = true ↔
      state.updatedAt = some expected := by
  have hold : t.value row "updated_at" = some (.ofOption .ofDateTime state.updatedAt) :=
    RunsTable.value_of_holds h (by simp [RunState.values])
  rw [holds_equals hold (by simp [SqlValue.ofDateTime])]
  exact ofOption_eq_iff SqlValue.ofDateTime_injective (by simp [SqlValue.ofDateTime])

theorem value_claimId : t.value row "claim_id" = some (.ofOption .ofUUID state.claimId) :=
  RunsTable.value_of_holds h (by simp [RunState.values])

theorem value_executionStatus :
    t.value row "execution_status" = some (.ofOption .text state.executionStatus) :=
  RunsTable.value_of_holds h (by simp [RunState.values])

theorem value_executionStartedAt :
    t.value row "execution_started_at" = some (.ofOption .ofDateTime state.executionStartedAt) :=
  RunsTable.value_of_holds h (by simp [RunState.values])

end Holds

/-! ### Updates -/

namespace RunWrite

/-- The state after the `UPDATE` of an operation, the row having been read with the given
pending objective. -/
def written : RunWrite → Option String → RunState → RunState
  | .registerAction now registration, pendingObjective, state =>
    { state with
      delegationStatus := registration.delegationStatus.or state.delegationStatus
      pendingObjective := (if pendingObjective = none then
        registration.objective.map Python.strip else none).or state.pendingObjective
      approvalStatus := registration.approvalStatus.or state.approvalStatus
      updatedAt := some now }
  | .recordApproval now _ objective approvedAt, _, state =>
    state.approved (Python.strip objective) approvedAt now
  | .recordRejection now _ rejectedAt, _, state => state.rejected rejectedAt now
  | .recordExecutionStarted now _ startedAt, _, state => state.started startedAt now
  | .releaseUnstartedClaim _ _ reconciledAt, _, state => state.released reconciledAt
  | .abandonStartedClaim _ _ reconciledAt, _, state => state.abandoned reconciledAt
  | .recordExecution now _ status finishedAt external, _, state =>
    state.executed now status finishedAt external
  | .recordDisposition now result, _, state => state.disposed result now
  | .recordPromotion now promotion, _, state => state.promoted promotion now

/-- What the conditions of an operation ask of the state besides its identity. -/
def Allows : RunWrite → RunState → Prop
  | .releaseUnstartedClaim _ expectedUpdatedAt _, state =>
    state.approvalStatus = some .approved ∧ state.claimId ≠ none ∧
      state.executionStartedAt = none ∧ state.executionStatus = none ∧
      state.updatedAt = some expectedUpdatedAt
  | .abandonStartedClaim _ expectedUpdatedAt _, state =>
    state.claimId ≠ none ∧ state.executionStartedAt ≠ none ∧ state.executionStatus = none ∧
      state.updatedAt = some expectedUpdatedAt
  | _, _ => True

instance (write : RunWrite) (state : RunState) : Decidable (write.Allows state) := by
  cases write <;> unfold Allows <;> infer_instance

/-- The values an operation writes can be bound. -/
def Fits : RunWrite → Prop
  | .recordPromotion _ promotion =>
    -2 ^ 63 ≤ promotion.pullRequestNumber ∧ promotion.pullRequestNumber < 2 ^ 63
  | _ => True

instance (write : RunWrite) : Decidable write.Fits := by
  cases write <;> unfold Fits <;> infer_instance

variable {write : RunWrite} {pendingObjective : Option String} {state : RunState}

@[simp] theorem actionId_written : (write.written pendingObjective state).actionId = state.actionId := by
  cases write <;> rfl

/-- A registration of an action that has a row merges into it. -/
theorem merge_eq_written {now : DateTime} {registration : Registration} {row : RunState} :
    registration.merge (registration.objective.map Python.strip) now row =
      (registerAction now registration).written row.pendingObjective row := by
  cases hpending : row.pendingObjective <;> simp [Registration.merge, written, hpending]

/-- An operation that succeeds writes the row of its action, or it registers the action. -/
theorem written_of_apply {current : Option RunState} (h : write.apply current = .ok state) :
    (∃ row, current = some row ∧ state = write.written row.pendingObjective row) ∨
      ∃ now registration, write = registerAction now registration ∧ current = none ∧
        state = registration.newState (registration.objective.map Python.strip) now := by
  cases write with
  | registerAction now registration =>
    obtain ⟨-, ⟨rfl, rfl⟩ | ⟨row, rfl, -, -, rfl⟩⟩ := registerAction_eq_ok_iff.mp h
    · exact Or.inr ⟨now, registration, rfl, rfl, rfl⟩
    · exact Or.inl ⟨row, rfl, merge_eq_written⟩
  | recordApproval now id objective approvedAt =>
    obtain ⟨row, rfl, -, -, -, rfl⟩ := recordApproval_eq_ok_iff.mp h
    exact Or.inl ⟨row, rfl, rfl⟩
  | recordRejection now id rejectedAt =>
    obtain ⟨row, rfl, -, -, rfl⟩ := recordRejection_eq_ok_iff.mp h
    exact Or.inl ⟨row, rfl, rfl⟩
  | recordExecutionStarted now id startedAt =>
    obtain ⟨row, rfl, -, -, rfl⟩ := recordExecutionStarted_eq_ok_iff.mp h
    exact Or.inl ⟨row, rfl, rfl⟩
  | releaseUnstartedClaim id expected reconciled =>
    obtain ⟨row, rfl, -, -, -, -, rfl⟩ := releaseUnstartedClaim_eq_ok_iff.mp h
    exact Or.inl ⟨row, rfl, rfl⟩
  | abandonStartedClaim id expected reconciled =>
    obtain ⟨row, rfl, -, -, -, -, rfl⟩ := abandonStartedClaim_eq_ok_iff.mp h
    exact Or.inl ⟨row, rfl, rfl⟩
  | recordExecution now id status finishedAt external =>
    obtain ⟨row, rfl, rfl⟩ := recordExecution_eq_ok_iff.mp h
    exact Or.inl ⟨row, rfl, rfl⟩
  | recordDisposition now result =>
    obtain ⟨row, rfl, rfl⟩ := recordDisposition_eq_ok_iff.mp h
    exact Or.inl ⟨row, rfl, rfl⟩
  | recordPromotion now promotion =>
    obtain ⟨row, rfl, rfl⟩ := recordPromotion_eq_ok_iff.mp h
    exact Or.inl ⟨row, rfl, rfl⟩

@[simp] theorem createdAt_written :
    (write.written pendingObjective state).createdAt = state.createdAt := by
  cases write <;> rfl

/-- The assignments of an operation make of the values of a state those of the state
written. -/
theorem values_written : (write.written pendingObjective state).values =
    state.values.map fun c =>
      (c.1, ((write.assignments pendingObjective).lookup c.1).getD c.2) := by
  cases write with
  | registerAction now registration =>
    cases hstatus : registration.delegationStatus <;> cases happroval : registration.approvalStatus <;>
      cases hobjective : (if pendingObjective = none then
        registration.objective.map Python.strip else none) <;>
      simp [written, assignments, assignedIf, RunState.values, hstatus, happroval, hobjective,
        SqlValue.ofOption, List.lookup_cons]
  | _ =>
    simp [written, assignments, RunState.values, RunState.approved, RunState.rejected,
      RunState.started, RunState.released, RunState.abandoned, RunState.executed,
      RunState.disposed, RunState.promoted, SqlValue.ofOption, List.lookup_cons]

theorem isRunColumn_of_mem_assignments {c : String × SqlValue}
    (hc : c ∈ write.assignments pendingObjective) : IsRunColumn c.1 := by
  have hall : ((write.assignments pendingObjective).map Prod.fst).all (IsRunColumn ·) = true := by
    cases write with
    | registerAction now registration =>
      cases hstatus : registration.delegationStatus <;>
        cases happroval : registration.approvalStatus <;>
        cases hobjective : (if pendingObjective = none then
          registration.objective.map Python.strip else none) <;>
        simp only [assignments, assignedIf, hstatus, happroval, hobjective] <;> rfl
    | _ => rfl
  exact isRunColumn_of_all hall (List.mem_map_of_mem hc)

theorem isRunColumn_of_mem_conditions {c : SqlCondition} (hc : c ∈ write.conditions) :
    IsRunColumn c.column := by
  have hall : (write.conditions.map SqlCondition.column).all (IsRunColumn ·) = true := by
    cases write <;> rfl
  exact isRunColumn_of_all hall (List.mem_map_of_mem hc)

/-- The conditions of an operation are met by the row of its action, where it allows what
the operation does. -/
theorem meets_conditions {t : RunsTable} {row : List SqlValue}
    (h : t.Holds RunState.values row state) :
    Meets write.conditions (t.value row) = true ↔
      state.actionId = write.actionId ∧ write.Allows state := by
  have hclaimed := holds_isNotNull (value_claimId h) fun _ => SqlValue.noConfusion
  have hstarted := holds_isNotNull (value_executionStartedAt h) fun _ => SqlValue.noConfusion
  have hunstarted := holds_isNull (value_executionStartedAt h) fun _ => SqlValue.noConfusion
  have hunexecuted := holds_isNull (value_executionStatus h) fun _ => SqlValue.noConfusion
  cases write with
  | releaseUnstartedClaim id expected reconciled =>
    simp [Meets, conditions, holds_isAction h, holds_approvalStatus h, holds_updatedAt h, hclaimed,
      hunstarted, hunexecuted, Allows, actionId]
  | abandonStartedClaim id expected reconciled =>
    simp [Meets, conditions, holds_isAction h, holds_updatedAt h, hclaimed, hstarted, hunexecuted,
      Allows, actionId]
  | _ => simp [Meets, conditions, holds_isAction h, Allows]

/-- The values of an operation can be bound exactly if the number it records fits. -/
theorem forall_fits_assignments :
    (∀ c ∈ write.assignments pendingObjective, c.2.Fits) ↔ write.Fits := by
  cases write with
  | registerAction now registration =>
    cases hstatus : registration.delegationStatus <;>
      cases happroval : registration.approvalStatus <;>
      cases hobjective : (if pendingObjective = none then
        registration.objective.map Python.strip else none) <;>
      simp [assignments, assignedIf, hstatus, happroval, hobjective, Fits]
  | _ => simp [assignments, Fits]

theorem fits_of_mem_conditions {value : SqlValue}
    (hvalue : value ∈ write.conditions.filterMap SqlCondition.bound) : value.Fits := by
  obtain ⟨c, hc, hbound⟩ := List.mem_filterMap.mp hvalue
  have hall : ∀ c ∈ write.conditions, ∀ value ∈ c.bound, value.Fits := by
    cases write <;> simp [conditions, SqlCondition.bound, SqlCondition.isAction]
  exact hall c hc value hbound

end RunWrite

/-! ### Statements -/

section Statements

variable {t : RunsTable} {repository : InMemoryRunRepository} {state : RunState} {id : UUID}

/-- A statement that names columns of version 3 and binds what fits is carried out. -/
theorem refusal_eq_none (h : t.Persists repository) {statement : RunStatement}
    (hcolumns : ∀ name ∈ statement.columns, IsRunColumn name)
    (hfits : ∀ value ∈ statement.bound, value.Fits) : statement.refusal t = none := by
  have hnames : ¬∃ name ∈ statement.columns, name ∉ t.names := by
    rintro ⟨name, hname, hmissing⟩
    exact hmissing (h.mem_names (hcolumns name hname))
  have hvalues : ¬∃ value ∈ statement.bound, ¬value.Fits := by
    rintro ⟨value, hvalue, hlarge⟩
    exact hlarge (hfits value hvalue)
  rw [RunStatement.refusal, if_neg hnames, if_neg hvalues]

/-- The rows an action has among those that meet some conditions. -/
theorem select_states (h : t.Persists repository) {conditions : List SqlCondition}
    {p : RunState → Bool}
    (hmeets : ∀ {row s}, t.Holds RunState.values row s →
      (Meets conditions (t.value row) = true ↔ s.actionId = id ∧ p s = true)) :
    List.Forall₂ (t.Holds RunState.values) (t.select (Meets conditions))
      ((repository.states.get id).toList.filter p) := by
  rw [← InMemoryRunRepository.filter_states]
  exact h.rows.select fun hrow => by rw [hmeets hrow, decide_eq_true_iff]

theorem select_isAction (h : t.Persists repository) (id : UUID) :
    List.Forall₂ (t.Holds RunState.values) (t.select (Meets [.isAction id]))
      (repository.states.get id).toList := by
  have hmeets {row s} (hrow : t.Holds RunState.values row s) :
      Meets [.isAction id] (t.value row) = true ↔ s.actionId = id ∧ true = true := by
    simp [Meets, holds_isAction hrow]
  have hselect := select_states h hmeets
  simpa using hselect

/-- What an `UPDATE` of the row of an action does to the states. -/
theorem run_update (h : t.Persists repository) {conditions : List SqlCondition}
    {assignments : List (String × SqlValue)} {p : RunState → Bool} {f : RunState → RunState}
    (hrefusal : (RunStatement.update assignments conditions).refusal t = none)
    (hmeets : ∀ {row s}, t.Holds RunState.values row s →
      (Meets conditions (t.value row) = true ↔ s.actionId = id ∧ p s = true))
    (hvalues : ∀ s, (f s).values = s.values.map fun c => (c.1, (assignments.lookup c.1).getD c.2))
    (hid : ∀ s, (f s).actionId = s.actionId) :
    (runStatement (.update assignments conditions) t).1 =
        .ok ((repository.states.get id).toList.filter p).length ∧
      ∀ s, repository.states.get id = some s → p s = true →
        (runStatement (.update assignments conditions) t).2.Persists (repository.store (f s)) := by
  have hrun : runStatement (.update assignments conditions) t =
      (.ok (t.select (Meets conditions)).length, t.update (Meets conditions) assignments) := by
    rw [runStatement, hrefusal]
  rw [hrun]
  refine ⟨congrArg Except.ok (select_states h hmeets).length_eq, fun s hs hp => ⟨h.columns, ?_⟩⟩
  rw [InMemoryRunRepository.values_store hs hp ((hid s).trans (repository.identified hs))]
  have hrows := h.rows.update (f := f) (q := fun s => decide (s.actionId = id ∧ p s = true))
    (fun hrow => by rw [hmeets hrow, decide_eq_true_iff]) fun a _ => hvalues a
  simpa only [decide_eq_true_iff] using hrows

/-- What a selection of rows returns. -/
theorem run_select {conditions : List SqlCondition} {orderBy : List String}
    (hrefusal : (RunStatement.select conditions orderBy).refusal t = none) :
    runStatement (.select conditions orderBy) t =
      (.ok (((t.select (Meets conditions)).map t.value).insertionSort
        fun a b => SqlRow.le orderBy a b), t) := by
  rw [runStatement, hrefusal]

/-- An `UPDATE` and the check of how many rows it changed. -/
theorem run_updateOne {conditions : List SqlCondition} {assignments : List (String × SqlValue)}
    {n : ℕ} {t' : RunsTable} (message : String)
    (hrun : runStatement (.update assignments conditions) t = (.ok n, t')) :
    (RunTransaction.updateOne assignments conditions message).run runStatement () t =
      ((.raiseIf (n ≠ 1) (runStateError message), ()), t') :=
  Proc.run_bind_of_ok (Proc.run_request_of_eq hrun)

theorem columns_update (write : RunWrite) (pendingObjective : Option String) :
    ∀ name ∈ (RunStatement.update (write.assignments pendingObjective) write.conditions).columns,
      IsRunColumn name := by
  intro name hname
  rcases List.mem_append.mp hname with hassigned | hcondition
  · obtain ⟨c, hc, rfl⟩ := List.mem_map.mp hassigned
    exact RunWrite.isRunColumn_of_mem_assignments hc
  · obtain ⟨c, hc, rfl⟩ := List.mem_map.mp hcondition
    exact RunWrite.isRunColumn_of_mem_conditions hc

theorem refusal_update (h : t.Persists repository) (write : RunWrite)
    (pendingObjective : Option String) :
    (RunStatement.update (write.assignments pendingObjective) write.conditions).refusal t =
      if write.Fits then none else some bindingError := by
  by_cases hfits : write.Fits
  · rw [if_pos hfits]
    refine refusal_eq_none h (columns_update write pendingObjective) fun value hvalue => ?_
    rcases List.mem_append.mp hvalue with hassigned | hcondition
    · obtain ⟨c, hc, rfl⟩ := List.mem_map.mp hassigned
      exact RunWrite.forall_fits_assignments.mpr hfits c hc
    · exact RunWrite.fits_of_mem_conditions hcondition
  · have hnames : ¬∃ name ∈ (RunStatement.update (write.assignments pendingObjective)
        write.conditions).columns, name ∉ t.names := by
      rintro ⟨name, hname, hmissing⟩
      exact hmissing (h.mem_names (columns_update write pendingObjective name hname))
    have hlarge : ∃ value ∈ (RunStatement.update (write.assignments pendingObjective)
        write.conditions).bound, ¬value.Fits := by
      by_contra hnone
      have hall : ∀ c ∈ write.assignments pendingObjective, c.2.Fits := by
        intro c hc
        by_contra hc'
        exact hnone ⟨c.2, List.mem_append_left _ (List.mem_map_of_mem hc), hc'⟩
      exact hfits (RunWrite.forall_fits_assignments.mp hall)
    rw [if_neg hfits, RunStatement.refusal, if_neg hnames, if_pos hlarge]

/-- What `claim_approved` checks and does, the row being there. -/
theorem claimApproved_some {claimedAt : DateTime} {claimId : UUID} {current : RunState} :
    claimApproved claimedAt claimId (some current) =
      (RunTransaction.claimable current).map fun objective =>
        ({ actionId := current.actionId, claimId, target := current.target, objective, claimedAt },
          current.claimed claimId claimedAt) := by
  simp only [claimApproved, requireState, RunTransaction.claimable, Except.ok_bind, Except.raiseIf]
  split_ifs <;> rfl

/-- What the conditions of a claim ask of the state besides its identity. -/
def RunState.Unclaimed (state : RunState) : Prop :=
  state.approvalStatus = some .approved ∧ state.claimId = none ∧ state.executionStatus = none

instance (state : RunState) : Decidable state.Unclaimed := inferInstanceAs (Decidable (_ ∧ _))

theorem unclaimed_of_claimable {current : RunState} {objective : String}
    (h : RunTransaction.claimable current = .ok objective) : current.Unclaimed := by
  simp only [RunTransaction.claimable, Except.bind_eq_ok_iff, Except.raiseIf_eq_ok_iff, ne_eq,
    not_not] at h
  obtain ⟨-, happroved, -, hexecution, -, hclaim, -⟩ := h
  exact ⟨happroved, hclaim, hexecution⟩

theorem meets_claimConditions {row : List SqlValue} (h : t.Holds RunState.values row state) :
    Meets (RunTransaction.claimConditions id) (t.value row) = true ↔
      state.actionId = id ∧ state.Unclaimed := by
  have hclaim := holds_isNull (value_claimId h) fun _ => SqlValue.noConfusion
  have hexecution := holds_isNull (value_executionStatus h) fun _ => SqlValue.noConfusion
  simp [Meets, RunTransaction.claimConditions, holds_isAction h, holds_approvalStatus h, hclaim,
    hexecution, RunState.Unclaimed]

theorem values_claimed {claimId : UUID} {claimedAt : DateTime} :
    (state.claimed claimId claimedAt).values = state.values.map fun c =>
      (c.1, ((RunTransaction.claimAssignments claimedAt claimId).lookup c.1).getD c.2) := by
  simp [RunState.claimed, RunState.values, RunTransaction.claimAssignments, SqlValue.ofOption,
    List.lookup_cons]

/-- The `UPDATE` of a claim whose row has been checked. -/
theorem run_claimOne (h : t.Persists repository) {current : RunState} {claimId : UUID}
    {claimedAt : DateTime} (hcurrent : repository.states.get id = some current)
    (hunclaimed : current.Unclaimed) :
    ∃ t', (RunTransaction.updateOne (RunTransaction.claimAssignments claimedAt claimId)
        (RunTransaction.claimConditions id)
        "software engineering action could not be claimed atomically").run runStatement () t =
        ((.ok (), ()), t') ∧
      t'.Persists (repository.store (current.claimed claimId claimedAt)) := by
  have hrefusal : (RunStatement.update (RunTransaction.claimAssignments claimedAt claimId)
      (RunTransaction.claimConditions id)).refusal t = none :=
    refusal_eq_none h (fun _ => isRunColumn_of_all rfl) (by
      simp [RunStatement.bound, RunTransaction.claimAssignments, RunTransaction.claimConditions,
        SqlCondition.bound, SqlCondition.isAction])
  obtain ⟨hcount, hstored⟩ := run_update (p := fun s => s.Unclaimed)
    (f := fun s => s.claimed claimId claimedAt) h hrefusal
    (fun hrow => by rw [meets_claimConditions hrow, decide_eq_true_iff])
    (fun _ => values_claimed) fun _ => rfl
  have hone : [current].filter (fun s => s.Unclaimed) = [current] :=
    List.filter_cons_of_pos (by simpa using hunclaimed)
  rcases hrun : runStatement (.update (RunTransaction.claimAssignments claimedAt claimId)
    (RunTransaction.claimConditions id)) t with ⟨_, t'⟩
  rw [hrun] at hcount hstored
  rw [hcurrent, Option.toList_some, hone] at hcount
  obtain rfl := hcount
  exact ⟨t', run_updateOne _ hrun, hstored current hcurrent (by simpa using hunclaimed)⟩

theorem fits_inserted {registration : Registration} {objective : Option String} {now : DateTime} :
    ∀ value ∈ (RunStatement.insert (registration.inserted objective now)).bound, value.Fits := by
  cases hdelegation : registration.delegationStatus <;> cases objective <;>
    cases happroval : registration.approvalStatus <;>
    simp [RunStatement.bound, Registration.inserted, SqlValue.ofOption, hdelegation, happroval]

/-- The values of a new state: what is inserted, and `NULL` otherwise. -/
theorem values_newState {registration : Registration} {objective : Option String}
    {now : DateTime} : ∀ c ∈ (registration.newState objective now).values,
    c.2 = ((registration.inserted objective now).lookup c.1).getD .null := by
  simp [RunState.values, Registration.newState, Registration.inserted, SqlValue.ofOption,
    List.lookup_cons]

/-- What is inserted has a value for each required column. -/
theorem lookup_inserted_ne_null {registration : Registration} {objective : Option String}
    {now : DateTime} : ∀ c ∈ v3Columns, c.2.notNull = true →
    ((registration.inserted objective now).lookup c.1).getD .null ≠ .null := by
  simp [v3Columns, Registration.inserted, List.lookup_cons, SqlValue.ofUUID, SqlValue.ofDateTime,
    ColumnDecl.text, ColumnDecl.integer]

/-- The primary key, where it is not `NULL`, is the identifier of the action. -/
theorem primaryKey_eq {c : String × ColumnDecl} (hc : c ∈ v3Columns)
    (hkey : c.2.primaryKey = true) : c.1 = "action_id" := by
  revert c
  simp [v3Columns, ColumnDecl.text, ColumnDecl.integer, ColumnDecl.requiredText]

/-- What is inserted violates a constraint exactly if the action has a row. -/
theorem violates_inserted (h : t.Persists repository) {registration : Registration}
    {objective : Option String} {now : DateTime} :
    t.Violates (registration.inserted objective now) ↔
      repository.states.get registration.actionId ≠ none := by
  have hlookup : (registration.inserted objective now).lookup "action_id" =
      some (.ofUUID registration.actionId) := rfl
  have hrow : (∃ row ∈ t.rows, t.value row "action_id" = some (.ofUUID registration.actionId)) ↔
      repository.states.get registration.actionId ≠ none := by
    have hlength := (select_isAction h registration.actionId).length_eq
    have hselected : t.select (Meets [.isAction registration.actionId]) ≠ [] ↔
        ∃ row ∈ t.rows, t.value row "action_id" = some (.ofUUID registration.actionId) := by
      simp [ColumnTable.select, List.filter_eq_nil_iff, Meets, SqlCondition.isAction,
        SqlCondition.holds, SqlValue.ofUUID]
    rw [← hselected, ← List.length_pos_iff, hlength]
    cases repository.states.get registration.actionId <;> simp
  constructor
  · rintro ⟨c, hc, ⟨hnull, hvalue⟩ | ⟨hkey, value, hvalue, -, hexists⟩⟩
    · exact absurd hvalue (lookup_inserted_ne_null c (h.columns.mem_iff.mp hc) hnull)
    · rw [primaryKey_eq (h.columns.mem_iff.mp hc) hkey] at hvalue hexists
      obtain rfl := Option.some.inj (hlookup.symm.trans hvalue)
      exact hrow.mp hexists
  · intro hsome
    refine ⟨("action_id", { type := .text, primaryKey := true }), ?_, Or.inr ⟨rfl, _, hlookup,
      by simp [SqlValue.ofUUID], hrow.mpr hsome⟩⟩
    exact h.columns.mem_iff.mpr (List.mem_cons_self ..)

end Statements

end Velox
