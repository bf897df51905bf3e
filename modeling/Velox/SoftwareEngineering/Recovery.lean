import Velox.Core.Approval

/-!
# Calls of the run repository, and recovery

The run repository as the services call it: an operation reads the clock, and a
claim draws its id, before it reaches the row. On top of it, restart-safe approval
and exact-claim recovery of canonical Software Engineering actions.

## Main definitions

* `Repository` — the operations as the services call them
* `ActionRecovery.recoverPending`, `ActionRecovery.recordApproved`,
  `ActionRecovery.recordRejected`, `ActionRecovery.claim`

## Main results

* `ensures_write`, `ensures_claimApproved` — what a call leaves behind in the row
-/

set_option autoImplicit false

namespace Velox

/-! ### The operations as they are called -/

namespace Repository

variable {σ : Type}

/-- `get`. -/
def get (actionId : UUID) : Proc Outside σ Raised (Option RunState) :=
  callRepository (.get actionId)

/-- `list_pending_approval`. -/
def listPendingApproval : Proc Outside σ Raised (List RunState) :=
  callRepository .listPendingApproval

/-- An operation that reads the clock for the time of its update. -/
def stamped (write : DateTime → RunWrite) : Proc Outside σ Raised RunState := do
  let now ← utcnow
  callRepository (.write (write now))

/-- `register_action`. -/
def registerAction (registration : Registration) : Proc Outside σ Raised RunState :=
  stamped fun now => .registerAction now registration

/-- `record_approval`. -/
def recordApproval (actionId : UUID) (objective : String) (approvedAt : DateTime) :
    Proc Outside σ Raised RunState :=
  stamped fun now => .recordApproval now actionId objective approvedAt

/-- `record_rejection`. -/
def recordRejection (actionId : UUID) (rejectedAt : DateTime) : Proc Outside σ Raised RunState :=
  stamped fun now => .recordRejection now actionId rejectedAt

/-- `claim_approved`. -/
def claimApproved (actionId : UUID) : Proc Outside σ Raised ActionClaim := do
  let claimId ← uuid4
  let claimedAt ← utcnow
  callRepository (.claimApproved claimedAt claimId actionId)

/-- `record_execution_started`. -/
def recordExecutionStarted (actionId : UUID) (startedAt : DateTime) :
    Proc Outside σ Raised RunState :=
  stamped fun now => .recordExecutionStarted now actionId startedAt

/-- `release_unstarted_claim`. -/
def releaseUnstartedClaim (actionId : UUID) (expectedUpdatedAt reconciledAt : DateTime) :
    Proc Outside σ Raised RunState :=
  callRepository (.write (.releaseUnstartedClaim actionId expectedUpdatedAt reconciledAt))

/-- `abandon_started_claim`. -/
def abandonStartedClaim (actionId : UUID) (expectedUpdatedAt reconciledAt : DateTime) :
    Proc Outside σ Raised RunState :=
  callRepository (.write (.abandonStartedClaim actionId expectedUpdatedAt reconciledAt))

/-- `record_execution`. -/
def recordExecution (actionId : UUID) (status : String) (finishedAt : DateTime)
    (externalExecutionPerformed : Bool) : Proc Outside σ Raised RunState :=
  stamped fun now => .recordExecution now actionId status finishedAt externalExecutionPerformed

/-- `record_disposition`. -/
def recordDisposition (result : WorkProductDispositionResult) : Proc Outside σ Raised RunState :=
  stamped fun now => .recordDisposition now result

/-- `record_promotion`. -/
def recordPromotion (promotion : PromotionRecord) : Proc Outside σ Raised RunState :=
  stamped fun now => .recordPromotion now promotion

section Ensures

variable {R : RunRepository} {env : Environment} {P : OutsideCall → World R → Prop} {s : σ}
  {w : World R}

/-- Reading a row changes nothing. -/
@[simp] theorem ensures_get {actionId : UUID}
    {Q : Except Raised (Option RunState) → σ → World R → Prop} :
    (get actionId).Ensures (outside env R) P Q s w ↔
      P (.store (.get actionId)) w ∧ Q (.ok (w.row actionId)) s w := by
  show P (.store (.get actionId)) w ∧ Q (R.handle (.get actionId) w.repository).1 s
    (w.setRepository (R.handle (.get actionId) w.repository).2) ↔ _
  rw [R.handle_get]
  rfl

/-- The states that are listed are the rows that await approval. -/
theorem ensures_listPendingApproval {Q : Except Raised (List RunState) → σ → World R → Prop}
    (hP : P (.store .listPendingApproval) w)
    (hok : ∀ states w', w'.UpdatedFrom w w.row →
      (∀ state ∈ states, state.PendingApproval ∧ w.row state.actionId = some state) →
      Q (.ok states) s w') :
    listPendingApproval.Ensures (outside env R) P Q s w := by
  obtain ⟨hrow, states, hreply, hstates⟩ := R.handle_list w.repository
  refine ⟨hP, ?_⟩
  show Q (R.handle .listPendingApproval w.repository).1 s _
  rw [hreply]
  exact hok states _ ⟨le_refl _, rfl, hrow⟩ hstates

/-- An operation leaves the row that it computes, or is refused. -/
theorem ensures_write {write : RunWrite} {Q : Except Raised RunState → σ → World R → Prop}
    (hP : P (.store (.write write)) w)
    (hok : ∀ state w', write.apply (w.row write.actionId) = .ok state →
      w'.UpdatedFrom w (Function.update w.row write.actionId (some state)) → Q (.ok state) s w')
    (herror : ∀ e w', (write.Portable (w.row write.actionId) →
        ∃ e', write.apply (w.row write.actionId) = .error e') →
      w'.UpdatedFrom w w.row → Q (.error e) s w') :
    (callRepository (.write write)).Ensures (outside env R) P Q s w := by
  refine ⟨hP, ?_⟩
  show Q (R.handle (.write write) w.repository).1 s _
  rcases hreply : (R.handle (.write write) w.repository).1 with e | state
  · obtain ⟨hrow, -, hwhy⟩ := R.handle_write_error hreply
    exact herror e _ (fun hportable => (hwhy.resolve_left (not_not_intro hportable)).2)
      ⟨le_refl _, rfl, hrow⟩
  · obtain ⟨happly, hrow⟩ := R.handle_write_ok hreply
    exact hok state _ happly ⟨le_refl _, rfl, hrow⟩

/-- A portable operation that the row permits succeeds. -/
theorem ensures_write_of_ok {write : RunWrite} {state : RunState}
    {Q : Except Raised RunState → σ → World R → Prop} (hP : P (.store (.write write)) w)
    (hportable : write.Portable (w.row write.actionId))
    (happly : write.apply (w.row write.actionId) = .ok state)
    (hok : ∀ w', w'.UpdatedFrom w (Function.update w.row write.actionId (some state)) →
      Q (.ok state) s w') :
    (callRepository (.write write)).Ensures (outside env R) P Q s w := by
  obtain ⟨hreply, hrow⟩ := R.handle_write_of_portable hportable happly
  refine ⟨hP, ?_⟩
  show Q (R.handle (.write write) w.repository).1 s _
  rw [hreply]
  exact hok _ ⟨le_refl _, rfl, hrow⟩

theorem ensures_stamped {write : DateTime → RunWrite} {id : UUID}
    {Q : Except Raised RunState → σ → World R → Prop} (hid : ∀ now, (write now).actionId = id)
    (hquiet : PermitsQuiet P)
    (hP : ∀ now w', w'.row = w.row → P (.store (.write (write now))) w')
    (hok : ∀ now state w', (write now).apply (w.row id) = .ok state →
      w'.UpdatedFrom w (Function.update w.row id (some state)) → Q (.ok state) s w')
    (herror : ∀ now e w', ((write now).Portable (w.row id) →
        ∃ e', (write now).apply (w.row id) = .error e') →
      w'.UpdatedFrom w w.row → Q (.error e) s w') :
    (stamped write).Ensures (outside env R) P Q s w := by
  refine ⟨hquiet .utcnow w trivial, ensures_write (hP _ _ rfl) (fun state w' happly hw' => ?_)
    fun e w' hwhy hw' => ?_⟩
  · rw [hid] at happly hw'
    exact hok _ state w' happly (hw'.trans (World.updatedFrom_tick w))
  · rw [hid] at hwhy
    exact herror _ e w' hwhy (hw'.trans (World.updatedFrom_tick w))

/-- A portable operation that the row permits at any time succeeds. -/
theorem ensures_stamped_of_ok {write : DateTime → RunWrite} {id : UUID}
    {state : DateTime → RunState} {Q : Except Raised RunState → σ → World R → Prop}
    (hid : ∀ now, (write now).actionId = id) (hclock : P .utcnow w)
    (hP : ∀ now w', w'.row = w.row → P (.store (.write (write now))) w')
    (hportable : ∀ now, (write now).Portable (w.row id))
    (happly : ∀ now, (write now).apply (w.row id) = .ok (state now))
    (hok : ∀ now w', w'.UpdatedFrom w (Function.update w.row id (some (state now))) →
      Q (.ok (state now)) s w') :
    (stamped write).Ensures (outside env R) P Q s w := by
  have happly' : (write (env.clock w.ticks)).apply
      (w.tick.row (write (env.clock w.ticks)).actionId) = .ok (state (env.clock w.ticks)) := by
    rw [hid]
    exact happly _
  refine ⟨hclock, ensures_write_of_ok (hP _ _ rfl) ?_ happly' fun w' hw' => ?_⟩
  · rw [hid]
    exact hportable _
  · rw [hid] at hw'
    exact hok _ w' (hw'.trans (World.updatedFrom_tick w))

/-- A claim takes an approved, unclaimed, unexecuted row, or is refused. -/
theorem ensures_claimApproved {actionId : UUID} {Q : Except Raised ActionClaim → σ → World R → Prop}
    (hquiet : PermitsQuiet P)
    (hP : ∀ now w', w'.row = w.row → P (.store (.claimApproved now w.nextId actionId)) w')
    (hok : ∀ now claim state w',
      Velox.claimApproved now w.nextId (w.row actionId) = .ok (claim, state) →
      w'.UpdatedFrom w.draw (Function.update w.row actionId (some state)) → Q (.ok claim) s w')
    (herror : ∀ e e' now w', Velox.claimApproved now w.nextId (w.row actionId) = .error e' →
      w'.UpdatedFrom w.draw w.row → Q (.error e) s w') :
    (claimApproved actionId).Ensures (outside env R) P Q s w := by
  refine ⟨hquiet .uuid4 _ trivial, hquiet .utcnow _ trivial, hP _ _ rfl, ?_⟩
  show Q (R.handle (.claimApproved (env.clock w.ticks) w.nextId actionId) w.repository).1 s _
  rcases hreply : (R.handle (.claimApproved (env.clock w.ticks) w.nextId actionId)
    w.repository).1 with e | claim
  · obtain ⟨hrow, -, e', he'⟩ := R.handle_claim_error hreply
    exact herror e e' _ _ he' ⟨le_refl _, rfl, hrow⟩
  · obtain ⟨state, hclaim, hrow⟩ := R.handle_claim_ok hreply
    exact hok _ claim state _ hclaim ⟨le_refl _, rfl, hrow⟩

end Ensures

end Repository

/-! ### Recovery -/

/-- An action of the canonical Software Engineering route. -/
def IsCanonicalAction (action : Action) : Prop :=
  action.executorRole = some ExecutorRole.softwareEngineering.value ∧
    action.type = SOFTWARE_ENGINEERING_IMPLEMENT_CAPABILITY ∧
    action.payload.get "capability" = some (.str SOFTWARE_ENGINEERING_IMPLEMENT_CAPABILITY)

instance (action : Action) : Decidable (IsCanonicalAction action) :=
  inferInstanceAs (Decidable (_ ∧ _))

/-- A row of the canonical Software Engineering route. -/
def IsCanonicalState (state : RunState) : Prop :=
  state.executorRole = ExecutorRole.softwareEngineering.value ∧
    state.capability = SOFTWARE_ENGINEERING_IMPLEMENT_CAPABILITY

instance (state : RunState) : Decidable (IsCanonicalState state) :=
  inferInstanceAs (Decidable (_ ∧ _))

/-- `SoftwareEngineeringRecoveryError`. -/
def recoveryError (message : String) : Raised := ⟨.softwareEngineeringRecoveryError, message⟩

/-- `SoftwareEngineeringRecoveryNotFoundError`. -/
def recoveryNotFoundError : Raised :=
  ⟨.softwareEngineeringRecoveryNotFoundError, "software engineering action was not found"⟩

/-- `except SoftwareEngineeringRunStateError as error: raise … from error`. -/
def onRunStateError {σ α : Type} (m : Proc Outside σ Raised α) (replacement : Raised) :
    Proc Outside σ Raised α :=
  tryCatch m fun error =>
    if error.kind = .softwareEngineeringRunStateError then throw replacement else throw error

/-- The action that a canonical row stands for. -/
def recoveredAction (actionId : UUID) (target objective : String) (durableRecovery : Value) :
    Action where
  id := actionId
  type := SOFTWARE_ENGINEERING_IMPLEMENT_CAPABILITY
  target
  executorRole := ExecutorRole.softwareEngineering.value
  payload := .ofList [("capability", .str SOFTWARE_ENGINEERING_IMPLEMENT_CAPABILITY),
    ("objective", .str objective)]
  metadata := .ofList [
    ("task_delegation", .dict [
      ("requested_role", .str ExecutorRole.softwareEngineering.value),
      ("requested_capability", .str SOFTWARE_ENGINEERING_IMPLEMENT_CAPABILITY)]),
    ("durable_recovery", durableRecovery)]

namespace ActionRecovery

/-- `_require_canonical_state`. -/
def requireCanonicalState (state : RunState) : Except Raised Unit :=
  .raiseIf (¬IsCanonicalState state)
    (recoveryError "durable Action is not the canonical Software Engineering route")

/-- `_objective`. -/
def objective (action : Action) : Except Raised String :=
  match action.payload.get "objective" with
  | some (.str objective) =>
    if Python.strip objective = "" then
      .error (recoveryError "software engineering Action has no recoverable objective")
    else .ok (Python.strip objective)
  | _ => .error (recoveryError "software engineering Action has no recoverable objective")

/-- `_action_from_state`. -/
def actionFromState (state : RunState) : Except Raised Action :=
  match state.pendingObjective with
  | some objective =>
    if Python.strip objective = "" then
      .error (recoveryError "durable Software Engineering Action has no pending objective")
    else
      .ok (recoveredAction state.actionId state.target (Python.strip objective)
        (.dict [("pending", .bool true)]))
  | none => .error (recoveryError "durable Software Engineering Action has no pending objective")

/-- Reconstruct one awaiting-approval action after restart. -/
def recoverPending (actionId : UUID) : Task (Option Action) := do
  let state ← onRunStateError (Repository.get actionId)
    (recoveryError "software engineering pending recovery state is unavailable")
  match state with
  | none => return none
  | some state =>
    Proc.ofExcept (requireCanonicalState state)
    if state.approvalStatus ≠ some .awaitingApproval then return none
    else
      Proc.ofExcept (.raiseIf (state.claimId ≠ none ∨ state.executionStatus ≠ none)
        (recoveryError "pending software engineering Action has execution evidence"))
      let action ← Proc.ofExcept (actionFromState state)
      return some action

/-- The actions of a list of rows. -/
def actionsFromStates : List RunState → Except Raised (List Action)
  | [] => .ok []
  | state :: states => do
    requireCanonicalState state
    let action ← actionFromState state
    let actions ← actionsFromStates states
    return action :: actions

/-- The durable awaiting-approval actions in creation order. -/
def listPending : Task (List Action) := do
  let states ← onRunStateError Repository.listPendingApproval
    (recoveryError "software engineering pending recovery state is unavailable")
  Proc.ofExcept (actionsFromStates states)

/-- The registration that makes sure a decided action has a row. -/
def registrationOf (action : Action) (objective : String) (current : Option RunState) :
    Registration where
  actionId := action.id
  target := action.target
  executorRole := ExecutorRole.softwareEngineering.value
  capability := SOFTWARE_ENGINEERING_IMPLEMENT_CAPABILITY
  objective := some objective
  approvalStatus := if current.isNone then some .awaitingApproval else none

/-- `_ensure_registered`. -/
def ensureRegistered (action : Action) (objective : String) : Task Unit :=
  onRunStateError
    (do
      let current ← Repository.get action.id
      let _ ← Repository.registerAction (registrationOf action objective current))
    (recoveryError "software engineering Action identity could not be persisted")

/-- Persist a decision about a canonical action that is made sure to have a row. -/
def recordDecision (persist : String → DateTime → Task RunState) (failure : String)
    (action : Action) : Task Unit := do
  if ¬IsCanonicalAction action then return ()
  else
    let objective ← Proc.ofExcept (objective action)
    ensureRegistered action objective
    let decidedAt ← utcnow
    let _ ← onRunStateError (persist objective decidedAt) (recoveryError failure)

/-- Persist approval before process-local queue mutation. -/
def recordApproved (action : Action) : Task Unit :=
  recordDecision (Repository.recordApproval action.id)
    "software engineering approval could not be persisted" action

/-- Persist rejection and erase the pending objective. -/
def recordRejected (action : Action) : Task Unit :=
  recordDecision (fun _ => Repository.recordRejection action.id)
    "software engineering rejection could not be persisted" action

/-- Atomically claim one approved action and reconstruct its exact envelope. -/
def claim (actionId : UUID) : Task Action := do
  let state ← onRunStateError (Repository.get actionId)
    (recoveryError "software engineering claim state is unavailable")
  match state with
  | none => throw recoveryNotFoundError
  | some state =>
    Proc.ofExcept (requireCanonicalState state)
    let claim ← onRunStateError (Repository.claimApproved actionId)
      (recoveryError "software engineering action could not be claimed")
    return recoveredAction claim.actionId claim.target claim.objective
      (.dict [("claim_id", .str (UUID.str claim.claimId))])

theorem objective_eq_ok_iff {action : Action} {text : String} :
    objective action = .ok text ↔
      ∃ raw, action.payload.get "objective" = some (.str raw) ∧ Python.strip raw ≠ "" ∧
        text = Python.strip raw := by
  unfold objective
  split
  · rename_i raw hraw
    rw [hraw]
    split_ifs with hblank
    · simp only [false_iff]
      rintro ⟨raw', hraw', hnot, -⟩
      cases hraw'
      exact hnot hblank
    · refine ⟨fun h => ⟨raw, rfl, hblank, (Except.ok.inj h).symm⟩, ?_⟩
      rintro ⟨raw', hraw', -, rfl⟩
      cases hraw'
      rfl
  · rename_i hnot
    simp only [reduceCtorEq, false_iff]
    rintro ⟨raw, hraw, -⟩
    exact hnot raw hraw

/-- Registering a decided action approves nothing. -/
theorem approvalStatus_of_register {now : DateTime} {action : Action} {objective : String}
    {current : Option RunState} {state : RunState}
    (h : Velox.registerAction now (registrationOf action objective current) current =
      .ok state) (happroved : state.approvalStatus = some .approved) :
    ∃ row, current = some row ∧ row.approvalStatus = some .approved := by
  obtain ⟨-, ⟨rfl, rfl⟩ | ⟨row, rfl, -, -, rfl⟩⟩ := registerAction_eq_ok_iff.mp h
  · simp [Registration.newState, registrationOf] at happroved
  · exact ⟨row, rfl, by simpa [Registration.merge, registrationOf] using happroved⟩

/-- The recovery and the recorder that the approval entrypoints are given. -/
def recorder : ApprovalDecisionRecorder := ⟨recordApproved, recordRejected⟩

/-! ### What recovery does -/

section Ensures

open Repository

variable {R : RunRepository} {env : Environment} {P : OutsideCall → World R → Prop} {u : Unit}
  {w : World R} {actionId : UUID} {action : Action}

theorem ensures_onRunStateError {σ W α : Type} {h : Handler Outside W} {P : OutsideCall → W → Prop}
    {s : σ} {w : W} {m : Proc Outside σ Raised α} {replacement : Raised}
    {Q : Except Raised α → σ → W → Prop} :
    (onRunStateError m replacement).Ensures h P Q s w ↔
      m.Ensures h P (fun r s w => r.either (fun a => Q (.ok a) s w) fun e =>
        if e.kind = .softwareEngineeringRunStateError then Q (.error replacement) s w
        else Q (.error e) s w) s w := by
  rw [onRunStateError, Proc.ensures_tryCatch]
  refine Proc.ensures_congr fun r s w => ?_
  rcases r with e | a
  · by_cases hkind : e.kind = .softwareEngineeringRunStateError <;> simp [hkind]
  · rfl

/-- Only a canonical row that awaits approval is reconstructed. -/
theorem ensures_recoverPending {Q : Except Raised (Option Action) → Unit → World R → Prop}
    (hquiet : PermitsQuiet P) (hnone : Q (.ok none) u w)
    (hsome : ∀ row objective, w.row actionId = some row → IsCanonicalState row →
      row.PendingApproval → row.pendingObjective = some objective → Python.strip objective ≠ "" →
      Q (.ok (some (recoveredAction actionId row.target (Python.strip objective)
        (.dict [("pending", .bool true)])))) u w)
    (herror : ∀ e, Q (.error e) u w) :
    (recoverPending actionId).Ensures (outside env R) P Q u w := by
  simp only [recoverPending, Proc.ensures_bind, ensures_onRunStateError, ensures_get,
    Except.either_ok]
  refine ⟨hquiet (.store (.get _)) _ trivial, ?_⟩
  rcases hrow : w.row actionId with _ | row
  · exact hnone
  have hid : row.actionId = actionId := R.actionId_of_row hrow
  simp only [Proc.ensures_bind, Proc.ensures_ofExcept, requireCanonicalState]
  by_cases hcanonical : IsCanonicalState row
  swap
  · simpa [hcanonical] using herror _
  simp only [hcanonical, not_true_eq_false, not_false_eq_true, Except.raiseIf_neg, Except.either_ok]
  by_cases hawaiting : row.approvalStatus = some .awaitingApproval
  swap
  · simpa [hawaiting] using hnone
  simp only [hawaiting, ne_eq, not_true_eq_false, if_false, Proc.ensures_bind,
    Proc.ensures_ofExcept]
  by_cases hevidence : row.claimId ≠ none ∨ row.executionStatus ≠ none
  · rw [Except.raiseIf_pos hevidence]
    exact herror _
  rw [Except.raiseIf_neg hevidence]
  simp only [Except.either_ok]
  push Not at hevidence
  rcases hobjective : row.pendingObjective with _ | objective
  · simpa [actionFromState, hobjective] using herror _
  by_cases hblank : Python.strip objective = ""
  · simpa [actionFromState, hobjective, hblank] using herror _
  · simpa [actionFromState, hobjective, hblank, hid] using
      hsome row objective hrow hcanonical ⟨hawaiting, hevidence⟩ hobjective hblank

/-- What recording a decision can leave behind. -/
inductive Recorded (w : World R) (action : Action) (write : String → DateTime → DateTime → RunWrite) :
    Except Raised Unit → World R → Prop
  /-- Nothing is recorded about an action of another route. -/
  | skipped (hcanonical : ¬IsCanonicalAction action) : Recorded w action write (.ok ()) w
  | refused (e : Raised) (w' : World R)
      (hwhy : ∀ objective, ActionRecovery.objective action = .ok objective → ∃ now e',
        Velox.registerAction now (registrationOf action objective (w.row action.id))
          (w.row action.id) = .error e')
      (hw' : w'.UpdatedFrom w w.row) : Recorded w action write (.error e) w'
  /-- The row was registered but refused the decision. -/
  | registered (e : Raised) (now now' decidedAt : DateTime) (objective : String) (state : RunState)
      (w' : World R) (hcanonical : IsCanonicalAction action)
      (hobjective : ActionRecovery.objective action = .ok objective)
      (hregister : Velox.registerAction now (registrationOf action objective (w.row action.id))
        (w.row action.id) = .ok state)
      (hwhy : (write objective decidedAt now').Portable (some state) →
        ∃ e', (write objective decidedAt now').apply (some state) = .error e')
      (hw' : w'.UpdatedFrom w (Function.update w.row action.id (some state))) :
      Recorded w action write (.error e) w'
  | recorded (now now' decidedAt : DateTime) (objective : String) (state state' : RunState)
      (w' : World R) (hcanonical : IsCanonicalAction action)
      (hobjective : ActionRecovery.objective action = .ok objective)
      (hregister : Velox.registerAction now (registrationOf action objective (w.row action.id))
        (w.row action.id) = .ok state)
      (hdecide : (write objective decidedAt now').apply (some state) = .ok state')
      (hw' : w'.UpdatedFrom w (Function.update w.row action.id (some state'))) :
      Recorded w action write (.ok ()) w'

/-- Recording registers the action and then persists the decision. -/
theorem ensures_recordDecision {write : String → DateTime → DateTime → RunWrite} {failure : String}
    {Q : Except Raised Unit → World R → Prop}
    (hid : ∀ objective decidedAt now, (write objective decidedAt now).actionId = action.id)
    (hquiet : PermitsQuiet P)
    (hregister : ∀ objective now w', ActionRecovery.objective action = .ok objective →
      w'.row = w.row → P (.store (.write (.registerAction now
        (registrationOf action objective (w.row action.id))))) w')
    (hdecide : ∀ objective now decidedAt now' state w',
      ActionRecovery.objective action = .ok objective →
      Velox.registerAction now (registrationOf action objective (w.row action.id))
        (w.row action.id) = .ok state →
      w'.row = Function.update w.row action.id (some state) →
      P (.store (.write (write objective decidedAt now'))) w')
    (hQ : ∀ r w', Recorded w action write r w' → Q r w') :
    (recordDecision (fun objective decidedAt => stamped (write objective decidedAt)) failure
      action).Ensures (outside env R) P (fun r _ w' => Q r w') u w := by
  unfold recordDecision
  by_cases hcanonical : IsCanonicalAction action
  swap
  · simpa [hcanonical] using hQ _ _ (.skipped hcanonical)
  simp only [hcanonical, not_true_eq_false, if_false, Proc.ensures_bind, Proc.ensures_ofExcept]
  rcases hobjective : objective action with e | objective
  · have hunread : ∀ objective, ActionRecovery.objective action ≠ .ok objective := fun _ h => by
      cases hobjective.symm.trans h
    exact hQ _ _ (.refused e w (fun _ h => absurd h (hunread _)) (World.updatedFrom_self w))
  simp only [Except.either_ok, ensureRegistered, ensures_onRunStateError, Proc.ensures_bind,
    ensures_get]
  refine ⟨hquiet (.store (.get _)) _ trivial, ensures_stamped (fun _ => rfl) hquiet
    (fun now w' hw' => hregister objective now w' hobjective hw')
    (fun now state w₁ hstate hw₁ => ?_) fun now e w' hwhy hw' => ?_⟩
  · simp only [Proc.ensures_pure, Except.either_ok, ensures_utcnow, outside]
    have hrow : w₁.tick.row action.id = some state := by
      rw [World.row_tick, hw₁.row, Function.update_self]
    refine ⟨hquiet .utcnow _ trivial, ensures_stamped (fun now' => hid _ _ now') hquiet
      (fun now' w' hw' => hdecide objective now _ now' state w' hobjective hstate
        (hw'.trans hw₁.row)) (fun now' state' w' hstate' hw' => ?_) fun now' e w' hwhy hw' => ?_⟩
    · rw [hrow] at hstate'
      rw [World.row_tick, hw₁.row, Function.update_idem] at hw'
      exact hQ _ _ (.recorded now now' _ objective state state' w' hcanonical hobjective hstate hstate'
        (hw'.trans ((World.updatedFrom_tick w₁).trans hw₁)))
    · rw [hrow] at hwhy
      rw [World.row_tick, hw₁.row] at hw'
      have hw'' := hw'.trans ((World.updatedFrom_tick w₁).trans hw₁)
      simp only [Except.either_error]
      split_ifs <;> exact hQ _ _
        (.registered _ now now' _ objective state w' hcanonical hobjective hstate hwhy hw'')
  · have hrefused : ∀ objective', ActionRecovery.objective action = .ok objective' → ∃ now e',
        Velox.registerAction now (registrationOf action objective' (w.row action.id))
          (w.row action.id) = .error e' := fun objective' hobjective' => by
      obtain rfl : objective = objective' := Except.ok.inj (hobjective.symm.trans hobjective')
      exact ⟨now, hwhy trivial⟩
    simp only [Except.either_error]
    split_ifs <;> exact hQ _ _ (.refused _ w' hrefused hw')

/-- The action that a successful claim hands out. -/
def claimedAction (actionId : UUID) (row : RunState) (objective : String) (claimId : UUID) : Action :=
  recoveredAction actionId row.target objective (.dict [("claim_id", .str (UUID.str claimId))])

/-- A row that can be claimed, with the objective a claim hands out. -/
structure Claimable (row : RunState) (objective : String) : Prop where
  canonical : IsCanonicalState row
  approved : row.approvalStatus = some .approved
  unexecuted : row.executionStatus = none
  unclaimed : row.claimId = none
  hasObjective : row.pendingObjective.map Python.strip = some objective
  notBlank : objective ≠ ""

theorem Claimable.claimApproved {row : RunState} {objective : String} (h : Claimable row objective)
    (claimedAt : DateTime) (claimId : UUID) :
    ∃ claim, Velox.claimApproved claimedAt claimId (some row) =
      .ok (claim, row.claimed claimId claimedAt) :=
  ⟨_, claimApproved_eq_ok_iff.mpr ⟨row, objective, rfl, h.approved, h.unexecuted, h.unclaimed,
    h.hasObjective, h.notBlank, rfl, rfl⟩⟩

/-- A claim hands out the action of a claimable row; without one it leaves every row
alone. -/
theorem ensures_claim {Q : Except Raised Action → Unit → World R → Prop} (hquiet : PermitsQuiet P)
    (hP : ∀ now w', w'.row = w.row → P (.store (.claimApproved now w.nextId actionId)) w')
    (hok : ∀ row objective now w', w.row actionId = some row → Claimable row objective →
      w'.UpdatedFrom w.draw (Function.update w.row actionId (some (row.claimed w.nextId now))) →
      Q (.ok (claimedAction actionId row objective w.nextId)) u w')
    (herror : ∀ e w', (∀ row objective, w.row actionId = some row → ¬Claimable row objective) →
      w'.UpdatedFrom w w.row → Q (.error e) u w') :
    (claim actionId).Ensures (outside env R) P Q u w := by
  simp only [claim, Proc.ensures_bind, ensures_onRunStateError, ensures_get, Except.either_ok]
  refine ⟨hquiet (.store (.get _)) _ trivial, ?_⟩
  rcases hrow : w.row actionId with _ | row
  · have hnone : ∀ row, w.row actionId ≠ some row := fun _ h => by
      cases hrow.symm.trans h
    exact herror _ w (fun _ _ h => absurd h (hnone _)) (World.updatedFrom_self w)
  have hid : row.actionId = actionId := R.actionId_of_row hrow
  simp only [Proc.ensures_bind, Proc.ensures_ofExcept, requireCanonicalState]
  by_cases hcanonical : IsCanonicalState row
  swap
  · have hnone : ∀ row objective, w.row actionId = some row → ¬Claimable row objective :=
      fun row' _ hrow' hclaimable => by
        obtain rfl : row = row' := Option.some.inj (hrow.symm.trans hrow')
        exact hcanonical hclaimable.canonical
    simpa [hcanonical] using herror _ w hnone (World.updatedFrom_self w)
  simp only [hcanonical, not_true_eq_false, not_false_eq_true, Except.raiseIf_neg, Except.either_ok,
    ensures_onRunStateError]
  refine ensures_claimApproved hquiet hP (fun now claim state w' hclaim hw' => ?_)
    fun e e' now w' hrefused hw' => ?_
  · obtain ⟨row', objective, hrow', happroved, hexec, hunclaimed, hobjective, hblank, rfl, rfl⟩ :=
      claimApproved_eq_ok_iff.mp hclaim
    obtain rfl : row = row' := Option.some.inj (hrow.symm.trans hrow')
    have := hok row objective now w' hrow
      ⟨hcanonical, happroved, hexec, hunclaimed, hobjective, hblank⟩ hw'
    simpa [claimedAction, hid] using this
  · have hnone : ∀ row objective, w.row actionId = some row → ¬Claimable row objective :=
      fun row' _ hrow' hclaimable => by
        obtain ⟨claim, hclaim⟩ := hclaimable.claimApproved now w.nextId
        rw [hrow', hclaim] at hrefused
        cases hrefused
    have hw'' : w'.UpdatedFrom w w.row := hw'.trans (World.updatedFrom_draw w)
    simp only [Except.either_error]
    split_ifs <;> exact herror _ w' hnone hw''

end Ensures

end ActionRecovery

end Velox
