import Velox.SoftwareEngineering.Continuation
import Velox.SoftwareEngineering.Decision
import Velox.SoftwareEngineering.Ingress

/-!
# Executing before and after a restart

A delegated and approved coding task can be executed by the process that still
has it in its queue, or after a restart from the durable row alone. The queued
action carries the text as it was given, the row carries it stripped, and the two
are only compared once the row has been claimed.

## Main definitions

* `Reached` — an executor was invoked for a given action
* `ReadyToExecute` — what delegating and approving leave in the row
* `RestartTransparent` — the worker is reached with the same task either way

## Main results

* `execute_reaches`, `execute_conflicts` — the two ends of an execution
* `restartTransparent_iff` — a restart makes no difference exactly for texts
  without surrounding whitespace
-/

set_option autoImplicit false

namespace Velox

/-- Since `w`, an executor was invoked, and first for `action`. -/
def Reached {R : RunRepository} (w : World R) (action : Action) (w' : World R) : Prop :=
  ∃ execution, execution.action = action ∧ w.executions ++ [execution] <+: w'.executions

section Reached

variable {R : RunRepository} {env : Environment} {σ ε α β : Type} {s : σ} {w w' : World R}
  {action : Action}

theorem executions_prefix (h : w.history <+: w'.history) : w.executions <+: w'.executions :=
  h.filterMap _

/-- Whatever a program does, the history grows. -/
theorem ensures_history_prefix {m : Proc Outside σ ε α} :
    m.Ensures (outside env R) (fun _ _ => True) (fun _ _ w' => w.history <+: w'.history) s w :=
  Proc.ensures_true_iff.mpr (history_prefix_run env (m s) w)

/-- An executor that was reached stays reached. -/
theorem reached_of_ensures {m : Proc Outside σ ε α} (h : Reached w action w') :
    m.Ensures (outside env R) (fun _ _ => True) (fun _ _ w'' => Reached w action w'') s w' := by
  obtain ⟨execution, haction, hpre⟩ := h
  refine ensures_history_prefix.mono fun _ _ w'' hw'' => ?_
  exact ⟨execution, haction, hpre.trans ( executions_prefix hw'')⟩

theorem Reached.of_executions_eq {w₁ : World R} (hw₁ : w₁.executions = w.executions)
    (h : Reached w₁ action w') : Reached w action w' := by
  rwa [Reached, ← hw₁]

theorem reached_bind {m : Proc Outside σ ε α} {f : α → Proc Outside σ ε β}
    (h : m.Ensures (outside env R) (fun _ _ => True) (fun _ _ w'' => Reached w action w'') s w') :
    (m >>= f).Ensures (outside env R) (fun _ _ => True) (fun _ _ w'' => Reached w action w'') s w' := by
  rw [Proc.ensures_bind]
  refine h.mono fun r s' w'' hreached => ?_
  rcases r with e | a
  · exact hreached
  · exact reached_of_ensures hreached

end Reached

/-! ### From the claim to the worker -/

/-- A coding row that was claimed and not started. -/
structure ClaimedRow (row : RunState) (target : String) : Prop where
  identity : SameIdentity row target ExecutorRole.softwareEngineering.value
    SOFTWARE_ENGINEERING_IMPLEMENT_CAPABILITY
  claimed : row.claimId ≠ none
  unstarted : row.executionStartedAt = none
  unexecuted : row.executionStatus = none

/-- The runtime of a process whose executions are observed durably. -/
def observedRuntime (registry : WorkerExecutorRegistry) (maxTransientRetries : Int) : WorkerRuntime where
  executorRegistry := registry
  executionObserver := durableObserver
  maxTransientRetries

section Execute

variable [PyStd] {R : RunRepository} {env : Environment} {s : Stores} {w : World R}
  {registry : WorkerExecutorRegistry} {maxTransientRetries : Int} {executor : ℕ} {action : Action}

omit [PyStd] in
/-- Starting a claimed coding action is recorded. -/
theorem started_of_claimedRow {e : ExecutionStart} {r : Except Raised WorkerExecutionObservation}
    {w' : World R} {row : RunState} (hrow : w.row e.action.id = some row)
    (hclaimed : ClaimedRow row e.action.target)
    (hroute : IsCanonicalRoute e.requestedRole e.requestedCapability)
    (hstarted : DurableExecutionObserver.Started w e r w') :
    (∃ observation, r = .ok observation) ∧ w'.executions = w.executions := by
  have hregister : ∀ {now : DateTime} {state : RunState},
      registerAction now (DurableExecutionObserver.registrationOf e.action) (w.row e.action.id) =
        .ok state → state = row.touched now := fun h => by
    rcases DurableExecutionObserver.registerAction_eq_ok_iff.mp h with ⟨hnone, -⟩ |
      ⟨row', hrow', -, rfl⟩
    · exact nomatch hrow.symm.trans hnone
    · rw [Option.some.inj (hrow.symm.trans hrow')]
  cases hstarted with
  | other observation w' hobserves hnot hw' => exact absurd hroute hnot
  | refused error now w' hroute hwhy hw' =>
    obtain ⟨e', he'⟩ := hwhy
    have hok : registerAction now (DurableExecutionObserver.registrationOf e.action)
        (w.row e.action.id) = .ok (row.touched now) :=
      DurableExecutionObserver.registerAction_eq_ok_iff.mpr
        (Or.inr ⟨row, hrow, hclaimed.identity, rfl⟩)
    exact nomatch hok.symm.trans he'
  | registered observation now state w' hobserves hroute hstate hunclaimed hw' =>
    obtain rfl := hregister hstate
    exact absurd ⟨hclaimed.claimed, hclaimed.unstarted⟩ hunclaimed
  | unstarted error now now' startedAt state w' hroute hstate hclaim hwhy hw' =>
    obtain rfl := hregister hstate
    obtain ⟨e', he'⟩ := hwhy
    have hok : recordExecutionStarted now' startedAt (some (row.touched now)) = .ok _ :=
      recordExecutionStarted_eq_ok_iff.mpr
        ⟨_, rfl, hclaimed.claimed, hclaimed.unexecuted, rfl⟩
    exact nomatch hok.symm.trans he'
  | started observation now now' state state' w' hobserves hroute hstate hstart hw' =>
    exact ⟨⟨observation, rfl⟩, hw'.executions⟩

/-- Executing a claimed coding action reaches the worker. -/
theorem executeAction_reaches {executing : ActionLifecycleState} {row : RunState}
    (hregistry : registry.TakesCoding executor) (haction : CodingAction action)
    (hrow : w.row action.id = some row) (hclaimed : ClaimedRow row action.target) :
    ((observedRuntime registry maxTransientRetries).executeAction action executing).Ensures
      (outside env R) (fun _ _ => True) (fun _ _ w' => Reached w action w') s w := by
  set runtime := observedRuntime registry maxTransientRetries
  have hexecutor : (runtime.executorRegistry.resolveWithRegistration action).executor =
      .provider executor := (resolve_codingAction hregistry haction).1
  rw [WorkerRuntime.executeAction, Proc.ensures_bind, Proc.ensures_modify]
  simp only [Except.either_ok]
  rw [Proc.ensures_bind, Proc.ensures_embed]
  refine DurableExecutionObserver.ensures_start (fun _ _ _ => trivial) (fun _ _ _ _ => trivial) (fun _ _ _ _ _ _ _ _ _ => trivial)
    fun r w₁ hstarted => ?_
  obtain ⟨⟨observation, rfl⟩, hexecutions⟩ := started_of_claimedRow hrow hclaimed
    (isCanonicalRoute_resolve haction.canonical) hstarted
  refine reached_bind ?_
  rw [Proc.ensures_embed, WorkerRuntime.ensures_invoke]
  simp only [hexecutor, true_and, outside]
  -- the invocation is in the history whether it returns or raises
  have hreached : Reached w action (w₁.log (.execute
      ((runtime.executorRegistry.resolveWithRegistration action).execution executor action))) := by
    refine ⟨(runtime.executorRegistry.resolveWithRegistration action).execution executor action, rfl,
      [], ?_⟩
    rw [List.append_nil, World.executions_log_execute, hexecutions]
  rcases env.execute w₁.history
    ((runtime.executorRegistry.resolveWithRegistration action).execution executor action) with e | result
  · simp only [Except.either_error]
    split_ifs <;> exact hreached
  · exact hreached

/-! ### Executing a claimable row -/

/-- What delegating and approving leave in the row of a coding task. -/
structure ReadyToExecute (row : RunState) (target objective : String) : Prop where
  identity : SameIdentity row target ExecutorRole.softwareEngineering.value
    SOFTWARE_ENGINEERING_IMPLEMENT_CAPABILITY
  claimable : ActionRecovery.Claimable row objective
  unstarted : row.executionStartedAt = none

omit [PyStd] in
theorem ReadyToExecute.claimedRow {row : RunState} {target objective : String} {claimId : UUID}
    {claimedAt : DateTime} (h : ReadyToExecute row target objective) :
    ClaimedRow (row.claimed claimId claimedAt) target :=
  ⟨h.identity, Option.some_ne_none _, h.unstarted, h.claimable.unexecuted⟩

/-- Processing an approved action from the queue. -/
theorem processAction_reaches {id : UUID} {state : ActionLifecycleState} {row : RunState}
    (hregistry : registry.TakesCoding executor) (haction : CodingAction action)
    (hqueued : s.actionQueue.get id = some action) (hid : action.id = id)
    (hstate : s.lifecycle.get id = some state) (happroved : state.status = .approved)
    (hrow : w.row id = some row) (hclaimed : ClaimedRow row action.target) :
    ((observedRuntime registry maxTransientRetries).processAction id).Ensures
      (outside env R) (fun _ _ => True) (fun _ _ w' => Reached w action w') s w := by
  subst hid
  rw [WorkerRuntime.ensures_processAction]
  have hready : ¬∃ state ∈ s.lifecycle.get action.id, state.AwaitsApproval := by
    rintro ⟨state', hstate', hqueued', -⟩
    rw [Option.some.inj (hstate.symm.trans hstate'), hqueued'] at happroved
    cases happroved
  simp only [hqueued, hready, if_false]
  have hcurrent : state = ((s.setQueue (s.actionQueue.remove action.id).2).lifecycle.get
      action.id).getD { status := .queued } := by simp [hstate]
  rw [WorkerRuntime.ensures_processDequeuedAction hcurrent]
  have hnot : ¬state.AwaitsApproval := fun h => hready ⟨state, hstate, h⟩
  rw [if_neg hnot, if_pos (Or.inr happroved)]
  exact executeAction_reaches hregistry haction hrow hclaimed

/-- An action that stands for a task. -/
structure StandsFor (action : Action) (id : UUID) (target objective : String) : Prop where
  coding : CodingAction action
  id : action.id = id
  target : action.target = target
  objective : action.payload.get "objective" = some (.str objective)

/-- The local stores of a process about a delegated and approved action: it is still
queued and approved, or the process was restarted. -/
inductive Remembers (s : Stores) (id : UUID) (target objective : String) : Prop
  | kept (action : Action) (state : ActionLifecycleState) (hqueued : s.actionQueue.get id = some action)
      (haction : StandsFor action id target objective) (hstate : s.lifecycle.get id = some state)
      (happroved : state.status = .approved)
  | restarted (hqueued : s.actionQueue.get id = none) (hstate : s.lifecycle.get id = none)

/-- Executing an action that is approved where the process knows it: everything
depends on what happens once the row is claimed. -/
theorem ensures_execute_of_ready {id : UUID} {row : RunState} {target objective : String}
    {reviewer : Bool} {runtime : WorkerRuntime}
    {Q : Except Raised ContinuationResult → Stores → World R → Prop}
    (hrow : w.row id = some row) (hready : ReadyToExecute row target objective)
    (hlifecycle : ∀ state, s.lifecycle.get id = some state → state.status = .approved)
    (hcanonical : ∀ action, s.actionQueue.get id = some action → IsCanonicalAction action)
    (hclaimed : ∀ now w₁,
      w₁.UpdatedFrom w.draw (Function.update w.row id (some (row.claimed w.nextId now))) →
      (SoftwareEngineeringTaskContinuation.continueClaimed runtime reviewer id (s.lifecycle.get id)
        (s.actionQueue.get id) (ActionRecovery.claimedAction id row objective w.nextId)).Ensures
        (outside env R) (fun _ _ => True) Q s w₁) :
    (SoftwareEngineeringTaskContinuation.execute runtime reviewer id).Ensures (outside env R)
      (fun _ _ => True) Q s w := by
  have happroved : ¬∃ state ∈ s.lifecycle.get id, state.status ∉ [ActionStatus.queued, .approved] := by
    rintro ⟨state, hstate, hnot⟩
    exact hnot (by simp [hlifecycle state hstate])
  have hroute : ¬∃ action ∈ s.actionQueue.get id, ¬IsCanonicalAction action := by
    rintro ⟨action, haction, hnot⟩
    exact hnot (hcanonical action haction)
  rw [SoftwareEngineeringTaskContinuation.ensures_execute, if_neg happroved, if_neg hroute]
  refine SoftwareEngineeringTaskContinuation.ensures_claimForExecution
    (fun _ _ _ => trivial)
    (fun _ _ _ => trivial) (fun row' objective' now w₁ hrow' hclaimable hw₁ => ?_)
    fun e w' hnone _ => absurd hready.claimable (hnone row objective hrow)
  obtain rfl : row = row' := Option.some.inj (hrow.symm.trans hrow')
  obtain rfl : objective = objective' :=
    Option.some.inj (hready.claimable.hasObjective.symm.trans hclaimable.hasObjective)
  exact hclaimed now w₁ hw₁

omit [PyStd] in
/-- The claim does not conflict with an action that stands for the same task. -/
theorem not_conflictsWith_of_standsFor {a b : Action} {id : UUID} {target objective : String}
    (ha : StandsFor a id target objective) (hb : StandsFor b id target objective) :
    ¬SoftwareEngineeringTaskContinuation.ConflictsWith a b := by
  rintro (htarget | hobjective)
  · exact htarget (ha.target.trans hb.target.symm)
  · exact hobjective (ha.objective.trans hb.objective.symm)

/-- A process that remembers the task as the row has it reaches the worker. -/
theorem execute_reaches {id : UUID} {row : RunState} {target objective : String} {reviewer : Bool}
    (hregistry : registry.TakesCoding executor) (hrow : w.row id = some row)
    (hready : ReadyToExecute row target objective) (hstores : Remembers s id target objective) :
    (SoftwareEngineeringTaskContinuation.execute (observedRuntime registry maxTransientRetries)
      reviewer id).Ensures (outside env R) (fun _ _ => True)
      (fun _ _ w' => ∃ action, StandsFor action id target objective ∧ Reached w action w') s w := by
  have hlifecycle : ∀ state, s.lifecycle.get id = some state → state.status = .approved := by
    intro state hstate
    cases hstores with
    | kept action state' hqueued haction hstate' happroved =>
      rwa [← Option.some.inj (hstate'.symm.trans hstate)]
    | restarted hqueued hnone => exact nomatch hnone.symm.trans hstate
  have hcanonical : ∀ action, s.actionQueue.get id = some action → IsCanonicalAction action := by
    intro action haction
    cases hstores with
    | kept action' state hqueued hstands hstate happroved =>
      rw [← Option.some.inj (hqueued.symm.trans haction)]
      exact hstands.coding.canonical
    | restarted hqueued hnone => exact nomatch hqueued.symm.trans haction
  refine ensures_execute_of_ready hrow hready hlifecycle hcanonical fun now w₁ hw₁ => ?_
  have hrow₁ : w₁.row id = some (row.claimed w.nextId now) := hw₁.row_self
  have hrecovered : StandsFor (ActionRecovery.claimedAction id row objective w.nextId) id target
      objective := ⟨codingAction_recoveredAction _ _ _ _, rfl, hready.identity.1, rfl⟩
  obtain ⟨action, hstands, hnoconflict, hprocess⟩ : ∃ action, StandsFor action id target objective ∧
      (¬∃ queued ∈ s.actionQueue.get id, SoftwareEngineeringTaskContinuation.ConflictsWith queued
        (ActionRecovery.claimedAction id row objective w.nextId)) ∧
      ((observedRuntime registry maxTransientRetries).processAction id).Ensures (outside env R)
        (fun _ _ => True) (fun _ _ w' => Reached w₁ action w')
        (SoftwareEngineeringTaskContinuation.adopted s id
          (ActionRecovery.claimedAction id row objective w.nextId)) w₁ := by
    cases hstores with
    | kept action state hqueued hstands hstate happroved =>
      refine ⟨action, hstands, ?_, ?_⟩
      · rintro ⟨queued, hqueued', hconflict⟩
        obtain rfl : action = queued := Option.some.inj (hqueued.symm.trans hqueued')
        exact not_conflictsWith_of_standsFor hstands hrecovered hconflict
      · have hadopted : SoftwareEngineeringTaskContinuation.adopted s id
            (ActionRecovery.claimedAction id row objective w.nextId) = s := by
          simp [SoftwareEngineeringTaskContinuation.adopted, hqueued, hstate, happroved]
        rw [hadopted]
        exact processAction_reaches hregistry hstands.coding hqueued hstands.id hstate happroved hrow₁
          (hstands.target ▸ hready.claimedRow)
    | restarted hqueued hstate =>
      refine ⟨_, hrecovered, by simp [hqueued], ?_⟩
      have hadopted : SoftwareEngineeringTaskContinuation.adopted s id
          (ActionRecovery.claimedAction id row objective w.nextId) =
            (s.enqueue (ActionRecovery.claimedAction id row objective w.nextId)).setLifecycle id
              SoftwareEngineeringTaskContinuation.recoveredLifecycleState := by
        simp [SoftwareEngineeringTaskContinuation.adopted, hqueued, hstate]
      rw [hadopted]
      exact processAction_reaches hregistry hrecovered.coding
        (ActionQueue.get_enqueue hqueued rfl) rfl OrderedDict.get_set_self rfl hrow₁
        (hrecovered.target ▸ hready.claimedRow)
  rw [SoftwareEngineeringTaskContinuation.continueClaimed, Proc.ensures_bind,
    SoftwareEngineeringTaskContinuation.ensures_adoptClaim, if_neg hnoconflict]
  simp only [Except.either_ok]
  refine (reached_bind hprocess).mono fun _ _ w' hreached => ⟨action, hstands, ?_⟩
  exact hreached.of_executions_eq hw₁.executions

/-- A queued action with another text raises after the claim, before any worker. -/
theorem execute_conflicts {id : UUID} {row : RunState} {target objective : String} {reviewer : Bool}
    {runtime : WorkerRuntime} {state : ActionLifecycleState} (hrow : w.row id = some row)
    (hready : ReadyToExecute row target objective) (hqueued : s.actionQueue.get id = some action)
    (hcanonical : IsCanonicalAction action)
    (hobjective : action.payload.get "objective" ≠ some (.str objective))
    (hstate : s.lifecycle.get id = some state) (happroved : state.status = .approved) :
    (SoftwareEngineeringTaskContinuation.execute runtime reviewer id).Ensures (outside env R)
      (fun _ _ => True) (fun _ _ w' => w'.executions = w.executions) s w := by
  refine ensures_execute_of_ready hrow hready (fun state' hstate' => ?_) (fun action' haction' => ?_)
    fun now w₁ hw₁ => ?_
  · rwa [← Option.some.inj (hstate.symm.trans hstate')]
  · rwa [← Option.some.inj (hqueued.symm.trans haction')]
  · have hconflict : ∃ queued ∈ s.actionQueue.get id,
        SoftwareEngineeringTaskContinuation.ConflictsWith queued
          (ActionRecovery.claimedAction id row objective w.nextId) :=
      ⟨action, hqueued, Or.inr hobjective⟩
    rw [SoftwareEngineeringTaskContinuation.continueClaimed, Proc.ensures_bind,
      SoftwareEngineeringTaskContinuation.ensures_adoptClaim, if_pos hconflict]
    exact hw₁.executions

end Execute

/-! ### Delegating and approving first -/

/-- An identifier nothing is known about yet, locally or durably. -/
structure Site.Unused {R : RunRepository} (x : Site R) (id : UUID) : Prop where
  queue : x.stores.actionQueue.get id = none
  pending : x.stores.pendingApprovals.get id = none
  row : x.world.row id = none

section Delegate

variable [PyStd] {R : RunRepository} {env : Environment} {registry : WorkerExecutorRegistry}
  {D : Action → PermissionDecision → Prop} {x : Site R} {objective target : String}

/-- What delegating leaves in the row of a task that waits for approval. -/
structure AwaitingRow (row : RunState) (target objective : String) : Prop where
  identity : SameIdentity row target ExecutorRole.softwareEngineering.value
    SOFTWARE_ENGINEERING_IMPLEMENT_CAPABILITY
  awaiting : row.approvalStatus = some .awaitingApproval
  unexecuted : row.executionStatus = none
  unclaimed : row.claimId = none
  unstarted : row.executionStartedAt = none
  pendingObjective : row.pendingObjective = some (Python.strip objective)
  notBlank : Python.strip objective ≠ ""

/-- A task that waits for approval: the action as it was given, and its row. -/
structure Awaiting (s : Stores) (w : World R) (id : UUID) (target objective : String) : Prop where
  queue : s.actionQueue.get id = none
  held : ∃ action, s.pendingApprovals.get id = some action ∧ StandsFor action id target objective
  row : ∃ row, w.row id = some row ∧ AwaitingRow row target objective

/-- Nothing that an approval could be about. -/
structure Undecidable (s : Stores) (w : World R) (id : UUID) : Prop where
  unheld : s.pendingApprovals.get id = none
  row : ∀ row, w.row id = some row → row.approvalStatus ≠ some .awaitingApproval

theorem standsFor_withDecision {request : TaskDelegationRequest} {id : UUID} {dump : Value}
    (hrequest : SoftwareEngineeringTaskIngress.Requests objective target request) :
    StandsFor (PermissionEngineRuntime.withDecision (ActionTaskDelegator.actionFor request id) dump)
      id target objective := by
  obtain ⟨rfl, rfl, -⟩ := TaskDelegationRequest.create_eq_ok_iff.mp hrequest
  refine ⟨hrequest.codingAction id dump, rfl, rfl, ?_⟩
  show (ActionTaskDelegator.actionFor request id).payload.get "objective" = _
  rcases request with ⟨objective, target, role, capability, account, checked⟩
  rcases account with _ | account <;> rfl

omit [PyStd] in
theorem awaitingApproval_of_newState {result : TaskDelegationResult} {now : DateTime}
    {text : Option String}
    (h : ((SoftwareEngineeringTaskIngress.registrationOf objective target result).newState text
      now).approvalStatus = some .awaitingApproval) : result.status = .awaitingApproval := by
  cases hstatus : result.status <;>
    simp_all [Registration.newState, SoftwareEngineeringTaskIngress.registrationOf]

/-- A delegation leaves a task that waits for approval, or nothing to approve. -/
theorem awaiting_of_delegated {result : TaskDelegationResult} {s' : Stores} {w' : World R}
    (hunused : x.Unused x.world.nextId)
    (h : SoftwareEngineeringTaskIngress.Delegated registry D objective target x.stores x.world
      (.ok result) s' w') :
    Awaiting s' w' result.actionId target objective ∨ Undecidable s' w' result.actionId := by
  cases h with
  | registered request result now state s' w' hrequest hdelegated hstate hw' =>
    have hid : result.actionId = x.world.nextId := hdelegated.actionId
    rw [hunused.row, registerAction_eq_ok_iff] at hstate
    obtain ⟨hblank, ⟨-, hstate⟩ | ⟨row, hrow, -⟩⟩ := hstate
    swap
    · exact nomatch hrow
    rw [hid]
    have hrow : w'.row x.world.nextId = some state := hw'.row_self
    have hundecidable : result.status ≠ .awaitingApproval →
        s'.pendingApprovals.get x.world.nextId = none → Undecidable s' w' x.world.nextId := by
      refine fun hstatus hunheld => ⟨hunheld, fun row hrow' happroval => hstatus ?_⟩
      obtain rfl := Option.some.inj (hrow.symm.trans hrow')
      rw [hstate] at happroval
      exact awaitingApproval_of_newState happroval
    cases hdelegated with
    | routeRejected reason hroute => exact Or.inr (hundecidable (by simp) hunused.pending)
    | decided decision dump reason hroute hdecision =>
      by_cases hdecided : decision.status = .requiresApproval
      swap
      · refine Or.inr (hundecidable ?_ ?_)
        · cases hstatus : decision.status <;> simp_all [ActionTaskDelegator.statusOf]
        · unfold PermissionEngineRuntime.placedStores
          split_ifs <;> simpa [PermissionEngineRuntime.decidedStores, hdecided] using hunused.pending
      simp only [hdecided, reduceCtorEq, if_false, PermissionEngineRuntime.placedStores,
        PermissionEngineRuntime.decidedStores, if_true]
      have hobjective : Python.strip objective ≠ "" := by
        simpa [SoftwareEngineeringTaskIngress.registrationOf, hdecided,
          ActionTaskDelegator.statusOf] using hblank
      refine Or.inl ⟨hunused.queue, ⟨_, OrderedDict.get_set_self, standsFor_withDecision hrequest⟩,
        state, hrow, ?_⟩
      rw [hstate]
      constructor <;> simp [Registration.newState, SoftwareEngineeringTaskIngress.registrationOf,
        SameIdentity, hdecided, ActionTaskDelegator.statusOf, hobjective]

omit [PyStd] in
/-- Approving an awaiting row leaves one that is ready to be executed. -/
theorem readyToExecute_of_recorded {w w' : World R} {action : Action} {row : RunState}
    (haction : StandsFor action action.id target objective) (hrow : w.row action.id = some row)
    (hawaiting : AwaitingRow row target objective)
    (h : ActionRecovery.Recorded w action (Decision.approve.write action.id) (.ok ()) w') :
    ∃ row, w'.row action.id = some row ∧ ReadyToExecute row target (Python.strip objective) := by
  cases h with
  | skipped hcanonical => exact absurd haction.coding.canonical hcanonical
  | recorded now now' decidedAt text state state' w' hcanonical htext hregister hdecide hw' =>
    obtain ⟨raw, hraw, hblank, rfl⟩ := ActionRecovery.objective_eq_ok_iff.mp htext
    obtain rfl : objective = raw := by simpa using haction.objective.symm.trans hraw
    obtain ⟨-, ⟨hnone, -⟩ | ⟨row', hrow', -, -, rfl⟩⟩ := registerAction_eq_ok_iff.mp hregister
    · exact nomatch hrow.symm.trans hnone
    obtain rfl : row = row' := Option.some.inj (hrow.symm.trans hrow')
    obtain ⟨row', hrow'', -, -, -, rfl⟩ := recordApproval_eq_ok_iff.mp hdecide
    obtain rfl := Option.some.inj hrow''
    refine ⟨_, hw'.row_self, hawaiting.identity, ?_, hawaiting.unstarted⟩
    exact {
      canonical := hawaiting.identity.2
      approved := rfl
      unexecuted := hawaiting.unexecuted
      unclaimed := hawaiting.unclaimed
      hasObjective := by simp [RunState.approved]
      notBlank := hawaiting.notBlank }

omit [PyStd] in
/-- Approving an awaiting task queues its action and makes its row ready. -/
theorem ready_of_decided {s s' : Stores} {w w' : World R} {id : UUID}
    {lifecycle : ActionLifecycleState} (hawaiting : Awaiting s w id target objective)
    (h : Decision.Decided .approve s w id (.ok lifecycle) s' w') :
    ∃ action, s'.actionQueue.get id = some action ∧ StandsFor action id target objective ∧
      s'.lifecycle.get id = some lifecycle ∧ lifecycle.status = .approved ∧
      ∃ row, w'.row id = some row ∧ ReadyToExecute row target (Python.strip objective) := by
  obtain ⟨action, hheld, hstands⟩ := hawaiting.held
  obtain ⟨row, hrow, hawaitingRow⟩ := hawaiting.row
  cases h with
  | decided action' lifecycle w' hresolved htransition hrecorded =>
    cases hresolved with
    | held action' hheld' =>
      obtain rfl : action = action' := Option.some.inj (hheld.symm.trans hheld')
      obtain rfl := hstands.id
      exact ⟨action, ActionQueue.get_enqueue hawaiting.queue rfl, hstands, OrderedDict.get_set_self,
        (Decision.transition_eq_ok htransition).2.1,
        readyToExecute_of_recorded hstands hrow hawaitingRow hrecorded⟩
    | recovered row objective hheld' => exact nomatch hheld.symm.trans hheld'

omit [PyStd] in
/-- Where nothing can be decided about, no approval succeeds. -/
theorem not_decided_of_undecidable {s s' : Stores} {w w' : World R} {id : UUID}
    {lifecycle : ActionLifecycleState} (h : Undecidable s w id) :
    ¬Decision.Decided .approve s w id (.ok lifecycle) s' w' := by
  rintro (_ | _ | ⟨action, _, _, hresolved, _, _⟩)
  cases hresolved with
  | held action hheld => exact nomatch h.unheld.symm.trans hheld
  | recovered row objective hheld hrow hcanonical hpending => exact h.row row hrow hpending.1

/-! ### A restart in between -/

/-- Executing reaches the worker, first with an action that names the target and
the objective. -/
def ReachesWorker (env : Environment) (runtime : WorkerRuntime) (reviewer : Bool) (x : Site R)
    (id : UUID) (target objective : String) : Prop :=
  ∃ action, action.id = id ∧ action.target = target ∧
    action.payload.get "objective" = some (.str objective) ∧
    Reached x.world action (x.perform env
      (SoftwareEngineeringTaskContinuation.execute runtime reviewer id)).2.world

/-- Executing reaches the worker with the same target and objective, whether the
process kept its local stores or was restarted with empty ones. -/
def RestartTransparent (env : Environment) (runtime : WorkerRuntime) (reviewer : Bool) (x : Site R)
    (id : UUID) : Prop :=
  ∃ target objective, ReachesWorker env runtime reviewer x id target objective ∧
    ReachesWorker env runtime reviewer ⟨{}, x.world⟩ id target objective

/-- After delegating and approving a task, executing it is transparent to a restart
exactly when its text has no surrounding whitespace. -/
theorem restartTransparent_iff {engine : PermissionEngine} {executor : ℕ} {reviewer : Bool}
    {maxTransientRetries : Int} {x₁ x₂ : Site R} {result : TaskDelegationResult}
    {lifecycle : ActionLifecycleState} (hunused : x.Unused x.world.nextId)
    (hregistry : registry.TakesCoding executor)
    (hengine : PermissionEngineRuntime.Decides env (fun _ (_ : World R) => True) D engine)
    (hdelegated : x.perform env
      (SoftwareEngineeringTaskIngress.delegate registry engine objective target) = (.ok result, x₁))
    (happroved : x₁.perform env (Decision.approve.perform result.actionId) = (.ok lifecycle, x₂)) :
    RestartTransparent env (observedRuntime registry maxTransientRetries) reviewer x₂
      result.actionId ↔ Python.strip objective = objective := by
  have hawaiting := Site.perform_of_ensures env
    (fun r y => SoftwareEngineeringTaskIngress.Delegated registry D objective target x.stores x.world
      r y.stores y.world)
    (SoftwareEngineeringTaskIngress.ensures_delegate (fun _ _ _ => trivial) hengine
      (fun _ _ _ _ _ => trivial) fun _ _ _ h => h)
  have hdecided := Site.perform_of_ensures env
    (fun r y => Decision.Decided .approve x₁.stores x₁.world result.actionId r y.stores y.world)
    (Decision.ensures_perform (fun _ _ _ => trivial) (fun _ _ _ _ _ _ _ => trivial)
      (fun _ _ _ _ _ _ _ _ _ _ _ => trivial) fun _ _ _ h => h)
  rw [hdelegated] at hawaiting
  rw [happroved] at hdecided
  rcases awaiting_of_delegated hunused hawaiting with hawaiting | hundecidable
  swap
  · exact absurd hdecided (not_decided_of_undecidable hundecidable)
  obtain ⟨action, hqueued, hstands, hlifecycle, hstatus, row, hrow, hready⟩ :=
    ready_of_decided hawaiting hdecided
  have hreaches : ∀ s : Stores, Remembers s result.actionId target (Python.strip objective) →
      ReachesWorker env (observedRuntime registry maxTransientRetries) reviewer ⟨s, x₂.world⟩
        result.actionId target (Python.strip objective) := fun s hremembers => by
    obtain ⟨action, hstands, hreached⟩ := Site.perform_of_ensures (x := ⟨s, x₂.world⟩) env
      (fun _ y => ∃ action, StandsFor action result.actionId target (Python.strip objective) ∧
        Reached x₂.world action y.world) (execute_reaches hregistry hrow hready hremembers)
    exact ⟨action, hstands.id, hstands.target, hstands.objective, hreached⟩
  constructor
  · rintro ⟨target', objective', ⟨action', -, -, -, execution, -, hreached⟩, -⟩
    by_contra hne
    -- the process that kept its stores compares the raw text with the stripped one
    have hobjective : action.payload.get "objective" ≠ some (.str (Python.strip objective)) := by
      rw [hstands.objective]
      simpa using fun h => hne h.symm
    have hnone := Site.perform_of_ensures env
      (m := SoftwareEngineeringTaskContinuation.execute (observedRuntime registry maxTransientRetries)
        reviewer result.actionId) (fun _ y => y.world.executions = x₂.world.executions)
      (execute_conflicts hrow hready hqueued hstands.coding.canonical hobjective hlifecycle hstatus)
    rw [hnone] at hreached
    have hlength := hreached.length_le
    simp at hlength
  · intro hstrip
    have hkept : StandsFor action result.actionId target (Python.strip objective) := by
      rwa [hstrip]
    exact ⟨target, Python.strip objective,
      hreaches _ (.kept action lifecycle hqueued hkept hlifecycle hstatus),
      hreaches _ (.restarted rfl rfl)⟩

end Delegate

/-! ### A text with surrounding whitespace -/

/-- A process that delegated and approved a task. -/
def approvedTask (objective : String) : Site inMemoryRunRepository :=
  let delegated := (Site.initial _).perform .cooperative
    (@SoftwareEngineeringTaskIngress.delegate .ascii .codingOnly BasePermissionEngine.engine objective
      "velox")
  (delegated.2.perform .cooperative (Decision.approve.perform 0)).2

/-- A text with surrounding whitespace is delegated and approved, and the process
that kept it then never invokes the worker, while the row stays claimed. -/
theorem not_restartTransparent_of_spaces :
    ((approvedTask " add a test").world.row 0).any (·.approvalStatus = some .approved) ∧
      ¬@RestartTransparent .ascii _ .cooperative (observedRuntime .codingOnly 3) false
        (approvedTask " add a test") 0 := by
  have hnone : ((approvedTask " add a test").perform .cooperative
      (@SoftwareEngineeringTaskContinuation.execute .ascii (observedRuntime .codingOnly 3) false
        0)).2.world.executions = [] := by
    rfl
  refine ⟨by decide, ?_⟩
  rintro ⟨target, objective, ⟨action, -, -, -, execution, -, hpre⟩, -⟩
  rw [hnone] at hpre
  simp at hpre

/-- A text without surrounding whitespace is executed either way. -/
theorem restartTransparent_of_trimmed :
    @RestartTransparent .ascii _ .cooperative (observedRuntime .codingOnly 3) false
      (approvedTask "add a test") 0 :=
  (@restartTransparent_iff .ascii inMemoryRunRepository .cooperative .codingOnly _ (.initial _)
    "add a test" "velox" BasePermissionEngine.engine 0 false 3 _ _
    { actionId := 0
      status := .awaitingApproval
      permissionStatus := some .requiresApproval
      routingReason := "capability_route" } _ ⟨rfl, rfl, rfl⟩ ⟨_, rfl, rfl⟩
    PermissionEngineRuntime.decides_base rfl rfl).mpr (by decide)

end Velox
