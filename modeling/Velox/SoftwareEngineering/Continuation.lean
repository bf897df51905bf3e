import Velox.SoftwareEngineering.Route
import Velox.Workers.Runtime

/-!
# Continuing Software Engineering tasks

The observer that persists execution evidence, and the continuation that claims
one approved action, executes it and reviews its work product.

## Main definitions

* `DurableExecutionObserver`
* `SoftwareEngineeringTaskContinuation.execute`

## Main results

* `DurableExecutionObserver.ensures_start`, `DurableExecutionObserver.ensures_finish`
  — what observing an execution does to the row
* `SoftwareEngineeringTaskContinuation.ensures_execute` — the claim comes before
  anything local changes
-/

set_option autoImplicit false

namespace Velox

/-! ### Durable observation -/

namespace DurableExecutionObserver

/-- The registration an execution of the canonical route makes. -/
def registrationOf (action : Action) : Registration where
  actionId := action.id
  target := action.target
  executorRole := ExecutorRole.softwareEngineering.value
  capability := SOFTWARE_ENGINEERING_IMPLEMENT_CAPABILITY

/-- Register a canonical execution, and its start where it is claimed. -/
def start (observer : WorkerExecutionObserver) (e : ExecutionStart) :
    Task WorkerExecutionObservation := do
  let observation ← observer.start e
  if IsCanonicalRoute e.requestedRole e.requestedCapability then
    let state ← Repository.registerAction (registrationOf e.action)
    if state.claimId ≠ none ∧ state.executionStartedAt = none then
      let _ ← Repository.recordExecutionStarted e.action.id observation.startedAt
      return observation
    else return observation
  else return observation

/-- Record the result of a canonical execution. -/
def finish (observer : WorkerExecutionObserver) (observation : WorkerExecutionObservation)
    (e : ExecutionFinish) : Task WorkerExecutionObservation := do
  let finished ← observer.finish observation e
  if IsCanonicalRoute finished.requestedRole finished.requestedCapability then
    match finished.finishedAt with
    | none => throw (runStateError "finished execution observation has no completion time")
    | some finishedAt =>
      let _ ← Repository.recordExecution finished.actionId e.status.value finishedAt
        (externalExecutionPerformed e.metadata)
      return finished
  else return finished

end DurableExecutionObserver

/-- Persist canonical execution evidence while retaining observer behaviour. -/
def DurableExecutionObserver (observer : WorkerExecutionObserver) : WorkerExecutionObserver where
  start := DurableExecutionObserver.start observer
  finish := DurableExecutionObserver.finish observer

/-- The durable observer over the process-local one. -/
def durableObserver : WorkerExecutionObserver :=
  DurableExecutionObserver InMemoryWorkerExecutionObserver.observer

/-! ### What durable observation does -/

namespace DurableExecutionObserver

/-- The row after an execution of the canonical route has been registered. -/
theorem registerAction_eq_ok_iff {now : DateTime} {action : Action} {current : Option RunState}
    {state : RunState} :
    registerAction now (registrationOf action) current = .ok state ↔
      (current = none ∧ state = (registrationOf action).newState none now) ∨
        ∃ row, current = some row ∧
          SameIdentity row action.target ExecutorRole.softwareEngineering.value
            SOFTWARE_ENGINEERING_IMPLEMENT_CAPABILITY ∧
          state = row.touched now := by
  rw [Velox.registerAction_eq_ok_iff]
  simp [registrationOf, ObjectivesConflict, Registration.merge, RunState.touched]

section Ensures

variable {R : RunRepository} {env : Environment} {P : OutsideCall → World R → Prop} {u : Unit}
  {w : World R}

/-- An observation is about the action and the route it was started with. -/
structure Observes (observation : WorkerExecutionObservation) (e : ExecutionStart) : Prop where
  actionId : observation.actionId = e.action.id
  requestedRole : observation.requestedRole = e.requestedRole
  requestedCapability : observation.requestedCapability = e.requestedCapability

/-- What observing a start can leave behind. -/
inductive Started (w : World R) (e : ExecutionStart) :
    Except Raised WorkerExecutionObservation → World R → Prop
  | other (observation : WorkerExecutionObservation) (w' : World R)
      (hobserves : Observes observation e)
      (hroute : ¬IsCanonicalRoute e.requestedRole e.requestedCapability)
      (hw' : w'.UpdatedFrom w w.row) : Started w e (.ok observation) w'
  | refused (error : Raised) (now : DateTime) (w' : World R)
      (hroute : IsCanonicalRoute e.requestedRole e.requestedCapability)
      (hwhy : ∃ e', registerAction now (registrationOf e.action) (w.row e.action.id) = .error e')
      (hw' : w'.UpdatedFrom w w.row) : Started w e (.error error) w'
  /-- An execution that is not claimed, or was started before. -/
  | registered (observation : WorkerExecutionObservation) (now : DateTime) (state : RunState)
      (w' : World R) (hobserves : Observes observation e)
      (hroute : IsCanonicalRoute e.requestedRole e.requestedCapability)
      (hregister : registerAction now (registrationOf e.action) (w.row e.action.id) = .ok state)
      (hunclaimed : ¬(state.claimId ≠ none ∧ state.executionStartedAt = none))
      (hw' : w'.UpdatedFrom w (Function.update w.row e.action.id (some state))) :
      Started w e (.ok observation) w'
  | unstarted (error : Raised) (now now' startedAt : DateTime) (state : RunState) (w' : World R)
      (hroute : IsCanonicalRoute e.requestedRole e.requestedCapability)
      (hregister : registerAction now (registrationOf e.action) (w.row e.action.id) = .ok state)
      (hclaimed : state.claimId ≠ none)
      (hwhy : ∃ e', recordExecutionStarted now' startedAt (some state) = .error e')
      (hw' : w'.UpdatedFrom w (Function.update w.row e.action.id (some state))) :
      Started w e (.error error) w'
  | started (observation : WorkerExecutionObservation) (now now' : DateTime)
      (state state' : RunState) (w' : World R) (hobserves : Observes observation e)
      (hroute : IsCanonicalRoute e.requestedRole e.requestedCapability)
      (hregister : registerAction now (registrationOf e.action) (w.row e.action.id) = .ok state)
      (hstart : recordExecutionStarted now' observation.startedAt (some state) = .ok state')
      (hw' : w'.UpdatedFrom w (Function.update w.row e.action.id (some state'))) :
      Started w e (.ok observation) w'

theorem Started.observes {w' : World R} {e : ExecutionStart}
    {observation : WorkerExecutionObservation} (h : Started w e (.ok observation) w') :
    Observes observation e := by
  cases h <;> assumption

/-- Observing a start registers a canonical execution and starts a claimed one. -/
theorem ensures_start {e : ExecutionStart}
    {Q : Except Raised WorkerExecutionObservation → World R → Prop}
    (hquiet : PermitsQuiet P)
    (hregister : ∀ now w', IsCanonicalRoute e.requestedRole e.requestedCapability →
      w'.row = w.row → P (.store (.write (.registerAction now (registrationOf e.action)))) w')
    (hstart : ∀ now now' startedAt state w',
      registerAction now (registrationOf e.action) (w.row e.action.id) = .ok state →
      state.claimId ≠ none → state.executionStartedAt = none →
      w'.row = Function.update w.row e.action.id (some state) →
      P (.store (.write (.recordExecutionStarted now' e.action.id startedAt))) w')
    (hQ : ∀ r w', Started w e r w' → Q r w') :
    (durableObserver.start e).Ensures (outside env R) P (fun r _ w' => Q r w') u w := by
  simp only [durableObserver, DurableExecutionObserver, start, Proc.ensures_bind,
    InMemoryWorkerExecutionObserver.observer, InMemoryWorkerExecutionObserver.start,
    ensures_utcnow, Proc.ensures_pure, Except.either_ok]
  refine ⟨hquiet .utcnow w trivial, ?_⟩
  by_cases hroute : IsCanonicalRoute e.requestedRole e.requestedCapability
  swap
  · rw [if_neg hroute]
    exact hQ _ _ (.other _ _ ⟨rfl, rfl, rfl⟩ hroute (World.updatedFrom_tick w))
  rw [if_pos hroute, Proc.ensures_bind]
  refine Repository.ensures_stamped (fun _ => rfl) hquiet
    (fun now w' hw' => hregister now w' hroute hw')
    (fun now state w₁ hstate hw₁ => ?_) fun now error w' hwhy hw' => ?_
  · have hw₁' := hw₁.trans (World.updatedFrom_tick w)
    simp only [Except.either_ok]
    by_cases hclaimed : state.claimId ≠ none ∧ state.executionStartedAt = none
    swap
    · rw [if_neg hclaimed]
      exact hQ _ _ (.registered _ now state _ ⟨rfl, rfl, rfl⟩ hroute hstate hclaimed hw₁')
    rw [if_pos hclaimed, Proc.ensures_bind]
    refine Repository.ensures_stamped (fun _ => rfl) hquiet
      (fun now' w' hw' => hstart now now' _ state w' hstate hclaimed.1 hclaimed.2 (hw'.trans hw₁.row))
      (fun now' state' w' hstate' hw' => ?_) fun now' error w' hwhy hw' => ?_
    · rw [hw₁.row, Function.update_self] at hstate'
      rw [hw₁.row, Function.update_idem] at hw'
      exact hQ _ _ (.started _ now now' state state' w' ⟨rfl, rfl, rfl⟩ hroute hstate hstate'
        (hw'.trans hw₁'))
    · rw [hw₁.row] at hw'
      rw [hw₁.row, Function.update_self] at hwhy
      exact hQ _ _ (.unstarted error now now' _ state w' hroute hstate hclaimed.1 (hwhy trivial)
        (hw'.trans hw₁'))
  · exact hQ _ _ (.refused error now w' hroute (hwhy trivial) (hw'.trans (World.updatedFrom_tick w)))

/-- What observing a finish can leave behind. -/
inductive Finished (w : World R) (observation : WorkerExecutionObservation) (e : ExecutionFinish) :
    Except Raised WorkerExecutionObservation → World R → Prop
  | other (finished : WorkerExecutionObservation) (w' : World R)
      (hroute : ¬IsCanonicalRoute observation.requestedRole observation.requestedCapability)
      (hw' : w'.UpdatedFrom w w.row) : Finished w observation e (.ok finished) w'
  | refused (error : Raised) (w' : World R) (hw' : w'.UpdatedFrom w w.row)
      (hrow : w.row observation.actionId = none) : Finished w observation e (.error error) w'
  | recorded (finished : WorkerExecutionObservation) (now finishedAt : DateTime) (row : RunState)
      (w' : World R)
      (hroute : IsCanonicalRoute observation.requestedRole observation.requestedCapability)
      (hrow : w.row observation.actionId = some row)
      (hw' : w'.UpdatedFrom w (Function.update w.row observation.actionId
        (some (row.executed now e.status.value finishedAt
          (externalExecutionPerformed e.metadata))))) :
      Finished w observation e (.ok finished) w'

/-- Observing a finish records the result of a canonical execution. -/
theorem ensures_finish {observation : WorkerExecutionObservation} {e : ExecutionFinish}
    {Q : Except Raised WorkerExecutionObservation → World R → Prop}
    (hquiet : PermitsQuiet P)
    (hrecord : ∀ now finishedAt w',
      IsCanonicalRoute observation.requestedRole observation.requestedCapability →
      w'.row = w.row →
      P (.store (.write (.recordExecution now observation.actionId e.status.value finishedAt
        (externalExecutionPerformed e.metadata)))) w')
    (hQ : ∀ r w', Finished w observation e r w' → Q r w') :
    (durableObserver.finish observation e).Ensures (outside env R) P (fun r _ w' => Q r w') u w := by
  simp only [durableObserver, DurableExecutionObserver, finish, Proc.ensures_bind,
    InMemoryWorkerExecutionObserver.observer, InMemoryWorkerExecutionObserver.finish,
    ensures_utcnow, Proc.ensures_pure, Except.either_ok, outside]
  refine ⟨hquiet .utcnow w trivial, ?_⟩
  by_cases hroute : IsCanonicalRoute observation.requestedRole observation.requestedCapability
  swap
  · rw [if_neg hroute]
    exact hQ _ _ (.other _ _ hroute (World.updatedFrom_tick w))
  rw [if_pos hroute, Proc.ensures_bind]
  rcases hrow : w.row observation.actionId with _ | row
  · refine Repository.ensures_stamped (fun _ => rfl) hquiet
      (fun now w' hw' => hrecord now _ w' hroute hw') (fun now state w' hstate hw' => ?_)
      fun _ error w' _ hw' => ?_
    · have hnone : (none : Option RunState) = w.tick.row observation.actionId := hrow.symm
      rw [← hnone] at hstate
      cases hstate
    · exact hQ _ _ (.refused error w' (hw'.trans (World.updatedFrom_tick w)) hrow)
  · refine Repository.ensures_stamped_of_ok (fun _ => rfl) (hquiet .utcnow _ trivial)
      (fun now w' hw' => hrecord now _ w' hroute hw') (fun _ => trivial)
      (fun now => recordExecution_eq_ok_iff.mpr ⟨row, hrow, rfl⟩) fun now w' hw' => ?_
    exact hQ _ _ (.recorded _ now _ row w' hroute hrow (hw'.trans (World.updatedFrom_tick w)))

/-- The reply of an executor, an exception taken for a failed result. -/
def invoked (env : Environment) (w : World R) (execution : Execution) :
    Except Raised WorkerExecutionResult :=
  (env.execute w.history execution).either .ok fun e =>
    if e.isException then .ok (raisedResult execution.action e) else .error e

/-- What invoking the resolved executor can leave behind. -/
inductive Invoked (env : Environment) (w : World R) (resolution : WorkerExecutorResolution)
    (action : Action) : Except Raised WorkerExecutionResult → World R → Prop
  | noOp (hexecutor : resolution.executor = .noOp) :
      Invoked env w resolution action (.ok (noOpExecute action)) w
  | provider (executor : ℕ) (hexecutor : resolution.executor = .provider executor) :
      Invoked env w resolution action (invoked env w (resolution.execution executor action))
        (w.log (.execute (resolution.execution executor action)))

theorem invoked_invoke {resolution : WorkerExecutorResolution} {action : Action}
    (hP : ∀ executor, resolution.executor = .provider executor →
      P (.execute (resolution.execution executor action)) w) :
    (WorkerRuntime.invoke resolution action).Ensures (outside env R) P
      (fun r _ w' => Invoked env w resolution action r w') u w := by
  rw [WorkerRuntime.ensures_invoke]
  rcases hexecutor : resolution.executor with executor | _
  · have hinvoked : Invoked env w resolution action
        (invoked env w (resolution.execution executor action))
        (w.log (.execute (resolution.execution executor action))) := .provider executor hexecutor
    refine ⟨hP executor hexecutor, ?_⟩
    rw [invoked] at hinvoked
    simp only [outside]
    rcases hreply : env.execute w.history (resolution.execution executor action) with e | result
    · rw [hreply] at hinvoked
      by_cases he : e.isException = true
      · simpa [he, WorkerExecutorResolution.execution] using hinvoked
      · simpa [he] using hinvoked
    · rw [hreply] at hinvoked
      exact hinvoked
  · exact .noOp hexecutor

/-- What an observer is told about a result. -/
def finishOf (result : WorkerExecutionResult) : ExecutionFinish where
  status := result.status
  metadata := result.metadata
  reason := result.reason
  failure := failureForResult result

/-- What a durably observed execution can leave behind, once the action is marked
executing in the local stores. -/
inductive Executed (env : Environment) (maxTransientRetries : Int)
    (resolution : WorkerExecutorResolution) (action : Action) (executing : ActionLifecycleState)
    (s : Stores) (w : World R) : Stores → World R → Prop
  | unstarted (e : Raised) (w' : World R)
      (hstarted : Started w (resolution.executionStart action) (.error e) w') :
      Executed env maxTransientRetries resolution action executing s w s w'
  | aborted (observation : WorkerExecutionObservation) (e : Raised) (w₁ w' : World R)
      (hstarted : Started w (resolution.executionStart action) (.ok observation) w₁)
      (hinvoked : Invoked env w₁ resolution action (.error e) w') :
      Executed env maxTransientRetries resolution action executing s w s w'
  | unfinished (observation : WorkerExecutionObservation) (result : WorkerExecutionResult)
      (e : Raised) (w₁ w₂ w' : World R)
      (hstarted : Started w (resolution.executionStart action) (.ok observation) w₁)
      (hinvoked : Invoked env w₁ resolution action (.ok result) w₂)
      (hfinished : Finished w₂ observation (finishOf result) (.error e) w') :
      Executed env maxTransientRetries resolution action executing s w s w'
  | finished (observation observation' : WorkerExecutionObservation)
      (result : WorkerExecutionResult) (s' : Stores) (w₁ w₂ w' : World R)
      (hstarted : Started w (resolution.executionStart action) (.ok observation) w₁)
      (hinvoked : Invoked env w₁ resolution action (.ok result) w₂)
      (hfinished : Finished w₂ observation (finishOf result) (.ok observation') w')
      (hstored : WorkerRuntime.Stored maxTransientRetries s action executing result s') :
      Executed env maxTransientRetries resolution action executing s w s' w'

/-- A durably observed execution, from the executing state to a stored outcome. -/
theorem ensures_executeAction [PyStd] {runtime : WorkerRuntime} {action : Action}
    {executing : ActionLifecycleState} {s : Stores}
    {Q : Except Raised WorkerProcessingResult → Stores → World R → Prop}
    (hobserver : runtime.executionObserver = durableObserver)
    (hstatus : executing.status = .executing) (hquiet : PermitsQuiet P)
    (hregister : ∀ now w', w'.row = w.row →
      P (.store (.write (.registerAction now (registrationOf action)))) w')
    (hstart : ∀ now now' startedAt state w',
      registerAction now (registrationOf action) (w.row action.id) = .ok state →
      state.claimId ≠ none → state.executionStartedAt = none →
      w'.row = Function.update w.row action.id (some state) →
      P (.store (.write (.recordExecutionStarted now' action.id startedAt))) w')
    (hexecute : ∀ observation executor w', Started w
      ((runtime.executorRegistry.resolveWithRegistration action).executionStart action)
        (.ok observation) w' →
      (runtime.executorRegistry.resolveWithRegistration action).executor = .provider executor →
      P (.execute ((runtime.executorRegistry.resolveWithRegistration action).execution executor
        action)) w')
    (hrecord : ∀ observation w₁ w₂ result now finishedAt w', Started w
      ((runtime.executorRegistry.resolveWithRegistration action).executionStart action)
        (.ok observation) w₁ →
      Invoked env w₁ (runtime.executorRegistry.resolveWithRegistration action) action (.ok result)
        w₂ →
      IsCanonicalRoute observation.requestedRole observation.requestedCapability →
      w'.row = w₂.row →
      P (.store (.write (.recordExecution now observation.actionId result.status.value finishedAt
        (externalExecutionPerformed result.metadata)))) w')
    (hQ : ∀ r s' w', Executed env runtime.maxTransientRetries
      (runtime.executorRegistry.resolveWithRegistration action) action executing
      (s.setLifecycle action.id executing) w s' w' → Q r s' w') :
    (runtime.executeAction action executing).Ensures (outside env R) P Q s w := by
  set resolution := runtime.executorRegistry.resolveWithRegistration action with hresolution
  refine WorkerRuntime.ensures_executeAction
    (S := fun r w' => Started w (resolution.executionStart action) r w')
    (I := fun observation r w' => ∃ w₁, Started w (resolution.executionStart action)
      (.ok observation) w₁ ∧ Invoked env w₁ resolution action r w')
    (F := fun result r w' => ∃ observation w₁ w₂, Started w (resolution.executionStart action)
      (.ok observation) w₁ ∧ Invoked env w₁ resolution action (.ok result) w₂ ∧
        Finished w₂ observation (finishOf result) r w')
    hstatus ?_ (fun observation w₁ hstarted => ?_)
    (fun observation result w₂ ⟨w₁, hstarted, hinvoked⟩ => ?_) (fun e w' hwhy => ?_)
    fun observation' result r s' w' ⟨observation, w₁, w₂, hstarted, hinvoked, hfinished⟩ hstored => ?_
  · rw [hobserver]
    exact ensures_start hquiet (fun now w' _ => hregister now w') hstart fun _ _ h => h
  · exact (invoked_invoke fun executor hexecutor =>
      hexecute observation executor w₁ hstarted hexecutor).mono fun _ _ _ h => ⟨w₁, hstarted, h⟩
  · rw [hobserver]
    exact ensures_finish (e := finishOf result) hquiet
      (fun now finishedAt w' hroute hw' =>
        hrecord observation w₁ w₂ result now finishedAt w' hstarted hinvoked hroute hw')
      fun _ _ h => ⟨observation, w₁, w₂, hstarted, hinvoked, h⟩
  · rcases hwhy with hstarted | ⟨observation, w₁, hstarted, hinvoked⟩ |
      ⟨result, observation, w₁, w₂, hstarted, hinvoked, hfinished⟩
    · exact hQ _ _ _ (.unstarted e w' hstarted)
    · exact hQ _ _ _ (.aborted observation e w₁ w' hstarted hinvoked)
    · exact hQ _ _ _ (.unfinished observation result e w₁ w₂ w' hstarted hinvoked hfinished)
  · exact hQ _ _ _ (.finished observation observation' result s' w₁ w₂ w' hstarted hinvoked hfinished
      hstored)

end Ensures

end DurableExecutionObserver

/-! ### Continuation -/

/-- Whether a verified work-product review could be returned. -/
inductive WorkProductReviewStatus
  | available
  | unavailable
  deriving DecidableEq

/-- Execution outcome plus optional verified work-product review. -/
structure ContinuationResult where
  actionId : UUID
  processed : Bool
  executionStatus : WorkerExecutionStatus
  lifecycleStatus : ActionStatus
  executionReason : Option String
  externalExecutionPerformed : Bool
  reviewStatus : WorkProductReviewStatus
  review : Option WorkProductReview

namespace SoftwareEngineeringTaskContinuation

/-- The failure reasons that may be shown. -/
def safeExecutionFailureReasons : List String :=
  ["unsupported_capability", "invalid_task", "executable_missing", "workspace_unavailable",
    "unsupported_cli", "canonical_workspace_modified", "timeout", "authentication_failed",
    "malformed_output", "process_failed", "invalid_result", "worker_reported_blockers"]

/-- `SoftwareEngineeringContinuationNotFoundError`. -/
def notFoundError : Raised :=
  ⟨.softwareEngineeringContinuationNotFoundError, "software engineering action was not found"⟩

/-- `SoftwareEngineeringContinuationStateError`. -/
def stateError (message : String) : Raised :=
  ⟨.softwareEngineeringContinuationStateError, message⟩

/-- `SoftwareEngineeringContinuationRouteError`. -/
def routeError (message : String) : Raised :=
  ⟨.softwareEngineeringContinuationRouteError, message⟩

/-- `_require_canonical_action`. -/
def requireCanonicalAction (action : Action) : Except Raised Unit :=
  .raiseIf (¬IsCanonicalAction action)
    (routeError "action is not the canonical software engineering implementation route")

/-- Claim through recovery, keeping its failures apart. -/
def claimForExecution (actionId : UUID) : Task Action :=
  tryCatch (ActionRecovery.claim actionId) fun error =>
    match error.kind with
    | .softwareEngineeringRecoveryNotFoundError => throw notFoundError
    | .softwareEngineeringRecoveryError =>
      throw (stateError "software engineering action could not be claimed for execution")
    | _ => throw error

/-- The queued action names another target or objective than the claim. -/
def ConflictsWith (queued recovered : Action) : Prop :=
  queued.target ≠ recovered.target ∨
    queued.payload.get "objective" ≠ recovered.payload.get "objective"

instance (queued recovered : Action) : Decidable (ConflictsWith queued recovered) :=
  inferInstanceAs (Decidable (_ ∨ _))

/-- The lifecycle state of a claimed action that had none, or was only queued. -/
def recoveredLifecycleState : ActionLifecycleState where
  status := .approved
  metadata := .ofList [("approval_required", .bool true), ("durable_recovery", .bool true)]

/-- Bring the local stores in line with a claim. -/
def adoptClaim (actionId : UUID) (lifecycle : Option ActionLifecycleState)
    (queued : Option Action) (recovered : Action) : Service Unit := do
  match queued with
  | none => modify fun s => s.enqueue recovered
  | some action =>
    Proc.ofExcept (.raiseIf (ConflictsWith action recovered)
      (routeError "queued Action conflicts with durable Software Engineering identity"))
  if lifecycle.all (·.status = .queued) then
    modify fun s => s.setLifecycle actionId recoveredLifecycleState

/-- The reason of an execution, as far as it may be shown. -/
def shownReason (processing : WorkerProcessingResult) : Option String :=
  match processing.executionStatus with
  | some .failed =>
    if ∃ reason ∈ processing.executionReason, reason ∈ safeExecutionFailureReasons then
      processing.executionReason
    else some "worker execution failed"
  | some .skipped => some "worker execution skipped"
  | _ => none

/-- Review the work product, when there is a reviewer. -/
def reviewAfterExecution (reviewer : Bool) (actionId : UUID) :
    Task (WorkProductReviewStatus × Option WorkProductReview) :=
  if reviewer then
    tryCatch (do return (.available, some (← reviewWorkProduct actionId))) fun error =>
      if error.kind = .workProductIdentityError then return (.unavailable, none) else throw error
  else return (.unavailable, none)

/-- What `execute` does once the action is claimed. -/
def continueClaimed [PyStd] (runtime : WorkerRuntime) (reviewer : Bool) (actionId : UUID)
    (lifecycle : Option ActionLifecycleState) (queued : Option Action) (recovered : Action) :
    Service ContinuationResult := do
  adoptClaim actionId lifecycle queued recovered
  let processing ← runtime.processAction actionId
  match processing.processed, processing.executionStatus, processing.lifecycleState with
  | true, some executionStatus, some lifecycleState =>
    let (reviewStatus, review) ← Proc.embed (reviewAfterExecution reviewer actionId)
    return {
      actionId
      processed := true
      executionStatus
      lifecycleStatus := lifecycleState.status
      executionReason := shownReason processing
      externalExecutionPerformed := processing.externalExecutionPerformed
      reviewStatus
      review }
  | _, _, _ => throw (stateError "software engineering action could not be claimed for execution")

/-- Durably claim and continue one approved canonical action. -/
def execute [PyStd] (runtime : WorkerRuntime) (reviewer : Bool) (actionId : UUID) :
    Service ContinuationResult := do
  let s ← get
  let lifecycle := s.lifecycle.get actionId
  let queued := s.actionQueue.get actionId
  Proc.ofExcept (.raiseIf (∃ state ∈ lifecycle, state.status ∉ [.queued, .approved])
    (stateError "software engineering action is not approved for execution"))
  match queued with
  | some action => Proc.ofExcept (requireCanonicalAction action)
  | none => pure ()
  let recovered ← Proc.embed (claimForExecution actionId)
  continueClaimed runtime reviewer actionId lifecycle queued recovered

/-! ### What continuing does -/

section Ensures

variable {W : Type} {h : Handler Outside W} {P : OutsideCall → W → Prop} {s : Stores} {w : W}
  {actionId : UUID}

/-- The local stores in line with a claim. -/
def adopted (s : Stores) (actionId : UUID) (recovered : Action) : Stores :=
  let s' := if (s.actionQueue.get actionId).isNone then s.enqueue recovered else s
  if (s.lifecycle.get actionId).all (·.status = .queued) then
    s'.setLifecycle actionId recoveredLifecycleState
  else s'

theorem ensures_adoptClaim {recovered : Action} {Q : Except Raised Unit → Stores → W → Prop} :
    (adoptClaim actionId (s.lifecycle.get actionId) (s.actionQueue.get actionId) recovered).Ensures
        h P Q s w ↔
      if ∃ action ∈ s.actionQueue.get actionId, ConflictsWith action recovered then
        Q (.error (routeError
          "queued Action conflicts with durable Software Engineering identity")) s w
      else Q (.ok ()) (adopted s actionId recovered) w := by
  rcases hqueued : s.actionQueue.get actionId with _ | action
  · by_cases hall : (s.lifecycle.get actionId).all (·.status = .queued) = true <;>
      simp [adoptClaim, adopted, hqueued, hall]
  · by_cases hconflict : ConflictsWith action recovered
    · simp [adoptClaim, hconflict]
    · by_cases hall : (s.lifecycle.get actionId).all (·.status = .queued) = true <;>
        simp [adoptClaim, adopted, hqueued, hall, hconflict]

/-- Claiming for an execution differs from claiming only in its exceptions. -/
theorem ensures_claimForExecution {R : RunRepository} {env : Environment}
    {P : OutsideCall → World R → Prop} {u : Unit} {w : World R}
    {Q : Except Raised Action → Unit → World R → Prop} (hquiet : PermitsQuiet P)
    (hP : ∀ now w', w'.row = w.row → P (.store (.claimApproved now w.nextId actionId)) w')
    (hok : ∀ row objective now w', w.row actionId = some row →
      ActionRecovery.Claimable row objective →
      w'.UpdatedFrom w.draw (Function.update w.row actionId (some (row.claimed w.nextId now))) →
      Q (.ok (ActionRecovery.claimedAction actionId row objective w.nextId)) u w')
    (herror : ∀ e w', (∀ row objective, w.row actionId = some row →
      ¬ActionRecovery.Claimable row objective) → w'.UpdatedFrom w w.row → Q (.error e) u w') :
    (claimForExecution actionId).Ensures (outside env R) P Q u w := by
  rw [claimForExecution, Proc.ensures_tryCatch]
  refine ActionRecovery.ensures_claim hquiet hP hok fun e w' hnone hw' => ?_
  simp only [Except.either_error]
  split <;> exact herror _ w' hnone hw'

/-- Reviewing changes neither the local stores nor a row. -/
theorem ensures_reviewAfterExecution {R : RunRepository} {env : Environment}
    {P : OutsideCall → World R → Prop} {reviewer : Bool} {u : Unit} {w : World R}
    (hquiet : PermitsQuiet P) :
    (reviewAfterExecution reviewer actionId).Ensures (outside env R) P
      (fun _ _ w' => w'.UpdatedFrom w w.row) u w := by
  have hquietCall : (OutsideCall.reviewWorkProduct actionId).Quiet := trivial
  have hlog : (w.log (.reviewWorkProduct actionId)).UpdatedFrom w w.row :=
    @updatedFrom_outside R env _ w hquietCall
  unfold reviewAfterExecution
  cases reviewer
  · exact World.updatedFrom_self w
  · simp only [if_true, Proc.ensures_tryCatch, Proc.ensures_bind, ensures_reviewWorkProduct, outside]
    refine ⟨hquiet _ w trivial, ?_⟩
    rcases env.reviewWorkProduct w.history actionId with e | review
    · simp only [Except.either_error]
      split_ifs <;> exact hlog
    · exact hlog

/-- What holds of the local stores and of the rows after processing holds after
continuing; a conflict leaves both as they were. -/
theorem ensures_continueClaimed [PyStd] {R : RunRepository} {env : Environment}
    {P : OutsideCall → World R → Prop} {runtime : WorkerRuntime} {reviewer : Bool} {w : World R}
    {recovered : Action} {Q : Stores → World R → Prop} (hquiet : PermitsQuiet P)
    (hkeep : ∀ s w w', w'.UpdatedFrom w w.row → Q s w → Q s w') (hconflict : Q s w)
    (hprocess : (¬∃ action ∈ s.actionQueue.get actionId, ConflictsWith action recovered) →
      (runtime.processAction actionId).Ensures (outside env R) P (fun _ s w => Q s w)
        (adopted s actionId recovered) w) :
    (continueClaimed runtime reviewer actionId (s.lifecycle.get actionId)
      (s.actionQueue.get actionId) recovered).Ensures (outside env R) P (fun _ s w => Q s w) s w := by
  rw [continueClaimed, Proc.ensures_bind, ensures_adoptClaim]
  split_ifs with hconflicts
  · exact hconflict
  simp only [Except.either_ok, Proc.ensures_bind]
  refine (hprocess hconflicts).mono fun r s' w' hprocessed => ?_
  rcases r with e | processing
  · exact hprocessed
  simp only [Except.either_ok]
  split
  · simp only [Proc.ensures_bind, Proc.ensures_embed]
    refine (ensures_reviewAfterExecution hquiet).mono fun r _ w'' hw'' => ?_
    rcases r with e | ⟨reviewStatus, review⟩
    · exact hkeep _ _ _ hw'' hprocessed
    · exact hkeep _ _ _ hw'' hprocessed
  · exact hprocessed

/-- Nothing local changes before the action has been claimed. -/
theorem ensures_execute [PyStd] {runtime : WorkerRuntime} {reviewer : Bool}
    {Q : Except Raised ContinuationResult → Stores → W → Prop} :
    (execute runtime reviewer actionId).Ensures h P Q s w ↔
      if ∃ state ∈ s.lifecycle.get actionId, state.status ∉ [.queued, .approved] then
        Q (.error (stateError "software engineering action is not approved for execution")) s w
      else if ∃ action ∈ s.actionQueue.get actionId, ¬IsCanonicalAction action then
        Q (.error (routeError
          "action is not the canonical software engineering implementation route")) s w
      else
        (claimForExecution actionId).Ensures h P (fun claimed _ w => claimed.either
          (fun recovered =>
            (continueClaimed runtime reviewer actionId (s.lifecycle.get actionId)
              (s.actionQueue.get actionId) recovered).Ensures h P Q s w)
          fun e => Q (.error e) s w) () w := by
  simp only [execute, Proc.ensures_bind, Proc.ensures_get, Except.either_ok,
    Proc.ensures_ofExcept]
  split_ifs with hstatus hroute
  · rw [Except.raiseIf_pos hstatus]
    rfl
  · obtain ⟨action, hqueued, hnot⟩ := hroute
    rw [Except.raiseIf_neg hstatus, Option.mem_def.mp hqueued]
    simp [requireCanonicalAction, hnot]
  · rw [Except.raiseIf_neg hstatus]
    rcases hqueued : s.actionQueue.get actionId with _ | action
    · simp
    · have hcanonical : IsCanonicalAction action := by
        by_contra hnot
        exact hroute ⟨action, hqueued, hnot⟩
      simp [requireCanonicalAction, hcanonical]

end Ensures

end SoftwareEngineeringTaskContinuation

end Velox
