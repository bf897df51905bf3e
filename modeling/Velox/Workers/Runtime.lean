import Velox.Core.Environment

/-!
# The worker runtime

Queued actions are taken through the governed execution path: the lifecycle is
checked, the executor resolved, the execution observed, and the outcome stored.
A transient failure puts the action back into the queue a bounded number of times.

The identifiers and durations of observations are left out: nothing reads them.

## Main definitions

* `WorkerExecutionObserver` — the execution observation boundary
* `InMemoryWorkerExecutionObserver` — the process-local observer
* `WorkerRuntime.processNext`, `WorkerRuntime.processAction`

## Main results

* `WorkerRuntime.ensures_settle` — what an execution result does to the stores
* `WorkerRuntime.ensures_processDequeuedAction` — the governed execution path
-/

set_option autoImplicit false

namespace Velox

/-! ### Observing executions -/

/-- What an observer is told when an execution starts. -/
structure ExecutionStart where
  action : Action
  requestedRole : Option String
  executorRegistered : Bool
  requestedCapability : Option String
  requestedProvider : Option String
  matchedProvider : Option String
  requestedAccountContext : Option WorkerAccountContext
  matchedAccountContext : Option WorkerAccountContext
  accountContextUsed : Option WorkerAccountContext
  routingReason : Option String

/-- What an observer is told when an execution finishes. -/
structure ExecutionFinish where
  status : WorkerExecutionStatus
  metadata : Dict
  reason : Option String
  failure : Option WorkerExecutionFailure

/-- Observation of one worker execution. -/
structure WorkerExecutionObservation where
  actionId : UUID
  requestedRole : Option String
  executorRegistered : Bool
  requestedCapability : Option String
  requestedProvider : Option String
  matchedProvider : Option String
  requestedAccountContext : Option WorkerAccountContext
  matchedAccountContext : Option WorkerAccountContext
  accountContextUsed : Option WorkerAccountContext
  routingReason : Option String
  status : String
  startedAt : DateTime
  finishedAt : Option DateTime := none
  reason : Option String := none
  failureCategory : Option String := none
  failureMessage : Option String := none
  metadata : Dict := ∅

/-- The provider-neutral execution observation boundary. -/
structure WorkerExecutionObserver where
  start : ExecutionStart → Task WorkerExecutionObservation
  finish : WorkerExecutionObservation → ExecutionFinish → Task WorkerExecutionObservation

namespace InMemoryWorkerExecutionObserver

/-- Record execution start. -/
def start (e : ExecutionStart) : Task WorkerExecutionObservation := do
  return {
    actionId := e.action.id
    requestedRole := e.requestedRole
    executorRegistered := e.executorRegistered
    requestedCapability := e.requestedCapability
    requestedProvider := e.requestedProvider
    matchedProvider := e.matchedProvider
    requestedAccountContext := e.requestedAccountContext
    matchedAccountContext := e.matchedAccountContext
    accountContextUsed := e.accountContextUsed
    routingReason := e.routingReason
    status := "started"
    startedAt := ← utcnow
    metadata := .ofList [("action_type", .str e.action.type),
      ("action_target", .str e.action.target)] }

/-- Record execution finish. -/
def finish (observation : WorkerExecutionObservation) (e : ExecutionFinish) :
    Task WorkerExecutionObservation := do
  return { observation with
    status := e.status.value
    finishedAt := some (← utcnow)
    reason := e.reason
    failureCategory := e.failure.map (·.category.value)
    failureMessage := e.failure.bind (·.message)
    metadata := observation.metadata.update e.metadata.entries }

/-- The process-local observer. -/
def observer : WorkerExecutionObserver := ⟨start, finish⟩

end InMemoryWorkerExecutionObserver

/-! ### Processing queued actions -/

/-- Result returned after one processing attempt. -/
structure WorkerProcessingResult where
  action : Option Action
  lifecycleState : Option ActionLifecycleState
  executionStatus : Option WorkerExecutionStatus
  executionReason : Option String
  processed : Bool
  externalExecutionPerformed : Bool

/-- An account context value, or `None`. -/
def optionalAccountContext (context : Option WorkerAccountContext) : Value :=
  (context.map WorkerAccountContext.asMetadata).getD .none

/-- `WorkerExecutionObservation.as_metadata`. -/
def WorkerExecutionObservation.asMetadata (o : WorkerExecutionObservation) : Value :=
  .dict [("action_id", .str (UUID.str o.actionId)),
    ("requested_role", optionalText o.requestedRole),
    ("executor_registered", .bool o.executorRegistered),
    ("requested_capability", optionalText o.requestedCapability),
    ("requested_provider", optionalText o.requestedProvider),
    ("matched_provider", optionalText o.matchedProvider),
    ("requested_account_context", optionalAccountContext o.requestedAccountContext),
    ("matched_account_context", optionalAccountContext o.matchedAccountContext),
    ("account_context_used", optionalAccountContext o.accountContextUsed),
    ("routing_reason", optionalText o.routingReason),
    ("status", .str o.status),
    ("started_at", .str o.startedAt.isoformat),
    ("finished_at", optionalText (o.finishedAt.map DateTime.isoformat)),
    ("reason", optionalText o.reason),
    ("failure_category", optionalText o.failureCategory),
    ("failure_message", optionalText o.failureMessage),
    ("metadata", .dict o.metadata.entries)]

/-- `lifecycle_state.model_dump(mode="json")`. -/
def ActionLifecycleState.modelDump (state : ActionLifecycleState) : Except Raised Value :=
  match state.metadata.toJson with
  | some metadata => .ok (.dict [("status", .str state.status.value),
      ("reason", optionalText state.reason), ("metadata", metadata)])
  | none => .error ⟨.pydanticSerializationError, "Unable to serialize unknown type"⟩

/-- `_failure_metadata`. -/
def failureMetadata (failure : Option WorkerExecutionFailure) : Value :=
  match failure with
  | none => .none
  | some failure => .dict [("category", .str failure.category.value),
      ("message", optionalText failure.message), ("metadata", .dict failure.metadata.entries)]

/-- What the runtime needs besides the local stores. -/
structure WorkerRuntime where
  executorRegistry : WorkerExecutorRegistry
  executionObserver : WorkerExecutionObserver
  maxTransientRetries : Int := 3

/-- `_unprocessed_result`. -/
def unprocessedResult (reason : Option String := none) : WorkerProcessingResult where
  action := none
  lifecycleState := none
  executionStatus := none
  executionReason := reason
  processed := false
  externalExecutionPerformed := false

/-- The result for an action that is taken up but not executed. -/
def notExecutedResult (action : Action) (lifecycleState : ActionLifecycleState) (reason : String) :
    WorkerProcessingResult where
  action := action
  lifecycleState := lifecycleState
  executionStatus := none
  executionReason := reason
  processed := false
  externalExecutionPerformed := false

/-- The invocation of a provider's executor that a resolution leads to. -/
def WorkerExecutorResolution.execution (resolution : WorkerExecutorResolution) (executor : ℕ)
    (action : Action) : Execution where
  executor
  action
  capability := if resolution.registered then resolution.requestedCapability else none
  accountContext := resolution.matchedAccountContext

/-- `WorkerExecutorResolution.execute`. -/
def WorkerExecutorResolution.execute (resolution : WorkerExecutorResolution) (action : Action) :
    Task WorkerExecutionResult :=
  match resolution.executor with
  | .provider identity => invokeExecutor (resolution.execution identity action)
  | .noOp => pure (noOpExecute action)

/-- What the observer is told about a resolution. -/
def WorkerExecutorResolution.executionStart (resolution : WorkerExecutorResolution)
    (action : Action) : ExecutionStart where
  action
  requestedRole := resolution.requestedRole
  executorRegistered := resolution.registered
  requestedCapability := resolution.requestedCapability
  requestedProvider := resolution.requestedProvider
  matchedProvider := resolution.matchedProvider
  requestedAccountContext := resolution.requestedAccountContext
  matchedAccountContext := resolution.matchedAccountContext
  accountContextUsed := resolution.matchedAccountContext
  routingReason := resolution.routingReason

/-- The result of an executor that raised. -/
def raisedResult (action : Action) (exc : Raised) : WorkerExecutionResult :=
  let details : List (String × Value) :=
    [("exception_type", .str exc.kind.name), ("exception_message", .str exc.message)]
  { action
    status := .failed
    reason := "executor raised exception: " ++ exc.message
    metadata := .ofList (("external_execution_performed", .bool false) :: details)
    failure := some {
      category := .internal
      message := "executor raised exception: " ++ exc.message
      metadata := .ofList details } }

/-- `_failure_for_result`. -/
def failureForResult (result : WorkerExecutionResult) : Option WorkerExecutionFailure :=
  if result.status ≠ .failed then none
  else some (result.failure.getD { category := .internal, message := result.reason })

namespace WorkerRuntime

/-- Invoke the resolved executor; an exception becomes a failed result. -/
def invoke (resolution : WorkerExecutorResolution) (action : Action) :
    Task WorkerExecutionResult :=
  tryCatch (resolution.execute action) fun exc =>
    if exc.isException then pure (raisedResult action exc) else throw exc

variable [PyStd]

/-- The terminal lifecycle state of an execution result. -/
def terminalState (executing : ActionLifecycleState) (result : WorkerExecutionResult) :
    Except Raised ActionLifecycleState :=
  match result.status with
  | .succeeded => ActionLifecycleManager.transition executing .completed
  | .skipped => ActionLifecycleManager.transition executing .skipped result.reason
  | .failed => ActionLifecycleManager.transition executing .failed result.reason

/-- `int(lifecycle_state.metadata.get("transient_retry_count", 0))`. -/
def transientRetryCount (state : ActionLifecycleState) : Except Raised Int :=
  match ((state.metadata.get "transient_retry_count").getD (.int 0)).toInt with
  | some count => .ok count
  | none => .error ⟨.typeError, "int() argument must be a string, a bytes-like object or a number"⟩

/-- The lifecycle state of a transiently failed action that is queued again. -/
def retryState (failed : ActionLifecycleState) (retryCount : Int) :
    Except Raised ActionLifecycleState := do
  let queued ← ActionLifecycleManager.transition failed .queued none
    [("transient_retry_count", .int (retryCount + 1))]
  -- the retry uses the approval the action already had
  ActionLifecycleManager.transition queued .approved

/-- Store the outcome of an execution, and queue the action again after a
transient failure while retries are left. -/
def settle (maxTransientRetries : Int) (action : Action) (executing : ActionLifecycleState)
    (result : WorkerExecutionResult) : Service ActionLifecycleState := do
  let lifecycleState ← Proc.ofExcept (terminalState executing result)
  modify fun s => s.setLifecycle action.id lifecycleState
  if (failureForResult result).any (·.category = .transient) then
    let retryCount ← Proc.ofExcept (transientRetryCount lifecycleState)
    if retryCount < maxTransientRetries then
      let retryState ← Proc.ofExcept (retryState lifecycleState retryCount)
      modify fun s => s.setLifecycle action.id retryState
      modify fun s => s.enqueue action
      return retryState
    else return lifecycleState
  else return lifecycleState

/-- The result of an executed action, with the execution in its metadata. -/
def executedResult (resolution : WorkerExecutorResolution) (result : WorkerExecutionResult)
    (observation : WorkerExecutionObservation) (lifecycleState : ActionLifecycleState) :
    Except Raised WorkerProcessingResult := do
  let lifecycleDump ← lifecycleState.modelDump
  let external := externalExecutionPerformed result.metadata
  let workerExecution : Value := .dict [
    ("status", .str result.status.value),
    ("reason", optionalText result.reason),
    ("failure", failureMetadata (failureForResult result)),
    ("requested_role", optionalText resolution.requestedRole),
    ("executor_registered", .bool resolution.registered),
    ("requested_capability", optionalText resolution.requestedCapability),
    ("requested_provider", optionalText resolution.requestedProvider),
    ("matched_provider", optionalText resolution.matchedProvider),
    ("requested_account_context", optionalAccountContext resolution.requestedAccountContext),
    ("matched_account_context", optionalAccountContext resolution.matchedAccountContext),
    ("account_context_used", optionalAccountContext resolution.matchedAccountContext),
    ("routing_reason", optionalText resolution.routingReason),
    ("started_at", .str observation.startedAt.isoformat),
    ("finished_at", optionalText (observation.finishedAt.map DateTime.isoformat)),
    ("metadata", .dict result.metadata.entries),
    ("observation", observation.asMetadata)]
  return {
    action := some { result.action with
      metadata := result.action.metadata.update [("action_lifecycle", lifecycleDump),
        ("worker_execution", workerExecution), ("external_execution_performed", .bool external)] }
    lifecycleState := lifecycleState
    executionStatus := result.status
    executionReason := result.reason
    processed := true
    externalExecutionPerformed := external }

/-- The path from the executing state to a stored outcome. -/
def executeAction (runtime : WorkerRuntime) (action : Action) (executing : ActionLifecycleState) :
    Service WorkerProcessingResult := do
  modify fun s => s.setLifecycle action.id executing
  let resolution := runtime.executorRegistry.resolveWithRegistration action
  let observation ←
    Proc.embed (runtime.executionObserver.start (resolution.executionStart action))
  let result ← Proc.embed (invoke resolution action)
  let observation ← Proc.embed (runtime.executionObserver.finish observation {
    status := result.status
    metadata := result.metadata
    reason := result.reason
    failure := failureForResult result })
  let lifecycleState ← settle runtime.maxTransientRetries action executing result
  Proc.ofExcept (executedResult resolution result observation lifecycleState)

/-- `_process_dequeued_action`. -/
def processDequeuedAction (runtime : WorkerRuntime) (action : Action) :
    Service WorkerProcessingResult := do
  let s ← get
  let lifecycleState := (s.lifecycle.get action.id).getD { status := .queued }
  if lifecycleState.AwaitsApproval then
    -- an unapproved action must never execute, even if it reached the queue
    modify fun s => s.enqueue action
    return notExecutedResult action lifecycleState "action awaits explicit approval"
  else
    let lifecycleState ← Proc.ofExcept
      (if lifecycleState.status = .queued then
        ActionLifecycleManager.transition lifecycleState .approved
      else .ok lifecycleState)
    if lifecycleState.status ≠ .approved then
      return notExecutedResult action lifecycleState
        ("action is not approved for execution (status: " ++ lifecycleState.status.value ++ ")")
    else
      let executing ← Proc.ofExcept (ActionLifecycleManager.transition lifecycleState .executing)
      executeAction runtime action executing

/-- Process the next FIFO action if available. -/
def processNext (runtime : WorkerRuntime) : Service WorkerProcessingResult := do
  let s ← get
  match s.actionQueue with
  | [] => return unprocessedResult
  | action :: rest =>
    modify fun s => s.setQueue rest
    processDequeuedAction runtime action

/-- Process exactly one queued action without consuming unrelated work. -/
def processAction (runtime : WorkerRuntime) (actionId : UUID) : Service WorkerProcessingResult := do
  let s ← get
  match s.actionQueue.get actionId with
  | none => return unprocessedResult "action is not queued"
  | some action =>
    match s.lifecycle.get action.id with
    | some lifecycleState =>
      if lifecycleState.AwaitsApproval then
        return notExecutedResult action lifecycleState "action awaits explicit approval"
      else
        modify fun s => s.setQueue (s.actionQueue.remove actionId).2
        processDequeuedAction runtime action
    | none =>
      modify fun s => s.setQueue (s.actionQueue.remove actionId).2
      processDequeuedAction runtime action

/-! ### What processing does to the stores -/

section Ensures

variable {W : Type} {h : Handler Outside W} {P : OutsideCall → W → Prop} {s : Stores} {w : W}
  {runtime : WorkerRuntime} {action : Action}

/-- The terminal status of a result. -/
def terminalStatus : WorkerExecutionStatus → ActionStatus
  | .succeeded => .completed
  | .skipped => .skipped
  | .failed => .failed

/-- The state an execution result leads to. -/
def terminalOf (executing : ActionLifecycleState) (result : WorkerExecutionResult) :
    ActionLifecycleState where
  status := terminalStatus result.status
  reason := if result.status = .succeeded then none else normalizeBlankReason result.reason
  metadata := executing.metadata

/-- The state of an action that is queued again. -/
def retriedOf (failed : ActionLifecycleState) (retryCount : Int) : ActionLifecycleState where
  status := .approved
  metadata := failed.metadata.set "transient_retry_count" (.int (retryCount + 1))

/-- The state of an action that is being executed. -/
def executingOf (state : ActionLifecycleState) : ActionLifecycleState where
  status := .executing
  metadata := state.metadata

omit [PyStd] in
theorem terminalState_eq {executing : ActionLifecycleState} {result : WorkerExecutionResult}
    (hstatus : executing.status = .executing) :
    terminalState executing result = .ok (terminalOf executing result) := by
  unfold terminalState
  cases hresult : result.status <;>
  · simp only
    rw [ActionLifecycleManager.transition_eq_ok (by rw [hstatus]; decide)
      (by simp [ActionLifecycleManager.reasonStatuses])]
    simp [terminalOf, terminalStatus, hresult, OrderedDict.update, normalizeBlankReason]

omit [PyStd] in
theorem retryState_eq {failed : ActionLifecycleState} {retryCount : Int}
    (hstatus : failed.status = .failed) :
    retryState failed retryCount = .ok (retriedOf failed retryCount) := by
  unfold retryState
  rw [ActionLifecycleManager.transition_eq_ok (by rw [hstatus]; decide) (by decide)]
  rfl

omit [PyStd] in
/-- A provider is invoked once, and an exception it raises becomes a failed result. -/
theorem ensures_invoke {resolution : WorkerExecutorResolution} {u : Unit}
    {Q : Except Raised WorkerExecutionResult → Unit → W → Prop} :
    (invoke resolution action).Ensures h P Q u w ↔
      match resolution.executor with
      | .noOp => Q (.ok (noOpExecute action)) u w
      | .provider executor =>
        let call := OutsideCall.execute (resolution.execution executor action)
        P call w ∧ (h call w).1.either (fun result => Q (.ok result) u (h call w).2) fun e =>
          if e.isException then Q (.ok (raisedResult action e)) u (h call w).2
          else Q (.error e) u (h call w).2 := by
  rw [invoke, Proc.ensures_tryCatch, WorkerExecutorResolution.execute]
  rcases resolution.executor with executor | _
  · simp only [ensures_invokeExecutor]
    refine and_congr_right fun _ => ?_
    rcases (h (OutsideCall.execute (resolution.execution executor action)) w).1 with e | result
    · by_cases he : e.isException = true <;> simp [he]
    · rfl
  · rfl

/-- An execution result is stored; a transient failure with retries left puts the
action back into the queue, still approved. -/
theorem ensures_settle {maxTransientRetries : Int} {executing : ActionLifecycleState}
    {result : WorkerExecutionResult} {Q : Except Raised ActionLifecycleState → Stores → W → Prop}
    (hstatus : executing.status = .executing) :
    (settle maxTransientRetries action executing result).Ensures h P Q s w ↔
      if (failureForResult result).any (·.category = .transient) then
        (transientRetryCount (terminalOf executing result)).either
          (fun retryCount =>
            if retryCount < maxTransientRetries then
              Q (.ok (retriedOf (terminalOf executing result) retryCount))
                (((s.setLifecycle action.id (terminalOf executing result)).setLifecycle action.id
                  (retriedOf (terminalOf executing result) retryCount)).enqueue action) w
            else
              Q (.ok (terminalOf executing result))
                (s.setLifecycle action.id (terminalOf executing result)) w)
          fun e => Q (.error e) (s.setLifecycle action.id (terminalOf executing result)) w
      else
        Q (.ok (terminalOf executing result))
          (s.setLifecycle action.id (terminalOf executing result)) w := by
  simp only [settle, terminalState_eq hstatus, Proc.ensures_bind, Proc.ensures_ofExcept,
    Proc.ensures_modify, Except.either_ok]
  split_ifs with htransient
  · have hfailed : (terminalOf executing result).status = .failed := by
      by_cases hresult : result.status = .failed
      · simp [terminalOf, terminalStatus, hresult]
      · simp [failureForResult, hresult] at htransient
    simp only [Proc.ensures_bind, Proc.ensures_ofExcept, retryState_eq hfailed]
    rcases transientRetryCount (terminalOf executing result) with e | retryCount
    · rfl
    · simp only [Except.either_ok]
      split_ifs <;> simp
  · rfl

/-- What storing an execution result does to the stores. -/
inductive Stored (maxTransientRetries : Int) (s : Stores) (action : Action)
    (executing : ActionLifecycleState) (result : WorkerExecutionResult) : Stores → Prop
  | terminal : Stored maxTransientRetries s action executing result
      (s.setLifecycle action.id (terminalOf executing result))
  /-- A transient failure with retries left goes back into the queue. -/
  | retried (retryCount : Int)
      (hcategory : (failureForResult result).any (·.category = .transient)) :
      Stored maxTransientRetries s action executing result
        (((s.setLifecycle action.id (terminalOf executing result)).setLifecycle action.id
          (retriedOf (terminalOf executing result) retryCount)).enqueue action)

theorem stored_settle {maxTransientRetries : Int} {executing : ActionLifecycleState}
    {result : WorkerExecutionResult} {Q : Except Raised ActionLifecycleState → Stores → W → Prop}
    (hstatus : executing.status = .executing)
    (hQ : ∀ r s', Stored maxTransientRetries s action executing result s' → Q r s' w) :
    (settle maxTransientRetries action executing result).Ensures h P Q s w := by
  rw [ensures_settle hstatus]
  split_ifs with htransient
  · rcases transientRetryCount (terminalOf executing result) with e | retryCount
    · exact hQ _ _ .terminal
    · simp only [Except.either_ok]
      split_ifs
      · exact hQ _ _ (.retried retryCount htransient)
      · exact hQ _ _ .terminal
  · exact hQ _ _ .terminal

/-- An execution in its stages: the start is observed, the executor invoked, the
finish observed, and the result stored. -/
theorem ensures_executeAction {executing : ActionLifecycleState}
    {S : Except Raised WorkerExecutionObservation → W → Prop}
    {I : WorkerExecutionObservation → Except Raised WorkerExecutionResult → W → Prop}
    {F : WorkerExecutionResult → Except Raised WorkerExecutionObservation → W → Prop}
    {Q : Except Raised WorkerProcessingResult → Stores → W → Prop}
    (hstatus : executing.status = .executing)
    (hstart : (runtime.executionObserver.start
      ((runtime.executorRegistry.resolveWithRegistration action).executionStart action)).Ensures h P
        (fun r _ w' => S r w') () w)
    (hinvoke : ∀ observation w', S (.ok observation) w' →
      (invoke (runtime.executorRegistry.resolveWithRegistration action) action).Ensures h P
        (fun r _ w' => I observation r w') () w')
    (hfinish : ∀ observation result w', I observation (.ok result) w' →
      (runtime.executionObserver.finish observation {
        status := result.status
        metadata := result.metadata
        reason := result.reason
        failure := failureForResult result }).Ensures h P (fun r _ w' => F result r w') () w')
    (herror : ∀ e w', S (.error e) w' ∨ (∃ observation, I observation (.error e) w') ∨
      (∃ result, F result (.error e) w') → Q (.error e) (s.setLifecycle action.id executing) w')
    (hok : ∀ observation result r s' w', F result (.ok observation) w' →
      Stored runtime.maxTransientRetries (s.setLifecycle action.id executing) action executing result
        s' → Q r s' w') :
    (executeAction runtime action executing).Ensures h P Q s w := by
  simp only [executeAction, Proc.ensures_bind, Proc.ensures_modify, Proc.ensures_embed,
    Proc.ensures_ofExcept, Except.either_ok]
  refine hstart.mono fun started _ w₁ hstarted => ?_
  rcases started with e | observation
  · exact herror e w₁ (Or.inl hstarted)
  simp only [Except.either_ok]
  refine (hinvoke observation w₁ hstarted).mono fun invoked _ w₂ hinvoked => ?_
  rcases invoked with e | result
  · exact herror e w₂ (Or.inr (Or.inl ⟨observation, hinvoked⟩))
  simp only [Except.either_ok]
  refine (hfinish observation result w₂ hinvoked).mono fun finished _ w₃ hfinished => ?_
  rcases finished with e | observation'
  · exact herror e w₃ (Or.inr (Or.inr ⟨result, hfinished⟩))
  simp only [Except.either_ok]
  refine stored_settle hstatus fun r s' hstored => ?_
  rcases r with e | lifecycleState
  · exact hok observation' result _ s' w₃ hfinished hstored
  · exact hok observation' result _ s' w₃ hfinished hstored

/-- The governed execution path: an action awaiting approval goes back to the
queue, an approved one is executed, any other is dropped. -/
theorem ensures_processDequeuedAction
    {Q : Except Raised WorkerProcessingResult → Stores → W → Prop} {state : ActionLifecycleState}
    (hstate : state = (s.lifecycle.get action.id).getD { status := .queued }) :
    (processDequeuedAction runtime action).Ensures h P Q s w ↔
      if state.AwaitsApproval then
        Q (.ok (notExecutedResult action state "action awaits explicit approval"))
          (s.enqueue action) w
      else if state.status = .queued ∨ state.status = .approved then
        (executeAction runtime action (executingOf state)).Ensures h P Q s w
      else
        Q (.ok (notExecutedResult action state
          ("action is not approved for execution (status: " ++ state.status.value ++ ")"))) s w := by
  simp only [processDequeuedAction, Proc.ensures_bind, Proc.ensures_get, Except.either_ok, ← hstate]
  by_cases hawaits : state.AwaitsApproval
  · simp [hawaits]
  · simp only [hawaits, if_false]
    rcases state with ⟨status, reason, metadata⟩
    cases status <;> simp [ActionLifecycleManager.transition, ActionLifecycleManager.validTransitions,
      executingOf, normalizeBlankReason, OrderedDict.update]

theorem ensures_processNext {Q : Except Raised WorkerProcessingResult → Stores → W → Prop} :
    (processNext runtime).Ensures h P Q s w ↔
      match s.actionQueue with
      | [] => Q (.ok unprocessedResult) s w
      | action :: rest => (processDequeuedAction runtime action).Ensures h P Q (s.setQueue rest) w := by
  simp only [processNext, Proc.ensures_bind, Proc.ensures_get, Except.either_ok]
  rcases s.actionQueue with _ | ⟨action, rest⟩ <;> simp

/-- Processing one action takes it out of the queue, unless it still awaits
approval. -/
theorem ensures_processAction {actionId : UUID}
    {Q : Except Raised WorkerProcessingResult → Stores → W → Prop} :
    (processAction runtime actionId).Ensures h P Q s w ↔
      match s.actionQueue.get actionId with
      | none => Q (.ok (unprocessedResult "action is not queued")) s w
      | some action =>
        if ∃ state ∈ s.lifecycle.get action.id, state.AwaitsApproval then
          ∃ state ∈ s.lifecycle.get action.id,
            Q (.ok (notExecutedResult action state "action awaits explicit approval")) s w
        else
          (processDequeuedAction runtime action).Ensures h P Q
            (s.setQueue (s.actionQueue.remove actionId).2) w := by
  simp only [processAction, Proc.ensures_bind, Proc.ensures_get, Except.either_ok]
  rcases s.actionQueue.get actionId with _ | action
  · simp
  · rcases hstate : s.lifecycle.get action.id with _ | state
    · simp [hstate]
    · by_cases hawaits : state.AwaitsApproval <;>
        simp [hstate, hawaits]

end Ensures

end WorkerRuntime

end Velox
