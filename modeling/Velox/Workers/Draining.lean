import Velox.Lib.RetryQueue
import Velox.Workers.Runtime

/-!
# Draining the queue

Processing takes the head of the queue through one execution; a transient failure
puts the action back while it has retries left. The retries are counted in the
stored lifecycle metadata, which every transition of a round carries along, so the
queue is a retry queue over the action ids and is drained after boundedly many
executions.

## Main definitions

* `WorkerRuntimeInvocationService.invoke` — processing in batches
* `WorkerRuntime.executed`, `WorkerRuntime.drain` — the execution that processing
  makes, and repeated processing with the executions it makes
* `Draining` — the stores are what the executions so far made of them
* `Drained` — nothing is queued, and every action was executed to its end

## Main results

* `Draining.next` — processing the head is one service of the retry queue
* `invokeUntilEmpty_eq_drain` — invoking in batches is repeated processing
* `drained_of_drain` — approved actions are drained
-/

set_option autoImplicit false

namespace Velox

/-! ### Invoking in batches -/

/-- Explicit result returned by the public worker invocation entrypoint. -/
structure WorkerInvocationResult where
  requestedCount : Int
  processedCount : ℕ
  queueEmpty : Bool
  results : List WorkerProcessingResult

namespace WorkerRuntimeInvocationService

variable [PyStd] (runtime : WorkerRuntime)

/-- Process at most the given number of actions, until one is not processed. -/
def processBatch : ℕ → Service (List WorkerProcessingResult)
  | 0 => return []
  | remaining + 1 => do
    let result ← runtime.processNext
    if result.processed then
      let results ← processBatch remaining
      return result :: results
    else return [result]

/-- Process one queued action or an explicit small batch. -/
def invoke (maxActions : Int := 1) : Service WorkerInvocationResult := do
  if maxActions < 1 then
    throw ⟨.valueError, "max_actions must be at least 1"⟩
  else
    let results ← processBatch runtime maxActions.toNat
    let s ← get
    return {
      requestedCount := maxActions
      processedCount := results.countP (·.processed)
      queueEmpty := s.actionQueue.length = 0
      results }

end WorkerRuntimeInvocationService

/-! ### What draining relies on -/

/-- Actions that are approved and have no retry history. -/
def Approved (s : Stores) (actions : List Action) : Prop :=
  ∀ action ∈ actions, ∃ state, s.lifecycle.get action.id = some state ∧
    state.status = .approved ∧ state.metadata.get "transient_retry_count" = none

/-- An observer that returns, and invokes no executor of its own. -/
structure WorkerExecutionObserver.Passive (env : Environment) (R : RunRepository)
    (observer : WorkerExecutionObserver) : Prop where
  start : ∀ e (w : World R), ∃ observation w',
    (observer.start e).run (outside env R) () w = ((.ok observation, ()), w') ∧
      w'.executions = w.executions
  finish : ∀ observation e (w : World R), ∃ observation' w',
    (observer.finish observation e).run (outside env R) () w = ((.ok observation', ()), w') ∧
      w'.executions = w.executions

theorem passive_inMemory (env : Environment) (R : RunRepository) :
    InMemoryWorkerExecutionObserver.observer.Passive env R where
  start _ w := ⟨_, w.tick, rfl, rfl⟩
  finish _ _ w := ⟨_, w.tick, rfl, rfl⟩

/-- Executors that raise nothing but ordinary exceptions. -/
def Environment.RaisesExceptions (env : Environment) : Prop :=
  ∀ history execution e, env.execute history execution = .error e → e.isException = true

/-! ### Repeated processing -/

/-- One execution: the action, and what its executor came to. -/
structure Attempt where
  action : Action
  outcome : Except Raised WorkerExecutionResult

/-- Whether the execution ended in a transient failure. -/
def Attempt.transient (attempt : Attempt) : Bool :=
  attempt.outcome.either
    (fun result => (failureForResult result).any (·.category = .transient)) fun _ => false

/-- The key of an attempt in the retry queue, and whether it asks for another one. -/
def Attempt.served (attempt : Attempt) : UUID × Bool := (attempt.action.id, attempt.transient)

/-- The provider invocation an execution of the action makes; the safe default makes none. -/
def WorkerRuntime.invocation [PyStd] (runtime : WorkerRuntime) (action : Action) :
    Option Execution :=
  let resolution := runtime.executorRegistry.resolveWithRegistration action
  match resolution.executor with
  | .provider executor => some (resolution.execution executor action)
  | .noOp => none

section Drain

variable [PyStd] {R : RunRepository} (runtime : WorkerRuntime) (env : Environment)

namespace WorkerRuntime

/-- The execution that processing the next action makes, if it makes one. -/
def executed (x : Site R) : Option Attempt :=
  match x.stores.actionQueue with
  | [] => none
  | action :: _ =>
    let state := (x.stores.lifecycle.get action.id).getD { status := .queued }
    if state.AwaitsApproval ∨ state.status ∉ [.queued, .approved] then none
    else
      let resolution := runtime.executorRegistry.resolveWithRegistration action
      let started := (runtime.executionObserver.start (resolution.executionStart action)).run
        (outside env R) () x.world
      started.1.1.either
        (fun _ => some ⟨action, ((invoke resolution action).run (outside env R) () started.2).1.1⟩)
        fun _ => none

/-- The process after the next action was processed, whether or not that raised. -/
def afterNext (x : Site R) : Site R := (x.perform env runtime.processNext).2

/-- Process the next action again and again: the executions made, and what is left. -/
def drain (x : Site R) : ℕ → List Attempt × Site R
  | 0 => ([], x)
  | k + 1 =>
    let run := drain x k
    (run.1 ++ (executed runtime env run.2).toList, afterNext runtime env run.2)

/-- Invoke with one batch size after the other, until the queue is reported empty. -/
def invokeUntilEmpty (x : Site R) : List Int → Site R
  | [] => x
  | size :: sizes =>
    let y := x.perform env (WorkerRuntimeInvocationService.invoke runtime size)
    if y.1.either (·.queueEmpty) fun _ => false then y.2 else invokeUntilEmpty y.2 sizes

end WorkerRuntime

end Drain

/-! ### One execution -/

section Step

variable [PyStd] {R : RunRepository} {runtime : WorkerRuntime} {env : Environment}
  {action : Action} {w w₁ w₂ w₃ : World R} {s : Stores}

/-- An invocation of the resolved executor returns a result, and is the only one. -/
theorem run_invoke (hexecutors : env.RaisesExceptions) (action : Action) (w : World R) :
    ∃ result w', (WorkerRuntime.invoke (runtime.executorRegistry.resolveWithRegistration action)
        action).run (outside env R) () w = ((.ok result, ()), w') ∧
      w'.executions = w.executions ++ (runtime.invocation action).toList := by
  have hensures : (WorkerRuntime.invoke (runtime.executorRegistry.resolveWithRegistration action)
      action).Ensures (outside env R) (fun _ _ => True)
      (fun r _ w' => (∃ result, r = .ok result) ∧
        w'.executions = w.executions ++ (runtime.invocation action).toList) () w := by
    rw [WorkerRuntime.ensures_invoke, WorkerRuntime.invocation]
    rcases (runtime.executorRegistry.resolveWithRegistration action).executor with executor | _
    · refine ⟨trivial, ?_⟩
      simp only [outside]
      rcases hreply : env.execute w.history
          ((runtime.executorRegistry.resolveWithRegistration action).execution executor action)
        with e | result
      · have he : e.isException = true := hexecutors _ _ e hreply
        simp [he]
      · simp
    · simp
  obtain ⟨⟨result, hresult⟩, hlog⟩ := hensures.run
  exact ⟨result, _, Prod.ext (Prod.ext hresult rfl) rfl, hlog⟩

/-- Where the collaborators return, an execution is what storing its result does. -/
theorem ensures_executeAction_of_returns {executing : ActionLifecycleState}
    {observation observation' : WorkerExecutionObservation} {result : WorkerExecutionResult}
    {Q : Stores → World R → Prop}
    (hstart : (runtime.executionObserver.start
      ((runtime.executorRegistry.resolveWithRegistration action).executionStart action)).run
        (outside env R) () w = ((.ok observation, ()), w₁))
    (hinvoke : (WorkerRuntime.invoke (runtime.executorRegistry.resolveWithRegistration action)
      action).run (outside env R) () w₁ = ((.ok result, ()), w₂))
    (hfinish : (runtime.executionObserver.finish observation {
        status := result.status
        metadata := result.metadata
        reason := result.reason
        failure := failureForResult result }).run (outside env R) () w₂ =
      ((.ok observation', ()), w₃)) :
    (runtime.executeAction action executing).Ensures (outside env R) (fun _ _ => True)
        (fun _ s w => Q s w) s w ↔
      (WorkerRuntime.settle runtime.maxTransientRetries action executing result).Ensures
        (outside env R) (fun _ _ => True) (fun _ s w => Q s w)
        (s.setLifecycle action.id executing) w₃ := by
  simp only [WorkerRuntime.executeAction, Proc.ensures_bind, Proc.ensures_modify,
    Proc.ensures_embed, Proc.ensures_ofExcept, Except.either_ok]
  rw [Proc.ensures_true_iff, hstart, Except.either_ok, Proc.ensures_true_iff, hinvoke,
    Except.either_ok, Proc.ensures_true_iff, hfinish, Except.either_ok]
  refine Proc.ensures_congr fun r _ _ => ?_
  cases r <;> rfl

end Step

/-! ### The stores as a retry queue -/

/-- The statuses an executed action ends in. -/
def endStatuses : List ActionStatus := [.completed, .skipped, .failed]

/-- The executions so far led to the retry queue, and the stores are that queue: what
waits is queued and approved, what does not is done with, and the stored metadata
counts the retries. -/
structure Draining [PyStd] {R : RunRepository} (runtime : WorkerRuntime) (limit : ℕ)
    (actions : List Action) (x₀ : Site R) (attempts : List Attempt) (q : RetryQueue UUID)
    (x : Site R) : Prop where
  served : q.Served limit (actions.map (·.id)) (attempts.map Attempt.served)
  queue : x.stores.actionQueue.map (·.id) = q.queue
  known : ∀ action ∈ x.stores.actionQueue, action ∈ actions
  attempted : ∀ attempt ∈ attempts, attempt.action ∈ actions
  stored : ∀ action ∈ actions, ∃ state, x.stores.lifecycle.get action.id = some state ∧
    WorkerRuntime.transientRetryCount state = .ok (q.retries action.id) ∧
    (action.id ∈ q.queue → state.status = .approved) ∧
    (action.id ∉ q.queue → state.status ∈ endStatuses)
  invocations : x.world.executions = x₀.world.executions ++
    attempts.filterMap fun attempt => runtime.invocation attempt.action

section Draining

variable [PyStd] {R : RunRepository} {runtime : WorkerRuntime} {env : Environment} {limit : ℕ}
  {actions : List Action} {x₀ x y : Site R} {attempts : List Attempt} {q : RetryQueue UUID}
  {action : Action} {rest : List Action}

/-- Stores that differ from the ones before in the served action alone. -/
theorem Draining.of_serve (h : Draining runtime limit actions x₀ attempts q x)
    (hqueue : x.stores.actionQueue = action :: rest) {attempt : Attempt}
    (hattempt : attempt.action = action)
    (hserved : y.stores.actionQueue.map (·.id) = (q.serve limit attempt.transient).queue)
    (hknown : ∀ a ∈ y.stores.actionQueue, a ∈ x.stores.actionQueue)
    (hothers : ∀ id, id ≠ action.id → y.stores.lifecycle.get id = x.stores.lifecycle.get id)
    (hstored : ∃ state, y.stores.lifecycle.get action.id = some state ∧
      WorkerRuntime.transientRetryCount state =
        .ok ((q.serve limit attempt.transient).retries action.id) ∧
      (action.id ∈ (q.serve limit attempt.transient).queue → state.status = .approved) ∧
      (action.id ∉ (q.serve limit attempt.transient).queue → state.status ∈ endStatuses))
    (hlog : y.world.executions = x.world.executions ++ (runtime.invocation action).toList) :
    Draining runtime limit actions x₀ (attempts ++ [attempt]) (q.serve limit attempt.transient) y := by
  have hhead : q.queue = action.id :: rest.map (·.id) := by rw [← h.queue, hqueue, List.map_cons]
  have haction : action ∈ actions := h.known action (hqueue ▸ List.mem_cons_self)
  refine ⟨?_, hserved, fun a ha => h.known a (hknown a ha), ?_, ?_, ?_⟩
  · have hnext := h.served.serve hhead attempt.transient
    simpa [Attempt.served, hattempt] using hnext
  · intro attempt' hattempt'
    rcases List.mem_append.mp hattempt' with hold | hnew
    · exact h.attempted attempt' hold
    · rw [List.mem_singleton.mp hnew, hattempt]
      exact haction
  · intro a ha
    by_cases hsame : a.id = action.id
    · rw [hsame]
      exact hstored
    · obtain ⟨state, hstate, hcount, hwaits, hdone⟩ := h.stored a ha
      have hmem := RetryQueue.mem_serve_iff_of_ne hhead limit attempt.transient hsame
      have hretries := RetryQueue.retries_serve_of_ne hhead limit attempt.transient hsame
      refine ⟨state, (hothers _ hsame).trans hstate, hretries ▸ hcount, ?_, ?_⟩
      · exact fun hin => hwaits (hmem.mp hin)
      · exact fun hout => hdone fun hin => hout (hmem.mpr hin)
  · rw [hlog, h.invocations, List.filterMap_append, List.append_assoc]
    rcases hinvocation : runtime.invocation action with _ | execution <;> simp [hattempt, hinvocation]

theorem transientRetryCount_congr {state state' : ActionLifecycleState}
    (h : state.metadata = state'.metadata) :
    WorkerRuntime.transientRetryCount state = WorkerRuntime.transientRetryCount state' := by
  rw [WorkerRuntime.transientRetryCount, WorkerRuntime.transientRetryCount, h]

/-- A retry is counted in the metadata. -/
theorem transientRetryCount_retriedOf {failed : ActionLifecycleState} (retryCount : Int) :
    WorkerRuntime.transientRetryCount (WorkerRuntime.retriedOf failed retryCount) =
      .ok (retryCount + 1) := by
  simp [WorkerRuntime.transientRetryCount, WorkerRuntime.retriedOf, Value.toInt]

/-- Storing the result of an execution is one service of the retry queue. -/
theorem Draining.of_settle (h : Draining runtime limit actions x₀ attempts q x)
    (hlimit : runtime.maxTransientRetries = limit) (hqueue : x.stores.actionQueue = action :: rest)
    {state : ActionLifecycleState} {result : WorkerExecutionResult} {w : World R}
    (hcount : WorkerRuntime.transientRetryCount state = .ok (q.retries action.id : Int))
    (hlog : w.executions = x.world.executions ++ (runtime.invocation action).toList) :
    (WorkerRuntime.settle runtime.maxTransientRetries action (WorkerRuntime.executingOf state)
      result).Ensures (outside env R) (fun _ _ => True)
      (fun _ s w => Draining runtime limit actions x₀ (attempts ++ [⟨action, .ok result⟩])
        (q.serve limit (Attempt.transient ⟨action, .ok result⟩)) ⟨s, w⟩)
      ((x.stores.setQueue rest).setLifecycle action.id (WorkerRuntime.executingOf state)) w := by
  have hhead : q.queue = action.id :: rest.map (·.id) := by rw [← h.queue, hqueue, List.map_cons]
  have hrest : action.id ∉ rest.map (·.id) :=
    (List.nodup_cons.mp (hhead ▸ h.served.nodup)).1
  have hterminal : WorkerRuntime.transientRetryCount
      (WorkerRuntime.terminalOf (WorkerRuntime.executingOf state) result) =
        .ok (q.retries action.id : Int) := hcount
  have hserve := RetryQueue.serve_of_cons hhead limit (Attempt.transient ⟨action, .ok result⟩)
  have hothers : ∀ id, id ≠ action.id → ∀ a b : ActionLifecycleState,
      ((x.stores.lifecycle.set action.id a).set action.id b).get id =
        x.stores.lifecycle.get id := by
    intro id hid a b
    rw [OrderedDict.get_set_of_ne hid, OrderedDict.get_set_of_ne hid]
  -- without a retry the action is done with
  have hdone : q.serve limit (Attempt.transient ⟨action, .ok result⟩) =
      q.drop (rest.map (·.id)) → Draining runtime limit actions x₀
        (attempts ++ [⟨action, .ok result⟩])
        (q.serve limit (Attempt.transient ⟨action, .ok result⟩))
        ⟨((x.stores.setQueue rest).setLifecycle action.id
          (WorkerRuntime.executingOf state)).setLifecycle action.id
            (WorkerRuntime.terminalOf (WorkerRuntime.executingOf state) result), w⟩ := by
    intro hleaves
    refine h.of_serve hqueue rfl ?_ ?_ ?_ ?_ hlog
    · rw [hleaves]
      rfl
    · intro a ha
      rw [hqueue]
      exact List.mem_cons_of_mem action ha
    · intro id hid
      exact hothers id hid _ _
    · rw [hleaves]
      refine ⟨_, OrderedDict.get_set_self, hterminal, fun hin => absurd hin hrest, fun _ => ?_⟩
      cases hresult : result.status <;>
        simp [WorkerRuntime.terminalOf, WorkerRuntime.terminalStatus, hresult, endStatuses]
  rw [WorkerRuntime.ensures_settle rfl, hterminal, Except.either_ok, hlimit]
  split_ifs with htransient hretry
  · -- a transient failure with retries left: back into the queue
    have hlt : q.retries action.id < limit := by exact_mod_cast hretry
    have hback : q.serve limit (Attempt.transient ⟨action, .ok result⟩) =
        q.putBack action.id (rest.map (·.id)) := hserve.trans (if_pos ⟨htransient, hlt⟩)
    refine h.of_serve hqueue rfl ?_ ?_ ?_ ?_ hlog
    · rw [hback]
      simp [ActionQueue.enqueue]
    · intro a ha
      rw [hqueue]
      simpa [ActionQueue.enqueue, or_comm] using ha
    · intro id hid
      exact (OrderedDict.get_set_of_ne hid).trans (hothers id hid _ _)
    · rw [hback]
      refine ⟨_, OrderedDict.get_set_self, ?_, ?_, ?_⟩
      · rw [transientRetryCount_retriedOf, RetryQueue.retries_putBack_self]
        rfl
      · exact fun _ => rfl
      · intro hout
        exact absurd (List.mem_append.mpr (Or.inr (List.mem_singleton_self _))) hout
  · have hge : ¬q.retries action.id < limit := fun hlt => hretry (by exact_mod_cast hlt)
    exact hdone (hserve.trans (if_neg fun hagain => hge hagain.2))
  · exact hdone (hserve.trans (if_neg fun hagain => htransient hagain.1))

/-- Processing the head of the queue is one service of the retry queue. -/
theorem Draining.next (hobserver : runtime.executionObserver.Passive env R)
    (hexecutors : env.RaisesExceptions) (hlimit : runtime.maxTransientRetries = limit)
    (h : Draining runtime limit actions x₀ attempts q x)
    (hqueue : x.stores.actionQueue = action :: rest) :
    ∃ attempt, runtime.executed env x = some attempt ∧
      Draining runtime limit actions x₀ (attempts ++ [attempt]) (q.serve limit attempt.transient)
        (runtime.afterNext env x) := by
  have hmem : action.id ∈ q.queue := by simp [← h.queue, hqueue]
  obtain ⟨state, hstate, hcount, hwaits, -⟩ := h.stored action (h.known action (by simp [hqueue]))
  have happroved : state.status = .approved := hwaits hmem
  have hready : ¬state.AwaitsApproval := fun hawaits => by simp [hawaits.1] at happroved
  -- the collaborators, each where the one before left off
  obtain ⟨observation, w₁, hstart, hlog₁⟩ := hobserver.start
    ((runtime.executorRegistry.resolveWithRegistration action).executionStart action) x.world
  obtain ⟨result, w₂, hinvoke, hlog₂⟩ := @run_invoke _ R runtime env hexecutors action w₁
  obtain ⟨observation', w₃, hfinish, hlog₃⟩ := hobserver.finish observation {
    status := result.status
    metadata := result.metadata
    reason := result.reason
    failure := failureForResult result } w₂
  have hlog : w₃.executions = x.world.executions ++ (runtime.invocation action).toList := by
    rw [hlog₃, hlog₂, hlog₁]
  have hcurrent : state =
      ((x.stores.setQueue rest).lifecycle.get action.id).getD { status := .queued } := by
    simp [hstate]
  refine ⟨⟨action, .ok result⟩, ?_, ?_⟩
  · simp [WorkerRuntime.executed, hqueue, hstate, hready, happroved, hstart, hinvoke]
  · refine Site.perform_of_ensures env (fun _ y => Draining runtime limit actions x₀
      (attempts ++ [⟨action, .ok result⟩])
      (q.serve limit (Attempt.transient ⟨action, .ok result⟩)) y) ?_
    rw [WorkerRuntime.ensures_processNext]
    simp only [hqueue]
    rw [WorkerRuntime.ensures_processDequeuedAction hcurrent, if_neg hready,
      if_pos (Or.inr happroved), ensures_executeAction_of_returns hstart hinvoke hfinish]
    exact h.of_settle hlimit hqueue hcount hlog

theorem executed_of_empty (hempty : x.stores.actionQueue = []) :
    runtime.executed env x = none := by
  simp [WorkerRuntime.executed, hempty]

/-- Processing with nothing queued changes nothing. -/
theorem afterNext_of_empty (hempty : x.stores.actionQueue = []) :
    runtime.afterNext env x = x := by
  refine Site.perform_of_ensures env (fun _ y => y = x) ?_
  rw [WorkerRuntime.ensures_processNext]
  simp only [hempty]

/-- A queue of distinct approved actions is a retry queue nothing was served from. -/
theorem draining_fresh (hdistinct : (x.stores.actionQueue.map (·.id)).Nodup)
    (happroved : Approved x.stores x.stores.actionQueue) :
    Draining runtime limit x.stores.actionQueue x []
      (.fresh (x.stores.actionQueue.map (·.id))) x where
  served := RetryQueue.served_fresh hdistinct
  queue := rfl
  known _ haction := haction
  attempted _ hattempt := nomatch hattempt
  stored action haction := by
    obtain ⟨state, hstate, hstatus, hnone⟩ := happroved action haction
    have hcount : WorkerRuntime.transientRetryCount state = .ok 0 := by
      simp [WorkerRuntime.transientRetryCount, hnone, Value.toInt]
    have hmem : action.id ∈ x.stores.actionQueue.map (·.id) := List.mem_map_of_mem haction
    exact ⟨state, hstate, hcount, fun _ => hstatus, fun hout => absurd hmem hout⟩
  invocations := by simp

/-! ### Repeated processing drains the queue -/

/-- Nothing is queued, and every action was executed to its end. -/
structure Drained (runtime : WorkerRuntime) (limit : ℕ) (actions : List Action) (x₀ : Site R)
    (attempts : List Attempt) (x : Site R) : Prop where
  empty : x.stores.actionQueue = []
  attempted : ∀ attempt ∈ attempts, attempt.action ∈ actions
  executed : ∀ action ∈ actions, 1 ≤ (attempts.map (·.action.id)).count action.id ∧
    (attempts.map (·.action.id)).count action.id ≤ limit + 1
  /-- An action was executed again only after a transient failure. -/
  again : attempts.Pairwise fun earlier later =>
    earlier.action.id = later.action.id → earlier.transient = true
  /-- Every action ended, and its stored count is one less than its executions. -/
  ended : ∀ action ∈ actions, ∃ state, x.stores.lifecycle.get action.id = some state ∧
    state.status ∈ endStatuses ∧ WorkerRuntime.transientRetryCount state =
      .ok ((attempts.map (·.action.id)).count action.id - 1 : Int)
  /-- The first attempts are those of the actions, in the order they were queued. -/
  fifo : actions.map (·.id) <+: attempts.map (·.action.id)
  /-- These executions are the provider invocations that were made. -/
  invocations : x.world.executions = x₀.world.executions ++
    attempts.filterMap fun attempt => runtime.invocation attempt.action

omit [PyStd] in
theorem map_served (attempts : List Attempt) :
    (attempts.map Attempt.served).map Prod.fst = attempts.map (·.action.id) := by
  rw [List.map_map]
  rfl

/-- When nothing waits any more, the actions are drained. -/
theorem Draining.drained (h : Draining runtime limit actions x₀ attempts q x)
    (hempty : x.stores.actionQueue = []) : Drained runtime limit actions x₀ attempts x := by
  have hqueue : q.queue = [] := by rw [← h.queue, hempty, List.map_nil]
  have hcount : ∀ action ∈ actions,
      (attempts.map (·.action.id)).count action.id = q.retries action.id + 1 ∧
        1 ≤ (attempts.map (·.action.id)).count action.id ∧
        (attempts.map (·.action.id)).count action.id ≤ limit + 1 := by
    intro action haction
    have hserved := h.served.count_of_empty hqueue (List.mem_map_of_mem haction)
    rwa [map_served] at hserved
  refine ⟨hempty, h.attempted, fun action haction => (hcount action haction).2, ?_, ?_, ?_,
    h.invocations⟩
  · exact List.pairwise_map.mp h.served.again
  · intro action haction
    obtain ⟨state, hstate, hretries, -, hdone⟩ := h.stored action haction
    refine ⟨state, hstate, hdone (by simp [hqueue]), ?_⟩
    rw [hretries, (hcount action haction).1]
    simp
  · have hfifo := h.served.fifo_of_empty hqueue
    rwa [map_served] at hfifo

/-- After any number of calls the stores are what the executions made of them; while
something is queued, every call made one. -/
theorem draining_drain (hobserver : runtime.executionObserver.Passive env R)
    (hexecutors : env.RaisesExceptions) (hlimit : runtime.maxTransientRetries = limit)
    (hdistinct : (x.stores.actionQueue.map (·.id)).Nodup)
    (happroved : Approved x.stores x.stores.actionQueue) (k : ℕ) :
    ∃ q, Draining runtime limit x.stores.actionQueue x (runtime.drain env x k).1 q
        (runtime.drain env x k).2 ∧
      ((runtime.drain env x k).2.stores.actionQueue ≠ [] → (runtime.drain env x k).1.length = k) := by
  induction k with
  | zero => exact ⟨_, draining_fresh hdistinct happroved, fun _ => rfl⟩
  | succ k ih =>
    obtain ⟨q, hdraining, hlength⟩ := ih
    rw [WorkerRuntime.drain]
    rcases hqueue : (runtime.drain env x k).2.stores.actionQueue with _ | ⟨action, rest⟩
    · refine ⟨q, ?_, fun hne => ?_⟩
      · simpa [executed_of_empty hqueue, afterNext_of_empty hqueue] using hdraining
      · simp [afterNext_of_empty hqueue, hqueue] at hne
    · obtain ⟨attempt, hexecuted, hnext⟩ := hdraining.next hobserver hexecutors hlimit hqueue
      refine ⟨_, by simpa [hexecuted] using hnext, fun _ => ?_⟩
      have hk : (runtime.drain env x k).1.length = k := hlength (by simp [hqueue])
      simp [hexecuted, hk]

theorem drain_succ (x : Site R) (k : ℕ) :
    (runtime.drain env x (k + 1)).2 = (runtime.drain env (runtime.afterNext env x) k).2 := by
  induction k with
  | zero => rfl
  | succ k ih => exact congrArg (runtime.afterNext env) ih

theorem drain_add (x : Site R) (j k : ℕ) :
    (runtime.drain env x (j + k)).2 = (runtime.drain env (runtime.drain env x j).2 k).2 := by
  induction k with
  | zero => rfl
  | succ k ih => exact congrArg (runtime.afterNext env) ih

/-- A batch is repeated processing, whether or not it raises. -/
theorem ensures_processBatch (x : Site R) (remaining : ℕ) :
    (WorkerRuntimeInvocationService.processBatch runtime remaining).Ensures (outside env R)
      (fun _ _ => True) (fun _ s w => ∃ k, (0 < remaining → 0 < k) ∧
        (⟨s, w⟩ : Site R) = (runtime.drain env x k).2) x.stores x.world := by
  induction remaining generalizing x with
  | zero => exact ⟨0, id, rfl⟩
  | succ remaining ih =>
    have hone : ∃ k, (0 < remaining + 1 → 0 < k) ∧
        runtime.afterNext env x = (runtime.drain env x k).2 :=
      ⟨1, fun _ => Nat.one_pos, (drain_succ x 0).symm⟩
    simp only [WorkerRuntimeInvocationService.processBatch, Proc.ensures_bind]
    rw [Proc.ensures_true_iff]
    rcases hresult : (runtime.processNext.run (outside env R) x.stores x.world).1.1 with e | result
    · rw [hresult]
      exact hone
    · rw [hresult, Except.either_ok]
      split_ifs with hprocessed
      · rw [Proc.ensures_bind]
        refine (ih (runtime.afterNext env x)).mono fun r s w hrest => ?_
        obtain ⟨k, -, hk⟩ := hrest
        have hmore : ∃ k, (0 < remaining + 1 → 0 < k) ∧
            (⟨s, w⟩ : Site R) = (runtime.drain env x k).2 :=
          ⟨k + 1, fun _ => Nat.succ_pos k, hk.trans (drain_succ x k).symm⟩
        cases r <;> exact hmore
      · exact hone

/-- Invoking with a positive batch size is repeated processing, at least once, and it
reports truly whether the queue is empty. -/
theorem invoke_eq_drain (x : Site R) {size : Int} (hsize : 1 ≤ size) :
    ∃ k, 0 < k ∧ (x.perform env (WorkerRuntimeInvocationService.invoke runtime size)).2 =
        (runtime.drain env x k).2 ∧
      ∀ result, (x.perform env (WorkerRuntimeInvocationService.invoke runtime size)).1 = .ok result →
        result.queueEmpty = true → (runtime.drain env x k).2.stores.actionQueue = [] := by
  have hpos : 0 < size.toNat := by omega
  refine Site.perform_of_ensures env (fun r y => ∃ k, 0 < k ∧ y = (runtime.drain env x k).2 ∧
    ∀ result : WorkerInvocationResult, r = .ok result → result.queueEmpty = true →
      (runtime.drain env x k).2.stores.actionQueue = []) ?_
  unfold WorkerRuntimeInvocationService.invoke
  rw [if_neg (Int.not_lt.mpr hsize), Proc.ensures_bind]
  refine (ensures_processBatch x size.toNat).mono fun r s w hbatch => ?_
  obtain ⟨k, hk, hsite⟩ := hbatch
  refine r.casesOn (fun e => ⟨k, hk hpos, hsite, fun _ hok => nomatch hok⟩) fun results => ?_
  simp only [Except.either_ok, Proc.ensures_bind, Proc.ensures_get, Proc.ensures_pure]
  refine ⟨k, hk hpos, hsite, ?_⟩
  rintro result hok hempty
  obtain rfl := Except.ok.inj hok
  rw [← hsite]
  simpa using hempty

/-- Invoking until the queue is empty is repeated processing, once at least for every
batch unless the queue became empty. -/
theorem invokeUntilEmpty_eq_drain (x : Site R) {sizes : List Int} (hsizes : ∀ size ∈ sizes, 1 ≤ size) :
    ∃ k, runtime.invokeUntilEmpty env x sizes = (runtime.drain env x k).2 ∧
      (sizes.length ≤ k ∨ (runtime.drain env x k).2.stores.actionQueue = []) := by
  induction sizes generalizing x with
  | nil => exact ⟨0, rfl, Or.inl (Nat.zero_le _)⟩
  | cons size sizes ih =>
    obtain ⟨j, hj, hsite, hreport⟩ :=
      @invoke_eq_drain _ R runtime env x size (hsizes size List.mem_cons_self)
    rw [WorkerRuntime.invokeUntilEmpty]
    split_ifs with hstop
    · refine ⟨j, hsite, Or.inr ?_⟩
      rcases hresult : (x.perform env (WorkerRuntimeInvocationService.invoke runtime size)).1
        with e | result
      · rw [hresult] at hstop
        exact absurd hstop (by simp)
      · rw [hresult] at hstop
        exact hreport result hresult (by simpa using hstop)
    · obtain ⟨k, hrest, hlength⟩ := ih (x.perform env
        (WorkerRuntimeInvocationService.invoke runtime size)).2
        fun size' hsize' => hsizes size' (List.mem_cons_of_mem size hsize')
      rw [hsite] at hrest hlength
      rw [hsite, hrest, ← drain_add]
      refine ⟨j + k, rfl, ?_⟩
      rw [drain_add]
      refine hlength.imp_left fun hle => ?_
      rw [List.length_cons]
      omega

/-- Distinct approved actions without retry history are drained: by calls of
`process_next`, and by invocations in batches of any positive sizes. -/
theorem drained_of_drain (hobserver : runtime.executionObserver.Passive env R)
    (hexecutors : env.RaisesExceptions) (hlimit : runtime.maxTransientRetries = limit)
    (hqueue : x.stores.actionQueue = actions) (hdistinct : (actions.map (·.id)).Nodup)
    (happroved : Approved x.stores actions) :
    (∀ k, (runtime.drain env x k).1.length ≤ actions.length * (limit + 1)) ∧
      (∀ k, actions.length * (limit + 1) ≤ k → Drained runtime limit actions x
        (runtime.drain env x k).1 (runtime.drain env x k).2) ∧
      ∀ sizes : List Int, (∀ size ∈ sizes, 1 ≤ size) → ∃ k,
        runtime.invokeUntilEmpty env x sizes = (runtime.drain env x k).2 ∧
          (actions.length * (limit + 1) ≤ sizes.length → Drained runtime limit actions x
            (runtime.drain env x k).1 (runtime.invokeUntilEmpty env x sizes)) := by
  subst hqueue
  have hrun := draining_drain hobserver hexecutors hlimit hdistinct happroved
  have hbound : ∀ k, (runtime.drain env x k).1.length ≤
      x.stores.actionQueue.length * (limit + 1) := by
    intro k
    obtain ⟨q, hdraining, -⟩ := hrun k
    simpa using hdraining.served.length_le
  -- as many calls as there are executions to make leave nothing queued
  have hempty : ∀ k, x.stores.actionQueue.length * (limit + 1) ≤ k →
      (runtime.drain env x k).2.stores.actionQueue = [] := by
    intro k hk
    obtain ⟨q, hdraining, hlength⟩ := hrun k
    by_contra hne
    have hwaits : q.queue ≠ [] := by
      rw [← hdraining.queue]
      simpa using hne
    have hlt := hdraining.served.length_lt hwaits
    rw [List.length_map, List.length_map, hlength hne] at hlt
    omega
  have hdrained : ∀ k, (runtime.drain env x k).2.stores.actionQueue = [] →
      Drained runtime limit x.stores.actionQueue x (runtime.drain env x k).1
        (runtime.drain env x k).2 := by
    intro k hk
    obtain ⟨q, hdraining, -⟩ := hrun k
    exact hdraining.drained hk
  refine ⟨hbound, fun k hk => hdrained k (hempty k hk), fun sizes hsizes => ?_⟩
  obtain ⟨k, hsite, hlength⟩ := invokeUntilEmpty_eq_drain x hsizes
  refine ⟨k, hsite, fun hmany => ?_⟩
  rw [hsite]
  rcases hlength with hle | hdone
  · exact hdrained k (hempty k (hmany.trans hle))
  · exact hdrained k hdone

end Draining

/-! ### A flaky executor -/

/-- A runtime whose only executor is its fallback. -/
def fallbackRuntime (maxTransientRetries : Int) : WorkerRuntime where
  executorRegistry := { fallbackExecutor := .provider 0 }
  executionObserver := InMemoryWorkerExecutionObserver.observer
  maxTransientRetries

/-- An executor that fails transiently as often as given, then succeeds. -/
def Environment.flaky (failures : ℕ) : Environment :=
  { Environment.cooperative with
    execute history execution :=
      if history.length < failures then
        .ok {
          action := execution.action
          status := .failed
          reason := "temporary upstream error"
          failure := some { category := .transient } }
      else .ok { action := execution.action, status := .succeeded } }

/-- Two approved actions in the queue. -/
def twoApproved : Site inMemoryRunRepository where
  stores := {
    actionQueue := [⟨0, "summarize_email", "event-1", ∅, none, ∅⟩,
      ⟨1, "summarize_email", "event-2", ∅, none, ∅⟩]
    lifecycle := .ofList [(0, { status := .approved }), (1, { status := .approved })] }
  world := .initial _

/-- Two actions and a retry limit of two are drained by six calls. -/
theorem drained_of_flaky :
    @Drained .ascii _ (fallbackRuntime 2) 2 twoApproved.stores.actionQueue twoApproved
      (@WorkerRuntime.drain .ascii _ (fallbackRuntime 2) (.flaky 2) twoApproved 6).1
      (@WorkerRuntime.drain .ascii _ (fallbackRuntime 2) (.flaky 2) twoApproved 6).2 :=
  (@drained_of_drain .ascii _ (fallbackRuntime 2) (.flaky 2) 2 twoApproved.stores.actionQueue
    twoApproved (passive_inMemory _ _)
    (fun history execution e herror => by
      simp only [Environment.flaky] at herror
      split_ifs at herror) rfl rfl (by decide)
    (by
      intro action haction
      simp only [twoApproved, List.mem_cons, List.not_mem_nil, or_false] at haction
      rcases haction with rfl | rfl
      · exact ⟨_, rfl, rfl, rfl⟩
      · exact ⟨_, rfl, rfl, rfl⟩)).2.1 6 (by decide)

example : (@WorkerRuntime.drain .ascii _ (fallbackRuntime 2) (.flaky 3) twoApproved 6).1.map
    (·.action.id) = [0, 1, 0, 1, 0] := by decide

end Velox
