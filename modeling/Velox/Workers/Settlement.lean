import Velox.Workers.Runtime
import Velox.SoftwareEngineering.Continuation

/-!
# What becomes of a dequeued action

Processing stores that an action is executing before it resolves, observes and
invokes anything, and only the invocation is guarded. An action is therefore
settled afterwards exactly when the collaborators of its execution return.

## Main definitions

* `ProcessCall` — the two processing entrypoints
* `Settled` — a terminal status, or an executable one together with a place in
  the queue
* `CollaboratorsReturn` — observer and executor return where they are called
* `Processable` — the lifecycle state lets processing settle the action

## Main results

* `settled_iff_processable` — a dequeued action is settled exactly when it is
  processable
* `not_settled_of_identity_conflict` — the durable observer raising on a
  conflicting identity leaves an action executing outside the queue
-/

set_option autoImplicit false

namespace Velox

/-- The two processing entrypoints. -/
inductive ProcessCall
  | next
  | action (actionId : UUID)
  deriving DecidableEq

namespace ProcessCall

/-- Run the entrypoint. -/
def perform [PyStd] (runtime : WorkerRuntime) : ProcessCall → Service WorkerProcessingResult
  | .next => runtime.processNext
  | .action actionId => runtime.processAction actionId

/-- The action the entrypoint takes out of the queue. -/
def dequeued (s : Stores) : ProcessCall → Option Action
  | .next => s.actionQueue.head?
  | .action actionId => (s.actionQueue.get actionId).filter fun action =>
      ¬∃ state ∈ s.lifecycle.get action.id, state.AwaitsApproval

/-- The queue once the action is taken out. -/
def remainder (s : Stores) : ProcessCall → ActionQueue
  | .next => s.actionQueue.tail
  | .action actionId => (s.actionQueue.remove actionId).2

end ProcessCall

/-- The statuses an action ends in. -/
def terminalStatuses : List ActionStatus := [.completed, .skipped, .failed, .rejected]

/-- An action is done with, or it may be executed and is queued for it. -/
def Settled (s : Stores) (id : UUID) : Prop :=
  ∃ state ∈ s.lifecycle.get id, state.status ∈ terminalStatuses ∨
    state.status ∈ [.approved, .queued] ∧ 0 < s.actionQueue.occurrences id

instance (s : Stores) (id : UUID) : Decidable (Settled s id) := by
  unfold Settled
  infer_instance

section Settled

variable [PyStd] {W : Type} (runtime : WorkerRuntime) (h : Handler Outside W) (action : Action)

/-- The observer returns when it is told of the start and of the finish of an
execution, and the executor raises nothing that `except Exception` misses. -/
def CollaboratorsReturn (w : W) : Prop :=
  let resolution := runtime.executorRegistry.resolveWithRegistration action
  (runtime.executionObserver.start (resolution.executionStart action)).Ensures h (fun _ _ => True)
    (fun started _ w => started.either
      (fun observation => (WorkerRuntime.invoke resolution action).Ensures h (fun _ _ => True)
        (fun result _ w => result.either
          (fun result =>
            (runtime.executionObserver.finish observation {
              status := result.status
              metadata := result.metadata
              reason := result.reason
              failure := failureForResult result }).Ensures h (fun _ _ => True)
            (fun finished _ _ => finished.either (fun _ => True) fun _ => False) () w)
          fun _ => False) () w)
      fun _ => False) () w

/-- What the stored lifecycle state must be, and the collaborators must do, for an
action to be settled. -/
def Processable (s : Stores) (w : W) : Prop :=
  let state := (s.lifecycle.get action.id).getD { status := .queued }
  if state.AwaitsApproval then True
  else if state.status ∈ [.queued, .approved] then CollaboratorsReturn runtime h action w
  else state.status ∈ terminalStatuses

variable {runtime h action} {s : Stores} {w : W}

/-- Where an execution result is stored, the action is settled. -/
theorem settled_settle {maxTransientRetries : Int} {executing : ActionLifecycleState}
    {result : WorkerExecutionResult} (hstatus : executing.status = .executing) :
    (WorkerRuntime.settle maxTransientRetries action executing result).Ensures h (fun _ _ => True)
      (fun _ s _ => Settled s action.id) s w := by
  have hterminal : ∀ s : Stores, Settled (s.setLifecycle action.id
      (WorkerRuntime.terminalOf executing result)) action.id := fun s =>
    ⟨_, OrderedDict.get_set_self, Or.inl (by
      cases hresult : result.status <;>
        simp [WorkerRuntime.terminalOf, WorkerRuntime.terminalStatus, hresult, terminalStatuses])⟩
  rw [WorkerRuntime.ensures_settle hstatus]
  split_ifs
  · rcases WorkerRuntime.transientRetryCount (WorkerRuntime.terminalOf executing result)
      with e | retryCount
    · exact hterminal s
    · simp only [Except.either_ok]
      split_ifs
      · exact ⟨_, OrderedDict.get_set_self, Or.inr ⟨by simp [WorkerRuntime.retriedOf], by simp⟩⟩
      · exact hterminal s
  · exact hterminal s

/-- An action that executes is settled exactly when its collaborators return. -/
theorem settled_executeAction_iff {executing : ActionLifecycleState}
    (hstatus : executing.status = .executing) :
    (runtime.executeAction action executing).Ensures h (fun _ _ => True)
      (fun _ s _ => Settled s action.id) s w ↔ CollaboratorsReturn runtime h action w := by
  have hstuck : ¬Settled (s.setLifecycle action.id executing) action.id := by
    rintro ⟨state, hstate, hsettled⟩
    obtain rfl : executing = state := by simpa using hstate
    simp [hstatus, terminalStatuses] at hsettled
  simp only [WorkerRuntime.executeAction, CollaboratorsReturn, Proc.ensures_bind,
    Proc.ensures_modify, Proc.ensures_embed, Proc.ensures_ofExcept, Except.either_ok]
  refine Proc.ensures_congr fun started _ w => ?_
  rcases started with e | observation
  · simpa using hstuck
  simp only [Except.either_ok]
  refine Proc.ensures_congr fun result _ w => ?_
  rcases result with e | result
  · simpa using hstuck
  simp only [Except.either_ok]
  refine Proc.ensures_congr fun finished _ w => ?_
  rcases finished with e | finished
  · simpa using hstuck
  simp only [Except.either_ok, iff_true]
  refine (settled_settle hstatus).mono fun outcome s w hsettled => ?_
  cases outcome <;> exact hsettled

/-- With a stored lifecycle state, or queued again, an action taken out of the
queue is settled exactly when it is processable. -/
theorem settled_processDequeuedAction_iff :
    (runtime.processDequeuedAction action).Ensures h (fun _ _ => True)
      (fun _ s _ => Settled s action.id) s w ↔ Processable runtime h action s w := by
  rw [WorkerRuntime.ensures_processDequeuedAction rfl, Processable]
  rcases hstored : s.lifecycle.get action.id with _ | state
  · simp [ActionLifecycleState.AwaitsApproval, ActionLifecycleState.approvalRequired,
      settled_executeAction_iff, WorkerRuntime.executingOf]
  · simp only [Option.getD_some]
    by_cases hawaits : state.AwaitsApproval
    · simp [hawaits, Settled, hstored, hawaits.1]
    · simp only [hawaits, if_false, List.mem_cons, List.not_mem_nil, or_false]
      split_ifs with hexecutable
      · exact settled_executeAction_iff rfl
      · have hnot : ¬(state.status = .approved ∨ state.status = .queued) := by rwa [or_comm]
        simp [Settled, hstored, hnot]

theorem ensures_settled_perform_iff {call : ProcessCall} (hdequeued : call.dequeued s = some action) :
    (call.perform runtime).Ensures h (fun _ _ => True) (fun _ s _ => Settled s action.id) s w ↔
      (runtime.processDequeuedAction action).Ensures h (fun _ _ => True)
        (fun _ s _ => Settled s action.id) (s.setQueue (call.remainder s)) w := by
  cases call with
  | next =>
    rcases hqueue : s.actionQueue with _ | ⟨a, rest⟩
    · simp [ProcessCall.dequeued, hqueue] at hdequeued
    · obtain rfl : a = action := by simpa [ProcessCall.dequeued, hqueue] using hdequeued
      simp [ProcessCall.perform, WorkerRuntime.ensures_processNext, hqueue, ProcessCall.remainder]
  | action actionId =>
    obtain ⟨hget, hready⟩ := Option.filter_eq_some_iff.mp hdequeued
    simp only [decide_not, Bool.not_eq_eq_eq_not, Bool.not_true, decide_eq_false_iff_not] at hready
    rw [ProcessCall.perform, WorkerRuntime.ensures_processAction]
    simp only [hget]
    rw [if_neg hready]
    rfl

/-- A dequeued action is settled after processing exactly when its lifecycle state
and its collaborators allow it. -/
theorem settled_iff_processable {call : ProcessCall} (hdequeued : call.dequeued s = some action) :
    Settled ((call.perform runtime).run h s w).1.2 action.id ↔
      Processable runtime h action s w := by
  have hrun : (call.perform runtime).Ensures h (fun _ _ => True)
      (fun _ s _ => Settled s action.id) s w ↔
        Settled ((call.perform runtime).run h s w).1.2 action.id := Proc.ensures_true_iff
  rw [← hrun, ensures_settled_perform_iff hdequeued, settled_processDequeuedAction_iff]
  rfl

end Settled

/-! ### An action that is left executing -/

/-- A runtime with one coding provider and the durable observer. -/
def codingRuntime : WorkerRuntime where
  executorRegistry := .codingOnly
  executionObserver := DurableExecutionObserver InMemoryWorkerExecutionObserver.observer

/-- A process whose queue holds one coding action. -/
def oneQueued (action : Action) : Stores := { actionQueue := [action] }

/-- A durable row of the action `0` that names another target. -/
def otherTarget : World inMemoryRunRepository :=
  ((Repository.registerAction {
    actionId := 0
    target := "elsewhere"
    executorRole := ExecutorRole.softwareEngineering.value
    capability := SOFTWARE_ENGINEERING_IMPLEMENT_CAPABILITY }).run
      (outside .cooperative inMemoryRunRepository) () (.initial _)).2

/-- The durable observer refuses an action whose row names another target; the
action is then neither in the queue nor done with. -/
theorem not_settled_of_identity_conflict :
    ProcessCall.next.dequeued (oneQueued (recoveredAction 0 "velox" "add a test" .none)) =
        some (recoveredAction 0 "velox" "add a test" .none) ∧
      ¬Settled ((@ProcessCall.perform .ascii codingRuntime .next).run
        (outside .cooperative inMemoryRunRepository)
        (oneQueued (recoveredAction 0 "velox" "add a test" .none)) otherTarget).1.2 0 :=
  ⟨rfl, by decide⟩

/-- Without a row in the way, the same action is processable. -/
theorem processable_of_no_conflict :
    @Processable .ascii _ codingRuntime (outside .cooperative inMemoryRunRepository)
      (recoveredAction 0 "velox" "add a test" .none)
      (oneQueued (recoveredAction 0 "velox" "add a test" .none)) (.initial _) :=
  (@settled_iff_processable .ascii _ codingRuntime (outside .cooperative inMemoryRunRepository)
    (recoveredAction 0 "velox" "add a test" .none)
    (oneQueued (recoveredAction 0 "velox" "add a test" .none)) (.initial _) .next rfl).mp (by decide)

end Velox
