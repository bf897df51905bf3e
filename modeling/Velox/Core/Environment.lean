import Velox.Events.Event
import Velox.SoftwareEngineering.Repository
import Velox.Workers.Executor

/-!
# The outside of a process

Everything a process asks of something else is a call: fresh identifiers, the
clock, the event classifier, a planner, a permission engine, worker executors, the work
product of an action, and the run repository. What the collaborators answer may
depend on everything asked before.

## Main definitions

* `Outside` — the calls and their replies
* `Environment` — how the collaborators behave
* `World`, `outside` — the identifiers drawn, the calls made and the run
  repository; what each call does to them
* `Stores` — the process-local stores
* `Service` — a service method: local stores, exceptions and calls
-/

set_option autoImplicit false

namespace Velox

/-- The permission decision statuses. -/
inductive PermissionStatus
  | allowed
  | requiresApproval
  | denied
  deriving DecidableEq

/-- The text of a status. -/
def PermissionStatus.value : PermissionStatus → String
  | .allowed => "allowed"
  | .requiresApproval => "requires_approval"
  | .denied => "denied"

/-- A permission decision. -/
structure PermissionDecision where
  status : PermissionStatus := .allowed
  reason : Option String := none
  metadata : Dict := ∅

/-- Bounded, git-generated view of one action's uncommitted work product. -/
structure WorkProductReview where
  changedFiles : List String
  untrackedFiles : List String
  dirty : Bool
  canonicalClean : Bool
  canonicalUnchanged : Bool
  deriving DecidableEq

/-- What a promotion committed, pushed and published. -/
structure PromotionPublication where
  commitSha : String
  number : Int
  url : String
  baseBranch : String
  headBranch : String
  created : Bool
  deriving DecidableEq

/-- The calls a process makes. -/
inductive OutsideCall
  | uuid4
  | utcnow
  | classify (event : UniversalEvent)
  | resolveContext (event : UniversalEvent) (classification : EventClassification)
  | plan (processedEvent : ProcessedEvent)
  | evaluatePermission (action : Action)
  | execute (execution : Execution)
  | reviewWorkProduct (actionId : UUID)
  | disposeWorkProduct (actionId : UUID) (disposition : WorkProductDisposition)
  | publishPromotion (actionId : UUID) (title body : String)
  | store (call : RunCall)

/-- What a call is answered with. A permission engine may return something that
is no decision at all. -/
@[reducible] def OutsideCall.Reply : OutsideCall → Type
  | .uuid4 => UUID
  | .utcnow => DateTime
  | .classify _ => Except Raised EventClassification
  | .resolveContext .. => Except Raised ResolvedContext
  | .plan _ => Except Raised (List Action)
  | .evaluatePermission _ => Except Raised (Option PermissionDecision)
  | .execute _ => Except Raised WorkerExecutionResult
  | .reviewWorkProduct _ => Except Raised WorkProductReview
  | .disposeWorkProduct .. => Except Raised WorkProductDispositionResult
  | .publishPromotion .. => Except Raised PromotionPublication
  | .store call => Except Raised call.Value

/-- The calls of a process with their replies. -/
abbrev Outside : Signature := ⟨OutsideCall, OutsideCall.Reply⟩

/-- How the clock and the collaborators behave, the collaborators given the calls
made before. -/
structure Environment where
  clock : ℕ → DateTime
  classify : List OutsideCall → UniversalEvent → Except Raised EventClassification
  resolveContext :
    List OutsideCall → UniversalEvent → EventClassification → Except Raised ResolvedContext
  plan : List OutsideCall → ProcessedEvent → Except Raised (List Action)
  evaluatePermission : List OutsideCall → Action → Except Raised (Option PermissionDecision)
  execute : List OutsideCall → Execution → Except Raised WorkerExecutionResult
  reviewWorkProduct : List OutsideCall → UUID → Except Raised WorkProductReview
  disposeWorkProduct :
    List OutsideCall → UUID → WorkProductDisposition → Except Raised WorkProductDispositionResult
  publishPromotion :
    List OutsideCall → UUID → String → String → Except Raised PromotionPublication

/-- Collaborators that always answer, executors that always succeed, and a clock
that stands still. -/
def Environment.cooperative : Environment where
  clock _ := .min
  classify _ event := .ok { category := event.source }
  resolveContext _ _ _ := .ok {}
  plan _ _ := .ok []
  evaluatePermission _ _ := .ok (some {})
  execute _ execution := .ok { action := execution.action, status := .succeeded }
  reviewWorkProduct _ _ := .ok {
    changedFiles := []
    untrackedFiles := []
    dirty := false
    canonicalClean := true
    canonicalUnchanged := true }
  disposeWorkProduct _ actionId disposition := .ok {
    actionId
    disposition
    worktreePresent := false
    branchPresent := false
    canonicalUnchanged := true }
  publishPromotion _ _ _ _ := .error ⟨.softwareEngineeringPromotionExternalError, "no remote"⟩

/-- The outside as the processes leave it. -/
structure World (R : RunRepository) where
  nextId : UUID
  ticks : ℕ
  history : List OutsideCall
  repository : R.State

namespace World

variable {R : RunRepository}

/-- Nothing drawn, nothing called, no run recorded. -/
def initial (R : RunRepository) : World R := ⟨0, 0, [], R.initial⟩

/-- An identifier was drawn. -/
def draw (w : World R) : World R := { w with nextId := w.nextId + 1 }

/-- The clock was read. -/
def tick (w : World R) : World R := { w with ticks := w.ticks + 1 }

/-- The run repository changed. -/
def setRepository (w : World R) (repository : R.State) : World R := { w with repository }

/-- Remember a call. -/
def log (w : World R) (call : OutsideCall) : World R := { w with history := w.history ++ [call] }

/-- The durable row of an action. -/
def row (w : World R) (id : UUID) : Option RunState := R.row w.repository id

/-- The invocations of executors so far. -/
def executions (w : World R) : List Execution :=
  w.history.filterMap fun
    | .execute execution => some execution
    | _ => none

/-- How often an executor was invoked for an action. -/
def executionCount (w : World R) (id : UUID) : ℕ :=
  w.executions.countP fun execution => execution.action.id = id

@[simp] theorem executions_log_execute (w : World R) (execution : Execution) :
    (w.log (.execute execution)).executions = w.executions ++ [execution] := by
  simp [executions, log]

section

variable (w : World R) (call : OutsideCall) (repository : R.State)

@[simp] theorem row_draw : w.draw.row = w.row := rfl

@[simp] theorem row_tick : w.tick.row = w.row := rfl

@[simp] theorem row_log : (w.log call).row = w.row := rfl

@[simp] theorem row_setRepository : (w.setRepository repository).row = R.row repository := rfl

@[simp] theorem nextId_draw : w.draw.nextId = w.nextId + 1 := rfl

@[simp] theorem nextId_tick : w.tick.nextId = w.nextId := rfl

@[simp] theorem nextId_log : (w.log call).nextId = w.nextId := rfl

@[simp] theorem nextId_setRepository : (w.setRepository repository).nextId = w.nextId := rfl

@[simp] theorem history_draw : w.draw.history = w.history := rfl

@[simp] theorem history_tick : w.tick.history = w.history := rfl

@[simp] theorem history_log : (w.log call).history = w.history ++ [call] := rfl

@[simp] theorem history_setRepository : (w.setRepository repository).history = w.history := rfl

end

/-- No executor was invoked, and the rows are now the given ones. -/
structure UpdatedFrom (w' w : World R) (rows : UUID → Option RunState) : Prop where
  nextId : w.nextId ≤ w'.nextId
  executions : w'.executions = w.executions
  row : w'.row = rows

theorem UpdatedFrom.trans {w w' w'' : World R} {rows rows' : UUID → Option RunState}
    (h' : w''.UpdatedFrom w' rows') (h : w'.UpdatedFrom w rows) : w''.UpdatedFrom w rows' :=
  ⟨h.nextId.trans h'.nextId, h'.executions.trans h.executions, h'.row⟩

theorem updatedFrom_self (w : World R) : w.UpdatedFrom w w.row := ⟨le_refl _, rfl, rfl⟩

theorem updatedFrom_tick (w : World R) : w.tick.UpdatedFrom w w.row := ⟨le_refl _, rfl, rfl⟩

theorem updatedFrom_draw (w : World R) : w.draw.UpdatedFrom w w.row := ⟨Nat.le_succ _, rfl, rfl⟩

theorem UpdatedFrom.row_self {w w' : World R} {rows : UUID → Option RunState} {id : UUID}
    {state : RunState} (h : w'.UpdatedFrom w (Function.update rows id (some state))) :
    w'.row id = some state := by
  rw [h.row, Function.update_self]

theorem UpdatedFrom.row_of_ne {w w' : World R} {rows : UUID → Option RunState} {id id' : UUID}
    {state : RunState} (h : w'.UpdatedFrom w (Function.update rows id (some state)))
    (hid : id' ≠ id) : w'.row id' = rows id' := by
  rw [h.row, Function.update_of_ne hid]

@[simp] theorem row_initial (id : UUID) : (initial R).row id = none := R.row_initial id

end World

/-- What a call does. -/
def outside (env : Environment) (R : RunRepository) :
    (c : OutsideCall) → World R → c.Reply × World R
  | .uuid4, w => (w.nextId, w.draw)
  | .utcnow, w => (env.clock w.ticks, w.tick)
  | .classify event, w => (env.classify w.history event, w.log (.classify event))
  | .resolveContext event classification, w =>
    (env.resolveContext w.history event classification, w.log (.resolveContext event classification))
  | .plan processedEvent, w => (env.plan w.history processedEvent, w.log (.plan processedEvent))
  | .evaluatePermission action, w =>
    (env.evaluatePermission w.history action, w.log (.evaluatePermission action))
  | .execute execution, w => (env.execute w.history execution, w.log (.execute execution))
  | .reviewWorkProduct id, w => (env.reviewWorkProduct w.history id, w.log (.reviewWorkProduct id))
  | .disposeWorkProduct id disposition, w =>
    (env.disposeWorkProduct w.history id disposition, w.log (.disposeWorkProduct id disposition))
  | .publishPromotion id title body, w =>
    (env.publishPromotion w.history id title body, w.log (.publishPromotion id title body))
  | .store call, w =>
    ((R.handle call w.repository).1, w.setRepository (R.handle call w.repository).2)

/-- The calls that neither invoke an executor nor write to the run repository. -/
def OutsideCall.Quiet : OutsideCall → Prop
  | .execute _ | .store (.claimApproved ..) | .store (.write _) => False
  | _ => True

/-- Quiet calls are permitted everywhere. -/
def PermitsQuiet {W : Type} (P : OutsideCall → W → Prop) : Prop := ∀ c w, c.Quiet → P c w

/-- A quiet call leaves every row alone. -/
theorem updatedFrom_outside {R : RunRepository} {env : Environment} {c : OutsideCall} {w : World R}
    (hc : c.Quiet) : (outside env R c w).2.UpdatedFrom w w.row := by
  cases c with
  | uuid4 => exact World.updatedFrom_draw w
  | execute => exact hc.elim
  | store call =>
    cases call with
    | get id =>
      refine ⟨le_refl _, rfl, ?_⟩
      show R.row (R.handle (.get id) w.repository).2 = _
      rw [R.handle_get]
      rfl
    | listPendingApproval => exact ⟨le_refl _, rfl, (R.handle_list w.repository).1⟩
    | claimApproved => exact hc.elim
    | write => exact hc.elim
  | _ => exact ⟨le_refl _, by simp [outside, World.executions], rfl⟩

/-- What every operation on a row keeps, every call of a process keeps of every row. -/
theorem row_invariant_outside {R : RunRepository} {env : Environment} {I : RunState → Prop}
    (hwrite : ∀ {write : RunWrite} {current : Option RunState} {state : RunState},
      (∀ row, current = some row → I row) → write.apply current = .ok state → I state)
    (hclaim : ∀ {row : RunState} {claimId : UUID} {now : DateTime}, I row →
      I (row.claimed claimId now))
    {c : OutsideCall} {w : World R} (h : ∀ id state, w.row id = some state → I state) :
    ∀ id state, (outside env R c w).2.row id = some state → I state := by
  cases c with
  | store call => exact RunRepository.row_invariant hwrite hclaim h
  | _ => exact h

/-- The history only grows. -/
theorem history_prefix_run {R : RunRepository} {α : Type} (env : Environment) (p : Prog Outside α)
    (w : World R) : w.history <+: (p.run (outside env R) w).2.history := by
  induction p generalizing w with
  | ret a => exact List.prefix_refl _
  | call c next ih =>
    refine List.IsPrefix.trans ?_ (ih _ _)
    cases c <;> simp [outside]

/-! ### Service methods -/

/-- The process-local stores. -/
structure Stores where
  actionQueue : ActionQueue := []
  lifecycle : OrderedDict UUID ActionLifecycleState := ∅
  pendingApprovals : OrderedDict UUID Action := ∅
  events : EventStores := {}

namespace Stores

/-- `lifecycle_repository.set`. -/
def setLifecycle (s : Stores) (id : UUID) (state : ActionLifecycleState) : Stores :=
  { s with lifecycle := s.lifecycle.set id state }

/-- `pending_approval_registry.add`. -/
def addPending (s : Stores) (action : Action) : Stores :=
  { s with pendingApprovals := s.pendingApprovals.set action.id action }

/-- `pending_approval_registry.remove`. -/
def removePending (s : Stores) (id : UUID) : Stores :=
  { s with pendingApprovals := s.pendingApprovals.erase id }

/-- Replace the contents of the action queue. -/
def setQueue (s : Stores) (queue : ActionQueue) : Stores := { s with actionQueue := queue }

/-- `action_queue.enqueue`. -/
def enqueue (s : Stores) (action : Action) : Stores :=
  s.setQueue (s.actionQueue.enqueue action)

/-- Update the stores of the event workflow. -/
def setEvents (s : Stores) (events : EventStores) : Stores := { s with events }

variable (s : Stores) (id : UUID) (state : ActionLifecycleState) (action : Action)
  (queue : ActionQueue) (events : EventStores)

@[simp] theorem lifecycle_setLifecycle :
    (s.setLifecycle id state).lifecycle = s.lifecycle.set id state := rfl

@[simp] theorem actionQueue_setLifecycle :
    (s.setLifecycle id state).actionQueue = s.actionQueue := rfl

@[simp] theorem pendingApprovals_setLifecycle :
    (s.setLifecycle id state).pendingApprovals = s.pendingApprovals := rfl

@[simp] theorem lifecycle_addPending : (s.addPending action).lifecycle = s.lifecycle := rfl

@[simp] theorem actionQueue_addPending : (s.addPending action).actionQueue = s.actionQueue := rfl

@[simp] theorem pendingApprovals_addPending :
    (s.addPending action).pendingApprovals = s.pendingApprovals.set action.id action := rfl

@[simp] theorem lifecycle_removePending : (s.removePending id).lifecycle = s.lifecycle := rfl

@[simp] theorem actionQueue_removePending : (s.removePending id).actionQueue = s.actionQueue := rfl

@[simp] theorem pendingApprovals_removePending :
    (s.removePending id).pendingApprovals = s.pendingApprovals.erase id := rfl

@[simp] theorem lifecycle_setQueue : (s.setQueue queue).lifecycle = s.lifecycle := rfl

@[simp] theorem actionQueue_setQueue : (s.setQueue queue).actionQueue = queue := rfl

@[simp] theorem pendingApprovals_setQueue :
    (s.setQueue queue).pendingApprovals = s.pendingApprovals := rfl

@[simp] theorem setQueue_self : s.setQueue s.actionQueue = s := rfl

@[simp] theorem lifecycle_enqueue : (s.enqueue action).lifecycle = s.lifecycle := rfl

@[simp] theorem actionQueue_enqueue :
    (s.enqueue action).actionQueue = s.actionQueue.enqueue action := rfl

@[simp] theorem pendingApprovals_enqueue :
    (s.enqueue action).pendingApprovals = s.pendingApprovals := rfl

@[simp] theorem events_setLifecycle : (s.setLifecycle id state).events = s.events := rfl

@[simp] theorem events_addPending : (s.addPending action).events = s.events := rfl

@[simp] theorem events_removePending : (s.removePending id).events = s.events := rfl

@[simp] theorem events_setQueue : (s.setQueue queue).events = s.events := rfl

@[simp] theorem events_enqueue : (s.enqueue action).events = s.events := rfl

@[simp] theorem lifecycle_setEvents : (s.setEvents events).lifecycle = s.lifecycle := rfl

@[simp] theorem actionQueue_setEvents : (s.setEvents events).actionQueue = s.actionQueue := rfl

@[simp] theorem pendingApprovals_setEvents : (s.setEvents events).pendingApprovals = s.pendingApprovals := rfl

@[simp] theorem events_setEvents : (s.setEvents events).events = events := rfl

end Stores

/-- A method that reads and writes the local stores, raises and makes calls. -/
abbrev Service (α : Type) := Proc Outside Stores Raised α

/-- A method that has nothing to do with the local stores. -/
abbrev Task (α : Type) := Proc Outside Unit Raised α

/-- One process and the outside it has shaped. -/
structure Site (R : RunRepository) where
  stores : Stores
  world : World R

namespace Site

variable {R : RunRepository} {α : Type}

/-- Empty stores, and an outside nothing was asked of. -/
def initial (R : RunRepository) : Site R := ⟨{}, .initial R⟩

/-- Run a method of the process: its result or exception, and what it leaves. -/
def perform (env : Environment) (m : Service α) (x : Site R) : Except Raised α × Site R :=
  let outcome := m.run (outside env R) x.stores x.world
  (outcome.1.1, ⟨outcome.1.2, outcome.2⟩)

/-- Run a method of the process for what it leaves, and whether it raises. -/
def attempt (env : Environment) (m : Service α) (x : Site R) : Bool × Site R :=
  ((x.perform env m).1.raised, (x.perform env m).2)

/-- What a method ensures holds of what it leaves. -/
theorem perform_of_ensures (env : Environment) {m : Service α} {x : Site R}
    (Q : Except Raised α → Site R → Prop)
    (h : m.Ensures (outside env R) (fun _ _ => True) (fun r s w => Q r ⟨s, w⟩) x.stores x.world) :
    Q (perform env m x).1 (perform env m x).2 :=
  h.run

end Site

/-- A program that makes only quiet calls leaves every row alone. -/
theorem ensures_of_calls {R : RunRepository} {env : Environment} {P : OutsideCall → World R → Prop}
    {σ ε α : Type} {m : Proc Outside σ ε α} {Q : Except ε α → Prop} {s : σ} {w : World R}
    (hquiet : PermitsQuiet P) (hm : m.Calls OutsideCall.Quiet Q) :
    m.Ensures (outside env R) P (fun r _ w' => w'.UpdatedFrom w w.row ∧ Q r) s w :=
  Proc.Calls.ensures (F := Outside) (K := OutsideCall.Quiet)
    (I := fun w' : World R => w'.UpdatedFrom w w.row) hquiet
    (fun _ _ hc hw₁ => hw₁.row ▸ (updatedFrom_outside hc).trans hw₁) hm (World.updatedFrom_self w)

section Calls

variable {σ W : Type} {h : Handler Outside W} {P : OutsideCall → W → Prop} {s : σ} {w : W}

/-- `uuid4()`. -/
def uuid4 : Proc Outside σ Raised UUID := Proc.request Outside .uuid4 .ok

/-- `datetime.now(UTC)`. -/
def utcnow : Proc Outside σ Raised DateTime := Proc.request Outside .utcnow .ok

/-- Ask the classifier. -/
def classify (event : UniversalEvent) : Proc Outside σ Raised EventClassification :=
  Proc.request Outside (.classify event) id

/-- Ask the context resolver. -/
def resolveContext (event : UniversalEvent) (classification : EventClassification) :
    Proc Outside σ Raised ResolvedContext :=
  Proc.request Outside (.resolveContext event classification) id

/-- Ask a planner. -/
def askPlanner (processedEvent : ProcessedEvent) : Proc Outside σ Raised (List Action) :=
  Proc.request Outside (.plan processedEvent) id

/-- Ask a permission engine. -/
def askPermission (action : Action) : Proc Outside σ Raised (Option PermissionDecision) :=
  Proc.request Outside (.evaluatePermission action) id

/-- Invoke an executor. -/
def invokeExecutor (execution : Execution) : Proc Outside σ Raised WorkerExecutionResult :=
  Proc.request Outside (.execute execution) id

/-- Review the work product of an action. -/
def reviewWorkProduct (actionId : UUID) : Proc Outside σ Raised WorkProductReview :=
  Proc.request Outside (.reviewWorkProduct actionId) id

/-- Keep or discard the work product of an action. -/
def disposeWorkProduct (actionId : UUID) (disposition : WorkProductDisposition) :
    Proc Outside σ Raised WorkProductDispositionResult :=
  Proc.request Outside (.disposeWorkProduct actionId disposition) id

/-- Verify, commit, push and publish the work product of an action. -/
def publishPromotion (actionId : UUID) (title body : String) :
    Proc Outside σ Raised PromotionPublication :=
  Proc.request Outside (.publishPromotion actionId title body) id

/-- Call the run repository. -/
def callRepository (call : RunCall) : Proc Outside σ Raised call.Value :=
  Proc.request Outside (.store call) id

@[simp] theorem ensures_uuid4 {Q : Except Raised UUID → σ → W → Prop} :
    uuid4.Ensures h P Q s w ↔
      P .uuid4 w ∧ Q (.ok (h .uuid4 w).1) s (h .uuid4 w).2 := Iff.rfl

@[simp] theorem ensures_utcnow {Q : Except Raised DateTime → σ → W → Prop} :
    utcnow.Ensures h P Q s w ↔
      P .utcnow w ∧ Q (.ok (h .utcnow w).1) s (h .utcnow w).2 := Iff.rfl

@[simp] theorem ensures_classify {event : UniversalEvent}
    {Q : Except Raised EventClassification → σ → W → Prop} :
    (classify event).Ensures h P Q s w ↔
      P (.classify event) w ∧ Q (h (.classify event) w).1 s (h (.classify event) w).2 :=
  Iff.rfl

@[simp] theorem ensures_resolveContext {event : UniversalEvent}
    {classification : EventClassification} {Q : Except Raised ResolvedContext → σ → W → Prop} :
    (resolveContext event classification).Ensures h P Q s w ↔
      P (.resolveContext event classification) w ∧
        Q (h (.resolveContext event classification) w).1 s
          (h (.resolveContext event classification) w).2 := Iff.rfl

@[simp] theorem ensures_askPlanner {processedEvent : ProcessedEvent}
    {Q : Except Raised (List Action) → σ → W → Prop} :
    (askPlanner processedEvent).Ensures h P Q s w ↔
      P (.plan processedEvent) w ∧
        Q (h (.plan processedEvent) w).1 s (h (.plan processedEvent) w).2 := Iff.rfl

@[simp] theorem ensures_askPermission {action : Action}
    {Q : Except Raised (Option PermissionDecision) → σ → W → Prop} :
    (askPermission action).Ensures h P Q s w ↔
      P (.evaluatePermission action) w ∧
        Q (h (.evaluatePermission action) w).1 s (h (.evaluatePermission action) w).2 := Iff.rfl

@[simp] theorem ensures_invokeExecutor {execution : Execution}
    {Q : Except Raised WorkerExecutionResult → σ → W → Prop} :
    (invokeExecutor execution).Ensures h P Q s w ↔
      P (.execute execution) w ∧
        Q (h (.execute execution) w).1 s (h (.execute execution) w).2 := Iff.rfl

@[simp] theorem ensures_reviewWorkProduct {actionId : UUID}
    {Q : Except Raised WorkProductReview → σ → W → Prop} :
    (reviewWorkProduct actionId).Ensures h P Q s w ↔
      P (.reviewWorkProduct actionId) w ∧
        Q (h (.reviewWorkProduct actionId) w).1 s (h (.reviewWorkProduct actionId) w).2 := Iff.rfl

@[simp] theorem ensures_disposeWorkProduct {actionId : UUID} {disposition : WorkProductDisposition}
    {Q : Except Raised WorkProductDispositionResult → σ → W → Prop} :
    (disposeWorkProduct actionId disposition).Ensures h P Q s w ↔
      P (.disposeWorkProduct actionId disposition) w ∧
        Q (h (.disposeWorkProduct actionId disposition) w).1 s
          (h (.disposeWorkProduct actionId disposition) w).2 := Iff.rfl

@[simp] theorem ensures_publishPromotion {actionId : UUID} {title body : String}
    {Q : Except Raised PromotionPublication → σ → W → Prop} :
    (publishPromotion actionId title body).Ensures h P Q s w ↔
      P (.publishPromotion actionId title body) w ∧
        Q (h (.publishPromotion actionId title body) w).1 s
          (h (.publishPromotion actionId title body) w).2 := Iff.rfl

@[simp] theorem ensures_callRepository {call : RunCall}
    {Q : Except Raised call.Value → σ → W → Prop} :
    (callRepository call).Ensures h P Q s w ↔
      P (.store call) w ∧ Q (h (.store call) w).1 s (h (.store call) w).2 := Iff.rfl

end Calls

end Velox
