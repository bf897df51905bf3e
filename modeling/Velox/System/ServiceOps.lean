import Velox.Lib.Pool
import Velox.SoftwareEngineering.RestartTransparency
import Velox.SoftwareEngineering.RunControl
import Velox.System.Container

/-!
# The operations of a service

What a process offers to its callers, and what each operation asks of the outside: whatever
the replies, an operation claims, executes, disposes, publishes and writes only what is its
own to do.

## Main definitions

* `Deployment` — what a process is composed of
* `ServiceOp`, `Deployment.method` — the operations and the methods they call
* `ServiceOp.Permits` — the calls an operation may make

## Main results

* `calls_delegate`, `calls_perform`, `calls_reconcile`, `calls_applyDisposition`, `calls_publish`
  — operations that change a row make no other calls
-/

set_option autoImplicit false

namespace Velox

/-! ### The operations -/

/-- What a process is composed of. -/
structure Deployment where
  executorRegistry : WorkerExecutorRegistry
  maxTransientRetries : Int
  reviewer : Bool
  inspector : Bool
  workProducts : Bool
  promotion : SoftwareEngineeringPromotionService.Configuration

/-- The operations of a process that serves its callers. -/
inductive ServiceOp [PyStd]
  | accept (event : UniversalEvent)
  | process (eventId : UUID) (integrationRoute : Option IntegrationRouteContext)
  | delegateTask (request : TaskDelegationRequest)
  | delegate (objective target : String)
  | listPending
  | decide (actionId : UUID) (decision : Decision)
  | execute (actionId : UUID)
  | status (actionId : UUID)
  | reconcile (actionId : UUID) (resolution : ClaimReconciliation) (stateToken : String)
    (acknowledged : Bool)
  | dispose (actionId : UUID) (disposition : WorkProductDisposition)
  | promote (actionId : UUID) (title body : String)

section Permits

variable [PyStd]

/-- What an operation may write to a row. -/
def ServiceOp.PermitsWrite (op : ServiceOp) : RunWrite → Prop
  | .registerAction _ registration => registration.approvalStatus = some .approved →
    ∃ objective target, op = .delegate objective target
  | .recordApproval .. => ∃ id, op = .decide id .approve
  | .recordRejection .. => ∃ id reason, op = .decide id (.reject reason)
  | .recordExecutionStarted .. | .recordExecution .. => ∃ id, op = .execute id
  | .releaseUnstartedClaim id _ _ =>
    ∃ stateToken acknowledged, op = .reconcile id .release stateToken acknowledged
  | .abandonStartedClaim id _ _ =>
    ∃ stateToken acknowledged, op = .reconcile id .abandon stateToken acknowledged
  | .recordDisposition .. => ∃ id disposition, op = .dispose id disposition
  | .recordPromotion _ promotion => ∃ title body, op = .promote promotion.actionId title body

/-- The calls an operation may make. -/
def ServiceOp.Permits (op : ServiceOp) : OutsideCall → Prop
  | .execute execution => op = .execute execution.action.id
  | .disposeWorkProduct id disposition => op = .dispose id disposition
  | .publishPromotion id title body => op = .promote id title body
  | .store (.claimApproved _ _ id) => op = .execute id
  | .store (.write write) => op.PermitsWrite write
  | _ => True

/-- A call that every operation may make. -/
def OutsideCall.Harmless : OutsideCall → Prop
  | .execute _ | .disposeWorkProduct .. | .publishPromotion .. | .store (.claimApproved ..) => False
  | .store (.write (.registerAction _ registration)) => registration.approvalStatus ≠ some .approved
  | .store (.write _) => False
  | _ => True

/-- A call that an observer of executions may make. -/
def OutsideCall.Observing : OutsideCall → Prop
  | .store (.write (.recordExecutionStarted ..)) | .store (.write (.recordExecution ..)) => True
  | c => c.Harmless

omit [PyStd] in
theorem OutsideCall.observing_of_harmless {c : OutsideCall} (h : c.Harmless) : c.Observing := by
  cases c with
  | store call =>
    cases call with
    | write write =>
      cases write with
      | recordExecutionStarted => trivial
      | recordExecution => trivial
      | _ => exact h
    | _ => exact h
  | _ => exact h

theorem ServiceOp.permits_of_harmless {op : ServiceOp} {c : OutsideCall} (h : c.Harmless) :
    op.Permits c := by
  cases c with
  | execute => exact h.elim
  | disposeWorkProduct => exact h.elim
  | publishPromotion => exact h.elim
  | store call =>
    cases call with
    | claimApproved => exact h.elim
    | write write =>
      cases write with
      | registerAction now registration => exact fun happroved => absurd happroved h
      | _ => exact h.elim
    | _ => trivial
  | _ => trivial

theorem ServiceOp.permits_of_observing {id : UUID} {c : OutsideCall} (h : c.Observing) :
    (ServiceOp.execute id).Permits c := by
  cases c with
  | store call =>
    cases call with
    | write write =>
      cases write with
      | recordExecutionStarted => exact ⟨id, rfl⟩
      | recordExecution => exact ⟨id, rfl⟩
      | _ => exact permits_of_harmless h
    | _ => exact permits_of_harmless h
  | _ => exact permits_of_harmless h

theorem permits_of_calls {op : ServiceOp} {σ α : Type} {m : Proc Outside σ Raised α}
    (hm : m.Calls OutsideCall.Harmless fun _ => True) : m.Calls op.Permits fun _ => True :=
  hm.permit fun _ => ServiceOp.permits_of_harmless

end Permits

section Method

variable [PyStd]

namespace Deployment

/-- The worker runtime of a process. -/
def runtime (d : Deployment) : WorkerRuntime :=
  observedRuntime d.executorRegistry d.maxTransientRetries

/-- The method an operation calls. -/
def method (d : Deployment) : ServiceOp → Service Unit
  | .accept event => (EventWorkflowService.accept event).discard
  | .process eventId route =>
    (EventWorkflowService.process BasePlanner.plan askPermission eventId route).discard
  | .delegateTask request =>
    (ActionTaskDelegator.delegate d.executorRegistry askPermission request).discard
  | .delegate objective target =>
    (SoftwareEngineeringTaskIngress.delegate d.executorRegistry askPermission objective
      target).discard
  | .listPending => (Proc.embed ActionRecovery.listPending).discard
  | .decide actionId decision => (decision.perform actionId).discard
  | .execute actionId =>
    (SoftwareEngineeringTaskContinuation.execute d.runtime d.reviewer actionId).discard
  | .status actionId => (Proc.embed (RunControl.status d.inspector actionId)).discard
  | .reconcile actionId resolution stateToken acknowledged =>
    (Proc.embed (RunControl.reconcile d.inspector actionId resolution stateToken
      acknowledged)).discard
  | .dispose actionId disposition =>
    (Proc.embed (WorkProductDispositionService.apply d.workProducts actionId
      disposition)).discard
  | .promote actionId title body =>
    (Proc.embed (SoftwareEngineeringPromotionService.promote d.promotion actionId title
      body)).discard

end Deployment

end Method

/-! ### Operations that leave the rows alone -/

section Harmless

variable {σ α : Type}

theorem calls_stamped {K : OutsideCall → Prop} {write : DateTime → RunWrite} (hnow : K .utcnow)
    (hwrite : ∀ now, K (.store (.write (write now)))) :
    (Repository.stamped write : Proc Outside σ Raised RunState).Calls K fun _ => True :=
  Proc.Calls.seq (Proc.Calls.request hnow fun _ => trivial) fun now =>
    Proc.Calls.request (hwrite now) fun _ => trivial

theorem calls_onRunStateError {K : OutsideCall → Prop} {m : Proc Outside σ Raised α}
    {replacement : Raised} (hm : m.Calls K fun _ => True) :
    (onRunStateError m replacement).Calls K fun _ => True := by
  apply Proc.Calls.handle hm
  intro e
  split_ifs <;> exact Proc.Calls.throw trivial

theorem harmless_resolveDecision [PyStd] {action : Action} :
    (PermissionEngineRuntime.resolveDecision askPermission action).Calls OutsideCall.Harmless
      fun _ => True := by
  apply Proc.Calls.seq
  · apply Proc.Calls.handle (Proc.Calls.request trivial fun _ => trivial)
    intro e
    split_ifs
    · exact Proc.Calls.pure trivial
    · exact Proc.Calls.throw trivial
  · exact fun _ => Proc.Calls.pure trivial

theorem harmless_evaluateAction [PyStd] {action : Action} :
    (PermissionEngineRuntime.evaluateAction askPermission action).Calls OutsideCall.Harmless
      fun _ => True := by
  apply Proc.Calls.seq (Proc.Calls.embed harmless_resolveDecision)
  intro decision
  apply Proc.Calls.seq (Proc.Calls.ofExcept trivial)
  intro state
  apply Proc.Calls.seq Proc.Calls.modify
  intro _
  apply Proc.Calls.seq (Proc.Calls.ofExcept trivial)
  intro evaluated
  split_ifs
  · exact Proc.Calls.seq Proc.Calls.modify fun _ => Proc.Calls.pure trivial
  · exact Proc.Calls.pure trivial

theorem harmless_evaluate [PyStd] {actions : List Action} :
    (PermissionEngineRuntime.evaluate askPermission actions).Calls OutsideCall.Harmless
      fun _ => True := by
  induction actions with
  | nil => exact Proc.Calls.pure trivial
  | cons action actions ih =>
    exact Proc.Calls.seq harmless_evaluateAction fun _ => Proc.Calls.seq ih fun _ => Proc.Calls.pure trivial

theorem harmless_accept {event : UniversalEvent} :
    (EventWorkflowService.accept event).Calls OutsideCall.Harmless fun _ => True := by
  apply Proc.Calls.seq Proc.Calls.get
  intro s
  split_ifs
  · exact Proc.Calls.throw trivial
  · exact Proc.Calls.seq Proc.Calls.modify fun _ => Proc.Calls.seq Proc.Calls.modify fun _ => Proc.Calls.seq (Proc.Calls.ofExcept trivial) fun _ =>
      Proc.Calls.seq Proc.Calls.modify fun _ => Proc.Calls.pure trivial

theorem harmless_plan {processedEvent : ProcessedEvent} :
    (BasePlanner.plan processedEvent).Calls OutsideCall.Harmless fun _ => True := by
  rw [BasePlanner.plan]
  split
  · exact Proc.Calls.pure trivial
  · exact Proc.Calls.seq (Proc.Calls.request trivial fun _ => trivial) fun _ => Proc.Calls.pure trivial

theorem harmless_runPipeline [PyStd] {event : UniversalEvent} {route : Option IntegrationRouteContext}
    {state : EventLifecycleState} :
    (EventWorkflowService.runPipeline event route state).Calls OutsideCall.Harmless
      fun _ => True := by
  apply Proc.Calls.handle
  · apply Proc.Calls.embed
    exact Proc.Calls.seq (Proc.Calls.request trivial fun _ => trivial) fun _ =>
      Proc.Calls.seq (Proc.Calls.request trivial fun _ => trivial) fun _ => Proc.Calls.pure trivial
  · intro error
    split_ifs
    · exact Proc.Calls.seq (Proc.Calls.ofExcept trivial) fun _ => Proc.Calls.seq Proc.Calls.modify fun _ => Proc.Calls.throw trivial
    · exact Proc.Calls.throw trivial

theorem harmless_process [PyStd] {eventId : UUID} {route : Option IntegrationRouteContext} :
    (EventWorkflowService.process BasePlanner.plan askPermission eventId route).Calls
      OutsideCall.Harmless fun _ => True := by
  apply Proc.Calls.seq Proc.Calls.get
  intro s
  split
  · exact Proc.Calls.throw trivial
  · dsimp only
    split
    · apply Proc.Calls.seq (Proc.Calls.pure trivial)
      intro processing
      apply Proc.Calls.seq Proc.Calls.modify
      intro _
      apply Proc.Calls.seq harmless_runPipeline
      intro processed
      apply Proc.Calls.seq (Proc.Calls.ofExcept trivial)
      intro state
      apply Proc.Calls.seq Proc.Calls.modify
      intro _
      apply Proc.Calls.seq Proc.Calls.modify
      intro _
      apply Proc.Calls.seq (Proc.Calls.embed harmless_plan)
      intro actions
      exact Proc.Calls.seq harmless_evaluate fun _ =>
        Proc.Calls.seq Proc.Calls.modify fun _ => Proc.Calls.pure trivial
    · exact Proc.Calls.throw trivial

theorem harmless_delegateTask [PyStd] {registry : WorkerExecutorRegistry} {request : TaskDelegationRequest} :
    (ActionTaskDelegator.delegate registry askPermission request).Calls OutsideCall.Harmless
      fun _ => True := by
  apply Proc.Calls.seq (Proc.Calls.request trivial fun _ => trivial)
  intro id
  dsimp only
  split_ifs
  swap
  · exact Proc.Calls.pure trivial
  · apply Proc.Calls.seq harmless_evaluateAction
    intro evaluation
    split_ifs
    · exact Proc.Calls.seq Proc.Calls.modify fun _ => Proc.Calls.pure trivial
    · exact Proc.Calls.pure trivial

theorem harmless_recoverPending [PyStd] {actionId : UUID} :
    (ActionRecovery.recoverPending actionId).Calls OutsideCall.Harmless fun _ => True := by
  apply Proc.Calls.seq (calls_onRunStateError (Proc.Calls.request trivial fun _ => trivial))
  rintro (_ | state)
  · exact Proc.Calls.pure trivial
  · apply Proc.Calls.seq (Proc.Calls.ofExcept trivial)
    intro _
    split_ifs
    · exact Proc.Calls.pure trivial
    · exact Proc.Calls.seq (Proc.Calls.ofExcept trivial) fun _ => Proc.Calls.seq (Proc.Calls.ofExcept trivial) fun _ => Proc.Calls.pure trivial

theorem harmless_resolvePendingAction [PyStd] {actionId : UUID} :
    (resolvePendingAction (some ActionRecovery.recoverPending) actionId).Calls
      OutsideCall.Harmless fun _ => True := by
  apply Proc.Calls.seq Proc.Calls.get
  intro s
  cases s.pendingApprovals.get actionId with
  | none =>
    apply Proc.Calls.seq (Proc.Calls.embed harmless_recoverPending)
    rintro (_ | action)
    · exact Proc.Calls.throw trivial
    · exact Proc.Calls.pure trivial
  | some action => exact Proc.Calls.pure trivial

theorem harmless_listPending : ActionRecovery.listPending.Calls OutsideCall.Harmless fun _ => True :=
  Proc.Calls.seq (calls_onRunStateError (Proc.Calls.request trivial fun _ => trivial)) fun _ =>
    Proc.Calls.ofExcept trivial

theorem harmless_getState {actionId : UUID} :
    (RunControl.getState actionId).Calls OutsideCall.Harmless fun _ => True := by
  apply Proc.Calls.seq (calls_onRunStateError (Proc.Calls.request trivial fun _ => trivial))
  rintro (_ | state)
  · exact Proc.Calls.throw trivial
  · exact Proc.Calls.seq (Proc.Calls.ofExcept trivial) fun _ => Proc.Calls.pure trivial

theorem harmless_inspectWorkProduct {inspector : Bool} {actionId : UUID} :
    (RunControl.inspectWorkProduct inspector actionId).Calls OutsideCall.Harmless
      fun _ => True := by
  cases inspector with
  | false => exact Proc.Calls.pure trivial
  | true =>
    apply Proc.Calls.handle
    · exact Proc.Calls.seq (Proc.Calls.request trivial fun _ => trivial) fun _ =>
        Proc.Calls.pure trivial
    · intro error
      split_ifs
      · exact Proc.Calls.pure trivial
      · exact Proc.Calls.throw trivial

theorem harmless_statusFromState [PyStd] {inspector : Bool} {state : RunState} :
    (RunControl.statusFromState inspector state).Calls OutsideCall.Harmless fun _ => True := by
  have hrest (workProduct : WorkProductSummary) : (do
      let token ← Proc.ofExcept (RunControl.stateToken state)
      return RunControl.statusOf state token workProduct : Task RunStatus).Calls
        OutsideCall.Harmless fun _ => True :=
    Proc.Calls.seq (Proc.Calls.ofExcept trivial) fun _ => Proc.Calls.pure trivial
  rw [RunControl.statusFromState]
  split_ifs
  · exact Proc.Calls.seq harmless_inspectWorkProduct hrest
  · exact hrest _

theorem harmless_status [PyStd] {inspector : Bool} {actionId : UUID} :
    (RunControl.status inspector actionId).Calls OutsideCall.Harmless fun _ => True :=
  Proc.Calls.seq harmless_getState fun _ => harmless_statusFromState

theorem observing_start {e : ExecutionStart} :
    (durableObserver.start e).Calls OutsideCall.Observing fun _ => True := by
  apply Proc.Calls.seq (m := InMemoryWorkerExecutionObserver.start e)
    (Proc.Calls.seq (Proc.Calls.request trivial fun _ => trivial) fun _ => Proc.Calls.pure trivial)
  intro observation
  split_ifs
  · have hregister : (Repository.registerAction (DurableExecutionObserver.registrationOf e.action) :
        Task RunState).Calls OutsideCall.Observing fun _ => True :=
      calls_stamped trivial fun _ happroved => nomatch happroved
    apply Proc.Calls.seq hregister
    intro state
    split_ifs
    · refine Proc.Calls.seq (calls_stamped trivial fun _ => ?_) fun _ => Proc.Calls.pure trivial
      exact trivial
    · exact Proc.Calls.pure trivial
  · exact Proc.Calls.pure trivial

theorem observing_finish {observation : WorkerExecutionObservation} {e : ExecutionFinish} :
    (durableObserver.finish observation e).Calls OutsideCall.Observing fun _ => True := by
  apply Proc.Calls.seq (Proc.Calls.request trivial fun _ => trivial)
  intro finished
  split_ifs
  · split
    · exact Proc.Calls.throw trivial
    · refine Proc.Calls.seq (calls_stamped trivial fun _ => ?_) fun _ => Proc.Calls.pure trivial
      exact trivial
  · exact Proc.Calls.pure trivial

end Harmless

/-! ### Operations that change a row -/

section Rows

variable [PyStd]

theorem calls_delegate {registry : WorkerExecutorRegistry} {objective target : String} :
    (SoftwareEngineeringTaskIngress.delegate registry askPermission objective target).Calls
      (ServiceOp.delegate objective target).Permits fun _ => True := by
  apply Proc.Calls.seq (Proc.Calls.ofExcept trivial)
  intro request
  apply Proc.Calls.seq (permits_of_calls harmless_delegateTask)
  intro result
  have hregister : (Repository.registerAction
      (SoftwareEngineeringTaskIngress.registrationOf objective target result) :
        Service RunState).Calls (ServiceOp.delegate objective target).Permits fun _ => True :=
    calls_stamped trivial fun _ _ => ⟨objective, target, rfl⟩
  exact Proc.Calls.seq hregister fun _ => Proc.Calls.pure trivial

theorem calls_recordDecision {op : ServiceOp} {persist : String → DateTime → Task RunState}
    {failure : String} {action : Action}
    (hpersist : ∀ objective decidedAt,
      (persist objective decidedAt).Calls op.Permits fun _ => True) :
    (ActionRecovery.recordDecision persist failure action).Calls op.Permits fun _ => True := by
  rw [ActionRecovery.recordDecision]
  split_ifs
  swap
  · exact Proc.Calls.pure trivial
  · apply Proc.Calls.seq (Proc.Calls.ofExcept trivial)
    intro objective
    apply Proc.Calls.seq
    · apply calls_onRunStateError
      apply Proc.Calls.seq (Proc.Calls.request trivial fun _ => trivial)
      intro current
      have hregistration : (ActionRecovery.registrationOf action objective current).approvalStatus ≠
          some .approved := by
        cases current <;> simp [ActionRecovery.registrationOf]
      refine Proc.Calls.seq (calls_stamped trivial fun _ happroved => ?_) fun _ =>
        Proc.Calls.pure trivial
      exact absurd happroved hregistration
    · intro _
      apply Proc.Calls.seq (Proc.Calls.request trivial fun _ => trivial)
      intro decidedAt
      exact Proc.Calls.seq (calls_onRunStateError (hpersist objective decidedAt)) fun _ =>
        Proc.Calls.pure trivial

theorem calls_perform {actionId : UUID} (decision : Decision) :
    (decision.perform actionId).Calls (ServiceOp.decide actionId decision).Permits
      fun _ => True := by
  cases decision with
  | approve =>
    apply Proc.Calls.seq (permits_of_calls harmless_resolvePendingAction)
    intro action
    apply Proc.Calls.seq Proc.Calls.get
    intro s
    apply Proc.Calls.seq (Proc.Calls.ofExcept trivial)
    intro state
    apply Proc.Calls.seq
    · apply Proc.Calls.embed
      apply calls_recordDecision
      intro objective decidedAt
      exact calls_stamped trivial fun _ => ⟨actionId, rfl⟩
    · intro _
      apply Proc.Calls.seq Proc.Calls.modify
      intro _
      apply Proc.Calls.seq Proc.Calls.modify
      intro _
      exact Proc.Calls.seq Proc.Calls.modify fun _ => Proc.Calls.pure trivial
  | reject reason =>
    apply Proc.Calls.seq (permits_of_calls harmless_resolvePendingAction)
    intro action
    apply Proc.Calls.seq Proc.Calls.get
    intro s
    apply Proc.Calls.seq (Proc.Calls.ofExcept trivial)
    intro state
    apply Proc.Calls.seq
    · apply Proc.Calls.embed
      apply calls_recordDecision
      intro objective decidedAt
      exact calls_stamped trivial fun _ => ⟨actionId, reason, rfl⟩
    · intro _
      apply Proc.Calls.seq Proc.Calls.modify
      intro _
      exact Proc.Calls.seq Proc.Calls.modify fun _ => Proc.Calls.pure trivial

variable {inspector : Bool} {actionId : UUID} {resolution : ClaimReconciliation}
  {stateToken : String} {acknowledged : Bool}

/-- A reconciliation releases the claim of its own action only. -/
theorem calls_reconcile :
    (RunControl.reconcile inspector actionId resolution stateToken acknowledged).Calls
      (ServiceOp.reconcile actionId resolution stateToken acknowledged).Permits
      fun _ => True := by
  have hresolve (state : RunState) (updatedAt now : DateTime) :
      (RunControl.resolve inspector actionId resolution acknowledged state updatedAt now).Calls
        (ServiceOp.reconcile actionId resolution stateToken acknowledged).Permits
        fun _ => True := by
    cases resolution with
    | release =>
      apply Proc.Calls.seq (Proc.Calls.ofExcept trivial)
      intro _
      exact Proc.Calls.request ⟨stateToken, acknowledged, rfl⟩ fun _ => trivial
    | abandon =>
      apply Proc.Calls.seq (Proc.Calls.ofExcept trivial)
      intro _
      have hinspect : (RunControl.inspectForAbandon inspector actionId).Calls
          OutsideCall.Harmless fun _ => True := by
        cases inspector with
        | false => exact Proc.Calls.throw trivial
        | true =>
          apply Proc.Calls.handle
          · exact Proc.Calls.seq (Proc.Calls.request trivial fun _ => trivial) fun _ =>
              Proc.Calls.pure trivial
          · intro error
            split_ifs
            · exact Proc.Calls.pure trivial
            · exact Proc.Calls.throw trivial
      apply Proc.Calls.seq (permits_of_calls hinspect)
      intro _
      exact Proc.Calls.request ⟨stateToken, acknowledged, rfl⟩ fun _ => trivial
  apply Proc.Calls.seq (permits_of_calls harmless_getState)
  intro state
  apply Proc.Calls.seq (Proc.Calls.ofExcept trivial)
  intro current
  apply Proc.Calls.seq (Proc.Calls.ofExcept trivial)
  intro _
  split
  · exact Proc.Calls.throw trivial
  · refine Proc.Calls.seq (Proc.Calls.request trivial fun _ => trivial) fun now => ?_
    apply Proc.Calls.seq (calls_onRunStateError (hresolve state _ now))
    intro updated
    exact permits_of_calls harmless_statusFromState

theorem calls_applyDisposition {workProducts : Bool} {disposition : WorkProductDisposition} :
    (WorkProductDispositionService.apply workProducts actionId disposition).Calls
      (ServiceOp.dispose actionId disposition).Permits fun _ => True := by
  apply Proc.Calls.seq (Proc.Calls.request trivial fun _ => trivial)
  rintro (_ | state)
  · exact Proc.Calls.throw trivial
  · apply Proc.Calls.seq (Proc.Calls.ofExcept trivial)
    intro _
    apply Proc.Calls.seq (Proc.Calls.ofExcept trivial)
    intro _
    apply Proc.Calls.seq (Proc.Calls.ofExcept trivial)
    intro _
    apply Proc.Calls.seq
    · refine Proc.Calls.handle (Proc.Calls.request rfl fun _ => trivial) fun error => ?_
      split_ifs <;> exact Proc.Calls.throw trivial
    · intro result
      split_ifs
      · refine Proc.Calls.seq (calls_stamped trivial fun _ => ?_) fun _ => Proc.Calls.pure trivial
        exact ⟨actionId, disposition, rfl⟩
      · exact Proc.Calls.pure trivial

theorem calls_publish {configuration : SoftwareEngineeringPromotionService.Configuration}
    {title body : String} :
    (SoftwareEngineeringPromotionService.promote configuration actionId title body).Calls
      (ServiceOp.promote actionId title body).Permits fun _ => True := by
  apply Proc.Calls.seq (Proc.Calls.ofExcept trivial)
  intro _
  apply Proc.Calls.seq (Proc.Calls.request trivial fun _ => trivial)
  rintro (_ | state)
  · exact Proc.Calls.throw trivial
  · apply Proc.Calls.seq (Proc.Calls.ofExcept trivial)
    intro _
    apply Proc.Calls.seq (Proc.Calls.ofExcept trivial)
    intro _
    split_ifs
    · exact Proc.Calls.ofExcept trivial
    · refine Proc.Calls.seq (Proc.Calls.request rfl fun _ => trivial) fun publication => ?_
      apply Proc.Calls.seq (Proc.Calls.request trivial fun _ => trivial)
      intro finishedAt
      refine Proc.Calls.seq (calls_stamped trivial fun _ => ?_) fun _ => Proc.Calls.pure trivial
      exact ⟨title, body, rfl⟩

end Rows

end Velox
