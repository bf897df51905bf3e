import Velox.Lib.Run
import Velox.System.Container

/-!
# Nothing runs without permission

In one process, an executor that is registered for a capability is only invoked for
a capability on the safe list, or for an action that was approved before; and never
for an action that was rejected before.

Permission is judged on the type of an action, routing goes by its payload. Both
agree for every action that is planned or delegated, and every other way into the
queue goes through an approval.

## Main definitions

* `Observed` — a process, with the actions that were approved and rejected so far
* `Authorised` — an invocation that is permitted
* `ApprovalInv` — queue, registry, lifecycle and rows agree with what was decided

## Main results

* `approvalInv_observe` — every operation keeps the invariant
* `executions_authorised` — every invocation of every run is permitted
-/

set_option autoImplicit false

namespace Velox

/-! ### Calls that invoke executors only as permitted -/

/-- Executors are invoked only as `A` permits. -/
def InvokesOnly {W : Type} (A : Execution → Prop) (c : OutsideCall) (_ : W) : Prop :=
  ∀ execution, c = .execute execution → A execution

theorem permitsQuiet_invokesOnly {W : Type} (A : Execution → Prop) :
    PermitsQuiet (InvokesOnly A : OutsideCall → W → Prop) := by
  rintro c w hquiet execution rfl
  exact hquiet.elim

section Invocations

variable {R : RunRepository} {env : Environment} {A : Execution → Prop} {α : Type}

/-- What was invoked since a given world satisfies `A`. -/
def InvokedSince (A : Execution → Prop) (w w' : World R) : Prop :=
  ∃ new, w'.executions = w.executions ++ new ∧ ∀ execution ∈ new, A execution

theorem invokedSince_outside {c : OutsideCall} {w w' : World R} (hc : InvokesOnly A c w')
    (h : InvokedSince A w w') : InvokedSince A w (outside env R c w').2 := by
  obtain ⟨new, hnew, hA⟩ := h
  by_cases hexecute : ∃ execution, c = .execute execution
  · obtain ⟨execution, rfl⟩ := hexecute
    refine ⟨new ++ [execution], ?_, ?_⟩
    · simp [outside, hnew]
    · intro execution' hmem
      rcases List.mem_append.mp hmem with hmem | hmem
      · exact hA _ hmem
      · rw [List.mem_singleton.mp hmem]
        exact hc _ rfl
  · refine ⟨new, ?_, hA⟩
    rw [← hnew]
    cases c <;> first | exact absurd ⟨_, rfl⟩ hexecute | simp [outside, World.executions]

/-- A method that invokes executors only as permitted. -/
theorem attempt_of_invokesOnly {m : Service α} {x : Site R} {Q : Bool → Stores → World R → Prop}
    (h : m.Ensures (outside env R) (InvokesOnly A) (fun r s w => Q r.raised s w) x.stores x.world) :
    InvokedSince A x.world (x.attempt env m.discard).2.world ∧
      Q (x.attempt env m.discard).1 (x.attempt env m.discard).2.stores
        (x.attempt env m.discard).2.world := by
  have hdiscard : m.discard.Ensures (outside env R) (InvokesOnly A) (fun r s w => Q r.raised s w)
      x.stores x.world := by
    rw [Proc.ensures_discard]
    refine h.mono fun r s w hQ => ?_
    cases r <;> exact hQ
  have hboth := Prog.Always.keeps (I := fun w => InvokedSince A x.world w)
    (fun c w hc hw => invokedSince_outside hc hw) hdiscard ⟨[], by simp, by simp⟩
  exact hboth.run

end Invocations

/-! ### Type and capability of new actions -/

section Capability

variable [PyStd]

theorem casefold_plannedType {type : String} (h : type ∈ EventWorkflowService.plannedTypes) :
    normalizeIdentifier (some (.str type)) = type ∧ type ≠ "" := by
  have hplain : ∀ t ∈ EventWorkflowService.plannedTypes, Python.strip t = t ∧ t ≠ "" ∧
      t.toList.all fun c => ('a' ≤ c ∧ c ≤ 'z') ∨ c = '.' ∨ c = '_' := by decide
  obtain ⟨hstrip, hne, hidentifier⟩ := hplain type h
  refine ⟨?_, hne⟩
  rw [normalizeIdentifier, hstrip]
  exact PyStd.casefold_identifier type hidentifier

/-- The capability of a planned action is its type. -/
theorem capabilityForAction_plannedAction {processedEvent : ProcessedEvent} {type : String}
    {id : UUID} {dump : Value} (h : type ∈ EventWorkflowService.plannedTypes) :
    (capabilityForAction (PermissionEngineRuntime.withDecision
      (BasePlanner.plannedAction processedEvent type id) dump)).value = some type := by
  obtain ⟨hnormal, hne⟩ := casefold_plannedType h
  have hpayload : (BasePlanner.plannedAction processedEvent type id).payload.contains "capability" =
      false := by
    refine OrderedDict.contains_ofList_of_notMem ?_
    rw [List.map_append, List.mem_append, not_or]
    constructor
    · split_ifs
      · rcases processedEvent.event.payload.get "calendar_event_id" with _ | value <;> simp
      · simp
    · rcases processedEvent.integrationRoute with _ | route <;> simp
  have hmetadata : (PermissionEngineRuntime.withDecision
      (BasePlanner.plannedAction processedEvent type id) dump).metadata.contains "capability" =
      false := by
    refine (OrderedDict.contains_set_of_ne (by decide)).trans ?_
    exact OrderedDict.contains_ofList_of_notMem (by simp)
  rw [capabilityForAction, if_neg (by simpa [PermissionEngineRuntime.withDecision] using hpayload),
    if_neg (by simpa using hmetadata)]
  show orNone (normalizeIdentifier (some (.str type))) = some type
  rw [hnormal, orNone, if_neg hne]

/-- The capability of a delegated action is its type. -/
theorem capabilityForAction_actionFor (request : TaskDelegationRequest) (id : UUID) (dump : Value) :
    (capabilityForAction (PermissionEngineRuntime.withDecision
      (ActionTaskDelegator.actionFor request id) dump)).value = some request.capability := by
  have hget : (ActionTaskDelegator.actionFor request id).payload.get "capability" =
      some (.str request.capability) := by
    rcases request with ⟨objective, target, role, capability, account, checked⟩
    rcases account with _ | account <;> rfl
  have hne : request.capability ≠ "" := request.capability_ne_empty
  rw [capabilityForAction, if_pos (by simp [PermissionEngineRuntime.withDecision,
    OrderedDict.contains, hget])]
  show orNone (normalizeIdentifier ((ActionTaskDelegator.actionFor request id).payload.get
    "capability")) = _
  rw [hget, normalizeIdentifier, request.capability_canonical, orNone, if_neg hne]

end Capability

/-! ### The invariant -/

section Invariant

variable [PyStd] {R : RunRepository} {env : Environment}

/-- The action was approved, or asks for a capability on the safe list. -/
def Cleared (approved : List UUID) (action : Action) : Prop :=
  action.id ∈ approved ∨
    ∃ capability ∈ BasePermissionEngine.safeActionTypes,
      (capabilityForAction action).value = some capability

/-- A permitted invocation: a registered executor for a safe capability or an
approved action, and no executor for a rejected one. -/
def Authorised (approved rejected : List UUID) (execution : Execution) : Prop :=
  (∀ capability, execution.capability = some capability →
    capability ∈ BasePermissionEngine.safeActionTypes ∨ execution.action.id ∈ approved) ∧
    execution.action.id ∉ rejected

/-- Queue, registry, rows and lifecycle agree with what was approved and rejected. -/
structure ApprovalInv (approved rejected : List UUID) (s : Stores) (w : World R) : Prop where
  queue : ∀ action ∈ s.actionQueue, action.id < w.nextId ∧ Cleared approved action
  pending : ∀ id action, s.pendingApprovals.get id = some action → action.id = id ∧ id < w.nextId
  row : ∀ id row, w.row id = some row →
    id < w.nextId ∧ (row.approvalStatus = some .approved → id ∈ approved)
  rejected : ∀ id ∈ rejected, id < w.nextId ∧
    ∃ state, s.lifecycle.get id = some state ∧ state.status = .rejected

variable {approved rejected : List UUID} {s s' : Stores} {w w' : World R} {id : UUID}

theorem Cleared.mono {action : Action} (h : Cleared approved action) (ids : List UUID) :
    Cleared (approved ++ ids) action :=
  h.imp_left fun hmem => List.mem_append_left ids hmem

/-- The invariant says nothing about the rest of the stores. -/
theorem ApprovalInv.of_stores (h : ApprovalInv approved rejected s w)
    (hqueue : ∀ action ∈ s'.actionQueue, action ∈ s.actionQueue)
    (hpending : s'.pendingApprovals = s.pendingApprovals) (hlifecycle : s'.lifecycle = s.lifecycle) :
    ApprovalInv approved rejected s' w where
  queue action hmem := h.queue action (hqueue action hmem)
  pending := hpending ▸ h.pending
  row := h.row
  rejected := hlifecycle ▸ h.rejected

/-- An invariant of the rows before is one of the rows after, where nothing was
approved. -/
theorem ApprovalInv.of_approvalsKept (h : ApprovalInv approved rejected s w)
    (hw : ApprovalsKept w w' id) (hid : id < w.nextId) : ApprovalInv approved rejected s w' where
  queue action hmem := ⟨(h.queue action hmem).1.trans_le hw.nextId, (h.queue action hmem).2⟩
  pending id action hget :=
    ⟨(h.pending id action hget).1, (h.pending id action hget).2.trans_le hw.nextId⟩
  row id' row' hrow' := by
    by_cases hne : id' = id
    · subst hne
      refine ⟨hid.trans_le hw.nextId, fun happroved => ?_⟩
      obtain ⟨row, hrow, happroved'⟩ := hw.approved row' hrow' happroved
      exact (h.row id' row hrow).2 happroved'
    · rw [hw.other id' hne] at hrow'
      exact ⟨(h.row id' row' hrow').1.trans_le hw.nextId, (h.row id' row' hrow').2⟩
  rejected id hmem := ⟨(h.rejected id hmem).1.trans_le hw.nextId, (h.rejected id hmem).2⟩

theorem ApprovalInv.of_updatedFrom (h : ApprovalInv approved rejected s w)
    (hw : w'.UpdatedFrom w w.row) : ApprovalInv approved rejected s w' where
  queue action hmem := ⟨(h.queue action hmem).1.trans_le hw.nextId, (h.queue action hmem).2⟩
  pending id action hget :=
    ⟨(h.pending id action hget).1, (h.pending id action hget).2.trans_le hw.nextId⟩
  row id row hrow := by
    rw [hw.row] at hrow
    exact ⟨(h.row id row hrow).1.trans_le hw.nextId, (h.row id row hrow).2⟩
  rejected id hmem := ⟨(h.rejected id hmem).1.trans_le hw.nextId, (h.rejected id hmem).2⟩

/-- The lifecycle state of an action that was not rejected may change. -/
theorem ApprovalInv.setLifecycle {state : ActionLifecycleState}
    (h : ApprovalInv approved rejected s w) (hid : id ∉ rejected) :
    ApprovalInv approved rejected (s.setLifecycle id state) w where
  queue := h.queue
  pending := h.pending
  row := h.row
  rejected id' hmem := by
    obtain ⟨hlt, state', hstate', hstatus⟩ := h.rejected id' hmem
    have hne : id' ≠ id := fun heq => hid (heq ▸ hmem)
    refine ⟨hlt, state', ?_, hstatus⟩
    rw [Stores.lifecycle_setLifecycle, OrderedDict.get_set_of_ne hne, hstate']

theorem ApprovalInv.enqueue {action : Action} (h : ApprovalInv approved rejected s w)
    (hid : action.id < w.nextId) (hcleared : Cleared approved action) :
    ApprovalInv approved rejected (s.enqueue action) w where
  queue action' hmem := by
    rcases List.mem_append.mp hmem with hmem | hmem
    · exact h.queue action' hmem
    · rw [List.mem_singleton.mp hmem]
      exact ⟨hid, hcleared⟩
  pending := h.pending
  row := h.row
  rejected := h.rejected

theorem ApprovalInv.addPending {action : Action} (h : ApprovalInv approved rejected s w)
    (hid : action.id < w.nextId) : ApprovalInv approved rejected (s.addPending action) w where
  queue := h.queue
  pending id action' hget := by
    rw [Stores.pendingApprovals_addPending, OrderedDict.get_set] at hget
    split_ifs at hget with heq
    · obtain rfl := Option.some.inj hget
      exact ⟨heq.symm, heq ▸ hid⟩
    · exact h.pending id action' hget
  row := h.row
  rejected := h.rejected

theorem ApprovalInv.removePending (h : ApprovalInv approved rejected s w) :
    ApprovalInv approved rejected (s.removePending id) w where
  queue := h.queue
  pending id' action hget := by
    rw [Stores.pendingApprovals_removePending, OrderedDict.get_erase] at hget
    split_ifs at hget
    exact h.pending id' action hget
  row := h.row
  rejected := h.rejected

theorem ApprovalInv.updateRow {row : RunState} (h : ApprovalInv approved rejected s w)
    (hw : w'.UpdatedFrom w (Function.update w.row id (some row))) (hid : id < w'.nextId)
    (happroved : row.approvalStatus = some .approved → id ∈ approved) :
    ApprovalInv approved rejected s w' where
  queue action hmem := ⟨(h.queue action hmem).1.trans_le hw.nextId, (h.queue action hmem).2⟩
  pending id action hget :=
    ⟨(h.pending id action hget).1, (h.pending id action hget).2.trans_le hw.nextId⟩
  row id' row' hrow' := by
    by_cases hne : id' = id
    · subst hne
      obtain rfl : row = row' := Option.some.inj (hw.row_self.symm.trans hrow')
      exact ⟨hid, happroved⟩
    · rw [hw.row_of_ne hne] at hrow'
      exact ⟨(h.row id' row' hrow').1.trans_le hw.nextId, (h.row id' row' hrow').2⟩
  rejected id hmem := ⟨(h.rejected id hmem).1.trans_le hw.nextId, (h.rejected id hmem).2⟩

/-! ### New actions -/

/-- What the default engine decides. -/
abbrev BaseDecision (action : Action) (decision : PermissionDecision) : Prop :=
  decision = BasePermissionEngine.evaluate action

omit [PyStd] in
theorem type_mem_of_allowed {action : Action} {decision : PermissionDecision}
    (hdecision : decision = PermissionEngineRuntime.deniedByDefault ∨ BaseDecision action decision)
    (hallowed : decision.status = .allowed) : action.type ∈ BasePermissionEngine.safeActionTypes := by
  rcases hdecision with rfl | rfl
  · cases hallowed
  · by_contra hunsafe
    rw [BasePermissionEngine.evaluate, if_neg hunsafe] at hallowed
    cases hallowed

/-- Evaluating a new action whose capability is its type queues it only where that
is safe. -/
theorem ApprovalInv.placed {action : Action} (h : ApprovalInv approved rejected s w)
    (hid : action.id < w.nextId) (hnew : action.id ∉ rejected)
    (hcapability : ∀ dump, (capabilityForAction
      (PermissionEngineRuntime.withDecision action dump)).value = some action.type)
    (hplaced : PermissionEngineRuntime.Placed BaseDecision s action s') :
    ApprovalInv approved rejected s' w := by
  cases hplaced with
  | unchanged => exact h
  | unserializable e decision hdecision hdump => exact h.setLifecycle hnew
  | decided decision dump hdecision =>
    have hdecided : ApprovalInv approved rejected
        (PermissionEngineRuntime.decidedStores s action decision dump) w := by
      unfold PermissionEngineRuntime.decidedStores
      split_ifs
      · exact (h.setLifecycle hnew).addPending hid
      · exact h.setLifecycle hnew
    unfold PermissionEngineRuntime.placedStores
    split_ifs with hallowed
    · exact hdecided.enqueue hid
        (Or.inr ⟨action.type, type_mem_of_allowed hdecision hallowed, hcapability dump⟩)
    · exact hdecided

/-! ### Decisions -/

theorem ApprovalInv.approve (h : ApprovalInv approved rejected s w) (ids : List UUID) :
    ApprovalInv (approved ++ ids) rejected s w where
  queue action hmem := ⟨(h.queue action hmem).1, (h.queue action hmem).2.mono ids⟩
  pending := h.pending
  row id row hrow :=
    ⟨(h.row id row hrow).1, fun hrowApproved => List.mem_append_left ids ((h.row id row hrow).2 hrowApproved)⟩
  rejected := h.rejected

theorem ApprovalInv.reject {state : ActionLifecycleState} (h : ApprovalInv approved rejected s w)
    (hid : id < w.nextId) (hstatus : state.status = .rejected) :
    ApprovalInv approved (rejected ++ [id]) (s.setLifecycle id state) w where
  queue := h.queue
  pending := h.pending
  row := h.row
  rejected id' hmem := by
    rw [Stores.lifecycle_setLifecycle, OrderedDict.get_set]
    split_ifs with heq
    · exact ⟨heq ▸ hid, state, rfl, hstatus⟩
    · rcases List.mem_append.mp hmem with hmem | hmem
      · exact h.rejected id' hmem
      · exact absurd (List.mem_singleton.mp hmem) heq

theorem ApprovalInv.resolved {action : Action} (h : ApprovalInv approved rejected s w)
    (hresolved : Decision.Resolved s w id action) : action.id = id ∧ id < w.nextId := by
  cases hresolved with
  | held action hheld => exact h.pending id action hheld
  | recovered row objective hheld hrow => exact ⟨rfl, (h.row id row hrow).1⟩

/-- Only an action that was not rejected is decided about. -/
theorem ApprovalInv.not_rejected (h : ApprovalInv approved rejected s w)
    (hstatus : ((s.lifecycle.get id).getD awaitingApprovalState).status = .queued) :
    id ∉ rejected := by
  intro hmem
  obtain ⟨-, state, hstate, hrejected⟩ := h.rejected id hmem
  rw [hstate, Option.getD_some, hrejected] at hstatus
  cases hstatus

/-- Recording a decision approves a row only where the decision is an approval. -/
theorem ApprovalInv.recorded {d : Decision} {action : Action} {r : Except Raised Unit}
    (h : ApprovalInv approved rejected s w) (hid : action.id < w.nextId)
    (hrecorded : ActionRecovery.Recorded w action (d.write action.id) r w') :
    ApprovalInv approved rejected s w' ∨
      r = .ok () ∧ d = .approve ∧ ApprovalInv (approved ++ [action.id]) rejected s w' := by
  cases hrecorded with
  | skipped => exact Or.inl h
  | refused e w' hwhy hw' => exact Or.inl (h.of_updatedFrom hw')
  | registered e now now' decidedAt objective state w' hcanonical hobjective hregister hwhy hw' =>
    refine Or.inl (h.updateRow hw' (hid.trans_le hw'.nextId) fun happroved => ?_)
    obtain ⟨row, hrow, hrowApproved⟩ := ActionRecovery.approvalStatus_of_register hregister happroved
    exact (h.row action.id row hrow).2 hrowApproved
  | recorded now now' decidedAt objective state state' w' hcanonical hobjective hregister hdecide hw' =>
    cases d with
    | approve =>
      exact Or.inr ⟨rfl, rfl, (h.approve [action.id]).updateRow hw' (hid.trans_le hw'.nextId)
        fun _ => by simp⟩
    | reject reason =>
      refine Or.inl (h.updateRow hw' (hid.trans_le hw'.nextId) fun happroved => ?_)
      obtain ⟨row, -, -, -, rfl⟩ := recordRejection_eq_ok_iff.mp hdecide
      cases happroved

/-- The ids approved, or rejected, by a decision that succeeded. -/
def Decision.approvedIds (id : UUID) : Decision → List UUID
  | .approve => [id]
  | .reject _ => []

/-- The ids rejected by a decision that succeeded. -/
def Decision.rejectedIds (id : UUID) : Decision → List UUID
  | .approve => []
  | .reject _ => [id]

/-- A decision keeps the invariant, with what it decided where it succeeds. -/
theorem ApprovalInv.decided {d : Decision} {r : Except Raised ActionLifecycleState}
    (h : ApprovalInv approved rejected s w) (hdecided : d.Decided s w id r s' w') :
    ApprovalInv (approved ++ if r.raised then [] else d.approvedIds id)
      (rejected ++ if r.raised then [] else d.rejectedIds id) s' w' := by
  cases hdecided with
  | unresolved e => simpa using h
  | unrecorded action state e w' hresolved htransition hrecorded =>
    obtain ⟨hkey, hid⟩ := h.resolved hresolved
    rcases h.recorded (hkey ▸ hid) hrecorded with hinv | ⟨hok, -⟩
    · simpa using hinv
    · cases hok
  | decided action state w' hresolved htransition hrecorded =>
    obtain ⟨rfl, hid⟩ := h.resolved hresolved
    obtain ⟨hqueued, hstatus, -⟩ := Decision.transition_eq_ok htransition
    have hnot : action.id ∉ rejected := h.not_rejected hqueued
    have hle : w.nextId ≤ w'.nextId := by
      cases hrecorded with
      | skipped => exact le_refl _
      | recorded now now' decidedAt objective state state' w' _ _ _ _ hw' => exact hw'.nextId
    have hid' : action.id < w'.nextId := hid.trans_le hle
    cases d with
    | approve =>
      have hinv : ApprovalInv (approved ++ [action.id]) rejected s w' := by
        rcases h.recorded hid hrecorded with hinv | ⟨-, -, hinv⟩
        · exact hinv.approve [action.id]
        · exact hinv
      simpa [Decision.approvedIds, Decision.rejectedIds, Decision.settle] using
        ((hinv.setLifecycle hnot).removePending).enqueue hid' (Or.inl (by simp))
    | reject reason =>
      have hinv : ApprovalInv approved rejected s w' := by
        rcases h.recorded hid hrecorded with hinv | ⟨-, hd, -⟩
        · exact hinv
        · cases hd
      simpa [Decision.approvedIds, Decision.rejectedIds, Decision.settle] using
        (hinv.reject hid' hstatus).removePending

/-! ### Processing and executing -/

/-- The runtime of a process with the durable observer. -/
abbrev durableRuntime (registry : WorkerExecutorRegistry) (maxTransientRetries : Int) :
    WorkerRuntime where
  executorRegistry := registry
  executionObserver := durableObserver
  maxTransientRetries

section Execute

variable {registry : WorkerExecutorRegistry} {maxTransientRetries : Int} {action : Action}

/-- The invocation of a cleared action that was not rejected is permitted. -/
theorem authorised_execution {executor : ℕ} (hcleared : Cleared approved action)
    (hnot : action.id ∉ rejected) :
    Authorised approved rejected
      ((registry.resolveWithRegistration action).execution executor action) := by
  refine ⟨fun capability hcapability => ?_, hnot⟩
  simp only [WorkerExecutorResolution.execution] at hcapability
  split_ifs at hcapability with hregistered
  rw [registry.requestedCapability_of_registered hregistered] at hcapability
  rcases hcleared with hmem | ⟨safe, hsafe, hvalue⟩
  · exact Or.inr hmem
  · rw [hvalue] at hcapability
    rw [← Option.some.inj hcapability]
    exact Or.inl hsafe

theorem ApprovalInv.stored {executing : ActionLifecycleState} {result : WorkerExecutionResult}
    (h : ApprovalInv approved rejected s w) (hid : action.id < w.nextId)
    (hcleared : Cleared approved action) (hnot : action.id ∉ rejected)
    (hstored : WorkerRuntime.Stored maxTransientRetries s action executing result s') :
    ApprovalInv approved rejected s' w := by
  cases hstored with
  | terminal => exact h.setLifecycle hnot
  | retried retryCount hcategory =>
    exact ((h.setLifecycle hnot).setLifecycle hnot).enqueue hid hcleared

theorem ApprovalInv.executed {resolution : WorkerExecutorResolution}
    {executing : ActionLifecycleState} (h : ApprovalInv approved rejected s w)
    (hid : action.id < w.nextId) (hcleared : Cleared approved action) (hnot : action.id ∉ rejected)
    (hexecuted : DurableExecutionObserver.Executed env maxTransientRetries resolution action executing
      s w s' w') : ApprovalInv approved rejected s' w' := by
  have hkept := hexecuted.approvalsKept
  have hrows : ApprovalInv approved rejected s w' := h.of_approvalsKept hkept hid
  cases hexecuted with
  | unstarted => exact hrows
  | aborted => exact hrows
  | unfinished => exact hrows
  | finished observation observation' result s' w₁ w₂ w' hstarted hinvoked hfinished hstored =>
    exact hrows.stored (hid.trans_le hkept.nextId) hcleared hnot hstored

theorem approvalInv_processDequeuedAction (h : ApprovalInv approved rejected s w)
    (hid : action.id < w.nextId) (hcleared : Cleared approved action) :
    ((durableRuntime registry maxTransientRetries).processDequeuedAction action).Ensures
      (outside env R) (InvokesOnly (Authorised approved rejected))
      (fun _ s w => ApprovalInv approved rejected s w) s w := by
  rw [WorkerRuntime.ensures_processDequeuedAction rfl]
  split_ifs with hawaits hexecutable
  · exact h.enqueue hid hcleared
  · have hnot : action.id ∉ rejected := by
      intro hmem
      obtain ⟨-, state, hstate, hstatus⟩ := h.rejected action.id hmem
      rw [hstate, Option.getD_some, hstatus] at hexecutable
      rcases hexecutable with heq | heq <;> cases heq
    exact DurableExecutionObserver.ensures_executeAction rfl rfl (permitsQuiet_invokesOnly _)
      (fun _ _ _ _ hcall => nomatch hcall) (fun _ _ _ _ _ _ _ _ _ _ hcall => nomatch hcall)
      (fun _ _ _ _ _ _ hcall => by
        cases hcall
        exact authorised_execution hcleared hnot)
      (fun _ _ _ _ _ _ _ _ _ _ _ _ hcall => nomatch hcall)
      fun _ _ _ hexecuted => (h.setLifecycle hnot).executed hid hcleared hnot hexecuted
  · exact h

theorem approvalInv_processNext (h : ApprovalInv approved rejected s w) :
    (durableRuntime registry maxTransientRetries).processNext.Ensures (outside env R)
      (InvokesOnly (Authorised approved rejected)) (fun _ s w => ApprovalInv approved rejected s w)
      s w := by
  rw [WorkerRuntime.ensures_processNext]
  split
  · exact h
  · rename_i action rest hqueue
    obtain ⟨hid, hcleared⟩ := h.queue action (by simp [hqueue])
    exact approvalInv_processDequeuedAction
      (h.of_stores (fun a hmem => by simp [hqueue, show a ∈ rest from hmem]) rfl rfl) hid hcleared

theorem approvalInv_processAction (h : ApprovalInv approved rejected s w) :
    ((durableRuntime registry maxTransientRetries).processAction id).Ensures (outside env R)
      (InvokesOnly (Authorised approved rejected)) (fun _ s w => ApprovalInv approved rejected s w)
      s w := by
  rw [WorkerRuntime.ensures_processAction]
  split
  · exact h
  · rename_i action hget
    obtain ⟨hid, hcleared⟩ := h.queue action (ActionQueue.mem_of_get hget)
    split_ifs with hawaits
    · obtain ⟨state, hstate, -⟩ := hawaits
      exact ⟨state, hstate, h⟩
    · exact approvalInv_processDequeuedAction
        (h.of_stores (fun _ hmem => ActionQueue.mem_of_mem_remove hmem) rfl rfl) hid hcleared

/-- Bringing the stores in line with a claim queues only an approved action. -/
theorem ApprovalInv.adopted {recovered : Action} (h : ApprovalInv approved rejected s w)
    (hrecovered : recovered.id = id) (hid : id < w.nextId) (happroved : id ∈ approved)
    (hnot : id ∉ rejected) :
    ApprovalInv approved rejected (SoftwareEngineeringTaskContinuation.adopted s id recovered) w := by
  have hqueue : ApprovalInv approved rejected
      (if (s.actionQueue.get id).isNone then s.enqueue recovered else s) w := by
    split_ifs
    · exact h.enqueue (hrecovered ▸ hid) (Or.inl (hrecovered ▸ happroved))
    · exact h
  unfold SoftwareEngineeringTaskContinuation.adopted
  dsimp only
  by_cases hall : (s.lifecycle.get id).all (·.status = .queued) = true
  · rw [if_pos hall]
    exact hqueue.setLifecycle hnot
  · rw [if_neg hall]
    exact hqueue

theorem approvalInv_execute {reviewer : Bool} (h : ApprovalInv approved rejected s w) :
    (SoftwareEngineeringTaskContinuation.execute (durableRuntime registry maxTransientRetries) reviewer
      id).Ensures (outside env R) (InvokesOnly (Authorised approved rejected))
      (fun _ s w => ApprovalInv approved rejected s w) s w := by
  rw [SoftwareEngineeringTaskContinuation.ensures_execute]
  split_ifs with hstatus hroute
  · exact h
  · exact h
  refine SoftwareEngineeringTaskContinuation.ensures_claimForExecution (permitsQuiet_invokesOnly _)
    (fun _ _ _ _ hcall => nomatch hcall) (fun row objective now w₁ hrow hclaimable hw₁ => ?_)
    fun e w₁ _ hw₁ => h.of_updatedFrom hw₁
  have hid : id < w.nextId := (h.row id row hrow).1
  have happroved : id ∈ approved := (h.row id row hrow).2 hclaimable.approved
  have hw₁' : w₁.UpdatedFrom w (Function.update w.row id (some (row.claimed w.nextId now))) :=
    hw₁.trans (World.updatedFrom_draw w)
  have h₁ : ApprovalInv approved rejected s w₁ :=
    h.updateRow hw₁' (hid.trans_le hw₁'.nextId) fun _ => happroved
  have hnot : id ∉ rejected := by
    intro hmem
    obtain ⟨-, state, hstate, hrejected⟩ := h.rejected id hmem
    exact hstatus ⟨state, hstate, by simp [hrejected]⟩
  exact SoftwareEngineeringTaskContinuation.ensures_continueClaimed (permitsQuiet_invokesOnly _)
    (fun _ _ _ hw hinv => hinv.of_updatedFrom hw) h₁
    fun _ => approvalInv_processAction (h₁.adopted rfl (hid.trans_le hw₁'.nextId) happroved hnot)

end Execute

omit [PyStd] in
/-- The default engine never allows a coding task without approval. -/
theorem base_not_allowed (action : Action) {decision : PermissionDecision}
    (htype : action.type = SOFTWARE_ENGINEERING_IMPLEMENT_CAPABILITY)
    (hdecision : decision = PermissionEngineRuntime.deniedByDefault ∨ BaseDecision action decision) :
    decision.status ≠ .allowed := by
  intro hallowed
  have hmem := type_mem_of_allowed hdecision hallowed
  rw [htype] at hmem
  exact absurd hmem (by decide)

/-- A delegated coding task is registered as awaiting approval or not at all. -/
theorem not_approved_of_delegated {registry : WorkerExecutorRegistry}
    {request : TaskDelegationRequest} {result : TaskDelegationResult} {objective target : String}
    {text : Option String} {now : DateTime}
    (hrequest : SoftwareEngineeringTaskIngress.Requests objective target request)
    (hdelegated : ActionTaskDelegator.Delegated registry BaseDecision s
      (ActionTaskDelegator.actionFor request id) (.ok result) s') :
    ((SoftwareEngineeringTaskIngress.registrationOf objective target result).newState text
      now).approvalStatus ≠ some .approved := by
  have hstatus : result.status ≠ .queued := by
    cases hdelegated with
    | routeRejected => exact fun h => nomatch h
    | decided decision dump reason hroute hdecision =>
      have htype := (TaskDelegationRequest.create_eq_ok_iff.mp hrequest).2.2.2.1
      have hnot := base_not_allowed (ActionTaskDelegator.actionFor request id) htype hdecision
      rcases hdecided : decision.status with _ | _ | _
      · exact absurd hdecided hnot
      · exact fun h => nomatch h
      · exact fun h => nomatch h
  intro happroved
  cases hresult : result.status <;>
    simp_all [Registration.newState, SoftwareEngineeringTaskIngress.registrationOf]

/-- Delegating a task keeps the invariant, whatever becomes of it. -/
theorem ApprovalInv.delegated {registry : WorkerExecutorRegistry} {request : TaskDelegationRequest}
    {r : Except Raised TaskDelegationResult} (h : ApprovalInv approved rejected s w)
    (hw : w'.UpdatedFrom w.draw w.row)
    (hdelegated : ActionTaskDelegator.Delegated registry BaseDecision s
      (ActionTaskDelegator.actionFor request w.nextId) r s') :
    ApprovalInv approved rejected s' w' := by
  have hnew : w.nextId ∉ rejected := fun hmem => lt_irrefl _ (h.rejected _ hmem).1
  have hlt : w.nextId < w'.nextId := hw.nextId
  exact (h.of_updatedFrom (hw.trans (World.updatedFrom_draw w))).placed hlt hnew
    (capabilityForAction_actionFor request w.nextId) hdelegated.placed

end Invariant

/-! ### Runs -/

/-- A process, with the actions that were approved and rejected so far. -/
structure Observed (R : RunRepository) where
  site : Site R
  approved : List UUID := []
  rejected : List UUID := []

section Runs

variable [PyStd] {R : RunRepository}

/-- The process with the default engine and the durable observer. -/
def Container.default (registry : WorkerExecutorRegistry) (maxTransientRetries : Int)
    (reviewer : Bool) : Container where
  executorRegistry := registry
  permissionEngine := BasePermissionEngine.engine
  executionObserver := durableObserver
  maxTransientRetries
  reviewer

/-- The ids an operation approves where it succeeds. -/
def ContainerOp.approvedIds : ContainerOp → List UUID
  | .decide id d => d.approvedIds id
  | _ => []

/-- The ids an operation rejects where it succeeds. -/
def ContainerOp.rejectedIds : ContainerOp → List UUID
  | .decide id d => d.rejectedIds id
  | _ => []

/-- An operation of the process, with what it decided. -/
def observe (env : Environment) (c : Container) (x : Observed R) (op : ContainerOp) : Observed R :=
  let outcome := c.step env x.site op
  { site := outcome.2
    approved := x.approved ++ if outcome.1 then [] else op.approvedIds
    rejected := x.rejected ++ if outcome.1 then [] else op.rejectedIds }

/-- The invariant of an observed process. -/
def Observed.Inv (x : Observed R) : Prop :=
  ApprovalInv x.approved x.rejected x.site.stores x.site.world

variable {env : Environment} {registry : WorkerExecutorRegistry} {maxTransientRetries : Int}
  {reviewer : Bool} {x : Observed R} {op : ContainerOp}

/-- What every method of the process ensures. -/
abbrev KeepsApprovals (env : Environment) (approved rejected : List UUID) {α : Type} (m : Service α)
    (s : Stores) (w : World R) : Prop :=
  m.Ensures (outside env R) (InvokesOnly (Authorised approved rejected))
    (fun _ s w => ApprovalInv approved rejected s w) s w

section Methods

variable {approved rejected : List UUID} {s : Stores} {w : World R}

theorem keepsApprovals_accept (h : ApprovalInv approved rejected s w) (event : UniversalEvent) :
    KeepsApprovals env approved rejected (EventWorkflowService.accept event) s w := by
  rw [KeepsApprovals, EventWorkflowService.ensures_accept]
  split_ifs
  · exact h
  · exact h.of_stores (fun _ hmem => hmem) rfl rfl

theorem keepsApprovals_process (h : ApprovalInv approved rejected s w) (eventId : UUID)
    (route : Option IntegrationRouteContext) :
    KeepsApprovals env approved rejected (EventWorkflowService.process BasePlanner.plan
      BasePermissionEngine.engine eventId route) s w := by
  refine EventWorkflowService.ensures_process_base (permitsQuiet_invokesOnly _)
    PermissionEngineRuntime.decides_base (fun events w' hw' => ?_)
    fun events processedEvent type w₁ s' w' hw₁ htype hplaced hw' => ?_
  · exact (h.of_updatedFrom hw').of_stores (fun _ hmem => hmem) rfl rfl
  · have hlt : w₁.nextId < w'.nextId := hw'.nextId
    have hnew : w₁.nextId ∉ rejected := fun hmem =>
      lt_irrefl _ ((h.rejected _ hmem).1.trans_le hw₁.nextId)
    have hw'' : w'.UpdatedFrom w w.row := hw'.trans ((World.updatedFrom_draw w₁).trans hw₁)
    have hevents : ApprovalInv approved rejected (s.setEvents events) w' :=
      (h.of_updatedFrom hw'').of_stores (fun _ hmem => hmem) rfl rfl
    exact hevents.placed hlt hnew (fun _ => capabilityForAction_plannedAction htype) hplaced

theorem keepsApprovals_delegateTask (h : ApprovalInv approved rejected s w)
    (request : TaskDelegationRequest) :
    KeepsApprovals env approved rejected
      (ActionTaskDelegator.delegate registry BasePermissionEngine.engine request) s w :=
  ActionTaskDelegator.ensures_delegate (permitsQuiet_invokesOnly _)
    PermissionEngineRuntime.decides_base fun _ _ _ hdelegated hw' => h.delegated hw' hdelegated

/-- A coding task is never allowed without approval, so delegating approves no row. -/
theorem keepsApprovals_delegate (h : ApprovalInv approved rejected s w)
    (objective target : String) :
    KeepsApprovals env approved rejected (SoftwareEngineeringTaskIngress.delegate registry
      BasePermissionEngine.engine objective target) s w := by
  refine SoftwareEngineeringTaskIngress.ensures_delegate (permitsQuiet_invokesOnly _)
    PermissionEngineRuntime.decides_base (fun _ _ _ _ _ _ hcall => nomatch hcall)
    fun r s' w' hdelegated => ?_
  cases hdelegated with
  | refused e => exact h
  | raised request e s' w' hrequest hdelegated hw' => exact h.delegated hw' hdelegated
  | unregistered request result e now s' w' hrequest hdelegated hwhy hw' =>
    exact h.delegated hw' hdelegated
  | registered request result now state s' w' hrequest hdelegated hstate hw' =>
    have hlt : w.nextId < w.draw.nextId := Nat.lt_succ_self _
    have hrow : w.draw.row w.nextId = none := by
      rcases hrow : w.row w.nextId with _ | row
      · exact hrow
      · exact absurd (h.row _ row hrow).1 (lt_irrefl _)
    refine (h.delegated ⟨le_refl _, rfl, rfl⟩ hdelegated).updateRow hw' (hlt.trans_le hw'.nextId) ?_
    intro happroved
    rw [← World.row_draw, hrow] at hstate
    obtain ⟨-, ⟨-, rfl⟩ | ⟨row, hnone, -⟩⟩ := registerAction_eq_ok_iff.mp hstate
    swap
    · cases hnone
    refine absurd happroved (not_approved_of_delegated hrequest hdelegated)

theorem keepsApprovals_decide (h : ApprovalInv approved rejected s w) (id : UUID) (d : Decision) :
    (d.perform id).Ensures (outside env R) (InvokesOnly (Authorised approved rejected))
      (fun r s w => ApprovalInv (approved ++ if r.raised then [] else d.approvedIds id)
        (rejected ++ if r.raised then [] else d.rejectedIds id) s w) s w :=
  Decision.ensures_perform (permitsQuiet_invokesOnly _) (fun _ _ _ _ _ _ _ _ hcall => nomatch hcall)
    (fun _ _ _ _ _ _ _ _ _ _ _ _ hcall => nomatch hcall) fun _ _ _ hdecided => h.decided hdecided

end Methods

/-- An operation that decides nothing keeps the invariant as it is. -/
theorem observe_of_keepsApprovals {α : Type} {m : Service α} {c : Container}
    (hmethod : c.method op = m.discard) (happroved : op.approvedIds = [])
    (hrejected : op.rejectedIds = [])
    (h : KeepsApprovals env x.approved x.rejected m x.site.stores x.site.world) :
    InvokedSince (Authorised x.approved x.rejected) x.site.world (observe env c x op).site.world ∧
      (observe env c x op).Inv := by
  have hattempt := attempt_of_invokesOnly (Q := fun _ s w => ApprovalInv x.approved x.rejected s w) h
  simpa [observe, Observed.Inv, Container.step, hmethod, happroved, hrejected] using hattempt

/-- Every operation invokes executors only as permitted, and keeps the invariant. -/
theorem approvalInv_observe (h : x.Inv) :
    InvokedSince (Authorised x.approved x.rejected) x.site.world
        (observe env (.default registry maxTransientRetries reviewer) x op).site.world ∧
      (observe env (.default registry maxTransientRetries reviewer) x op).Inv := by
  cases op with
  | accept event => exact observe_of_keepsApprovals rfl rfl rfl (keepsApprovals_accept h event)
  | process eventId route =>
    exact observe_of_keepsApprovals rfl rfl rfl (keepsApprovals_process h eventId route)
  | delegateTask request =>
    exact observe_of_keepsApprovals rfl rfl rfl (keepsApprovals_delegateTask h request)
  | delegate objective target =>
    exact observe_of_keepsApprovals rfl rfl rfl (keepsApprovals_delegate h objective target)
  | decide id d =>
    exact attempt_of_invokesOnly (Q := fun raised s w =>
      ApprovalInv (x.approved ++ if raised then [] else d.approvedIds id)
        (x.rejected ++ if raised then [] else d.rejectedIds id) s w) (keepsApprovals_decide h id d)
  | processNext => exact observe_of_keepsApprovals rfl rfl rfl (approvalInv_processNext h)
  | processAction id => exact observe_of_keepsApprovals rfl rfl rfl (approvalInv_processAction h)
  | execute id => exact observe_of_keepsApprovals rfl rfl rfl (approvalInv_execute h)

/-- A process that nothing happened to. -/
def Observed.initial (R : RunRepository) : Observed R := { site := .initial R }

theorem Observed.inv_initial : (Observed.initial R).Inv where
  queue _ hmem := nomatch hmem
  pending _ _ hget := nomatch hget
  row id _ hrow := nomatch (World.row_initial id).symm.trans hrow
  rejected _ hmem := nomatch hmem

/-- In every run of the process, every operation invokes registered executors only
for safe capabilities or for actions approved before, and no executor for an action
rejected before. -/
theorem executions_authorised (env : Environment) (registry : WorkerExecutorRegistry)
    (maxTransientRetries : Int) (reviewer : Bool) (ops : List ContainerOp) (op : ContainerOp) :
    let c := Container.default registry maxTransientRetries reviewer
    let x := Run.after (observe env c) (.initial R) ops
    InvokedSince (Authorised x.approved x.rejected) x.site.world (observe env c x op).site.world := by
  have hinv : (Run.after (observe env (Container.default registry maxTransientRetries reviewer))
      (.initial R) ops).Inv :=
    Run.after_invariant (I := Observed.Inv) (fun _ _ h => (approvalInv_observe h).2)
      Observed.inv_initial ops
  exact (approvalInv_observe hinv).1

end Runs

end Velox
