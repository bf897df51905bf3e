import Velox.SoftwareEngineering.Recovery

/-!
# Deciding about pending Software Engineering actions

Approving and rejecting with the recovery as recovery boundary and as recorder,
as one operation: a held or reconstructed action, a lifecycle transition, a durable
record, and only then the local stores.

## Main definitions

* `Decision` — approve, or reject with a reason
* `Decision.perform` — the entrypoint for a decision

## Main results

* `Decision.ensures_perform` — what a decision leaves in the local stores and in the
  rows
-/

set_option autoImplicit false

namespace Velox

/-- What may be decided about a pending action. -/
inductive Decision
  | approve
  | reject (reason : String)
  deriving DecidableEq

namespace Decision

/-- Run the entrypoint. -/
def perform (actionId : UUID) : Decision → Service ActionLifecycleState
  | approve => approvePendingAction (some ActionRecovery.recoverPending)
      (some ActionRecovery.recorder) actionId
  | reject reason => rejectPendingAction (some ActionRecovery.recoverPending)
      (some ActionRecovery.recorder) actionId reason

/-- The lifecycle state a decision moves an action to. -/
def transition (state : ActionLifecycleState) : Decision → Except Raised ActionLifecycleState
  | approve => ActionLifecycleManager.transition state .approved
  | reject reason => ActionLifecycleManager.transition state .rejected (some reason)

/-- The status a decision moves an action to. -/
def status : Decision → ActionStatus
  | approve => .approved
  | reject _ => .rejected

/-- The operation on the row that records a decision. -/
def write (actionId : UUID) : Decision → String → DateTime → DateTime → RunWrite
  | approve => fun objective decidedAt now => .recordApproval now actionId objective decidedAt
  | reject _ => fun _ decidedAt now => .recordRejection now actionId decidedAt

/-- The recorder of a decision. -/
def record (action : Action) : Decision → Task Unit
  | approve => ActionRecovery.recordApproved action
  | reject _ => ActionRecovery.recordRejected action

/-- The local stores once a decision has been recorded. -/
def settle (s : Stores) (actionId : UUID) (state : ActionLifecycleState) (action : Action) :
    Decision → Stores
  | approve => ((s.setLifecycle actionId state).removePending actionId).enqueue action
  | reject _ => (s.setLifecycle actionId state).removePending actionId

theorem actionId_write (d : Decision) (actionId : UUID) (objective : String)
    (decidedAt now : DateTime) : (d.write actionId objective decidedAt now).actionId = actionId := by
  cases d <;> rfl

theorem portable_write (d : Decision) (actionId : UUID) (objective : String)
    (decidedAt now : DateTime) (current : Option RunState) :
    (d.write actionId objective decidedAt now).Portable current := by
  cases d <;> trivial

/-- Only a queued action is decided about. -/
theorem transition_eq_ok {d : Decision} {state state' : ActionLifecycleState}
    (h : d.transition state = .ok state') :
    state.status = .queued ∧ state'.status = d.status ∧ state'.metadata = state.metadata := by
  rcases state with ⟨status, reason, metadata⟩
  cases d with
  | approve =>
    obtain ⟨hvalid, -, rfl⟩ := ActionLifecycleManager.transition_eq_ok_iff.mp h
    refine ⟨?_, rfl, rfl⟩
    cases status <;> simp_all [ActionLifecycleManager.validTransitions]
  | reject reason' =>
    obtain ⟨hvalid, -, rfl⟩ := ActionLifecycleManager.transition_eq_ok_iff.mp h
    refine ⟨?_, rfl, rfl⟩
    cases status <;> simp_all [ActionLifecycleManager.validTransitions]

section Ensures

variable {R : RunRepository} {env : Environment} {P : OutsideCall → World R → Prop} {s : Stores}
  {w : World R} {actionId : UUID} {d : Decision}

/-- The action a decision is about: held locally, or rebuilt from its row. -/
inductive Resolved (s : Stores) (w : World R) (actionId : UUID) : Action → Prop
  | held (action : Action) (hheld : s.pendingApprovals.get actionId = some action) :
      Resolved s w actionId action
  | recovered (row : RunState) (objective : String)
      (hheld : s.pendingApprovals.get actionId = none) (hrow : w.row actionId = some row)
      (hcanonical : IsCanonicalState row) (hpending : row.PendingApproval)
      (hobjective : row.pendingObjective = some objective) (hblank : Python.strip objective ≠ "") :
      Resolved s w actionId (recoveredAction actionId row.target (Python.strip objective)
        (.dict [("pending", .bool true)]))

/-- What a decision can leave behind. -/
inductive Decided (d : Decision) (s : Stores) (w : World R) (actionId : UUID) :
    Except Raised ActionLifecycleState → Stores → World R → Prop
  | unresolved (e : Raised) : Decided d s w actionId (.error e) s w
  | unrecorded (action : Action) (state : ActionLifecycleState) (e : Raised) (w' : World R)
      (hresolved : Resolved s w actionId action)
      (htransition : d.transition ((s.lifecycle.get actionId).getD awaitingApprovalState) = .ok state)
      (hrecorded : ActionRecovery.Recorded w action (d.write action.id) (.error e) w') :
      Decided d s w actionId (.error e) s w'
  | decided (action : Action) (state : ActionLifecycleState) (w' : World R)
      (hresolved : Resolved s w actionId action)
      (htransition : d.transition ((s.lifecycle.get actionId).getD awaitingApprovalState) = .ok state)
      (hrecorded : ActionRecovery.Recorded w action (d.write action.id) (.ok ()) w') :
      Decided d s w actionId (.ok state) (d.settle s actionId state action) w'

/-- Both decisions are made in the same steps. -/
theorem ensures_perform_iff {Q : Except Raised ActionLifecycleState → Stores → World R → Prop} :
    (d.perform actionId).Ensures (outside env R) P Q s w ↔
      (resolvePendingAction (some ActionRecovery.recoverPending) actionId).Ensures (outside env R) P
        (fun r s w => r.either
          (fun action =>
            (d.transition ((s.lifecycle.get actionId).getD awaitingApprovalState)).either
              (fun state => (d.record action).Ensures (outside env R) P
                (fun r _ w => r.either (fun _ => Q (.ok state) (d.settle s actionId state action) w)
                  fun e => Q (.error e) s w) () w)
              fun e => Q (.error e) s w)
          fun e => Q (.error e) s w) s w := by
  cases d with
  | approve => exact ensures_approvePendingAction
  | reject reason => exact ensures_rejectPendingAction

theorem ensures_record {action : Action} {u : Unit} {Q : Except Raised Unit → World R → Prop}
    (hquiet : PermitsQuiet P)
    (hregister : ∀ objective now w', ActionRecovery.objective action = .ok objective →
      w'.row = w.row → P (.store (.write (.registerAction now
        (ActionRecovery.registrationOf action objective (w.row action.id))))) w')
    (hdecide : ∀ objective now decidedAt now' state w',
      ActionRecovery.objective action = .ok objective →
      registerAction now (ActionRecovery.registrationOf action objective (w.row action.id))
        (w.row action.id) = .ok state →
      w'.row = Function.update w.row action.id (some state) →
      P (.store (.write (d.write action.id objective decidedAt now'))) w')
    (hQ : ∀ r w', ActionRecovery.Recorded w action (d.write action.id) r w' → Q r w') :
    (d.record action).Ensures (outside env R) P (fun r _ w' => Q r w') u w := by
  cases d with
  | approve => exact ActionRecovery.ensures_recordDecision (fun _ _ _ => rfl) hquiet hregister hdecide hQ
  | reject reason =>
    exact ActionRecovery.ensures_recordDecision (fun _ _ _ => rfl) hquiet hregister hdecide hQ

theorem ensures_resolvePendingAction {Q : Except Raised Action → Stores → World R → Prop}
    (hquiet : PermitsQuiet P) (hok : ∀ action, Resolved s w actionId action → Q (.ok action) s w)
    (herror : ∀ e, Q (.error e) s w) :
    (resolvePendingAction (some ActionRecovery.recoverPending) actionId).Ensures (outside env R) P
      Q s w := by
  rw [Velox.ensures_resolvePendingAction]
  rcases hheld : s.pendingApprovals.get actionId with _ | action
  · refine ActionRecovery.ensures_recoverPending hquiet (herror _)
      (fun row objective hrow hcanonical hpending hobjective hblank => ?_) herror
    exact hok _ (.recovered row objective hheld hrow hcanonical hpending hobjective hblank)
  · exact hok action (.held action hheld)

/-- A decision changes the local stores only once it has been recorded. -/
theorem ensures_perform {Q : Except Raised ActionLifecycleState → Stores → World R → Prop}
    (hquiet : PermitsQuiet P)
    (hregister : ∀ action objective now w', Resolved s w actionId action →
      ActionRecovery.objective action = .ok objective → w'.row = w.row →
      P (.store (.write (.registerAction now
        (ActionRecovery.registrationOf action objective (w.row action.id))))) w')
    (hdecide : ∀ action objective now decidedAt now' state w', Resolved s w actionId action →
      ActionRecovery.objective action = .ok objective →
      registerAction now (ActionRecovery.registrationOf action objective (w.row action.id))
        (w.row action.id) = .ok state →
      w'.row = Function.update w.row action.id (some state) →
      P (.store (.write (d.write action.id objective decidedAt now'))) w')
    (hQ : ∀ r s' w', Decided d s w actionId r s' w' → Q r s' w') :
    (d.perform actionId).Ensures (outside env R) P Q s w := by
  rw [ensures_perform_iff]
  refine ensures_resolvePendingAction hquiet (fun action hresolved => ?_)
    fun e => hQ _ _ _ (.unresolved e)
  simp only [Except.either_ok]
  rcases htransition : d.transition ((s.lifecycle.get actionId).getD awaitingApprovalState)
    with e | state
  · exact hQ _ _ _ (.unresolved e)
  simp only [Except.either_ok]
  refine ensures_record hquiet (fun objective now w' => hregister action objective now w' hresolved)
    (fun objective now decidedAt now' state w' =>
      hdecide action objective now decidedAt now' state w' hresolved) fun r w' hrecorded => ?_
  rcases r with e | u
  · exact hQ _ _ _ (.unrecorded action state e w' hresolved htransition hrecorded)
  · exact hQ _ _ _ (.decided action state w' hresolved htransition hrecorded)

end Ensures

end Decision

end Velox
