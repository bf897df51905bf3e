import Velox.Lib.Run
import Velox.System.Container

/-!
# No action is lost or duplicated

In one process, three stores are kept in step: an approved action is queued exactly
once, an action that awaits approval is held and not queued, and an action that is
done with is in neither place. This holds as long as no permission decision that
lets an action pass fails to be serialized, and no executor raises more than an
`Exception`: permission evaluation stores the lifecycle state before it serializes
the decision, and only an `Exception` of an executor becomes a result.

## Main definitions

* `Ledger` — the three stores agree
* `Environment.Calm` — a call that does not get in the way
* `WorkerExecutionObserver.Steady` — an observer that never raises and approves
  nothing

## Main results

* `ledgerInv_step` — every calm operation keeps the stores in step
* `ledger_of_calm` — in every run of calm operations they stay in step
* `not_ledger_of_unserializable` — one decision that cannot be serialized breaks it
-/

set_option autoImplicit false

namespace Velox

/-! ### The ledger -/

section Ledger

variable {s s' : Stores} {id : UUID} {state : ActionLifecycleState}

/-- Approved, queued exactly once and not held. -/
def Queued (s : Stores) (id : UUID) (state : ActionLifecycleState) : Prop :=
  state.status = .approved ∧ s.actionQueue.occurrences id = 1 ∧ s.pendingApprovals.get id = none

/-- Awaiting approval, held and not queued. -/
def Held (s : Stores) (id : UUID) (state : ActionLifecycleState) : Prop :=
  state.AwaitsApproval ∧ s.pendingApprovals.get id ≠ none ∧ s.actionQueue.occurrences id = 0

/-- Done with, neither queued nor held. -/
def Done (s : Stores) (id : UUID) (state : ActionLifecycleState) : Prop :=
  state.status ∈ [.completed, .skipped, .failed, .rejected] ∧
    s.actionQueue.occurrences id = 0 ∧ s.pendingApprovals.get id = none

/-- Exactly one of the three. -/
def FiledOnce (s : Stores) (id : UUID) (state : ActionLifecycleState) : Prop :=
  (Queued s id state ∧ ¬Held s id state ∧ ¬Done s id state) ∨
    (¬Queued s id state ∧ Held s id state ∧ ¬Done s id state) ∨
    (¬Queued s id state ∧ ¬Held s id state ∧ Done s id state)

/-- Queue, registry and lifecycle repository agree. -/
structure Ledger (s : Stores) : Prop where
  entry : ∀ id state, s.lifecycle.get id = some state → FiledOnce s id state
  queue : ∀ action ∈ s.actionQueue, (s.lifecycle.get action.id).isSome
  pending : ∀ id action, s.pendingApprovals.get id = some action → (s.lifecycle.get id).isSome

/-- What the stores say about one id. -/
def Filed (s : Stores) (id : UUID) : Prop :=
  (s.lifecycle.get id).elim
    (s.actionQueue.occurrences id = 0 ∧ s.pendingApprovals.get id = none)
    fun state => Queued s id state ∨ Held s id state ∨ Done s id state

theorem filedOnce_of_or (h : Queued s id state ∨ Held s id state ∨ Done s id state) :
    FiledOnce s id state := by
  rcases state with ⟨status, reason, metadata⟩
  cases status <;>
    simp_all [FiledOnce, Queued, Held, Done, ActionLifecycleState.AwaitsApproval]

theorem ledger_of_filed (h : ∀ id, Filed s id) : Ledger s where
  entry id state hstate := filedOnce_of_or (by simpa [Filed, hstate] using h id)
  queue action hmem := by
    by_contra hnone
    have hfiled := h action.id
    rw [Filed, Option.not_isSome_iff_eq_none.mp hnone] at hfiled
    exact absurd hfiled.1 (ActionQueue.occurrences_pos_iff.mpr ⟨action, hmem, rfl⟩).ne'
  pending id action hget := by
    by_contra hnone
    have hfiled := h id
    rw [Filed, Option.not_isSome_iff_eq_none.mp hnone] at hfiled
    exact nomatch hfiled.2.symm.trans hget

/-- The stores say the same about an id. -/
structure SameEntry (s s' : Stores) (id : UUID) : Prop where
  lifecycle : s'.lifecycle.get id = s.lifecycle.get id
  occurrences : s'.actionQueue.occurrences id = s.actionQueue.occurrences id
  pending : s'.pendingApprovals.get id = s.pendingApprovals.get id

theorem SameEntry.filed (h : SameEntry s s' id) (hfiled : Filed s id) : Filed s' id := by
  unfold Filed Queued Held Done at *
  rw [h.lifecycle, h.occurrences, h.pending]
  exact hfiled

/-- Stores that agree everywhere but at one id are in step where they are at that id. -/
theorem filed_of_sameEntry (hfiled : ∀ id, Filed s id) (hsame : ∀ id', id' ≠ id → SameEntry s s' id')
    (hid : Filed s' id) (id' : UUID) : Filed s' id' := by
  by_cases heq : id' = id
  · exact heq ▸ hid
  · exact (hsame id' heq).filed (hfiled id')

theorem filed_of_some (hstate : s.lifecycle.get id = some state)
    (h : Queued s id state ∨ Held s id state ∨ Done s id state) : Filed s id := by
  rw [Filed, hstate]
  exact h

/-- A queued action is approved, and it is the only one of its id. -/
theorem Filed.of_occurrences (h : Filed s id) (hpos : 0 < s.actionQueue.occurrences id) :
    ∃ state, s.lifecycle.get id = some state ∧ Queued s id state := by
  unfold Filed at h
  rcases hstate : s.lifecycle.get id with _ | state
  · rw [hstate] at h
    exact absurd h.1 hpos.ne'
  · rw [hstate] at h
    rcases h with hqueued | hheld | hdone
    · exact ⟨state, rfl, hqueued⟩
    · exact absurd hheld.2.2 hpos.ne'
    · exact absurd hdone.2.1 hpos.ne'

/-- An id that is queued for a decision, or unknown, is not in the queue. -/
theorem Filed.of_undecided (h : Filed s id)
    (hqueued : ((s.lifecycle.get id).getD awaitingApprovalState).status = .queued) :
    s.actionQueue.occurrences id = 0 := by
  unfold Filed at h
  rcases hstate : s.lifecycle.get id with _ | state
  · rw [hstate] at h
    exact h.1
  · rw [hstate] at h hqueued
    rcases h with hq | hheld | hdone
    · rw [Option.getD_some, hq.1] at hqueued
      cases hqueued
    · exact hheld.2.2
    · exact hdone.2.1

end Ledger

/-! ### Calm calls -/

/-- A decision that lets an action pass can be serialized. -/
def PermissionDecision.Storable (decision : PermissionDecision) : Prop :=
  decision.status ≠ .denied → decision.modelDump.raised = false

instance (decision : PermissionDecision) : Decidable decision.Storable :=
  inferInstanceAs (Decidable (_ → _))

/-- The permission engine gives a decision that can be recorded, and an executor
raises nothing but an `Exception`. -/
def Environment.Calm (env : Environment) (history : List OutsideCall) : OutsideCall → Prop
  | .evaluatePermission action =>
    ∀ decision, env.evaluatePermission history action = .ok (some decision) → decision.Storable
  | .execute execution => ∀ e, env.execute history execution = .error e → e.isException
  | _ => True

open Classical in
/-- The environment without the answers that are not calm. -/
noncomputable def Environment.calmed (env : Environment) : Environment :=
  { env with
    evaluatePermission := fun history action =>
      if env.Calm history (.evaluatePermission action) then env.evaluatePermission history action
      else .ok none
    execute := fun history execution =>
      if env.Calm history (.execute execution) then env.execute history execution
      else .ok { action := execution.action, status := .skipped } }

theorem Environment.calm_calmed (env : Environment) (history : List OutsideCall) (c : OutsideCall) :
    env.calmed.Calm history c := by
  cases c with
  | evaluatePermission action =>
    intro decision hdecision
    by_cases hcalm : env.Calm history (.evaluatePermission action)
    · simp only [calmed, if_pos hcalm] at hdecision
      exact hcalm decision hdecision
    · simp only [calmed, if_neg hcalm] at hdecision
      cases hdecision
  | execute execution =>
    intro e he
    by_cases hcalm : env.Calm history (.execute execution)
    · simp only [calmed, if_pos hcalm] at he
      exact hcalm e he
    · simp only [calmed, if_neg hcalm] at he
      cases he
  | _ => trivial

/-- Calm calls are answered the same. -/
theorem Environment.outside_calmed {R : RunRepository} {env : Environment} {c : OutsideCall}
    {w : World R} (hcalm : env.Calm w.history c) : outside env.calmed R c w = outside env R c w := by
  cases c with
  | evaluatePermission action => simp only [outside, calmed, if_pos hcalm]
  | execute execution => simp only [outside, calmed, if_pos hcalm]
  | _ => rfl

/-! ### The invariant -/

/-- No row is approved on the way, and rows appear only for identifiers that were
drawn. -/
structure NoApprovals {R : RunRepository} (w w' : World R) : Prop where
  nextId : w.nextId ≤ w'.nextId
  known : ∀ id row', w'.row id = some row' → id < w'.nextId ∨ ∃ row, w.row id = some row
  approved : ∀ id row', w'.row id = some row' → row'.approvalStatus = some .approved →
    ∃ row, w.row id = some row ∧ row.approvalStatus = some .approved

theorem NoApprovals.of_row {R : RunRepository} {w w' : World R} (hle : w.nextId ≤ w'.nextId)
    (hrow : w'.row = w.row) : NoApprovals w w' where
  nextId := hle
  known id row' hrow' := Or.inr ⟨row', by rwa [← hrow]⟩
  approved id row' hrow' happroved := ⟨row', by rwa [← hrow], happroved⟩

theorem NoApprovals.trans {R : RunRepository} {w w' w'' : World R} (h' : NoApprovals w' w'')
    (h : NoApprovals w w') : NoApprovals w w'' where
  nextId := h.nextId.trans h'.nextId
  known id row'' hrow'' := by
    rcases h'.known id row'' hrow'' with hlt | ⟨row', hrow'⟩
    · exact Or.inl hlt
    · exact (h.known id row' hrow').imp_left fun hlt => hlt.trans_le h'.nextId
  approved id row'' hrow'' happroved :=
    let ⟨row', hrow', happroved'⟩ := h'.approved id row'' hrow'' happroved
    h.approved id row' hrow' happroved'

/-- An observer that returns whatever it is told, and approves nothing. -/
structure WorkerExecutionObserver.Steady (R : RunRepository) (observer : WorkerExecutionObserver) :
    Prop where
  start : ∀ env e u w, (observer.start e).Ensures (outside env R) (fun _ _ => True)
    (fun r _ w' => (∃ observation, r = .ok observation) ∧ NoApprovals w w') u w
  finish : ∀ env observation e u w, (observer.finish observation e).Ensures (outside env R)
    (fun _ _ => True) (fun r _ w' => (∃ observation', r = .ok observation') ∧ NoApprovals w w') u w

theorem steady_inMemory (R : RunRepository) :
    InMemoryWorkerExecutionObserver.observer.Steady R where
  start _ _ _ _ := ⟨trivial, ⟨_, rfl⟩, .of_row (le_refl _) rfl⟩
  finish _ _ _ _ _ := ⟨trivial, ⟨_, rfl⟩, .of_row (le_refl _) rfl⟩

/-- The stores are in step, and the rows say nothing they do not. -/
structure LedgerInv {R : RunRepository} (s : Stores) (w : World R) : Prop where
  filed : ∀ id, Filed s id
  keyed : ∀ id action, s.pendingApprovals.get id = some action → action.id = id
  fresh : ∀ id state, s.lifecycle.get id = some state → id < w.nextId
  row : ∀ id row, w.row id = some row → id < w.nextId
  approved : ∀ id row, w.row id = some row → row.approvalStatus = some .approved →
    ∃ state, s.lifecycle.get id = some state ∧ state.status ≠ .queued

section Invariant

variable {R : RunRepository} {env : Environment} {s s' : Stores} {w w' : World R} {id : UUID}
  {action : Action}

theorem LedgerInv.of_noApprovals (h : LedgerInv s w) (hw : NoApprovals w w') : LedgerInv s w' where
  filed := h.filed
  keyed := h.keyed
  fresh id state hstate := (h.fresh id state hstate).trans_le hw.nextId
  row id row' hrow' := by
    rcases hw.known id row' hrow' with hlt | ⟨row, hrow⟩
    · exact hlt
    · exact (h.row id row hrow).trans_le hw.nextId
  approved id row' hrow' happroved :=
    let ⟨row, hrow, happroved'⟩ := hw.approved id row' hrow' happroved
    h.approved id row hrow happroved'

theorem LedgerInv.of_updatedFrom (h : LedgerInv s w) (hw : w'.UpdatedFrom w w.row) : LedgerInv s w' :=
  h.of_noApprovals (.of_row hw.nextId hw.row)

theorem LedgerInv.setEvents (h : LedgerInv s w) (events : EventStores) :
    LedgerInv (s.setEvents events) w :=
  ⟨fun id => (SameEntry.mk rfl rfl rfl : SameEntry s _ id).filed (h.filed id), h.keyed, h.fresh, h.row,
    h.approved⟩

/-- Changing what the stores say about one known id. -/
theorem LedgerInv.change {state : ActionLifecycleState} (h : LedgerInv s w)
    (hsame : ∀ id', id' ≠ id → SameEntry s s' id') (hstate : s'.lifecycle.get id = some state)
    (hentry : Queued s' id state ∨ Held s' id state ∨ Done s' id state)
    (hkeyed : ∀ action, s'.pendingApprovals.get id = some action → action.id = id)
    (hid : id < w.nextId)
    (happroved : ∀ row, w.row id = some row → row.approvalStatus = some .approved →
      state.status ≠ .queued) : LedgerInv s' w where
  filed := filed_of_sameEntry h.filed hsame (filed_of_some hstate hentry)
  keyed id' action hget := by
    by_cases heq : id' = id
    · exact heq ▸ hkeyed action (heq ▸ hget)
    · exact h.keyed id' action ((hsame id' heq).pending ▸ hget)
  fresh id' state' hstate' := by
    by_cases heq : id' = id
    · exact heq ▸ hid
    · exact h.fresh id' state' ((hsame id' heq).lifecycle ▸ hstate')
  row := h.row
  approved id' row hrow hrowApproved := by
    by_cases heq : id' = id
    · subst heq
      exact ⟨state, hstate, happroved row hrow hrowApproved⟩
    · rw [(hsame id' heq).lifecycle]
      exact h.approved id' row hrow hrowApproved

theorem LedgerInv.unknown (h : LedgerInv s w) (hid : w.nextId ≤ id) :
    s.lifecycle.get id = none ∧ s.actionQueue.occurrences id = 0 ∧
      s.pendingApprovals.get id = none := by
  have hnone : s.lifecycle.get id = none := by
    rcases hstate : s.lifecycle.get id with _ | state
    · rfl
    · exact absurd (h.fresh id state hstate) hid.not_gt
  have hfiled := h.filed id
  rw [Filed, hnone] at hfiled
  exact ⟨hnone, hfiled⟩

/-- An unknown identifier has no row either, even once it is drawn. -/
theorem LedgerInv.row_nextId (h : LedgerInv s w) : w.row w.nextId = none := by
  rcases hrow : w.row w.nextId with _ | row
  · rfl
  · exact absurd (h.row _ row hrow) (lt_irrefl _)

theorem LedgerInv.updateRow {row : RunState} (h : LedgerInv s w)
    (hw : w'.UpdatedFrom w (Function.update w.row id (some row))) (hid : id < w'.nextId)
    (happroved : row.approvalStatus = some .approved →
      ∃ state, s.lifecycle.get id = some state ∧ state.status ≠ .queued) : LedgerInv s w' where
  filed := h.filed
  keyed := h.keyed
  fresh id state hstate := (h.fresh id state hstate).trans_le hw.nextId
  row id' row' hrow' := by
    by_cases heq : id' = id
    · exact heq ▸ hid
    · rw [hw.row_of_ne heq] at hrow'
      exact (h.row id' row' hrow').trans_le hw.nextId
  approved id' row' hrow' hrowApproved := by
    by_cases heq : id' = id
    · subst heq
      obtain rfl : row = row' := Option.some.inj (hw.row_self.symm.trans hrow')
      exact happroved hrowApproved
    · rw [hw.row_of_ne heq] at hrow'
      exact h.approved id' row' hrow' hrowApproved

/-- Changing the row of one known id. -/
theorem LedgerInv.of_row_change (h : LedgerInv s w) (hle : w.nextId ≤ w'.nextId)
    (hother : ∀ id', id' ≠ id → w'.row id' = w.row id') (hid : id < w.nextId)
    (happroved : ∀ row', w'.row id = some row' → row'.approvalStatus = some .approved →
      ∃ state, s.lifecycle.get id = some state ∧ state.status ≠ .queued) : LedgerInv s w' where
  filed := h.filed
  keyed := h.keyed
  fresh id state hstate := (h.fresh id state hstate).trans_le hle
  row id' row' hrow' := by
    by_cases heq : id' = id
    · exact heq ▸ hid.trans_le hle
    · rw [hother id' heq] at hrow'
      exact (h.row id' row' hrow').trans_le hle
  approved id' row' hrow' hrowApproved := by
    by_cases heq : id' = id
    · subst heq
      exact happroved row' hrow' hrowApproved
    · rw [hother id' heq] at hrow'
      exact h.approved id' row' hrow' hrowApproved

/-! ### New actions -/

theorem sameEntry_setLifecycle {state : ActionLifecycleState} {id' : UUID} (hne : id' ≠ id) :
    SameEntry s (s.setLifecycle id state) id' :=
  ⟨OrderedDict.get_set_of_ne hne, rfl, rfl⟩

theorem sameEntry_enqueue (action : Action) {id' : UUID} (hne : id' ≠ action.id) : SameEntry s (s.enqueue action) id' :=
  ⟨rfl, by simp [hne.symm], rfl⟩

theorem sameEntry_addPending (action : Action) {id' : UUID} (hne : id' ≠ action.id) :
    SameEntry s (s.addPending action) id' :=
  ⟨rfl, rfl, OrderedDict.get_set_of_ne hne⟩

theorem sameEntry_removePending {id' : UUID} (hne : id' ≠ id) :
    SameEntry s (s.removePending id) id' :=
  ⟨rfl, rfl, OrderedDict.get_erase_of_ne hne⟩

theorem SameEntry.trans {s'' : Stores} (h' : SameEntry s' s'' id) (h : SameEntry s s' id) :
    SameEntry s s'' id :=
  ⟨h'.lifecycle.trans h.lifecycle, h'.occurrences.trans h.occurrences, h'.pending.trans h.pending⟩

/-- The stores of a new action that has been placed. -/
theorem sameEntry_placedStores {decision : PermissionDecision} {dump : Value} {id' : UUID}
    (hne : id' ≠ action.id) :
    SameEntry s (PermissionEngineRuntime.placedStores s action decision dump) id' := by
  have hdecided : SameEntry s (PermissionEngineRuntime.decidedStores s action decision dump) id' := by
    unfold PermissionEngineRuntime.decidedStores
    split_ifs
    · exact (sameEntry_addPending (PermissionEngineRuntime.withDecision action dump) hne).trans
        (sameEntry_setLifecycle hne)
    · exact sameEntry_setLifecycle hne
  unfold PermissionEngineRuntime.placedStores
  split_ifs
  · exact (sameEntry_enqueue (PermissionEngineRuntime.withDecision action dump) hne).trans hdecided
  · exact hdecided

/-- A new action is placed where its decision says. -/
theorem filed_placedStores (s : Stores) (action : Action) (decision : PermissionDecision) (dump : Value)
    (hoccurrences : s.actionQueue.occurrences action.id = 0)
    (hpending : s.pendingApprovals.get action.id = none) :
    let s' := PermissionEngineRuntime.placedStores s action decision dump
    let state := PermissionEngineRuntime.lifecycleOf decision
    s'.lifecycle.get action.id = some state ∧
      (Queued s' action.id state ∨ Held s' action.id state ∨ Done s' action.id state) ∧
      ∀ action', s'.pendingApprovals.get action.id = some action' → action'.id = action.id := by
  have hid : (PermissionEngineRuntime.withDecision action dump).id = action.id := rfl
  rcases decision with ⟨status, reason, metadata⟩
  cases status with
  | allowed =>
    simp [PermissionEngineRuntime.placedStores, PermissionEngineRuntime.decidedStores,
      PermissionEngineRuntime.lifecycleOf, Queued, hoccurrences, hpending, hid]
  | requiresApproval =>
    have hawaits : (PermissionEngineRuntime.lifecycleOf
        ⟨.requiresApproval, reason, metadata⟩).AwaitsApproval := ⟨rfl, rfl⟩
    refine ⟨by simp [PermissionEngineRuntime.placedStores, PermissionEngineRuntime.decidedStores],
      Or.inr (Or.inl ⟨hawaits, ?_, ?_⟩), fun action' haction' => ?_⟩
    · simp [PermissionEngineRuntime.placedStores, PermissionEngineRuntime.decidedStores, hid]
    · simpa [PermissionEngineRuntime.placedStores, PermissionEngineRuntime.decidedStores]
    · obtain rfl : PermissionEngineRuntime.withDecision action dump = action' := by
        simpa [PermissionEngineRuntime.placedStores, PermissionEngineRuntime.decidedStores, hid]
          using haction'
      rfl
  | denied =>
    simp [PermissionEngineRuntime.placedStores, PermissionEngineRuntime.decidedStores,
      PermissionEngineRuntime.lifecycleOf, Done, hoccurrences, hpending]

/-- What the engine decides can be recorded. -/
abbrev StorableDecision (_ : Action) (decision : PermissionDecision) : Prop := decision.Storable

/-- Evaluating a new action files it once. -/
theorem LedgerInv.placed (h : LedgerInv s w) (hnew : w.nextId ≤ action.id)
    (hw : w'.UpdatedFrom w w.row) (hid : action.id < w'.nextId)
    (hplaced : PermissionEngineRuntime.Placed StorableDecision s action s') : LedgerInv s' w' := by
  obtain ⟨-, hoccurrences, hpending⟩ := h.unknown hnew
  have hnone : ∀ row, w'.row action.id ≠ some row := fun row hrow => by
    rw [hw.row] at hrow
    exact absurd (h.row _ row hrow) hnew.not_gt
  have h' : LedgerInv s w' := h.of_updatedFrom hw
  cases hplaced with
  | unchanged => exact h'
  | unserializable e decision hdecision hdump =>
    -- only a denial may fail to be serialized
    have hdenied : decision.status = .denied := by
      by_contra hpass
      have hstored := hdecision hpass
      rw [hdump] at hstored
      cases hstored
    refine h'.change (fun _ => sameEntry_setLifecycle) OrderedDict.get_set_self
      (Or.inr (Or.inr ⟨?_, hoccurrences, hpending⟩))
      (fun action' haction' => nomatch hpending.symm.trans haction') hid
      fun row hrow => absurd hrow (hnone row)
    simp [PermissionEngineRuntime.lifecycleOf, hdenied]
  | decided decision dump hdecision =>
    obtain ⟨hstate, hentry, hkeyed⟩ := filed_placedStores _ _ decision dump hoccurrences
      hpending
    exact h'.change (fun _ => sameEntry_placedStores) hstate hentry hkeyed hid
      fun row hrow => absurd hrow (hnone row)

theorem decides_calmed {P : OutsideCall → World R → Prop} (hquiet : PermitsQuiet P) :
    PermissionEngineRuntime.Decides env.calmed P StorableDecision askPermission :=
  fun action _ w => ⟨hquiet _ w trivial, updatedFrom_outside trivial,
    env.calm_calmed w.history (.evaluatePermission action)⟩

/-- A delegated task is filed once, and its row approved only where it is queued. -/
theorem LedgerInv.delegated [PyStd] {registry : WorkerExecutorRegistry} {objective target : String}
    {r : Except Raised TaskDelegationResult} (h : LedgerInv s w)
    (hdelegated : SoftwareEngineeringTaskIngress.Delegated registry StorableDecision objective target
      s w r s' w') : LedgerInv s' w' := by
  have hplaced : ∀ {request : TaskDelegationRequest} {r : Except Raised TaskDelegationResult}
      {s₁ : Stores} {w₁ : World R}, w₁.UpdatedFrom w.draw w.row →
      ActionTaskDelegator.Delegated registry StorableDecision s
        (ActionTaskDelegator.actionFor request w.nextId) r s₁ → LedgerInv s₁ w₁ := by
    intro request r s₁ w₁ hw₁ hdelegated
    have hlt : (ActionTaskDelegator.actionFor request w.nextId).id < w₁.nextId := hw₁.nextId
    exact h.placed (le_refl _) (hw₁.trans (World.updatedFrom_draw w)) hlt hdelegated.placed
  cases hdelegated with
  | refused e => exact h
  | raised request e s' w' hrequest hdelegated hw' => exact hplaced hw' hdelegated
  | unregistered request result e now s' w' hrequest hdelegated hwhy hw' =>
    exact hplaced hw' hdelegated
  | registered request result now state s' w' hrequest hdelegated hstate hw' =>
    have hw₁ : w.draw.UpdatedFrom w.draw w.row := ⟨le_refl _, rfl, rfl⟩
    have hlt : w.nextId < w.draw.nextId := Nat.lt_succ_self _
    refine (hplaced hw₁ hdelegated).updateRow hw' (hlt.trans_le hw'.nextId) fun happroved => ?_
    rw [h.row_nextId] at hstate
    obtain ⟨-, ⟨-, rfl⟩ | ⟨row, hnone, -⟩⟩ := registerAction_eq_ok_iff.mp hstate
    swap
    · cases hnone
    cases hdelegated with
    | routeRejected => cases happroved
    | decided decision dump reason hroute hdecision =>
      obtain ⟨-, hoccurrences, hpending⟩ := h.unknown (le_refl w.nextId)
      obtain ⟨hlifecycle, -⟩ := filed_placedStores s
        (ActionTaskDelegator.actionFor request w.nextId) decision dump hoccurrences hpending
      refine ⟨_, hlifecycle, ?_⟩
      rcases hdecided : decision.status with _ | _ | _ <;>
        simp_all [PermissionEngineRuntime.lifecycleOf, ActionTaskDelegator.statusOf,
          SoftwareEngineeringTaskIngress.registrationOf, Registration.newState]

/-! ### Decisions -/

/-- A row is approved by the recorder only about the decided action. -/
theorem approved_of_recorded {d : Decision} {r : Except Raised Unit}
    (h : ActionRecovery.Recorded w action (d.write action.id) r w') :
    w.nextId ≤ w'.nextId ∧ (∀ id, id ≠ action.id → w'.row id = w.row id) ∧
      ∀ row', w'.row action.id = some row' → row'.approvalStatus = some .approved →
        (∃ row, w.row action.id = some row ∧ row.approvalStatus = some .approved) ∨
          r = .ok () ∧ d = .approve := by
  cases h with
  | skipped => exact ⟨le_refl _, fun _ _ => rfl, fun row hrow happroved => Or.inl ⟨row, hrow, happroved⟩⟩
  | refused e w' hwhy hw' =>
    refine ⟨hw'.nextId, fun _ _ => by rw [hw'.row], fun row hrow happroved => Or.inl ⟨row, ?_, happroved⟩⟩
    rwa [← hw'.row]
  | registered e now now' decidedAt objective state w' hcanonical hobjective hregister hwhy hw' =>
    refine ⟨hw'.nextId, fun _ hne => hw'.row_of_ne hne, fun row' hrow' happroved => Or.inl ?_⟩
    obtain rfl : state = row' := Option.some.inj (hw'.row_self.symm.trans hrow')
    exact ActionRecovery.approvalStatus_of_register hregister happroved
  | recorded now now' decidedAt objective state state' w' hcanonical hobjective hregister hdecide hw' =>
    refine ⟨hw'.nextId, fun _ hne => hw'.row_of_ne hne, fun row' hrow' happroved => Or.inr ?_⟩
    obtain rfl : state' = row' := Option.some.inj (hw'.row_self.symm.trans hrow')
    cases d with
    | approve => exact ⟨rfl, rfl⟩
    | reject reason =>
      obtain ⟨row, -, -, -, rfl⟩ := recordRejection_eq_ok_iff.mp hdecide
      cases happroved

/-- A decision moves one action from the registry to the queue, or out of both. -/
theorem LedgerInv.decided {d : Decision} {r : Except Raised ActionLifecycleState} (h : LedgerInv s w)
    (hdecided : d.Decided s w id r s' w') : LedgerInv s' w' := by
  have hresolves : ∀ {action : Action}, Decision.Resolved s w id action →
      action.id = id ∧ id < w.nextId := fun hresolved => by
    cases hresolved with
    | held _ hheld =>
      refine ⟨h.keyed id _ hheld, ?_⟩
      obtain ⟨state, hstate⟩ := Option.isSome_iff_exists.mp
        ((ledger_of_filed h.filed).pending id _ hheld)
      exact h.fresh id state hstate
    | recovered row objective hheld hrow => exact ⟨rfl, h.row id row hrow⟩
  cases hdecided with
  | unresolved e => exact h
  | unrecorded action state e w' hresolved htransition hrecorded =>
    obtain ⟨rfl, hid⟩ := hresolves hresolved
    obtain ⟨hle, hother, happroved⟩ := approved_of_recorded hrecorded
    refine h.of_row_change hle hother hid fun row' hrow' hrowApproved => ?_
    rcases happroved row' hrow' hrowApproved with ⟨row, hrow, hbefore⟩ | ⟨hok, -⟩
    · exact h.approved _ row hrow hbefore
    · cases hok
  | decided action state w' hresolved htransition hrecorded =>
    obtain ⟨rfl, hid⟩ := hresolves hresolved
    obtain ⟨hle, hother, -⟩ := approved_of_recorded hrecorded
    obtain ⟨hqueued, hstatus, -⟩ := Decision.transition_eq_ok htransition
    have hoccurrences : s.actionQueue.occurrences action.id = 0 := (h.filed _).of_undecided hqueued
    have hnot : state.status ≠ .queued := by
      rw [hstatus]
      cases d <;> simp [Decision.status]
    have hsettled : LedgerInv (d.settle s action.id state action) w := by
      cases d with
      | approve =>
        refine h.change (fun id' hne => (sameEntry_enqueue action hne).trans
          ((sameEntry_removePending hne).trans (sameEntry_setLifecycle hne))) OrderedDict.get_set_self
          (Or.inl ⟨hstatus, by simp [Decision.settle, hoccurrences], by simp [Decision.settle]⟩)
          (fun action' haction' => ?_) hid fun _ _ _ => hnot
        simp [Decision.settle] at haction'
      | reject reason =>
        refine h.change (fun id' hne => (sameEntry_removePending hne).trans
          (sameEntry_setLifecycle hne)) OrderedDict.get_set_self
          (Or.inr (Or.inr ⟨by rw [hstatus]; simp [Decision.status], hoccurrences,
            by simp [Decision.settle]⟩)) (fun action' haction' => ?_) hid fun _ _ _ => hnot
        simp [Decision.settle] at haction'
    have hlifecycle : (d.settle s action.id state action).lifecycle.get action.id = some state := by
      cases d <;> exact OrderedDict.get_set_self
    exact hsettled.of_row_change hle hother hid fun _ _ _ => ⟨state, hlifecycle, hnot⟩

/-! ### Processing and executing -/

section Execute

variable [PyStd] {c : Container} {s₀ : Stores}

omit [PyStd] in
/-- An action taken out of the queue is filed again once its execution is stored. -/
theorem LedgerInv.stored {maxTransientRetries : Int} {executing : ActionLifecycleState}
    {result : WorkerExecutionResult} (h : LedgerInv s₀ w)
    (hsame : ∀ id', id' ≠ action.id → SameEntry s₀ s id')
    (hoccurrences : s.actionQueue.occurrences action.id = 0)
    (hpending : s.pendingApprovals.get action.id = none) (hid : action.id < w.nextId)
    (hstored : WorkerRuntime.Stored maxTransientRetries s action executing result s') :
    LedgerInv s' w := by
  have hpending' : ∀ action', s.pendingApprovals.get action.id ≠ some action' := fun _ h => by
    cases hpending.symm.trans h
  cases hstored with
  | terminal =>
    have hterminal : (WorkerRuntime.terminalOf executing result).status ∈
        [ActionStatus.completed, .skipped, .failed, .rejected] := by
      cases hresult : result.status <;>
        simp [WorkerRuntime.terminalOf, WorkerRuntime.terminalStatus, hresult]
    refine h.change (fun id' hne => (sameEntry_setLifecycle hne).trans (hsame id' hne))
      OrderedDict.get_set_self (Or.inr (Or.inr ⟨hterminal, hoccurrences, hpending⟩))
      (fun action' haction' => absurd haction' (hpending' action')) hid fun _ _ _ hqueued => ?_
    rw [hqueued] at hterminal
    simp at hterminal
  | retried retryCount hcategory =>
    refine h.change (fun id' hne => (sameEntry_enqueue action hne).trans
      ((sameEntry_setLifecycle hne).trans ((sameEntry_setLifecycle hne).trans (hsame id' hne))))
      OrderedDict.get_set_self (Or.inl ⟨rfl, by simp [hoccurrences], hpending⟩)
      (fun action' haction' => absurd haction' (hpending' action')) hid fun _ _ _ => ?_
    simp [WorkerRuntime.retriedOf]

omit [PyStd] in
/-- Where executors raise nothing but exceptions, an invocation returns. -/
theorem invoke_returns {resolution : WorkerExecutorResolution} {u : Unit} :
    (WorkerRuntime.invoke resolution action).Ensures (outside env.calmed R) (fun _ _ => True)
      (fun r _ w' => (∃ result, r = .ok result) ∧ NoApprovals w w') u w := by
  refine (DurableExecutionObserver.invoked_invoke fun _ _ => trivial).mono fun r _ w' hinvoked => ?_
  cases hinvoked with
  | noOp => exact ⟨⟨_, rfl⟩, .of_row (le_refl _) rfl⟩
  | provider executor hexecutor =>
    refine ⟨?_, .of_row (le_refl _) rfl⟩
    have hcalm := env.calm_calmed w.history (.execute (resolution.execution executor action))
    unfold DurableExecutionObserver.invoked
    rcases hreply : env.calmed.execute w.history (resolution.execution executor action) with e | result
    · have he : e.isException = true := hcalm e hreply
      exact ⟨_, if_pos he⟩
    · exact ⟨result, rfl⟩

theorem ledgerInv_executeAction {executing : ActionLifecycleState}
    (hobserver : c.executionObserver.Steady R) (h : LedgerInv s₀ w)
    (hsame : ∀ id', id' ≠ action.id → SameEntry s₀ s id')
    (hoccurrences : s.actionQueue.occurrences action.id = 0)
    (hpending : s.pendingApprovals.get action.id = none) (hid : action.id < w.nextId)
    (hstatus : executing.status = .executing) :
    (c.runtime.executeAction action executing).Ensures (outside env.calmed R) (fun _ _ => True)
      (fun _ s w => LedgerInv s w) s w := by
  refine WorkerRuntime.ensures_executeAction
    (S := fun r w' => (∃ observation, r = .ok observation) ∧ NoApprovals w w')
    (I := fun _ r w' => (∃ result, r = .ok result) ∧ NoApprovals w w')
    (F := fun _ r w' => (∃ observation, r = .ok observation) ∧ NoApprovals w w') hstatus
    (hobserver.start _ _ _ _)
    (fun observation w₁ ⟨_, hw₁⟩ => invoke_returns.mono fun _ _ _ ⟨hok, hw'⟩ => ⟨hok, hw'.trans hw₁⟩)
    (fun observation result w₁ ⟨_, hw₁⟩ => (hobserver.finish _ _ _ _ _).mono
      fun _ _ _ ⟨hok, hw'⟩ => ⟨hok, hw'.trans hw₁⟩) (fun e w' hwhy => ?_)
    fun observation result r s' w' ⟨_, hw'⟩ hstored => ?_
  · rcases hwhy with ⟨⟨_, hok⟩, -⟩ | ⟨_, ⟨_, hok⟩, -⟩ | ⟨_, ⟨_, hok⟩, -⟩ <;> cases hok
  · exact (h.of_noApprovals hw').stored
      (fun id' hne => (sameEntry_setLifecycle hne).trans (hsame id' hne)) hoccurrences hpending
      (hid.trans_le hw'.nextId) hstored

/-- Processing an action that was taken out of the queue. -/
theorem ledgerInv_processDequeuedAction (hobserver : c.executionObserver.Steady R)
    (h : LedgerInv s₀ w) {queue : ActionQueue}
    (htaken : ∀ id, s₀.actionQueue.occurrences id =
      ActionQueue.occurrences queue id + if action.id = id then 1 else 0) :
    (c.runtime.processDequeuedAction action).Ensures (outside env.calmed R) (fun _ _ => True)
      (fun _ s w => LedgerInv s w) (s₀.setQueue queue) w := by
  have hpos : 0 < s₀.actionQueue.occurrences action.id := by
    rw [htaken, if_pos rfl]
    exact Nat.succ_pos _
  obtain ⟨state, hstate, hstatus, honce, hpending⟩ := (h.filed action.id).of_occurrences hpos
  have hzero : ActionQueue.occurrences queue action.id = 0 := by
    have := htaken action.id
    rw [honce, if_pos rfl] at this
    omega
  have hsame : ∀ id', id' ≠ action.id → SameEntry s₀ (s₀.setQueue queue) id' := fun id' hne =>
    ⟨rfl, by simp [htaken, hne.symm], rfl⟩
  have hget : state = ((s₀.setQueue queue).lifecycle.get action.id).getD { status := .queued } := by
    simp [hstate]
  rw [WorkerRuntime.ensures_processDequeuedAction hget]
  have hnot : ¬state.AwaitsApproval := fun hawaits => by
    rw [hawaits.1] at hstatus
    cases hstatus
  rw [if_neg hnot, if_pos (Or.inr hstatus)]
  exact ledgerInv_executeAction hobserver h hsame hzero hpending (h.fresh _ state hstate) rfl

theorem ledgerInv_processNext (hobserver : c.executionObserver.Steady R) (h : LedgerInv s w) :
    c.runtime.processNext.Ensures (outside env.calmed R) (fun _ _ => True)
      (fun _ s w => LedgerInv s w) s w := by
  rw [WorkerRuntime.ensures_processNext]
  split
  · exact h
  · rename_i action rest hqueue
    exact ledgerInv_processDequeuedAction hobserver h fun id => by
      rw [hqueue, ActionQueue.occurrences_cons]

theorem ledgerInv_processAction (hobserver : c.executionObserver.Steady R) (h : LedgerInv s w) :
    (c.runtime.processAction id).Ensures (outside env.calmed R) (fun _ _ => True)
      (fun _ s w => LedgerInv s w) s w := by
  rw [WorkerRuntime.ensures_processAction]
  split
  · exact h
  · rename_i action hget
    split_ifs with hawaits
    · obtain ⟨state, hstate, -⟩ := hawaits
      exact ⟨state, hstate, h⟩
    · exact ledgerInv_processDequeuedAction hobserver h (ActionQueue.occurrences_remove hget)

/-- An approved row is only claimed for an action that is queued and approved
locally, so bringing the stores in line with the claim changes nothing. -/
theorem ledgerInv_execute {reviewer : Bool} (hobserver : c.executionObserver.Steady R)
    (h : LedgerInv s w) :
    (SoftwareEngineeringTaskContinuation.execute c.runtime reviewer id).Ensures (outside env.calmed R)
      (fun _ _ => True) (fun _ s w => LedgerInv s w) s w := by
  rw [SoftwareEngineeringTaskContinuation.ensures_execute]
  split_ifs with hstatus hroute
  · exact h
  · exact h
  refine SoftwareEngineeringTaskContinuation.ensures_claimForExecution (fun _ _ _ => trivial)
    (fun _ _ _ => trivial) (fun row objective now w₁ hrow hclaimable hw₁ => ?_)
    fun e w₁ _ hw₁ => h.of_updatedFrom hw₁
  obtain ⟨state, hstate, hnotQueued⟩ := h.approved id row hrow hclaimable.approved
  have happroved : state.status = .approved := by
    by_contra hne
    refine hstatus ⟨state, hstate, ?_⟩
    simp [hnotQueued, hne]
  have h₁ : LedgerInv s w₁ := (h.of_updatedFrom (World.updatedFrom_draw w)).updateRow hw₁
    ((h.fresh id state hstate).trans_le ((Nat.le_succ _).trans hw₁.nextId))
    fun _ => ⟨state, hstate, hnotQueued⟩
  have hfiled := h.filed id
  rw [Filed, hstate] at hfiled
  obtain ⟨-, honce, -⟩ : Queued s id state := by
    rcases hfiled with hq | hheld | hdone
    · exact hq
    · exact absurd hheld.1.1 hnotQueued
    · exact absurd hdone.1 (by simp [happroved])
  have hadopted : SoftwareEngineeringTaskContinuation.adopted s id
      (ActionRecovery.claimedAction id row objective w.nextId) = s := by
    have hsome : s.actionQueue.get id ≠ none := fun hnone => by
      rw [ActionQueue.get_eq_none_iff.mp hnone] at honce
      cases honce
    simp [SoftwareEngineeringTaskContinuation.adopted, hsome, hstate, happroved]
  refine SoftwareEngineeringTaskContinuation.ensures_continueClaimed (fun _ _ _ => trivial)
    (fun _ _ _ hw hinv => hinv.of_updatedFrom hw) h₁ fun _ => ?_
  rw [hadopted]
  exact ledgerInv_processAction hobserver h₁

end Execute

end Invariant

/-! ### Runs -/

section Runs

variable [PyStd] {R : RunRepository} {env : Environment}

/-- The process that asks an arbitrary permission engine, with an arbitrary observer. -/
def Container.asking (registry : WorkerExecutorRegistry) (observer : WorkerExecutionObserver)
    (maxTransientRetries : Int) (reviewer : Bool) : Container where
  executorRegistry := registry
  permissionEngine := askPermission
  executionObserver := observer
  maxTransientRetries
  reviewer

/-- Every call that an operation makes is calm. -/
def Container.CalmStep (env : Environment) (c : Container) (x : Site R) (op : ContainerOp) : Prop :=
  (c.method op).Ensures (outside env R) (fun call w => env.Calm w.history call)
    (fun _ _ _ => True) x.stores x.world

/-- The process after an operation. -/
def Container.next (env : Environment) (c : Container) (x : Site R) (op : ContainerOp) : Site R :=
  (c.step env x op).2

variable {registry : WorkerExecutorRegistry} {observer : WorkerExecutionObserver}
  {maxTransientRetries : Int} {reviewer : Bool} {op : ContainerOp} {s : Stores} {w : World R}

/-- Where every call is calm, every operation keeps the stores in step. -/
theorem ledgerInv_method (hobserver : observer.Steady R) (h : LedgerInv s w) :
    ((Container.asking registry observer maxTransientRetries reviewer).method op).Ensures
      (outside env.calmed R) (fun _ _ => True) (fun _ s w => LedgerInv s w) s w := by
  have hobserver' : (Container.asking registry observer maxTransientRetries
      reviewer).executionObserver.Steady R := hobserver
  cases op with
  | accept event =>
    rw [Container.method, Proc.ensures_discard, EventWorkflowService.ensures_accept]
    split_ifs
    · exact h
    · exact h.setEvents _
  | process eventId route =>
    rw [Container.method, Proc.ensures_discard]
    refine EventWorkflowService.ensures_process_base (fun _ _ _ => trivial)
      (decides_calmed fun _ _ _ => trivial) (fun events w' hw' => (h.of_updatedFrom hw').setEvents events)
      fun events processedEvent type w₁ s' w' hw₁ _ hplaced hw' => ?_
    have hevents : LedgerInv (s.setEvents events) w₁ := (h.of_updatedFrom hw₁).setEvents events
    have hw'' : w'.UpdatedFrom w₁ w₁.row := hw₁.row ▸ hw'.trans (World.updatedFrom_draw w₁)
    have hlt : (BasePlanner.plannedAction processedEvent type w₁.nextId).id < w'.nextId := hw'.nextId
    exact hevents.placed (le_refl w₁.nextId) hw'' hlt hplaced
  | delegateTask request =>
    rw [Container.method, Proc.ensures_discard]
    refine ActionTaskDelegator.ensures_delegate (fun _ _ _ => trivial)
      (decides_calmed fun _ _ _ => trivial) fun r s' w' hdelegated hw' => ?_
    have hlt : (ActionTaskDelegator.actionFor request w.nextId).id < w'.nextId := hw'.nextId
    exact h.placed (le_refl _) (hw'.trans (World.updatedFrom_draw w)) hlt hdelegated.placed
  | delegate objective target =>
    rw [Container.method, Proc.ensures_discard]
    exact SoftwareEngineeringTaskIngress.ensures_delegate (fun _ _ _ => trivial)
      (decides_calmed fun _ _ _ => trivial) (fun _ _ _ _ _ => trivial)
      fun _ _ _ hdelegated => h.delegated hdelegated
  | decide id d =>
    rw [Container.method, Proc.ensures_discard]
    exact Decision.ensures_perform (fun _ _ _ => trivial) (fun _ _ _ _ _ _ _ => trivial)
      (fun _ _ _ _ _ _ _ _ _ _ _ => trivial) fun _ _ _ hdecided => h.decided hdecided
  | processNext =>
    rw [Container.method, Proc.ensures_discard]
    exact ledgerInv_processNext hobserver' h
  | processAction id =>
    rw [Container.method, Proc.ensures_discard]
    exact ledgerInv_processAction hobserver' h
  | execute id =>
    rw [Container.method, Proc.ensures_discard]
    exact ledgerInv_execute hobserver' h

/-- A calm operation keeps the stores in step. -/
theorem ledgerInv_step {x : Site R} (hobserver : observer.Steady R)
    (hcalm : (Container.asking registry observer maxTransientRetries reviewer).CalmStep env x op)
    (h : LedgerInv x.stores x.world) :
    LedgerInv ((Container.asking registry observer maxTransientRetries reviewer).next env x op).stores
      ((Container.asking registry observer maxTransientRetries reviewer).next env x op).world := by
  have hensures : ((Container.asking registry observer maxTransientRetries reviewer).method op).Ensures
      (outside env.calmed R) (fun _ _ => True) (fun _ s w => LedgerInv s w) x.stores x.world :=
    ledgerInv_method hobserver h
  have hrun := hensures.run
  have hsame := Prog.Always.run_congr (k := outside env.calmed R)
    (fun c w hc => Environment.outside_calmed hc) hcalm
  rw [Proc.run, hsame] at hrun
  exact hrun

omit [PyStd] in
theorem ledgerInv_initial : LedgerInv (Site.initial R).stores (Site.initial R).world where
  filed _ := ⟨rfl, rfl⟩
  keyed _ _ hget := nomatch hget
  fresh _ _ hget := nomatch hget
  row id _ hrow := nomatch (World.row_initial id).symm.trans hrow
  approved id _ hrow := nomatch (World.row_initial id).symm.trans hrow

/-- In every run whose operations are calm, no action is lost or duplicated. -/
theorem ledger_of_calm (hobserver : observer.Steady R) (ops : List ContainerOp)
    (hcalm : Run.Along (Container.next env (.asking registry observer maxTransientRetries reviewer))
      (Container.CalmStep env (.asking registry observer maxTransientRetries reviewer))
      (Site.initial R) ops) :
    Ledger (Run.after (Container.next env (.asking registry observer maxTransientRetries reviewer))
      (Site.initial R) ops).stores :=
  ledger_of_filed (Run.Along.invariant (I := fun x => LedgerInv x.stores x.world)
    (fun _ _ hstep h => ledgerInv_step hobserver hstep h) hcalm ledgerInv_initial).filed

end Runs

/-! ### A decision that cannot be serialized -/

/-- A permission engine that allows every action, with an object in its metadata. -/
def Environment.objectInMetadata : Environment :=
  { Environment.cooperative with
    evaluatePermission := fun _ _ =>
      .ok (some { metadata := .ofList [("policy", .object ⟨true, none, none⟩)] }) }

/-- A process without operations, then one delegation. -/
def afterDelegation (env : Environment) : Site inMemoryRunRepository :=
  @Container.next .ascii _ env (.asking .codingOnly InMemoryWorkerExecutionObserver.observer 3 false)
    (.initial _) (@ContainerOp.delegate .ascii "add a test" "velox")

/-- Delegating raises after the lifecycle state is stored: the action is approved and
not queued. -/
theorem not_ledger_of_unserializable : ¬Ledger (afterDelegation .objectInMetadata).stores := by
  intro h
  have hstate : (afterDelegation .objectInMetadata).stores.lifecycle.get 0 =
      some { status := .approved } := rfl
  have hnone : (afterDelegation .objectInMetadata).stores.actionQueue.occurrences 0 = 0 := rfl
  rcases h.entry 0 _ hstate with ⟨⟨-, honce, -⟩, -⟩ | ⟨-, ⟨hawaits, -⟩, -⟩ | ⟨-, -, ⟨hdone, -⟩⟩
  · rw [hnone] at honce
    cases honce
  · exact nomatch hawaits.1
  · simp at hdone

theorem calm_cooperative (history : List OutsideCall) (c : OutsideCall) :
    Environment.cooperative.Calm history c := by
  cases c with
  | evaluatePermission action =>
    intro decision hdecision _
    obtain rfl := Option.some.inj (Except.ok.inj hdecision)
    rfl
  | execute execution => exact fun e he => nomatch he
  | _ => trivial

/-- A run in which every decision is recorded. -/
theorem ledger_of_one_delegation :
    Ledger (Run.after (@Container.next .ascii _ .cooperative
      (.asking .codingOnly InMemoryWorkerExecutionObserver.observer 3 false))
      (Site.initial inMemoryRunRepository)
      [@ContainerOp.delegate .ascii "add a test" "velox"]).stores :=
  @ledger_of_calm .ascii _ .cooperative .codingOnly _ 3 false (steady_inMemory _)
    [@ContainerOp.delegate .ascii "add a test" "velox"]
    ⟨Prog.Always.mono (Prog.always_of_run trivial) (fun c w _ => calm_cooperative w.history c)
      fun _ _ => id, trivial⟩

end Velox
