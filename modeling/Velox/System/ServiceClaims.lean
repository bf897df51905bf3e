import Velox.System.ServiceOps

/-!
# Claims that pay for executions

A continuation invokes an executor for its action only after it was granted the claim of the
action, and once for every claim.

## Main definitions

* `invocations`, `grants` — invocations of executors, and the claims that pay for them
* `Paid` — the calls a continuation may make after some exchanges

## Main results

* `Deployment.calls_method` — no operation makes a call that is not its own
* `Deployment.affords_method` — an operation invokes an executor for an action no more often
  than it was granted a claim of it
-/

set_option autoImplicit false

namespace Velox

/-! ### A continuation executes what it has claimed -/

/-- An invocation of an executor for an action. -/
def invocations (id : UUID) : OutsideCall → ℕ
  | .execute execution => if execution.action.id = id then 1 else 0
  | _ => 0

/-- A claim that was granted. -/
def grants (id : UUID) : Exchange Outside → ℕ
  | ⟨.store (.claimApproved _ _ id'), .ok _⟩ => if id' = id then 1 else 0
  | _ => 0

/-- A call of a continuation that it may make after some exchanges. -/
def Paid [PyStd] (id : UUID) (t : List (Exchange Outside)) (c : OutsideCall) : Prop :=
  (ServiceOp.execute id).Permits c ∧ Pool.Affords (invocations id) (grants id) t c

/-- What a continuation has left. -/
abbrev Left (id : UUID) (n : ℕ) (t : List (Exchange Outside)) : Prop :=
  Pool.Leaves (invocations id) (grants id) n t

theorem invocations_of_observing {id : UUID} {c : OutsideCall} (h : c.Observing) :
    invocations id c = 0 := by
  cases c with
  | execute execution => exact h.elim
  | _ => rfl

section Paid

variable [PyStd] {σ α : Type} {id : UUID} {n : ℕ} {t : List (Exchange Outside)}

theorem paid_of_left {c : OutsideCall} (hc : c.Observing) (ht : Left id n t) : Paid id t c :=
  ⟨ServiceOp.permits_of_observing hc,
    ht.affords ((invocations_of_observing hc).le.trans (Nat.zero_le n))⟩

omit [PyStd] in
theorem left_append {c : OutsideCall} (hc : c.Observing) (r : OutsideCall.Reply c)
    (ht : Left id n t) : Left id n (t ++ [⟨c, r⟩]) :=
  (ht.add (invocations_of_observing hc) r).mono (Nat.le_add_right n _)

theorem paid_of_observing {m : Proc Outside σ Raised α}
    (hm : m.Calls OutsideCall.Observing fun _ => True) {s : σ} (ht : Left id n t) :
    m.Traced (Paid id) (fun t _ _ => Left id n t) s t := by
  have htraced : (m s).Traced (Paid id) (fun t _ => True ∧ Left id n t) t :=
    Prog.Calls.traced_keeps (fun _ _ => paid_of_left) (fun _ _ r hc => left_append hc r) (hm s) ht
  exact htraced.mono fun _ _ _ h => h.2

theorem paid_of_harmless {m : Proc Outside σ Raised α}
    (hm : m.Calls OutsideCall.Harmless fun _ => True) {s : σ} (ht : Left id n t) :
    m.Traced (Paid id) (fun t _ _ => Left id n t) s t :=
  paid_of_observing (hm.permit fun _ => OutsideCall.observing_of_harmless) ht

/-- What a step that claims leaves: a token if it returned. -/
def Claimed (id : UUID) (t : List (Exchange Outside)) (r : Except Raised α) : Prop :=
  r.either (fun _ => Left id 1 t) fun _ => Left id 0 t

theorem paid_onRunStateError {m : Proc Outside σ Raised α} {replacement : Raised} {s : σ}
    (hm : m.Traced (Paid id) (fun t r _ => Claimed id t r) s t) :
    (onRunStateError m replacement).Traced (Paid id) (fun t r _ => Claimed id t r) s t := by
  rw [onRunStateError, Proc.traced_tryCatch]
  refine hm.mono fun t r s _ h => ?_
  cases r with
  | ok a => exact h
  | error e =>
    dsimp only [Except.either]
    split_ifs <;> exact h

theorem paid_claimApproved (ht : Left id 0 t) :
    (Repository.claimApproved id : Task ActionClaim).Traced (Paid id)
      (fun t r _ => Claimed id t r) () t := by
  refine ⟨paid_of_left trivial ht, fun claimId => ?_⟩
  have hdrawn := left_append (c := .uuid4) trivial claimId ht
  refine ⟨paid_of_left trivial hdrawn, fun claimedAt => ?_⟩
  have hstamped := left_append (c := .utcnow) trivial claimedAt hdrawn
  refine ⟨⟨rfl, hstamped.affords (Nat.le_refl 0)⟩, fun r => ?_⟩
  have hclaimed := hstamped.add (c := .store (.claimApproved claimedAt claimId id)) rfl r
  cases r with
  | error e => exact hclaimed
  | ok claim =>
    refine hclaimed.mono ?_
    show 1 ≤ 0 + if id = id then 1 else 0
    rw [if_pos rfl]

theorem paid_claim (ht : Left id 0 t) :
    (ActionRecovery.claim id).Traced (Paid id) (fun t r _ => Claimed id t r) () t := by
  rw [ActionRecovery.claim, Proc.traced_bind]
  have hget : (onRunStateError (Repository.get id)
      (recoveryError "software engineering claim state is unavailable") :
        Task (Option RunState)).Calls OutsideCall.Harmless fun _ => True :=
    calls_onRunStateError (Proc.Calls.request trivial fun _ => trivial)
  refine (paid_of_harmless hget ht).mono fun t r _ _ ht => ?_
  rcases r with e | _ | state
  · exact ht
  · exact ht
  simp only [Except.either_ok, Proc.traced_bind, Proc.traced_ofExcept]
  cases ActionRecovery.requireCanonicalState state with
  | error e => exact ht
  | ok _ =>
    rw [Except.either_ok]
    refine (paid_onRunStateError (paid_claimApproved ht)).mono fun t r _ _ hr => ?_
    cases r <;> exact hr

theorem paid_claimForExecution (ht : Left id 0 t) :
    (SoftwareEngineeringTaskContinuation.claimForExecution id).Traced (Paid id)
      (fun t r _ => Claimed id t r) () t := by
  rw [SoftwareEngineeringTaskContinuation.claimForExecution, Proc.traced_tryCatch]
  refine (paid_claim ht).mono fun t r _ _ hr => ?_
  cases r with
  | ok action => exact hr
  | error e =>
    dsimp only [Except.either]
    split <;> exact hr

/-- An execution spends the token of its claim. -/
theorem paid_invoke {resolution : WorkerExecutorResolution} {action : Action} (hid : action.id = id)
    (ht : Left id 1 t) :
    (WorkerRuntime.invoke resolution action).Traced (Paid id) (fun t _ _ => Left id 0 t) () t := by
  rw [WorkerRuntime.invoke, Proc.traced_tryCatch, WorkerExecutorResolution.execute]
  cases resolution.executor with
  | noOp => exact ht.mono (Nat.zero_le 1)
  | provider identity =>
    have hcost : invocations id (.execute (resolution.execution identity action)) = 1 := if_pos hid
    have hpermits : (ServiceOp.execute id).Permits
        (.execute (resolution.execution identity action)) := congrArg ServiceOp.execute hid.symm
    refine ⟨⟨hpermits, ht.affords hcost.le⟩, fun r => ?_⟩
    have hspent : Left id 0 (t ++ [⟨.execute (resolution.execution identity action), r⟩]) := by
      apply Pool.Leaves.spend
      rw [hcost]
      exact ht
    cases r with
    | ok result => exact hspent
    | error e =>
      show Proc.Traced (Paid id) (fun t _ _ => Left id 0 t)
        (if e.isException then pure (raisedResult action e) else throw e : Task _) () _
      split_ifs <;> exact hspent

theorem harmless_settle {maxTransientRetries : ℤ} {action : Action} {executing : ActionLifecycleState}
    {result : WorkerExecutionResult} :
    (WorkerRuntime.settle maxTransientRetries action executing result).Calls
      OutsideCall.Harmless fun _ => True := by
  apply Proc.Calls.seq (Proc.Calls.ofExcept trivial)
  intro lifecycleState
  apply Proc.Calls.seq Proc.Calls.modify
  intro _
  split_ifs
  · apply Proc.Calls.seq (Proc.Calls.ofExcept trivial)
    intro retryCount
    split_ifs
    · apply Proc.Calls.seq (Proc.Calls.ofExcept trivial)
      intro retryState
      apply Proc.Calls.seq Proc.Calls.modify
      intro _
      exact Proc.Calls.seq Proc.Calls.modify fun _ => Proc.Calls.pure trivial
    · exact Proc.Calls.pure trivial
  · exact Proc.Calls.pure trivial

theorem paid_executeAction {runtime : WorkerRuntime} {action : Action}
    {executing : ActionLifecycleState} (hobserver : runtime.executionObserver = durableObserver)
    (hid : action.id = id) {s : Stores} (ht : Left id 1 t) :
    (WorkerRuntime.executeAction runtime action executing).Traced (Paid id)
      (fun t _ _ => Left id 0 t) s t := by
  have hspare (t) (ht : Left id 1 t) : Left id 0 t := ht.mono (Nat.zero_le 1)
  rw [WorkerRuntime.executeAction, hobserver]
  apply Proc.Traced.seq (I := Left id 1) (paid_of_harmless Proc.Calls.modify ht) hspare
  intro _ s t ht
  apply Proc.Traced.seq (I := Left id 1) (paid_of_observing (Proc.Calls.embed observing_start) ht) hspare
  intro observation s t ht
  apply Proc.Traced.seq (I := Left id 0) (Proc.traced_embed.mpr (paid_invoke hid ht)) fun _ ht => ht
  intro result s t ht
  -- the token is spent
  have hrest : (do
      let observation ← Proc.embed (durableObserver.finish observation {
        status := result.status
        metadata := result.metadata
        reason := result.reason
        failure := failureForResult result })
      let lifecycleState ←
        WorkerRuntime.settle runtime.maxTransientRetries action executing result
      Proc.ofExcept (WorkerRuntime.executedResult
        (runtime.executorRegistry.resolveWithRegistration action) result observation
          lifecycleState) : Service WorkerProcessingResult).Calls OutsideCall.Observing
        fun _ => True :=
    Proc.Calls.seq (Proc.Calls.embed observing_finish) fun _ =>
      Proc.Calls.seq (harmless_settle.permit fun _ => OutsideCall.observing_of_harmless) fun _ =>
        Proc.Calls.ofExcept trivial
  exact paid_of_observing hrest ht

theorem paid_processDequeuedAction {runtime : WorkerRuntime} {action : Action}
    (hobserver : runtime.executionObserver = durableObserver) (hid : action.id = id) {s : Stores}
    (ht : Left id 1 t) :
    (WorkerRuntime.processDequeuedAction runtime action).Traced (Paid id)
      (fun t _ _ => Left id 0 t) s t := by
  have hspare (t) (ht : Left id 1 t) : Left id 0 t := ht.mono (Nat.zero_le 1)
  apply Proc.Traced.seq (I := Left id 1) (Proc.traced_get.mpr ht) hspare
  intro s' s t ht
  dsimp only
  split
  · exact hspare t ht
  · apply Proc.Traced.seq (I := Left id 1) (Proc.traced_ofExcept.mpr ht) hspare
    intro lifecycleState s t ht
    split
    · exact hspare t ht
    · apply Proc.Traced.seq (I := Left id 1) (Proc.traced_ofExcept.mpr ht) hspare
      intro executing s t ht
      exact paid_executeAction hobserver hid ht

theorem paid_processAction {runtime : WorkerRuntime}
    (hobserver : runtime.executionObserver = durableObserver) {s : Stores} (ht : Left id 1 t) :
    (WorkerRuntime.processAction runtime id).Traced (Paid id) (fun t _ _ => Left id 0 t) s t := by
  have hspare (t) (ht : Left id 1 t) : Left id 0 t := ht.mono (Nat.zero_le 1)
  have htaken {action : Action} (hid : action.id = id) {s : Stores} {t} (ht : Left id 1 t) : (do
      modify fun s => s.setQueue (s.actionQueue.remove id).2
      WorkerRuntime.processDequeuedAction runtime action :
        Service WorkerProcessingResult).Traced (Paid id) (fun t _ _ => Left id 0 t) s t :=
    Proc.Traced.seq (I := Left id 1) (paid_of_harmless Proc.Calls.modify ht) hspare
      fun _ _ _ ht => paid_processDequeuedAction hobserver hid ht
  apply Proc.Traced.seq (I := Left id 1) (Proc.traced_get.mpr ht) hspare
  intro s' s t ht
  split
  · exact hspare t ht
  · rename_i action hget
    have hid : action.id = id := ActionQueue.id_of_get hget
    split
    · split_ifs
      · exact hspare t ht
      · exact htaken hid ht
    · exact htaken hid ht

omit [PyStd] in
theorem harmless_reviewAfterExecution {reviewer : Bool} :
    (SoftwareEngineeringTaskContinuation.reviewAfterExecution reviewer id).Calls
      OutsideCall.Harmless fun _ => True := by
  cases reviewer with
  | false => exact Proc.Calls.pure trivial
  | true =>
    apply Proc.Calls.handle
    · exact Proc.Calls.seq (Proc.Calls.request trivial fun _ => trivial) fun _ =>
        Proc.Calls.pure trivial
    · intro error
      split_ifs
      · exact Proc.Calls.pure trivial
      · exact Proc.Calls.throw trivial

theorem paid_continueClaimed {runtime : WorkerRuntime} {reviewer : Bool}
    {lifecycle : Option ActionLifecycleState} {queued : Option Action} {recovered : Action}
    (hobserver : runtime.executionObserver = durableObserver) {s : Stores} (ht : Left id 1 t) :
    (SoftwareEngineeringTaskContinuation.continueClaimed runtime reviewer id lifecycle queued
      recovered).Traced (Paid id) (fun t _ _ => Left id 0 t) s t := by
  have hspare (t) (ht : Left id 1 t) : Left id 0 t := ht.mono (Nat.zero_le 1)
  have hadopt : (SoftwareEngineeringTaskContinuation.adoptClaim id lifecycle queued
      recovered).Calls OutsideCall.Harmless fun _ => True := by
    have hlifecycle : (if lifecycle.all (·.status = .queued) then
        modify fun s => s.setLifecycle id
          SoftwareEngineeringTaskContinuation.recoveredLifecycleState
      else pure () : Service Unit).Calls OutsideCall.Harmless fun _ => True := by
      split_ifs
      · exact Proc.Calls.modify
      · exact Proc.Calls.pure trivial
    cases queued with
    | none => exact Proc.Calls.seq Proc.Calls.modify fun _ => hlifecycle
    | some action => exact Proc.Calls.seq (Proc.Calls.ofExcept trivial) fun _ => hlifecycle
  apply Proc.Traced.seq (I := Left id 1) (paid_of_harmless hadopt ht) hspare
  intro _ s t ht
  apply Proc.Traced.seq (I := Left id 0) (paid_processAction hobserver ht) fun _ ht => ht
  intro processing s t ht
  split
  · exact paid_of_harmless (Proc.Calls.seq (Proc.Calls.embed harmless_reviewAfterExecution)
      fun _ => Proc.Calls.pure trivial) ht
  · exact ht

theorem paid_execute {runtime : WorkerRuntime} {reviewer : Bool}
    (hobserver : runtime.executionObserver = durableObserver) {s : Stores} (ht : Left id 0 t) :
    (SoftwareEngineeringTaskContinuation.execute runtime reviewer id).Traced (Paid id)
      (fun t _ _ => Left id 0 t) s t := by
  apply Proc.Traced.seq (I := Left id 0) (Proc.traced_get.mpr ht) fun _ ht => ht
  intro s' s t ht
  apply Proc.Traced.seq (I := Left id 0) (Proc.traced_ofExcept.mpr ht) fun _ ht => ht
  intro _ s t ht
  have hclaimed {queued : Option Action} {s : Stores} {t} (ht : Left id 0 t) : (do
      let recovered ← Proc.embed (SoftwareEngineeringTaskContinuation.claimForExecution id)
      SoftwareEngineeringTaskContinuation.continueClaimed runtime reviewer id
        (s'.lifecycle.get id) queued recovered :
        Service ContinuationResult).Traced (Paid id) (fun t _ _ => Left id 0 t) s t := by
    rw [Proc.traced_bind, Proc.traced_embed]
    refine (paid_claimForExecution ht).mono fun t r _ _ hr => ?_
    cases r with
    | error e => exact hr
    | ok recovered => exact paid_continueClaimed hobserver hr
  dsimp only
  cases s'.actionQueue.get id with
  | none => exact hclaimed ht
  | some action =>
    apply Proc.Traced.seq (I := Left id 0) (Proc.traced_ofExcept.mpr ht) fun _ ht => ht
    exact fun _ _ _ ht => hclaimed ht

end Paid

/-! ### No operation makes another call -/

namespace Deployment

variable [PyStd]

theorem paid_method (d : Deployment) (id : UUID) (s : Stores) :
    (d.method (.execute id)).Traced (Paid id) (fun t _ _ => Left id 0 t) s [] :=
  Proc.Traced.seq (I := Left id 0) (paid_execute rfl (Nat.le_refl 0)) (fun _ ht => ht)
    fun _ _ _ ht => ht

/-- Whatever the replies, an operation makes only the calls it may make. -/
theorem calls_method (d : Deployment) (op : ServiceOp) (s : Stores) :
    (d.method op s).Calls op.Permits fun _ => True := by
  cases op with
  | accept event => exact permits_of_calls (Proc.Calls.discard harmless_accept) s
  | process eventId route => exact permits_of_calls (Proc.Calls.discard harmless_process) s
  | delegateTask request => exact permits_of_calls (Proc.Calls.discard harmless_delegateTask) s
  | delegate objective target => exact Proc.Calls.discard calls_delegate s
  | listPending =>
    exact permits_of_calls (Proc.Calls.discard (Proc.Calls.embed harmless_listPending)) s
  | decide id decision => exact Proc.Calls.discard (calls_perform decision) s
  | execute id => exact Prog.Traced.calls (paid_method d id s) fun _ _ hpaid => hpaid.1
  | status id => exact permits_of_calls (Proc.Calls.discard (Proc.Calls.embed harmless_status)) s
  | reconcile id resolution stateToken acknowledged =>
    exact Proc.Calls.discard (Proc.Calls.embed calls_reconcile) s
  | dispose id disposition =>
    exact Proc.Calls.discard (Proc.Calls.embed calls_applyDisposition) s
  | promote id title body => exact Proc.Calls.discard (Proc.Calls.embed calls_publish) s

/-- Whatever the replies, an operation invokes an executor for an action no more often than
it was granted a claim of it. -/
theorem affords_method (d : Deployment) (op : ServiceOp) (s : Stores) (id : UUID) :
    (d.method op s).Traced (Pool.Affords (invocations id) (grants id)) (fun _ _ => True) [] := by
  by_cases hop : op = .execute id
  · subst hop
    exact (Prog.Traced.permit (paid_method d id s) fun _ _ _ h => h.2).mono fun _ _ _ _ => trivial
  · have hfree (c : OutsideCall) (hc : op.Permits c) : invocations id c = 0 := by
      cases c with
      | execute execution =>
        refine if_neg fun hid => hop ?_
        rw [← hid]
        exact hc
      | _ => rfl
    have hnil : Left id 0 [] := Nat.le_refl 0
    have htraced := Prog.Calls.traced_keeps (K := Pool.Affords (invocations id) (grants id))
      (I := Left id 0) (fun t c hc ht => ht.affords (hfree c hc).le)
      (fun t c r hc ht => (ht.add (hfree c hc) r).mono (Nat.zero_le _)) (calls_method d op s)
      hnil
    exact htraced.mono fun _ _ _ _ => trivial

end Deployment

end Velox
