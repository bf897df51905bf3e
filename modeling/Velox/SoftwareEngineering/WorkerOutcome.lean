import Velox.Integrations.ClaudeCodeOutcome
import Velox.SoftwareEngineering.RestartTransparency

/-!
# What is recorded of a coding worker

The executor that runs a coding worker is invoked by the runtime, and what it returns is
handed to the observer and recorded in the durable row. An execution that ran the worker
and returns is recorded as one, and as a success exactly if the worker's process, both
checkouts and its report bear it out.

## Main definitions

* `CodingProvider` — a coding executor on a machine
* `Environment.hosting` — collaborators with a coding provider among the executors

## Main results

* `ensures_executeAction_hosting` — the row a coding execution leaves
* `workerOutcome_recorded` — what is recorded of a worker that was run
-/

set_option autoImplicit false

namespace Velox

open ClaudeCodeSoftwareEngineeringExecutor (Course Ran Undisturbed Completed traced_execute)

/-! ### A coding provider -/

/-- A coding executor on a machine, whose state may depend on everything the process asked
for before. -/
structure CodingProvider (V : Type) where
  executor : ClaudeCodeSoftwareEngineeringExecutor
  host : Handler Host V
  machine : List OutsideCall → V

namespace CodingProvider

variable [PyParse] [PyJson] {V : Type} (p : CodingProvider V) (history : List OutsideCall)
  (execution : Execution)

/-- What the executor returns or raises. -/
def reply : Except Raised WorkerExecutionResult :=
  ((p.executor.execute execution.action execution.capability).run p.host ()
    (p.machine history)).1.1

/-- What the executor asks of the machine, and what it is answered. -/
def log : HostLog :=
  (p.executor.execute execution.action execution.capability ()).transcript p.host
    (p.machine history)

theorem course :
    Course p.executor execution.action (p.log history execution) (p.reply history execution) :=
  Prog.Traced.result traced_execute p.host (p.machine history)

end CodingProvider

/-- Collaborators with a coding provider among the executors. -/
def Environment.hosting [PyParse] [PyJson] {V : Type} (env : Environment) (identity : ℕ)
    (p : CodingProvider V) : Environment :=
  { env with
    execute := fun history execution =>
      if execution.executor = identity then p.reply history execution
      else env.execute history execution }

namespace DurableExecutionObserver

variable {R : RunRepository} {env : Environment} {w w' : World R} {u : Unit}

/-! ### Observing leaves the history alone -/

/-- A call that is not kept in the history. -/
def Unlogged : OutsideCall → Prop
  | .utcnow | .store _ => True
  | _ => False

theorem history_of_calls {α : Type} {m : Task α} (hm : m.Calls Unlogged fun _ => True) :
    m.Ensures (outside env R) (fun _ _ => True) (fun _ _ w' => w'.history = w.history) u w := by
  have hstep : ∀ (c : OutsideCall) (v : World R), Unlogged c → v.history = w.history →
      (outside env R c v).2.history = w.history := by
    intro c v hc hv
    cases c with
    | utcnow | store => exact hv
    | _ => exact hc.elim
  have hensures := Proc.Calls.ensures (I := fun v : World R => v.history = w.history)
    (P := fun _ _ => True) (s := u) (fun _ _ _ => trivial) hstep hm rfl
  exact hensures.mono fun _ _ _ h => h.1

theorem calls_stamped {write : DateTime → RunWrite} :
    (Repository.stamped write : Task RunState).Calls Unlogged fun _ => True :=
  .bind (A := fun _ => True) (.request trivial fun _ => trivial)
    (fun _ _ => .request trivial fun _ => trivial) fun _ _ => trivial

theorem calls_start (e : ExecutionStart) :
    (durableObserver.start e).Calls Unlogged fun _ => True := by
  refine .bind (A := fun _ => True) ?_ (fun observation _ => ?_) fun _ _ => trivial
  · exact .bind (A := fun _ => True) (.request trivial fun _ => trivial) (fun _ _ => .pure trivial)
      fun _ _ => trivial
  split_ifs
  · refine .bind (A := fun _ => True) calls_stamped (fun state _ => ?_) fun _ _ => trivial
    split_ifs
    · exact .bind (A := fun _ => True) calls_stamped (fun _ _ => .pure trivial) fun _ _ => trivial
    · exact .pure trivial
  · exact .pure trivial

theorem calls_finish (observation : WorkerExecutionObservation) (e : ExecutionFinish) :
    (durableObserver.finish observation e).Calls Unlogged fun _ => True := by
  refine .bind (A := fun _ => True) ?_ (fun finished _ => ?_) fun _ _ => trivial
  · exact .bind (A := fun _ => True) (.request trivial fun _ => trivial) (fun _ _ => .pure trivial)
      fun _ _ => trivial
  split_ifs
  · split
    · exact .throw trivial
    · exact .bind (A := fun _ => True) calls_stamped (fun _ _ => .pure trivial) fun _ _ => trivial
  · exact .pure trivial

/-! ### The row an execution leaves -/

/-- What an execution can leave: nobody was invoked, or one provider was, and on the
canonical route its result was recorded. -/
def Recorded (env : Environment) (w : World R) (resolution : WorkerExecutorResolution)
    (action : Action) (w' : World R) : Prop :=
  w'.history = w.history ∨ ∃ executor, resolution.executor = .provider executor ∧
    w'.history = w.history ++ [.execute (resolution.execution executor action)] ∧
    ∀ result, invoked env w (resolution.execution executor action) = .ok result →
      IsCanonicalRoute resolution.requestedRole resolution.requestedCapability →
      ∃ row, w'.row action.id = some row ∧ row.executionStatus = some result.status.value ∧
        row.externalExecutionPerformed = some (externalExecutionPerformed result.metadata)

theorem invoked_congr (h : w'.history = w.history) (execution : Execution) :
    invoked env w' execution = invoked env w execution := by
  rw [invoked, invoked, h]

/-- On the canonical route there is a row once a start was observed. -/
theorem Started.exists_row {e : ExecutionStart} {observation : WorkerExecutionObservation}
    (h : Started w e (.ok observation) w')
    (hroute : IsCanonicalRoute e.requestedRole e.requestedCapability) :
    ∃ row, w'.row e.action.id = some row := by
  cases h with
  | other observation w' hobserves hnot hw' => exact absurd hroute hnot
  | registered observation now state w' hobserves hroute hregister hunclaimed hw' =>
    exact ⟨state, hw'.row_self⟩
  | started observation now now' state state' w' hobserves hroute hregister hstart hw' =>
    exact ⟨state', hw'.row_self⟩

/-- On the canonical route a result is recorded, once there is a row. -/
theorem Finished.exists_row {observation : WorkerExecutionObservation}
    {result : WorkerExecutionResult} {r : Except Raised WorkerExecutionObservation}
    (h : Finished w observation (finishOf result) r w')
    (hroute : IsCanonicalRoute observation.requestedRole observation.requestedCapability)
    (hrow : ∃ row, w.row observation.actionId = some row) :
    ∃ row, w'.row observation.actionId = some row ∧
      row.executionStatus = some result.status.value ∧
      row.externalExecutionPerformed = some (externalExecutionPerformed result.metadata) := by
  cases h with
  | other finished w' hnot hw' => exact absurd hroute hnot
  | refused error w' hw' hnone =>
    obtain ⟨row, hrow⟩ := hrow
    cases hnone.symm.trans hrow
  | recorded finished now finishedAt row w' hroute hrow hw' =>
    exact ⟨_, hw'.row_self, rfl, rfl⟩

theorem Recorded.of_finished {resolution : WorkerExecutorResolution} {action : Action}
    {observation : WorkerExecutionObservation} {result : WorkerExecutionResult}
    {r : Except Raised WorkerExecutionObservation} {w₁ w₂ : World R}
    (hstarted : Started w (resolution.executionStart action) (.ok observation) w₁)
    (hhistory : w₁.history = w.history)
    (hinvoked : Invoked env w₁ resolution action (.ok result) w₂)
    (hfinished : Finished w₂ observation (finishOf result) r w') (hkept : w'.history = w₂.history) :
    Recorded env w resolution action w' := by
  generalize hreply : (Except.ok result : Except Raised WorkerExecutionResult) = reply at hinvoked
  cases hinvoked with
  | noOp hexecutor => exact Or.inl (hkept.trans hhistory)
  | provider executor hexecutor =>
    refine Or.inr ⟨executor, hexecutor, ?_, fun result' hresult' hroute => ?_⟩
    · rw [hkept, World.history_log, hhistory]
    rw [invoked_congr hhistory, hresult'] at hreply
    obtain rfl := Except.ok.inj hreply
    have hobserves := hstarted.observes
    have hroute' : IsCanonicalRoute observation.requestedRole observation.requestedCapability := by
      rw [hobserves.requestedRole, hobserves.requestedCapability]
      exact hroute
    obtain ⟨row, hrow⟩ := hstarted.exists_row hroute
    have hid : observation.actionId = action.id := hobserves.actionId
    rw [← hid]
    exact hfinished.exists_row hroute' ⟨row, by rw [hid]; exact hrow⟩

/-- An execution leaves nothing behind but what it recorded of the provider's result. -/
theorem recorded_executeAction [PyStd] {registry : WorkerExecutorRegistry}
    {maxTransientRetries : Int} {action : Action} {executing : ActionLifecycleState} {s : Stores}
    (hstatus : executing.status = .executing) :
    ((observedRuntime registry maxTransientRetries).executeAction action executing).Ensures
      (outside env R) (fun _ _ => True)
      (fun _ _ w' => Recorded env w (registry.resolveWithRegistration action) action w') s w := by
  set resolution := registry.resolveWithRegistration action with hresolution
  have hquiet : PermitsQuiet fun (_ : OutsideCall) (_ : World R) => True := fun _ _ _ => trivial
  refine WorkerRuntime.ensures_executeAction
    (S := fun r w₁ => Started w (resolution.executionStart action) r w₁ ∧ w₁.history = w.history)
    (I := fun observation r w₂ => ∃ w₁, Started w (resolution.executionStart action)
      (.ok observation) w₁ ∧ w₁.history = w.history ∧ Invoked env w₁ resolution action r w₂)
    (F := fun _ _ w' => Recorded env w resolution action w') hstatus ?_ ?_ ?_ ?_ ?_
  · have hstarted : (durableObserver.start (resolution.executionStart action)).Ensures
        (outside env R) (fun _ _ => True)
        (fun r _ w₁ => Started w (resolution.executionStart action) r w₁) () w :=
      ensures_start hquiet (fun _ _ _ _ => trivial) (fun _ _ _ _ _ _ _ _ _ => trivial)
        fun _ _ h => h
    exact Proc.ensures_true_iff.mpr ⟨hstarted.run, (history_of_calls (calls_start _)).run⟩
  · intro observation w₁ hstarted
    refine Proc.Ensures.mono (invoked_invoke fun _ _ => trivial) fun r _ w₂ hinvoked => ?_
    exact ⟨w₁, hstarted.1, hstarted.2, hinvoked⟩
  · rintro observation result w₂ ⟨w₁, hstarted, hhistory, hinvoked⟩
    have hfinished : (durableObserver.finish observation (finishOf result)).Ensures
        (outside env R) (fun _ _ => True)
        (fun r _ w' => Finished w₂ observation (finishOf result) r w') () w₂ :=
      ensures_finish hquiet (fun _ _ _ _ _ => trivial) fun _ _ h => h
    have hboth : (durableObserver.finish observation (finishOf result)).Ensures
        (outside env R) (fun _ _ => True)
        (fun r _ w' => Finished w₂ observation (finishOf result) r w' ∧ w'.history = w₂.history)
        () w₂ :=
      Proc.ensures_true_iff.mpr ⟨hfinished.run,
        (history_of_calls (calls_finish observation (finishOf result))).run⟩
    exact hboth.mono fun r _ w' h => Recorded.of_finished hstarted hhistory hinvoked h.1 h.2
  · rintro e w' (hstarted | ⟨observation, w₁, hstarted, hhistory, hinvoked⟩ | ⟨result, hrecorded⟩)
    · exact Or.inl hstarted.2
    · generalize hreply : (Except.error e : Except Raised WorkerExecutionResult) = reply at hinvoked
      cases hinvoked with
      | noOp hexecutor => cases hreply
      | provider executor hexecutor =>
        refine Or.inr ⟨executor, hexecutor, ?_, fun result hresult => ?_⟩
        · rw [World.history_log, hhistory]
        · rw [invoked_congr hhistory, hresult] at hreply
          cases hreply
    · exact hrecorded
  · intro observation result r s' w' hrecorded _
    exact hrecorded

end DurableExecutionObserver

/-! ### What is recorded of a worker -/

section Outcome

variable [PyParse] [PyJson] {V : Type} {R : RunRepository}

/-- What the runtime hands to the observer for an invocation of a coding provider, and what
is left of it in the row. -/
structure WorkerReported (env : Environment) (identity : ℕ) (p : CodingProvider V)
    (registry : WorkerExecutorRegistry) (w w' : World R) (execution : Execution) : Prop where
  not_transient : ∀ result,
    DurableExecutionObserver.invoked (env.hosting identity p) w execution = .ok result →
      ∀ failure ∈ failureForResult result, failure.category ≠ .transient
  returns : ∀ {before cwd process after}, Ran (p.log w.history execution) before cwd process after →
    Undisturbed process after → ∃ result, p.reply w.history execution = .ok result
  reported : ∀ {before cwd process after result},
    Ran (p.log w.history execution) before cwd process after →
      p.reply w.history execution = .ok result →
        DurableExecutionObserver.invoked (env.hosting identity p) w execution = .ok result ∧
          externalExecutionPerformed result.metadata = true ∧
          (result.status = .succeeded ↔
            Completed p.executor execution.action before process after)
  recorded : ∀ {before cwd process after result},
    Ran (p.log w.history execution) before cwd process after →
      p.reply w.history execution = .ok result →
        IsCanonicalRoute (registry.resolveWithRegistration execution.action).requestedRole
          (registry.resolveWithRegistration execution.action).requestedCapability →
        ∃ row, w'.row execution.action.id = some row ∧
          row.externalExecutionPerformed = some true ∧
          (row.executionStatus = some WorkerExecutionStatus.succeeded.value ↔
            Completed p.executor execution.action before process after)

variable {env : Environment} {identity : ℕ} {p : CodingProvider V} {w w' : World R}
  {execution : Execution}

theorem invoked_hosting (h : execution.executor = identity) :
    DurableExecutionObserver.invoked (env.hosting identity p) w execution =
      (p.reply w.history execution).either .ok fun e =>
        if e.isException then .ok (raisedResult execution.action e) else .error e := by
  rw [DurableExecutionObserver.invoked, Environment.hosting]
  simp only [h, if_true]

omit [PyParse] [PyJson] in
theorem failureForResult_not_transient {result : WorkerExecutionResult}
    (h : ∀ failure ∈ result.failure, failure.category ≠ .transient) :
    ∀ failure ∈ failureForResult result, failure.category ≠ .transient := by
  intro failure hfailure
  rw [failureForResult] at hfailure
  split_ifs at hfailure with hstatus
  · cases hfailure
  obtain rfl := Option.some.inj hfailure
  cases hgiven : result.failure with
  | none => exact WorkerExecutionFailureCategory.noConfusion
  | some failure => exact h failure hgiven

omit [PyParse] [PyJson] in
theorem status_value_eq_iff {status : WorkerExecutionStatus} :
    some status.value = some WorkerExecutionStatus.succeeded.value ↔ status = .succeeded := by
  cases status <;> decide

theorem workerReported_of_recorded {registry : WorkerExecutorRegistry}
    (hidentity : execution.executor = identity)
    (hrow : ∀ result,
      DurableExecutionObserver.invoked (env.hosting identity p) w execution = .ok result →
      IsCanonicalRoute (registry.resolveWithRegistration execution.action).requestedRole
        (registry.resolveWithRegistration execution.action).requestedCapability →
      ∃ row, w'.row execution.action.id = some row ∧
        row.executionStatus = some result.status.value ∧
        row.externalExecutionPerformed = some (externalExecutionPerformed result.metadata)) :
    WorkerReported env identity p registry w w' execution := by
  have hcourse := p.course w.history execution
  have hhanded : ∀ result, p.reply w.history execution = .ok result →
      DurableExecutionObserver.invoked (env.hosting identity p) w execution = .ok result := by
    intro result hreply
    rw [invoked_hosting hidentity, hreply]
    rfl
  constructor
  case not_transient =>
    intro result hresult
    refine failureForResult_not_transient ?_
    rw [invoked_hosting hidentity] at hresult
    rcases hreply : p.reply w.history execution with e | returned
    · rw [hreply, Except.either_error] at hresult
      split_ifs at hresult
      obtain rfl := Except.ok.inj hresult
      rintro _ ⟨⟩
      exact WorkerExecutionFailureCategory.noConfusion
    · rw [hreply] at hresult hcourse
      obtain rfl := Except.ok.inj hresult
      exact hcourse.not_transient
  case returns =>
    intro before cwd process after hran hundisturbed
    exact hcourse.exists_result hran hundisturbed
  case reported =>
    intro before cwd process after result hran hreply
    rw [hreply] at hcourse
    obtain ⟨hexecuted, hsucceeded⟩ := hcourse.isExecuted hran
    exact ⟨hhanded result hreply, hexecuted.external, hsucceeded⟩
  case recorded =>
    intro before cwd process after result hran hreply hroute
    obtain ⟨row, hrow, hstatus, hexternal⟩ := hrow result (hhanded result hreply) hroute
    rw [hreply] at hcourse
    obtain ⟨hexecuted, hsucceeded⟩ := hcourse.isExecuted hran
    refine ⟨row, hrow, hexternal.trans (congrArg some hexecuted.external), ?_⟩
    rw [hstatus, status_value_eq_iff, hsucceeded]

/-- Processing an action invokes nobody, or one executor; where that is a coding provider,
the result handed on and the row say what the worker did. -/
theorem workerOutcome_recorded (env : Environment) (identity : ℕ) (p : CodingProvider V)
    (registry : WorkerExecutorRegistry) (maxTransientRetries : Int) (action : Action) (s : Stores)
    (w : World R) :
    ((observedRuntime registry maxTransientRetries).processDequeuedAction action).Ensures
      (outside (env.hosting identity p) R) (fun _ _ => True)
      (fun _ _ w' => w'.history = w.history ∨
        ∃ execution, w'.history = w.history ++ [.execute execution] ∧ execution.action = action ∧
          (execution.executor = identity →
            WorkerReported env identity p registry w w' execution)) s w := by
  rw [WorkerRuntime.ensures_processDequeuedAction rfl]
  split_ifs
  · exact Or.inl rfl
  · refine Proc.Ensures.mono (DurableExecutionObserver.recorded_executeAction rfl)
      fun _ _ w' hrecorded => ?_
    rcases hrecorded with hkept | ⟨executor, -, hhistory, hrow⟩
    · exact Or.inl hkept
    · exact Or.inr ⟨_, hhistory, rfl, fun hidentity => workerReported_of_recorded hidentity hrow⟩
  · exact Or.inl rfl

end Outcome

/-! ### A worktree that cannot be looked at -/

instance : (call : HostCall) → DecidableEq call.Value
  | .run .. => inferInstanceAs (DecidableEq ProcessResult)
  | .isDir _ | .exists _ => inferInstanceAs (DecidableEq Bool)
  | .resolve _ => inferInstanceAs (DecidableEq PurePath)
  | .mkdir _ => inferInstanceAs (DecidableEq Unit)

instance (call : Host.Call) : DecidableEq (Host.Reply call) :=
  inferInstanceAs (DecidableEq (Except Raised (HostCall.Value call)))

/-- Where a worker was run, and how it ended. -/
def workerOf : Exchange Host → Option (PurePath × ProcessResult)
  | ⟨.run (.worker ..) cwd, .ok process⟩ => some (cwd, process)
  | _ => none

theorem ran_of_workerOf {log : HostLog} {n : ℕ} {cwd : PurePath} {process : ProcessResult}
    (h : log[n]?.bind workerOf = some (cwd, process)) :
    Ran log (log.take n) cwd process (log.drop (n + 1)) := by
  obtain ⟨e, he, hworker⟩ := Option.bind_eq_some_iff.mp h
  obtain ⟨hn, rfl⟩ := List.getElem?_eq_some_iff.mp he
  have hsplit : log = log.take n ++ log[n] :: log.drop (n + 1) := by
    rw [List.getElem_cons_drop, List.take_append_drop]
  generalize log[n] = e at hworker hsplit
  unfold workerOf at hworker
  split at hworker
  · next argv stdin environment cwd' process' =>
    obtain ⟨rfl, rfl⟩ := Prod.mk.inj (Option.some.inj hworker)
    exact ⟨argv, stdin, environment, hsplit⟩
  · cases hworker

/-- A worker that prints `done` prints a report without blockers. -/
@[reducible] def doneReader : PyJson where
  loads text :=
    if text = "done" then
      .ok (.dict [("structured_output", .dict [("summary", .str "done"), ("files_changed", .list []),
        ("validation", .list []), ("blockers", .list [])])])
    else .error ⟨jsonDecodeError, "Expecting value"⟩

/-- A coding provider whose worker does its task, on a machine where git fails in the
worktree. -/
def lostProvider : CodingProvider Unit where
  executor := { workspace := { root := { root := "/", parts := ["repo"] } } }
  host
    | .run (.git .showToplevel) _, _ => (.ok { returncode := some 0, stdout := "/repo\n" }, ())
    | .run (.git .status) cwd, _ =>
      (.ok { returncode := some (if cwd.parts = ["repo"] then 0 else 128) }, ())
    | .run (.workerVersion _) _, _ => (.ok { returncode := some 0, stdout := "2.1.153" }, ())
    | .run (.worker ..) _, _ => (.ok { returncode := some 0, stdout := "done" }, ())
    | .run _ _, _ => (.ok { returncode := some 0 }, ())
    | .isDir _, _ => (.ok true, ())
    | .exists _, _ => (.ok false, ())
    | .resolve path, _ => (.ok path, ())
    | .mkdir _, _ => (.ok (), ())
  machine _ := ()

/-- A task for it. -/
def lostExecution : Execution where
  executor := 0
  action := {
    id := 0
    type := SOFTWARE_ENGINEERING_IMPLEMENT_CAPABILITY
    target := "repo"
    payload := .ofList [("objective", .str "Fix it")] }
  capability := some SOFTWARE_ENGINEERING_IMPLEMENT_CAPABILITY
  accountContext := none

/-- The worker succeeded, left the canonical checkout alone and reported that it is done. It
is not reported as a success, as its worktree cannot be looked at. -/
theorem not_succeeded_of_lostProvider :
    letI := PyParse.ascii
    letI := doneReader
    ∃ before cwd process after result,
      Ran (lostProvider.log [] lostExecution) before cwd process after ∧
        process.returncode = some 0 ∧ process.timedOut = false ∧
        (∃ output,
          Printed before (.git .status) lostProvider.executor.workspace.root output ∧
            Printed after (.git .status) lostProvider.executor.workspace.root output) ∧
        ClaudeCodeSoftwareEngineeringExecutor.ReportsDone process.stdout ∧
        lostProvider.reply [] lostExecution = .ok result ∧ result.status ≠ .succeeded := by
  let _ := PyParse.ascii
  let _ := doneReader
  have hstatus : (lostProvider.reply [] lostExecution).toOption.map (·.status) = some .failed := by
    decide +kernel
  obtain ⟨result, hresult, hfailed⟩ := Option.map_eq_some_iff.mp hstatus
  have hreply : lostProvider.reply [] lostExecution = .ok result := by
    cases hreply : lostProvider.reply [] lostExecution with
    | error e =>
      rw [hreply] at hresult
      cases hresult
    | ok returned =>
      rw [hreply] at hresult
      rw [Option.some.inj hresult]
  let worktree := lostProvider.executor.workspace.expectedWorktree 0
  refine ⟨(lostProvider.log [] lostExecution).take 13, worktree.path,
    { returncode := some 0, stdout := "done" }, (lostProvider.log [] lostExecution).drop 14, result,
    ?_, rfl, rfl, ⟨"", ⟨{ returncode := some 0 }, ?_, by decide, rfl⟩,
      ⟨{ returncode := some 0 }, ?_, by decide, rfl⟩⟩, ?_, hreply, by rw [hfailed]; decide⟩
  · exact ran_of_workerOf (by decide +kernel)
  · decide +kernel
  · decide +kernel
  · exact ⟨_, _, rfl, by decide, rfl, rfl⟩

end Velox
