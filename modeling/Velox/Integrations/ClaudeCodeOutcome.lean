import Velox.Integrations.ClaudeCode
import Velox.Integrations.Evidence

/-!
# What a started worker is reported as

Once the worker's process was run, the executor can leave at a dozen places. Wherever it
returns, the result says that something was executed, and it is a success exactly if the
process, both checkouts and the worker's own report say so.

## Main definitions

* `Ran` — the exchange with the worker, among those of an execution
* `Undisturbed` — nothing after the worker raised what the executor does not catch
* `Completed` — what a success has to show

## Main results

* `ClaudeCodeSoftwareEngineeringExecutor.outcome_eq_ok` — what is made of a finished worker
* `ClaudeCodeSoftwareEngineeringExecutor.traced_execute` — the course of an execution
-/

set_option autoImplicit false

namespace Velox

/-! ### Results -/

/-- A result of a worker that was started. -/
structure WorkerExecutionResult.IsExecuted (result : WorkerExecutionResult) : Prop where
  external : externalExecutionPerformed result.metadata = true
  not_transient : ∀ failure ∈ result.failure, failure.category ≠ .transient

namespace ClaudeCodeSoftwareEngineeringExecutor

/-- Metadata leaves it to the executor to say whether something was executed. -/
def Neutral (metadata : Entries) : Prop := "external_execution_performed" ∉ metadata.map Prod.fst

theorem externalExecutionPerformed_ofList {metadata : Entries} (h : Neutral metadata)
    (executed : Bool) :
    externalExecutionPerformed (.ofList ([("provider", .str CLAUDE_CODE_PROVIDER),
      ("external_execution_performed", .bool executed)] ++ metadata)) = executed := by
  rw [externalExecutionPerformed, OrderedDict.ofList, OrderedDict.update, List.foldl_append,
    ← OrderedDict.update, OrderedDict.get_update_of_notMem h]
  simp only [List.foldl_cons, List.foldl_nil, OrderedDict.get_set_self, Option.map_some,
    Option.getD_some, Value.truthy]

theorem Neutral.append {metadata metadata' : Entries} (h : Neutral metadata)
    (h' : Neutral metadata') : Neutral (metadata ++ metadata') := by
  rw [Neutral, List.map_append, List.mem_append, not_or]
  exact ⟨h, h'⟩

theorem isExecuted_failure (action : Action) (reason : String)
    {category : WorkerExecutionFailureCategory} (hcategory : category ≠ .transient)
    {metadata : Entries} (h : Neutral metadata) :
    (failure action reason category true metadata).IsExecuted where
  external := externalExecutionPerformed_ofList h true
  not_transient := by
    rintro _ ⟨⟩
    exact hcategory

theorem neutral_observed {ran : Entries} (h : Neutral ran) (worktreeStatus : String)
    (report : CompletionReport) : Neutral (observed ran worktreeStatus report) := by
  refine h.append ?_
  simp [Neutral]

/-! ### What the worker printed -/

section Printed

variable [PyJson]

/-- The worker printed a JSON object that is no error and holds a report without
blockers. -/
def ReportsDone (stdout : String) : Prop :=
  ∃ envelope report, PyJson.loads stdout = .ok (.dict envelope) ∧
    Value.field envelope "is_error" ≠ .bool true ∧
    CompletionReport.modelValidate (Value.field envelope "structured_output") = some report ∧
    report.blockers = []

variable {action : Action} {process : ProcessResult} {location envelope : Entries}
  {worktreeStatus canonicalBefore canonicalAfter : String} {result : WorkerExecutionResult}

omit [PyJson] in
theorem isExecuted_unread (h : Neutral location) : (unread action process location).IsExecuted := by
  rw [unread]
  split_ifs
  · exact isExecuted_failure _ _ (by decide) h
  · exact isExecuted_failure _ _ (by decide) h

omit [PyJson] in
theorem status_unread : (unread action process location).status = .failed := by
  rw [unread]
  split_ifs <;> rfl

omit [PyJson] in
theorem neutral_withSession (h : Neutral location) : Neutral (withSession location envelope) := by
  rw [withSession]
  split
  · exact h.append (by simp [Neutral])
  · exact h

omit [PyJson] in
/-- A report is a success exactly if it names no blockers. -/
theorem isExecuted_completed (action : Action) (worktreeStatus : String) (h : Neutral location)
    (report : CompletionReport) :
    (completed action worktreeStatus location report).IsExecuted ∧
      ((completed action worktreeStatus location report).status = .succeeded ↔
        report.blockers = []) := by
  have hobserved := neutral_observed h worktreeStatus report
  rw [completed]
  by_cases hblockers : report.blockers = []
  · rw [if_neg (not_not.mpr hblockers)]
    refine ⟨⟨externalExecutionPerformed_ofList hobserved true, fun failure hfailure => ?_⟩, ?_⟩
    · cases hfailure
    · exact ⟨fun _ => hblockers, fun _ => rfl⟩
  · rw [if_pos hblockers]
    refine ⟨isExecuted_failure _ _ (by decide) hobserved, iff_of_false ?_ hblockers⟩
    simp [failure]

omit [PyJson] in
/-- An object is a success exactly if the process succeeded and the report is in order. -/
theorem isExecuted_reported (action : Action) (process : ProcessResult) (worktreeStatus : String)
    (h : Neutral location) (envelope : Entries) :
    (reported action process worktreeStatus location envelope).IsExecuted ∧
      ((reported action process worktreeStatus location envelope).status = .succeeded ↔
        process.returncode = some 0 ∧ Value.field envelope "is_error" ≠ .bool true ∧
          ∃ report, CompletionReport.modelValidate (Value.field envelope "structured_output") =
            some report ∧ report.blockers = []) := by
  have hran : Neutral (withSession location envelope) := neutral_withSession h
  rw [reported]
  by_cases hexit : process.returncode ≠ some 0 ∨ Value.field envelope "is_error" = .bool true
  · rw [if_pos hexit]
    refine ⟨isExecuted_failure _ _ (by decide) hran, iff_of_false ?_ ?_⟩
    · simp [processFailure, failure]
    · rintro ⟨hzero, herror, -⟩
      exact hexit.elim (fun hne => hne hzero) herror
  rw [if_neg hexit]
  obtain ⟨hzero, herror⟩ := not_or.mp hexit
  cases CompletionReport.modelValidate (Value.field envelope "structured_output") with
  | none =>
    refine ⟨isExecuted_failure _ _ (by decide) hran, iff_of_false (by simp [failure]) ?_⟩
    rintro ⟨-, -, report, hsome, -⟩
    cases hsome
  | some report =>
    obtain ⟨hexecuted, hstatus⟩ := isExecuted_completed action worktreeStatus hran report
    refine ⟨hexecuted, hstatus.trans ⟨fun hnil => ?_, ?_⟩⟩
    · exact ⟨not_not.mp hzero, herror, report, rfl, hnil⟩
    · rintro ⟨-, -, report', hsome, hnil⟩
      rwa [Option.some.inj hsome]

/-- What is made of a finished worker is a result of something that was executed, and a
success exactly if everything bears it out. -/
theorem outcome_eq_ok (h : Neutral location)
    (hresult : outcome action location canonicalBefore canonicalAfter worktreeStatus process =
      .ok result) :
    result.IsExecuted ∧ (result.status = .succeeded ↔ process.returncode = some 0 ∧
      process.timedOut = false ∧ canonicalAfter = canonicalBefore ∧ ReportsDone process.stdout) := by
  rw [outcome] at hresult
  by_cases hkept : canonicalAfter = canonicalBefore
  swap
  · rw [if_pos hkept] at hresult
    obtain rfl := Except.ok.inj hresult
    exact ⟨isExecuted_failure _ _ (by decide) h,
      iff_of_false (by simp [failure]) fun hdone => hkept hdone.2.2.1⟩
  rw [if_neg (not_not.mpr hkept)] at hresult
  by_cases htimeout : process.timedOut = true
  · rw [if_pos htimeout] at hresult
    obtain rfl := Except.ok.inj hresult
    refine ⟨isExecuted_failure _ _ (by decide) h, iff_of_false (by simp [failure]) fun hdone => ?_⟩
    rw [hdone.2.1] at htimeout
    cases htimeout
  rw [if_neg htimeout, readEnvelope] at hresult
  rcases hloads : PyJson.loads process.stdout with error | value
  · -- text that cannot be read
    rw [hloads] at hresult
    simp only at hresult
    split_ifs at hresult
    · obtain rfl := Except.ok.inj hresult
      refine ⟨isExecuted_unread h, iff_of_false (by simp [status_unread]) ?_⟩
      rintro ⟨-, -, -, envelope, report, hok, -⟩
      cases hloads.symm.trans hok
    · cases hresult
  have hobject (hnot : ∀ envelope, value ≠ .dict envelope) :
      ¬ReportsDone process.stdout := by
    rintro ⟨envelope, report, hok, -⟩
    exact hnot envelope (Except.ok.inj (hloads.symm.trans hok))
  rw [hloads] at hresult
  cases value with
  | dict envelope =>
    obtain rfl := Except.ok.inj hresult
    obtain ⟨hexecuted, hstatus⟩ := isExecuted_reported action process worktreeStatus h envelope
    refine ⟨hexecuted, hstatus.trans ⟨?_, ?_⟩⟩
    · rintro ⟨hzero, herror, report, hreport, hblockers⟩
      exact ⟨hzero, Bool.eq_false_of_not_eq_true htimeout, hkept, envelope, report, hloads, herror,
        hreport, hblockers⟩
    · rintro ⟨hzero, -, -, envelope', report, hok, herror, hreport, hblockers⟩
      obtain rfl := Value.dict.inj (Except.ok.inj (hloads.symm.trans hok))
      exact ⟨hzero, herror, report, hreport, hblockers⟩
  | none | bool | int | str | list | tuple | object =>
    obtain rfl := Except.ok.inj hresult
    refine ⟨isExecuted_unread h, iff_of_false (by simp [status_unread]) fun hdone => ?_⟩
    exact hobject (by simp) hdone.2.2.2

/-- Where `json.loads` raises nothing but a `ValueError`, something is made of a finished
worker. -/
theorem exists_outcome (h : ∀ error, PyJson.loads process.stdout = .error error → IsValueError error) :
    ∃ result, outcome action location canonicalBefore canonicalAfter worktreeStatus process =
      .ok result := by
  rw [outcome]
  split_ifs
  · exact ⟨_, rfl⟩
  · exact ⟨_, rfl⟩
  · rw [readEnvelope]
    rcases hloads : PyJson.loads process.stdout with error | value
    · simp only [if_pos (h error hloads)]
      exact ⟨_, rfl⟩
    · cases value <;> exact ⟨_, rfl⟩

end Printed

/-! ### Looking at the checkouts -/

/-- What the executor reads off the reply to a status check. -/
def statusOutput (reply : Except Raised ProcessResult) : Except Raised String :=
  TrustedGitWorkspace.readOutput (Velox.unavailable "workspace status is unavailable") reply

theorem status_eq (path : PurePath) :
    TrustedGitWorkspace.status path = Proc.request Host (.run (.git .status) path) statusOutput :=
  TrustedGitWorkspace.gitOutput_eq ..

/-- The exchanges of the checks after the worker, and what they lead to. -/
inductive Looked (root worktree : PurePath) : HostLog → Except Raised (String × String) → Prop
  | canonical (reply : Except Raised ProcessResult) (error : Raised)
      (hreply : statusOutput reply = .error error) :
      Looked root worktree [⟨.run (.git .status) root, reply⟩] (.error error)
  | worktree (reply reply' : Except Raised ProcessResult) (canonicalAfter : String) (error : Raised)
      (hreply : statusOutput reply = .ok canonicalAfter)
      (hreply' : statusOutput reply' = .error error) :
      Looked root worktree
        [⟨.run (.git .status) root, reply⟩, ⟨.run (.git .status) worktree, reply'⟩] (.error error)
  | both (reply reply' : Except Raised ProcessResult) (canonicalAfter worktreeStatus : String)
      (hreply : statusOutput reply = .ok canonicalAfter)
      (hreply' : statusOutput reply' = .ok worktreeStatus) :
      Looked root worktree
        [⟨.run (.git .status) root, reply⟩, ⟨.run (.git .status) worktree, reply'⟩]
        (.ok (canonicalAfter, worktreeStatus))

/-- Both checkouts could be looked at after the worker, and the canonical one is as before. -/
def CheckoutsKept (root worktree : PurePath) (canonicalBefore : String) (after : HostLog) : Prop :=
  ∃ canonical status : ProcessResult,
    after = [⟨.run (.git .status) root, .ok canonical⟩, ⟨.run (.git .status) worktree, .ok status⟩] ∧
      ¬canonical.Failed ∧ ¬status.Failed ∧ canonical.stdout = canonicalBefore

theorem statusOutput_eq_ok_iff {reply : Except Raised ProcessResult} {output : String} :
    statusOutput reply = .ok output ↔
      ∃ result, reply = .ok result ∧ ¬result.Failed ∧ result.stdout = output :=
  TrustedGitWorkspace.readOutput_eq_ok_iff

/-- A status check that raises nothing else makes the workspace unavailable. -/
theorem kind_of_statusOutput {reply : Except Raised ProcessResult} {error : Raised}
    (h : statusOutput reply = .error error)
    (hreply : ∀ e, reply = .error e →
      e.kind = executableNotFoundError ∨ e.kind = workspaceUnavailableError) :
    error.kind = workspaceUnavailableError := by
  rw [statusOutput, TrustedGitWorkspace.readOutput] at h
  rcases reply with e | result
  · obtain rfl : TrustedGitWorkspace.gitError e = error := Except.error.inj h
    rw [TrustedGitWorkspace.gitError]
    split_ifs with hmissing
    · rfl
    · exact (hreply e rfl).resolve_left hmissing
  · by_cases hfailed : result.Failed
    · obtain rfl : Velox.unavailable "workspace status is unavailable" = error := by
        simpa [Except.mapError, TrustedGitWorkspace.checked, hfailed] using h
      rfl
    · simp [Except.mapError, TrustedGitWorkspace.checked, hfailed] at h

section Looked

variable {root worktree : PurePath} {after : HostLog} {canonicalBefore : String}

/-- Checks that fail show nothing. -/
theorem Looked.not_checkoutsKept {error : Raised} (h : Looked root worktree after (.error error)) :
    ¬CheckoutsKept root worktree canonicalBefore after := by
  rintro ⟨canonical, status, hafter, hcanonical, hstatus, -⟩
  cases h with
  | canonical reply error hreply => cases hafter
  | worktree reply reply' canonicalAfter error hreply hreply' =>
    obtain ⟨-, htail⟩ := List.cons.inj hafter
    obtain ⟨heq, -⟩ := List.cons.inj htail
    obtain rfl : reply' = .ok status := eq_of_heq (Sigma.mk.inj heq).2
    have hok : statusOutput (.ok status) = .ok status.stdout :=
      statusOutput_eq_ok_iff.mpr ⟨status, rfl, hstatus, rfl⟩
    cases hreply'.symm.trans hok

/-- Checks that succeed show whether the canonical checkout was kept. -/
theorem Looked.checkoutsKept_iff {canonicalAfter worktreeStatus : String}
    (h : Looked root worktree after (.ok (canonicalAfter, worktreeStatus))) :
    CheckoutsKept root worktree canonicalBefore after ↔ canonicalAfter = canonicalBefore := by
  cases h with
  | both reply reply' canonicalAfter worktreeStatus hreply hreply' =>
    obtain ⟨canonical, rfl, hcanonical, rfl⟩ := statusOutput_eq_ok_iff.mp hreply
    obtain ⟨status, rfl, hstatus, rfl⟩ := statusOutput_eq_ok_iff.mp hreply'
    constructor
    · rintro ⟨canonical', status', hafter, -, -, rfl⟩
      obtain ⟨heq, -⟩ := List.cons.inj hafter
      exact congrArg ProcessResult.stdout (Except.ok.inj (eq_of_heq (Sigma.mk.inj heq).2))
    · rintro rfl
      exact ⟨canonical, status, rfl, hcanonical, hstatus, rfl⟩

/-- What is raised by a check comes from one of its calls. -/
theorem Looked.kind_eq {error : Raised} (h : Looked root worktree after (.error error))
    (hafter : ∀ e ∈ after, ∀ raised, (e.2 : Except Raised e.1.Value) = .error raised →
      raised.kind = executableNotFoundError ∨ raised.kind = workspaceUnavailableError) :
    error.kind = workspaceUnavailableError := by
  cases h with
  | canonical reply error hreply =>
    refine kind_of_statusOutput hreply fun e he => ?_
    exact hafter _ (List.mem_singleton_self _) e he
  | worktree reply reply' canonicalAfter error hreply hreply' =>
    refine kind_of_statusOutput hreply' fun e he => ?_
    exact hafter _ (List.mem_cons_of_mem _ (List.mem_singleton_self _)) e he

end Looked

section Traced

variable [PyJson] {K : HostLog → HostCall → Prop} {t : HostLog} {root worktree : PurePath}

omit [PyJson] in
theorem traced_caught {α : Type} {reason : Raised → Option String} {body : HostTask α}
    {A : HostLog → Except Raised (Except String α) → Unit → Prop}
    (h : body.Traced K (fun t r u => r.either (fun a => A t (.ok (.ok a)) u) fun error =>
      match reason error with
      | some text => A t (.ok (.error text)) u
      | none => A t (.error error) u) () t) :
    (caught reason body).Traced K A () t := by
  rw [caught, Proc.traced_tryCatch]
  refine Proc.traced_bind.mpr (h.mono fun t' r u _ hr => ?_)
  rcases r with error | a
  · simp only [Except.either_error] at hr ⊢
    rcases hreason : reason error with _ | text <;> rw [hreason] at hr <;> exact hr
  · exact hr

omit [PyJson] in
theorem traced_bothStatuses (hK : ∀ t c, K t c) :
    (bothStatuses root worktree).Traced K
      (fun t' r _ => ∃ after, t' = t ++ after ∧ Looked root worktree after r) () t := by
  simp only [bothStatuses, status_eq, Proc.traced_bind, Proc.traced_request]
  refine ⟨hK _ _, fun reply => ?_⟩
  rcases hreply : statusOutput reply with error | canonicalAfter
  · exact ⟨_, rfl, .canonical reply error hreply⟩
  refine ⟨hK _ _, fun reply' => ?_⟩
  rw [List.append_assoc]
  rcases hreply' : statusOutput reply' with error | worktreeStatus
  · exact ⟨_, rfl, .worktree reply reply' canonicalAfter error hreply hreply'⟩
  · exact ⟨_, rfl, .both reply reply' canonicalAfter worktreeStatus hreply hreply'⟩

omit [PyJson] in
theorem neutral_locationOf (worktree : IsolatedWorktree) : Neutral (locationOf worktree) := by
  simp [Neutral, locationOf]

/-- The exchanges after a worker, and what they lead to. -/
inductive Finished (action : Action) (root : PurePath) (canonicalBefore : String)
    (worktree : IsolatedWorktree) (process : ProcessResult) :
    HostLog → Except Raised WorkerExecutionResult → Prop
  | unavailable (after : HostLog) (error : Raised)
      (hlooked : Looked root worktree.path after (.error error))
      (herror : error.kind = workspaceUnavailableError) :
      Finished action root canonicalBefore worktree process after
        (.ok (failure action "workspace_unavailable" .internal true (locationOf worktree)))
  | raised (after : HostLog) (error : Raised)
      (hlooked : Looked root worktree.path after (.error error))
      (herror : error.kind ≠ workspaceUnavailableError) :
      Finished action root canonicalBefore worktree process after (.error error)
  | looked (after : HostLog) (canonicalAfter worktreeStatus : String)
      (hlooked : Looked root worktree.path after (.ok (canonicalAfter, worktreeStatus))) :
      Finished action root canonicalBefore worktree process after
        (outcome action (locationOf worktree) canonicalBefore canonicalAfter worktreeStatus process)

theorem traced_finish (hK : ∀ t c, K t c) {action : Action} {canonicalBefore : String}
    {worktree : IsolatedWorktree} {process : ProcessResult} :
    (finish action root canonicalBefore worktree process).Traced K
      (fun t' r _ => ∃ after, t' = t ++ after ∧
        Finished action root canonicalBefore worktree process after r) () t := by
  rw [finish, Proc.traced_bind]
  refine traced_caught ((traced_bothStatuses hK).mono fun t' r _ _ hr => ?_)
  obtain ⟨after, rfl, hlooked⟩ := hr
  rcases r with error | ⟨canonicalAfter, worktreeStatus⟩
  · by_cases herror : error.kind = workspaceUnavailableError
    · simp only [Except.either_error, unavailable, if_pos herror]
      exact ⟨after, rfl, .unavailable after error hlooked herror⟩
    · simp only [Except.either_error, unavailable, if_neg herror]
      exact ⟨after, rfl, .raised after error hlooked herror⟩
  · exact ⟨after, rfl, .looked after canonicalAfter worktreeStatus hlooked⟩

section Finished

variable {action : Action} {canonicalBefore : String} {worktree : IsolatedWorktree}
  {process : ProcessResult} {after : HostLog}

/-- What is returned after a worker is a result of something that was executed, and a
success exactly if everything bears it out. -/
theorem Finished.isExecuted {result : WorkerExecutionResult}
    (h : Finished action root canonicalBefore worktree process after (.ok result)) :
    result.IsExecuted ∧ (result.status = .succeeded ↔ process.returncode = some 0 ∧
      process.timedOut = false ∧ CheckoutsKept root worktree.path canonicalBefore after ∧
      ReportsDone process.stdout) := by
  have hlocation := neutral_locationOf worktree
  generalize hr : (Except.ok result : Except Raised WorkerExecutionResult) = r at h
  cases h with
  | unavailable error hlooked herror =>
    obtain rfl := Except.ok.inj hr
    refine ⟨isExecuted_failure _ _ (by decide) hlocation, iff_of_false (by simp [failure]) ?_⟩
    exact fun hdone => hlooked.not_checkoutsKept hdone.2.2.1
  | raised error hlooked herror => cases hr
  | looked canonicalAfter worktreeStatus hlooked =>
    rw [hlooked.checkoutsKept_iff]
    exact outcome_eq_ok hlocation hr.symm

/-- A worker's result is returned unless something is raised that nobody catches. -/
theorem Finished.exists_result {r : Except Raised WorkerExecutionResult}
    (h : Finished action root canonicalBefore worktree process after r)
    (hafter : ∀ e ∈ after, ∀ raised, (e.2 : Except Raised e.1.Value) = .error raised →
      raised.kind = executableNotFoundError ∨ raised.kind = workspaceUnavailableError)
    (hloads : ∀ error, PyJson.loads process.stdout = .error error → IsValueError error) :
    ∃ result, r = .ok result := by
  cases h with
  | unavailable error hlooked herror => exact ⟨_, rfl⟩
  | raised error hlooked herror => exact absurd (hlooked.kind_eq hafter) herror
  | looked canonicalAfter worktreeStatus hlooked => exact exists_outcome hloads

end Finished

end Traced

/-! ### Before the worker -/

/-- A call that neither runs a worker nor looks at a checkout. -/
def Prepares : HostCall → Prop
  | .run (.worker ..) _ | .run (.git .status) _ => False
  | _ => True

/-- A call that runs a worker. -/
def RunsWorker : HostCall → Prop
  | .run (.worker ..) _ => True
  | _ => False

theorem Prepares.not_runsWorker {call : HostCall} (h : Prepares call) : ¬RunsWorker call := by
  intro hworker
  cases call with
  | run command cwd => cases command <;> simp [Prepares, RunsWorker] at h hworker
  | _ => exact hworker

section Calls

variable {K : HostCall → Prop}

theorem calls_gitOutput {failure : Raised} {command : GitCommand} {cwd : PurePath}
    (hK : K (.run (.git command) cwd)) :
    (TrustedGitWorkspace.gitOutput failure command cwd).Calls K fun _ => True := by
  rw [TrustedGitWorkspace.gitOutput_eq]
  exact Proc.Calls.request hK fun _ => trivial

theorem calls_step {α β : Type} {m : HostTask α} {f : α → HostTask β} {Q : Except Raised β → Prop}
    (hm : m.Calls K fun _ => True) (hf : ∀ a, (f a).Calls K Q) (he : ∀ e, Q (.error e)) :
    (m >>= f).Calls K Q :=
  .bind hm (fun a _ => hf a) fun e _ => he e

variable (workspace : TrustedGitWorkspace)

/-- What `validate` returns is the configured root. -/
theorem calls_validate :
    workspace.validate.Calls Prepares fun r => ∀ root, r = .ok root → root = workspace.root := by
  rw [TrustedGitWorkspace.validate]
  have hnot : ∀ e : Raised, ∀ root, (.error e : Except Raised PurePath) = .ok root →
      root = workspace.root := fun e root h => by cases h
  refine calls_step (Proc.Calls.ofExcept trivial) (fun _ => ?_) hnot
  refine calls_step (Proc.Calls.request trivial fun _ => trivial) (fun _ => ?_) hnot
  refine calls_step (Proc.Calls.ofExcept trivial) (fun _ => ?_) hnot
  refine calls_step (calls_gitOutput trivial) (fun _ => ?_) hnot
  refine calls_step (Proc.Calls.request trivial fun _ => trivial) (fun _ => ?_) hnot
  refine calls_step (Proc.Calls.request trivial fun _ => trivial) (fun _ => ?_) hnot
  refine calls_step (Proc.Calls.ofExcept trivial) (fun _ => Proc.Calls.pure ?_) hnot
  exact fun root h => (Except.ok.inj h).symm

/-- What `create_worktree` returns is the worktree of the action. -/
theorem calls_createWorktree (actionId : UUID) :
    (workspace.createWorktree actionId).Calls Prepares fun r =>
      ∀ worktree, r = .ok worktree → worktree = workspace.expectedWorktree actionId := by
  rw [TrustedGitWorkspace.createWorktree]
  have hnot : ∀ e : Raised, ∀ worktree, (.error e : Except Raised IsolatedWorktree) = .ok worktree →
      worktree = workspace.expectedWorktree actionId := fun e root h => by cases h
  refine Proc.Calls.bind (calls_validate workspace) (fun _ _ => ?_) fun e _ => hnot e
  refine calls_step (Proc.Calls.request trivial fun _ => trivial) (fun _ => ?_) hnot
  refine calls_step (Proc.Calls.ofExcept trivial) (fun _ => ?_) hnot
  refine calls_step (Proc.Calls.request trivial fun _ => trivial) (fun _ => ?_) hnot
  refine calls_step (calls_gitOutput trivial) (fun _ => Proc.Calls.pure ?_) hnot
  exact fun worktree h => (Except.ok.inj h).symm

end Calls

/-! ### The course of an execution -/

/-- The exchange with a worker's process that ended or was stopped. -/
def Ended (e : Exchange Host) : Prop :=
  ∃ argv stdin environment cwd process,
    e = ⟨.run (.worker argv stdin environment) cwd, .ok process⟩

theorem Ended.runsWorker {e : Exchange Host} (h : Ended e) : RunsWorker e.1 := by
  obtain ⟨argv, stdin, environment, cwd, process, rfl⟩ := h
  trivial

section Course

variable [PyParse] [PyJson]

omit [PyParse] in
/-- What an execution asked of the machine, and what it led to. -/
inductive Course (executor : ClaudeCodeSoftwareEngineeringExecutor) (action : Action) :
    HostLog → Except Raised WorkerExecutionResult → Prop
  | unstarted (log : HostLog) (r : Except Raised WorkerExecutionResult)
      (hlog : ∀ e ∈ log, ¬Ended e)
      (hr : ∀ result, r = .ok result → ∀ failure ∈ result.failure, failure.category ≠ .transient) :
      Course executor action log r
  | started (before : HostLog) (argv : List String) (stdin : String)
      (environment : List (String × String)) (canonicalBefore : String) (process : ProcessResult)
      (after : HostLog) (r : Except Raised WorkerExecutionResult)
      (hbefore : ∀ e ∈ before, ¬RunsWorker e.1)
      (hstatus : ∀ output, Printed before (.git .status) executor.workspace.root output ↔
        output = canonicalBefore)
      (hfinished : Finished action executor.workspace.root canonicalBefore
        (executor.workspace.expectedWorktree action.id) process after r) :
      Course executor action (before ++
        ⟨.run (.worker argv stdin environment) (executor.workspace.expectedWorktree action.id).path,
          .ok process⟩ :: after) r

variable {executor : ClaudeCodeSoftwareEngineeringExecutor} {action : Action} {log t : HostLog}

omit [PyParse] in
/-- An execution that fails before a worker was run. -/
theorem Course.failure (reason : String) (hlog : ∀ e ∈ log, ¬Ended e) :
    Course executor action log (.ok (failure action reason .permanent false [])) := by
  refine .unstarted log _ hlog fun result hresult => ?_
  obtain rfl := Except.ok.inj hresult
  rintro _ ⟨⟩
  exact WorkerExecutionFailureCategory.noConfusion

omit [PyParse] in
/-- An execution that raises before a worker was run. -/
theorem Course.raised (error : Raised) (hlog : ∀ e ∈ log, ¬Ended e) :
    Course executor action log (.error error) :=
  .unstarted log _ hlog fun result hresult => by cases hresult

omit [PyParse] [PyJson] in
theorem not_ended_of_prepares (h : ∀ e ∈ log, Prepares e.1) : ∀ e ∈ log, ¬Ended e :=
  fun e he hended => (h e he).not_runsWorker hended.runsWorker

omit [PyParse] [PyJson] in
theorem calls_cliVersion (environment : List (String × String)) :
    (executor.cliVersion environment).Calls Prepares fun r =>
      ∀ x, r = .ok x → x.1 = executor.workspace.root := by
  rw [cliVersion]
  refine Proc.Calls.bind (calls_validate executor.workspace) (fun root hroot => ?_)
    fun e _ x h => by cases h
  refine calls_step (Proc.Calls.request trivial fun _ => trivial) (fun version => Proc.Calls.pure ?_)
    fun e x h => by cases h
  intro x hx
  rw [← Except.ok.inj hx]
  exact hroot root rfl

omit [PyParse] [PyJson] in
/-- The canonical checkout is looked at once, before the worktree is created. -/
theorem traced_setUp {root : PurePath} {actionId : UUID} :
    (executor.setUp root actionId).Traced (fun _ _ => True)
      (fun t' r _ => ∃ reply rest, t' = t ++ ⟨.run (.git .status) root, reply⟩ :: rest ∧
        (∀ e ∈ rest, Prepares e.1) ∧ ∀ x, r = .ok x → statusOutput reply = .ok x.1 ∧
          x.2 = executor.workspace.expectedWorktree actionId) () t := by
  rw [setUp, status_eq, Proc.traced_bind, Proc.traced_request]
  refine ⟨trivial, fun reply => ?_⟩
  rcases hreply : statusOutput reply with error | canonicalBefore
  · refine ⟨reply, [], rfl, fun e he => absurd he List.not_mem_nil, fun x hx => ?_⟩
    cases hx
  simp only [Except.either_ok, Proc.traced_bind, Proc.traced_ofExcept]
  rcases worktreeFileRules (executor.workspace.expectedWorktree actionId).path with error | rules
  · refine ⟨reply, [], rfl, fun e he => absurd he List.not_mem_nil, fun x hx => ?_⟩
    cases hx
  rw [Except.either_ok]
  refine ((calls_createWorktree executor.workspace actionId).traced () _).mono fun t' r _ _ hr => ?_
  obtain ⟨hresult, rest, rfl, hprepares⟩ := hr
  rcases r with error | worktree
  · refine ⟨reply, rest, List.append_assoc .., hprepares, fun x hx => ?_⟩
    cases hx
  · refine ⟨reply, rest, List.append_assoc .., hprepares, fun x hx => ?_⟩
    rw [← Except.ok.inj hx]
    exact ⟨hreply, hresult worktree rfl⟩

omit [PyParse] [PyJson] in
theorem traced_runWorker (executor : ClaudeCodeSoftwareEngineeringExecutor)
    (environment : List (String × String)) (objective target : String)
    (worktree : IsolatedWorktree) :
    (executor.runWorker environment objective target worktree).Traced (fun _ _ => True)
      (fun t' r _ => (t' = t ∧ ∃ error, r = .error error) ∨ ∃ argv stdin,
        t' = t ++ [⟨.run (.worker argv stdin environment) worktree.path, r⟩]) () t := by
  rw [runWorker, Proc.traced_bind, Proc.traced_ofExcept]
  rcases buildClaudeCodeArgv executor.executable worktree.path with error | argv
  · exact Or.inl ⟨rfl, error, rfl⟩
  · exact ⟨trivial, fun reply => Or.inr ⟨argv, _, rfl⟩⟩

omit [PyParse] [PyJson] in
theorem not_ended_of_not_runsWorker (h : ∀ e ∈ log, ¬RunsWorker e.1) : ∀ e ∈ log, ¬Ended e :=
  fun e he hended => h e he hended.runsWorker

omit [PyParse] [PyJson] in
/-- A worker that could not be run has not ended. -/
theorem not_ended_concat {argv : List String} {stdin : String}
    {environment : List (String × String)} {cwd : PurePath} {error : Raised}
    (h : ∀ e ∈ log, ¬RunsWorker e.1) :
    ∀ e ∈ log ++ [⟨.run (.worker argv stdin environment) cwd, .error error⟩], ¬Ended e := by
  intro e he hended
  rcases List.mem_append.mp he with he | he
  · exact h e he hended.runsWorker
  · obtain rfl := List.mem_singleton.mp he
    obtain ⟨argv', stdin', environment', cwd', process, heq⟩ := hended
    obtain ⟨hcall, hreply⟩ := Sigma.mk.inj heq
    cases hcall
    cases eq_of_heq hreply

omit [PyParse] in
/-- From the worktree on, the worker is run, and then the checkouts are looked at. -/
theorem traced_work {environment : List (String × String)} {objective canonicalBefore : String}
    {worktree : IsolatedWorktree}
    (hworktree : worktree = executor.workspace.expectedWorktree action.id)
    (ht : ∀ e ∈ t, ¬RunsWorker e.1)
    (hstatus : ∀ output, Printed t (.git .status) executor.workspace.root output ↔
      output = canonicalBefore) :
    (executor.work environment action objective executor.workspace.root canonicalBefore
      worktree).Traced (fun _ _ => True) (fun t' r _ => Course executor action t' r) () t := by
  have hrun := traced_runWorker (t := t) executor environment objective action.target worktree
  rw [work, Proc.traced_bind]
  refine traced_caught (hrun.mono fun t' r _ _ hr => ?_)
  rcases hr with ⟨rfl, error, rfl⟩ | ⟨argv, stdin, rfl⟩
  · simp only [Except.either_error]
    have hlog := not_ended_of_not_runsWorker ht
    cases missing error with
    | some reason => exact .failure reason hlog
    | none => exact .raised error hlog
  rcases r with error | process
  · simp only [Except.either_error]
    cases missing error with
    | some reason => exact .failure reason (not_ended_concat ht)
    | none => exact .raised error (not_ended_concat ht)
  · simp only [Except.either_ok]
    refine (traced_finish fun _ _ => trivial).mono fun t' r _ _ hr => ?_
    obtain ⟨after, rfl, hfinished⟩ := hr
    rw [List.append_assoc]
    subst hworktree
    exact .started t argv stdin environment canonicalBefore process after r ht hstatus hfinished

omit [PyParse] [PyJson] in
/-- One look at a checkout among other calls shows what it printed. -/
theorem printed_status_iff {before rest : HostLog} {reply : Except Raised ProcessResult}
    {root : PurePath} {canonicalBefore : String} (hbefore : ∀ e ∈ before, Prepares e.1)
    (hrest : ∀ e ∈ rest, Prepares e.1) (hreply : statusOutput reply = .ok canonicalBefore)
    (output : String) :
    Printed (before ++ ⟨.run (.git .status) root, reply⟩ :: rest) (.git .status) root output ↔
      output = canonicalBefore := by
  obtain ⟨result, rfl, hresult, rfl⟩ := statusOutput_eq_ok_iff.mp hreply
  constructor
  · rintro ⟨result', hmem, -, rfl⟩
    rcases List.mem_append.mp hmem with hmem | hmem
    · exact absurd (hbefore _ hmem) id
    rcases List.mem_cons.mp hmem with heq | hmem
    · exact congrArg ProcessResult.stdout (Except.ok.inj (eq_of_heq (Sigma.mk.inj heq).2))
    · exact absurd (hrest _ hmem) id
  · rintro rfl
    exact ⟨result, List.mem_append_right _ List.mem_cons_self, hresult, rfl⟩

/-- Every execution takes one of the courses. -/
theorem traced_execute {capability : Option String} :
    (executor.execute action capability).Traced (fun _ _ => True)
      (fun t r _ => Course executor action t r) () [] := by
  have hnil : ∀ e ∈ ([] : HostLog), ¬Ended e := fun e he => absurd he List.not_mem_nil
  rw [execute]
  by_cases hcapability : capability = some SOFTWARE_ENGINEERING_IMPLEMENT_CAPABILITY
  swap
  · rw [if_pos hcapability]
    exact .failure "unsupported_capability" hnil
  rw [if_neg (not_not.mpr hcapability)]
  cases taskObjective action with
  | none => exact .failure "invalid_task" hnil
  | some objective =>
    simp only [Proc.traced_bind]
    refine traced_caught (((calls_cliVersion (workerEnvironment executor.environment)).traced () _).mono
      fun t₁ r _ _ hr => ?_)
    obtain ⟨hroot, _, rfl, hprepares⟩ := hr
    have hnew := not_ended_of_prepares hprepares
    rcases r with error | ⟨root, version⟩
    · simp only [Except.either_error]
      cases (missing error).orElse fun _ => unavailable error with
      | some reason => exact .failure reason hnew
      | none => exact .raised error hnew
    obtain rfl : root = executor.workspace.root := hroot _ rfl
    rw [Except.either_ok, Except.either_ok, Proc.traced_bind, Proc.traced_ofExcept]
    rcases isUnsupported version with error | _ | _
    · exact .raised error hnew
    swap
    · exact .failure "unsupported_cli" hnew
    rw [Except.either_ok, if_neg Bool.false_ne_true, Proc.traced_bind]
    refine traced_caught (traced_setUp.mono fun t₂ r _ _ hr => ?_)
    obtain ⟨reply, rest, rfl, hrest, hset⟩ := hr
    have hworker : ∀ e ∈ t₁ ++ ⟨.run (.git .status) executor.workspace.root, reply⟩ :: rest,
        ¬RunsWorker e.1 := by
      intro e he hruns
      rcases List.mem_append.mp he with he | he
      · exact (hprepares e he).not_runsWorker hruns
      rcases List.mem_cons.mp he with rfl | he
      · exact hruns
      · exact (hrest e he).not_runsWorker hruns
    have hended := not_ended_of_not_runsWorker hworker
    rcases r with error | ⟨canonicalBefore, worktree⟩
    · simp only [Except.either_error]
      cases unusable error with
      | some reason => exact .failure reason hended
      | none => exact .raised error hended
    obtain ⟨hreply, hworktree⟩ := hset _ rfl
    exact traced_work hworktree hworker (printed_status_iff hprepares hrest hreply)

/-! ### What the exchanges of an execution say about its result -/

/-- The worker's process was run in a directory, after some exchanges and before others. -/
def Ran (log before : HostLog) (cwd : PurePath) (process : ProcessResult) (after : HostLog) : Prop :=
  ∃ argv stdin environment,
    log = before ++ ⟨.run (.worker argv stdin environment) cwd, .ok process⟩ :: after

omit [PyParse] in
/-- Once the worker has ended, nothing is raised that the executor does not catch. -/
structure Undisturbed (process : ProcessResult) (after : HostLog) : Prop where
  checks : ∀ e ∈ after, ∀ raised, (e.2 : Except Raised e.1.Value) = .error raised →
    raised.kind = executableNotFoundError ∨ raised.kind = workspaceUnavailableError
  loads : ∀ error, PyJson.loads process.stdout = .error error → IsValueError error

omit [PyParse] in
/-- What a successful execution has to show. -/
structure Completed (executor : ClaudeCodeSoftwareEngineeringExecutor) (action : Action)
    (before : HostLog) (process : ProcessResult) (after : HostLog) : Prop where
  exited : process.returncode = some 0
  inTime : process.timedOut = false
  checkoutsKept : ∃ canonicalBefore,
    Printed before (.git .status) executor.workspace.root canonicalBefore ∧
      CheckoutsKept executor.workspace.root (executor.workspace.expectedWorktree action.id).path
        canonicalBefore after
  reportsDone : ReportsDone process.stdout

omit [PyParse] [PyJson] in
/-- A list is split at the only element of a kind in one way. -/
theorem split_unique {α : Type*} {p : α → Prop} {l l' m m' : List α} {x x' : α}
    (h : l ++ x :: m = l' ++ x' :: m') (hx' : p x') (hl : ∀ y ∈ l, ¬p y)
    (hm : ∀ y ∈ m, ¬p y) : l = l' ∧ x = x' ∧ m = m' := by
  induction l generalizing l' with
  | nil =>
    cases l' with
    | nil =>
      obtain ⟨rfl, rfl⟩ := List.cons.inj h
      exact ⟨rfl, rfl, rfl⟩
    | cons y l' =>
      obtain ⟨-, rfl⟩ := List.cons.inj h
      exact absurd hx' (hm x' (List.mem_append_right l' List.mem_cons_self))
  | cons y l ih =>
    cases l' with
    | nil =>
      obtain ⟨rfl, -⟩ := List.cons.inj h
      exact absurd hx' (hl y List.mem_cons_self)
    | cons y' l' =>
      obtain ⟨rfl, htail⟩ := List.cons.inj h
      obtain ⟨rfl, rfl, rfl⟩ := ih htail fun z hz => hl z (List.mem_cons_of_mem y hz)
      exact ⟨rfl, rfl, rfl⟩

omit [PyParse] [PyJson] in
theorem Looked.not_runsWorker {root worktree : PurePath} {after : HostLog}
    {r : Except Raised (String × String)} (h : Looked root worktree after r) :
    ∀ e ∈ after, ¬RunsWorker e.1 := by
  intro e he
  cases h with
  | canonical =>
    obtain rfl := List.mem_singleton.mp he
    exact id
  | worktree | both =>
    rcases List.mem_pair.mp he with rfl | rfl
    · exact id
    · exact id

omit [PyParse] in
theorem Finished.not_runsWorker {root : PurePath} {canonicalBefore : String}
    {worktree : IsolatedWorktree} {process : ProcessResult} {after : HostLog}
    {r : Except Raised WorkerExecutionResult}
    (h : Finished action root canonicalBefore worktree process after r) :
    ∀ e ∈ after, ¬RunsWorker e.1 := by
  cases h with
  | unavailable error hlooked herror => exact hlooked.not_runsWorker
  | raised error hlooked herror => exact hlooked.not_runsWorker
  | looked canonicalAfter worktreeStatus hlooked => exact hlooked.not_runsWorker

variable {r : Except Raised WorkerExecutionResult} {before after : HostLog} {cwd : PurePath}
  {process : ProcessResult} {result : WorkerExecutionResult}

omit [PyParse] in
/-- No failure is worth another attempt. -/
theorem Course.not_transient (h : Course executor action log (.ok result)) :
    ∀ failure ∈ result.failure, failure.category ≠ .transient := by
  generalize hr : (Except.ok result : Except Raised WorkerExecutionResult) = r at h
  cases h with
  | unstarted _ _ hlog hcategory => exact hcategory result hr.symm
  | started before argv stdin environment canonicalBefore process after r hbefore hstatus hfinished =>
    subst hr
    exact hfinished.isExecuted.1.not_transient

omit [PyParse] in
/-- The exchanges of an execution that ran the worker, and what it led to. -/
theorem Course.finished (h : Course executor action log r) (hran : Ran log before cwd process after) :
    ∃ canonicalBefore,
      (∀ output, Printed before (.git .status) executor.workspace.root output ↔
        output = canonicalBefore) ∧
      Finished action executor.workspace.root canonicalBefore
        (executor.workspace.expectedWorktree action.id) process after r := by
  obtain ⟨argv, stdin, environment, hlog⟩ := hran
  cases h with
  | unstarted _ _ hnot hr =>
    refine absurd ⟨argv, stdin, environment, cwd, process, rfl⟩ (hnot _ ?_)
    rw [hlog]
    exact List.mem_append_right before List.mem_cons_self
  | started before argv stdin environment canonicalBefore process after r hbefore hstatus hfinished =>
    obtain ⟨rfl, heq, rfl⟩ := split_unique (p := fun e : Exchange Host => RunsWorker e.1) hlog
      trivial hbefore hfinished.not_runsWorker
    obtain ⟨hcall, hreply⟩ := Sigma.mk.inj heq
    cases hcall
    cases eq_of_heq hreply
    exact ⟨canonicalBefore, hstatus, hfinished⟩

omit [PyParse] in
/-- Where an execution ran the worker and returns, it reports something that was executed,
and a success exactly if everything bears it out. -/
theorem Course.isExecuted (h : Course executor action log (.ok result))
    (hran : Ran log before cwd process after) :
    result.IsExecuted ∧
      (result.status = .succeeded ↔ Completed executor action before process after) := by
  obtain ⟨canonicalBefore, hstatus, hfinished⟩ := h.finished hran
  obtain ⟨hexecuted, hsucceeded⟩ := hfinished.isExecuted
  refine ⟨hexecuted, hsucceeded.trans ⟨?_, ?_⟩⟩
  · rintro ⟨hexited, hinTime, hkept, hdone⟩
    exact ⟨hexited, hinTime, ⟨canonicalBefore, (hstatus _).mpr rfl, hkept⟩, hdone⟩
  · rintro ⟨hexited, hinTime, ⟨output, hprinted, hkept⟩, hdone⟩
    obtain rfl := (hstatus output).mp hprinted
    exact ⟨hexited, hinTime, hkept, hdone⟩

omit [PyParse] in
/-- An execution that ran the worker returns, unless something is raised that nobody catches. -/
theorem Course.exists_result (h : Course executor action log r)
    (hran : Ran log before cwd process after) (hundisturbed : Undisturbed process after) :
    ∃ result, r = .ok result := by
  obtain ⟨canonicalBefore, hstatus, hfinished⟩ := h.finished hran
  exact hfinished.exists_result hundisturbed.checks hundisturbed.loads

end Course

end ClaudeCodeSoftwareEngineeringExecutor

end Velox
