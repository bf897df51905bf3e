import Velox.SoftwareEngineering.SqliteInterleaving
import Velox.System.ServiceClaims

/-!
# Processes that share a run table

Any number of processes, each with its own stores, share one SQLite run table. The calls and
transactions of their operations interleave in any order, the outside answers as it likes, and
a process may stop anywhere: an operation that is never given another turn has been abandoned.

## Main definitions

* `carry` — a call of the run repository as its transactions
* `ServiceCall`, `ServiceTurn`, `shared` — operations of processes, and their turns
* `invocation`, `grant` — invocations of executors and claims among calls and transactions

## Main results

* `shared_invocations` — an action is executed at most once for every claim
* `shared_once` — and at most once where nobody releases its claim
-/

set_option autoImplicit false

namespace Velox

/-! ### The operations over the transactions of the repository -/

section Carry

variable [PyStd] [PyIsoformat]

/-- A call of the run repository is carried out by its transactions. -/
def carry : (c : OutsideCall) → Prog (Outside.sum RunTransactions) (OutsideCall.Reply c)
  | .store call => (SqliteRunRepository.implement call).outcome.inr
  | c => .call (.inl c) .ret

/-- An invocation of an executor, among calls and transactions. -/
def invocation (id : UUID) : (Outside.sum RunTransactions).Call → ℕ
  | .inl c => invocations id c
  | .inr _ => 0

/-- A claim that was granted, among calls and transactions. -/
def grant (id : UUID) : Exchange (Outside.sum RunTransactions) → ℕ
  | ⟨.inl _, _⟩ => 0
  | ⟨.inr transaction, r⟩ => claims id ⟨transaction, r⟩

/-- The transactions grant what the calls they carry out were granted. -/
structure Carried (id : UUID) (t : List (Exchange Outside))
    (t' : List (Exchange (Outside.sum RunTransactions))) : Prop where
  spent : Pool.spent (invocation id) t' = Pool.spent (invocations id) t
  granted : Pool.granted (grants id) t ≤ Pool.granted (grant id) t'

omit [PyStd] [PyIsoformat] in
theorem Carried.inr {id : UUID} {t : List (Exchange Outside)}
    {t' : List (Exchange (Outside.sum RunTransactions))} (h : Carried id t t')
    (transaction : RunTransaction) (r : Except Raised transaction.Value) :
    Carried id t (t' ++ [⟨.inr transaction, r⟩]) := by
  constructor
  · rw [Pool.spent_append, h.spent]
    rfl
  · rw [Pool.granted_append]
    exact h.granted.trans (Nat.le_add_right _ _)

omit [PyStd] [PyIsoformat] in
theorem Carried.inl {id : UUID} {c : OutsideCall} {t : List (Exchange Outside)}
    {t' : List (Exchange (Outside.sum RunTransactions))} (h : Carried id t t')
    {r : OutsideCall.Reply c} (hgrants : grants id ⟨c, r⟩ = 0) :
    Carried id (t ++ [⟨c, r⟩]) (t' ++ [⟨.inl c, r⟩]) := by
  constructor
  · rw [Pool.spent_append, Pool.spent_append, h.spent]
    rfl
  · rw [Pool.granted_append, Pool.granted_append]
    show _ + (grants id ⟨c, r⟩ + 0) ≤ _
    rw [hgrants]
    exact h.granted

omit [PyStd] [PyIsoformat] in
/-- A claim is granted when its transaction succeeds. -/
theorem Carried.claimed {id : UUID} {t : List (Exchange Outside)}
    {t' : List (Exchange (Outside.sum RunTransactions))} (h : Carried id t t')
    {claimedAt : DateTime} {claimId id' : UUID} {r : Except Raised ActionClaim}
    {r' : Except Raised (RunState × String)}
    (hr : grants id ⟨.store (.claimApproved claimedAt claimId id'), r⟩ =
      claims id ⟨.claim claimedAt claimId id', r'⟩) :
    Carried id (t ++ [⟨.store (.claimApproved claimedAt claimId id'), r⟩])
      (t' ++ [⟨.inr (.claim claimedAt claimId id'), r'⟩]) := by
  constructor
  · rw [Pool.spent_append, Pool.spent_append, h.spent]
    rfl
  · rw [Pool.granted_append, Pool.granted_append]
    show _ + (grants id _ + 0) ≤ _ + (claims id _ + 0)
    rw [hr]
    exact Nat.add_le_add_right h.granted _

omit [PyStd] [PyIsoformat] in
/-- A call that the repository is not asked. -/
theorem carried_inl {id : UUID} {c : OutsideCall} {t : List (Exchange Outside)}
    {t' : List (Exchange (Outside.sum RunTransactions))}
    (hc : Pool.Affords (invocations id) (grants id) t c) (h : Carried id t t')
    (hgrants : ∀ r, grants id ⟨c, r⟩ = 0) :
    (Prog.call (F := Outside.sum RunTransactions) (.inl c) .ret).Traced
      (Pool.Affords (invocation id) (grant id)) (fun t'' r => Carried id (t ++ [⟨c, r⟩]) t'') t' := by
  refine ⟨?_, fun r => h.inl (hgrants r)⟩
  show Pool.spent (invocation id) t' + invocations id c ≤ _
  rw [h.spent]
  exact Nat.le_trans hc h.granted

/-- A transaction that satisfies `P`. -/
def IsTransaction (P : RunTransaction → Prop) : (Outside.sum RunTransactions).Call → Prop
  | .inl _ => False
  | .inr transaction => P transaction

theorem calls_store (call : RunCall) :
    (carry (.store call)).Calls (IsTransaction (RunTransaction.IssuedBy call)) fun _ => True :=
  Prog.Calls.inr (Proc.calls_outcome (SqliteRunRepository.calls_implement call ()))

/-- A call of the repository that claims nothing. -/
theorem carried_store {id : UUID} {call : RunCall} {t : List (Exchange Outside)}
    {t' : List (Exchange (Outside.sum RunTransactions))}
    (hc : Pool.Affords (invocations id) (grants id) t (.store call)) (h : Carried id t t')
    (hgrants : ∀ r, grants id ⟨.store call, r⟩ = 0) :
    (carry (.store call)).Traced (Pool.Affords (invocation id) (grant id))
      (fun t'' r => Carried id (t ++ [⟨.store call, r⟩]) t'') t' := by
  have htraced := Prog.Calls.traced_keeps (K := Pool.Affords (invocation id) (grant id))
    (I := Carried id t) ?_ ?_ (calls_store call) h
  · refine htraced.mono fun t'' r _ hr => ⟨?_, ?_⟩
    · rw [hr.2.spent, Pool.spent_append]
      rfl
    · rw [Pool.granted_append]
      show _ + (grants id ⟨.store call, r⟩ + 0) ≤ _
      rw [hgrants]
      exact hr.2.granted
  · rintro t'' (c | transaction) htransaction h
    · exact htransaction.elim
    · show Pool.spent (invocation id) t'' + 0 ≤ _
      rw [h.spent]
      exact Nat.le_trans hc h.granted
  · rintro t'' (c | transaction) r htransaction h
    · exact htransaction.elim
    · exact h.inr transaction r

theorem carried_carry {id : UUID} (c : OutsideCall) {t : List (Exchange Outside)}
    {t' : List (Exchange (Outside.sum RunTransactions))}
    (hc : Pool.Affords (invocations id) (grants id) t c) (h : Carried id t t') :
    (carry c).Traced (Pool.Affords (invocation id) (grant id))
      (fun t'' r => Carried id (t ++ [⟨c, r⟩]) t'') t' := by
  cases c with
  | store call =>
    cases call with
    | claimApproved claimedAt claimId id' =>
      -- the reply is that of the one transaction that claims
      refine ⟨?_, fun r => ?_⟩
      · show Pool.spent (invocation id) t' + 0 ≤ _
        rw [h.spent]
        exact Nat.le_trans hc h.granted
      · cases r with
        | error e => exact h.claimed rfl
        | ok claimed => exact h.claimed rfl
    | _ => exact carried_store hc h fun _ => rfl
  | _ => exact carried_inl hc h fun _ => rfl

/-- A call of an operation, or a transaction of such a call. -/
def Makes (P : OutsideCall → Prop) : (Outside.sum RunTransactions).Call → Prop
  | .inl c => P c
  | .inr transaction => ∃ call, P (.store call) ∧ transaction.IssuedBy call

theorem calls_carry {P : OutsideCall → Prop} {c : OutsideCall} (hc : P c) :
    (carry c).Calls (Makes P) fun _ => True := by
  cases c with
  | store call =>
    refine (calls_store call).permit fun c htransaction => ?_
    cases c with
    | inl c => exact htransaction.elim
    | inr transaction => exact ⟨call, hc, htransaction⟩
  | _ => exact ⟨hc, fun _ => trivial⟩

end Carry

/-! ### Processes that share a run table -/

/-- An operation that a process begins, with the stores it finds. -/
structure ServiceCall [PyStd] where
  deployment : Deployment
  op : ServiceOp
  stores : Stores

/-- An operation begins, or one that is underway makes its next call or transaction. -/
abbrev ServiceTurn [PyStd] := ServiceCall ⊕ ℕ

/-- The transactions among some exchanges. -/
def transactions (t : List (Exchange (Outside.sum RunTransactions))) :
    List (Exchange RunTransactions) :=
  t.filterMap fun
    | ⟨.inl _, _⟩ => none
    | ⟨.inr transaction, r⟩ => some ⟨transaction, r⟩

theorem transactions_append_inl (t : List (Exchange (Outside.sum RunTransactions)))
    (c : OutsideCall) (r : OutsideCall.Reply c) :
    transactions (t ++ [⟨.inl c, r⟩]) = transactions t := by
  rw [transactions, List.filterMap_append]
  exact List.append_nil _

theorem transactions_append_inr (t : List (Exchange (Outside.sum RunTransactions)))
    (transaction : RunTransaction) (r : Except Raised transaction.Value) :
    transactions (t ++ [⟨.inr transaction, r⟩]) = transactions t ++ [⟨transaction, r⟩] :=
  List.filterMap_append

theorem granted_transactions (id : UUID) (t : List (Exchange (Outside.sum RunTransactions))) :
    Pool.granted (claims id) (transactions t) = Pool.granted (grant id) t := by
  induction t with
  | nil => rfl
  | cons e t ih =>
    rcases e with ⟨c | transaction, r⟩
    · exact ih.trans (Nat.zero_add _).symm
    · exact congrArg (claims id ⟨transaction, r⟩ + ·) ih

section Shared

variable [PyStd] [PyIsoformat] {W : Type} (h : Handler Outside W) (w : W)

/-- An operation as a program underway. -/
def ServiceCall.task (call : ServiceCall) : Prog (Outside.sum RunTransactions) Unit :=
  ((call.deployment.method call.op call.stores).expand carry).bind fun _ => .ret ()

/-- A turn of the pool. -/
def ServiceTurn.turn : ServiceTurn → Turn (Outside.sum RunTransactions) Unit
  | .inl call => .join call.task
  | .inr i => .advance i

/-- The operations underway, what they share and the exchanges so far. -/
def shared (turns : List ServiceTurn) : Pool (Outside.sum RunTransactions) Unit
    ((W × RunsTable) × List (Exchange (Outside.sum RunTransactions))) :=
  Run.after (Pool.turn (Handler.both h transact).logged) (.empty ((w, emptyRuns), []))
    (turns.map ServiceTurn.turn)

/-- The run table after some turns. -/
def sharedTable (turns : List ServiceTurn) : RunsTable := (shared h w turns).world.1.2

/-- The calls and transactions of some turns. -/
def sharedLog (turns : List ServiceTurn) : List (Exchange (Outside.sum RunTransactions)) :=
  (shared h w turns).world.2

theorem calls_serviceTask {P : OutsideCall → Prop} {call : ServiceCall}
    (hP : ∀ c, call.op.Permits c → P c) : call.task.Calls (Makes P) fun _ => True := by
  have hcalls := (call.deployment.calls_method call.op call.stores).expand
    fun c hc => calls_carry (hP c hc)
  exact Prog.calls_bind.mpr (hcalls.mono fun _ _ => trivial)

theorem joining_serviceTurns {P : Prog (Outside.sum RunTransactions) Unit → Prop}
    {turns : List ServiceTurn} (hturns : ∀ call, .inl call ∈ turns → P call.task) :
    Pool.Joining P (turns.map ServiceTurn.turn) := by
  intro p hp
  obtain ⟨turn, hmem, hturn⟩ := List.mem_map.mp hp
  cases turn with
  | inl call =>
    obtain rfl := Turn.join.inj hturn
    exact hturns call hmem
  | inr i => cases hturn

/-- What holds of the run table and the transactions on it. -/
def SharedSound (world : (W × RunsTable) × List (Exchange (Outside.sum RunTransactions))) : Prop :=
  Sound (world.1.2, transactions world.2)

theorem keeps_shared (turns : List ServiceTurn) :
    (shared h w turns).Keeps (Makes fun _ => True) (fun _ => True) SharedSound := by
  apply Pool.invariant
  · rintro (c | transaction) world hmakes hsound
    · show Sound (world.1.2, transactions (world.2 ++ [_]))
      rw [transactions_append_inl]
      exact hsound
    · obtain ⟨call, -, hissued⟩ := hmakes
      show Sound ((transact transaction world.1.2).2, transactions (world.2 ++ [_]))
      rw [transactions_append_inr]
      exact Sound.transact ⟨call, hissued⟩ hsound
  · apply Pool.keeps_empty
    exact ⟨.empty, RunsTable.persists_empty, InMemoryRunRepository.consistent_empty, fun _ => rfl⟩
  · exact joining_serviceTurns fun call _ => calls_serviceTask fun _ _ => trivial

omit [PyStd] [PyIsoformat] in
/-- Where no operation releases the claim of an action, no transaction does. -/
theorem releases_eq_zero {id : UUID} {call : RunCall} {transaction : RunTransaction}
    (hissued : transaction.IssuedBy call)
    (hcall : ∀ expected reconciled, call ≠ .write (.releaseUnstartedClaim id expected reconciled))
    (r : Except Raised transaction.Value) : releases id ⟨transaction, r⟩ = 0 := by
  cases hissued with
  | update write pendingObjective hwrite =>
    cases r with
    | error e => rfl
    | ok _ =>
      refine releases_transaction.trans (if_neg ?_)
      rintro ⟨hreleases, hid⟩
      cases write with
      | releaseUnstartedClaim id' expected reconciled =>
        obtain rfl : id' = id := hid
        exact hcall expected reconciled hwrite
      | _ => exact hreleases
  | _ => rfl

/-- An operation releases the claim of an action only as a reconciliation. -/
def Releasing (id : UUID) (c : OutsideCall) : Prop :=
  ∃ expected reconciled, c = .store (.write (.releaseUnstartedClaim id expected reconciled))

theorem released_shared {turns : List ServiceTurn} {id : UUID}
    (hrelease : ∀ call stateToken acknowledged, .inl call ∈ turns →
      call.op ≠ .reconcile id .release stateToken acknowledged) :
    Pool.granted (releases id) (transactions (sharedLog h w turns)) = 0 := by
  have hkeeps : (shared h w turns).Keeps (Makes fun c => ¬Releasing id c) (fun _ => True)
      fun world => Pool.granted (releases id) (transactions world.2) = 0 := by
    apply Pool.invariant
    · rintro (c | transaction) world hmakes hzero
      · show Pool.granted (releases id) (transactions (world.2 ++ [_])) = 0
        rw [transactions_append_inl]
        exact hzero
      · obtain ⟨call, hcall, hissued⟩ := hmakes
        have hnone : releases id ⟨transaction, (transact transaction world.1.2).1⟩ = 0 :=
          releases_eq_zero hissued
            (fun expected reconciled hc => hcall ⟨expected, reconciled, congrArg _ hc⟩) _
        show Pool.granted (releases id) (transactions (world.2 ++ [_])) = 0
        rw [transactions_append_inr, Pool.granted_append, hzero]
        exact (Nat.zero_add _).trans hnone
    · exact Pool.keeps_empty rfl
    · refine joining_serviceTurns fun call hcall => calls_serviceTask fun c hc => ?_
      rintro ⟨expected, reconciled, rfl⟩
      obtain ⟨stateToken, acknowledged, hop⟩ := hc
      exact hrelease call stateToken acknowledged hcall hop
  exact hkeeps.2

/-- The programs underway pay for every executor they invoke. -/
theorem affords_serviceTask (call : ServiceCall) (id : UUID) :
    call.task.Traced (Pool.Affords (invocation id) (grant id)) (fun _ _ => True) [] := by
  have hcarried : Carried id [] [] := ⟨rfl, Nat.le_refl 0⟩
  have htraced := (call.deployment.affords_method call.op call.stores id).expand
    (fun c t t' => carried_carry c) hcarried
  exact Prog.traced_bind.mpr (htraced.mono fun _ _ _ _ => trivial)

end Shared

/-- However the calls and transactions of any number of processes interleave, and wherever
processes stop: an executor is invoked for an action at most as often as its claim was
released, and once more while it is claimed. -/
theorem shared_invocations [PyStd] [PyIsoformat] {W : Type} (h : Handler Outside W) (w : W)
    (turns : List ServiceTurn) (id : UUID) :
    Pool.spent (invocation id) (sharedLog h w turns) ≤
      Pool.granted (releases id) (transactions (sharedLog h w turns)) +
        held ((sharedTable h w turns).state id) := by
  obtain ⟨-, repository, hpersists, -, hcount⟩ := keeps_shared h w turns
  have hpaid : Pool.spent (invocation id) (sharedLog h w turns) ≤
      Pool.granted (grant id) (sharedLog h w turns) :=
    Pool.spent_le_granted (joining_serviceTurns fun call _ => affords_serviceTask call id)
  have hclaims : Pool.granted (claims id) (transactions (sharedLog h w turns)) =
      Pool.granted (releases id) (transactions (sharedLog h w turns)) +
        held (repository.states.get id) := hcount id
  rw [sharedTable, hpersists.state, ← hclaims, granted_transactions]
  exact hpaid

/-- Where nobody releases its claim, an executor is invoked for an action at most once. -/
theorem shared_once [PyStd] [PyIsoformat] {W : Type} (h : Handler Outside W) (w : W)
    {turns : List ServiceTurn} {id : UUID}
    (hrelease : ∀ call stateToken acknowledged, .inl call ∈ turns →
      call.op ≠ .reconcile id .release stateToken acknowledged) :
    Pool.spent (invocation id) (sharedLog h w turns) ≤ 1 := by
  have hinvocations := shared_invocations h w turns id
  rw [released_shared h w hrelease, Nat.zero_add] at hinvocations
  refine hinvocations.trans ?_
  rw [held]
  split_ifs
  · exact Nat.le_refl 1
  · exact Nat.zero_le 1

/-- The outside as a cooperative environment answers, drawing one identifier over and over. -/
def standstill : Handler Outside Unit := fun c _ =>
  ((outside .cooperative inMemoryRunRepository c (.initial _)).1, ())

/-- A task is delegated, and two processes continue it turn by turn. -/
def racingExecutions [PyStd] : List ServiceTurn :=
  let deployment : Deployment := {
    executorRegistry := .codingOnly
    maxTransientRetries := 3
    reviewer := false
    inspector := false
    workProducts := false
    promotion := {
      enabled := false
      available := false
      baseBranch := "main"
      expectedBranch := UUID.str } }
  let start (op : ServiceOp) : ServiceTurn := .inl ⟨deployment, op, {}⟩
  start (.delegate "add a test" "velox") :: List.replicate 6 (.inr 0) ++
    [start (.execute 0), start (.execute 0)] ++ (List.replicate 18 [.inr 1, .inr 2]).flatten

/-- Only one of the two processes is granted the claim, and it executes the action. -/
theorem shared_once_racingExecutions :
    letI := PyStd.ascii
    letI := PyIsoformat.plain
    Pool.spent (invocation 0) (sharedLog standstill () racingExecutions) = 1 ∧
      Pool.spent (invocation 0) (sharedLog standstill () racingExecutions) ≤ 1 := by
  let := PyStd.ascii
  let := PyIsoformat.plain
  refine ⟨by decide +kernel, shared_once standstill () ?_⟩
  intro call stateToken acknowledged hcall
  have hcases : call.op = .delegate "add a test" "velox" ∨ call.op = .execute 0 := by
    simp [racingExecutions] at hcall
    rcases hcall with rfl | rfl
    · exact Or.inl rfl
    · exact Or.inr rfl
  rcases hcases with hop | hop <;> simp [hop]

end Velox
