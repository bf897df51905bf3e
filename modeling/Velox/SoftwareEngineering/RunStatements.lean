import Mathlib.Data.List.Sort
import Velox.Lib.TableRows
import Velox.SoftwareEngineering.RunRow

/-!
# Statements on the run table

What SQLite does with the statements of the run repository, and the transactions the
repository puts them into. A transaction is committed when its `with` block is left, and
rolled back when the block is left by an exception; SQLite serializes transactions.

Values are checked when they are bound: an integer has to fit into 64 bits. That an
`UPDATE` puts no `NULL` under a `NOT NULL` column is not checked: no statement of the
repository does.

## Main definitions

* `SqlCondition`, `RunStatement` — the statements
* `runStatement` — what they do to the table
* `RunTransaction`, `RunTransaction.body` — the transactions of the repository
* `transact` — what a transaction does
-/

set_option autoImplicit false

namespace Velox

/-! ### Values -/

/-- A value that Python can bind: an integer has 64 bits. -/
def SqlValue.Fits : SqlValue → Prop
  | .integer n => -2 ^ 63 ≤ n ∧ n < 2 ^ 63
  | _ => True

instance (value : SqlValue) : Decidable value.Fits := by
  cases value <;> unfold SqlValue.Fits <;> infer_instance

/-- The place of a storage class in an ordering. -/
def SqlValue.rank : SqlValue → ℕ
  | .null => 0
  | .integer _ => 1
  | .text _ => 2
  | .other _ _ => 3

/-- The order of values: `NULL`, numbers, texts by their code points, `BLOB`s. -/
def SqlValue.le : SqlValue → SqlValue → Bool
  | .integer m, .integer n => m ≤ n
  | .text s, .text t => s ≤ t
  | .other s _, .other t _ => s ≤ t
  | a, b => a.rank ≤ b.rank

/-- The order of rows under `ORDER BY`. -/
def SqlRow.le : List String → SqlRow → SqlRow → Bool
  | [], _, _ => true
  | column :: columns, a, b =>
    let x := (a column).getD .null
    let y := (b column).getD .null
    if x = y then SqlRow.le columns a b else x.le y

/-! ### Statements -/

/-- One of the conditions of a `WHERE` clause. -/
inductive SqlCondition
  | equals (column : String) (value : SqlValue)
  | isNull (column : String)
  | isNotNull (column : String)
  deriving DecidableEq

namespace SqlCondition

/-- The column a condition is about. -/
def column : SqlCondition → String
  | equals column _ => column
  | isNull column => column
  | isNotNull column => column

/-- The value a condition binds. -/
def bound : SqlCondition → Option SqlValue
  | equals _ value => some value
  | isNull _ => none
  | isNotNull _ => none

/-- Whether a row meets a condition. Nothing equals `NULL`. -/
def holds (row : SqlRow) : SqlCondition → Bool
  | equals column value => value ≠ .null ∧ row column = some value
  | isNull column => row column = some .null
  | isNotNull column => row column ≠ none ∧ row column ≠ some .null

/-- `WHERE action_id = ?`. -/
def isAction (actionId : UUID) : SqlCondition := equals "action_id" (.ofUUID actionId)

end SqlCondition

/-- Whether a row meets a `WHERE` clause. -/
def Meets (conditions : List SqlCondition) (row : SqlRow) : Bool :=
  conditions.all (SqlCondition.holds row)

/-- The statements of the repository. -/
inductive RunStatement
  /-- `SELECT * FROM software_engineering_runs`. -/
  | select (conditions : List SqlCondition) (orderBy : List String)
  /-- `INSERT INTO software_engineering_runs`. -/
  | insert (values : List (String × SqlValue))
  /-- `UPDATE software_engineering_runs`, answered with `cursor.rowcount`. -/
  | update (assignments : List (String × SqlValue)) (conditions : List SqlCondition)
  deriving DecidableEq

/-- The statements with their results. -/
@[reducible] def RunStatements : Signature where
  Call := RunStatement
  Reply
    | .select .. => Except Raised (List SqlRow)
    | .insert _ => Except Raised Unit
    | .update .. => Except Raised ℕ

namespace RunStatement

/-- The columns a statement names. -/
def columns : RunStatement → List String
  | select conditions orderBy => conditions.map SqlCondition.column ++ orderBy
  | insert values => values.map Prod.fst
  | update assignments conditions =>
    assignments.map Prod.fst ++ conditions.map SqlCondition.column

/-- The values a statement binds. -/
def bound : RunStatement → List SqlValue
  | select conditions _ => conditions.filterMap SqlCondition.bound
  | insert values => values.map Prod.snd
  | update assignments conditions =>
    assignments.map Prod.snd ++ conditions.filterMap SqlCondition.bound

end RunStatement

/-- `sqlite3.IntegrityError`. -/
def integrityError : Raised := ⟨.exception "sqlite3.IntegrityError", "constraint failed"⟩

/-- What binding an integer of more than 64 bits raises. -/
def bindingError : Raised := ⟨.overflowError, "Python int too large to convert to SQLite INTEGER"⟩

/-- A new row would break the primary key or leave a required column empty. -/
def RunsTable.Violates (t : RunsTable) (values : List (String × SqlValue)) : Prop :=
  ∃ c ∈ t.columns,
    (c.2.notNull = true ∧ (values.lookup c.1).getD .null = .null) ∨
      (c.2.primaryKey = true ∧ ∃ value, values.lookup c.1 = some value ∧ value ≠ .null ∧
        ∃ row ∈ t.rows, t.value row c.1 = some value)

instance (t : RunsTable) (values : List (String × SqlValue)) : Decidable (t.Violates values) :=
  have (c : String × ColumnDecl) : Decidable (∃ value, values.lookup c.1 = some value ∧
      value ≠ .null ∧ ∃ row ∈ t.rows, t.value row c.1 = some value) :=
    match h : values.lookup c.1 with
    | none => .isFalse (by simp)
    | some value => decidable_of_iff (value ≠ .null ∧ ∃ row ∈ t.rows, t.value row c.1 = some value)
        (by simp)
  inferInstanceAs (Decidable (∃ c ∈ t.columns, _ ∨ _ ∧ _))

/-- Why a statement is refused before it does anything: it names a column that is not
there, or binds a value that does not fit. -/
def RunStatement.refusal (statement : RunStatement) (t : RunsTable) : Option Raised :=
  if ∃ column ∈ statement.columns, column ∉ t.names then some (sqliteError "no such column")
  else if ∃ value ∈ statement.bound, ¬value.Fits then some bindingError
  else none

/-- What the statements do. -/
def runStatement : Handler RunStatements RunsTable
  | .select conditions orderBy, t =>
    match (RunStatement.select conditions orderBy).refusal t with
    | some e => (.error e, t)
    | none =>
      (.ok (((t.select (Meets conditions)).map t.value).insertionSort
        fun a b => SqlRow.le orderBy a b), t)
  | .insert values, t =>
    match (RunStatement.insert values).refusal t with
    | some e => (.error e, t)
    | none =>
      if t.Violates values then (.error integrityError, t) else (.ok (), t.insert values .null)
  | .update assignments conditions, t =>
    match (RunStatement.update assignments conditions).refusal t with
    | some e => (.error e, t)
    | none =>
      (.ok (t.select (Meets conditions)).length, t.update (Meets conditions) assignments)

/-! ### Transactions -/

/-- The transactions of the repository, one for each `with` block. -/
inductive RunTransaction
  | get (actionId : UUID)
  | listPendingApproval
  | insert (values : List (String × SqlValue))
  /-- An `UPDATE` that has to change one row; otherwise the message is raised. -/
  | update (assignments : List (String × SqlValue)) (conditions : List SqlCondition)
      (message : String)
  | claim (claimedAt : DateTime) (claimId actionId : UUID)
  deriving DecidableEq

/-- What a transaction returns. -/
@[reducible] def RunTransaction.Value : RunTransaction → Type
  | .get _ => Option SqlRow
  | .listPendingApproval => List SqlRow
  | .insert _ => Unit
  | .update .. => Unit
  | .claim .. => RunState × String

/-- The transactions with their results. -/
abbrev RunTransactions : Signature where
  Call := RunTransaction
  Reply t := Except Raised t.Value

/-- The statements of a transaction. -/
abbrev StatementTask (α : Type) := Proc RunStatements Unit Raised α

namespace RunTransaction

/-- The assignments of `claim_approved`. -/
def claimAssignments (claimedAt : DateTime) (claimId : UUID) : List (String × SqlValue) := [
  ("claim_id", .ofUUID claimId),
  ("claimed_at", .ofDateTime claimedAt),
  ("claim_resolution", .null),
  ("claim_reconciled_at", .null),
  ("updated_at", .ofDateTime claimedAt)]

/-- The conditions of `claim_approved`. -/
def claimConditions (actionId : UUID) : List SqlCondition := [
  .isAction actionId,
  .equals "approval_status" (.text ApprovalStatus.approved.value),
  .isNull "claim_id",
  .isNull "execution_status"]

/-- An `UPDATE` and the check of `cursor.rowcount`. -/
def updateOne (assignments : List (String × SqlValue)) (conditions : List SqlCondition)
    (message : String) : StatementTask Unit := do
  let rowcount ← Proc.request RunStatements (.update assignments conditions) id
  Proc.ofExcept (.raiseIf (rowcount ≠ 1) (runStateError message))

/-- What is checked of the row that is to be claimed; its objective is returned. -/
def claimable (current : RunState) : Except Raised String := do
  .raiseIf (current.approvalStatus ≠ some .approved)
    (runStateError "software engineering action is not durably approved")
  .raiseIf (current.executionStatus ≠ none)
    (runStateError "software engineering action already has an execution result")
  .raiseIf (current.claimId ≠ none)
    (runStateError "software engineering action already has a durable execution claim")
  normalizeRequiredObjective current.pendingObjective

/-- What is done with the row that is to be claimed. -/
def claimRow [PyStd] [PyIsoformat] (claimedAt : DateTime) (claimId actionId : UUID) :
    Option SqlRow → StatementTask (RunState × String)
  | none => throw (runStateError "software engineering run state does not exist")
  | some row => do
    let current ← Proc.ofExcept (stateFromRow row)
    let objective ← Proc.ofExcept (claimable current)
    updateOne (claimAssignments claimedAt claimId) (claimConditions actionId)
      "software engineering action could not be claimed atomically"
    return (current, objective)

/-- The body of a `with` block. -/
def body [PyStd] [PyIsoformat] : (t : RunTransaction) → StatementTask t.Value
  | .get actionId => do
    let rows ← Proc.request RunStatements (.select [.isAction actionId] []) id
    return rows.head?
  | .listPendingApproval =>
    Proc.request RunStatements (.select [
      .equals "approval_status" (.text ApprovalStatus.awaitingApproval.value),
      .isNull "claim_id",
      .isNull "execution_status"] ["created_at", "action_id"]) id
  | .insert values => Proc.request RunStatements (.insert values) id
  | .update assignments conditions message => updateOne assignments conditions message
  | .claim claimedAt claimId actionId => do
    let rows ← Proc.request RunStatements (.select [.isAction actionId] []) id
    claimRow claimedAt claimId actionId rows.head?

end RunTransaction

/-- A transaction: its statements are committed, or all of them are rolled back. -/
def transact [PyStd] [PyIsoformat] : Handler RunTransactions RunsTable := fun transaction t =>
  match transaction.body.run runStatement () t with
  | ((.ok a, _), t') => (.ok a, t')
  | ((.error e, _), _) => (.error e, t)

end Velox
