import Velox.Core.Error
import Velox.Lib.ColumnTable
import Velox.Lib.Effect

/-!
# The schema of the run database

What opening the durable run repository asks of SQLite, and what SQLite does. A statement
that changes the schema takes effect at once; one that changes rows opens a transaction,
which is committed when the connection is left, or rolled back when it is left by an
exception.

## Main definitions

* `SqlValue`, `RunsTable`, `Database` — what is stored
* `SqlCalls`, `sqlite` — the statements, and what they do to a connection
* `SqliteSoftwareEngineeringRunRepository.init` — opening the repository
* `openRunRepository`, `crashedAfter` — opening it to the end, and stopping on the way
-/

set_option autoImplicit false

namespace Velox

/-! ### What is stored -/

/-- A value of a column. A `REAL` or a `BLOB` is known by its `str` and its `int`. -/
inductive SqlValue
  | null
  | integer (n : ℤ)
  | text (s : String)
  | other (str : String) (int : Except Raised ℤ)
  deriving DecidableEq

/-- `str(value)`. -/
def SqlValue.str : SqlValue → String
  | .null => "None"
  | .integer n => toString n
  | .text s => s
  | .other str _ => str

/-- `int(value)`. -/
def SqlValue.toInt [PyStd] : SqlValue → Except Raised ℤ
  | .null => .error ⟨.typeError, "int() argument must not be 'NoneType'"⟩
  | .integer n => .ok n
  | .text s =>
    match PyStd.parseInt s with
    | some n => .ok n
    | none => .error ⟨.valueError, "invalid literal for int() with base 10"⟩
  | .other _ int => int

/-- The declared type of a column. -/
inductive SqlType
  | text
  | integer
  deriving DecidableEq

/-- The declaration of a column. -/
structure ColumnDecl where
  type : SqlType
  notNull : Bool := false
  primaryKey : Bool := false
  deriving DecidableEq

/-- The table `software_engineering_runs`. -/
abbrev RunsTable := ColumnTable String ColumnDecl SqlValue

/-- The tables of the run database: `velox_schema`, with the version of each name, and
the table of the runs. -/
structure Database where
  schema : Option (OrderedDict String SqlValue)
  runs : Option RunsTable

/-- `_SCHEMA_NAME`. -/
def SCHEMA_NAME : String := "software_engineering_runs"

/-- `_SCHEMA_VERSION`. -/
def SCHEMA_VERSION : ℤ := 3

namespace ColumnDecl

/-- `TEXT`. -/
def text : ColumnDecl := { type := .text }

/-- `TEXT NOT NULL`. -/
def requiredText : ColumnDecl := { type := .text, notNull := true }

/-- `INTEGER`. -/
def integer : ColumnDecl := { type := .integer }

end ColumnDecl

/-- The columns of version 3, as `_create_v3_table` lists them. -/
def v3Columns : List (String × ColumnDecl) := [
  ("action_id", { type := .text, primaryKey := true }),
  ("executor_role", .requiredText),
  ("capability", .requiredText),
  ("target", .requiredText),
  ("delegation_status", .text),
  ("pending_objective", .text),
  ("approval_status", .text),
  ("approved_at", .text),
  ("rejected_at", .text),
  ("claim_id", .text),
  ("claimed_at", .text),
  ("execution_started_at", .text),
  ("claim_resolution", .text),
  ("claim_reconciled_at", .text),
  ("execution_status", .text),
  ("execution_finished_at", .text),
  ("external_execution_performed", .integer),
  ("disposition", .text),
  ("disposition_succeeded", .integer),
  ("worktree_present", .integer),
  ("branch_present", .integer),
  ("canonical_unchanged", .integer),
  ("promotion_commit_sha", .text),
  ("pull_request_number", .integer),
  ("pull_request_url", .text),
  ("promotion_base_branch", .text),
  ("promotion_head_branch", .text),
  ("promotion_finished_at", .text),
  ("created_at", .requiredText),
  ("updated_at", .requiredText)]

/-- The additions of `_migrate_v1_to_v2`. -/
def v1ToV2Additions : List (String × ColumnDecl) := [
  ("pending_objective", .text),
  ("approval_status", .text),
  ("approved_at", .text),
  ("rejected_at", .text),
  ("claim_id", .text),
  ("claimed_at", .text),
  ("execution_started_at", .text)]

/-- The additions of `_migrate_v2_to_v3`. -/
def v2ToV3Additions : List (String × ColumnDecl) := [
  ("claim_resolution", .text),
  ("claim_reconciled_at", .text)]

/-- An empty table of version 3. -/
def emptyRuns : RunsTable := ⟨v3Columns, [], by decide, fun _ h => nomatch h⟩

/-! ### Statements -/

/-- What opening the repository asks for. -/
inductive SqlCall
  /-- `path.parent.mkdir(parents=True, exist_ok=True)`. -/
  | mkdir
  /-- `sqlite3.connect`, with the pragmas of `_connect`. -/
  | connect
  /-- `CREATE TABLE IF NOT EXISTS velox_schema`. -/
  | createSchema
  /-- `SELECT version FROM velox_schema WHERE name = ?`. -/
  | selectVersion (name : String)
  /-- `CREATE TABLE IF NOT EXISTS software_engineering_runs`. -/
  | createRuns
  /-- `PRAGMA table_info(software_engineering_runs)`. -/
  | tableInfo
  /-- `ALTER TABLE software_engineering_runs ADD COLUMN`. -/
  | addColumn (column : String × ColumnDecl)
  /-- `INSERT INTO velox_schema(name, version)`. -/
  | insertVersion (name : String) (version : ℤ)
  /-- `UPDATE velox_schema SET version = ? WHERE name = ?`. -/
  | updateVersion (version : ℤ) (name : String)
  | commit
  | rollback

/-- The statements with their results. -/
@[reducible] def SqlCalls : Signature where
  Call := SqlCall
  Reply
    | .selectVersion _ => Except Raised (Option SqlValue)
    | .tableInfo => Except Raised (List String)
    | _ => Except Raised Unit

/-- `sqlite3.Error`. -/
def sqliteError (message : String) : Raised := ⟨.exception "sqlite3.Error", message⟩

/-- A connection: what survives a crash, and the open transaction. -/
structure Connection where
  durable : Database
  transaction : Option Database := none

namespace Connection

/-- The database as the connection sees it. -/
def current (c : Connection) : Database := c.transaction.getD c.durable

/-- Change the schema: at once, unless a transaction is open. -/
def define (c : Connection) (database : Database) : Connection :=
  match c.transaction with
  | none => ⟨database, none⟩
  | some _ => ⟨c.durable, some database⟩

/-- Change rows, within a transaction. -/
def modify (c : Connection) (database : Database) : Connection := ⟨c.durable, some database⟩

end Connection

/-- What the statements do. -/
def sqlite : Handler SqlCalls Connection
  | .mkdir, c => (.ok (), c)
  | .connect, c => (.ok (), c)
  | .createSchema, c =>
    (.ok (), c.define { c.current with schema := some (c.current.schema.getD ∅) })
  | .selectVersion name, c =>
    match c.current.schema with
    | none => (.error (sqliteError "no such table"), c)
    | some schema => (.ok (schema.get name), c)
  | .createRuns, c =>
    (.ok (), c.define { c.current with runs := some (c.current.runs.getD emptyRuns) })
  | .tableInfo, c => (.ok ((c.current.runs.map (·.names)).getD []), c)
  | .addColumn column, c =>
    match c.current.runs with
    | none => (.error (sqliteError "no such table"), c)
    | some runs =>
      if column.1 ∈ runs.names then (.error (sqliteError "duplicate column name"), c)
      else (.ok (), c.define { c.current with runs := some (runs.addColumn column .null) })
  | .insertVersion name version, c =>
    match c.current.schema with
    | none => (.error (sqliteError "no such table"), c)
    | some schema =>
      if schema.contains name then (.error (sqliteError "UNIQUE constraint failed"), c)
      else (.ok (), c.modify { c.current with schema := some (schema.set name (.integer version)) })
  | .updateVersion version name, c =>
    match c.current.schema with
    | none => (.error (sqliteError "no such table"), c)
    | some schema =>
      (.ok (), c.modify { c.current with
        schema := some (if schema.contains name then schema.set name (.integer version)
          else schema) })
  | .commit, c => (.ok (), ⟨c.current, none⟩)
  | .rollback, c => (.ok (), ⟨c.durable, none⟩)

/-! ### Opening the repository -/

/-- A method of the repository's constructor. -/
abbrev SqlTask (α : Type) := Proc SqlCalls Unit Raised α

namespace SqliteSoftwareEngineeringRunRepository

/-- `SoftwareEngineeringRunStateError`. -/
def schemaError (message : String) : Raised := ⟨.softwareEngineeringRunStateError, message⟩

/-- `except sqlite3.Error`. -/
def unavailable (e : Raised) : Raised :=
  if e.kind = .exception "sqlite3.Error" then
    schemaError "software engineering state database is unavailable"
  else e

/-- The loop over the additions, the names of the columns there were being given. -/
def addAbsent (columns : List String) : List (String × ColumnDecl) → SqlTask Unit
  | [] => pure ()
  | addition :: additions => do
    if addition.1 ∈ columns then pure ()
    else Proc.request SqlCalls (.addColumn addition) id
    addAbsent columns additions

/-- What both migrations do with their additions. -/
def migrate (additions : List (String × ColumnDecl)) : SqlTask Unit := do
  let columns ← Proc.request SqlCalls .tableInfo id
  addAbsent columns additions

/-- `_migrate_v1_to_v2`. -/
def migrateV1ToV2 : SqlTask Unit := migrate v1ToV2Additions

/-- `_migrate_v2_to_v3`. -/
def migrateV2ToV3 : SqlTask Unit := migrate v2ToV3Additions

/-- `_create_v3_table`. -/
def createV3Table : SqlTask Unit := Proc.request SqlCalls .createRuns id

/-- What is done for the version found. -/
def upgrade [PyStd] : Option SqlValue → SqlTask Unit
  | none => do
    createV3Table
    Proc.request SqlCalls (.insertVersion SCHEMA_NAME SCHEMA_VERSION) id
  | some row => do
    let version ← Proc.ofExcept row.toInt
    if version = 1 then
      migrateV1ToV2
      migrateV2ToV3
      Proc.request SqlCalls (.updateVersion SCHEMA_VERSION SCHEMA_NAME) id
    else if version = 2 then
      migrateV2ToV3
      Proc.request SqlCalls (.updateVersion SCHEMA_VERSION SCHEMA_NAME) id
    else if version = SCHEMA_VERSION then
      createV3Table
    else
      throw (schemaError "unsupported software engineering state schema version")

/-- `with connection:`. -/
def withConnection (body : SqlTask Unit) : SqlTask Unit := do
  tryCatch body fun e => do
    Proc.request SqlCalls .rollback id
    throw e
  Proc.request SqlCalls .commit id

/-- The body of the constructor's `with` statement. -/
def readAndUpgrade [PyStd] : SqlTask Unit := do
  Proc.request SqlCalls .createSchema id
  let row ← Proc.request SqlCalls (.selectVersion SCHEMA_NAME) id
  upgrade row

/-- `__init__`, for a path that is absolute or not. -/
def init [PyStd] (isAbsolute : Bool) : SqlTask Unit := do
  Proc.ofExcept (.raiseIf (¬isAbsolute)
    (schemaError "software engineering state database path must be absolute"))
  tryCatch (do
    Proc.request SqlCalls .mkdir id
    Proc.request SqlCalls .connect id
    withConnection readAndUpgrade) fun e => throw (unavailable e)

end SqliteSoftwareEngineeringRunRepository

/-- Open the repository over a database. -/
def openRunRepository [PyStd] (database : Database) : Except Raised Unit × Database :=
  let r := (SqliteSoftwareEngineeringRunRepository.init true).run sqlite () ⟨database, none⟩
  (r.1.1, r.2.durable)

/-- The database after the process was stopped on the way, after so many statements. -/
def crashedAfter [PyStd] (n : ℕ) (database : Database) : Database :=
  ((SqliteSoftwareEngineeringRunRepository.init true ()).interrupt sqlite n
    ⟨database, none⟩).durable

end Velox
