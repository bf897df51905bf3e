import Velox.Lib.Machine
import Velox.Lib.Transcript
import Velox.SoftwareEngineering.RunRow

/-!
# Migrating the run database

Opening the repository over a database of version 1 or 2 adds the columns it lacks and
then records version 3. It can be stopped after any statement and taken up again: the
columns added so far are found, and the rest are added.

## Main definitions

* `OldVersion` — versions 1 and 2, with their columns and what they lack
* `OldDatabase` — a database of an old version, whose migration may have begun
* `WrittenBy` — a row as the writers of an old version leave it
* `Migrated` — what a finished migration has come to
* `reopened` — opening the repository, being stopped each time

## Main results

* `yields_upgrade` — the statements of a migration, one after the other
* `openRunRepository_of_old` — opening the repository over an old database
* `migration_safe` — every migration comes to version 3 and keeps all evidence
-/

set_option autoImplicit false

namespace Velox

open SqliteSoftwareEngineeringRunRepository

/-! ### Old versions -/

/-- The versions that are migrated. -/
inductive OldVersion
  | v1
  | v2
  deriving DecidableEq

namespace OldVersion

/-- The number of a version. -/
def number : OldVersion → ℤ
  | v1 => 1
  | v2 => 2

/-- The columns of version 1. -/
def v1Columns : List (String × ColumnDecl) := [
  ("action_id", { type := .text, primaryKey := true }),
  ("executor_role", .requiredText),
  ("capability", .requiredText),
  ("target", .requiredText),
  ("delegation_status", .text),
  ("execution_status", .text),
  ("execution_finished_at", .text),
  ("external_execution_performed", .integer),
  ("disposition", .text),
  ("disposition_succeeded", .integer),
  ("worktree_present", .integer),
  ("branch_present", .integer),
  ("canonical_unchanged", .integer),
  ("promotion_commit_sha", .text),
  ("pull_request_number", .integer),
  ("pull_request_url", .text),
  ("promotion_base_branch", .text),
  ("promotion_head_branch", .text),
  ("promotion_finished_at", .text),
  ("created_at", .requiredText),
  ("updated_at", .requiredText)]

/-- The columns of a version. -/
def columns : OldVersion → List (String × ColumnDecl)
  | v1 => v1Columns
  | v2 => v1Columns ++ v1ToV2Additions

/-- The columns a version lacks, in the order they are added. -/
def additions : OldVersion → List (String × ColumnDecl)
  | v1 => v1ToV2Additions ++ v2ToV3Additions
  | v2 => v2ToV3Additions

/-- With its additions a version has exactly the columns of version 3. -/
theorem columns_append_additions (v : OldVersion) :
    (v.columns ++ v.additions).Perm v3Columns := by
  cases v <;> decide +kernel

theorem nodup_columns_append_additions (v : OldVersion) :
    ((v.columns ++ v.additions).map Prod.fst).Nodup :=
  ((v.columns_append_additions.map Prod.fst).nodup_iff).mpr emptyRuns.nodup

theorem nodup_additions (v : OldVersion) : (v.additions.map Prod.fst).Nodup := by
  have h := v.nodup_columns_append_additions
  rw [List.map_append] at h
  exact h.of_append_right

end OldVersion

/-- The version recorded in a database. -/
def Database.Records [PyStd] (database : Database) (version : ℤ) : Prop :=
  ∃ schema value, database.schema = some schema ∧ schema.get SCHEMA_NAME = some value ∧
    value.toInt = .ok version

/-- A database of an old version; some of its additions may have been made already. -/
structure OldDatabase [PyStd] (v : OldVersion) (database : Database) (t : RunsTable) : Prop where
  version : database.Records v.number
  runs : database.runs = some t
  columns : ∃ k, t.columns.Perm (v.columns ++ v.additions.take k)

/-- A row as the writers of an old version leave it: it holds what a state has, and the
state has nothing under later columns. -/
def WrittenBy (v : OldVersion) (t : RunsTable) (row : List SqlValue) (state : RunState) : Prop :=
  ∀ p ∈ state.values, (p.1 ∈ t.names → t.value row p.1 = some p.2) ∧
    (p.1 ∉ v.columns.map Prod.fst → p.2 = .null)

/-- What a migration of the table `t` has come to. -/
structure Migrated [PyStd] [PyIsoformat] (v : OldVersion) (t : RunsTable) (database : Database) :
    Prop where
  version : database.Records SCHEMA_VERSION
  table : ∃ u, database.runs = some u ∧ u.columns.Perm v3Columns ∧
    u.rows.length = t.rows.length ∧
    ∀ (i : ℕ) (row row' : List SqlValue), t.rows[i]? = some row → u.rows[i]? = some row' →
      (∀ name ∈ t.names, u.value row' name = t.value row name) ∧
      (∀ name ∈ u.names, name ∉ t.names → u.value row' name = some .null) ∧
      ∀ state, WrittenBy v t row state → stateFromRow (u.value row') = .ok state

/-- Open the repository again and again, being stopped each time. -/
def reopened [PyStd] (crashes : List ℕ) (database : Database) : Database :=
  crashes.foldl (fun database n => crashedAfter n database) database

/-! ### The statements of a migration -/

namespace Database

/-- The same database with another table of runs. -/
def withRuns (database : Database) (t : RunsTable) : Database := { database with runs := some t }

/-- The same database with version 3 recorded. -/
def recorded (database : Database) : Database :=
  { database with schema := database.schema.map fun schema =>
      if schema.contains SCHEMA_NAME then schema.set SCHEMA_NAME (.integer SCHEMA_VERSION)
      else schema }

end Database

section Upgrade

variable {I : Connection → Prop} {database : Database} {t : RunsTable}

/-- The statements as a machine that never fails. -/
def sqliteMachine : Machine SqlCalls Connection := ⟨sqlite, fun _ _ => False, fun _ _ _ => False⟩

/-- A statement that succeeds. -/
theorem yields_statement {α : Type} {c c' : Connection} {call : SqlCall}
    {unpack : SqlCalls.Reply call → Except Raised α} {a : α} (hI : I c)
    (hreply : unpack (sqlite call c).1 = .ok a) (hnext : (sqlite call c).2 = c') :
    (Proc.request SqlCalls call unpack : SqlTask α).Yields sqlite id False I c a c' :=
  Proc.yields_request (sqliteMachine.follows_respond False) hI hreply hnext
    (fun _ hfails => hfails.elim) fun _ hleaves => hleaves.elim

/-- The loop adds the columns that were missing, one statement at a time. -/
theorem yields_addAbsent {names : List String} {additions : List (String × ColumnDecl)}
    (hnodup : (additions.map Prod.fst).Nodup)
    (hnames : ∀ c ∈ additions, c.1 ∈ names ↔ c.1 ∈ t.names)
    (hI : ∀ n, I ⟨database.withRuns (t.addMissing (additions.take n) .null), none⟩) :
    (addAbsent names additions).Yields sqlite id False I ⟨database.withRuns t, none⟩ ()
      ⟨database.withRuns (t.addMissing additions .null), none⟩ := by
  induction additions generalizing t with
  | nil => exact Proc.yields_pure ()
  | cons c additions ih =>
    obtain ⟨hc, hnodup⟩ := List.nodup_cons.mp hnodup
    rw [addAbsent]
    have hrest : (addAbsent names additions).Yields sqlite id False I
        ⟨database.withRuns (t.addColumn c .null), none⟩ ()
        ⟨database.withRuns ((t.addColumn c .null).addMissing additions .null), none⟩ := by
      refine ih hnodup (fun d hd => ?_) fun n => hI (n + 1)
      have hne : d.1 ≠ c.1 := fun heq => hc (heq ▸ List.mem_map_of_mem hd)
      rw [hnames d (List.mem_cons_of_mem c hd), ColumnTable.mem_names_addColumn]
      exact (or_iff_left hne).symm
    by_cases hmem : c.1 ∈ t.names
    · rw [if_pos ((hnames c List.mem_cons_self).mpr hmem)]
      rw [ColumnTable.addColumn_of_mem hmem] at hrest
      rw [ColumnTable.addMissing_cons, ColumnTable.addColumn_of_mem hmem]
      exact hrest
    · rw [if_neg fun h => hmem ((hnames c List.mem_cons_self).mp h)]
      refine Proc.Yields.bind (yields_statement (a := ()) (hI 0) ?_ ?_) hrest
      · exact congrArg Prod.fst (if_neg hmem)
      · exact congrArg Prod.snd (if_neg hmem)

/-- A migration adds the columns that are missing when it begins. -/
theorem yields_migrate {additions : List (String × ColumnDecl)}
    (hnodup : (additions.map Prod.fst).Nodup)
    (hI : ∀ n, I ⟨database.withRuns (t.addMissing (additions.take n) .null), none⟩) :
    (migrate additions).Yields sqlite id False I ⟨database.withRuns t, none⟩ ()
      ⟨database.withRuns (t.addMissing additions .null), none⟩ :=
  Proc.Yields.bind (yields_statement (a := t.names) (hI 0) rfl rfl)
    (yields_addAbsent hnodup (fun _ _ => Iff.rfl) hI)

/-- Recording version 3 opens a transaction. -/
theorem yields_updateVersion (hI : I ⟨database, none⟩) (hschema : database.schema.isSome) :
    (Proc.request SqlCalls (.updateVersion SCHEMA_VERSION SCHEMA_NAME) id : SqlTask Unit).Yields
      sqlite id False I ⟨database, none⟩ () ⟨database, some database.recorded⟩ := by
  obtain ⟨schema, runs⟩ := database
  cases schema with
  | none => cases hschema
  | some schema => exact yields_statement hI rfl rfl

/-- What is done for an old version: its additions, where they are missing, and then the
new version. -/
theorem yields_upgrade [PyStd] (v : OldVersion) {value : SqlValue}
    (hvalue : value.toInt = .ok v.number) (hschema : database.schema.isSome)
    (hI : ∀ n, I ⟨database.withRuns (t.addMissing (v.additions.take n) .null), none⟩) :
    (upgrade (some value)).Yields sqlite id False I ⟨database.withRuns t, none⟩ ()
      ⟨database.withRuns (t.addMissing v.additions .null),
        some (database.withRuns (t.addMissing v.additions .null)).recorded⟩ := by
  have hall : I ⟨database.withRuns (t.addMissing v.additions .null), none⟩ := by
    have hlast := hI v.additions.length
    rwa [List.take_length] at hlast
  rw [upgrade]
  refine Proc.Yields.bind (Proc.yields_ofExcept hvalue) ?_
  cases v with
  | v1 =>
    have hadditions : OldVersion.v1.additions = v1ToV2Additions ++ v2ToV3Additions := rfl
    rw [hadditions] at hI hall ⊢
    rw [ColumnTable.addMissing_append] at hall ⊢
    rw [if_pos (show OldVersion.v1.number = 1 from rfl)]
    refine Proc.Yields.bind (yields_migrate (by decide) fun n => ?_)
      (Proc.Yields.bind (yields_migrate (by decide) fun n => ?_) (yields_updateVersion hall hschema))
    · -- the first additions are a beginning of all
      have htake : (v1ToV2Additions ++ v2ToV3Additions).take (min n v1ToV2Additions.length) =
          v1ToV2Additions.take n := by
        rw [List.take_append_of_le_length (Nat.min_le_right ..), List.take_eq_take_iff]
        omega
      exact htake ▸ hI (min n v1ToV2Additions.length)
    · rw [← ColumnTable.addMissing_append, ← List.take_length_add_append]
      exact hI _
  | v2 =>
    rw [if_neg (by decide), if_pos (show OldVersion.v2.number = 2 from rfl)]
    exact Proc.Yields.bind (yields_migrate (by decide) hI) (yields_updateVersion hall hschema)

/-- Opening the repository: the version is read and the upgrade made, within one
connection. -/
theorem yields_init [PyStd] {schema : OrderedDict String SqlValue} {value : SqlValue}
    {durable : Database} {transaction : Option Database} (hschema : database.schema = some schema)
    (hvalue : schema.get SCHEMA_NAME = some value) (hI : I ⟨database, none⟩)
    (hcommit : I ⟨durable, transaction⟩)
    (hupgrade : (upgrade (some value)).Yields sqlite id False I ⟨database, none⟩ () ⟨durable, transaction⟩) :
    (init true).Yields sqlite id False I ⟨database, none⟩ () ⟨transaction.getD durable, none⟩ := by
  have hcreated : (⟨{ database with schema := some (database.schema.getD ∅) }, none⟩ : Connection) =
      ⟨database, none⟩ := by
    cases database
    subst hschema
    rfl
  have hselected : (sqlite (.selectVersion SCHEMA_NAME) ⟨database, none⟩).1 = .ok (some value) := by
    cases database
    subst hschema
    exact congrArg Except.ok hvalue
  have hunchanged : (sqlite (.selectVersion SCHEMA_NAME) ⟨database, none⟩).2 = ⟨database, none⟩ := by
    cases database
    subst hschema
    rfl
  rw [init]
  refine Proc.Yields.bind (Proc.yields_ofExcept rfl) (Proc.Yields.handled ?_)
  refine Proc.Yields.bind (yields_statement (a := ()) hI rfl rfl) ?_
  refine Proc.Yields.bind (yields_statement (a := ()) hI rfl rfl) ?_
  refine Proc.Yields.bind (a := ()) (Proc.Yields.handled ?_) (yields_statement hcommit rfl rfl)
  refine Proc.Yields.bind (yields_statement (a := ()) hI rfl hcreated) ?_
  exact Proc.Yields.bind (yields_statement (a := some value) hI hselected hunchanged) hupgrade

end Upgrade

/-! ### Interruptions -/

/-- The database of an old version when its migration is done. -/
def Database.migrated (v : OldVersion) (database : Database) (t : RunsTable) : Database :=
  (database.withRuns (t.addMissing v.additions .null)).recorded

/-- Where a migration can have been stopped: after some additions, or at its end. -/
def Stopped (v : OldVersion) (database : Database) (t : RunsTable) (d : Database) : Prop :=
  (∃ n, d = database.withRuns (t.addMissing (v.additions.take n) .null)) ∨
    d = database.migrated v t

section Interrupted

variable {v : OldVersion} {database d : Database} {t : RunsTable}

theorem Database.withRuns_of_runs (h : database.runs = some t) : database.withRuns t = database := by
  rw [Database.withRuns, ← h]

/-- What is left to add leads to the same end. -/
theorem Database.migrated_begun (n : ℕ) :
    (database.withRuns (t.addMissing (v.additions.take n) .null)).migrated v
      (t.addMissing (v.additions.take n) .null) = database.migrated v t := by
  rw [Database.migrated, ColumnTable.addMissing_resume]
  rfl

variable [PyStd]

/-- Opening the repository over an old database makes its migration. -/
theorem OldDatabase.yields_init (h : OldDatabase v database t) :
    (init true).Yields sqlite id False (fun c => Stopped v database t c.durable)
      ⟨database, none⟩ () ⟨database.migrated v t, none⟩ := by
  obtain ⟨schema, value, hschema, hget, hvalue⟩ := h.version
  have hself : database.withRuns t = database := Database.withRuns_of_runs h.runs
  have hupgrade := yields_upgrade (I := fun c => Stopped v database t c.durable) (t := t) v hvalue
    (by rw [hschema]; rfl) fun n => Or.inl ⟨n, rfl⟩
  rw [hself] at hupgrade
  refine Velox.yields_init hschema hget (Or.inl ⟨0, hself.symm⟩) ?_ hupgrade
  exact Or.inl ⟨v.additions.length, by rw [List.take_length]⟩

/-- Opening the repository over a database of version 3 changes nothing. -/
theorem yields_init_of_current (h : database.Records SCHEMA_VERSION)
    (hruns : database.runs = some t) :
    (init true).Yields sqlite id False (fun c => c.durable = database)
      ⟨database, none⟩ () ⟨database, none⟩ := by
  obtain ⟨schema, value, hschema, hget, hvalue⟩ := h
  have hupgrade : (upgrade (some value)).Yields sqlite id False (fun c => c.durable = database)
      ⟨database, none⟩ () ⟨database, none⟩ := by
    rw [upgrade]
    refine Proc.Yields.bind (Proc.yields_ofExcept hvalue) ?_
    rw [if_neg (by decide), if_neg (by decide), if_pos rfl]
    refine yields_statement rfl rfl ?_
    obtain ⟨_, runs⟩ := database
    subst hruns
    rfl
  exact Velox.yields_init (I := fun c => c.durable = database) hschema hget rfl rfl hupgrade

theorem openRunRepository_of_yields {I : Connection → Prop} (h : (init true).Yields sqlite id False I
    ⟨database, none⟩ () ⟨d, none⟩) : openRunRepository database = (.ok (), d) := by
  obtain ⟨hresult, hstate⟩ := h.run rfl
  exact Prod.ext hresult (congrArg Connection.durable hstate)

theorem openRunRepository_of_old (h : OldDatabase v database t) :
    openRunRepository database = (.ok (), database.migrated v t) :=
  openRunRepository_of_yields h.yields_init

theorem openRunRepository_of_current (h : database.Records SCHEMA_VERSION)
    (hruns : database.runs = some t) : openRunRepository database = (.ok (), database) :=
  openRunRepository_of_yields (yields_init_of_current h hruns)

theorem crashedAfter_of_current (h : database.Records SCHEMA_VERSION)
    (hruns : database.runs = some t) (n : ℕ) : crashedAfter n database = database :=
  (yields_init_of_current h hruns).interrupt rfl rfl n

/-- A database of an old version stays one when some of its additions are made. -/
theorem OldDatabase.begun (h : OldDatabase v database t) (n : ℕ) :
    OldDatabase v (database.withRuns (t.addMissing (v.additions.take n) .null))
      (t.addMissing (v.additions.take n) .null) where
  version := h.version
  runs := rfl
  columns := by
    obtain ⟨k, hk⟩ := h.columns
    exact ⟨max k n, ColumnTable.columns_addMissing_take v.nodup_columns_append_additions hk n⟩

/-- A finished migration has recorded version 3. -/
theorem OldDatabase.records_migrated (h : OldDatabase v database t) :
    (database.migrated v t).Records SCHEMA_VERSION := by
  obtain ⟨schema, value, hschema, hget, -⟩ := h.version
  have hcontains : schema.contains SCHEMA_NAME = true := by
    rw [OrderedDict.contains, hget]
    rfl
  refine ⟨schema.set SCHEMA_NAME (.integer SCHEMA_VERSION), .integer SCHEMA_VERSION, ?_,
    OrderedDict.get_set_self, rfl⟩
  rw [Database.migrated, Database.recorded, Database.withRuns, hschema, Option.map_some,
    if_pos hcontains]

/-- Wherever a migration is stopped, opening the repository again comes to its end. -/
theorem Stopped.openRunRepository (h : OldDatabase v database t) (hd : Stopped v database t d) :
    openRunRepository d = (.ok (), database.migrated v t) := by
  rcases hd with ⟨n, rfl⟩ | rfl
  · rw [openRunRepository_of_old (h.begun n), Database.migrated_begun]
  · exact openRunRepository_of_current h.records_migrated rfl

/-- A migration that is taken up again can only be stopped where it could be before. -/
theorem Stopped.crashedAfter (h : OldDatabase v database t) (hd : Stopped v database t d) (m : ℕ) :
    Stopped v database t (crashedAfter m d) := by
  rcases hd with ⟨n, rfl⟩ | rfl
  · have hstopped := (h.begun n).yields_init.interrupt (Or.inr rfl) rfl m
    rcases hstopped with ⟨k, hk⟩ | hend
    · refine Or.inl ⟨max n k, ?_⟩
      rw [ColumnTable.addMissing_take_take] at hk
      exact hk
    · rw [Database.migrated_begun] at hend
      exact Or.inr hend
  · exact Or.inr (crashedAfter_of_current h.records_migrated rfl m)

theorem Stopped.reopened (h : OldDatabase v database t) (crashes : List ℕ)
    (hd : Stopped v database t d) : Stopped v database t (reopened crashes d) := by
  induction crashes generalizing d with
  | nil => exact hd
  | cons n crashes ih => exact ih (hd.crashedAfter h n)

end Interrupted

/-! ### What a migration comes to -/

/-- Every row keeps its values, and has nothing under the added columns. -/
theorem row_migrated {v : OldVersion} {t : RunsTable} {row row' : List SqlValue} {i : ℕ} (hrow : t.rows[i]? = some row)
    (hrow' : (t.addMissing v.additions .null).rows[i]? = some row') :
    (∀ name ∈ t.names, (t.addMissing v.additions .null).value row' name = t.value row name) ∧
      ∀ name ∈ (t.addMissing v.additions .null).names, name ∉ t.names →
        (t.addMissing v.additions .null).value row' name = some .null := by
  have hcolumns : (t.addMissing v.additions SqlValue.null).columns = t.columns ++ t.missing v.additions :=
    ColumnTable.columns_addMissing v.nodup_additions
  have hmem : row ∈ t.rows := List.mem_of_getElem? hrow
  rw [ColumnTable.rows_addMissing v.nodup_additions, List.getElem?_map, hrow] at hrow'
  obtain rfl := Option.some.inj hrow'
  exact ⟨fun name hname => ColumnTable.value_append_of_mem hcolumns hmem _ hname,
    fun name hname hnew => ColumnTable.value_append_of_notMem hcolumns hmem hnew hname⟩

section Outcome

variable [PyStd] {v : OldVersion} {database : Database} {t : RunsTable}

/-- The table of a finished migration has the columns of version 3. -/
theorem OldDatabase.columns_migrated (h : OldDatabase v database t) :
    (t.addMissing v.additions .null).columns.Perm v3Columns := by
  obtain ⟨k, hk⟩ := h.columns
  have hperm : (t.addMissing (v.additions.take (max k v.additions.length)) SqlValue.null).columns.Perm
      (v.columns ++ v.additions.take (max k (max k v.additions.length))) :=
    ColumnTable.columns_addMissing_take v.nodup_columns_append_additions hk _
  rw [List.take_of_length_le (Nat.le_max_right k _), List.take_of_length_le (by omega)] at hperm
  exact hperm.trans v.columns_append_additions

/-- The row of a state reads back as the state after the migration. -/
theorem OldDatabase.stateFromRow_migrated [PyIsoformat] (h : OldDatabase v database t)
    {row row' : List SqlValue} {i : ℕ} (hrow : t.rows[i]? = some row)
    (hrow' : (t.addMissing v.additions .null).rows[i]? = some row') {state : RunState}
    (hwritten : WrittenBy v t row state) :
    stateFromRow ((t.addMissing v.additions .null).value row') = .ok state := by
  obtain ⟨hold, hnew⟩ := row_migrated hrow hrow'
  refine stateFromRow_of_values fun p hp => ?_
  obtain ⟨hvalue, hlater⟩ := hwritten p hp
  by_cases hname : p.1 ∈ t.names
  · rw [hold p.1 hname, hvalue hname]
  · have hnames : p.1 ∈ (t.addMissing v.additions .null).names := by
      have hp' : p.1 ∈ v3Columns.map Prod.fst := state.names_values ▸ List.mem_map_of_mem hp
      exact (h.columns_migrated.map Prod.fst).mem_iff.mpr hp'
    have hcolumns : p.1 ∉ v.columns.map Prod.fst := by
      -- a column of the old version is there from the start
      intro hmem
      obtain ⟨c, hc, heq⟩ := List.mem_map.mp hmem
      obtain ⟨k, hk⟩ := h.columns
      have hc' : c ∈ t.columns := hk.mem_iff.mpr (List.mem_append_left _ hc)
      exact hname (heq ▸ List.mem_map_of_mem hc')
    rw [hnew p.1 hnames hname, hlater hcolumns]

theorem OldDatabase.migrated [PyIsoformat] (h : OldDatabase v database t) :
    Migrated v t (database.migrated v t) where
  version := h.records_migrated
  table := by
    refine ⟨t.addMissing v.additions .null, rfl, h.columns_migrated, ?_, ?_⟩
    · rw [ColumnTable.rows_addMissing v.nodup_additions, List.length_map]
    · intro i row row' hrow hrow'
      obtain ⟨hold, hnew⟩ := row_migrated hrow hrow'
      exact ⟨hold, hnew, fun state => h.stateFromRow_migrated hrow hrow'⟩

end Outcome

/-! ### Unknown versions -/

/-- The version recorded in a database is none of those known. -/
def Database.RecordsUnknown [PyStd] (database : Database) : Prop :=
  ∃ schema value, database.schema = some schema ∧ schema.get SCHEMA_NAME = some value ∧
    ∀ version, value.toInt = .ok version → version ≠ 1 ∧ version ≠ 2 ∧ version ≠ SCHEMA_VERSION

section Unknown

variable [PyStd] {database : Database}

theorem upgrade_of_unknown {value : SqlValue}
    (h : ∀ version, value.toInt = .ok version →
      version ≠ 1 ∧ version ≠ 2 ∧ version ≠ SCHEMA_VERSION) :
    ∃ e, upgrade (some value) = throw e := by
  rw [upgrade]
  cases hvalue : value.toInt with
  | error e => exact ⟨e, rfl⟩
  | ok version =>
    obtain ⟨h1, h2, h3⟩ := h version hvalue
    refine ⟨schemaError "unsupported software engineering state schema version", ?_⟩
    rw [Proc.ofExcept_ok_bind, if_neg h1, if_neg h2, if_neg h3]

/-- Over an unknown version opening the repository raises; the database is as it was at
every statement. -/
theorem ensures_init_of_unknown (h : database.RecordsUnknown) :
    (init true).Ensures sqlite (fun _ c => c.durable = database)
      (fun r _ c => r.raised = true ∧ c.durable = database) () ⟨database, none⟩ := by
  obtain ⟨schema, value, hschema, hget, hunknown⟩ := h
  obtain ⟨e, hupgrade⟩ := upgrade_of_unknown hunknown
  obtain ⟨_, runs⟩ := database
  subst hschema
  have hbody : (readAndUpgrade).Ensures sqlite (fun _ c => c.durable = ⟨some schema, runs⟩)
      (fun r _ c => r.either (fun _ => False) fun _ => c.durable = ⟨some schema, runs⟩) ()
      ⟨⟨some schema, runs⟩, none⟩ := by
    simp [readAndUpgrade, sqlite, Connection.define, Connection.current, hget, hupgrade]
  -- the rollback leaves what was durable
  simpa [init, withConnection, sqlite] using hbody

theorem openRunRepository_of_unknown (h : database.RecordsUnknown) :
    ∃ e, openRunRepository database = (.error e, database) := by
  obtain ⟨hraised, hdurable⟩ := (ensures_init_of_unknown h).run
  rw [openRunRepository]
  cases hresult : ((init true).run sqlite () ⟨database, none⟩).1.1 with
  | ok u =>
    rw [hresult] at hraised
    cases hraised
  | error e => exact ⟨e, Prod.ext rfl hdurable⟩

end Unknown

/-! ### Every migration -/

/-- However often the migration of a version 1 or version 2 database was stopped before,
and wherever, opening the repository ends with version 3 and its columns; every row keeps
its values, has nothing under the added columns, and is read back as the state it was
written for; opening it again changes nothing. An unknown version raises and leaves the
database as it was. -/
theorem migration_safe [PyStd] [PyIsoformat] :
    (∀ (v : OldVersion) (database : Database) (t : RunsTable), OldDatabase v database t →
      ∀ crashes : List ℕ, ∃ database',
        openRunRepository (reopened crashes database) = (.ok (), database') ∧
        Migrated v t database' ∧ openRunRepository database' = (.ok (), database')) ∧
    ∀ database : Database, database.RecordsUnknown →
      ∃ e, openRunRepository database = (.error e, database) := by
  refine ⟨fun v database t h crashes => ⟨database.migrated v t, ?_, h.migrated, ?_⟩,
    fun database => openRunRepository_of_unknown⟩
  · have hstart : Stopped v database t database :=
      Or.inl ⟨0, (Database.withRuns_of_runs h.runs).symm⟩
    exact (hstart.reopened h crashes).openRunRepository h
  · exact openRunRepository_of_current h.records_migrated rfl

/-! ### A version 1 database with a row -/

/-- The state of the row. -/
def oldState : RunState where
  actionId := 7
  executorRole := "software_engineering"
  capability := "software_engineering.implement"
  target := "velox-server"
  delegationStatus := some "awaiting_approval"
  executionStatus := some "succeeded"
  externalExecutionPerformed := some true

/-- The row. -/
def oldRow : List SqlValue :=
  OldVersion.v1Columns.map fun c => (oldState.values.lookup c.1).getD .null

/-- The table with the row. -/
def oldRuns : RunsTable :=
  ⟨OldVersion.v1Columns, [oldRow], by decide, by simp [oldRow]⟩

/-- The database with the table. -/
def oldRunDatabase : Database :=
  ⟨some ((∅ : OrderedDict String SqlValue).set SCHEMA_NAME (.integer 1)), some oldRuns⟩

theorem oldDatabase_oldRunDatabase [PyStd] : OldDatabase .v1 oldRunDatabase oldRuns where
  version := ⟨_, .integer 1, rfl, OrderedDict.get_set_self, rfl⟩
  runs := rfl
  columns := ⟨0, by rw [List.take_zero, List.append_nil]; exact List.Perm.refl _⟩

theorem writtenBy_oldRow : WrittenBy .v1 oldRuns oldRow oldState := by
  rw [WrittenBy]
  decide +kernel

/-- Stopped within its fourth addition, then after the additions of version 2, the
migration comes to its end, and the row is still read as its state. -/
theorem migration_safe_oldRunDatabase :
    letI := PyStd.ascii
    letI := PyIsoformat.plain
    ∃ database' u row', openRunRepository (reopened [9, 12] oldRunDatabase) = (.ok (), database') ∧
      database'.runs = some u ∧ u.rows = [row'] ∧ stateFromRow (u.value row') = .ok oldState := by
  let := PyStd.ascii
  let := PyIsoformat.plain
  obtain ⟨database', hopen, ⟨-, u, hruns, -, hlength, hrows⟩, -⟩ :=
    migration_safe.1 .v1 oldRunDatabase oldRuns oldDatabase_oldRunDatabase [9, 12]
  obtain ⟨row', hrow'⟩ := List.length_eq_one_iff.mp hlength
  obtain ⟨-, -, hread⟩ := hrows 0 oldRow row' rfl (by rw [hrow']; rfl)
  exact ⟨database', u, row', hopen, hruns, hrow', hread oldState writtenBy_oldRow⟩

end Velox
