import McpAuthflow.Storage.Postgres
import Mathlib.Data.List.Sort

/-! # The schema check of `PostgresTokenStorage.initialize`

`_verify_schema` asks `information_schema.columns` for the columns of the token tables in every
schema of the search path, folds the rows into one set per table name and raises `SchemaDriftError`
when a table that has rows lacks a required column. The queries name the tables without a schema, so
they use the copy in the first schema of the path that has one (`Catalog.resolve`).

* **`checkSchema_drift_iff`** — the check raises iff some table name has rows, but not one for each
  required column;
* **`drift_detected_iff`** — it raises exactly when a resolved table is drifted, unless the drift is
  masked by other copies on the path (`Catalog.Masked`);
* **`drift_masked`** — a complete copy further down the path hides the drift of the copy in use. -/

namespace McpAuthflow.Storage

/-! ## The check -/

/-- `_REQUIRED_COLUMNS`. -/
def requiredColumns : List (String × List String) :=
  [("mcp_access_tokens",
      ["token", "client_id", "scopes", "resource", "expires_at", "created_at", "user_id"]),
    ("mcp_refresh_tokens",
      ["token", "client_id", "scopes", "resource", "expires_at", "created_at", "user_id"])]

/-- A row of the catalog query. -/
structure SchemaRow where
  tableName : String
  columnName : String
  deriving DecidableEq

/-- What `initialize` can raise; `ε` are the exceptions of the driver. -/
inductive InitError (ε : Type) where
  /-- `StorageConfigError(message)`. -/
  | config (message : String)
  /-- `SchemaDriftError(message)`. -/
  | drift (message : String)
  /-- `StorageNotInitializedError(message)`. -/
  | notInitialized (message : String)
  /-- An exception of the driver. -/
  | driver (error : ε)
  deriving DecidableEq

/-- `present.setdefault(row["table_name"], set()).add(row["column_name"])`. -/
def addColumn (present : Dict String (List String)) (row : SchemaRow) : Dict String (List String) :=
  present.insert row.tableName (((present.lookup row.tableName).getD []).insert row.columnName)

/-- The columns of each table name, from all rows of the query. -/
def presentColumns (rows : List SchemaRow) : Dict String (List String) := rows.foldl addColumn ∅

/-- `sorted(required - columns)`. -/
def absentColumns (required columns : List String) : List String :=
  (required.filter fun c => c ∉ columns).insertionSort (· ≤ ·)

/-- `missing`: the tables that lack a required column; a table without rows does not exist yet. -/
def missingColumns (present : Dict String (List String)) : List (String × List String) :=
  requiredColumns.filterMap fun e =>
    match present.lookup e.1 with
    | none => none
    | some columns =>
      let absent := absentColumns e.2 columns
      if absent.isEmpty then none else some (e.1, absent)

/-- The text of the `SchemaDriftError`. -/
def driftMessage (missing : List (String × List String)) : String :=
  let detail := "; ".intercalate <| (missing.insertionSort fun a b => a.1 ≤ b.1).map fun e =>
    e.1 ++ " is missing column(s): " ++ ", ".intercalate e.2
  "Token storage schema is out of date: " ++ detail ++ ". "
    ++ "CREATE TABLE IF NOT EXISTS does not add columns to an existing "
    ++ "table -- apply the ALTER TABLE upgrade DDL from the README "
    ++ "'Schema versioning and upgrades' section before starting."

variable {ε : Type}

/-- The part of `_verify_schema` after the query. -/
def checkSchema (rows : List SchemaRow) : Except (InitError ε) Unit :=
  let missing := missingColumns (presentColumns rows)
  if missing.isEmpty then .ok () else .error (.drift (driftMessage missing))

/-- `_verify_schema`; the query returns rows, or the driver raises. -/
def verifySchema (s : PostgresTokenStorage) (query : Except ε (List SchemaRow)) :
    Except (InitError ε) Unit :=
  if s.pool then
    match query with
    | .error e => .error (.driver e)
    | .ok rows => checkSchema rows
  else .error (.notInitialized notInitializedMessage)

/-! ## What the check finds -/

/-- Adding a row to the columns of its table. -/
theorem lookup_addColumn_self (present : Dict String (List String)) (row : SchemaRow) :
    (addColumn present row).lookup row.tableName
      = some (((present.lookup row.tableName).getD []).insert row.columnName) :=
  AList.lookup_insert present

theorem lookup_addColumn_ne {present : Dict String (List String)} {row : SchemaRow} {table : String}
    (h : table ≠ row.tableName) : (addColumn present row).lookup table = present.lookup table :=
  AList.lookup_insert_ne h

/-- The columns of a table name are those of its rows. -/
theorem mem_presentColumns (rows : List SchemaRow) (table column : String) :
    column ∈ ((presentColumns rows).lookup table).getD [] ↔ ⟨table, column⟩ ∈ rows := by
  induction rows using List.reverseRecOn with
  | nil => simp [presentColumns]
  | append_singleton rows row ih =>
    rw [presentColumns, List.foldl_append, ← presentColumns, List.mem_append, List.mem_singleton,
      ← ih]
    show column ∈ ((addColumn (presentColumns rows) row).lookup table).getD [] ↔ _
    by_cases h : table = row.tableName
    · subst h
      rw [lookup_addColumn_self, Option.getD_some, List.mem_insert_iff]
      obtain ⟨table, column'⟩ := row
      simp [or_comm]
    · rw [lookup_addColumn_ne h]
      have hrow : (⟨table, column⟩ : SchemaRow) ≠ row :=
        fun heq => h (congrArg SchemaRow.tableName heq)
      simp [hrow]

/-- A table name is known iff it has a row. -/
theorem isSome_lookup_presentColumns (rows : List SchemaRow) (table : String) :
    ((presentColumns rows).lookup table).isSome ↔ ∃ row ∈ rows, row.tableName = table := by
  induction rows using List.reverseRecOn with
  | nil => simp [presentColumns]
  | append_singleton rows row ih =>
    rw [presentColumns, List.foldl_append, ← presentColumns]
    show ((addColumn (presentColumns rows) row).lookup table).isSome ↔ _
    by_cases h : table = row.tableName
    · subst h
      rw [lookup_addColumn_self]
      exact iff_of_true rfl ⟨row, by simp, rfl⟩
    · rw [lookup_addColumn_ne h, ih]
      simp [Ne.symm h]

/-- No required column is absent iff all are there. -/
theorem absentColumns_eq_nil_iff {required columns : List String} :
    (absentColumns required columns).isEmpty = true ↔ ∀ c ∈ required, c ∈ columns := by
  rw [absentColumns, List.isEmpty_iff, ← List.length_eq_zero_iff, List.length_insertionSort,
    List.length_eq_zero_iff]
  simp

/-- Nothing is missing iff every table name without all required columns has no rows. -/
theorem missingColumns_eq_nil_iff (rows : List SchemaRow) :
    (missingColumns (presentColumns rows)).isEmpty = true ↔
      ∀ e ∈ requiredColumns, (∃ row ∈ rows, row.tableName = e.1) → ∀ c ∈ e.2, ⟨e.1, c⟩ ∈ rows := by
  rw [List.isEmpty_iff, missingColumns, List.filterMap_eq_nil_iff]
  refine forall₂_congr fun e _ => ?_
  have hmem := mem_presentColumns rows e.1
  rw [← isSome_lookup_presentColumns]
  cases hlookup : (presentColumns rows).lookup e.1 with
  | none => simp
  | some columns =>
    simp only [hlookup, Option.getD_some] at hmem
    simp [← hmem, ← absentColumns_eq_nil_iff]

/-- **What the check looks for**: a table name with rows, but not one for each required column. -/
theorem checkSchema_drift_iff (rows : List SchemaRow) :
    (∃ message, checkSchema rows = (.error (.drift message) : Except (InitError ε) Unit)) ↔
      ∃ e ∈ requiredColumns, (∃ row ∈ rows, row.tableName = e.1) ∧
        ∃ c ∈ e.2, ⟨e.1, c⟩ ∉ rows := by
  have hdrift :
      (∃ message, checkSchema rows = (.error (.drift message) : Except (InitError ε) Unit)) ↔
        ¬ (missingColumns (presentColumns rows)).isEmpty = true := by
    unfold checkSchema
    by_cases hmissing : (missingColumns (presentColumns rows)).isEmpty = true <;> simp [hmissing]
  rw [hdrift, missingColumns_eq_nil_iff]
  push Not
  rfl

/-! ## The tables the queries use -/

/-- The columns of the tables of a database, by schema and table name; `none` where there is no such
table. -/
abbrev Catalog := String → String → Option (List String)

/-- The table an unqualified name resolves to: the one in the first schema of the search path that
has one. -/
def Catalog.resolve (catalog : Catalog) (path : List String) (table : String) :
    Option (List String) :=
  path.findSome? fun schema => catalog schema table

/-- The tables of one name in the schemas of the search path. -/
def Catalog.copies (catalog : Catalog) (path : List String) (table : String) : List (List String) :=
  path.filterMap fun schema => catalog schema table

/-- `information_schema.columns` lists every column of the token tables in all schemas of the search
path, in any order. -/
def Catalog.Lists (catalog : Catalog) (path : List String) (rows : List SchemaRow) : Prop :=
  ∀ row, row ∈ rows ↔ row.tableName ∈ requiredColumns.map Prod.fst ∧
    ∃ columns ∈ catalog.copies path row.tableName, row.columnName ∈ columns

/-- The rows of the query, schema by schema. -/
def Catalog.rows (catalog : Catalog) (path : List String) : List SchemaRow :=
  (requiredColumns.map Prod.fst).flatMap fun table =>
    (catalog.copies path table).flatMap fun columns => columns.map fun c => ⟨table, c⟩

theorem Catalog.lists_rows (catalog : Catalog) (path : List String) :
    catalog.Lists path (catalog.rows path) := by
  rintro ⟨table, column⟩
  simp only [rows, List.mem_flatMap, List.mem_map, SchemaRow.mk.injEq]
  constructor
  · rintro ⟨table', htable, columns, hcopy, column', hcolumn, rfl, rfl⟩
    exact ⟨htable, columns, hcopy, hcolumn⟩
  · rintro ⟨htable, columns, hcopy, hcolumn⟩
    exact ⟨table, htable, columns, hcopy, column, hcolumn, rfl, rfl⟩

/-- A token table that the queries use lacks a required column. -/
def Catalog.Drifted (catalog : Catalog) (path : List String) : Prop :=
  ∃ e ∈ requiredColumns, ∃ columns, catalog.resolve path e.1 = some columns ∧
    ∃ c ∈ e.2, c ∉ columns

/-- **Drift is masked**: of each token table the copies on the path have all required columns
between them, or no column at all. -/
def Catalog.Masked (catalog : Catalog) (path : List String) : Prop :=
  ∀ e ∈ requiredColumns, (∀ columns ∈ catalog.copies path e.1, columns = []) ∨
    ∀ c ∈ e.2, ∃ columns ∈ catalog.copies path e.1, c ∈ columns

/-- The resolved table is one of the copies, and there is one whenever there are copies. -/
theorem Catalog.resolve_eq_head? (catalog : Catalog) (path : List String) (table : String) :
    catalog.resolve path table = (catalog.copies path table).head? := by
  induction path with
  | nil => rfl
  | cons schema path ih =>
    rw [resolve, copies, List.findSome?_cons, List.filterMap_cons]
    cases catalog schema table with
    | none => exact ih
    | some columns => rfl

/-- The check raises iff the drift it can see is not masked. -/
theorem Catalog.Lists.drift_iff {catalog : Catalog} {path : List String} {rows : List SchemaRow}
    (h : catalog.Lists path rows) :
    (∃ message, checkSchema rows = (.error (.drift message) : Except (InitError ε) Unit)) ↔
      ¬ catalog.Masked path := by
  rw [checkSchema_drift_iff, Masked]
  push Not
  refine exists_congr fun e => and_congr_right fun he => ?_
  have hname : e.1 ∈ requiredColumns.map Prod.fst := List.mem_map_of_mem he
  refine and_congr ?_ ?_
  · constructor
    · rintro ⟨row, hrow, htable⟩
      obtain ⟨-, columns, hcopy, hcolumn⟩ := (h row).mp hrow
      exact ⟨columns, htable ▸ hcopy, List.ne_nil_of_mem hcolumn⟩
    · rintro ⟨columns, hcopy, hne⟩
      obtain ⟨column, hcolumn⟩ := List.exists_mem_of_ne_nil columns hne
      exact ⟨⟨e.1, column⟩, (h _).mpr ⟨hname, columns, hcopy, hcolumn⟩, rfl⟩
  · refine exists_congr fun c => and_congr_right fun _ => ?_
    rw [h ⟨e.1, c⟩]
    simp only [hname, true_and]
    push Not
    rfl

/-- Whatever drift the check sees is drift of a table in use. -/
theorem Catalog.drifted_of_not_masked {catalog : Catalog} {path : List String}
    (h : ¬ catalog.Masked path) : catalog.Drifted path := by
  unfold Masked at h
  push Not at h
  obtain ⟨e, he, ⟨columns, hcopy, -⟩, c, hc, habsent⟩ := h
  cases hcopies : catalog.copies path e.1 with
  | nil =>
    rw [hcopies] at hcopy
    exact absurd hcopy List.not_mem_nil
  | cons first rest =>
    refine ⟨e, he, first, ?_, c, hc, ?_⟩
    · rw [resolve_eq_head?, hcopies]
      rfl
    · apply habsent first
      rw [hcopies]
      exact List.mem_cons_self

/-- **When drift is detected.** For every search path and every assignment of columns, the check
raises `SchemaDriftError` iff a resolved token table is drifted, exactly unless there is drift and
the other copies on the path mask it. -/
theorem drift_detected_iff (catalog : Catalog) (path : List String) {s : PostgresTokenStorage}
    (hpool : s.pool = true) {rows : List SchemaRow} (hrows : catalog.Lists path rows) :
    ((∃ message, verifySchema (ε := ε) s (.ok rows) = .error (.drift message)) ↔
        catalog.Drifted path) ↔
      ¬ (catalog.Drifted path ∧ catalog.Masked path) := by
  have hcheck : verifySchema (ε := ε) s (.ok rows) = checkSchema rows := if_pos hpool
  rw [hcheck, hrows.drift_iff]
  have hseen : ¬ catalog.Masked path → catalog.Drifted path := Catalog.drifted_of_not_masked
  tauto

/-- The columns of a table created under an older schema: no `user_id`. -/
def oldColumns : List String :=
  ["token", "client_id", "scopes", "resource", "expires_at", "created_at"]

/-- A database with an old access-token table in the schema `app`, and a current one in `public`. -/
def twoSchemas : Catalog := fun schema table =>
  if table = "mcp_access_tokens" then
    if schema = "app" then some oldColumns
    else if schema = "public" then some ("user_id" :: oldColumns)
    else none
  else none

/-- On the path of the old schema alone its drift is not masked, and so it is detected. -/
theorem drift_detected_iff_app :
    (((∃ message, verifySchema (ε := Empty) ⟨true, ∅, none⟩ (.ok (twoSchemas.rows ["app"]))
          = .error (.drift message)) ↔ twoSchemas.Drifted ["app"]) ↔
      ¬ (twoSchemas.Drifted ["app"] ∧ twoSchemas.Masked ["app"])) ∧
    verifySchema (ε := Empty) ⟨true, ∅, none⟩ (.ok (twoSchemas.rows ["app"]))
      = .error (.drift (driftMessage [("mcp_access_tokens", ["user_id"])])) := by
  refine ⟨drift_detected_iff twoSchemas ["app"] rfl (twoSchemas.lists_rows ["app"]), ?_⟩
  decide +kernel

/-- **Masked drift**: the queries use the old table of `app`, and nothing is raised. -/
theorem drift_masked :
    twoSchemas.Lists ["app", "public"] (twoSchemas.rows ["app", "public"]) ∧
      twoSchemas.resolve ["app", "public"] "mcp_access_tokens" = some oldColumns ∧
      twoSchemas.Drifted ["app", "public"] ∧
      verifySchema (ε := Empty) ⟨true, ∅, none⟩ (.ok (twoSchemas.rows ["app", "public"]))
        = .ok () := by
  refine ⟨twoSchemas.lists_rows _, by decide, ?_, by decide +kernel⟩
  refine ⟨_, List.mem_cons_self, oldColumns, by decide, "user_id", by decide, by decide⟩

end McpAuthflow.Storage
