import SchoolRegistry.Failure.UnknownField

/-!
# Tables

The tables that hold the entities: columns with their types, keys, references
and indexes, and their definitions in SQL. The columns of a kind of entity come
first, those that every table has come last.
-/

namespace SchoolRegistry

/-- The dialects in which tables are defined. -/
inductive Dialect where
  | sqlite
  | postgresql
deriving DecidableEq

/-- What a column holds. -/
inductive ColumnType where
  /-- Texts of limited length. -/
  | varchar (length : Nat)
  /-- Whole numbers. -/
  | integer
  /-- Yes or no. -/
  | boolean
  /-- Days. -/
  | date
  /-- Moments. -/
  | datetime
  /-- Documents. -/
  | json
deriving DecidableEq

/-- The name of a type. -/
def ColumnType.text (d : Dialect) : ColumnType → String
  | varchar n => "VARCHAR(" ++ toString n ++ ")"
  | integer => "INTEGER"
  | boolean => "BOOLEAN"
  | date => "DATE"
  | datetime => match d with
    | .sqlite => "DATETIME"
    | .postgresql => "TIMESTAMP WITH TIME ZONE"
  | json => match d with
    | .sqlite => "JSON"
    | .postgresql => "JSONB"

/-- A column of a table. -/
structure Column where
  name : String
  type : ColumnType
  /-- Whether every row must have a value. -/
  required : Bool
deriving DecidableEq

/-- A column whose values are identifiers of rows of another table. -/
structure Reference where
  column : String
  table : String
  /-- Whether rows go when the row they point at goes. -/
  cascades : Bool
deriving DecidableEq

/-- A table. -/
structure Table where
  name : String
  /-- The name by which messages call the rows. -/
  rowName : String
  columns : List Column
  /-- The groups of columns whose values together are unique. -/
  unique : List (List String)
  references : List Reference
  /-- The columns with an index. -/
  indexed : List String

namespace Table

/-! ## The tables of the registry -/

/-- The columns that every table has. -/
def commonColumns : List Column := [
  ⟨"id", .varchar 36, true⟩,
  ⟨"version", .integer, true⟩,
  ⟨"created_at", .datetime, false⟩,
  ⟨"updated_at", .datetime, false⟩]

/-- The table of organisations. -/
def organisations : Table where
  name := "organisation"
  rowName := "OrganisationModel"
  columns := [
    ⟨"kennung", .varchar 64, false⟩,
    ⟨"name", .varchar 255, false⟩,
    ⟨"namensergaenzung", .varchar 255, false⟩,
    ⟨"kuerzel", .varchar 64, false⟩,
    ⟨"typ", .varchar 64, false⟩,
    ⟨"administriert_von", .varchar 36, false⟩,
    ⟨"zugehoerig_zu", .varchar 36, false⟩] ++ commonColumns
  unique := []
  references := []
  indexed := ["kennung", "typ", "administriert_von", "updated_at"]

/-- The table of persons. -/
def persons : Table where
  name := "person"
  rowName := "PersonModel"
  columns := [
    ⟨"referrer", .varchar 255, false⟩,
    ⟨"vorname", .varchar 64, false⟩,
    ⟨"familienname", .varchar 64, false⟩,
    ⟨"geburtsdatum", .date, false⟩,
    ⟨"is_information_blocked", .boolean, true⟩] ++ commonColumns
  unique := [["referrer"]]
  references := []
  indexed := ["familienname", "updated_at"]

/-- The table of roles. -/
def roles : Table where
  name := "rolle"
  rowName := "RolleModel"
  columns := [
    ⟨"name", .varchar 255, false⟩,
    ⟨"administered_by_schulstrukturknoten", .varchar 36, false⟩,
    ⟨"rollenart", .varchar 32, false⟩,
    ⟨"merkmale", .json, true⟩,
    ⟨"systemrechte", .json, true⟩] ++ commonColumns
  unique := []
  references := []
  indexed := ["updated_at"]

/-- The table of assignments. -/
def assignments : Table where
  name := "personenkontext"
  rowName := "PersonenkontextModel"
  columns := [
    ⟨"person_id", .varchar 36, true⟩,
    ⟨"organisation_id", .varchar 36, true⟩,
    ⟨"rolle_id", .varchar 36, true⟩] ++ commonColumns
  unique := [["person_id", "organisation_id", "rolle_id"]]
  references := [
    ⟨"person_id", "person", true⟩,
    ⟨"organisation_id", "organisation", false⟩,
    ⟨"rolle_id", "rolle", false⟩]
  indexed := ["person_id", "organisation_id", "rolle_id", "updated_at"]

/-! ## Columns -/

/-- The column with the given name. -/
def column? (t : Table) (name : String) : Option Column :=
  t.columns.find? fun c => c.name == name

/-- The names of the columns. -/
def columnNames (t : Table) : List String := t.columns.map (·.name)

/-- The names of the columns in ascending order. -/
def sortedColumnNames (t : Table) : List String := UnknownField.sorted t.columnNames

/-! ## Definitions -/

/-- The definition of a column. -/
def columnText (d : Dialect) (c : Column) : String :=
  c.name ++ " " ++ c.type.text d ++ (if c.required then " NOT NULL" else "")

/-- A group of columns in a definition. -/
def groupText (names : List String) : String := "(" ++ ", ".intercalate names ++ ")"

/-- The definition of a reference. -/
def referenceText (r : Reference) : String :=
  "FOREIGN KEY(" ++ r.column ++ ") REFERENCES " ++ r.table ++ " (id)"
    ++ (if r.cascades then " ON DELETE CASCADE" else "")

/-- The lines of the definition of a table. -/
def lines (d : Dialect) (t : Table) : List String :=
  t.columns.map (columnText d) ++ ["PRIMARY KEY (id)"]
    ++ t.unique.map (fun names => "UNIQUE " ++ groupText names)
    ++ t.references.map referenceText

/-- The definition of a table. -/
def definition (d : Dialect) (t : Table) : String :=
  "\nCREATE TABLE " ++ t.name ++ " (\n\t" ++ ", \n\t".intercalate (t.lines d) ++ "\n)\n\n"

/-- The name of the index of a column. -/
def indexName (t : Table) (column : String) : String := "ix_" ++ t.name ++ "_" ++ column

/-- The definitions of the indexes of a table, by name. -/
def indexDefinitions (t : Table) : List String :=
  (UnknownField.sorted t.indexed).map fun column =>
    "CREATE INDEX " ++ t.indexName column ++ " ON " ++ t.name ++ " (" ++ column ++ ")"

end Table

end SchoolRegistry
