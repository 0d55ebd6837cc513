import SchoolRegistry.Entity.Header
import SchoolRegistry.Relational.Stored
import SchoolRegistry.Relational.Table

/-!
# Entities and rows

How instances of a model become rows of a table and come back. Only columns of
the table take part, and some of them may be left out. The version of an entity
has a column of its own, although it is no field: it is written with the fields
and put back after the instance is read.
-/

namespace SchoolRegistry

/-- A table and the columns of it that are left out. -/
structure Mapping where
  table : Table
  excluded : List String

namespace Mapping

/-- Whether a column takes part. -/
def covers (m : Mapping) (name : String) : Bool :=
  m.table.columnNames.contains name && !m.excluded.contains name

/-- The column of the version. -/
def versionColumn : String := "version"

/-! ## From instances to rows -/

/-- The named values of an instance, with its version if it has one. -/
def allValues : Value → Fields
  | .record _ version fields =>
    if version.isNull then fields else Fields.insert versionColumn version fields
  | _ => []

/-- The values of the columns for an instance. -/
def columnValues (m : Mapping) (v : Value) : Fields :=
  ((allValues v).filter fun f => m.covers f.1).map fun f => (f.1, f.2.stored)

/-- The row of an instance, with every column of the table; columns without a
value are missing. -/
def rowOf (m : Mapping) (v : Value) : Fields :=
  let values := m.columnValues v
  m.table.columnNames.map fun name => (name, (values.lookup name).getD .null)

/-! ## From rows to instances -/

/-- The instance with the version that a row gives, unless it gives none. -/
def withVersion (row : Fields) : Value → Value
  | .record name version fields =>
    match row.lookup versionColumn with
    | some v => if v.isNull || version.isNull then .record name version fields
      else .record name v fields
    | none => .record name version fields
  | v => v

/-- The failure to read a row. -/
def unreadable (rowName model : String) (row : Fields) : Failure :=
  .storage (.unreadableRow rowName ((row.lookup "id").getD .null).plain model)

/-- The instance that the values of the columns of a row describe. -/
def ofValues {σ : Type} (m : Mapping) (model : Model σ) (toValue : σ → Value) (rowName : String)
    (row : Fields) : Except Failure Value :=
  let data := row.filter fun f => m.covers f.1
  match model.parse data with
  | .ok s => .ok (withVersion data (toValue s))
  | .error _ => .error (unreadable rowName model.name row)

/-- The instance of a row of the table of which some columns are loaded. Only
columns of the table can be. -/
def ofRow {σ : Type} (m : Mapping) (model : Model σ) (toValue : σ → Value) (loaded : Fields) :
    Except Failure Value :=
  if loaded.all fun f => m.table.columnNames.contains f.1 then
    m.ofValues model toValue m.table.rowName loaded
  else .error .wrongType

/-- The name by which messages call an object that is no row. -/
def plainName : String := "SimpleNamespace"

/-- The instance of any object; it must have every column that takes part. -/
def ofObject {σ : Type} (m : Mapping) (model : Model σ) (toValue : σ → Value)
    (attributes : Fields) : Except Failure Value :=
  if (m.table.columnNames.filter m.covers).all fun name => (attributes.lookup name).isSome then
    m.ofValues model toValue plainName attributes
  else .error .noAttribute

end Mapping

end SchoolRegistry
