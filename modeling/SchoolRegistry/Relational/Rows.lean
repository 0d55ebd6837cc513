import SchoolRegistry.Relational.Mapping
import SchoolRegistry.Relational.Selection
import SchoolRegistry.Store.Collection

/-!
# Items as rows

How the items of a collection are kept in its table and come back from there. A
column of moments keeps what the wall shows and drops the offset; what comes
back is read as universal time. The keys of a table, its identifier among them,
admit no two rows with the same values; a row with a missing value in a key is
different from all others.
-/

namespace SchoolRegistry

/-! ## Keys -/

namespace Row

/-- Whether two rows have the same texts in all columns of a key. -/
def sharesKey (names : List String) (a b : Row) : Bool :=
  names.all fun name =>
    match (a.value name).text?, (b.value name).text? with
    | some s, some t => s == t
    | _, _ => false

/-- Whether the row has the given identifier. -/
def hasId (id : String) (row : Row) : Bool := (row.value "id").text? == some id

end Row

/-- The keys of a table. -/
def Table.keys (t : Table) : List (List String) := ["id"] :: t.unique

/-- Whether two rows cannot be in the table together. -/
def Table.clashes (t : Table) (a b : Row) : Bool := t.keys.any fun names => a.sharesKey names b

/-! ## Items -/

/-- A value as its column keeps it. -/
def Value.kept : Value → Value
  | .moment m => .moment (.floating m.wall)
  | v => v

namespace Collection

/-- The mapping between the items and the table of a collection. -/
def mapping (c : Collection) : Mapping := ⟨c.table, []⟩

/-- The row of an item. -/
def toRow (c : Collection) (item : c.Item) : Row :=
  (c.mapping.rowOf (Entity.toValue item)).map fun f => (f.1, f.2.kept)

/-- The version that a row says. -/
def versionOf (row : Row) : Nat :=
  match row.value Mapping.versionColumn with
  | .whole n => n.toNat
  | _ => 0

/-- The time of creation that a row says. -/
def createdAtOf (row : Row) : Option Stamp :=
  match row.value "created_at" with
  | .moment m => some m.assumeUtc
  | _ => none

/-- The item of a row. -/
def ofRow (c : Collection) (row : Row) : Except Failure c.Item :=
  match (Entity.model : Model c.Item).parse row with
  | .ok item => .ok (Entity.setHeader { Entity.header item with version := versionOf row } item)
  | .error _ => .error (Mapping.unreadable c.table.rowName c.modelName row)

/-- The items of rows. -/
def ofRows (c : Collection) : List Row → Except Failure (List c.Item)
  | [] => .ok []
  | row :: rest =>
    match c.ofRow row with
    | .error e => .error e
    | .ok item => (ofRows c rest).map fun items => item :: items

end Collection

/-! ## Tables -/

/-- The rows of all tables. -/
abbrev Tables := Collection → List Row

namespace Tables

/-- Tables without rows. -/
def empty : Tables := fun _ => []

/-- The tables with the rows of one of them replaced. -/
def put (c : Collection) (rows : List Row) (t : Tables) : Tables := fun c' =>
  if c' = c then rows else t c'

/-- The row with the given identifier. -/
def row? (c : Collection) (id : String) (t : Tables) : Option Row := (t c).find? (Row.hasId id)

/-- The tables with one more row, unless it clashes with another one. -/
def insert? (c : Collection) (row : Row) (t : Tables) : Option Tables :=
  if (t c).any (c.table.clashes row) then none else some (t.put c (t c ++ [row]))

/-- The tables with the row of an identifier replaced, unless the new one clashes
with another one. -/
def update? (c : Collection) (id : String) (row : Row) (t : Tables) : Option Tables :=
  let others := (t c).filter fun r => !r.hasId id
  if others.any (c.table.clashes row) then none
  else some (t.put c ((t c).map fun r => if r.hasId id then row else r))

/-- The tables without the row of an identifier. -/
def remove (c : Collection) (id : String) (t : Tables) : Tables :=
  t.put c ((t c).filter fun r => !r.hasId id)

end Tables

end SchoolRegistry
