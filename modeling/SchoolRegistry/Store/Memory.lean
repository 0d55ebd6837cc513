import SchoolRegistry.Store.Program
import SchoolRegistry.Store.Supply

/-!
# The store in memory

Every collection is a list of items in the order in which their identifiers
were first stored. A query is evaluated on the list. Savepoints remember the
collections that take part in them; undoing one puts these back and leaves the
others, the identifiers and the clock as they are.

Storing, removing and savepoints do not depend on what the collections are: a
`Depot` has any family of them. `Memory` is the one that programs run over.
-/

namespace SchoolRegistry

/-- The items of any collections. -/
abbrev Shelving {ι : Type} (Item : ι → Type) := (c : ι) → List (Item c)

/-- The items of all collections. -/
abbrev Shelves := Shelving Collection.Item

namespace Shelving

variable {ι : Type} {Item : ι → Type}

/-- Empty collections. -/
def empty : Shelving Item := fun _ => []

/-- The collections with one of them replaced. -/
def put [DecidableEq ι] (c : ι) (items : List (Item c)) (s : Shelving Item) : Shelving Item :=
  fun c' => if h : c' = c then h ▸ items else s c'

/-- The collections with some of them taken from elsewhere. -/
def restore [BEq ι] (cs : List ι) (kept s : Shelving Item) : Shelving Item := fun c =>
  if cs.contains c then kept c else s c

end Shelving

/-- A store in memory with any collections. -/
structure Depot {ι : Type} (Item : ι → Type) where
  shelves : Shelving Item
  drawn : DrawnFor ι
  /-- The collections that take part in savepoints. -/
  enlisted : List ι
  /-- What the open savepoints remember, the innermost first. -/
  savepoints : List (Shelving Item)
  commits : Nat
  rollbacks : Nat
  /-- The number of savepoints undone. -/
  undone : Nat

/-- A store in memory. -/
abbrev Memory := Depot Collection.Item

namespace Memory

/-- An empty store. -/
def empty (enlisted : List Collection) : Memory :=
  ⟨.empty, .nothing, enlisted, [], 0, 0, 0⟩

/-! ## Items -/

section Items

variable {σ : Type} [Entity σ]

/-- Whether an item has the given identifier. -/
def hasId (id : String) (item : σ) : Bool := Entity.id item == some id

/-- The item with the given identifier. -/
def find? (id : String) (items : List σ) : Option σ := items.find? (hasId id)

/-- The items with one stored: in place of the item with its identifier, or else
at the end. -/
def store (id : String) (item : σ) : List σ → List σ
  | [] => [item]
  | x :: xs => if hasId id x then item :: xs else x :: store id item xs

/-- The items without the one with the given identifier. -/
def remove (id : String) (items : List σ) : List σ := items.filter fun x => !hasId id x

/-- The items whose identifiers are among the given ones. -/
def among (ids : List String) (items : List σ) : List σ :=
  items.filter fun x => (Entity.id x).any ids.contains

/-- An item as it is stored under an identifier at a time: with the version
counted up. An item that comes without an identifier is created now. -/
def stamped (id : String) (now : Stamp) (item : σ) : σ :=
  let h := Entity.header item
  Entity.setHeader ⟨some id, if h.id.isNone then some now else h.createdAt, some now,
    h.version + 1⟩ item

end Items

end Memory

/-! ## Requests -/

namespace Depot

variable {ι : Type} [DecidableEq ι] {Item : ι → Type} [∀ c, Entity (Item c)]

/-- Stores an item. -/
def save (supply : SupplyFor ι) (c : ι) (item : Item c) (m : Depot Item) : Item c × Depot Item :=
  let now := supply.time m.drawn.times
  let drawn := m.drawn.drawTime
  let (id, drawn) := match Entity.id item with
    | some id => (id, drawn)
    | none => (supply.id c (drawn.ids c), drawn.drawId c)
  let stored := Memory.stamped id now item
  (stored, { m with
    drawn := drawn, shelves := m.shelves.put c (Memory.store id stored (m.shelves c)) })

/-- Removes the item with an identifier, and tells whether there was one. -/
def delete (c : ι) (id : String) (m : Depot Item) : Bool × Depot Item :=
  ((Memory.find? id (m.shelves c)).isSome,
    { m with shelves := m.shelves.put c (Memory.remove id (m.shelves c)) })

/-- Sets a savepoint. -/
def setSavepoint (m : Depot Item) : Depot Item :=
  { m with savepoints := m.shelves :: m.savepoints }

/-- Keeps what was done since the innermost savepoint. -/
def keepSavepoint (m : Depot Item) : Depot Item :=
  { m with savepoints := m.savepoints.tail }

/-- Undoes the innermost savepoint. -/
def undo (m : Depot Item) : Depot Item :=
  match m.savepoints with
  | [] => m
  | kept :: rest =>
    { m with
      shelves := Shelving.restore m.enlisted kept m.shelves
      savepoints := rest
      undone := m.undone + 1 }

end Depot

namespace Memory

/-- Stores an item. -/
abbrev save (supply : Supply) (c : Collection) (item : c.Item) (m : Memory) : c.Item × Memory :=
  Depot.save supply c item m

/-- Removes the item with an identifier, and tells whether there was one. -/
abbrev delete (c : Collection) (id : String) (m : Memory) : Bool × Memory := Depot.delete c id m

/-- Undoes the innermost savepoint. -/
abbrev undo (m : Memory) : Memory := Depot.undo m

/-- Answers a request. -/
def answer (supply : Supply) : (r : Request) → Memory → Except Failure r.Reply × Memory
  | .get c id, m => (.ok (find? id (m.shelves c)), m)
  | .save c item, m =>
    let (stored, m) := m.save supply c item
    (.ok stored, m)
  | .delete c id, m =>
    let (found, m) := m.delete c id
    (.ok found, m)
  | .list c none, m => (.ok (m.shelves c), m)
  | .list c (some ids), m => (.ok (among ids (m.shelves c)), m)
  | .query c q, m => (q.evaluate Entity.toValue (m.shelves c), m)
  | .setSavepoint, m => (.ok (), Depot.setSavepoint m)
  | .keepSavepoint, m => (.ok (), Depot.keepSavepoint m)
  | .undoSavepoint, m => (.ok (), m.undo)

/-- The store as one that programs run over. -/
def handler (supply : Supply) : Handler Memory := ⟨answer supply⟩

/-! ## Units of work -/

/-- Counts a commit; there is nothing else to do. -/
def commit (m : Memory) : Except Failure Unit × Memory :=
  (.ok (), { m with commits := m.commits + 1 })

/-- Counts a rollback; what was done stays. -/
def rollback (m : Memory) : Except Failure Unit × Memory :=
  (.ok (), { m with rollbacks := m.rollbacks + 1 })

/-- The store with its unit of work. -/
def engine (supply : Supply) : Engine Memory where
  handler := handler supply
  enter m := m
  commit := commit
  rollback := rollback
  leave failed m := if failed then m.rollback else m.commit

end Memory

end SchoolRegistry
