import SchoolRegistry.Relational.Database
import SchoolRegistry.Store.Memory

/-!
# Backends of scripts

What a script needs of a kind of store besides the answers to requests.
-/

namespace SchoolRegistry

/-- How a unit of work is. -/
inductive WorkReport where
  /-- How often it committed, rolled back and undid a savepoint. -/
  | counts (commits rollbacks undone : Nat)
  /-- Whether it opens its sessions, and whether one is open. -/
  | session (owned isOpen : Bool)

/-- A kind of store in which scripts run. -/
structure Backend (σ : Type) where
  engine : Supply → Engine σ
  /-- How often the clock was read. -/
  readings : σ → Nat
  report : σ → WorkReport
  /-- The items of all collections, where they can be touched directly. -/
  shelves : σ → Option Shelves
  setShelves : Shelves → σ → σ

/-- The store in memory. -/
def Memory.backend : Backend Memory where
  engine := Memory.engine
  readings m := m.drawn.times
  report m := .counts m.commits m.rollbacks m.undone
  shelves m := some m.shelves
  setShelves shelves m := { m with shelves := shelves }

/-- The store in a database; its rows cannot be touched directly. -/
def Database.backend : Backend Database where
  engine := Database.engine
  readings db := db.drawn.times
  report db := .session db.work.ownsSession db.work.isOpen
  shelves _ := none
  setShelves _ db := db

end SchoolRegistry
