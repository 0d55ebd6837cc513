import SchoolRegistry.Query.Evaluate
import SchoolRegistry.Rule.Basic
import SchoolRegistry.Store.Collection

/-!
# Programs over a store

What the services do is a program: a tree of requests to a store, each with the
continuation that its answer selects, and of log records. A program says nothing
about how a store answers; `Program.run` lets any store answer, and so the same
service runs over every store and under every schedule of failures. An `Engine`
is a store with its unit of work.
-/

namespace SchoolRegistry

/-- What a program asks of a store. -/
inductive Request where
  /-- The item with an identifier. -/
  | get (c : Collection) (id : String)
  /-- To store an item. -/
  | save (c : Collection) (item : c.Item)
  /-- To remove the item with an identifier. -/
  | delete (c : Collection) (id : String)
  /-- The items, or those among them with one of the given identifiers. -/
  | list (c : Collection) (ids : Option (List String))
  /-- The items that a query asks for. -/
  | query (c : Collection) (q : Query)
  /-- To be able to undo what follows. -/
  | setSavepoint
  /-- To keep what was done since the savepoint. -/
  | keepSavepoint
  /-- To undo what was done since the savepoint. -/
  | undoSavepoint

/-- The answer to a request. -/
abbrev Request.Reply : Request → Type
  | get c _ => Option c.Item
  | save c _ => c.Item
  | delete _ _ => Bool
  | list c _ => List c.Item
  | query c _ => Counted c.Item
  | setSavepoint => Unit
  | keepSavepoint => Unit
  | undoSavepoint => Unit

/-- A program over a store. -/
inductive Program (α : Type) : Type where
  /-- The program is done. -/
  | done (a : α)
  /-- A log record is written. -/
  | note (r : LogRecord) (next : Program α)
  /-- A request is made. -/
  | ask (r : Request) (next : Except Failure r.Reply → Program α)

namespace Program

variable {α β : Type}

/-- One program after the other. -/
def bind : Program α → (α → Program β) → Program β
  | done a, f => f a
  | note r p, f => note r (bind p f)
  | ask r k, f => ask r fun x => bind (k x) f

instance : Monad Program where
  pure := done
  bind := bind

end Program

/-- How a store in a state of type `σ` answers. -/
structure Handler (σ : Type) where
  answer : (r : Request) → σ → Except Failure r.Reply × σ

/-- What is left when a program has run. -/
structure Ran (σ α : Type) where
  result : α
  state : σ
  records : List LogRecord

/-- Runs a program over a store. -/
def Program.run {σ α : Type} (h : Handler σ) : Program α → σ → Ran σ α
  | done a, s => ⟨a, s, []⟩
  | note r p, s =>
    let ran := p.run h s
    { ran with records := r :: ran.records }
  | ask r k, s =>
    let x := h.answer r s
    (k x.1).run h x.2

/-! ## Services -/

/-- A program that can fail. -/
abbrev Service := ExceptT Failure Program

namespace Service

variable {α : Type}

/-- Makes a request and fails if it does. -/
def ask (r : Request) : Service r.Reply := ExceptT.mk (.ask r .done)

/-- The outcome of a service as a value. -/
def attempt (s : Service α) : Service (Except Failure α) :=
  ExceptT.mk (Program.bind (ExceptT.run s) fun x => .done (.ok x))

/-- Runs a service; a failure of the store is answered by another one. -/
def onStorageFailure (s : Service α) (f : StorageFailure → Service α) : Service α := do
  match ← attempt s with
  | .ok a => pure a
  | .error (.storage e) => f e
  | .error e => throw e

/-- Runs a service in a savepoint, which is undone if it fails. -/
def inSavepoint (s : Service α) : Service α := do
  ask .setSavepoint
  match ← attempt s with
  | .ok a => do
    ask .keepSavepoint
    pure a
  | .error e => do
    ask .undoSavepoint
    throw e

instance : Journal Service where
  note r := ExceptT.mk (.note r (.done (.ok ())))

end Service

instance {σ : Type} [Entity σ] : Candidate σ where
  id? := Entity.id

/-! ## Engines -/

/-- A store with its unit of work. -/
structure Engine (σ : Type) where
  handler : Handler σ
  /-- Begins a block. -/
  enter : σ → σ
  commit : σ → Except Failure Unit × σ
  rollback : σ → Except Failure Unit × σ
  /-- Ends a block that failed or did not. -/
  leave : Bool → σ → Except Failure Unit × σ

namespace Engine

variable {σ : Type}

/-- Runs a service. -/
def run {α : Type} (e : Engine σ) (service : Service α) (s : σ) : Ran σ (Except Failure α) :=
  Program.run e.handler (ExceptT.run service) s

end Engine

end SchoolRegistry
