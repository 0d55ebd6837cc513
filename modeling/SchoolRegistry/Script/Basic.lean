import SchoolRegistry.Registry.Operation
import SchoolRegistry.Script.Backend
import SchoolRegistry.Store.Monitor

/-!
# Scripts

A script is a sequence of steps against a registry and its store, as data. Steps
are actions, or blocks of work and savepoints around further steps; a block may
be left on purpose by an abort at its end. Entities that an action returns can be
kept under names and used again, changed or not, by later actions.
-/

namespace SchoolRegistry

/-- An entity of some collection. -/
structure Held where
  collection : Collection
  item : collection.Item

/-- Where an action takes its entity from. -/
inductive EntitySource where
  /-- It is built from data. -/
  | data (fields : Fields)
  /-- It was kept under a name. -/
  | kept (name : String)

/-- An entity for an action: where it comes from, and what is assigned to it
before it is used. -/
structure Given where
  source : EntitySource
  changes : Fields

/-- An action of a script. -/
inductive Action where
  /-- Carries out an operation of the registry. -/
  | perform (o : Operation)
  /-- Creates an entity by the operation for its collection. -/
  | create (c : Collection) (e : Given)
  /-- Judges an entity by a rule. -/
  | judge (c : Collection) (r : Rule Service c.Item) (e : Given)
  /-- Judges a replacement of assignments by its rules. -/
  | check (r : Replacement)
  | save (c : Collection) (e : Given)
  | get (c : Collection) (id : String)
  | delete (c : Collection) (id : String)
  | list (c : Collection) (ids : Option (List String))
  | query (c : Collection) (q : Query)
  /-- Finds items through a query. -/
  | find (c : Collection) (q : Query)
  /-- Shows an entity as it is. -/
  | look (c : Collection) (e : Given)
  /-- Changes an entity that was kept. -/
  | change (name : String) (changes : Fields)
  /-- Lists all collections; the store does not log it. -/
  | dump
  /-- Sets the clock. -/
  | setClock (start : Stamp)
  | commit
  | rollback
  /-- Tells how the unit of work is. -/
  | report
  | disturb (d : Disturbance)
  /-- Takes all disturbances away. -/
  | calm
  /-- The number of items of a collection. -/
  | count (c : Collection)
  /-- Empties a collection. -/
  | clear (c : Collection)
  /-- Remembers the items of a collection under a name. -/
  | remember (c : Collection) (name : String)
  /-- Puts remembered items back. -/
  | recall (c : Collection) (name : String)

/-- A step of a script. -/
inductive Step where
  /-- An action, if it could be read, and the name under which the entity that it
  returns is kept. -/
  | act (a : Except Failure Action) (keepAs : Option String)
  /-- A block of work, with the message of the abort that ends it. -/
  | work (steps : List Step) (abort : Option String)
  /-- A savepoint, with the message of the abort that ends it. -/
  | savepoint (steps : List Step) (abort : Option String)

/-! ## Results -/

/-- What an action returns. -/
inductive Result where
  | nothing
  | flag (yes : Bool)
  | number (n : Nat)
  | entity (h : Held)
  | entities (c : Collection) (items : List c.Item)
  | counted (c : Collection) (found : Counted c.Item)
  | page (c : Collection) (p : Page c.Item)
  /-- The entity as the values of the columns of its table. -/
  | look (h : Held)
  | judged (verdict : Value) (violation : Refusal)
  /-- The verdicts of several rules and the outcome of checking them in turn. -/
  | checked (verdicts : List Value) (outcome : Outcome Unit)
  | listings (all : List ((c : Collection) × Except Failure (List c.Item)))
  | report (r : WorkReport)
  | refused (r : Refusal)
  /-- An operation was not refused and has this result. -/
  | accepted (r : Result)

/-- What a step leaves behind: the result of an action with the calls that it
made, or the entries of a block with the way in which it was left. -/
inductive Entry where
  | done (result : Except Failure Result) (calls : List Call)
  | block (entries : List Entry) (exit : Except Failure Unit)

namespace Result

/-- The outcome of an operation as a result. -/
def ofOutcome {α : Type} (result : α → Result) : Outcome α → Result
  | .ok a => accepted (result a)
  | .error r => refused r

/-- The answer to an operation as a result. -/
def ofReply : (o : Operation) → o.Reply → Result
  | .createOrganisation _, r => ofOutcome (fun x => entity ⟨.organisations, x⟩) r
  | .createPerson _, r => ofOutcome (fun x => entity ⟨.persons, x⟩) r
  | .createRole _, r => ofOutcome (fun x => entity ⟨.roles, x⟩) r
  | .createAssignment _, r => ofOutcome (fun x => entity ⟨.assignments, x⟩) r
  | .findOrganisation _, r => ofOutcome (fun x => entity ⟨.organisations, x⟩) r
  | .findPerson _, r => ofOutcome (fun x => entity ⟨.persons, x⟩) r
  | .listOrganisations .., p => page .organisations p
  | .listAdministered .., r => ofOutcome (page .organisations) r
  | .listPersons .., p => page .persons p
  | .listRoles .., p => page .roles p
  | .deleteAssignment _, r => ofOutcome (fun _ => nothing) r
  | .listAssignments _, items => entities .assignments items
  | .replaceAssignments .., r => ofOutcome (entities .assignments) r

/-- The entity that a result is, if it is one. -/
def held? : Result → Option Held
  | entity h => some h
  | accepted r => r.held?
  | _ => none

end Result

/-- The operation that creates an item of a collection. -/
def Operation.create : (c : Collection) → c.Item → Operation
  | .organisations, o => .createOrganisation o
  | .persons, p => .createPerson p
  | .roles, r => .createRole r
  | .assignments, a => .createAssignment a

end SchoolRegistry
