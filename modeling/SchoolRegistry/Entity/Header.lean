import SchoolRegistry.Record.Model

/-!
# Entities

What every stored entity has in common: an identifier and two stamps, which the
store assigns on the first save, and a version that counts the saves. The
version is no field: clients neither send nor assign it.

`Entity` is the interface through which stores and services treat the entities
alike; its laws say that the header is one part of the entity among others.
-/

namespace SchoolRegistry

/-- What every stored entity has in common. -/
structure Header where
  id : Option String
  createdAt : Option Stamp
  updatedAt : Option Stamp
  version : Nat
deriving DecidableEq

namespace Header

/-- The header of an entity that was never saved. -/
def blank : Header := ⟨none, none, none, 0⟩

/-- The fields of a header. -/
def fields : List (Field Header) := [
  .plain "id" .text? (·.id) (fun a h => { h with id := a }) fun _ => rfl,
  .plain "created_at" .stamp? (·.createdAt)
    (fun a h => { h with createdAt := a }) fun _ => rfl,
  .plain "updated_at" .stamp? (·.updatedAt)
    (fun a h => { h with updatedAt := a }) fun _ => rfl]

/-- The fields of a header as fields of an entity. -/
def fieldsWithin {σ : Type} (get : σ → Header) (put : Header → σ → σ)
    (put_get : ∀ s, put (get s) s = s) : List (Field σ) :=
  fields.map fun f => f.within get put put_get

end Header

/-- A kind of stored entities. -/
class Entity (σ : Type) where
  model : Model σ
  header : σ → Header
  setHeader : Header → σ → σ
  header_setHeader : ∀ h s, header (setHeader h s) = h
  setHeader_header : ∀ s, setHeader (header s) s = s
  setHeader_setHeader : ∀ h h' s, setHeader h (setHeader h' s) = setHeader h s

namespace Entity

variable {σ : Type} [Entity σ]

/-- The name of the model. -/
def name (σ : Type) [Entity σ] : String := (model : Model σ).name

/-- The identifier, once there is one. -/
def id (s : σ) : Option String := (header s).id

/-- The number of saves. -/
def version (s : σ) : Nat := (header s).version

/-- The entity as a value. -/
def toValue (s : σ) : Value :=
  .record (name σ) (.whole (version s)) ((model : Model σ).fieldValues s)

/-- The attributes of an entity that can only be read. -/
def derivedNames : List String := ["version", "is_persisted"]

end Entity

end SchoolRegistry
