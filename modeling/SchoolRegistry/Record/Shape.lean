import SchoolRegistry.Record.Codec

/-!
# Shapes of records

A shape lists the fields of a structure in the order in which they are read
and shown. Reading starts from a blank structure and sets every field that the
data give; all faults are collected, in the order of the fields. A field may
have a second name under which clients know it, and that name wins.

`Field.set_get` is the law of every field: setting a field to what it shows
changes nothing.
-/

namespace SchoolRegistry

/-- One field of a structure `σ`. -/
structure Field (σ : Type) where
  /-- The name of the field. -/
  name : String
  /-- The name by which clients know the field. -/
  wireName : String
  /-- Whether the data must give the field. -/
  required : Bool
  /-- The field as a value. -/
  get : σ → Value
  /-- The structure with the field read from a value. -/
  set : Value → σ → Except (List Fault) σ
  /-- Setting a field to what it shows changes nothing. -/
  set_get : ∀ s, set (get s) s = .ok s

namespace Field

variable {σ α : Type}

/-- The field at a place of the structure, read and shown by a codec. -/
def of (name wireName : String) (required : Bool) (c : Codec α) (get : σ → α) (put : α → σ → σ)
    (put_get : ∀ s, put (get s) s = s) : Field σ where
  name := name
  wireName := wireName
  required := required
  get s := c.write (get s)
  set v s := (c.read v).map fun a => put a s
  set_get s := by simp [c.read_write, Except.map, put_get]

/-- A field that the data may leave out. -/
def plain (name : String) (c : Codec α) (get : σ → α) (put : α → σ → σ)
    (put_get : ∀ s, put (get s) s = s) : Field σ := of name name false c get put put_get

/-- A field that the data must give. -/
def needed (name : String) (c : Codec α) (get : σ → α) (put : α → σ → σ)
    (put_get : ∀ s, put (get s) s = s) : Field σ := of name name true c get put put_get

/-- The name under which the data give the field, and its value. -/
def found? (f : Field σ) (data : Fields) : Option (String × Value) :=
  match data.lookup f.wireName with
  | some v => some (f.wireName, v)
  | none => (data.lookup f.name).map fun v => (f.name, v)

/-- The structure with the field as the data give it. -/
def take (f : Field σ) (data : Fields) (s : σ) : Except (List Fault) σ :=
  match f.found? data with
  | some (name, v) => (f.set v s).mapError fun faults => faults.map (·.under name)
  | none => if f.required then .error [⟨[f.wireName], .missing⟩] else .ok s

/-- Data that give a value which the field takes. -/
theorem take_of_set {f : Field σ} {data : Fields} {v : Value} {s t : σ}
    (found : data.lookup f.wireName = some v) (set : f.set v s = .ok t) :
    f.take data s = .ok t := by
  simp only [take, found?, found, set]
  rfl

/-- Data that give a value which the field refuses. -/
theorem take_of_set_error {f : Field σ} {data : Fields} {v : Value} {s : σ} {faults : List Fault}
    (found : data.lookup f.wireName = some v) (refused : f.set v s = .error faults) :
    f.take data s = .error (faults.map (·.under f.wireName)) := by
  simp only [take, found?, found, refused]
  rfl

/-- The field of a part of a larger structure. -/
def within {τ : Type} (f : Field α) (get : τ → α) (put : α → τ → τ)
    (put_get : ∀ t, put (get t) t = t) : Field τ where
  name := f.name
  wireName := f.wireName
  required := f.required
  get t := f.get (get t)
  set v t := (f.set v (get t)).map fun a => put a t
  set_get t := by simp [f.set_get, Except.map, put_get]

end Field

/-- The fields of a structure and the structure to start from. -/
structure Shape (σ : Type) where
  blank : σ
  fields : List (Field σ)

namespace Shape

variable {σ : Type}

/-- The structure with the given fields as the data give them. -/
def fill (data : Fields) : List (Field σ) → σ → Except (List Fault) σ
  | [], s => .ok s
  | f :: fs, s =>
    match f.take data s with
    | .ok s => fill data fs s
    | .error e =>
      match fill data fs s with
      | .ok _ => .error e
      | .error e' => .error (e ++ e')

/-- The structure that the data describe. -/
def read (m : Shape σ) (data : Fields) : Except (List Fault) σ := fill data m.fields m.blank

/-- The fields of the structure as named values. -/
def fieldValues (m : Shape σ) (s : σ) : Fields := m.fields.map fun f => (f.name, f.get s)

/-- The fields of the structure under the names by which clients know them. -/
def wireValues (m : Shape σ) (s : σ) : Fields := m.fields.map fun f => (f.wireName, f.get s)

/-- The names of the fields. -/
def names (m : Shape σ) : List String := m.fields.map (·.name)

/-- The field with the given name. -/
def field? (m : Shape σ) (name : String) : Option (Field σ) :=
  m.fields.find? fun f => f.name == name

end Shape

/-- Structures nested in a field: as a table or as an instance of the model. -/
def Codec.nested {σ : Type} (model : String) (m : Shape σ)
    (read_fieldValues : ∀ s, m.read (m.fieldValues s) = .ok s) : Codec σ where
  read
    | .table data => m.read data
    | .record name _ data => if name = model then m.read data else refuse .modelType
    | _ => refuse .modelType
  write s := .record model .null (m.fieldValues s)
  read_write s := by simp [read_fieldValues]

end SchoolRegistry
