import SchoolRegistry.Failure
import SchoolRegistry.Record.Shape

/-!
# Models

A model is a shape with a name, a check of the whole that runs once all fields
are read, and rules for assignments: a frozen model admits none, a derived
attribute can only be read, and any other attribute is assigned by the rules
under which it is read.
-/

namespace SchoolRegistry

/-- A named shape with its rules. -/
structure Model (σ : Type) extends Shape σ where
  name : String
  /-- The check of the whole. -/
  check : σ → Except Failure Unit
  /-- Whether instances cannot be changed. -/
  frozen : Bool
  /-- The attributes that can only be read. -/
  derived : List String

namespace Model

variable {σ : Type}

/-- A model without a check of the whole. -/
def simple (name : String) (shape : Shape σ) : Model σ where
  toShape := shape
  name := name
  check _ := .ok ()
  frozen := false
  derived := []

/-- The instance that the data describe. -/
def parse (m : Model σ) (data : Fields) : Except Failure σ :=
  match m.read data with
  | .error faults => .error (.invalid faults)
  | .ok s => (m.check s).map fun _ => s

/-- The instance with one attribute assigned. -/
def assign (m : Model σ) (name : String) (v : Value) (s : σ) : Except Failure σ :=
  if m.frozen then .error (.invalid [⟨[name], .frozenInstance⟩])
  else if m.derived.contains name then .error .noAttribute
  else match m.field? name with
    | some f => (f.set v s).mapError fun faults => .invalid (faults.map (·.under name))
    | none => .error (.invalid [⟨[name], .noSuchAttribute⟩])

/-- The instance after the assignments in their order, up to the first one that
fails. -/
def assignAll (m : Model σ) : Fields → σ → σ × Except Failure Unit
  | [], s => (s, .ok ())
  | (name, v) :: rest, s =>
    match m.assign name v s with
    | .ok s => assignAll m rest s
    | .error e => (s, .error e)

end Model

end SchoolRegistry
