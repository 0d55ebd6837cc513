import SchoolRegistry.Number.Double
import SchoolRegistry.Time.Moment
import SchoolRegistry.Vocabulary.Choice

/-!
# Dynamic values

The data that clients send, that conditions of queries carry and that stored
entities show of themselves. `Value.scalar?` is the one view through which
numbers, texts and times are compared: yes and no count as 1 and 0, and a term
of a vocabulary counts as its text.
-/

namespace SchoolRegistry

/-- A value of a client's data. -/
inductive Value where
  /-- No value. -/
  | null
  /-- Yes or no. -/
  | flag (yes : Bool)
  /-- A whole number. -/
  | whole (n : Int)
  /-- A number of the binary format. -/
  | real (x : Double)
  /-- A text. -/
  | text (s : String)
  /-- A term of a vocabulary. -/
  | choice (term : Choice)
  /-- A day. -/
  | day (d : Date)
  /-- A moment. -/
  | moment (m : Moment)
  /-- A list. -/
  | list (items : List Value)
  /-- A sequence of fixed length. -/
  | tuple (items : List Value)
  /-- A collection without repetition. -/
  | set (items : List Value)
  /-- Values under text keys. -/
  | table (entries : List (String × Value))
  /-- An instance of a model: its name, its version and its fields. -/
  | record (model : String) (version : Value) (fields : List (String × Value))
  /-- Named attributes without a model. -/
  | object (attributes : List (String × Value))

instance : Inhabited Value := ⟨.null⟩

/-- Named values in their order. -/
abbrev Fields := List (String × Value)

namespace Fields

/-- The named values with one name set; a new name comes last. -/
def insert (name : String) (v : Value) : Fields → Fields
  | [] => [(name, v)]
  | (n, old) :: rest => if n == name then (n, v) :: rest else (n, old) :: insert name v rest

/-- Named values from pairs: of two under one name the later counts, at the
place of the earlier. -/
def ofPairs (pairs : List (String × Value)) : Fields :=
  pairs.foldl (fun kept p => insert p.1 p.2 kept) []

end Fields

/-! ## Scalars -/

/-- A value that is compared as a whole. -/
inductive Scalar where
  | whole (n : Int)
  | real (x : Double)
  | text (s : String)
  | day (d : Date)
  | moment (m : Moment)

namespace Scalar

/-- The order of two scalars, if they can be compared. -/
def compare? : Scalar → Scalar → Option Ordering
  | whole a, whole b => some (Ord.compare a b)
  | whole a, real b => some (Double.compareInt a b)
  | real a, whole b => some (Double.compareInt b a).swap
  | real a, real b => some (a.compare b)
  | text a, text b => some (Ord.compare a b)
  | day a, day b => some (a.compare b)
  | moment a, moment b => a.compare? b
  | _, _ => none

/-- Whether two scalars are equal; those that cannot be compared are not. -/
def same (a b : Scalar) : Bool := a.compare? b == some .eq

end Scalar

namespace Value

/-- The scalar a value is compared as. -/
def scalar? : Value → Option Scalar
  | flag yes => some (.whole (if yes then 1 else 0))
  | whole n => some (.whole n)
  | real x => some (.real x)
  | text s => some (.text s)
  | choice term => some (.text term.text)
  | day d => some (.day d)
  | moment m => some (.moment m)
  | _ => none

/-- The text of a value that is a text or a term of a vocabulary. -/
def text? : Value → Option String
  | text s => some s
  | choice term => some term.text
  | _ => none

/-- Whether the value is missing. -/
def isNull : Value → Bool
  | null => true
  | _ => false

/-- An optional text as a value. -/
def ofText? : Option String → Value
  | some s => text s
  | none => null

/-- Whether a value counts as yes: nothing, zero and whatever is empty do not. -/
def truthy : Value → Bool
  | null => false
  | flag yes => yes
  | whole n => n != 0
  | real x => !x.isZero
  | text s => s != ""
  | choice term => term.text != ""
  | list items => !items.isEmpty
  | tuple items => !items.isEmpty
  | set items => !items.isEmpty
  | table entries => !entries.isEmpty
  | day _ => true
  | moment _ => true
  | record .. => true
  | object _ => true

/-- The number of characters or members of a value that has a length. -/
def length? : Value → Option Nat
  | text s => some s.length
  | choice term => some term.text.length
  | list items => some items.length
  | tuple items => some items.length
  | set items => some items.length
  | table entries => some entries.length
  | _ => none

end Value

end SchoolRegistry
