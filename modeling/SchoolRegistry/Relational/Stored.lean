import SchoolRegistry.Value.Basic

/-!
# Values as columns hold them

A column holds the text of a term instead of the term, a list instead of any
sequence, and the document of an instance of a model. Everything else stays as
it is. Storing twice is storing once.
-/

namespace SchoolRegistry.Value

/-! ## Documents -/

mutual

/-- A value as a part of a document. -/
def inDocument : Value → Value
  | choice t => text t.text
  | day d => text d.toText
  | moment m => text m.documentText
  | list items => list (itemsInDocument items)
  | tuple items => list (itemsInDocument items)
  | set items => list (itemsInDocument items)
  | table entries => table (fieldsInDocument entries)
  | record _ _ fields => table (fieldsInDocument fields)
  | v => v

/-- Values as parts of a document. -/
def itemsInDocument : List Value → List Value
  | [] => []
  | v :: vs => v.inDocument :: itemsInDocument vs

/-- Named values as parts of a document. -/
def fieldsInDocument : List (String × Value) → List (String × Value)
  | [] => []
  | (k, v) :: rest => (k, v.inDocument) :: fieldsInDocument rest

end

/-! ## Columns -/

mutual

/-- A value as a column holds it. -/
def stored : Value → Value
  | choice t => text t.text
  | list items => list (storedItems items)
  | tuple items => list (storedItems items)
  | set items => list (storedItems items)
  | table entries => table (storedEntries entries)
  | record _ _ fields => table (fieldsInDocument fields)
  | v => v

/-- Values as a column holds them. -/
def storedItems : List Value → List Value
  | [] => []
  | v :: vs => v.stored :: storedItems vs

/-- Named values as a column holds them. -/
def storedEntries : List (String × Value) → List (String × Value)
  | [] => []
  | (k, v) :: rest => (k, v.stored) :: storedEntries rest

end

end SchoolRegistry.Value
