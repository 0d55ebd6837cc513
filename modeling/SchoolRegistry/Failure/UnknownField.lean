import SchoolRegistry.Text.Similarity
import SchoolRegistry.Value.Basic

/-!
# Unknown fields

A query named a field that its entity does not have. The failure carries the
names that come close to the one given, so that a slip of the pen can be put
right.
-/

namespace SchoolRegistry

/-- A field that does not exist, and those that do. -/
structure UnknownField where
  field : String
  model : String
  available : List String
  suggestions : List String

namespace UnknownField

/-- Whether one text stands before another, by the codes of its characters. -/
def notAfter (a b : String) : Bool := a ≤ b

/-- Texts in ascending order. -/
def sorted (names : List String) : List String := names.mergeSort notAfter

/-- The greatest number of suggestions. -/
def suggestionCount : Nat := 5

/-- The failure with suggestions of at least the given likeness. -/
def suggesting (reaches : Double → Bool) (field model : String) (available : List String) :
    UnknownField :=
  ⟨field, model, available, Text.closeNames suggestionCount reaches field available⟩

/-- The likeness from which a name is suggested unless said otherwise. -/
def usualLikeness : Double := .ofDecimal false 6 (-1)

/-- The failure with suggestions of the usual likeness. -/
def of (field model : String) (available : List String) : UnknownField :=
  suggesting (fun d => d.compare usualLikeness != .lt) field model available

/-- How many of the available names a message shows. -/
def previewCount : Nat := 15

/-- The available names as a message shows them. -/
def preview (available : List String) : String :=
  let names := sorted available
  ", ".intercalate (names.take previewCount)
    ++ (if previewCount < names.length then ", ..." else "")

/-- The message of the failure. -/
def message (u : UnknownField) : String :=
  let headline := "Invalid field '" ++ u.field ++ "' on '" ++ u.model ++ "'."
  let hints :=
    if u.suggestions.isEmpty then []
    else "Did you mean one of these?" :: u.suggestions.map fun s => "  • " ++ s
  "\n".intercalate (headline :: hints ++ ["Available fields: " ++ preview u.available])

/-- Texts as a value. -/
def textList (names : List String) : Value := .list (names.map .text)

/-- The failure as named values. -/
def payload (u : UnknownField) : Fields :=
  [("error", .text "FIELD_NOT_FOUND"), ("field", .text u.field), ("model", .text u.model),
    ("suggestions", textList u.suggestions), ("available_fields", textList (sorted u.available))]

end UnknownField

end SchoolRegistry
