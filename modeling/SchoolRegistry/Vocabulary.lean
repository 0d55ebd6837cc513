/-!
# Vocabularies

A vocabulary is a closed list of terms. Each term has the text by which it is
exchanged and a label by which messages name it. A text is read as the term
that has exactly this text; the law `text_injective` makes that term unique, so
reading the text of a term gives the term (`ofText?_text`).
-/

namespace SchoolRegistry

/-- A closed list of terms with their texts. -/
class Vocabulary (α : Type) where
  /-- The name by which messages call the vocabulary. -/
  family : String
  /-- The terms in their fixed order. -/
  all : List α
  /-- The text by which a term is exchanged. -/
  text : α → String
  /-- The label of a term in messages. -/
  label : α → String
  /-- Every term is listed. -/
  complete : ∀ a, a ∈ all
  /-- Two terms never share a text. -/
  text_injective : ∀ a b, text a = text b → a = b

namespace Vocabulary

variable {α : Type} [Vocabulary α]

/-- The term with the given text. -/
def ofText? (s : String) : Option α := (all : List α).find? fun a => text a == s

/-- The text of a term is found to be the text of this term. -/
theorem ofText?_text (a : α) : ofText? (text a) = some a := by
  unfold ofText?
  cases h : (all : List α).find? fun b => text b == text a with
  | none =>
    have := List.find?_eq_none.mp h a (complete a)
    simp at this
  | some b =>
    have hb : text b = text a := by simpa using List.find?_some h
    exact congrArg some (text_injective b a hb)

end Vocabulary

end SchoolRegistry
