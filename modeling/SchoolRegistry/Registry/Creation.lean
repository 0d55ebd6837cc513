import SchoolRegistry.Rule.Pipeline
import SchoolRegistry.Store.Program
import SchoolRegistry.Validation.FieldRule

/-!
# Creation

What the creation of any entity goes through: field rules that refuse at the
first failure before the store is asked anything, rules that look at the store,
and the storing itself. A failure of the store becomes a refusal.
-/

namespace SchoolRegistry.Creation

variable {α : Type}

/-- An optional text as messages show it. -/
def shownText (s : Option String) : String := s.getD "None"

/-- Checks field rules on an entity and goes on if all hold. -/
def checkFields {σ : Type} [Entity σ] (rules : List FieldRule) (item : σ)
    (next : Service (Outcome α)) : Service (Outcome α) :=
  match validateFields (Entity.toValue item) rules with
  | .error e => throw e
  | .ok report =>
    if report.isValid then next
    else match report.refusal (Entity.name σ) with
      | .ok r => pure (.error r)
      | .error e => throw e

/-- Checks rules on a candidate and goes on if all hold. -/
def checkRules {β : Type} [Candidate β] (rules : List (Rule Service β)) (candidate : β)
    (next : Service (Outcome α)) : Service (Outcome α) := do
  match ← Pipeline.validate ⟨rules.map .rule⟩ candidate with
  | .error r => pure (.error r)
  | .ok () => next

/-- A failure of the store means that the entity could not be created. -/
def orNotCreated (logger text entity : String) (s : Service (Outcome α)) :
    Service (Outcome α) :=
  s.onStorageFailure fun e => do
    Journal.note ⟨logger, .error, text⟩
    pure (.error (.notCreated entity (some e.message)))

end SchoolRegistry.Creation
