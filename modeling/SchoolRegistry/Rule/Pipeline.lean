import SchoolRegistry.Rule.Basic

/-!
# Pipelines of rules

A pipeline judges a candidate by one rule after the other and refuses it at the
first that is not satisfied, with the refusal that this rule stands for. Later
rules are left alone. The log records which rule it was.
-/

namespace SchoolRegistry

/-- A pipeline of rules. -/
structure Pipeline (m : Type → Type) (α : Type) where
  rules : List (Spec m α)

namespace Pipeline

variable {m : Type → Type} {α : Type}

/-- The pipeline with one more rule at its end. -/
def add (p : Pipeline m α) (s : Spec m α) : Pipeline m α := ⟨p.rules ++ [s]⟩

/-- The number of rules. -/
def size (p : Pipeline m α) : Nat := p.rules.length

/-- The record of an unsatisfied rule. -/
def unsatisfied (rule : String) (r : Refusal) : LogRecord :=
  ⟨"dbiam.specifications", .info,
    "Rule " ++ rule ++ " not satisfied by " ++ r.entity ++ " (" ++ r.kind.text ++ ")"⟩

/-- Judges a candidate by rules in their order. -/
def validateBy [Monad m] [Journal m] [Candidate α] (c : α) :
    List (Spec m α) → m (Outcome Unit)
  | [] => pure (.ok ())
  | s :: rest => do
    let v ← s.judge c
    if v.truthy then validateBy c rest
    else
      let r := s.violation c
      Journal.note (unsatisfied s.name r)
      pure (.error r)

/-- Judges a candidate. -/
def validate [Monad m] [Journal m] [Candidate α] (p : Pipeline m α) (c : α) :
    m (Outcome Unit) := validateBy c p.rules

end Pipeline

end SchoolRegistry
