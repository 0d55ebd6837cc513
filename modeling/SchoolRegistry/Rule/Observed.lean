import SchoolRegistry.Rule.Pipeline
import SchoolRegistry.Value.Path

/-!
# Observed judgements

Rules on dynamic candidates and a computation that lets one watch them: it
keeps the names of the rules that were judged and the log records, also when a
judgement fails.
-/

namespace SchoolRegistry

/-- What can be seen of a judgement. -/
structure Observation where
  judged : List String
  records : List LogRecord

/-- A judgement that is watched. -/
abbrev Observed := ExceptT Failure (StateM Observation)

namespace Observed

/-- The outcome of a judgement and what was seen of it. -/
def observe {α : Type} (x : Observed α) : Except Failure α × Observation :=
  (ExceptT.run x).run ⟨[], []⟩

/-- Notes that a rule was judged. -/
def mark (name : String) : Observed Unit :=
  modify fun o => { o with judged := o.judged ++ [name] }

instance : Journal Observed where
  note r := modify fun o => { o with records := o.records ++ [r] }

end Observed

/-- The identifier of a dynamic candidate: its attribute of that name as text. -/
instance : Candidate Value where
  id? v := (v.attribute? "id").bind fun id => if id.isNull then none else some id.plain

namespace Rule

/-- How a scripted rule behaves. -/
inductive Script where
  /-- It gives this verdict. -/
  | verdict (v : Value)
  /-- It fails. -/
  | failure (f : Failure)

/-- Judges as the script says. -/
def Script.judge (name : String) (s : Script) : Observed Value := do
  Observed.mark name
  match s with
  | .verdict v => pure v
  | .failure f => throw f

/-- A scripted rule; `outdated` makes its violation a mismatched revision. -/
def scripted (name : String) (s : Script) (entity : Option String) (outdated : Bool) :
    Rule Observed Value where
  label := some "Leaf"
  name := name
  entity := some (entity.getD Spec.anyEntity)
  judge _ := s.judge name
  violation c :=
    let e := entity.getD Spec.anyEntity
    if outdated then .revisionMismatch e (Candidate.id? c) []
    else .ruleViolated name e (Candidate.id? c) []

/-- A rule that only has the means to judge and to refuse. -/
def bare (name : String) (verdict : Value) : Rule Observed Value where
  label := none
  name := name
  entity := none
  judge _ := Script.judge name (.verdict verdict)
  violation c := .notFound "Duck" (Candidate.id? c)

/-- A rule that is satisfied when the value at a path is true. -/
def predicate (path name : String) (entity : Option String) : Rule Observed Value :=
  .plain "PredicateSpecification" name (entity.getD Spec.anyEntity) fun c =>
    pure (.flag (c.resolve path).truthy)

end Rule

end SchoolRegistry
