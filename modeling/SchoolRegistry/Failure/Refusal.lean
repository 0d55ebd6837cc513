import SchoolRegistry.Value.Printed

/-!
# Refusals of the registry

The closed list of reasons for which an operation of the registry is refused.
A refusal is a result rather than a crash: operations return it, and the layer
towards the clients decides how to present it. Everything a client sees of a
refusal (`message`, `kind`, `details`) is computed from its cause.
-/

namespace SchoolRegistry

/-- Why an operation was refused. -/
inductive Refusal where
  /-- There is no entity with this identifier. -/
  | notFound (entity : String) (id : Option String)
  /-- There is such an entity already. -/
  | alreadyExists (entity : String) (details : Fields) (id : Option String)
  /-- The store failed while the entity was to be created. -/
  | notCreated (entity : String) (reason : Option String)
  /-- The store failed while the entity was to be changed. -/
  | notUpdated (entity : String) (id : Option String) (reason : Option String)
  /-- The store failed while the entity was to be deleted. -/
  | notDeleted (entity : String) (id : Option String) (reason : Option String)
  /-- A rule of the registry does not hold. -/
  | ruleViolated (rule entity : String) (id : Option String) (details : Fields)
  /-- The client's view of an entity is older than the stored one. -/
  | revisionMismatch (entity : String) (id : Option String) (details : Fields)
  /-- An attribute breaks a field rule. -/
  | invalidAttribute (entity path constraint : String) (id : Option String)

namespace Refusal

/-- The kind of the refusal. -/
def kind : Refusal → RefusalKind
  | notFound .. => .notFound
  | alreadyExists .. => .alreadyExists
  | notCreated .. => .notCreated
  | notUpdated .. => .notUpdated
  | notDeleted .. => .notDeleted
  | ruleViolated .. => .ruleViolated
  | revisionMismatch .. => .revisionMismatch
  | invalidAttribute .. => .invalidAttribute

/-- The name of the model of the entity. -/
def entity : Refusal → String
  | notFound e _ => e
  | alreadyExists e _ _ => e
  | notCreated e _ => e
  | notUpdated e _ _ => e
  | notDeleted e _ _ => e
  | ruleViolated _ e _ _ => e
  | revisionMismatch e _ _ => e
  | invalidAttribute e _ _ _ => e

/-- The identifier of the entity, if it is known. -/
def id : Refusal → Option String
  | notFound _ i => i
  | alreadyExists _ _ i => i
  | notCreated _ _ => none
  | notUpdated _ i _ => i
  | notDeleted _ i _ => i
  | ruleViolated _ _ i _ => i
  | revisionMismatch _ i _ => i
  | invalidAttribute _ _ _ i => i

/-- The name of the violated rule. -/
def rule? : Refusal → Option String
  | ruleViolated rule _ _ _ => some rule
  | _ => none

/-- The details of a failure of the store: its reason, unless it is empty. -/
def reasonDetails : Option String → Fields
  | none => []
  | some reason => if reason = "" then [] else [("reason", .text reason)]

/-- The details of the refusal. -/
def details : Refusal → Fields
  | notFound .. => []
  | alreadyExists _ d _ => d
  | notCreated _ reason => reasonDetails reason
  | notUpdated _ _ reason => reasonDetails reason
  | notDeleted _ _ reason => reasonDetails reason
  | ruleViolated _ _ _ d => d
  | revisionMismatch _ _ d => d
  | invalidAttribute _ path constraint _ =>
    [("field_path", .text path), ("constraint", .text constraint)]

/-- An entity and its identifier as messages name them. -/
def subject (entity : String) (id : Option String) : String :=
  entity ++ " with id=" ++ (Value.ofText? id).printed

/-- The message of the refusal. -/
def message : Refusal → String
  | notFound e i => subject e i ++ " not found"
  | alreadyExists e _ _ => e ++ " already exists"
  | notCreated e _ => e ++ " could not be created"
  | notUpdated e i _ => subject e i ++ " could not be updated"
  | notDeleted e i _ => subject e i ++ " could not be deleted"
  | ruleViolated rule e i _ => subject e i ++ " violates " ++ rule ++ " specification"
  | revisionMismatch e i _ => subject e i ++ " has a mismatched revision"
  | invalidAttribute e path constraint _ =>
    "Attribute " ++ Text.quoted path ++ " of " ++ e ++ " violates " ++ Text.quoted constraint

/-- The refusal as named values. -/
def payload (r : Refusal) : Fields :=
  [("kind", .text r.kind.text), ("entity_type", .text r.entity), ("entity_id", .ofText? r.id),
    ("details", .table r.details)]
    ++ (match r.rule? with
      | some rule => [("rule_name", .text rule)]
      | none => [])

end Refusal

/-- The result of an operation of the registry. -/
abbrev Outcome (α : Type) := Except Refusal α

end SchoolRegistry
