import SchoolRegistry.Entity.Organisation
import SchoolRegistry.Entity.Role
import SchoolRegistry.Rule.Observed
import SchoolRegistry.Text.CharClass

/-!
# Rules that look at the candidate alone

A class needs a name, a school needs an identifier, and the name of a role has
no blanks around it. The rules are about what a candidate shows, so any value
can be judged by them and not only the entities of the registry.
`judge_nameRequiredForClass`, `judge_identifierRequiredForSchool` and
`judge_nameWithoutBlanks` say what they come to for those.
-/

namespace SchoolRegistry.Presence

/-! ## What the rules demand -/

/-- The attribute of a candidate; one without it cannot be judged. -/
def shown (c : Value) (name : String) : Except Failure Value :=
  match c.attribute? name with
  | some v => .ok v
  | none => .error .noAttribute

/-- Whether a value is the term of an organisation kind itself. -/
def isKind (kind : OrganisationKind) : Value → Bool
  | .choice (.organisationKind k) => k == kind
  | _ => false

/-- An organisation of the given kind must have a non-empty attribute. -/
def requiredFor (kind : OrganisationKind) (name : String) (c : Value) : Except Failure Bool :=
  match shown c "typ" with
  | .error e => .error e
  | .ok k => if isKind kind k then (shown c name).map Value.truthy else .ok true

/-- A name, if there is one, must not have blanks around it. -/
def trimmedName (c : Value) : Except Failure Bool :=
  match shown c "name" with
  | .error e => .error e
  | .ok .null => .ok true
  | .ok v =>
    match v.text? with
    | some s => .ok (Text.isTrimmed s)
    | none => .error .noAttribute

/-! ## The rules -/

section Rules

variable {m : Type → Type} [Monad m] [MonadExcept Failure m] {α : Type} [Candidate α]

/-- A rule from a check of what a candidate shows. -/
def rule (label name entity : String) (check : Value → Except Failure Bool) (view : α → Value) :
    Rule m α :=
  .plain label name entity fun c =>
    match check (view c) with
    | .ok yes => pure (.flag yes)
    | .error e => throw e

/-- A class needs a name. -/
def nameRequiredForClass (view : α → Value) : Rule m α :=
  rule "NameRequiredForClass" "NAME_REQUIRED_FOR_KLASSE" (Entity.name Organisation)
    (requiredFor .schoolClass "name") view

/-- A school needs an identifier. -/
def identifierRequiredForSchool (view : α → Value) : Rule m α :=
  rule "IdentifierRequiredForSchool" "KENNUNG_REQUIRED_FOR_SCHULE" (Entity.name Organisation)
    (requiredFor .school "kennung") view

/-- The name of a role has no blanks around it. -/
def nameWithoutBlanks (view : α → Value) : Rule m α :=
  rule "RoleNameWithoutSurroundingSpace" "NAME_MIT_LEERZEICHEN" (Entity.name Role) trimmedName view

/-- What a rule answers is what its check says of the value that the candidate shows. -/
theorem judge_rule {label name entity : String} {check : Value → Except Failure Bool}
    {view : α → Value} {c : α} {yes : Bool} (answered : check (view c) = .ok yes) :
    (rule label name entity check view : Rule m α).judge c = pure (.flag yes) := by
  simp only [rule, Rule.plain, answered]

end Rules

/-! ## Entities -/

/-- Whether an optional text is there and not empty. -/
def isGiven : Option String → Bool
  | some s => s != ""
  | none => false

/-- The value of an optional text counts as yes when the text is given. -/
theorem truthy_ofText? (s : Option String) : (Value.ofText? s).truthy = isGiven s := by
  cases s <;> rfl

/-- An organisation breaks the demand exactly if it is of the kind and the text is not given. -/
theorem requiredFor_toValue {kind : OrganisationKind} {name : String} {o : Organisation}
    {s : Option String} (shows : shown (Entity.toValue o) name = .ok (Value.ofText? s)) :
    requiredFor kind name (Entity.toValue o) = .ok (o.kind != some kind || isGiven s) := by
  have kinds : shown (Entity.toValue o) "typ" =
      .ok ((Codec.term? OrganisationKind).write o.kind) := rfl
  have same : isKind kind ((Codec.term? OrganisationKind).write o.kind) =
      (o.kind == some kind) := by
    cases o.kind <;> rfl
  simp only [requiredFor, kinds, same, shows, Except.map, truthy_ofText?]
  cases here : o.kind == some kind <;> simp [bne, here]

/-- The name of a role, if there is one, is checked as the text that it is. -/
theorem trimmedName_toValue (r : Role) :
    trimmedName (Entity.toValue r) = .ok (r.name.all Text.isTrimmed) := by
  obtain ⟨_, name, _, _, _, _⟩ := r
  cases name <;> rfl

section Judged

variable {m : Type → Type} [Monad m] [MonadExcept Failure m]

/-- Classes are asked for a name. -/
theorem judge_nameRequiredForClass [Candidate Organisation] (o : Organisation) :
    (nameRequiredForClass Entity.toValue : Rule m Organisation).judge o =
      pure (.flag (o.kind != some .schoolClass || isGiven o.name)) := by
  refine judge_rule (requiredFor_toValue ?_)
  obtain ⟨_, _, name, _, _, _, _, _⟩ := o
  cases name <;> rfl

/-- Schools are asked for an identifier. -/
theorem judge_identifierRequiredForSchool [Candidate Organisation] (o : Organisation) :
    (identifierRequiredForSchool Entity.toValue : Rule m Organisation).judge o =
      pure (.flag (o.kind != some .school || isGiven o.identifier)) := by
  refine judge_rule (requiredFor_toValue ?_)
  obtain ⟨_, identifier, _, _, _, _, _, _⟩ := o
  cases identifier <;> rfl

/-- The name of a role must be trimmed. -/
theorem judge_nameWithoutBlanks [Candidate Role] (r : Role) :
    (nameWithoutBlanks Entity.toValue : Rule m Role).judge r =
      pure (.flag (r.name.all Text.isTrimmed)) :=
  judge_rule (trimmedName_toValue r)

end Judged

end SchoolRegistry.Presence
