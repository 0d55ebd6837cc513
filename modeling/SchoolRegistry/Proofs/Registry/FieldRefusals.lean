import SchoolRegistry.Proofs.Registry.ServerErrors
import SchoolRegistry.Proofs.Validation.RuleLists

/-!
# Refusals by field rules

The creation of a person or an organisation checks the field rules before it asks the store
anything. It refuses the first rule that is broken by its path and its constraint, and if none is
broken, no attribute is refused later on, whatever the store answers (`Creation.RefusesByFields`).

`field_rules_reported_in_order` puts this together with the laws of reports: lists of rules are
checked one after the other, reports are merged associatively with the empty one as neutral
element, and the first failure of a report is the first rule that is broken.
-/

namespace SchoolRegistry

variable {σ α β τ : Type}

/-- An attribute is refused. -/
def RefusesAttribute (x : Except Failure (Outcome α)) : Prop :=
  ∃ entity path name id, x = .ok (.error (.invalidAttribute entity path name id))

/-- A failure refuses no attribute. -/
theorem not_refusesAttribute_failure (f : Failure) :
    ¬RefusesAttribute (.error f : Except Failure (Outcome α)) := by
  rintro ⟨entity, path, name, id, ⟨⟩⟩

/-- What succeeds refuses no attribute. -/
theorem not_refusesAttribute_ok (a : α) : ¬RefusesAttribute (.ok (.ok a) : Except Failure _) := by
  rintro ⟨entity, path, name, id, ⟨⟩⟩

/-- Refusals of other kinds refuse no attribute. -/
theorem not_refusesAttribute_error {r : Refusal} (other : r.kind ≠ .invalidAttribute) :
    ¬RefusesAttribute (.ok (.error r) : Except Failure (Outcome α)) := by
  rintro ⟨entity, path, name, id, ⟨⟩⟩
  exact other rfl

namespace Creation

/-! ## The first broken rule -/

/-- Checking field rules that have answers refuses by the first broken one, or goes on. -/
theorem checkFields_eq [Entity σ] {rules : List FieldRule} {item : σ}
    (answered : ∀ f ∈ rules, ∃ met, f.check ((Entity.toValue item).resolve f.path) = .ok met)
    (next : Service (Outcome α)) :
    checkFields rules item next =
      match rules.find? (·.fails (Entity.toValue item)) with
      | some f => pure (.error (.invalidAttribute (Entity.name σ) f.path f.constraintName none))
      | none => next := by
  obtain ⟨report, made, -, valid⟩ := Report.exists_of answered Report.named_success
  have first := first?_validateFields made
  cases found : rules.find? (·.fails (Entity.toValue item)) with
  | none =>
    refine checkFields_of_met (fun f hf => ?_) next
    obtain ⟨met, answer⟩ := answered f hf
    cases met with
    | true => exact answer
    | false => exact absurd (FieldRule.fails_iff.mpr answer) (List.find?_eq_none.mp found f hf)
  | some f =>
    have broken : f.fails (Entity.toValue item) = true := List.find?_some found
    have invalid : report.isValid = false := by
      by_contra fine
      have met := (valid.mp (eq_true_of_ne_false fine)).2 f (List.mem_of_find?_eq_some found)
      cases met.symm.trans (FieldRule.fails_iff.mp broken)
    rw [found] at first
    unfold checkFields validateFields
    rw [made]
    simp [invalid, Report.refusal, Report.first, first, FieldRule.failure, Except.map]

/-! ## What follows the field rules -/

variable {e : Engine τ} {next : Service (Outcome α)}

/-- A failure of the store is refused, but as no attribute. -/
theorem ends_orNotCreated {logger text entity : String} {m : τ}
    (h : e.Ends next m fun x _ => ¬RefusesAttribute x) :
    e.Ends (orNotCreated logger text entity next) m fun x _ => ¬RefusesAttribute x :=
  Ends.orNotCreated h fun _ _ _ => not_refusesAttribute_error (by simp [Refusal.kind])

/-- Rules that refuse no attribute leave it at that. -/
theorem ends_checkRules [Candidate β] {rules : List (Rule Service β)} {c : β}
    (others : ∀ r ∈ rules, (r.violation c).kind ≠ .invalidAttribute)
    (h : ∀ m, e.Ends next m fun x _ => ¬RefusesAttribute x) (m : τ) :
    e.Ends (checkRules rules c next) m fun x _ => ¬RefusesAttribute x := by
  induction rules generalizing m with
  | nil => exact h m
  | cons r rest ih =>
    obtain ⟨other, later⟩ := List.forall_mem_cons.mp others
    refine Ends.checkRules_cons (R := fun _ _ => True) trivial (fun v m' _ => ?_) fun f m' _ => ?_
    · split
      · exact ih later m'
      · exact not_refusesAttribute_error other
    · exact not_refusesAttribute_failure f

/-- The creation refuses an item by the first field rule that it breaks, without asking the store
anything. If it breaks none, no attribute is refused, whatever the store answers. -/
structure RefusesByFields [Entity σ] (rules : List FieldRule) (create : σ → Service (Outcome α))
    (item : σ) : Prop where
  broken : ∀ f, rules.find? (·.fails (Entity.toValue item)) = some f → create item =
    pure (.error (.invalidAttribute (Entity.name σ) f.path f.constraintName none))
  met : rules.find? (·.fails (Entity.toValue item)) = none →
    ∀ {τ : Type} (e : Engine τ) (m : τ), e.Ends (create item) m fun x _ => ¬RefusesAttribute x

/-- A creation that checks the field rules first refuses by them if what follows refuses no
attribute. -/
theorem refusesByFields_of_checked [Entity σ] {rules : List FieldRule}
    {create : σ → Service (Outcome α)} {item : σ} {next : Service (Outcome α)}
    (answered : ∀ f ∈ rules, ∃ met, f.check ((Entity.toValue item).resolve f.path) = .ok met)
    (checked : create item = checkFields rules item next)
    (later : ∀ {τ : Type} (e : Engine τ) (m : τ), e.Ends next m fun x _ => ¬RefusesAttribute x) :
    RefusesByFields rules create item := by
  rw [checkFields_eq answered] at checked
  constructor
  · intro f found
    rw [checked, found]
  · intro found τ e m
    rw [checked, found]
    exact later e m

end Creation

/-! ## Persons and organisations -/

/-- The creation of a person refuses by the field rules for persons. -/
theorem Persons.refusesByFields_create (p : Person) :
    Creation.RefusesByFields personFieldRules create p := by
  refine Creation.refusesByFields_of_checked (Person.answered_fieldRules p) rfl fun e m => ?_
  apply Creation.ends_orNotCreated
  refine Engine.Ends.bind (Q := fun _ _ => True) trivial (fun taken m' _ => ?_) fun f _ _ =>
    not_refusesAttribute_failure f
  split
  · exact not_refusesAttribute_error (by simp [Refusal.kind])
  · exact Engine.Ends.bind (Q := fun _ _ => True) trivial
      (fun saved m' _ => not_refusesAttribute_ok saved) fun f _ _ => not_refusesAttribute_failure f

/-- The creation of an organisation refuses by the field rules for organisations. -/
theorem Organisations.refusesByFields_create (o : Organisation) :
    Creation.RefusesByFields organisationFieldRules create o := by
  refine Creation.refusesByFields_of_checked (Organisation.answered_fieldRules o) rfl
    fun e m => ?_
  apply Creation.ends_orNotCreated
  refine Creation.ends_checkRules ?_ (fun m => ?_) m
  · have violated : ∀ r ∈ OrganisationRules.all, (r.violation o).kind = .ruleViolated := by
      simp only [OrganisationRules.all, List.forall_mem_cons]
      exact ⟨rfl, rfl, rfl, rfl, List.forall_mem_nil _⟩
    exact fun r member => ne_of_eq_of_ne (violated r member) (by decide)
  · exact Engine.Ends.bind (Q := fun _ _ => True) trivial
      (fun saved m' _ => not_refusesAttribute_ok saved) fun f _ _ => not_refusesAttribute_failure f

/-- Two lists of rules in a row give the reports of both in one. Merging is associative on reports,
with the empty report as neutral element. If every rule has an answer, the report is valid exactly
if no rule is broken, and otherwise its first failure is the first broken rule. Persons and
organisations are refused by that rule before the store is asked anything. A path that leads into a
scalar finds nothing there; no rule of the registry has one. -/
theorem field_rules_reported_in_order :
    (∀ candidate rules rules', validateFields candidate (rules ++ rules') = (do
      let r ← validateFields candidate rules
      let r' ← validateFields candidate rules'
      pure (r.merge r'))) ∧
    (∀ r s t : Report, (r.merge s).merge t = r.merge (s.merge t) ∧
      Report.success.merge r = r ∧ r.merge .success = r) ∧
    (∀ (candidate : Value) (rules : List FieldRule),
      (∀ f ∈ rules, ∃ met, f.check (candidate.resolve f.path) = .ok met) →
      ∃ report, validateFields candidate rules = .ok report ∧
        (report.isValid = true ↔
          ∀ f ∈ rules, f.check (candidate.resolve f.path) = .ok true) ∧
        report.first? = (rules.find? (·.fails candidate)).map fun f =>
          (f.path, f.constraintName)) ∧
    (∀ p, Creation.RefusesByFields personFieldRules Persons.create p) ∧
    ∀ o, Creation.RefusesByFields organisationFieldRules Organisations.create o := by
  refine ⟨validateFields_append, fun r s t => ?_, fun candidate rules answered => ?_,
    Persons.refusesByFields_create, Organisations.refusesByFields_create⟩
  · exact ⟨Report.merge_assoc r s t, Report.success_merge r, Report.merge_success r⟩
  · obtain ⟨report, made, -, valid⟩ := Report.exists_of answered Report.named_success
    refine ⟨report, made, ?_, first?_validateFields made⟩
    rw [valid]
    exact and_iff_right rfl

/-- A person without a first name and with a blank in front of the family name. -/
def Person.unnamed : Person := { Person.blank with familyName := some " Meier" }

/-- Of the rules that the person breaks, the missing first name comes first. -/
theorem Person.first_broken_unnamed :
    personFieldRules.find? (·.fails (Entity.toValue unnamed)) = some (.of "vorname" .required) := by
  refine List.find?_cons_of_pos (FieldRule.fails_iff.mpr ?_)
  rw [show (FieldRule.of "vorname" .required).path = "vorname" from rfl, resolve_firstName]
  rfl

/-- The missing first name is refused, and the blank is not mentioned. -/
theorem field_rules_reported_in_order_unnamed :
    (∃ report, validateFields (Entity.toValue Person.unnamed) personFieldRules = .ok report ∧
      report.first? = some ("vorname", "required")) ∧
    Persons.create Person.unnamed =
      pure (.error (.invalidAttribute "Person" "vorname" "required" none)) := by
  obtain ⟨-, -, reported, persons, -⟩ := field_rules_reported_in_order
  obtain ⟨report, made, -, first⟩ :=
    reported (Entity.toValue Person.unnamed) personFieldRules
      (Person.answered_fieldRules Person.unnamed)
  rw [Person.first_broken_unnamed] at first
  exact ⟨⟨report, made, first⟩, (persons Person.unnamed).broken _ Person.first_broken_unnamed⟩

end SchoolRegistry
