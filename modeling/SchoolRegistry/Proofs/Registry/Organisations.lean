import SchoolRegistry.Proofs.Registry.Deeds
import SchoolRegistry.Proofs.Registry.Replaced
import SchoolRegistry.Proofs.Validation.FieldRules

/-!
# Stored organisations

The rules for organisations are checked when one is created, and nothing changes it afterwards.
`organisations_wellRuled` says that they hold of all stored organisations at any time, then: after
any creations, whichever calls failed meanwhile. A creation either leaves the shelf alone or adds
an organisation that was admitted (`Organisations.ends_create`), and one that is admitted disturbs
nothing that held of the others (`Organisation.WellRuled.append`).

The organisations are new: they come without an identifier, and the store issues no identifier
twice. An organisation that brings its own identifier may replace a school whose classes stay
behind, so that nothing of the kind holds.
-/

namespace SchoolRegistry

namespace Organisation

variable {o o' : Organisation} {stored : List Organisation}

/-! ## Fields -/

theorem resolve_identifier (o : Organisation) :
    (Entity.toValue o).resolve "kennung" = .ofText? o.identifier :=
  (Value.resolve_single (by decide) _).trans (Codec.write_text? o.identifier)

theorem resolve_name (o : Organisation) :
    (Entity.toValue o).resolve "name" = .ofText? o.name :=
  (Value.resolve_single (by decide) _).trans (Codec.write_text? o.name)

theorem resolve_nameAddition (o : Organisation) :
    (Entity.toValue o).resolve "namensergaenzung" = .ofText? o.nameAddition :=
  (Value.resolve_single (by decide) _).trans (Codec.write_text? o.nameAddition)

theorem resolve_shortName (o : Organisation) :
    (Entity.toValue o).resolve "kuerzel" = .ofText? o.shortName :=
  (Value.resolve_single (by decide) _).trans (Codec.write_text? o.shortName)

theorem resolve_administeredBy (o : Organisation) :
    (Entity.toValue o).resolve "administriert_von" = .ofText? o.administeredBy :=
  (Value.resolve_single (by decide) _).trans (Codec.write_text? o.administeredBy)

theorem resolve_kind (o : Organisation) :
    (Entity.toValue o).resolve "typ" = (Codec.term? OrganisationKind).write o.kind :=
  Value.resolve_single (by decide) _

open FieldRule (answered_atMost answered_of) in
/-- Every field rule for organisations has an answer. -/
theorem answered_fieldRules (o : Organisation) : ∀ f ∈ organisationFieldRules,
    ∃ yes, f.check ((Entity.toValue o).resolve f.path) = .ok yes := by
  simp only [organisationFieldRules, List.forall_mem_cons]
  exact ⟨answered_atMost (resolve_identifier o), answered_of (by decide) (resolve_identifier o),
    answered_atMost (resolve_name o), answered_of (by decide) (resolve_name o),
    answered_atMost (resolve_nameAddition o), answered_atMost (resolve_shortName o),
    List.forall_mem_nil _⟩

/-- A text of limited length that neither starts nor ends with a blank. -/
structure IsTidy (most : Nat) (s : String) : Prop where
  short : s.length ≤ most
  front : ∀ c ∈ s.toList.head?, Text.isBlank c = false
  back : ∀ c ∈ s.toList.getLast?, Text.isBlank c = false

/-- What the field rules demand of identifier and name. -/
theorem tidy_of_fieldRules (met : ∀ f ∈ organisationFieldRules,
      f.check ((Entity.toValue o).resolve f.path) = .ok true) :
    (∀ s, o.identifier = some s → IsTidy 64 s) ∧ ∀ s, o.name = some s → IsTidy 255 s := by
  simp only [organisationFieldRules, List.forall_mem_cons] at met
  obtain ⟨short, trimmed, shortName, trimmedName, -⟩ := met
  have paths (c : Constraint) (path : String) : (FieldRule.of path c).path = path := rfl
  have lengths (n : Nat) (path : String) : (FieldRule.atMost path n).path = path := rfl
  rw [lengths, resolve_identifier, FieldRule.check_atMost] at short
  rw [paths, resolve_identifier, FieldRule.check_trimmed] at trimmed
  rw [lengths, resolve_name, FieldRule.check_atMost] at shortName
  rw [paths, resolve_name, FieldRule.check_trimmed] at trimmedName
  constructor
  · intro s hs
    rw [hs] at short trimmed
    obtain ⟨front, back⟩ := (Text.isTrimmed_iff s).mp (Except.ok.inj trimmed)
    exact ⟨of_decide_eq_true (Except.ok.inj short), front, back⟩
  · intro s hs
    rw [hs] at shortName trimmedName
    obtain ⟨front, back⟩ := (Text.isTrimmed_iff s).mp (Except.ok.inj trimmedName)
    exact ⟨of_decide_eq_true (Except.ok.inj shortName), front, back⟩

/-- What the rules about the organisation alone demand of one of the kind. -/
theorem given_of_kind {kind : OrganisationKind} {s : Option String}
    (met : (o.kind != some kind || Presence.isGiven s) = true) (here : o.kind = some kind) :
    ∃ t, s = some t ∧ t ≠ "" := by
  rw [here, bne_self_eq_false, Bool.false_or] at met
  cases s with
  | none => cases met
  | some t => exact ⟨t, rfl, bne_iff_ne.mp met⟩

/-! ## The rules as conditions on stored organisations -/

/-- What the rules demand of an organisation, given the stored ones. -/
structure Admitted (stored : List Organisation) (o : Organisation) : Prop where
  /-- A school has an identifier. -/
  identified : o.kind = some .school → ∃ s, o.identifier = some s ∧ s ≠ "" ∧ IsTidy 64 s
  /-- A class has a name. -/
  named : o.kind = some .schoolClass → ∃ s, o.name = some s ∧ s ≠ "" ∧ IsTidy 255 s
  /-- A class is administered by a stored school. -/
  administered : o.kind = some .schoolClass → ∃ school ∈ stored, ∃ id,
    school.kind = some .school ∧ school.id = some id ∧ o.administeredBy = some id

/-- Two classes with the same name and the same school. -/
def Clashes (o o' : Organisation) : Prop :=
  o.kind = some .schoolClass ∧ o'.kind = some .schoolClass ∧
    o.administeredBy = o'.administeredBy ∧ o.name = o'.name

/-- The rules hold of the stored organisations. -/
structure WellRuled (stored : List Organisation) : Prop where
  admitted : ∀ o ∈ stored, o.Admitted stored
  apart : stored.Pairwise fun o o' => ¬o.Clashes o'

/-- What some organisations admit, more of them admit. -/
theorem Admitted.mono {more : List Organisation} (h : o.Admitted stored) (sub : stored ⊆ more) :
    o.Admitted more := by
  refine ⟨h.identified, h.named, fun class' => ?_⟩
  obtain ⟨school, hs, rest⟩ := h.administered class'
  exact ⟨school, sub hs, rest⟩

/-- An organisation that is admitted and clashes with none can be added. -/
theorem WellRuled.append (h : WellRuled stored) (admitted : o.Admitted stored)
    (apart : ∀ x ∈ stored, ¬x.Clashes o) : WellRuled (stored ++ [o]) := by
  have sub : stored ⊆ stored ++ [o] := List.subset_append_left _ _
  constructor
  · intro x hx
    rcases List.mem_append.mp hx with hx | hx
    · exact (h.admitted x hx).mono sub
    · cases List.mem_singleton.mp hx
      exact admitted.mono sub
  · refine List.pairwise_append.mpr ⟨h.apart, List.pairwise_singleton _ _, fun x hx y hy => ?_⟩
    cases List.mem_singleton.mp hy
    exact apart x hx

/-- What is checked of an organisation one by one amounts to admission. -/
theorem admitted_of {o : Organisation} {stored : List Organisation}
    (met : ∀ f ∈ organisationFieldRules, f.check ((Entity.toValue o).resolve f.path) = .ok true)
    (identified : o.kind = some .school → ∃ s, o.identifier = some s ∧ s ≠ "")
    (named : o.kind = some .schoolClass → ∃ s, o.name = some s ∧ s ≠ "")
    (administered : o.kind = some .schoolClass → ∃ school ∈ stored, ∃ id,
      school.kind = some .school ∧ school.id = some id ∧ o.administeredBy = some id) :
    o.Admitted stored := by
  obtain ⟨tidyIdentifier, tidyName⟩ := tidy_of_fieldRules met
  refine ⟨fun school => ?_, fun isAClass => ?_, administered⟩
  · obtain ⟨s, its, given⟩ := identified school
    exact ⟨s, its, given, tidyIdentifier s its⟩
  · obtain ⟨s, its, given⟩ := named isAClass
    exact ⟨s, its, given, tidyName s its⟩

end Organisation

/-! ## Checking the rules -/

/-- The query for the classes of a name finds every one of them. -/
theorem Organisation.Clashes.holds {o y : Organisation} (clash : y.Clashes o)
    {parent name : String} (administered : o.administeredBy = some parent)
    (named : o.name = some name) :
    (OrganisationRules.sameNameQuery parent name).holds (Entity.toValue y) = true := by
  obtain ⟨kind, -, sameParent, sameName⟩ := clash
  change ((((Entity.toValue y).resolve "typ").same
      (.choice (.organisationKind .schoolClass))) &&
    (((Entity.toValue y).resolve "administriert_von").same (.text parent) &&
      (((Entity.toValue y).resolve "name").same (.text name) && true)) && true) = true
  rw [resolve_kind, resolve_administeredBy, resolve_name, Value.same_ofText?, Value.same_ofText?,
    kind, sameParent, sameName, administered, named]
  have same (kind : OrganisationKind) : ((Codec.term? OrganisationKind).write (some kind)).same
      (.choice (.organisationKind kind)) = true := by
    change (Value.choice (.organisationKind kind)).same (.choice (.organisationKind kind)) = true
    simp [Value.same, Value.scalar?, Scalar.same, Scalar.compare?]
  simp only [same, BEq.rfl, Bool.and_true]

/-- The query misses no class of the name. -/
theorem Organisation.Clashes.mem_found {o y : Organisation} {stored : List Organisation}
    (clash : y.Clashes o) {parent name : String} (administered : o.administeredBy = some parent)
    (named : o.name = some name) (hy : y ∈ stored) {found : Counted Organisation}
    (evaluated : (OrganisationRules.sameNameQuery parent name).evaluate Entity.toValue stored =
      .ok found) : y ∈ found.items := by
  rw [Query.evaluate_unsorted rfl] at evaluated
  cases evaluated
  rw [show (OrganisationRules.sameNameQuery parent name).offset = none from rfl,
    show (OrganisationRules.sameNameQuery parent name).limit = none from rfl, Query.window_none]
  exact List.mem_filter.mpr ⟨hy, clash.holds administered named⟩

namespace OrganisationRules

open Organisation (Clashes)

/-- An organisation is a class if its kind says so. -/
theorem isClass_iff {o : Organisation} : isClass o = true ↔ o.kind = some .schoolClass := by
  simp [isClass]

/-- What the rule lets pass goes on, what it does not let pass is refused. -/
theorem ends_rule {σ : Type} {e : Engine σ} {m : σ} {label name : String}
    {check : Organisation → Service Bool} {rest : List (Rule Service Organisation)}
    {o : Organisation} {next : Service (Outcome Organisation)}
    {Q : Except Failure (Outcome Organisation) → σ → Prop} {R : Except Failure Bool → σ → Prop}
    (h : e.Ends (check o) m R)
    (yes : ∀ m', R (.ok true) m' → e.Ends (Creation.checkRules rest o next) m' Q)
    (no : ∀ m', R (.ok false) m' → Q (.ok (.error
      (.ruleViolated name (Entity.name Organisation) (Candidate.id? o) []))) m')
    (failed : ∀ f m', R (.error f) m' → Q (.error f) m') :
    e.Ends (Creation.checkRules (rule label name check :: rest) o next) m Q := by
  have judged : e.Ends ((rule label name check).judge o) m fun x m' =>
      ∃ y, R y m' ∧ x = y.map Value.flag :=
    Engine.Ends.bind h (fun b m' hb => Engine.ends_pure.mpr ⟨.ok b, hb, rfl⟩)
      fun f m' hf => ⟨.error f, hf, rfl⟩
  refine Creation.Ends.checkRules_cons judged ?_ ?_
  · rintro v m' ⟨_ | b, hb, same⟩
    · cases same
    · cases same
      cases b with
      | true => exact yes m' hb
      | false => exact no m' hb
  · rintro f m' ⟨_ | b, hb, same⟩
    · cases same
      exact failed f m' hb
    · cases same

variable {supply : Supply} {m : Monitored Memory} (faults : m.Faulty)
include faults

/-- A class that passes is administered by a stored school. -/
theorem ends_administeredBySchool (o : Organisation) :
    (Memory.monitored supply).Ends (administeredBySchool o) m fun x m' =>
      m'.Faulty ∧ m'.store = m.store ∧ (x = .ok true → o.kind = some .schoolClass →
        ∃ school ∈ m.store.shelves .organisations, ∃ id,
          school.kind = some .school ∧ school.id = some id ∧ o.administeredBy = some id) := by
  unfold administeredBySchool
  by_cases isAClass : isClass o
  · rw [if_pos isAClass]
    cases parent : o.administeredBy with
    | none => exact Engine.ends_pure.mpr ⟨faults, rfl, nofun⟩
    | some id =>
      refine (Memory.ends_get faults id).bind ?_ ?_
      · rintro found m' ⟨made, store, answered | ⟨f, ⟨⟩, -⟩⟩
        refine Engine.ends_pure.mpr ⟨made.faulty faults, store, fun passed _ => ?_⟩
        cases its : Memory.find? id (m.store.shelves .organisations) with
        | none =>
          cases answered
          rw [its] at passed
          cases passed
        | some school =>
          cases answered
          rw [its] at passed
          exact ⟨school, List.mem_of_find?_eq_some its, id, by simpa using Except.ok.inj passed,
            Memory.hasId_iff.mp (List.find?_some its), rfl⟩
      · exact fun f m' ⟨made, store, _⟩ => ⟨made.faulty faults, store, nofun⟩
  · rw [if_neg isAClass]
    refine Engine.ends_pure.mpr ⟨faults, rfl, fun _ kind => ?_⟩
    exact absurd (isClass_iff.mpr kind) isAClass

/-- A new class that passes clashes with no stored one. -/
theorem ends_nameUniqueAtSchool {o : Organisation} (new : o.id = none)
    (administered : o.kind = some .schoolClass → ∃ parent, o.administeredBy = some parent)
    (named : o.kind = some .schoolClass → ∃ name, o.name = some name) :
    (Memory.monitored supply).Ends (nameUniqueAtSchool o) m fun x m' =>
      m'.Faulty ∧ m'.store = m.store ∧ (x = .ok true →
        ∀ y ∈ m.store.shelves .organisations, y.id ≠ none → ¬y.Clashes o) := by
  unfold nameUniqueAtSchool
  by_cases isAClass : isClass o
  · have kind := isClass_iff.mp isAClass
    obtain ⟨parent, administered⟩ := administered kind
    obtain ⟨name, named⟩ := named kind
    rw [if_pos isAClass, administered, named]
    refine (Memory.ends_query faults (sameNameQuery parent name)).bind ?_ ?_
    · rintro found m' ⟨made, store, answered | ⟨f, ⟨⟩, -⟩⟩
      refine Engine.ends_pure.mpr ⟨made.faulty faults, store, fun passed y hy its clash => ?_⟩
      have mem := clash.mem_found administered named hy answered.symm
      have none := List.all_eq_true.mp (Except.ok.inj passed) y mem
      exact its (by simpa [new] using none)
    · exact fun f m' ⟨made, store, _⟩ => ⟨made.faulty faults, store, nofun⟩
  · rw [if_neg isAClass]
    refine Engine.ends_pure.mpr ⟨faults, rfl, fun _ y _ _ clash => ?_⟩
    exact absurd (isClass_iff.mpr clash.2.1) isAClass

end OrganisationRules

namespace Organisations

open Organisation

variable {supply : Supply}

/-- Storing an organisation saves it or leaves the store alone. -/
theorem ends_store {m : Monitored Memory} (faults : m.Faulty) (o : Organisation) :
    (Memory.monitored supply).Ends (store o) m fun _ m' =>
      m'.store = m.store ∨ m'.store = (m.store.save supply .organisations o).2 := by
  refine (Memory.ends_save (c := .organisations) faults o).bind ?_ ?_
  · rintro saved m' ⟨-, ⟨-, stored⟩ | ⟨-, -, kept, -⟩⟩
    · exact .inr stored
    · exact .inl kept
  · rintro f m' ⟨-, ⟨⟨⟩, -⟩ | ⟨-, -, kept, -⟩⟩
    exact .inl kept

/-- A creation leaves the store alone, or it stores an organisation that was admitted. -/
theorem ends_create {m : Monitored Memory} (faults : m.Faulty) {o : Organisation}
    (new : o.id = none) :
    (Memory.monitored supply).Ends (create o) m fun _ m' => m'.store = m.store ∨
      (o.Admitted (m.store.shelves .organisations) ∧
        (∀ y ∈ m.store.shelves .organisations, y.id ≠ none → ¬y.Clashes o) ∧
        m'.store = (m.store.save supply .organisations o).2) := by
  unfold create
  rcases Creation.checkFields_cases (answered_fieldRules o) _ with
    ⟨next, met⟩ | ⟨path, constraint, refused⟩
  · rw [next]
    refine Creation.Ends.orNotCreated ?_ fun _ _ h => h
    unfold OrganisationRules.all
    -- The first two rules look at the organisation alone.
    refine (Creation.ends_checkRules_cons (Presence.judge_identifierRequiredForSchool o)).mpr ?_
    by_cases identified : o.kind != some .school || Presence.isGiven o.identifier
    · refine if_pos identified ▸ ?_
      refine (Creation.ends_checkRules_cons (Presence.judge_nameRequiredForClass o)).mpr ?_
      by_cases named : o.kind != some .schoolClass || Presence.isGiven o.name
      · refine if_pos named ▸ ?_
        have identified := fun school => given_of_kind identified school
        have named := fun isAClass => given_of_kind named isAClass
        refine OrganisationRules.ends_rule
          (OrganisationRules.ends_administeredBySchool faults o) ?_ ?_ ?_
        · rintro m₁ ⟨faults₁, store₁, administered⟩
          have administered := administered rfl
          refine OrganisationRules.ends_rule (OrganisationRules.ends_nameUniqueAtSchool faults₁ new
            (fun isAClass => ?_) fun isAClass => (named isAClass).imp fun _ h => h.1) ?_ ?_ ?_
          · obtain ⟨_, _, id, -, -, parent⟩ := administered isAClass
            exact ⟨id, parent⟩
          · rintro m₂ ⟨faults₂, store₂, unique⟩
            have admitted := admitted_of met identified named administered
            refine Creation.ends_checkRules_nil.mpr ((ends_store faults₂ o).imp fun _ m' h => ?_)
            rw [store₂, store₁] at h
            exact h.imp_right fun saved => ⟨admitted, store₁ ▸ unique rfl, saved⟩
          · exact fun m₂ h => .inl (h.2.1.trans store₁)
          · exact fun f m₂ h => .inl (h.2.1.trans store₁)
        · exact fun m₁ h => .inl h.2.1
        · exact fun f m₁ h => .inl h.2.1
      · exact if_neg named ▸ .inl rfl
    · exact if_neg identified ▸ .inl rfl
  · rw [refused]
    exact Engine.ends_pure.mpr (.inl rfl)

end Organisations

/-! ## All creations -/

/-- What every creation keeps. -/
structure Organisation.Kept (supply : Supply) (m : Memory) : Prop where
  fresh : m.Fresh supply .organisations
  known : ∀ o ∈ m.shelves .organisations, o.id ≠ none
  wellRuled : WellRuled (m.shelves .organisations)

/-- Storing an organisation that was admitted keeps it. -/
theorem Organisation.Kept.save {supply : Supply} {m : Memory} (h : Kept supply m)
    {o : Organisation} (new : o.id = none) (admitted : o.Admitted (m.shelves .organisations))
    (apart : ∀ y ∈ m.shelves .organisations, y.id ≠ none → ¬y.Clashes o) :
    Kept supply (m.save supply .organisations o).2 := by
  obtain ⟨shelf, issued, -, fresh⟩ := Memory.Fresh.save (c := .organisations) h.fresh new
  have ruled : WellRuled
      (m.shelves .organisations ++ [Memory.storedAs supply .organisations o m]) := by
    -- Storing changes the header only, and no rule looks at that.
    refine h.wellRuled.append ?_ fun y hy => apart y hy (h.known y hy)
    exact ⟨admitted.identified, admitted.named, admitted.administered⟩
  refine ⟨fresh, ?_, shelf ▸ ruled⟩
  intro y hy
  rw [shelf] at hy
  rcases List.mem_append.mp hy with hy | hy
  · exact h.known y hy
  · cases List.mem_singleton.mp hy
    intro missing
    cases missing.symm.trans issued

/-- A history that only creates new organisations, and in which calls may fail. -/
def Deed.CreatesOrganisation (d : Deed) : Prop :=
  (∃ o : Organisation, d.operation = .createOrganisation o ∧ o.id = none) ∧
    ∀ x ∈ d.disturbances, x.IsFault

/-- The rules for organisations are invariants of creation: whatever new organisations are created
one after the other in an empty store that issues no identifier twice, and whichever calls fail
meanwhile, the rules hold of all that are stored. -/
theorem organisations_wellRuled (supply : Supply) (enlisted : List Collection)
    (once : Function.Injective (supply.id .organisations)) (ds : List Deed)
    (creations : ∀ d ∈ ds, d.CreatesOrganisation) :
    Organisation.WellRuled
      ((Memory.afterDeeds supply (Memory.empty enlisted) ds).shelves .organisations) := by
  have start : Organisation.Kept supply (Memory.empty enlisted) :=
    ⟨⟨fun _ _ _ h => absurd h List.not_mem_nil, fun _ _ _ _ same => once same⟩,
      fun _ h => absurd h List.not_mem_nil,
      ⟨fun _ h => absurd h List.not_mem_nil, List.Pairwise.nil⟩⟩
  refine (Memory.afterDeeds_keeps ?_ start).wellRuled
  intro m d hd kept
  obtain ⟨⟨o, operation, new⟩, faults⟩ := creations d hd
  have ends : (Memory.monitored supply).Ends (Organisations.create o) (.under d.disturbances m)
      fun _ m' => Organisation.Kept supply m'.store := by
    refine (Organisations.ends_create (m := .under d.disturbances m) faults new).imp ?_
    rintro _ m' (same | ⟨admitted, apart, saved⟩)
    · rw [same]
      exact kept
    · rw [saved]
      exact kept.save new admitted apart
  rw [Memory.afterDeed, operation]
  exact ends

/-- A school whose first creation is cut off, a class of it, and two that are refused: the class
once more, and a class of nothing. -/
def schoolWithClass : List Deed :=
  let school := { Organisation.blank with kind := some .school, identifier := some "S-1" }
  let schoolClass := { Organisation.blank with kind := some .schoolClass, name := some "1a" }
  let created (o : Organisation) (disturbances : List Disturbance) : Deed :=
    ⟨⟨none, false⟩, .createOrganisation o, disturbances⟩
  [created school [⟨.organisations, .save, .failure (.storage (.reported .store "db down")), 0, 1⟩],
    created school [], created { schoolClass with administeredBy := some "org-1" } [],
    created { schoolClass with administeredBy := some "org-1" } [], created schoolClass []]

/-- A school and then a class that it administers are created, and the rules hold of both. -/
theorem organisations_wellRuled_schoolWithClass :
    (((Memory.empty []).afterDeeds (.counting Supply.usualStart)
        schoolWithClass).shelves .organisations).map
          (fun o : Organisation => (o.id, o.identifier, o.name, o.administeredBy)) =
      [(some "org-1", some "S-1", none, none), (some "org-2", none, some "1a", some "org-1")] ∧
    Organisation.WellRuled (((Memory.empty []).afterDeeds (.counting Supply.usualStart)
      schoolWithClass).shelves .organisations) := by
  have creations : ∀ d ∈ schoolWithClass, d.CreatesOrganisation := by
    simp [schoolWithClass, Deed.CreatesOrganisation, Disturbance.IsFault, Organisation.blank,
      Header.blank]
  exact ⟨by decide +kernel, organisations_wellRuled (.counting Supply.usualStart) []
    (fun _ _ => Supply.counting_id_injective) schoolWithClass creations⟩

end SchoolRegistry
