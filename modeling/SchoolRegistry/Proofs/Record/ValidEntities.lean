import SchoolRegistry.Entity.School
import SchoolRegistry.Proofs.Record.SeparateFields
import SchoolRegistry.Store.Collection

/-!
# Entities between validation and the first save

A client builds an entity from data and assigns to its attributes, and some assignments fail
(`Model.attempts`). All that time the entity is as validation leaves it (`Entity.IsValid`): never
saved, with stamps that name instants, and read again from what it shows. An assignment that fails
leaves the entity as it was, whatever the attribute: a field, a derived attribute or none at all.

This holds of every kind of entity whose fields are apart, and all kinds are like this.

Nothing is said about entities that come from a store: their versions count the saves, and reading
what they show begins a new count.
-/

namespace SchoolRegistry

/-! ## Assignments that may fail -/

namespace Model

variable {σ : Type} (m : Model σ)

/-- An assignment to an attribute: the instance after it, and whether it failed. -/
def attempt (name : String) (v : Value) (s : σ) : σ × Except Failure Unit :=
  m.assignAll [(name, v)] s

/-- The instance after assignments in their order; one that fails does not keep the next from being
made. -/
def attempts : Fields → σ → σ
  | [], s => s
  | (name, v) :: rest, s => attempts rest (m.attempt name v s).1

variable {m} {name : String} {v : Value} {s : σ}

/-- An assignment that succeeds leads to the instance that it makes. -/
theorem attempt_of_ok {t : σ} (assigned : m.assign name v s = .ok t) :
    m.attempt name v s = (t, .ok ()) := by
  simp only [attempt, assignAll, assigned]

/-- An assignment that fails leads nowhere. -/
theorem attempt_of_error {failure : Failure} (failed : m.assign name v s = .error failure) :
    m.attempt name v s = (s, .error failure) := by
  simp only [attempt, assignAll, failed]

/-- An attempt that reports a failure has left the instance alone. -/
theorem attempt_of_failed {failure : Failure} (failed : (m.attempt name v s).2 = .error failure) :
    (m.attempt name v s).1 = s := by
  cases assigned : m.assign name v s with
  | ok t =>
    rw [attempt_of_ok assigned] at failed
    cases failed
  | error failure' => rw [attempt_of_error assigned]

end Model

/-! ## Valid entities -/

namespace Entity

variable {σ : Type} [Entity σ] {s : σ}

/-- The entity is as validation leaves it. -/
structure IsValid (s : σ) : Prop where
  version_eq : version s = 0
  /-- The stamps are missing or name instants. -/
  stamped : ∀ name ∈ ["created_at", "updated_at"], ∃ shown,
    ((model : Model σ).fieldValues s).lookup name = some shown ∧
      (shown = .null ∨ ∃ stamp, shown = .moment (.fixed stamp))
  /-- What the entity shows is read as the entity. -/
  parse_eq : (model : Model σ).parse ((model : Model σ).fieldValues s) = .ok s

/-- A stamp is shown as nothing or as a moment with an offset. -/
theorem write_stamp? (stamp : Option Stamp) : Codec.stamp?.write stamp = .null ∨
    ∃ s, Codec.stamp?.write stamp = .moment (.fixed s) := by
  cases stamp with
  | none => exact .inl rfl
  | some s => exact .inr ⟨s, rfl⟩

namespace Fieldwise

variable (laws : Fieldwise σ)

include laws

/-- The stamps of the header are shown under their names. -/
theorem lookup_stamps (s : σ) :
    ((model : Model σ).fieldValues s).lookup "created_at" =
        some (Codec.stamp?.write (header s).createdAt) ∧
      ((model : Model σ).fieldValues s).lookup "updated_at" =
        some (Codec.stamp?.write (header s).updatedAt) := by
  obtain ⟨own, split⟩ := laws.header_fields
  rw [Shape.fieldValues, split]
  exact ⟨rfl, rfl⟩

/-- An entity that was never saved is as validation leaves it. -/
theorem isValid_of_unsaved (unsaved : version s = 0) : IsValid s := by
  refine ⟨unsaved, ?_, laws.parse_fieldValues unsaved⟩
  obtain ⟨created, changed⟩ := laws.lookup_stamps s
  simp only [List.forall_mem_cons]
  exact ⟨⟨_, created, write_stamp? _⟩, ⟨_, changed, write_stamp? _⟩, nofun⟩

/-- No assignment saves the entity. -/
theorem version_attempt (unsaved : version s = 0) (name : String) (v : Value) :
    version ((model : Model σ).attempt name v s).1 = 0 := by
  cases assigned : (model : Model σ).assign name v s with
  | error failure => rw [Model.attempt_of_error assigned, unsaved]
  | ok t =>
    rw [Model.attempt_of_ok assigned]
    exact laws.version_of_parse ((laws.assign_eq_ok_iff unsaved).mp assigned).2

/-- No assignments save the entity. -/
theorem version_attempts (unsaved : version s = 0) (changes : Fields) :
    version ((model : Model σ).attempts changes s) = 0 := by
  induction changes generalizing s with
  | nil => exact unsaved
  | cons change changes ih => exact ih (laws.version_attempt unsaved change.1 change.2)

/-- An attempt succeeds exactly for a field that takes the value, and makes what is read. -/
theorem attempt_succeeds_iff (unsaved : version s = 0) (name : String) (v : Value) :
    ((model : Model σ).attempt name v s).2 = .ok () ↔ name ∈ (model : Model σ).names ∧
      (model : Model σ).parse (((model : Model σ).fieldValues s).insert name v) =
        .ok ((model : Model σ).attempt name v s).1 := by
  rw [← laws.assign_eq_ok_iff unsaved]
  cases assigned : (model : Model σ).assign name v s with
  | error failure => simp [Model.attempt_of_error assigned]
  | ok t => simp [Model.attempt_of_ok assigned]

end Fieldwise

end Entity

/-!
## The kinds of entities

The first three fields of every kind are those of the header.
-/

attribute [ext] Organisation Person Role Assignment School

/-- Organisations are their fields. -/
theorem Organisation.fieldwise : Entity.Fieldwise Organisation where
  separate := by
    refine List.forall_iff_forall_mem.mp ⟨?_, ?_, ?_, ?_, ?_, ?_, ?_, ?_, ?_, ?_⟩
    iterate 3 exact Field.isPlace_of.within.isSeparate fun _ _ => rfl
    all_goals exact Field.isPlace_of.isSeparate fun _ _ => rfl
  eq_of_get s t version same := by
    obtain ⟨id, created, changed, identifier, name, addition, short, kind, administered, belongs⟩ :=
      List.forall_iff_forall_mem.mpr same
    exact Organisation.ext (Field.isPlace_of.within.eq_of_get id)
      (Field.isPlace_of.within.eq_of_get created) (Field.isPlace_of.within.eq_of_get changed)
      version (Field.isPlace_of.eq_of_get identifier) (Field.isPlace_of.eq_of_get name)
      (Field.isPlace_of.eq_of_get addition) (Field.isPlace_of.eq_of_get short)
      (Field.isPlace_of.eq_of_get kind) (Field.isPlace_of.eq_of_get administered)
      (Field.isPlace_of.eq_of_get belongs)
  header_fields := ⟨_, rfl⟩

/-- Persons are their fields. -/
theorem Person.fieldwise : Entity.Fieldwise Person where
  separate := by
    refine List.forall_iff_forall_mem.mp ⟨?_, ?_, ?_, ?_, ?_, ?_, ?_, ?_⟩
    iterate 3 exact Field.isPlace_of.within.isSeparate fun _ _ => rfl
    all_goals exact Field.isPlace_of.isSeparate fun _ _ => rfl
  eq_of_get s t version same := by
    obtain ⟨id, created, changed, referrer, first, family, birth, blocked⟩ :=
      List.forall_iff_forall_mem.mpr same
    exact Person.ext (Field.isPlace_of.within.eq_of_get id)
      (Field.isPlace_of.within.eq_of_get created) (Field.isPlace_of.within.eq_of_get changed)
      version (Field.isPlace_of.eq_of_get referrer) (Field.isPlace_of.eq_of_get first)
      (Field.isPlace_of.eq_of_get family) (Field.isPlace_of.eq_of_get birth)
      (Field.isPlace_of.eq_of_get blocked)
  header_fields := ⟨_, rfl⟩

/-- Roles are their fields. -/
theorem Role.fieldwise : Entity.Fieldwise Role where
  separate := by
    refine List.forall_iff_forall_mem.mp ⟨?_, ?_, ?_, ?_, ?_, ?_, ?_, ?_⟩
    iterate 3 exact Field.isPlace_of.within.isSeparate fun _ _ => rfl
    all_goals exact Field.isPlace_of.isSeparate fun _ _ => rfl
  eq_of_get s t version same := by
    obtain ⟨id, created, changed, name, administered, kind, marks, rights⟩ :=
      List.forall_iff_forall_mem.mpr same
    exact Role.ext (Field.isPlace_of.within.eq_of_get id)
      (Field.isPlace_of.within.eq_of_get created) (Field.isPlace_of.within.eq_of_get changed)
      version (Field.isPlace_of.eq_of_get name) (Field.isPlace_of.eq_of_get administered)
      (Field.isPlace_of.eq_of_get kind) (Field.isPlace_of.eq_of_get marks)
      (Field.isPlace_of.eq_of_get rights)
  header_fields := ⟨_, rfl⟩

/-- Assignments are their fields, of which the key is none. -/
theorem Assignment.fieldwise : Entity.Fieldwise Assignment where
  separate := by
    refine List.forall_iff_forall_mem.mp ⟨?_, ?_, ?_, ?_, ?_, ?_⟩
    iterate 3 exact Field.isPlace_of.within.isSeparate fun _ _ => rfl
    all_goals exact Field.isPlace_of.isSeparate fun _ _ => rfl
  eq_of_get s t version same := by
    obtain ⟨id, created, changed, person, organisation, role⟩ := List.forall_iff_forall_mem.mpr same
    exact Assignment.ext (Field.isPlace_of.within.eq_of_get id)
      (Field.isPlace_of.within.eq_of_get created) (Field.isPlace_of.within.eq_of_get changed)
      version (Field.isPlace_of.eq_of_get person) (Field.isPlace_of.eq_of_get organisation)
      (Field.isPlace_of.eq_of_get role)
  header_fields := ⟨_, rfl⟩

/-- Schools are their fields. -/
theorem School.fieldwise : Entity.Fieldwise School where
  separate := by
    refine List.forall_iff_forall_mem.mp ⟨?_, ?_, ?_, ?_, ?_, ?_⟩
    iterate 3 exact Field.isPlace_of.within.isSeparate fun _ _ => rfl
    all_goals exact Field.isPlace_of.isSeparate fun _ _ => rfl
  eq_of_get s t version same := by
    obtain ⟨id, created, changed, identifier, name, kind⟩ := List.forall_iff_forall_mem.mpr same
    exact School.ext (Field.isPlace_of.within.eq_of_get id)
      (Field.isPlace_of.within.eq_of_get created) (Field.isPlace_of.within.eq_of_get changed)
      version (Field.isPlace_of.eq_of_get identifier) (Field.isPlace_of.eq_of_get name)
      (Field.isPlace_of.eq_of_get kind)
  header_fields := ⟨_, rfl⟩

/-! ## Valid all the time -/

/-- Whatever data are accepted and whatever is assigned to attributes after that, the entity is as
validation leaves it. The next assignment changes nothing if it fails; it succeeds exactly for a
field whose new value is read together with what the entity shows, and then makes what is read. -/
theorem accepted_entities_stay_valid :
    (∀ {σ : Type} [Entity σ] {data : Fields} {accepted : σ}, Entity.Fieldwise σ →
      (Entity.model : Model σ).parse data = .ok accepted →
      ∀ (changes : Fields) (s : σ), (Entity.model : Model σ).attempts changes accepted = s →
        Entity.IsValid s ∧ ∀ (name : String) (v : Value),
          (∀ failure, ((Entity.model : Model σ).attempt name v s).2 = .error failure →
            ((Entity.model : Model σ).attempt name v s).1 = s) ∧
          (((Entity.model : Model σ).attempt name v s).2 = .ok () ↔
            name ∈ (Entity.model : Model σ).names ∧
              (Entity.model : Model σ).parse
                  (((Entity.model : Model σ).fieldValues s).insert name v) =
                .ok ((Entity.model : Model σ).attempt name v s).1)) ∧
    Entity.Fieldwise Person ∧ Entity.Fieldwise Organisation ∧ Entity.Fieldwise School ∧
    Entity.Fieldwise Role ∧ Entity.Fieldwise Assignment := by
  refine ⟨?_, Person.fieldwise, Organisation.fieldwise, School.fieldwise, Role.fieldwise,
    Assignment.fieldwise⟩
  rintro σ _ data accepted laws read changes s rfl
  have unsaved := laws.version_attempts (laws.version_of_parse read) changes
  exact ⟨laws.isValid_of_unsaved unsaved, fun name v =>
    ⟨fun _ failed => Model.attempt_of_failed failed, laws.attempt_succeeds_iff unsaved name v⟩⟩

/-- A person whose creation is given without a zone, to whom an unreadable day of birth, a readable
one, a version and a nickname are assigned: the readable day alone is taken. -/
theorem accepted_person_stays_valid :
    ∃ accepted s : Person,
      (Entity.model : Model Person).parse
          [("vorname", .text "Max"), ("created_at", .text "2024-05-06T07:08:09")] =
        .ok accepted ∧
      (Entity.model : Model Person).attempts
          [("geburtsdatum", .text "kein-datum"), ("geburtsdatum", .text "2010-03-04"),
            ("version", .whole 7), ("spitzname", .text "Maxi")] accepted = s ∧
      s = { accepted with birthDate := Date.of? 2010 3 4 } ∧ Entity.IsValid s ∧
      ((Entity.model : Model Person).attempt "vorname" (.whole 1) s).1 = s := by
  let accepted : Person :=
    ⟨⟨none, some (.utc ⟨⟨2024, 5, 6, rfl⟩, ⟨7, 8, 9, 0, rfl⟩⟩), none, 0⟩,
      none, some "Max", none, none, false⟩
  let s : Person := { accepted with birthDate := Date.of? 2010 3 4 }
  have read : (Entity.model : Model Person).parse
      [("vorname", .text "Max"), ("created_at", .text "2024-05-06T07:08:09")] = .ok accepted := rfl
  have assigned : (Entity.model : Model Person).attempts
      [("geburtsdatum", .text "kein-datum"), ("geburtsdatum", .text "2010-03-04"),
        ("version", .whole 7), ("spitzname", .text "Maxi")] accepted = s := rfl
  obtain ⟨failure, failed⟩ :
      ∃ failure, ((Entity.model : Model Person).attempt "vorname" (.whole 1) s).2 =
        .error failure := ⟨_, rfl⟩
  obtain ⟨valid, next⟩ :=
    accepted_entities_stay_valid.1 Person.fieldwise read _ s assigned
  exact ⟨accepted, s, read, assigned, rfl, valid, (next "vorname" (.whole 1)).1 failure failed⟩

end SchoolRegistry
