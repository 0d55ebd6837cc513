import SchoolRegistry.Proofs.Relational.Refinement
import SchoolRegistry.Registry.Operation

/-!
# The queries of the services

Rules and creations look items up by identifier or by a query for plain fields whose window is
narrow (`Request.IsLookUp`). So do listings, as far as their criteria are values of the fields and
their windows are narrow (`Listing.isPlain_query`); everything else in these queries is fixed.
-/

namespace SchoolRegistry

open Query (isPlain_all)

/-- A look-up by identifier or by a plain query with a narrow window. -/
def Request.IsLookUp : Request → Prop
  | get .. => True
  | query c q => q.IsPlain c ∧ q.Narrow
  | _ => False

/-- A query without a window has no wide bound. -/
theorem Query.narrow_unbounded {q : Query} (offset : q.offset = none) (limit : q.limit = none) :
    q.Narrow := by
  rw [Narrow, offset, limit]
  exact ⟨nofun, nofun⟩

/-- A plain query stays plain if only the first match is asked for. -/
theorem Query.IsPlain.first {c : Collection} {q : Query} (h : q.IsPlain c) :
    (q.windowed (some 0) (some 1)).IsPlain c :=
  ⟨h.conditions, h.keys, ⟨some 0, rfl⟩, some 1, rfl⟩

/-- The window of the first match is narrow. -/
theorem Query.narrow_first (q : Query) : (q.windowed (some 0) (some 1)).Narrow :=
  ⟨by rintro n ⟨⟩; decide, by rintro n ⟨⟩; decide⟩

/-! ## Listings -/

/-- The query of a listing is plain if its criteria and its order are. -/
theorem Listing.isPlain_query {c : Collection} {criteria : Fields} {order : List String}
    (takes : ∀ f ∈ criteria, c.IsPlain f.1 ∧ c.Takes f.1 f.2)
    (sorts : ∀ field ∈ order, c.IsPlain field) : (query criteria order).IsPlain c := by
  have start := (isPlain_all (c := c)).restrict .all takes
  unfold query
  generalize Query.all.restrict .all criteria = q at start
  induction order generalizing q with
  | nil => exact start
  | cons field order ih =>
    exact ih (fun f hf => sorts f (List.mem_cons_of_mem _ hf)) _
      (start.sortedBy (sorts field List.mem_cons_self) .ascending)

/-! ## Organisations -/

namespace Organisations

/-- Organisations are listed by plain fields. -/
theorem isPlain_field : ∀ field ∈ ["kennung", "name", "typ", "administriert_von"],
    Collection.organisations.IsPlain field := by
  rintro field (_ | ⟨_, _ | ⟨_, _ | ⟨_, _ | ⟨_, ⟨⟩⟩⟩⟩⟩) <;>
    exact Collection.isPlain_of_name (by decide) (by decide)

/-- Organisations are filtered by plain fields. -/
theorem plain_criteria (f : Filter) :
    ∀ k ∈ f.criteria, Collection.organisations.IsPlain k.1 := by
  rintro k (_ | ⟨_, _ | ⟨_, _ | ⟨_, ⟨⟩⟩⟩⟩) <;> exact isPlain_field _ (by simp)

/-- The organisations that one administers are found by a plain field. -/
theorem plain_administered (id : String) : ∀ k ∈ [("administriert_von", Value.text id)],
    Collection.organisations.IsPlain k.1 ∧ Collection.organisations.Takes k.1 k.2 := by
  rintro k (_ | ⟨_, ⟨⟩⟩)
  exact (isPlain_field _ (by simp)).taken
    { Organisation.blank with administeredBy := some id } rfl

end Organisations

/-- The query for classes of the same name is a look-up. -/
theorem OrganisationRules.isLookUp_sameName (parent name : String) :
    (Request.query .organisations (sameNameQuery parent name)).IsLookUp := by
  refine ⟨isPlain_all.restrict .all ?_, Query.narrow_unbounded rfl rfl⟩
  let found : Organisation := { Organisation.blank with
    kind := some .schoolClass, administeredBy := some parent, name := some name }
  rintro f (_ | ⟨_, _ | ⟨_, _ | ⟨_, ⟨⟩⟩⟩⟩) <;>
    exact (Organisations.isPlain_field _ (by simp)).taken found rfl

/-! ## Persons and roles -/

namespace Persons

/-- Persons are listed by plain fields. -/
theorem isPlain_field : ∀ field ∈ ["referrer", "vorname", "familienname", "is_information_blocked"],
    Collection.persons.IsPlain field := by
  rintro field (_ | ⟨_, _ | ⟨_, _ | ⟨_, _ | ⟨_, ⟨⟩⟩⟩⟩⟩) <;>
    exact Collection.isPlain_of_name (by decide) (by decide)

/-- Persons are filtered by plain fields. -/
theorem plain_criteria (f : Filter) : ∀ k ∈ f.criteria, Collection.persons.IsPlain k.1 := by
  rintro k (_ | ⟨_, _ | ⟨_, _ | ⟨_, _ | ⟨_, ⟨⟩⟩⟩⟩⟩) <;> exact isPlain_field _ (by simp)

/-- The query for a referrer is a look-up. -/
theorem isLookUp_referrer (referrer : String) :
    (Request.query .persons (referrerQuery referrer)).IsLookUp := by
  refine ⟨(isPlain_all.restrict .all ?_).first, Query.narrow_first _⟩
  rintro f (_ | ⟨_, ⟨⟩⟩)
  exact (isPlain_field _ (by simp)).taken { Person.blank with referrer := some referrer } rfl

end Persons

namespace Roles

/-- Roles are listed by plain fields. -/
theorem isPlain_field : ∀ field ∈ ["name", "rollenart"], Collection.roles.IsPlain field := by
  rintro field (_ | ⟨_, _ | ⟨_, ⟨⟩⟩⟩) <;>
    exact Collection.isPlain_of_name (by decide) (by decide)

/-- Roles are filtered by plain fields. -/
theorem plain_criteria (f : Filter) : ∀ k ∈ f.criteria, Collection.roles.IsPlain k.1 := by
  rintro k (_ | ⟨_, _ | ⟨_, ⟨⟩⟩⟩) <;> exact isPlain_field _ (by simp)

end Roles

/-! ## Assignments -/

namespace Assignments

/-- The fields of a key are plain. -/
theorem isPlain_keyField : ∀ field ∈ ["person_id", "organisation_id", "rolle_id"],
    Collection.assignments.IsPlain field := by
  rintro field (_ | ⟨_, _ | ⟨_, _ | ⟨_, ⟨⟩⟩⟩⟩) <;>
    exact Collection.isPlain_of_name (by decide) (by decide)

/-- The fields of a key are plain, and take what a key has there. -/
theorem plain_keyFields (k : Assignment.Key) : ∀ f ∈ keyFields k,
    Collection.assignments.IsPlain f.1 ∧ Collection.assignments.Takes f.1 f.2 := by
  let a : Assignment := .ofKey k
  rintro f (_ | ⟨_, _ | ⟨_, _ | ⟨_, ⟨⟩⟩⟩⟩) <;>
    exact (isPlain_keyField _ (by simp)).taken a rfl

/-- The query for a key is a look-up. -/
theorem isLookUp_key (k : Assignment.Key) :
    (Request.query .assignments (keyQuery k)).IsLookUp :=
  ⟨(isPlain_all.restrict .all (plain_keyFields k)).first, Query.narrow_first _⟩

/-- The query for the assignments of a person is plain. -/
theorem isPlain_ofPerson (personId : String) :
    (AssignmentRules.ofPersonQuery personId).IsPlain .assignments := by
  refine isPlain_all.restrict .all ?_
  rintro f (_ | ⟨_, ⟨⟩⟩)
  exact plain_keyFields ⟨personId, "", ""⟩ _ List.mem_cons_self

/-- So it is a look-up. -/
theorem isLookUp_ofPerson (personId : String) :
    (Request.query .assignments (AssignmentRules.ofPersonQuery personId)).IsLookUp :=
  ⟨isPlain_ofPerson personId, Query.narrow_unbounded rfl rfl⟩

/-- The ordered query for the assignments of a person is a look-up as well. -/
theorem isLookUp_byPerson (personId : String) :
    (Request.query .assignments (byPersonQuery personId)).IsLookUp := by
  refine ⟨?_, Query.narrow_unbounded rfl rfl⟩
  exact ((isPlain_ofPerson personId).sortedBy (isPlain_keyField _ (by decide)) .ascending).sortedBy
    (isPlain_keyField _ (by decide)) .ascending

end Assignments

end SchoolRegistry
