import SchoolRegistry.Proofs.Registry.AssignmentRules

/-!
# Which assignments are created

If the roles of the person's assignments are stored, then the creation of one more is decided by
conditions on what is stored, and by nothing else (`assignment_creation_decided`): the first one
that is not met says how it is refused. Without the premise the rule about schools also depends on
the order in which the assignments are stored.

An accepted assignment names a stored person and a stored organisation, but perhaps not a stored
role: outside of classes nobody looks. `accepted_resolves_iff` says that there is no other way for
a name to lead nowhere.
-/

namespace SchoolRegistry

variable {supply : Supply} {m : Memory} {k : Assignment.Key} {a : Assignment}

open Creation (Accepts)

namespace Memory

/-! ## The decision -/

/-- At a class, the person has the same role at the stored organisation that administers it. -/
def SameRoleAtSchool (m : Memory) (k : Assignment.Key) : Prop :=
  m.IsClass k.organisationId → ∃ school ∈ m.administrator? k.organisationId,
    ⟨k.personId, school, k.roleId⟩ ∈ m.keys

instance (m : Memory) (k : Assignment.Key) : Decidable (m.SameRoleAtSchool k) :=
  inferInstanceAs (Decidable (_ → ∃ _ ∈ _, _))

/-- What the rule about schools asks for matters once the rule about classes is satisfied. -/
theorem objection?_congr {P Q : Prop} [Decidable P] [Decidable Q]
    (same : m.FitsClass a.key → (P ↔ Q)) : m.objection? P a = m.objection? Q a := by
  unfold objection?
  by_cases fits : m.Holds .organisations a.organisationId ∧ m.FitsClass a.key
  · rw [if_neg (not_not_intro fits), if_neg (not_not_intro fits)]
    simp only [same fits.2]
  · rw [if_pos fits, if_pos fits]

/-- A role that fits a class is stored. -/
theorem FitsClass.holds (fits : m.FitsClass k) (isAClass : m.IsClass k.organisationId) :
    m.Holds .roles k.roleId := by
  obtain ⟨r, its, -⟩ := fitsClass_iff.mp fits isAClass
  exact holds_iff_isSome.mpr (Option.isSome_iff_exists.mpr ⟨r, its⟩)

/-- If the roles of the person's assignments are stored, the rule about schools asks for the key at
the school of the class. -/
theorem vouched_iff_of_known (known : ∀ k' ∈ m.keysOf k.personId, m.Holds .roles k'.roleId)
    (fits : m.FitsClass k) : m.Vouched k ↔ m.SameRoleAtSchool k := by
  have whole : ¬m.Torn k := by
    intro torn
    obtain ⟨-, school, -, -, k', stored, person, -, missing⟩ := torn
    exact missing (known k' (mem_keysOf.mpr ⟨stored, person⟩))
  rw [vouched_iff_of_not_torn whole]
  apply forall_congr'
  intro isAClass
  simp only [fits.holds isAClass, and_true]

end Memory

/-- The creation of an assignment is decided by what is stored: if the roles of the person's
assignments are stored, it is refused for the first objection to what is stored, and nothing is
changed, or the assignment is stored. -/
theorem assignment_creation_decided (supply : Supply) {m : Memory} (a : Assignment)
    (known : ∀ k ∈ m.keysOf a.personId, m.Holds .roles k.roleId) :
    (Memory.engine supply).Ends (Assignments.create a) m
      (m.Decided supply a (m.objection? (m.SameRoleAtSchool a.key) a)) := by
  have same : m.FitsClass a.key → (m.Vouched a.key ↔ m.SameRoleAtSchool a.key) :=
    Memory.vouched_iff_of_known known
  rw [← Memory.objection?_congr same]
  exact Assignments.ends_create m a

/-- The person of the school is a teacher there, and becomes one at the class. -/
theorem assignment_creation_decided_teacherAtClass :
    let supply := Supply.counting Supply.usualStart
    let teacher (organisation : String) : Assignment := .ofKey ⟨"person-1", organisation, "rolle-2"⟩
    let m := schoolWithHead.afterDeeds supply [.creating (teacher "org-1")]
    (∀ k ∈ m.keysOf "person-1", m.Holds .roles k.roleId) ∧ m.IsClass "org-2" ∧
      (Memory.engine supply).Ends (Assignments.create (teacher "org-2")) m fun x m' =>
        x = .ok (.ok (Memory.storedAs supply .assignments (teacher "org-2") m)) ∧
          m' = (m.save supply .assignments (teacher "org-2")).2 := by
  intro supply teacher m
  have known : ∀ k ∈ m.keysOf "person-1", m.Holds .roles k.roleId := by decide +kernel
  have admitted :
      m.objection? (m.SameRoleAtSchool (teacher "org-2").key) (teacher "org-2") = none :=
    Memory.objection?_eq_none_iff.mpr (by decide +kernel)
  have decided := assignment_creation_decided supply (teacher "org-2") known
  rw [admitted] at decided
  exact ⟨known, by decide +kernel, decided⟩

/-! ## What accepted assignments name -/

/-- Everything that the key names is stored. -/
structure Memory.Resolves (m : Memory) (k : Assignment.Key) : Prop where
  person : m.Holds .persons k.personId
  organisation : m.Holds .organisations k.organisationId
  role : m.Holds .roles k.roleId

/-- The key is new and names a stored person and a stored organisation that is no class, but no
stored role. -/
structure Memory.Overlooks (m : Memory) (k : Assignment.Key) : Prop where
  person : m.Holds .persons k.personId
  organisation : m.Holds .organisations k.organisationId
  outside : ¬m.IsClass k.organisationId
  new : k ∉ m.keys
  missing : ¬m.Holds .roles k.roleId

namespace Assignments

/-- Without a failure of the store, an accepted assignment names what is stored, or its role is
overlooked. -/
theorem ends_resolved (noticed : ¬m.Overlooks a.key) :
    (Memory.engine supply).Ends (create a) m fun x _ => Accepts x → m.Resolves a.key := by
  refine (ends_create m a).imp fun x m' decided accepts => ?_
  cases objection : m.objection? (m.Vouched a.key) a with
  | some r =>
    rw [objection] at decided
    obtain ⟨saved, accepted⟩ := accepts
    cases decided.1.symm.trans accepted
  | none =>
    obtain ⟨person, organisation, fits, -, new⟩ := Memory.objection?_eq_none_iff.mp objection
    refine ⟨person, organisation, ?_⟩
    by_contra missing
    -- At a class the rule about classes has found the role.
    have outside : ¬m.IsClass a.key.organisationId := fun isAClass => missing (fits.holds isAClass)
    exact noticed ⟨person, organisation, outside, new, missing⟩

/-- What the creation overlooks does not keep it from being accepted. -/
theorem ends_overlooked (overlooks : m.Overlooks a.key) :
    (Memory.engine supply).Ends (create a) m fun x _ => Accepts x := by
  have admitted := (Memory.objection?_eq_none_iff_of_outside overlooks.outside).mpr
    ⟨overlooks.person, overlooks.organisation, overlooks.new⟩
  refine (ends_create m a).imp fun x m' decided => ?_
  rw [admitted] at decided
  exact ⟨_, decided.1⟩

/-- A creation that is accepted met no outage, and ends as over a store without any. -/
theorem ends_accepted_of_undisturbed {P : Prop} {outages : List Disturbance}
    (only : ∀ d ∈ outages, d.IsOutage)
    (h : (Memory.engine supply).Ends (create a) m fun x _ => Accepts x → P) :
    (Memory.monitored supply).Ends (create a) (.under outages m) fun x _ => Accepts x → P := by
  cases fine : (Memory.monitored supply).raises (create a) (.under outages m) with
  | false => exact Monitored.OutagesOnly.ends (m := .under outages m) only fine h
  | true =>
    have answered : (Memory.monitored supply).Ends (create a) (.under outages m) fun x _ =>
        Answered ((Memory.monitored supply).raises (create a) (.under outages m)) x :=
      (answered_create a).ends (Collection.succeeds_create .assignments a) only
    refine answered.imp ?_
    rintro x m' ⟨outcome, rfl, told⟩ ⟨saved, accepted⟩
    cases accepted
    exact absurd (fine.symm.trans told) Bool.noConfusion

end Assignments

/-- An accepted assignment refers to what is stored: under any outages of the store, if a creation
is accepted then the person, the organisation and the role were stored, unless the role of a new
key outside of classes is overlooked. In that case the creation is accepted. -/
theorem accepted_resolves_iff (supply : Supply) (m : Memory) (a : Assignment) :
    (∀ outages : List Disturbance, (∀ d ∈ outages, d.IsOutage) →
      (Memory.monitored supply).Ends (Assignments.create a) (.under outages m) fun x _ =>
        Accepts x → m.Resolves a.key) ↔ ¬m.Overlooks a.key := by
  constructor
  · intro resolves overlooks
    have quiet := resolves [] fun d hd => absurd hd List.not_mem_nil
    have undisturbed := (Monitored.ends_undisturbed (m := .under [] m)
      (Q := fun x _ => Accepts x → m.Resolves a.key) rfl).mp quiet
    exact overlooks.missing (undisturbed (Assignments.ends_overlooked overlooks)).role
  · intro noticed outages only
    exact Assignments.ends_accepted_of_undisturbed only (Assignments.ends_resolved noticed)

/-- At the school a role is assigned that does not exist. -/
theorem accepted_not_always_resolved :
    ¬∀ (supply : Supply) (m : Memory) (a : Assignment),
      (Memory.engine supply).Ends (Assignments.create a) m fun x _ =>
        Accepts x → m.Resolves a.key := by
  intro all
  let unknown : Assignment := .ofKey ⟨"person-1", "org-1", "rolle-3"⟩
  have accepted : Accepts ((Memory.engine (.counting Supply.usualStart)).run
      (Assignments.create unknown) schoolWithHead).result := by
    decide +kernel
  have role := (all _ schoolWithHead unknown accepted).role
  revert role
  decide +kernel

end SchoolRegistry
