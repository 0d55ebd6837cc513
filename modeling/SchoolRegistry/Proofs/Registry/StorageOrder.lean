import SchoolRegistry.Proofs.Registry.AssignmentRules
import SchoolRegistry.Proofs.Registry.Replaced

/-!
# The order of a person's assignments

The rule about schools goes through the assignments of a person in the order in which the store
returns them, and it ends with the first one that testifies. `verdict_unordered_iff` says when the
order does not matter: exactly if the person's keys do not contradict each other. As long as they
do not, the verdict depends on which keys there are and on nothing else, so that new assignments
outside of classes may be created in any order beforehand.

They do contradict each other if the person has the role at the school and also an assignment there
whose role is missing. Nothing keeps a person from that: outside of classes no rule asks for the
role (`verdict_depends_on_order`).
-/

namespace SchoolRegistry

variable {supply : Supply} {m m' : Memory} {k : Assignment.Key}

/-- What the rule about schools says about an assignment. -/
def AssignmentRules.verdict (supply : Supply) (a : Assignment) (m : Memory) : Except Failure Bool :=
  ((Memory.engine supply).run (sameRoleAtSchool a) m).result

namespace Memory

/-! ## The same keys -/

/-- Everything but the assignments is the same, and so are the keys that the person has, however
often and in whatever order. -/
structure SameFor (personId : String) (m m' : Memory) : Prop where
  elsewhere : AgreeOutside .assignments m m'
  keys : ∀ k : Assignment.Key, k.personId = personId → (k ∈ m'.keys ↔ k ∈ m.keys)

/-- Everything but the assignments is the same, and the person has the same keys in some order. -/
structure Reordered (personId : String) (m m' : Memory) : Prop where
  elsewhere : AgreeOutside .assignments m m'
  keys : (m'.keysOf personId).Perm (m.keysOf personId)

/-- Assignments in another order have the same keys. -/
theorem Reordered.sameFor {personId : String} (h : Reordered personId m m') :
    SameFor personId m m' := by
  refine ⟨h.elsewhere, fun k person => ?_⟩
  have same : k ∈ m'.keysOf personId ↔ k ∈ m.keysOf personId := h.keys.mem_iff
  rwa [mem_keysOf, mem_keysOf, and_iff_left person, and_iff_left person] at same

namespace SameFor

variable (h : SameFor k.personId m m')
include h

/-- The person has the same keys in both stores. -/
theorem mem_keys_iff {organisationId roleId : String} :
    ⟨k.personId, organisationId, roleId⟩ ∈ m'.keys ↔
      ⟨k.personId, organisationId, roleId⟩ ∈ m.keys := h.keys _ rfl

/-- The keys contradict each other in both stores or in none. -/
theorem torn_iff : m'.Torn k ↔ m.Torn k := by
  have roles := h.elsewhere.holds_iff .roles (by decide)
  unfold Torn
  rw [h.elsewhere.isClass_iff, h.elsewhere.administrator?_eq]
  refine and_congr_right fun _ => exists_congr fun school => and_congr_right fun _ => ?_
  apply and_congr
  · rw [h.mem_keys_iff, roles]
  · apply exists_congr
    intro k'
    rw [roles]
    constructor
    · intro other
      exact ⟨(h.keys k' other.2.1).mp other.1, other.2⟩
    · intro other
      exact ⟨(h.keys k' other.2.1).mpr other.1, other.2⟩

/-- Where the keys do not contradict each other, the same role is vouched for. -/
theorem vouched_iff (whole : ¬m.Torn k) : m'.Vouched k ↔ m.Vouched k := by
  have whole' : ¬m'.Torn k := mt h.torn_iff.mp whole
  have roles := h.elsewhere.holds_iff .roles (by decide)
  rw [vouched_iff_of_not_torn whole, vouched_iff_of_not_torn whole', h.elsewhere.isClass_iff,
    h.elsewhere.administrator?_eq, roles]
  simp only [h.mem_keys_iff]

end SameFor

/-! ## The first testimony -/

theorem IsClass.holds {organisationId : String} (h : m.IsClass organisationId) :
    m.Holds .organisations organisationId := by
  obtain ⟨o, its, -⟩ := h
  exact holds_of_found its

/-- Testimonies do not depend on the stored assignments. -/
theorem AgreeOutside.testimony_eq (h : AgreeOutside .assignments m m') (school roleId : String) :
    m'.testimony school roleId = m.testimony school roleId := by
  funext k
  simp only [testimony, h.holds_iff .roles (by decide)]

/-- Any key of a person can come first. -/
theorem exists_reordered_first {personId : String} (hk : k ∈ m.keysOf personId) :
    ∃ m' rest, Reordered personId m m' ∧ m'.keysOf personId = k :: rest := by
  obtain ⟨stored, person⟩ := mem_keysOf.mp hk
  obtain ⟨a, ha, rfl⟩ := List.mem_map.mp stored
  let items := m.shelves .assignments
  let moved : Memory := { m with shelves := m.shelves.put .assignments (a :: items.erase a) }
  have keys : moved.keys = a.key :: (items.erase a).map Assignment.key := by
    simp [moved, Memory.keys]
  refine ⟨moved, ((items.erase a).map Assignment.key).filter fun k => k.personId == personId,
    ⟨fun c other => ?_, ?_⟩, ?_⟩
  · exact Shelving.put_other other
  · have same : moved.keys.Perm m.keys := keys ▸ ((List.perm_cons_erase ha).map _).symm
    exact same.filter _
  · rw [keysOf, keys]
    exact List.filter_cons_of_pos (by simpa using person)

/-- If the first key testifies, it decides. -/
theorem vouched_iff_of_first {first : Assignment.Key} {rest : List Assignment.Key}
    {school : String} {yes : Bool} (isAClass : m.IsClass k.organisationId)
    (its : m.administrator? k.organisationId = some school)
    (keys : m.keysOf k.personId = first :: rest)
    (decisive : m.testimony school k.roleId first = some yes) : m.Vouched k ↔ yes = true := by
  have found : (m.keysOf k.personId).findSome? (m.testimony school k.roleId) = some yes := by
    rw [keys, List.findSome?_cons, decisive]
  unfold Vouched
  rw [forall_prop_of_true isAClass, its]
  simp [found]

end Memory

open Memory (Reordered SameFor)

namespace AssignmentRules

variable {a : Assignment}

/-- The verdict is yes if the organisation is stored and the role vouched for. -/
theorem verdict_eq : verdict supply a m =
    .ok (decide (m.Holds .organisations a.organisationId ∧ m.Vouched a.key)) :=
  (answers_sameRoleAtSchool m a).1

theorem verdict_eq_iff {yes : Bool} : verdict supply a m = .ok yes ↔
    (m.Holds .organisations a.organisationId ∧ m.Vouched a.key ↔ yes = true) := by
  rw [verdict_eq, Except.ok.injEq, Bool.eq_iff_iff, decide_eq_true_iff]

/-- Unless the person's keys contradict each other, the verdict depends on which keys there are
only. -/
theorem verdict_congr (h : SameFor a.personId m m') (whole : ¬m.Torn a.key) :
    verdict supply a m' = verdict supply a m := by
  have vouched : m'.Vouched a.key ↔ m.Vouched a.key :=
    SameFor.vouched_iff (k := a.key) h whole
  rw [verdict_eq (m := m), verdict_eq_iff, decide_eq_true_iff, vouched,
    h.elsewhere.holds_iff .organisations (by decide)]

/-- If they do, some orders lead to another verdict than others. -/
theorem exists_reordered_of_torn (torn : m.Torn a.key) :
    ∃ m₁ m₂, m.Reordered a.personId m₁ ∧ m.Reordered a.personId m₂ ∧
      verdict supply a m₁ = .ok true ∧ verdict supply a m₂ = .ok false := by
  obtain ⟨isAClass, school, its, ⟨stored, held⟩, k', stored', person, there, missing⟩ := torn
  have organisation : m.Holds .organisations a.organisationId := isAClass.holds
  have yes : m.testimony school a.roleId ⟨a.personId, school, a.roleId⟩ = some true :=
    Memory.testimony_eq_true_iff.mpr ⟨rfl, rfl, held⟩
  have no : m.testimony school a.roleId k' = some false :=
    Memory.testimony_eq_false_iff.mpr ⟨there, missing⟩
  -- The verdict is what the key that comes first says.
  have first : ∀ {k : Assignment.Key} {b : Bool}, k ∈ m.keysOf a.personId →
      m.testimony school a.roleId k = some b →
        ∃ m', m.Reordered a.personId m' ∧ verdict supply a m' = .ok b := by
    intro k b hk decisive
    obtain ⟨m', rest, reordered, keys⟩ := Memory.exists_reordered_first hk
    have same := reordered.elsewhere
    have vouched : m'.Vouched a.key ↔ b = true := by
      apply Memory.vouched_iff_of_first (same.isClass_iff.mpr isAClass) _ keys
      · exact (congrFun (same.testimony_eq school a.roleId) k).trans decisive
      · exact (same.administrator?_eq _).trans its
    have organisation' := (same.holds_iff .organisations (by decide) _).mpr organisation
    refine ⟨m', reordered, verdict_eq_iff.mpr ?_⟩
    rw [and_iff_right organisation', vouched]
  obtain ⟨m₁, reordered₁, verdict₁⟩ := first (Memory.mem_keysOf.mpr ⟨stored, rfl⟩) yes
  obtain ⟨m₂, reordered₂, verdict₂⟩ := first (Memory.mem_keysOf.mpr ⟨stored', person⟩) no
  exact ⟨m₁, m₂, reordered₁, reordered₂, verdict₁, verdict₂⟩

end AssignmentRules

/-! ## Creations beforehand -/

namespace Memory

/-- Assignments were created in `m`, those of them that name a stored person and a stored
organisation, and there are new identifiers for more. -/
structure Enrolled (supply : Supply) (bs : List Assignment) (m m' : Memory) : Prop where
  elsewhere : AgreeOutside .assignments m m'
  fresh : m'.Fresh supply .assignments
  keys : ∀ k, k ∈ m'.keys ↔ k ∈ m.keys ∨ ∃ b ∈ bs, b.key = k ∧
    m.Holds .persons b.personId ∧ m.Holds .organisations b.organisationId

/-- A new assignment outside of classes is stored, unless its key is there already or it names
something that is not. -/
theorem enrolled_creating {b : Assignment} (fresh : m.Fresh supply .assignments)
    (new : b.id = none) (outside : ¬m.IsClass b.organisationId) :
    Enrolled supply [b] m (m.afterDeed supply (.creating b)) := by
  obtain ⟨x, decided⟩ := decided_creating supply b m
  cases objection : m.objection? (m.Vouched b.key) b with
  | none =>
    rw [objection] at decided
    rw [decided.2]
    obtain ⟨person, organisation, -⟩ := (objection?_eq_none_iff_of_outside outside).mp objection
    obtain ⟨shelf, -, -, fresh'⟩ := Fresh.save (c := .assignments) fresh new
    have added : (m.save supply .assignments b).2.keys = m.keys ++ [b.key] := by
      rw [keys, shelf, List.map_append]
      rfl
    refine ⟨agreeOutside_save (c := .assignments) b m, fresh', fun k => ?_⟩
    rw [added, List.mem_append, List.mem_singleton]
    simp [person, organisation, eq_comm]
  | some r =>
    rw [objection] at decided
    rw [decided.2]
    refine ⟨.refl _ _, fresh, fun k => ⟨.inl, fun h => h.elim id ?_⟩⟩
    rintro ⟨b', hb', rfl, person, organisation⟩
    cases List.mem_singleton.mp hb'
    by_contra absent
    have admitted := (objection?_eq_none_iff_of_outside outside).mpr ⟨person, organisation, absent⟩
    cases admitted.symm.trans objection

/-- New assignments outside of classes are created one after the other. -/
theorem enrolled_creations {bs : List Assignment} (fresh : m.Fresh supply .assignments)
    (new : ∀ b ∈ bs, b.id = none) (outside : ∀ b ∈ bs, ¬m.IsClass b.organisationId) :
    Enrolled supply bs m (m.afterDeeds supply (bs.map .creating)) := by
  induction bs generalizing m with
  | nil => exact ⟨.refl _ _, fresh, fun k => by simp [afterDeeds]⟩
  | cons b bs ih =>
    have first : Enrolled supply [b] m (m.afterDeed supply (.creating b)) :=
      enrolled_creating fresh (new b List.mem_cons_self) (outside b List.mem_cons_self)
    have rest := ih first.fresh (fun b' hb' => new b' (List.mem_cons_of_mem _ hb')) (by
      intro b' hb'
      rw [first.elsewhere.isClass_iff]
      exact outside b' (List.mem_cons_of_mem _ hb'))
    refine ⟨first.elsewhere.trans rest.elsewhere, rest.fresh, fun k => ?_⟩
    have persons := first.elsewhere.holds_iff .persons (by decide)
    have organisations := first.elsewhere.holds_iff .organisations (by decide)
    refine (rest.keys k).trans ?_
    simp only [first.keys k, persons, organisations, List.exists_mem_cons_iff,
      List.not_mem_nil, false_and, exists_false, or_false, or_assoc]

end Memory

/-- The identifiers to come are new in the store with a school and its head. -/
theorem fresh_schoolWithHead :
    schoolWithHead.Fresh (.counting Supply.usualStart) .assignments := by
  have empty : schoolWithHead.shelves .assignments = [] := by decide +kernel
  refine ⟨fun n _ x hx => ?_, fun i j _ _ => Supply.counting_id_injective⟩
  exact absurd (empty ▸ hx) List.not_mem_nil

namespace AssignmentRules

/-- The order of storage does not matter exactly if the person's keys do not contradict each other:
then the verdict is the same for every order of the person's assignments, and also after any new
assignments outside of classes, in whatever order they are created. -/
theorem verdict_unordered_iff (supply : Supply) (m : Memory) (a : Assignment) :
    ((∀ m', m.Reordered a.personId m' → verdict supply a m' = verdict supply a m) ↔
      ¬m.Torn a.key) ∧
    ∀ bs bs' : List Assignment, m.Fresh supply .assignments → (∀ b ∈ bs, b.id = none) →
      (∀ b ∈ bs, ¬m.IsClass b.organisationId) → bs'.Perm bs →
        ¬(m.afterDeeds supply (bs.map Deed.creating)).Torn a.key →
          verdict supply a (m.afterDeeds supply (bs'.map Deed.creating)) =
            verdict supply a (m.afterDeeds supply (bs.map Deed.creating)) := by
  refine ⟨⟨fun unordered torn => ?_, fun whole m' reordered => ?_⟩, ?_⟩
  · obtain ⟨m₁, m₂, reordered₁, reordered₂, yes, no⟩ := exists_reordered_of_torn torn
    have same := (unordered m₁ reordered₁).trans (unordered m₂ reordered₂).symm
    rw [yes, no] at same
    cases same
  · exact verdict_congr reordered.sameFor whole
  · intro bs bs' fresh new outside perm whole
    have enrolled := Memory.enrolled_creations fresh new outside
    have enrolled' := Memory.enrolled_creations fresh
      (fun b hb => new b (perm.mem_iff.mp hb)) fun b hb => outside b (perm.mem_iff.mp hb)
    refine verdict_congr ⟨enrolled.elsewhere.symm.trans enrolled'.elsewhere, fun k _ => ?_⟩ whole
    rw [enrolled.keys, enrolled'.keys]
    simp only [perm.mem_iff]

/-- The person is a teacher and the head of the school. Whichever is stored first, the person can
be a teacher at the class. -/
theorem verdict_unordered_teacherAndHead :
    let supply := Supply.counting Supply.usualStart
    let teacher (organisation : String) : Assignment := .ofKey ⟨"person-1", organisation, "rolle-2"⟩
    let head : Assignment := .ofKey ⟨"person-1", "org-1", "rolle-1"⟩
    let created (bs : List Assignment) := schoolWithHead.afterDeeds supply (bs.map Deed.creating)
    verdict supply (teacher "org-2") (created [head, teacher "org-1"]) =
        verdict supply (teacher "org-2") (created [teacher "org-1", head]) ∧
      ∀ m', (created [teacher "org-1", head]).Reordered "person-1" m' →
        verdict supply (teacher "org-2") m' = .ok true := by
  intro supply teacher head created
  have whole : ¬(created [teacher "org-1", head]).Torn (teacher "org-2").key := by decide +kernel
  have yes : verdict supply (teacher "org-2") (created [teacher "org-1", head]) = .ok true := by
    refine verdict_eq_iff.mpr (iff_of_true ?_ rfl)
    decide +kernel
  refine ⟨?_, fun m' reordered => ?_⟩
  · apply (verdict_unordered_iff supply schoolWithHead (teacher "org-2")).2 _ _ fresh_schoolWithHead
      _ _ (List.Perm.swap _ _ _) whole
    · decide
    · decide +kernel
  · exact ((verdict_unordered_iff supply _ (teacher "org-2")).1.mpr whole m' reordered).trans yes

/-- The person is a teacher at the school and has an assignment there whose role is missing.
Whether the person can be a teacher at the class depends on which of the two was created first. -/
theorem verdict_depends_on_order :
    let supply := Supply.counting Supply.usualStart
    let teacher (organisation : String) : Assignment := .ofKey ⟨"person-1", organisation, "rolle-2"⟩
    let unknown : Assignment := .ofKey ⟨"person-1", "org-1", "rolle-3"⟩
    let created (bs : List Assignment) := schoolWithHead.afterDeeds supply (bs.map Deed.creating)
    (created [teacher "org-1", unknown]).Reordered "person-1" (created [unknown, teacher "org-1"]) ∧
      verdict supply (teacher "org-2") (created [teacher "org-1", unknown]) = .ok true ∧
      verdict supply (teacher "org-2") (created [unknown, teacher "org-1"]) = .ok false := by
  intro supply teacher unknown created
  have elsewhere : ∀ bs, (∀ b ∈ bs, b.id = none) →
      (∀ b ∈ bs, ¬schoolWithHead.IsClass b.organisationId) →
        Memory.AgreeOutside .assignments schoolWithHead (created bs) :=
    fun bs new outside => (Memory.enrolled_creations fresh_schoolWithHead new outside).elsewhere
  refine ⟨⟨?_, by decide +kernel⟩, ?_, ?_⟩
  · have first := elsewhere [teacher "org-1", unknown] (by decide) (by decide +kernel)
    have second := elsewhere [unknown, teacher "org-1"] (by decide) (by decide +kernel)
    exact first.symm.trans second
  · refine verdict_eq_iff.mpr (iff_of_true ?_ rfl)
    decide +kernel
  · refine verdict_eq_iff.mpr (iff_of_false ?_ Bool.false_ne_true)
    decide +kernel

end AssignmentRules

end SchoolRegistry
