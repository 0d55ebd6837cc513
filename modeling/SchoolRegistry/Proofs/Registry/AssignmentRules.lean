import SchoolRegistry.Proofs.Registry.ClassRoles

/-!
# What the creation of an assignment decides

Over a store that nothing disturbs a creation reads until it saves, and each of its questions is
answered from what is stored. `Assignments.ends_create` puts the answers together: the creation is
refused for the first objection there is (`Memory.objection?`), or the assignment is stored.

The rule about schools is the only one that depends on more than membership. It goes through the
keys of the person and stops at the first one that testifies, for or against
(`Memory.testimony`). Where no two of them contradict each other, the order does not matter, and
the rule asks for the key at the school and for its role (`Memory.vouched_iff_of_not_torn`).
-/

namespace SchoolRegistry

variable {supply : Supply} {m m' : Memory}

namespace Memory

/-! ## What is stored -/

/-- An item of the collection has the identifier. -/
def Holds (m : Memory) (c : Collection) (id : String) : Prop :=
  ∃ x ∈ m.shelves c, Entity.id x = some id

instance (m : Memory) (c : Collection) (id : String) : Decidable (m.Holds c id) :=
  inferInstanceAs (Decidable (∃ _ ∈ _, _))

/-- What is stored is what the look-up finds. -/
theorem holds_iff_isSome {c : Collection} {id : String} :
    m.Holds c id ↔ (find? id (m.shelves c)).isSome = true := by
  simp [Holds, find?, hasId_iff]

/-- The organisation is a class. -/
def IsClass (m : Memory) (organisationId : String) : Prop :=
  ∃ o ∈ (find? organisationId (m.shelves .organisations) : Option Organisation),
    o.kind = some .schoolClass

instance (m : Memory) (organisationId : String) : Decidable (m.IsClass organisationId) :=
  inferInstanceAs (Decidable (∃ _ ∈ _, _))

/-- The identifier of the organisation that administers an organisation, if it is stored. -/
def administrator? (m : Memory) (organisationId : String) : Option String :=
  (find? organisationId (m.shelves .organisations) : Option Organisation).bind fun o =>
    o.administeredBy.filter fun id => m.Holds .organisations id

section Found

variable {organisationId : String} {o : Organisation}
  (its : find? organisationId (m.shelves .organisations) = some o)
include its

/-- An organisation that was found is stored. -/
theorem holds_of_found : m.Holds .organisations organisationId :=
  holds_iff_isSome.mpr (Option.isSome_iff_exists.mpr ⟨o, its⟩)

/-- An identifier is that of a class exactly if the organisation found is one. -/
theorem isClass_iff_of_found :
    m.IsClass organisationId ↔ OrganisationRules.isClass o = true := by
  rw [OrganisationRules.isClass_iff]
  simp [IsClass, its]

/-- The administrator of an organisation counts only while it is stored. -/
theorem administrator?_of_found : m.administrator? organisationId =
    o.administeredBy.filter fun id => m.Holds .organisations id := by
  rw [administrator?, its, Option.bind_some]

end Found

/-- What was not found is not stored. -/
theorem not_holds_of_not_found {organisationId : String}
    (missing : find? organisationId (m.shelves .organisations) = none) :
    ¬m.Holds .organisations organisationId := by
  rw [holds_iff_isSome, missing]
  exact Bool.false_ne_true

/-- At a class the role must be found, and be that of a teacher or a learner. -/
theorem fitsClass_iff {k : Assignment.Key} : m.FitsClass k ↔ (m.IsClass k.organisationId →
    ∃ r ∈ (find? k.roleId (m.shelves .roles) : Option Role),
      r.kind = some .teacher ∨ r.kind = some .learner) :=
  ⟨fun fits ⟨o, its, kind⟩ => fits o its kind, fun fits o its kind => fits ⟨o, its, kind⟩⟩

/-- The keys of a person's assignments in their order. -/
def keysOf (m : Memory) (personId : String) : List Assignment.Key :=
  m.keys.filter fun k => k.personId == personId

/-- The keys of a person are those that name the person. -/
theorem mem_keysOf {personId : String} {k : Assignment.Key} :
    k ∈ m.keysOf personId ↔ k ∈ m.keys ∧ k.personId = personId := by simp [keysOf]

/-- The keys of a person are those of the assignments that the person holds. -/
theorem keysOf_eq_heldBy (personId : String) :
    m.keysOf personId =
      (Assignment.heldBy personId (m.shelves .assignments)).map Assignment.key := by
  rw [keysOf, keys, List.filter_map]
  rfl

namespace AgreeOutside

variable (h : AgreeOutside .assignments m m')
include h

/-- Assignments apart, the same is stored. -/
theorem holds_iff (c : Collection) (other : c ≠ .assignments) (id : String) :
    m'.Holds c id ↔ m.Holds c id := by
  unfold Holds
  rw [h c other]

/-- The same organisations are classes. -/
theorem isClass_iff {organisationId : String} :
    m'.IsClass organisationId ↔ m.IsClass organisationId := by
  unfold IsClass
  rw [h .organisations (by decide)]

/-- The same organisations administer. -/
theorem administrator?_eq (organisationId : String) :
    m'.administrator? organisationId = m.administrator? organisationId := by
  simp only [administrator?, h.holds_iff .organisations (by decide), h .organisations (by decide)]

end AgreeOutside

/-! ## Testimonies -/

/-- What a key of a person says about whether the person has the role at the school: a key at the
school says yes if it has the role, and no if its own role is missing. All others say nothing. -/
def testimony (m : Memory) (school roleId : String) (k : Assignment.Key) : Option Bool :=
  if k.organisationId = school then
    if m.Holds .roles k.roleId then if k.roleId = roleId then some true else none
    else some false
  else none

/-- An assignment speaks for the role if it gives this role at the school and the role is stored. -/
theorem testimony_eq_true_iff {school roleId : String} {k : Assignment.Key} :
    m.testimony school roleId k = some true ↔
      k.organisationId = school ∧ k.roleId = roleId ∧ m.Holds .roles k.roleId := by
  unfold testimony
  split_ifs <;> simp_all

/-- An assignment at the school speaks against the role if its own role is not stored. -/
theorem testimony_eq_false_iff {school roleId : String} {k : Assignment.Key} :
    m.testimony school roleId k = some false ↔
      k.organisationId = school ∧ ¬m.Holds .roles k.roleId := by
  unfold testimony
  split_ifs <;> simp_all

/-- At a class, the first testimony of the person's keys about the role at its school is yes. -/
def Vouched (m : Memory) (k : Assignment.Key) : Prop :=
  m.IsClass k.organisationId → ∃ school ∈ m.administrator? k.organisationId,
    (m.keysOf k.personId).findSome? (m.testimony school k.roleId) = some true

instance (m : Memory) (k : Assignment.Key) : Decidable (m.Vouched k) :=
  inferInstanceAs (Decidable (_ → ∃ _ ∈ _, _))

/-- The key is one at a class, and about the role at its school the keys of the person contradict
each other: one of them has the role, and of another one the role is missing. -/
def Torn (m : Memory) (k : Assignment.Key) : Prop :=
  m.IsClass k.organisationId ∧ ∃ school ∈ m.administrator? k.organisationId,
    (⟨k.personId, school, k.roleId⟩ ∈ m.keys ∧ m.Holds .roles k.roleId) ∧
      ∃ k' ∈ m.keys, k'.personId = k.personId ∧ k'.organisationId = school ∧
        ¬m.Holds .roles k'.roleId

instance (m : Memory) (k : Assignment.Key) : Decidable (m.Torn k) :=
  inferInstanceAs (Decidable (_ ∧ ∃ _ ∈ _, _ ∧ ∃ _ ∈ _, _))

/-- If no two entries contradict each other, the first decisive one says what any decisive one
says. -/
theorem findSome?_eq_some_iff_of_agree {α β : Type} {f : α → Option β} {l : List α} {b : β}
    (agree : ∀ x ∈ l, ∀ y ∈ l, ∀ b b', f x = some b → f y = some b' → b = b') :
    l.findSome? f = some b ↔ ∃ x ∈ l, f x = some b := by
  constructor
  · exact List.exists_of_findSome?_eq_some
  · intro h
    obtain ⟨x, hx, decisive⟩ := h
    have isSome : (l.findSome? f).isSome :=
      List.findSome?_isSome_iff.mpr ⟨x, hx, by rw [decisive]; rfl⟩
    obtain ⟨b', first⟩ := Option.isSome_iff_exists.mp isSome
    obtain ⟨y, hy, other⟩ := List.exists_of_findSome?_eq_some first
    rw [first, agree x hx y hy b b' decisive other]

/-- The person has the role at the school exactly if some assignment speaks for it. -/
theorem exists_testimony_iff {school personId roleId : String} :
    (∃ k ∈ m.keysOf personId, m.testimony school roleId k = some true) ↔
      ⟨personId, school, roleId⟩ ∈ m.keys ∧ m.Holds .roles roleId := by
  constructor
  · intro h
    obtain ⟨k, hk, yes⟩ := h
    obtain ⟨rfl, rfl, held⟩ := testimony_eq_true_iff.mp yes
    obtain ⟨stored, rfl⟩ := mem_keysOf.mp hk
    exact ⟨stored, held⟩
  · intro h
    have there := mem_keysOf.mpr ⟨h.1, rfl⟩
    exact ⟨_, there, testimony_eq_true_iff.mpr ⟨rfl, rfl, h.2⟩⟩

/-- Unless the keys of the person contradict each other, the rule about schools asks for the key at
the school of the class and for its role. -/
theorem vouched_iff_of_not_torn {k : Assignment.Key} (whole : ¬m.Torn k) :
    m.Vouched k ↔ (m.IsClass k.organisationId → ∃ school ∈ m.administrator? k.organisationId,
      ⟨k.personId, school, k.roleId⟩ ∈ m.keys ∧ m.Holds .roles k.roleId) := by
  refine forall_congr' fun isAClass => exists_congr fun school => and_congr_right fun its => ?_
  rw [← exists_testimony_iff]
  apply findSome?_eq_some_iff_of_agree
  have against : ∀ x ∈ m.keysOf k.personId, ∀ y ∈ m.keysOf k.personId,
      m.testimony school k.roleId x = some true → m.testimony school k.roleId y ≠ some false := by
    intro x hx y hy yes no
    obtain ⟨there, missing⟩ := testimony_eq_false_iff.mp no
    obtain ⟨stored, person⟩ := mem_keysOf.mp hy
    exact whole ⟨isAClass, school, its, exists_testimony_iff.mp ⟨x, hx, yes⟩, y, stored, person,
      there, missing⟩
  intro x hx y hy b b' hb hb'
  cases b with
  | true => cases b' with
    | true => rfl
    | false => exact absurd hb' (against x hx y hy hb)
  | false => cases b' with
    | true => exact absurd hb (against y hy x hx hb')
    | false => rfl

/-! ## Answers -/

/-- A look-up by identifier answers what is stored under it. -/
theorem answers_get (c : Collection) (id : String) :
    (engine supply).Answers (Service.ask (.get c id)) m (find? id (m.shelves c)) := ⟨rfl, rfl⟩

/-- A query answers what its evaluation finds on the shelf. -/
theorem answers_query {c : Collection} {q : Query} {found : Counted c.Item}
    (evaluated : q.evaluate Entity.toValue (m.shelves c) = .ok found) :
    (engine supply).Answers (Service.ask (.query c q)) m found := ⟨evaluated, rfl⟩

/-- A result that is known answers whether what it stands for holds. -/
theorem answers_pure_of_iff {yes : Bool} {P : Prop} [Decidable P] (h : yes = true ↔ P) :
    (engine supply).Answers (pure yes) m (decide P) := by
  have same : yes = decide P := Bool.eq_iff_iff.mpr (h.trans decide_eq_true_iff.symm)
  exact same ▸ Engine.answers_pure yes

end Memory

open Memory (answers_get answers_query answers_pure_of_iff holds_iff_isSome)

namespace AssignmentRules

variable (m)

/-- The look-up of a person answers the assignments that the person holds. -/
theorem answers_ofPerson (personId : String) : (Memory.engine supply).Answers (ofPerson personId) m
    (Assignment.heldBy personId (m.shelves .assignments)) := by
  have evaluated := Assignment.evaluate_ofPersonQuery personId (m.shelves .assignments)
  exact (answers_query (c := .assignments) evaluated).bind (Engine.answers_pure _)

/-- The rule about classes asks for the organisation and for a role that fits it. -/
theorem answers_teachesOrLearnsAtClass (a : Assignment) :
    (Memory.engine supply).Answers (teachesOrLearnsAtClass a) m
      (decide (m.Holds .organisations a.organisationId ∧ m.FitsClass a.key)) := by
  apply (answers_get .organisations a.organisationId).bind
  cases its : Memory.find? a.organisationId (m.shelves .organisations) with
  | none =>
    apply answers_pure_of_iff
    exact iff_of_false Bool.false_ne_true fun h => Memory.not_holds_of_not_found its h.1
  | some o =>
    have held := Memory.holds_of_found its
    have isClass := Memory.isClass_iff_of_found its
    have fits : m.FitsClass a.key ↔ (m.IsClass a.organisationId →
        ∃ r ∈ (Memory.find? a.roleId (m.shelves .roles) : Option Role),
          r.kind = some .teacher ∨ r.kind = some .learner) := Memory.fitsClass_iff
    dsimp only
    by_cases isAClass : OrganisationRules.isClass o
    · rw [if_pos isAClass]
      apply (answers_get .roles a.roleId).bind
      apply answers_pure_of_iff
      rw [fits, and_iff_right held, forall_prop_of_true (isClass.mpr isAClass)]
      simp [Option.any_eq_true, fitsClass]
    · rw [if_neg isAClass]
      apply answers_pure_of_iff
      rw [fits]
      exact iff_of_true rfl ⟨held, fun there => absurd (isClass.mp there) isAClass⟩

/-- The search for a role ends with the first testimony. -/
theorem answers_hasRoleAt (school roleId : String) (held : List Assignment) :
    (Memory.engine supply).Answers (hasRoleAt (some school) roleId held) m
      (decide ((held.map Assignment.key).findSome? (m.testimony school roleId) = some true)) := by
  induction held with
  | nil => exact Engine.answers_pure false
  | cons a rest ih =>
    unfold hasRoleAt
    rw [List.map_cons, List.findSome?_cons]
    by_cases there : a.organisationId = school
    · rw [if_pos (by simpa using there)]
      apply (answers_get .roles a.roleId).bind
      cases its : Memory.find? a.roleId (m.shelves .roles) with
      | none =>
        -- An assignment whose role is missing ends the search, whatever comes after it.
        have no : m.testimony school roleId a.key = some false := by
          refine Memory.testimony_eq_false_iff.mpr ⟨there, ?_⟩
          simp [holds_iff_isSome, Assignment.key, its]
        rw [no]
        exact Engine.answers_pure false
      | some r =>
        have held : m.Holds .roles a.roleId := by simp [holds_iff_isSome, its]
        have id : r.id = some a.roleId := Memory.hasId_iff.mp (List.find?_some its)
        dsimp only
        by_cases same : a.roleId = roleId
        · have yes : m.testimony school roleId a.key = some true :=
            Memory.testimony_eq_true_iff.mpr ⟨there, same, held⟩
          rw [yes, if_pos (by simp [id, same])]
          exact Engine.answers_pure true
        · have silent : m.testimony school roleId a.key = none := by
            simp [Memory.testimony, Assignment.key, there, held, same]
          rw [silent, if_neg (by simp [id, same])]
          exact ih
    · have silent : m.testimony school roleId a.key = none := by
        simp [Memory.testimony, Assignment.key, there]
      rw [silent, if_neg (by simpa using there)]
      exact ih

/-- The rule about schools asks for the organisation, and at a class for a first testimony that is
yes. -/
theorem answers_sameRoleAtSchool (a : Assignment) :
    (Memory.engine supply).Answers (sameRoleAtSchool a) m
      (decide (m.Holds .organisations a.organisationId ∧ m.Vouched a.key)) := by
  apply (answers_get .organisations a.organisationId).bind
  cases its : Memory.find? a.organisationId (m.shelves .organisations) with
  | none =>
    apply answers_pure_of_iff
    exact iff_of_false Bool.false_ne_true fun h => Memory.not_holds_of_not_found its h.1
  | some o =>
    have held := Memory.holds_of_found its
    have isClass := Memory.isClass_iff_of_found its
    have administrator := Memory.administrator?_of_found its
    dsimp only
    by_cases isAClass : OrganisationRules.isClass o
    · have vouched : m.Vouched a.key ↔ ∃ school ∈ m.administrator? a.organisationId,
          (m.keysOf a.personId).findSome? (m.testimony school a.roleId) = some true :=
        forall_prop_of_true (isClass.mpr isAClass)
      rw [administrator] at vouched
      rw [if_pos isAClass]
      cases parent : o.administeredBy with
      | none =>
        apply answers_pure_of_iff
        simp [vouched, parent]
      | some id =>
        dsimp only
        apply (answers_get .organisations id).bind
        cases found : Memory.find? id (m.shelves .organisations) with
        | none =>
          apply answers_pure_of_iff
          simp [vouched, parent, Memory.not_holds_of_not_found found]
        | some school =>
          have named : school.id = some id := Memory.hasId_iff.mp (List.find?_some found)
          have searched := @answers_hasRoleAt supply m id a.roleId
            (Assignment.heldBy a.personId (m.shelves .assignments))
          rw [← Memory.keysOf_eq_heldBy] at searched
          dsimp only
          apply (answers_ofPerson m a.personId).bind
          rw [named]
          have same : (m.Holds .organisations a.organisationId ∧ m.Vouched a.key) ↔
              (m.keysOf a.personId).findSome? (m.testimony id a.roleId) = some true := by
            simp [vouched, parent, Memory.holds_of_found found, held]
          rw [decide_eq_decide.mpr same]
          exact searched
    · rw [if_neg isAClass]
      apply answers_pure_of_iff
      exact iff_of_true rfl ⟨held, fun there => absurd (isClass.mp there) isAClass⟩

end AssignmentRules

/-! ## Creations -/

/-- A rule that answers whether something holds refuses exactly where it does not. -/
theorem AssignmentRules.ends_rule {label name : String} {check : Assignment → Service Bool}
    {rest : List (Rule Service Assignment)} {a : Assignment} {next : Service (Outcome Assignment)}
    {P : Prop} [Decidable P] {Q : Except Failure (Outcome Assignment) → Memory → Prop}
    (h : (Memory.engine supply).Answers (check a) m (decide P)) :
    (Memory.engine supply).Ends (Creation.checkRules (rule label name check :: rest) a next) m Q ↔
      if P then (Memory.engine supply).Ends (Creation.checkRules rest a next) m Q
      else Q (.ok (.error (.ruleViolated name Assignments.entity a.id []))) m := by
  have judged : (Memory.engine supply).Answers ((rule label name check).judge a) m
      (.flag (decide P)) := h.bind (Engine.answers_pure _)
  have verdict : (Value.flag (decide P)).truthy = true ↔ P := decide_eq_true_iff
  rw [Creation.ends_checkRules_answered judged]
  by_cases yes : P
  · rw [if_pos yes, if_pos (verdict.mpr yes)]
  · rw [if_neg yes, if_neg (mt verdict.mp yes)]
    rfl

namespace Memory

/-- Why an assignment is not created: the first objection that there is. What the rule about
schools asks for is left open. -/
def objection? (m : Memory) (sameRole : Prop) [Decidable sameRole] (a : Assignment) :
    Option Refusal :=
  if ¬m.Holds .persons a.personId then some (.notFound (Entity.name Person) (some a.personId))
  else if ¬(m.Holds .organisations a.organisationId ∧ m.FitsClass a.key) then
    some (.ruleViolated "NUR_LEHR_UND_LERN_AN_KLASSE" Assignments.entity a.id [])
  else if ¬sameRole then
    some (.ruleViolated "GLEICHE_ROLLE_AN_KLASSE_WIE_SCHULE" Assignments.entity a.id [])
  else if a.key ∈ m.keys then
    some (.alreadyExists Assignments.entity (Assignments.keyFields a.key) none)
  else none

/-- How a creation ends and what it leaves, given the objection: the refusal and the store as it
is, or the assignment as it is stored. -/
def Decided (supply : Supply) (m : Memory) (a : Assignment) :
    Option Refusal → Except Failure (Outcome Assignment) → Memory → Prop
  | some r, x, m' => x = .ok (.error r) ∧ m' = m
  | none, x, m' => x = .ok (.ok (storedAs supply .assignments a m)) ∧
      m' = (m.save supply .assignments a).2

/-- There is no objection exactly if all that the key names is stored, the rules hold and the key is
new. -/
theorem objection?_eq_none_iff {sameRole : Prop} [Decidable sameRole] {a : Assignment} :
    m.objection? sameRole a = none ↔ m.Holds .persons a.personId ∧
      m.Holds .organisations a.organisationId ∧ m.FitsClass a.key ∧ sameRole ∧
        a.key ∉ m.keys := by
  unfold objection?
  split_ifs <;> simp_all

/-- Outside of classes nobody objects to a new key that names a stored person and a stored
organisation. -/
theorem objection?_eq_none_iff_of_outside {a : Assignment} (outside : ¬m.IsClass a.organisationId) :
    m.objection? (m.Vouched a.key) a = none ↔ m.Holds .persons a.personId ∧
      m.Holds .organisations a.organisationId ∧ a.key ∉ m.keys := by
  have fits : m.FitsClass a.key := fitsClass_iff.mpr fun isAClass => absurd isAClass outside
  have vouched : m.Vouched a.key := fun isAClass => absurd isAClass outside
  rw [objection?_eq_none_iff, and_iff_right fits, and_iff_right vouched]

end Memory

namespace Assignments

variable (m)

/-- The look-up of a key answers whether it is stored. -/
theorem answers_isStored (k : Assignment.Key) :
    (Memory.engine supply).Answers (isStored k) m (decide (k ∈ m.keys)) := by
  have evaluated := Assignment.evaluate_keyQuery k (m.shelves .assignments)
  apply (answers_query (c := .assignments) evaluated).bind
  apply answers_pure_of_iff
  simp [Memory.keys]

/-- A key that is stored already is refused, and any other one is stored. -/
theorem ends_store (a : Assignment) : (Memory.engine supply).Ends (store a) m
    (Memory.Decided supply m a (if a.key ∈ m.keys then
      some (.alreadyExists entity (keyFields a.key) none) else none)) := by
  apply (answers_isStored m a.key).ends_bind.mpr
  by_cases stored : a.key ∈ m.keys
  · rw [decide_eq_true stored, if_pos rfl, if_pos stored]
    exact Engine.ends_pure.mpr ⟨rfl, rfl⟩
  · rw [decide_eq_false stored, if_neg Bool.false_ne_true, if_neg stored]
    refine Engine.ends_bind.mpr (Engine.ends_ask.mpr ⟨?_, rfl⟩)
    have saved := @Memory.save_eq supply m .assignments a
    exact congrArg (fun saved => Except.ok (Except.ok saved.1)) saved

/-- A creation is refused for the first objection there is, and nothing is changed, or the
assignment is stored. -/
theorem ends_create (a : Assignment) : (Memory.engine supply).Ends (create a) m
    (Memory.Decided supply m a (m.objection? (m.Vouched a.key) a)) := by
  refine Creation.Ends.orNotCreated ?_ fun err m' => ?_
  · apply (answers_get .persons a.personId).ends_bind.mpr
    unfold Memory.objection?
    by_cases person : m.Holds .persons a.personId
    · rw [if_pos (holds_iff_isSome.mp person), if_neg (not_not_intro person)]
      apply (AssignmentRules.ends_rule (AssignmentRules.answers_teachesOrLearnsAtClass m a)).mpr
      by_cases fits : m.Holds .organisations a.organisationId ∧ m.FitsClass a.key
      · rw [if_pos fits, if_neg (not_not_intro fits)]
        apply (AssignmentRules.ends_rule (AssignmentRules.answers_sameRoleAtSchool m a)).mpr
        by_cases vouched : m.Vouched a.key
        · rw [if_pos ⟨fits.1, vouched⟩, if_neg (not_not_intro vouched)]
          exact Creation.ends_checkRules_nil.mpr (ends_store m a)
        · rw [if_neg fun h => vouched h.2, if_pos vouched]
          exact ⟨rfl, rfl⟩
      · rw [if_neg fits, if_pos fits]
        exact ⟨rfl, rfl⟩
    · rw [if_neg (mt holds_iff_isSome.mpr person), if_pos person]
      exact Engine.ends_pure.mpr ⟨rfl, rfl⟩
  · -- Nothing has failed, whatever the objection is.
    cases m.objection? (m.Vouched a.key) a <;> exact fun failed => nomatch failed.1

end Assignments

/-- The creation of an assignment that nothing disturbs. -/
def Deed.creating (a : Assignment) : Deed := ⟨⟨none, false⟩, .createAssignment a, []⟩

/-- The creation of an assignment is decided by the objections in their order. -/
theorem Memory.decided_creating (supply : Supply) (a : Assignment) (m : Memory) :
    ∃ x, m.Decided supply a (m.objection? (m.Vouched a.key) a) x
      (m.afterDeed supply (.creating a)) := by
  have ends : (Memory.monitored supply).Ends (Assignments.create a) (.under [] m) fun x m' =>
      m.Decided supply a (m.objection? (m.Vouched a.key) a) x m'.store :=
    (Monitored.ends_undisturbed rfl).mpr (Assignments.ends_create m a)
  exact ⟨_, ends⟩

end SchoolRegistry
