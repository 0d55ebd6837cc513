import Mathlib.Data.List.Induction
import SchoolRegistry.Proofs.Registry.Creations
import SchoolRegistry.Proofs.Registry.UniqueKeys

/-!
# Roles at classes

The creation of an assignment checks that a role at a class teaches or learns. A replacement checks
rules of its own only, and so what it adds may be any role anywhere. `class_roles_fit` says that
there is no other way around the rule: over any creations, deletions and replacements, whichever
calls fail meanwhile, every stored assignment at a class has a stored role that teaches or learns,
unless a replacement brought it in and it was stored ever since.

Organisations and roles are fixed meanwhile. None of the three operations writes them, but others
do, and a role that fits may be replaced by one that does not.
-/

namespace SchoolRegistry

variable {supply : Supply}

namespace Memory

/-- If the organisation is a class, then the role is stored and teaches or learns. -/
def FitsClass (m : Memory) (k : Assignment.Key) : Prop :=
  ∀ o ∈ (find? k.organisationId (m.shelves .organisations) : Option Organisation),
    o.kind = some .schoolClass → ∃ r ∈ (find? k.roleId (m.shelves .roles) : Option Role),
      r.kind = some .teacher ∨ r.kind = some .learner

instance (m : Memory) (k : Assignment.Key) : Decidable (m.FitsClass k) :=
  inferInstanceAs (Decidable (∀ _ ∈ _, _ → ∃ _ ∈ _, _))

/-- Whether a role fits a class does not depend on the assignments. -/
theorem AgreeOutside.fitsClass_iff {m m' : Memory} (h : AgreeOutside .assignments m m')
    {k : Assignment.Key} : m'.FitsClass k ↔ m.FitsClass k := by
  unfold FitsClass
  rw [h .organisations nofun, h .roles nofun]

/-- The keys of the stored assignments. -/
def keys (m : Memory) : List Assignment.Key := (m.shelves .assignments).map Assignment.key

end Memory

/-! ## Creations -/

/-- If the rule says yes, the role fits the class, whatever fails. -/
theorem AssignmentRules.ends_teachesOrLearnsAtClass {m : Monitored Memory} (faults : m.Faulty)
    (a : Assignment) :
    (Memory.monitored supply).Ends (teachesOrLearnsAtClass a) m fun x _ =>
      x = .ok true → m.store.FitsClass a.key := by
  refine (Memory.ends_get (c := .organisations) faults a.organisationId).bind ?_ fun _ _ _ => nofun
  rintro found m₁ ⟨made, store, ⟨⟨⟩⟩ | ⟨_, ⟨⟩, -⟩⟩
  cases its : Memory.find? a.organisationId (m.store.shelves .organisations) with
  | none => exact Engine.ends_pure.mpr nofun
  | some o =>
    dsimp only
    by_cases isAClass : OrganisationRules.isClass o
    · rw [if_pos isAClass]
      refine (Memory.ends_get (c := .roles) (made.faulty faults) a.roleId).bind ?_
        fun _ _ _ => nofun
      rintro found m₂ ⟨-, -, ⟨⟨⟩⟩ | ⟨_, ⟨⟩, -⟩⟩
      refine Engine.ends_pure.mpr fun passed _ _ _ => ?_
      rw [store] at passed
      obtain ⟨r, role, fits⟩ := Option.any_eq_true _ _ |>.mp (Except.ok.inj passed)
      exact ⟨r, role, by simpa [fitsClass] using fits⟩
    · rw [if_neg isAClass]
      refine Engine.ends_pure.mpr fun _ o' its' kind => ?_
      cases its.symm.trans its'
      exact absurd (OrganisationRules.isClass_iff.mpr kind) isAClass

open Creation (Accepts)

/-- An assignment that is accepted fits. -/
theorem Assignments.ends_accepted {m : Monitored Memory} (faults : m.Faulty) (a : Assignment) :
    (Memory.monitored supply).Ends (create a) m fun x _ =>
      Accepts x → m.store.FitsClass a.key := by
  unfold create
  refine Creation.Ends.orNotCreated ?_ fun _ _ _ => by rintro ⟨_, ⟨⟩⟩
  refine (Memory.ends_get (c := .persons) faults a.personId).bind ?_
    fun _ _ _ => by rintro ⟨_, ⟨⟩⟩
  rintro person m₁ ⟨made, store, -⟩
  split
  · -- The rule about classes is the first one, and nothing that follows takes its verdict back.
    have judged : (Memory.monitored supply).Ends
        (AssignmentRules.onlyTeachersAndLearnersAtClass.judge a) m₁ fun x _ =>
          ∀ v : Value, x = .ok v → v.truthy = true → m.store.FitsClass a.key := by
      refine (AssignmentRules.ends_teachesOrLearnsAtClass (made.faulty faults) a).bind ?_ ?_
      · rintro passed m₂ fits
        refine Engine.ends_pure.mpr ?_
        rintro _ ⟨⟩ (yes : passed = true)
        exact store ▸ fits (congrArg Except.ok yes)
      · rintro f m₂ -
        nofun
    refine Creation.Ends.checkRules_cons judged ?_ ?_
    · intro v m₂ fits
      split
      · next yes => exact fun _ => fits v rfl yes
      · rintro ⟨_, ⟨⟩⟩
    · rintro f m₂ - ⟨_, ⟨⟩⟩
  · exact Engine.ends_pure.mpr (by rintro ⟨_, ⟨⟩⟩)

/-! ## Replacements -/

namespace Replacement

/-- A write touches assignments only. -/
theorem Write.agreeOutside (w : Write) (m : Memory) :
    Memory.AgreeOutside .assignments m (w.result supply m) := by
  intro c other
  cases w with
  | drop a => exact Memory.shelves_delete_other other _ m
  | add k => exact Memory.shelves_save_other other _ m

/-- Writes touch assignments only. -/
theorem agreeOutside_afterAll (ws : List Write) (m : Memory) :
    Memory.AgreeOutside .assignments m (afterAll supply ws m) := by
  induction ws generalizing m with
  | nil => exact .refl _ m
  | cons w ws ih => exact (w.agreeOutside m).trans (ih _)

variable {inUnitOfWork : Bool} {r : Replacement} {m m' : Monitored Memory}
  {x : Except Failure (Outcome (List Assignment))}

/-- A replacement writes nothing but assignments. -/
theorem Course.agreeOutside (course : Course supply inUnitOfWork r m x m') :
    Memory.AgreeOutside .assignments m.store m'.store := by
  cases course with
  | unread disturbed made store | refused violated made store => exact store ▸ .refl _ _
  | @cut done _ _ _ _ satisfied split void made store =>
    have after : Memory.AgreeOutside .assignments m.store (afterAll supply done m.store) :=
      agreeOutside_afterAll done m.store
    intro c other
    rw [store]
    rcases shelves_leftover inUnitOfWork m.store (afterAll supply done m.store) c with back | stays
    · exact back
    · exact stays.trans (after c other)
  | unseen satisfied disturbed made store | carriedOut satisfied made store =>
    rw [store]
    exact agreeOutside_afterAll _ _

/-- What a first part of the writes leaves was there before, or it was sent. -/
theorem mem_keys_afterAll {done rest : List Write} {m : Memory} (split : r.writes = done ++ rest)
    {k : Assignment.Key} (hk : k ∈ (afterAll supply done m).keys) :
    k ∈ m.keys ∨ k ∈ r.sent.map Assignment.key := by
  obtain ⟨a, ha, rfl⟩ := List.mem_map.mp hk
  rcases mem_afterAll ha with ⟨before, -⟩ | added
  · exact .inl (List.mem_map_of_mem before)
  · have missing : a.key ∈ r.missing := by
      rw [← added_writes, split, List.filterMap_append]
      exact List.mem_append_left _ added
    exact .inr (mem_missing.mp missing).1

/-- A replacement brings in no keys but those that were sent. -/
theorem Course.mem_keys (course : Course supply inUnitOfWork r m x m') {k : Assignment.Key}
    (hk : k ∈ m'.store.keys) : k ∈ m.store.keys ∨ k ∈ r.sent.map Assignment.key := by
  cases course with
  | unread disturbed made store | refused violated made store => exact .inl (store ▸ hk)
  | @cut done _ _ _ _ satisfied split void made store =>
    rw [store, Memory.keys] at hk
    rcases shelves_leftover inUnitOfWork m.store (afterAll supply done m.store) .assignments with
      back | stays
    · rw [back] at hk
      exact .inl hk
    · rw [stays] at hk
      exact mem_keys_afterAll split hk
  | unseen satisfied disturbed made store | carriedOut satisfied made store =>
    rw [store] at hk
    exact mem_keys_afterAll (List.append_nil _).symm hk

end Replacement

/-! ## Histories -/

/-- The operation writes assignments. -/
def Operation.WritesAssignments : Operation → Prop
  | createAssignment _ => True
  | deleteAssignment _ => True
  | replaceAssignments .. => True
  | _ => False

/-- The operation is a replacement in which the key is sent. -/
def Operation.Sends (k : Assignment.Key) : Operation → Prop
  | replaceAssignments _ _ _ sent => k ∈ sent.map Assignment.key
  | _ => False

/-- Assignments are written, and calls may fail meanwhile. -/
def Deed.WritesAssignments (d : Deed) : Prop :=
  d.operation.WritesAssignments ∧ ∀ x ∈ d.disturbances, x.IsFault

/-- Only assignments are written. What is stored afterwards was stored before, or it fits, or the
operation sends it. -/
structure Operation.Rewrites (o : Operation) (m m' : Memory) : Prop where
  elsewhere : m.AgreeOutside .assignments m'
  keys : ∀ k ∈ m'.keys, k ∈ m.keys ∨ m.FitsClass k ∨ o.Sends k

namespace Memory

/-- Creations add what fits, deletions add nothing, and replacements add what was sent. -/
theorem rewrites_afterDeed {d : Deed} (writes : d.WritesAssignments) (m : Memory) :
    d.operation.Rewrites m (m.afterDeed supply d) := by
  obtain ⟨g, operation, disturbances⟩ := d
  obtain ⟨writes, faults⟩ := writes
  have faulty : (Monitored.under disturbances m).Faulty := faults
  suffices (monitored supply).Ends (g.perform operation) (.under disturbances m) fun _ m' =>
      operation.Rewrites m m'.store from this
  cases operation with
  | createAssignment a =>
    refine ((Assignments.atomic_create a _ faulty).and (Assignments.ends_accepted faulty a)).imp ?_
    rintro x m' ⟨course, fits⟩
    generalize m'.store = after at course
    cases course with
    | stored =>
      refine ⟨agreeOutside_save (c := .assignments) a m, fun k hk => ?_⟩
      rw [keys, shelves_save] at hk
      obtain ⟨b, hb, rfl⟩ := List.mem_map.mp hk
      rcases mem_store hb with rfl | hb
      · exact .inr (.inl (fits ⟨_, rfl⟩))
      · exact .inl (List.mem_map_of_mem hb)
    | refused | failed => exact ⟨.refl _ m, fun k hk => .inl hk⟩
  | deleteAssignment id =>
    refine (Assignments.ends_delete faulty id).imp ?_
    rintro x m' (⟨-, removed⟩ | ⟨-, kept⟩)
    · rw [removed]
      refine ⟨fun c other => shelves_delete_other other id m, fun k hk => .inl ?_⟩
      rw [keys, shelves_delete] at hk
      exact (remove_sublist.map _).subset hk
    · rw [kept]
      exact ⟨.refl _ m, fun k hk => .inl hk⟩
  | replaceAssignments personId lastModified count sent =>
    refine (Replacement.ends_apply _ faulty).imp ?_
    rintro x m' ⟨y, -, course⟩
    exact ⟨course.agreeOutside, fun k hk => (course.mem_keys hk).imp_right .inr⟩
  | _ => exact writes.elim

/-- A replacement brought the key in, and it was stored ever since. -/
inductive BroughtIn (supply : Supply) (m : Memory) (k : Assignment.Key) : List Deed → Prop
  | sent {ds : List Deed} {d : Deed} (sends : d.operation.Sends k)
    (new : k ∉ (m.afterDeeds supply ds).keys)
    (stored : k ∈ (m.afterDeeds supply (ds ++ [d])).keys) : BroughtIn supply m k (ds ++ [d])
  | kept {ds : List Deed} {d : Deed} (earlier : BroughtIn supply m k ds)
    (stored : k ∈ (m.afterDeeds supply (ds ++ [d])).keys) : BroughtIn supply m k (ds ++ [d])

end Memory

/-- No role that does not teach or learn gets to a class, except through replacements: whatever
assignments are created, deleted and replaced one after the other in a store without any, and
whichever calls fail meanwhile, the organisations and roles stay as they are, and at a class every
stored assignment has a stored role that teaches or learns, unless a replacement brought its key in
and it was stored ever since. -/
theorem class_roles_fit {m : Memory} (empty : m.shelves .assignments = []) (ds : List Deed)
    (writes : ∀ d ∈ ds, d.WritesAssignments) :
    Memory.AgreeOutside .assignments m (m.afterDeeds supply ds) ∧
      ∀ a ∈ (m.afterDeeds supply ds).shelves .assignments,
        (m.afterDeeds supply ds).FitsClass a.key ∨ Memory.BroughtIn supply m a.key ds := by
  suffices h : Memory.AgreeOutside .assignments m (m.afterDeeds supply ds) ∧
      ∀ k ∈ (m.afterDeeds supply ds).keys, m.FitsClass k ∨ Memory.BroughtIn supply m k ds by
    refine ⟨h.1, fun a ha => ?_⟩
    exact (h.2 a.key (List.mem_map_of_mem ha)).imp_left h.1.fitsClass_iff.mpr
  -- The last deed decides: what it did not add was there before it, where the induction applies.
  induction ds using List.reverseRecOn with
  | nil =>
    refine ⟨.refl _ m, fun k hk => ?_⟩
    rw [Memory.keys, Memory.afterDeeds, List.foldl_nil, empty] at hk
    exact absurd hk List.not_mem_nil
  | append_singleton ds d ih =>
    obtain ⟨elsewhere, earlier⟩ := ih fun d' hd' => writes d' (List.mem_append_left _ hd')
    have last :
        d.operation.Rewrites (m.afterDeeds supply ds) (m.afterDeeds supply (ds ++ [d])) := by
      rw [Memory.afterDeeds, Memory.afterDeeds, List.foldl_concat]
      exact Memory.rewrites_afterDeed
        (writes d (List.mem_append_right _ (List.mem_singleton_self d))) _
    refine ⟨elsewhere.trans last.elsewhere, fun k hk => ?_⟩
    by_cases stored : k ∈ (m.afterDeeds supply ds).keys
    · exact (earlier k stored).imp_right fun brought => .kept brought hk
    · rcases last.keys k hk with before | fits | sends
      · exact absurd before stored
      · exact .inl (elsewhere.fitsClass_iff.mp fits)
      · exact .inr (.sent sends stored hk)

/-- A school, a class of it, a head, a teacher, and one person. -/
def schoolWithHead : Memory :=
  let created (o : Operation) : Deed := ⟨⟨none, false⟩, o, []⟩
  (Memory.empty []).afterDeeds (.counting Supply.usualStart) [
    created (.createOrganisation
      { Organisation.blank with kind := some .school, identifier := some "S-1" }),
    created (.createOrganisation { Organisation.blank with
      kind := some .schoolClass, name := some "1a", administeredBy := some "org-1" }),
    created (.createRole
      { Role.blank with name := some "Head", administeredBy := some "org-1", kind := some .head }),
    created (.createRole { Role.blank with
      name := some "Teacher", administeredBy := some "org-1", kind := some .teacher }),
    created (.createPerson (.erika none none))]

/-- The person is made a teacher at the school and at the class, after a look-up that fails. It
cannot be created a head at the class, but a replacement makes it one. -/
def headAtClass : List Deed :=
  let teacher (organisation : String) : Assignment := .ofKey ⟨"person-1", organisation, "rolle-2"⟩
  let head : Assignment := .ofKey ⟨"person-1", "org-2", "rolle-1"⟩
  let done (o : Operation) : Deed := ⟨⟨none, false⟩, o, []⟩
  [⟨⟨none, false⟩, .createAssignment (teacher "org-1"), [personsFail .get]⟩,
    done (.createAssignment (teacher "org-1")), done (.createAssignment (teacher "org-2")),
    done (.createAssignment head),
    done (.replaceAssignments "person-1" (.fixed (Supply.later Supply.usualStart 60)) 2
      [teacher "org-1", teacher "org-2", head])]

theorem writes_headAtClass : ∀ d ∈ headAtClass, d.WritesAssignments := by
  simp [headAtClass, Deed.WritesAssignments, Operation.WritesAssignments, personsFail,
    Disturbance.IsFault]

/-- A head is refused at a class, and a teacher is stored there. -/
theorem class_roles_fit_headAtClass :
    let m := schoolWithHead.afterDeeds (.counting Supply.usualStart) headAtClass
    m.keys = [⟨"person-1", "org-1", "rolle-2"⟩, ⟨"person-1", "org-2", "rolle-2"⟩,
        ⟨"person-1", "org-2", "rolle-1"⟩] ∧
      ∀ a ∈ m.shelves .assignments, m.FitsClass a.key ∨
        Memory.BroughtIn (.counting Supply.usualStart) schoolWithHead a.key headAtClass := by
  intro m
  have empty : schoolWithHead.shelves .assignments = [] := by decide +kernel
  exact ⟨by decide +kernel, (class_roles_fit empty headAtClass writes_headAtClass).2⟩

/-- A replacement may bring a role to a class that neither teaches nor learns. -/
theorem class_roles_not_always_fit :
    ¬∀ (supply : Supply) (m : Memory) (ds : List Deed), m.shelves .assignments = [] →
      (∀ d ∈ ds, d.WritesAssignments) → ∀ a ∈ (m.afterDeeds supply ds).shelves .assignments,
        (m.afterDeeds supply ds).FitsClass a.key := by
  intro all
  have fits := all (.counting Supply.usualStart) schoolWithHead headAtClass (by decide +kernel)
    writes_headAtClass
  revert fits
  decide +kernel

end SchoolRegistry
