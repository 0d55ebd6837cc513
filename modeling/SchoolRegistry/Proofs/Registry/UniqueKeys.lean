import SchoolRegistry.Proofs.Registry.Course
import SchoolRegistry.Proofs.Registry.Deeds

/-!
# Unique keys

The store does not look at the keys of assignments; it is the services that never store one twice.
Each of them has its own reason. A creation looks the key up first, a removal only takes away, a
replacement adds keys that are neither stored nor added before, so that the keys stay apart
wherever its writes stop. No other service writes assignments at all.

The result is about all histories in which disturbed calls fail. It does not say what happens when
a disturbance lies about what is stored.
-/

namespace SchoolRegistry

variable {supply : Supply} {α : Type}

/-- No two stored assignments have the same key. -/
def Memory.KeysApart (m : Memory) : Prop :=
  ((m.shelves .assignments).map Assignment.key).Nodup

namespace Memory

/-- The keys are apart, and every disturbance to come is a fault. -/
def SafelyApart (m : Monitored Memory) : Prop := m.Faulty ∧ m.store.KeysApart

/-- Requests that keep the keys apart whatever is stored: none of them saves an assignment. -/
def IsHarmless (r : Request) : Prop :=
  r.Spares .assignments ∨ ∃ id, r = .delete .assignments id

/-- Harmless requests keep the keys apart. -/
theorem keysApart_answer {r : Request} (harmless : IsHarmless r) {m : Memory}
    (apart : m.KeysApart) : (answer supply r m).2.KeysApart := by
  unfold KeysApart
  rcases harmless with spares | ⟨id, rfl⟩
  · rw [answer_of_spares spares]
    exact apart
  · have removed : (answer supply (.delete .assignments id) m).2.shelves .assignments =
        remove id (m.shelves .assignments) := shelves_delete m .assignments id
    rw [removed]
    exact apart.sublist (remove_sublist.map _)

/-- Saving an assignment with a new key keeps the keys apart. -/
theorem keysApart_save {a : Assignment} {m : Memory} (apart : m.KeysApart)
    (new : a.key ∉ (m.shelves .assignments).map Assignment.key) :
    (m.save supply .assignments a).2.KeysApart := by
  unfold KeysApart
  rw [shelves_save]
  exact nodup_map_store apart new

/-- So do services that make only such requests. -/
theorem keeps_of_harmless {s : Service α} (h : s.Asks IsHarmless) :
    (monitored supply).Keeps SafelyApart s := by
  refine h.keeps fun r m harmless hm => ⟨Monitored.answer_faulty _ r hm.1, ?_⟩
  exact Monitored.answer_keeps (fun _ apart => keysApart_answer harmless apart) hm.2

/-- So do services that spare the assignments. -/
theorem keeps_of_spares {s : Service α} (h : s.Asks (Request.Spares .assignments)) :
    (monitored supply).Keeps SafelyApart s :=
  keeps_of_harmless (h.imp fun _ => .inl)

end Memory

open Memory

/-! ## Creations -/

/-- Whether a key is stored is answered truly, or the look-up fails. -/
theorem Assignments.ends_isStored (k : Assignment.Key) {m : Monitored Memory}
    (faults : m.Faulty) :
    (monitored supply).Ends (isStored k) m fun x m' => m'.store = m.store ∧
      (x = .ok false → k ∉ (m.store.shelves .assignments).map Assignment.key) := by
  refine (ends_query (c := .assignments) faults _).bind ?_ ?_
  · rintro found m' ⟨-, store, evaluated | ⟨_, ⟨⟩, -⟩⟩
    refine ⟨store, fun absent => Assignment.not_mem_of_keyQuery evaluated.symm ?_⟩
    exact (Bool.not_eq_false' ..).mp (Except.ok.inj absent)
  · rintro f m' ⟨-, store, -⟩
    exact ⟨store, fun h => nomatch h⟩

/-- Creating an assignment keeps the keys apart, since it looks its own up. -/
theorem Assignments.keeps_store (a : Assignment) :
    (monitored supply).Keeps SafelyApart (store a) := by
  intro m hm
  refine ((ends_isStored a.key hm.1).and (keeps_faulty _ m hm.1)).bind ?_ ?_
  · rintro stored m' ⟨⟨same, absent⟩, faults⟩
    have apart : m'.store.KeysApart := same ▸ hm.2
    cases stored with
    | true => exact ⟨faults, apart⟩
    | false =>
      have new : a.key ∉ (m'.store.shelves .assignments).map Assignment.key := by
        rw [same]
        exact absent rfl
      have saved := (@ends_save supply .assignments m' faults a).and
        (keeps_faulty _ m' faults)
      refine saved.bind ?_ ?_
      · rintro item m'' ⟨⟨-, ⟨-, stored⟩ | ⟨_, ⟨⟩, -⟩⟩, faults'⟩
        have later : m''.store.KeysApart := stored ▸ keysApart_save apart new
        exact ⟨faults', later⟩
      · rintro f m'' ⟨⟨-, ⟨⟨⟩, -⟩ | ⟨_, -, kept, -⟩⟩, faults'⟩
        exact ⟨faults', kept ▸ apart⟩
  · rintro f m' ⟨⟨same, -⟩, faults⟩
    exact ⟨faults, same ▸ hm.2⟩

/-- A creation keeps the keys apart. -/
theorem Assignments.keeps_create (a : Assignment) :
    (monitored supply).Keeps SafelyApart (create a) := by
  refine Engine.Keeps.onStorageFailure ?_ fun _ =>
    (Engine.keeps_note _).bind fun _ => Engine.keeps_pure _
  refine Engine.Keeps.bind (keeps_of_spares (Service.asks_ask trivial)) fun person => ?_
  split
  · have rules := Pipeline.asks_validateBy (AssignmentRules.asks_judge a)
    refine Engine.Keeps.bind (keeps_of_spares rules.spares) fun verdict => ?_
    cases verdict with
    | ok _ => exact keeps_store a
    | error r => exact Engine.keeps_pure _
  · exact Engine.keeps_pure _

/-! ## Removals -/

/-- Deleting an assignment keeps the keys apart. -/
theorem Assignments.keeps_delete (id : String) :
    (monitored supply).Keeps SafelyApart (delete id) := by
  refine Engine.Keeps.onStorageFailure ?_ fun _ =>
    (Engine.keeps_note _).bind fun _ => Engine.keeps_pure _
  refine Engine.Keeps.bind (keeps_of_harmless (Service.asks_ask (.inr ⟨id, rfl⟩))) fun deleted => ?_
  split <;> exact Engine.keeps_pure _

/-! ## Replacements -/

namespace Replacement

/-- What a failing write leaves of writes that keep the keys apart has them apart. -/
theorem keysApart_leftover {inUnitOfWork : Bool} {before after : Memory}
    (apart : before.KeysApart) (apart' : after.KeysApart) :
    (leftover inUnitOfWork before after).KeysApart := by
  unfold KeysApart
  rcases shelves_leftover inUnitOfWork before after .assignments with back | stays
  · exact back ▸ apart
  · exact stays ▸ apart'

/-- Every course of a replacement leaves the keys apart. -/
theorem Course.keysApart {inUnitOfWork : Bool} {r : Replacement} {m m' : Monitored Memory}
    {x : Except Failure (Outcome (List Assignment))}
    (course : Course supply inUnitOfWork (r.against (m.store.shelves .assignments)) m x m')
    (apart : m.store.KeysApart) : m'.store.KeysApart := by
  cases course with
  | unread disturbed made store => exact store ▸ apart
  | refused violated made store => exact store ▸ apart
  | cut satisfied split void made store =>
    rw [store]
    exact keysApart_leftover apart
      (nodup_firstWrites (violation?_eq_none.mp satisfied).1 split apart)
  | unseen satisfied disturbed made store | carriedOut satisfied made store =>
    rw [store]
    exact nodup_firstWrites (violation?_eq_none.mp satisfied).1 (List.append_nil _).symm apart

/-- A replacement keeps the keys apart wherever its writes stop. -/
theorem keeps_replace (inUnitOfWork : Bool) (r : Replacement) :
    (monitored supply).Keeps SafelyApart (r.apply inUnitOfWork) := by
  rintro m ⟨faults, apart⟩
  refine ((ends_apply r faults).and (keeps_faulty _ m faults)).imp ?_
  rintro x m' ⟨⟨y, -, course⟩, faults'⟩
  exact ⟨faults', course.keysApart apart⟩

end Replacement

/-! ## Histories -/

/-- Every operation keeps the keys apart. -/
theorem Registry.keeps_safelyApart (g : Registry) (o : Operation) :
    (monitored supply).Keeps SafelyApart (g.perform o) := by
  cases o with
  | createAssignment a => exact Assignments.keeps_create a
  | deleteAssignment id => exact Assignments.keeps_delete id
  | replaceAssignments personId lastModified count sent => exact Replacement.keeps_replace _ _
  | createOrganisation o => exact keeps_of_spares (Organisations.asks_create o)
  | createPerson p => exact keeps_of_spares (Persons.asks_create p)
  | createRole r => exact keeps_of_spares (Roles.asks_create r)
  | findOrganisation id => exact keeps_of_spares (Listing.asks_byId id).spares
  | findPerson id => exact keeps_of_spares (Listing.asks_byId id).spares
  | listOrganisations f w => exact keeps_of_spares (Listing.asks_page _ _ _ w).spares
  | listAdministered id w => exact keeps_of_spares (Organisations.asks_administeredBy _ id w).spares
  | listPersons f w => exact keeps_of_spares (Listing.asks_page _ _ _ w).spares
  | listRoles f w => exact keeps_of_spares (Listing.asks_page _ _ _ w).spares
  | listAssignments personId => exact keeps_of_spares (Assignments.asks_byPerson personId).spares

/-- From a store without assignments no history in which disturbed calls fail leads to two
assignments with the same key. -/
theorem nodup_keys_afterDeeds {m : Memory} (empty : m.shelves .assignments = [])
    (deeds : List Deed)
    (faulty : ∀ d ∈ deeds, ∀ disturbance ∈ d.disturbances, disturbance.IsFault) :
    (((m.afterDeeds supply deeds).shelves .assignments).map Assignment.key).Nodup := by
  have start : m.KeysApart := by
    unfold KeysApart
    rw [empty]
    exact List.nodup_nil
  refine afterDeeds_keeps (I := KeysApart) (fun m d hd apart => ?_) start
  exact (d.registry.keeps_safelyApart d.operation (.under d.disturbances m)
    ⟨faulty d hd, apart⟩).2

/-- A replacement is cut off at its second write, outside a unit of work, and then repeated with
every assignment sent twice. -/
def cutOffAndRepeated : List Deed := [
  ⟨⟨none, false⟩, .replaceAssignments "person-1" (.fixed Supply.usualStart) 0
    [.ofKey ⟨"person-1", "org-1", "rolle-1"⟩, .ofKey ⟨"person-1", "org-2", "rolle-1"⟩],
    [⟨.assignments, .save, .failure (.storage (.reported .store "db down")), 1, 1⟩]⟩,
  ⟨⟨none, false⟩, .replaceAssignments "person-1" (.fixed Supply.usualStart) 1
    [.ofKey ⟨"person-1", "org-1", "rolle-1"⟩, .ofKey ⟨"person-1", "org-2", "rolle-1"⟩,
      .ofKey ⟨"person-1", "org-2", "rolle-1"⟩, .ofKey ⟨"person-1", "org-1", "rolle-1"⟩], []⟩]

theorem nodup_keys_cutOffAndRepeated :
    ((((Memory.empty []).afterDeeds (.counting Supply.usualStart)
        cutOffAndRepeated).shelves .assignments).map Assignment.key) =
      [⟨"person-1", "org-1", "rolle-1"⟩, ⟨"person-1", "org-2", "rolle-1"⟩] ∧
    ((((Memory.empty []).afterDeeds (.counting Supply.usualStart)
      cutOffAndRepeated).shelves .assignments).map Assignment.key).Nodup := by
  have faulty : ∀ d ∈ cutOffAndRepeated, ∀ disturbance ∈ d.disturbances, disturbance.IsFault := by
    simp [cutOffAndRepeated, Disturbance.IsFault]
  exact ⟨by decide +kernel, nodup_keys_afterDeeds rfl cutOffAndRepeated faulty⟩

end SchoolRegistry
