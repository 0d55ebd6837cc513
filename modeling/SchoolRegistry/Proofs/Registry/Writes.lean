import SchoolRegistry.Proofs.Registry.Replacement

/-!
# Making the writes of a replacement

Each write changes the store in one way (`Write.result`), and `ends_perform` says that under
faults it does so or fails and does nothing. So the write phase makes a first part of its writes:
all of them, or those before the one that fails (`ends_each`).

What is left on the shelf is then a fact about lists of writes: writes that add new keys keep the
keys apart (`nodup_afterAll`), and what is there after them was there before and not removed, or
has an added key (`mem_afterAll`).
-/

namespace SchoolRegistry.Replacement

variable {supply : Supply}

/-! ## Making the writes -/

/-- The store after the writes, one after the other. -/
def afterAll (supply : Supply) (ws : List Write) (m : Memory) : Memory :=
  ws.foldl (fun m w => w.result supply m) m

/-- A write is made, or it fails and the store is as before. Without a fault only the removal of
what is not there fails. -/
theorem ends_perform (personId : String) (w : Write) {m : Monitored Memory} (faults : m.Faulty) :
    (Memory.monitored supply).Ends (w.perform personId) m fun x m' =>
      m.Made [w.call] m' ∧ (x = .ok () ∧ m'.store = w.result supply m.store ∨
        ∃ f, x = .error f ∧ m'.store = m.store ∧ (m.disturbances = [] → w.IsVoid m.store)) := by
  cases w with
  | drop a =>
    refine Engine.ends_bind.mpr (Engine.ends_note.mpr ?_)
    have removal := @Memory.ends_delete supply .assignments m faults (a.id.getD "")
    -- A removal that finds nothing is a failure of the service, not of the store.
    refine Engine.Ends.bind (removal.rethrown ?_) ?_ ?_
    · rintro f f' m' ⟨made, ⟨⟨⟩, -⟩ | ⟨kept, ⟨⟨⟩, -⟩ | ⟨_, -, disturbed⟩⟩⟩
      exact ⟨made, .inr ⟨kept, .inr ⟨f', rfl, disturbed⟩⟩⟩
    · rintro deleted m' ⟨made, ⟨yes, dropped⟩ | ⟨kept, ⟨no, void⟩ | ⟨_, ⟨⟩, -⟩⟩⟩
      · cases yes
        exact Engine.ends_pure.mpr ⟨made, .inl ⟨rfl, dropped⟩⟩
      · cases no
        exact Engine.ends_throw.mpr ⟨made, .inr ⟨_, rfl, kept, void⟩⟩
    · rintro f m' ⟨made, ⟨⟨⟩, -⟩ | ⟨kept, ⟨⟨⟩, -⟩ | ⟨_, -, disturbed⟩⟩⟩
      exact ⟨made, .inr ⟨f, rfl, kept, fun quiet => absurd quiet disturbed⟩⟩
  | add k =>
    refine Engine.ends_bind.mpr (Engine.ends_note.mpr ?_)
    have addition := @Memory.ends_save supply .assignments m faults (Assignment.ofKey k)
    refine Engine.Ends.bind (addition.rethrown ?_) ?_ ?_
    · rintro f f' m' ⟨made, ⟨⟨⟩, -⟩ | ⟨_, -, kept, disturbed⟩⟩
      exact ⟨made, .inr ⟨f', rfl, kept, disturbed⟩⟩
    · rintro saved m' ⟨made, ⟨-, added⟩ | ⟨_, ⟨⟩, -⟩⟩
      exact Engine.ends_pure.mpr ⟨made, .inl ⟨rfl, added⟩⟩
    · rintro f m' ⟨made, ⟨⟨⟩, -⟩ | ⟨_, -, kept, disturbed⟩⟩
      exact ⟨made, .inr ⟨f, rfl, kept, fun quiet => absurd quiet disturbed⟩⟩

/-- The write phase makes a first part of the writes: all of them, or those before the one that
fails. -/
theorem ends_each (personId : String) (ws : List Write) {m : Monitored Memory}
    (faults : m.Faulty) :
    (Memory.monitored supply).Ends (each (Write.perform personId) ws) m fun x m' =>
      x = .ok () ∧ m.Made (ws.map Write.call) m' ∧ m'.store = afterAll supply ws m.store ∨
        ∃ done w rest f, ws = done ++ w :: rest ∧ x = .error f ∧
          m.Made (done.map Write.call ++ [w.call]) m' ∧
          m'.store = afterAll supply done m.store ∧
          (m.disturbances = [] → w.IsVoid m'.store) := by
  induction ws generalizing m with
  | nil => exact .inl ⟨rfl, .refl m, rfl⟩
  | cons w ws ih =>
    refine (ends_perform personId w faults).bind ?_ ?_
    · rintro _ m' ⟨made, ⟨-, stored⟩ | ⟨_, ⟨⟩, -⟩⟩
      refine (ih (made.faulty faults)).imp fun x m'' => ?_
      rintro (⟨ok, more, rest⟩ | ⟨done, w', rest, f, split, failed, more, kept, void⟩)
      · exact .inl ⟨ok, made.trans more, rest.trans (congrArg (afterAll supply ws) stored)⟩
      · refine .inr ⟨w :: done, w', rest, f, congrArg (w :: ·) split, failed, made.trans more,
          kept.trans (congrArg (afterAll supply done) stored), fun quiet => ?_⟩
        exact void (made.undisturbed quiet)
    · rintro f m' ⟨made, ⟨⟨⟩, -⟩ | ⟨_, -, kept, void⟩⟩
      exact .inr ⟨[], w, ws, f, rfl, rfl, made, kept, fun quiet => kept ▸ void quiet⟩

/-! ## The shelf after the writes -/

theorem afterAll_cons (w : Write) (ws : List Write) (m : Memory) :
    afterAll supply (w :: ws) m = afterAll supply ws (w.result supply m) := rfl

/-- The writes of two lists are made one after the other. -/
theorem afterAll_append (ws vs : List Write) (m : Memory) :
    afterAll supply (ws ++ vs) m = afterAll supply vs (afterAll supply ws m) := List.foldl_append

namespace Write

/-- The key that the write adds. -/
def key? : Write → Option Assignment.Key
  | drop _ => none
  | add k => some k

/-- A removal takes the assignment under the identifier from the shelf. -/
theorem result_drop (a : Assignment) (m : Memory) :
    ((drop a).result supply m).shelves .assignments =
      Memory.remove (a.id.getD "") (m.shelves .assignments) := Memory.shelves_delete ..

/-- An addition stores an assignment with the key on the shelf. -/
theorem result_add (k : Assignment.Key) (m : Memory) :
    ((add k).result supply m).shelves .assignments =
      Memory.store (Memory.idFor supply .assignments (Assignment.ofKey k) m)
        (Memory.storedAs supply .assignments (Assignment.ofKey k) m)
        (m.shelves .assignments) := Memory.shelves_save ..

/-- What is on the shelf after a write was there before and is not removed, or has the added
key. -/
theorem mem_result {w : Write} {m : Memory} {x : Assignment}
    (h : x ∈ (w.result supply m).shelves .assignments) :
    (x ∈ m.shelves .assignments ∧ ∀ a, w = drop a → x.id ≠ some (a.id.getD "")) ∨
      w.key? = some x.key := by
  cases w with
  | drop a =>
    rw [result_drop] at h
    obtain ⟨hx, other⟩ := Memory.mem_remove.mp h
    refine .inl ⟨hx, fun a' same => ?_⟩
    cases same
    exact other
  | add k =>
    rw [result_add] at h
    rcases Memory.mem_store h with rfl | hx
    · exact .inr rfl
    · exact .inl ⟨hx, fun _ same => nomatch same⟩

/-- A write that adds no key of the shelf keeps the keys apart. -/
theorem nodup_result {w : Write} {m : Memory}
    (distinct : ((m.shelves .assignments).map Assignment.key).Nodup)
    (new : ∀ k, w.key? = some k → k ∉ (m.shelves .assignments).map Assignment.key) :
    (((w.result supply m).shelves .assignments).map Assignment.key).Nodup := by
  cases w with
  | drop a =>
    rw [result_drop]
    exact distinct.sublist (Memory.remove_sublist.map _)
  | add k =>
    rw [result_add]
    exact Memory.nodup_map_store distinct (new k rfl)

end Write

/-- What is on the shelf after some writes was there before and is not removed, or has an added
key. -/
theorem mem_afterAll {ws : List Write} {m : Memory} {x : Assignment}
    (h : x ∈ (afterAll supply ws m).shelves .assignments) :
    (x ∈ m.shelves .assignments ∧ ∀ a, .drop a ∈ ws → x.id ≠ some (a.id.getD "")) ∨
      x.key ∈ ws.filterMap Write.key? := by
  induction ws generalizing m with
  | nil => exact .inl ⟨h, fun _ none => absurd none List.not_mem_nil⟩
  | cons w ws ih =>
    rcases ih h with ⟨there, kept⟩ | added
    · rcases Write.mem_result there with ⟨before, other⟩ | adds
      · refine .inl ⟨before, fun a ha => ?_⟩
        rcases List.mem_cons.mp ha with first | later
        · exact other a first.symm
        · exact kept a later
      · exact .inr (List.mem_filterMap.mpr ⟨w, List.mem_cons_self, adds⟩)
    · obtain ⟨v, hv, adds⟩ := List.mem_filterMap.mp added
      exact .inr (List.mem_filterMap.mpr ⟨v, List.mem_cons_of_mem _ hv, adds⟩)

/-- Writes that add different keys, none of them on the shelf, keep the keys apart. -/
theorem nodup_afterAll {ws : List Write} {m : Memory}
    (distinct : ((m.shelves .assignments).map Assignment.key).Nodup)
    (once : (ws.filterMap Write.key?).Nodup)
    (new : ∀ k ∈ ws.filterMap Write.key?, k ∉ (m.shelves .assignments).map Assignment.key) :
    (((afterAll supply ws m).shelves .assignments).map Assignment.key).Nodup := by
  induction ws generalizing m with
  | nil => exact distinct
  | cons w ws ih =>
    have later : ∀ k ∈ ws.filterMap Write.key?, k ∈ (w :: ws).filterMap Write.key? := by
      intro k hk
      obtain ⟨v, hv, adds⟩ := List.mem_filterMap.mp hk
      exact List.mem_filterMap.mpr ⟨v, List.mem_cons_of_mem _ hv, adds⟩
    refine ih ?_ ?_ fun k hk stored => ?_
    · exact Write.nodup_result distinct fun k adds =>
        new k (List.mem_filterMap.mpr ⟨w, List.mem_cons_self, adds⟩)
    · exact once.sublist ((List.sublist_cons_self w ws).filterMap _)
    · obtain ⟨x, hx, rfl⟩ := List.mem_map.mp stored
      rcases Write.mem_result hx with ⟨before, -⟩ | adds
      · exact new _ (later _ hk) (List.mem_map_of_mem before)
      · rw [List.filterMap_cons_some adds] at once
        exact (List.nodup_cons.mp once).1 hk

/-- Writes keep every item under an identifier of its own. -/
theorem keyed_afterAll (ws : List Write) {m : Memory}
    (keyed : Memory.Keyed (m.shelves .assignments)) :
    Memory.Keyed ((afterAll supply ws m).shelves .assignments) := by
  induction ws generalizing m with
  | nil => exact keyed
  | cons w ws ih =>
    refine ih ?_
    cases w with
    | drop a =>
      rw [Write.result_drop]
      exact keyed.remove
    | add k =>
      rw [Write.result_add]
      exact keyed.store Memory.id_storedAs

/-- The keys that a replacement adds are those that are missing. -/
theorem added_writes (r : Replacement) : r.writes.filterMap Write.key? = r.missing := by
  have drops : (r.obsolete.map Write.drop).filterMap Write.key? = [] := by
    rw [List.filterMap_map]
    exact List.filterMap_eq_nil_iff.mpr fun _ _ => rfl
  have adds : (r.missing.map Write.add).filterMap Write.key? = r.missing := by
    rw [List.filterMap_map]
    exact List.filterMap_some
  rw [writes, List.filterMap_append, drops, adds, List.nil_append]

/-- A replacement whose sent assignments are all the person's keeps the keys apart, wherever its
writes stop. -/
theorem nodup_firstWrites {r : Replacement} {m : Memory} {done rest : List Write}
    (own : ∀ a ∈ r.sent, a.personId = r.personId)
    (split : (r.against (m.shelves .assignments)).writes = done ++ rest)
    (distinct : ((m.shelves .assignments).map Assignment.key).Nodup) :
    (((afterAll supply done m).shelves .assignments).map Assignment.key).Nodup := by
  have first : (done.filterMap Write.key?).Sublist
      (r.against (m.shelves .assignments)).missing := by
    rw [← added_writes, split]
    exact (List.sublist_append_left done rest).filterMap _
  exact nodup_afterAll distinct ((nodup_missing _).sublist first) fun k hk =>
    missing_not_stored own (first.subset hk)

/-- A replacement that writes anything does not leave the assignments as they were. -/
theorem afterAll_writes_ne {r : Replacement} {m : Memory}
    (own : ∀ a ∈ r.sent, a.personId = r.personId)
    (identified : ∀ a ∈ m.shelves .assignments, ∃ id, Entity.id a = some id)
    (some : (r.against (m.shelves .assignments)).writes ≠ []) :
    (afterAll supply (r.against (m.shelves .assignments)).writes m).shelves .assignments ≠
      m.shelves .assignments := by
  intro same
  rcases List.eq_nil_or_concat (r.against (m.shelves .assignments)).missing with none | ⟨_, k, last⟩
  · -- Only removals: the first removed assignment is gone.
    have obsolete : (r.against (m.shelves .assignments)).obsolete ≠ [] := by
      intro nothing
      exact some (by rw [writes, none, nothing]; rfl)
    obtain ⟨a, ha⟩ := List.exists_mem_of_ne_nil _ obsolete
    have there : a ∈ m.shelves .assignments :=
      (Assignment.mem_heldBy.mp (mem_obsolete.mp ha).1).1
    obtain ⟨id, hid⟩ := identified a there
    rcases mem_afterAll (same.symm ▸ there) with ⟨-, kept⟩ | added
    · refine kept a (List.mem_append_left _ (List.mem_map_of_mem ha)) ?_
      rw [show a.id = _ from hid]
      rfl
    · rw [added_writes, none] at added
      exact List.not_mem_nil added
  · -- The last addition leaves an assignment whose key was not there.
    rw [List.concat_eq_append] at last
    have missing : k ∈ (r.against (m.shelves .assignments)).missing :=
      last ▸ List.mem_append_right _ (List.mem_singleton_self k)
    rw [writes, last, List.map_append, ← List.append_assoc, afterAll_append] at same
    change ((Write.add k).result supply _).shelves .assignments = _ at same
    rw [Write.result_add] at same
    refine missing_not_stored own missing (same ▸ ?_)
    exact List.mem_map.mpr ⟨_, Memory.mem_store_self, rfl⟩

end SchoolRegistry.Replacement
