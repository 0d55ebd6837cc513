import SchoolRegistry.Proofs.Registry.Course

/-!
# Refused replacements

A replacement in a unit of work is to happen as a whole or not at all. Of all refusals under any
faults, only one kind leaves changed assignments: the one after all writes were made and kept, when
reading what they leave fails. It can be told from the calls, which are a load, at least one write
and another load (`Reread`).
-/

namespace SchoolRegistry.Replacement

variable {supply : Supply} {r : Replacement} {m m' : Monitored Memory}
  {x : Except Failure (Outcome (List Assignment))}

/-- The service returns a refusal. -/
def Refuses {α : Type} (x : Except Failure (Outcome α)) : Prop :=
  ∃ refusal, x = .ok (.error refusal)

instance {α : Type} (x : Except Failure (Outcome α)) : Decidable (Refuses x) :=
  match x with
  | .ok (.error refusal) => isTrue ⟨refusal, rfl⟩
  | .ok (.ok _) => isFalse fun ⟨_, h⟩ => nomatch h
  | .error _ => isFalse fun ⟨_, h⟩ => nomatch h

/-- The calls of a replacement that made writes and went on to read what they leave. -/
def Reread (calls : List Call) : Prop := ∃ writes, writes ≠ [] ∧ calls = load :: writes ++ [load]

/-- A write is no load. -/
theorem call_ne_load (w : Write) : w.call ≠ load := by
  cases w with
  | drop a => simp [Write.call, load]
  | add k => simp [Write.call, load]

/-- Before anything is written there is nothing to read again. -/
theorem not_reread_load : ¬Reread [load] := by
  rintro ⟨writes, some, calls⟩
  exact some (List.append_eq_nil_iff.mp (List.cons.inj calls).2.symm).1

/-- Writes of which the last one is the last call were not followed by a load. -/
theorem not_reread_cut (done : List Write) (w : Write) :
    ¬Reread (load :: (done.map Write.call ++ [w.call])) := by
  rintro ⟨writes, -, calls⟩
  have last : [w.call] = [load] := List.append_inj_right' (List.cons.inj calls).2 rfl
  exact call_ne_load w (List.cons.inj last).1

/-- A load after the writes reads again what they left, unless there were none. -/
theorem reread_writes_iff (ws : List Write) :
    Reread (load :: (ws.map Write.call ++ [load])) ↔ ws ≠ [] := by
  constructor
  · rintro ⟨writes, some, calls⟩ rfl
    exact some (List.append_cancel_right (List.cons.inj calls).2).symm
  · intro some
    exact ⟨ws.map Write.call, by simpa using some, rfl⟩

/-- What a unit of work leaves of writes that are cut off is what was there before. -/
theorem leftover_enlisted {before after : Memory} (enlisted : .assignments ∈ before.enlisted) :
    (leftover true before after).shelves .assignments = before.shelves .assignments := by
  simp [leftover, Memory.undoneTo, Shelving.restore, enlisted]

/-- In a unit of work a course that ends without the assignments has changed them exactly if it
made writes and went on to read what they leave. -/
theorem Course.changes_iff
    (course : Course supply true (r.against (m.store.shelves .assignments)) m x m')
    (enlisted : .assignments ∈ m.store.enlisted)
    (identified : ∀ a ∈ m.store.shelves .assignments, ∃ id, Entity.id a = some id)
    (start : m.calls = []) (failed : ∀ now, x ≠ .ok (.ok now)) :
    m'.store.shelves .assignments ≠ m.store.shelves .assignments ↔ Reread m'.calls := by
  have calls {made : List Call} (h : m.Made made m') : m'.calls = made := by
    rw [h.calls, start, List.nil_append]
  cases course with
  | unread disturbed made store =>
    rw [calls made, store]
    exact iff_of_false (not_not_intro rfl) not_reread_load
  | refused violated made store =>
    rw [calls made, store]
    exact iff_of_false (not_not_intro rfl) not_reread_load
  | cut satisfied split void made store =>
    rw [calls made, store, leftover_enlisted enlisted]
    exact iff_of_false (not_not_intro rfl) (not_reread_cut _ _)
  | unseen satisfied disturbed made store =>
    rw [calls made, store, reread_writes_iff]
    refine ⟨fun changed none => changed ?_, fun some => ?_⟩
    · rw [none]
      rfl
    · exact afterAll_writes_ne (violation?_eq_none.mp satisfied).1 identified some
  | carriedOut => exact absurd rfl (failed _)

/-- A refused replacement in a unit of work leaves the assignments as they were, under any faults,
except that it has changed them if it made writes and failed to read what they leave. -/
theorem refused_changes_iff {m : Memory} {faults : List Disturbance} (personId : String)
    (lastModified : Moment) (count : Int) (sent : List Assignment)
    (enlisted : .assignments ∈ m.enlisted)
    (identified : ∀ a ∈ m.shelves .assignments, ∃ id, Entity.id a = some id)
    (faulty : ∀ d ∈ faults, d.IsFault) :
    (Memory.monitored supply).Ends (Assignments.replace true personId lastModified count sent)
      (.under faults m) fun x m' => Refuses x →
        (m'.store.shelves .assignments ≠ m.shelves .assignments ↔ Reread m'.calls) := by
  refine (ends_apply (m := .under faults m) _ faulty).imp ?_
  rintro _ m' ⟨y, rfl, course⟩ ⟨refusal, refused⟩
  refine course.changes_iff enlisted identified rfl ?_
  rintro now rfl
  cases refused

/-! ## A refusal that leaves changes -/

/-- The second load fails. -/
def secondLoadFails : Disturbance :=
  ⟨.assignments, .query, .failure (.storage (.reported .store "db down")), 1, 1⟩

/-- The run that removes the assignment and fails to read what is left. -/
def unseenRemoval : Ran (Monitored Memory) (Except Failure (Outcome (List Assignment))) :=
  (Memory.monitored (.counting Supply.usualStart)).run
    (Assignments.replace true "person-1" (.fixed Supply.usualStart) 1 [])
    (.under [secondLoadFails] oneAssignment)

theorem identified_oneAssignment :
    ∀ a ∈ oneAssignment.shelves .assignments, ∃ id, Entity.id a = some id :=
  (reachable_oneAssignment.keyed .assignments).identified

theorem isFault_secondLoadFails : ∀ d ∈ [secondLoadFails], d.IsFault := by
  intro d hd
  cases List.mem_singleton.mp hd
  trivial

/-- The removal is refused and done all the same: what fails is the load after it. -/
theorem refused_changes_unseenRemoval :
    Refuses unseenRemoval.result ∧
      (unseenRemoval.state.store.shelves .assignments ≠ oneAssignment.shelves .assignments ↔
        Reread unseenRemoval.state.calls) := by
  have refuses : Refuses unseenRemoval.result := by decide +kernel
  exact ⟨refuses, refused_changes_iff "person-1" (.fixed Supply.usualStart) 1 [] (by decide)
    identified_oneAssignment isFault_secondLoadFails refuses⟩

/-- A replacement in a unit of work is not always all or nothing. -/
theorem replace_not_all_or_nothing :
    ¬∀ (supply : Supply) (m : Memory) (faults : List Disturbance) (personId : String)
      (lastModified : Moment) (count : Int) (sent : List Assignment),
      .assignments ∈ m.enlisted → (∀ a ∈ m.shelves .assignments, ∃ id, Entity.id a = some id) →
        (∀ d ∈ faults, d.IsFault) →
        (Memory.monitored supply).Ends (Assignments.replace true personId lastModified count sent)
          (.under faults m) fun x m' =>
            Refuses x → m'.store.shelves .assignments = m.shelves .assignments := by
  intro all
  have kept := all (.counting Supply.usualStart) oneAssignment [secondLoadFails] "person-1"
    (.fixed Supply.usualStart) 1 [] (by decide) identified_oneAssignment isFault_secondLoadFails
    (by decide +kernel)
  revert kept
  decide +kernel

end SchoolRegistry.Replacement
