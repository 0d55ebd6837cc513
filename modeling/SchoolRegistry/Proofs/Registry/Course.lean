import SchoolRegistry.Proofs.Registry.Writes

/-!
# The course of a replacement

`Replacement.Course` lists the ways a replacement can go under faults: it is not read, refused by
a rule, cut off at a write, not read again after the writes, or carried out. Each way says what it
leaves in the store, which calls it made and what it ends with. Every run takes one of them
(`ends_carryOut`, `ends_apply`), so that a fact about all runs is a case for each way.
-/

namespace SchoolRegistry

open Assignment (heldBy)

namespace Memory

variable {supply : Supply}

/-- A write does not look at the savepoints. -/
theorem result_savepoints (w : Replacement.Write) (stack : List Shelves) (m : Memory) :
    w.result supply { m with savepoints := stack } =
      { w.result supply m with savepoints := stack } := by
  cases w with
  | drop a => rfl
  | add k =>
    simp only [Replacement.Write.result, save_eq]
    rfl

theorem afterAll_savepoints (ws : List Replacement.Write) (stack : List Shelves) (m : Memory) :
    Replacement.afterAll supply ws { m with savepoints := stack } =
      { Replacement.afterAll supply ws m with savepoints := stack } := by
  induction ws generalizing m with
  | nil => rfl
  | cons w ws ih => rw [Replacement.afterAll_cons, result_savepoints, ih]; rfl

/-- Writes in a savepoint that is kept are the writes. -/
theorem keptFrom_afterAll (ws : List Replacement.Write) (m : Memory) :
    m.keptFrom (Replacement.afterAll supply ws m.mark) = Replacement.afterAll supply ws m := by
  rw [mark, afterAll_savepoints]
  exact (afterAll_savepoints ws m.savepoints m).symm

/-- Writes in a savepoint that is undone. -/
theorem undoneTo_afterAll (ws : List Replacement.Write) (m : Memory) :
    m.undoneTo (Replacement.afterAll supply ws m.mark) =
      m.undoneTo (Replacement.afterAll supply ws m) := by
  rw [mark, afterAll_savepoints]
  rfl

end Memory

namespace Replacement

variable {supply : Supply} {inUnitOfWork : Bool} {r : Replacement} {m : Monitored Memory}

/-- The call that reads the assignments of a person. -/
def load : Call := ⟨.assignments, .query, none⟩

/-- What a failing write leaves of the writes before it. -/
def leftover (inUnitOfWork : Bool) (before after : Memory) : Memory :=
  if inUnitOfWork then before.undoneTo after else after

/-- Whether writes are kept or undone, each collection is as it was before or after them. -/
theorem shelves_leftover (inUnitOfWork : Bool) (before after : Memory) (c : Collection) :
    (leftover inUnitOfWork before after).shelves c = before.shelves c ∨
      (leftover inUnitOfWork before after).shelves c = after.shelves c := by
  cases inUnitOfWork with
  | false => exact .inr rfl
  | true => exact ite_eq_or_eq _ _ _

/-- How a replacement goes, with what it ends with and what it leaves. -/
inductive Course (supply : Supply) (inUnitOfWork : Bool) (r : Replacement)
    (m : Monitored Memory) : Except Failure (Outcome (List Assignment)) → Monitored Memory → Prop
  /-- The stored assignments cannot be read. -/
  | unread {f : Failure} {m' : Monitored Memory} (disturbed : m.disturbances ≠ [])
    (made : m.Made [load] m') (store : m'.store = m.store) :
    Course supply inUnitOfWork r m (.error f) m'
  /-- A rule is violated. -/
  | refused {refusal : Refusal} {m' : Monitored Memory} (violated : r.violation? = some refusal)
    (made : m.Made [load] m') (store : m'.store = m.store) :
    Course supply inUnitOfWork r m (.ok (.error refusal)) m'
  /-- A write fails. -/
  | cut {done rest : List Write} {w : Write} {f : Failure} {m' : Monitored Memory}
    (satisfied : r.violation? = none) (split : r.writes = done ++ w :: rest)
    (void : m.disturbances = [] → w.IsVoid (afterAll supply done m.store))
    (made : m.Made (load :: (done.map Write.call ++ [w.call])) m')
    (store : m'.store = leftover inUnitOfWork m.store (afterAll supply done m.store)) :
    Course supply inUnitOfWork r m (.error f) m'
  /-- All writes are made, but what they leave cannot be read. -/
  | unseen {f : Failure} {m' : Monitored Memory} (satisfied : r.violation? = none)
    (disturbed : m.disturbances ≠ [])
    (made : m.Made (load :: (r.writes.map Write.call ++ [load])) m')
    (store : m'.store = afterAll supply r.writes m.store) :
    Course supply inUnitOfWork r m (.error f) m'
  | carriedOut {m' : Monitored Memory} (satisfied : r.violation? = none)
    (made : m.Made (load :: (r.writes.map Write.call ++ [load])) m')
    (store : m'.store = afterAll supply r.writes m.store) :
    Course supply inUnitOfWork r m
      (.ok (.ok (heldBy r.personId (m'.store.shelves .assignments)))) m'

/-- Reading the assignments of a person finds them, or it fails by a fault. -/
theorem ends_ofPerson (personId : String) (faults : m.Faulty) :
    (Memory.monitored supply).Ends (AssignmentRules.ofPerson personId) m fun x m' =>
      m.Made [load] m' ∧ m'.store = m.store ∧
        (x = .ok (heldBy personId (m.store.shelves .assignments)) ∨
          ∃ f, x = .error f ∧ m.disturbances ≠ []) := by
  refine (Memory.ends_query (c := .assignments) faults _).bind ?_ ?_
  · rintro found m' ⟨made, store, evaluated | ⟨_, ⟨⟩, -⟩⟩
    cases evaluated.trans (Assignment.evaluate_ofPersonQuery personId _)
    exact ⟨made, store, .inl rfl⟩
  · rintro f m' ⟨made, store, evaluated | ⟨_, -, disturbed⟩⟩
    · cases evaluated.trans (Assignment.evaluate_ofPersonQuery personId _)
    · exact ⟨made, store, .inr ⟨f, rfl, disturbed⟩⟩

/-- The write phase makes all writes or is cut off at one of them; in a unit of work those before
it are then undone. -/
theorem ends_writePhase (faults : m.Faulty) :
    (Memory.monitored supply).Ends (if inUnitOfWork then r.write.inSavepoint else r.write) m
      fun x m' =>
        x = .ok () ∧ m.Made (r.writes.map Write.call) m' ∧
            m'.store = afterAll supply r.writes m.store ∨
          ∃ done w rest f, r.writes = done ++ w :: rest ∧ x = .error f ∧
            m.Made (done.map Write.call ++ [w.call]) m' ∧
            m'.store = leftover inUnitOfWork m.store (afterAll supply done m.store) ∧
            (m.disturbances = [] → w.IsVoid (afterAll supply done m.store)) := by
  cases inUnitOfWork with
  | false =>
    rw [if_neg Bool.false_ne_true, write_eq]
    refine (ends_each r.personId r.writes faults).imp fun x m' h => h.imp_right ?_
    rintro ⟨done, w, rest, f, split, failed, made, store, void⟩
    exact ⟨done, w, rest, f, split, failed, made, store, fun quiet => store ▸ void quiet⟩
  | true =>
    rw [if_pos rfl]
    have body := @ends_each supply r.personId r.writes
      (m := { m with store := m.store.mark }) faults
    rw [← write_eq] at body
    refine Memory.Ends.inSavepoint (asks_write r) body ?_ ?_
    · rintro _ m' (⟨-, made, store⟩ | ⟨_, _, _, _, -, ⟨⟩, -⟩)
      refine .inl ⟨rfl, ⟨made.calls, made.kinds⟩, ?_⟩
      rw [store]
      exact Memory.keptFrom_afterAll r.writes m.store
    · rintro f m' (⟨⟨⟩, -⟩ | ⟨done, w, rest, _, split, -, made, store, void⟩)
      refine .inr ⟨done, w, rest, f, split, rfl, ⟨made.calls, made.kinds⟩, ?_, fun quiet => ?_⟩
      · rw [store]
        exact Memory.undoneTo_afterAll done m.store
      · -- Whether something is there to be removed does not depend on savepoints.
        have void := void quiet
        rw [store] at void
        change w.IsVoid (afterAll supply done m.store.mark) at void
        rw [Memory.mark, Memory.afterAll_savepoints] at void
        cases w with
        | drop a => exact void
        | add k => exact void

/-- Every run of a replacement takes one of the courses. -/
theorem ends_carryOut (r : Replacement) (faults : m.Faulty) :
    (Memory.monitored supply).Ends (r.carryOut inUnitOfWork) m
      (Course supply inUnitOfWork (r.against (m.store.shelves .assignments)) m) := by
  rw [carryOut_eq]
  refine (ends_ofPerson r.personId faults).bind ?_ ?_
  · rintro existing m₁ ⟨made₁, store₁, found | ⟨_, ⟨⟩, -⟩⟩
    cases found
    change (Memory.monitored supply).Ends (Creation.checkRules rules (r.against _) _) m₁ _
    rw [ends_checkRules]
    cases satisfied : (r.against (m.store.shelves .assignments)).violation? with
    | some refusal => exact Course.refused satisfied made₁ store₁
    | none =>
      dsimp only
      refine (ends_writePhase (made₁.faulty faults)).bind ?_ ?_
      · rintro _ m₂ (⟨-, made₂, store₂⟩ | ⟨_, _, _, _, -, ⟨⟩, -⟩)
        have made := made₁.trans made₂
        refine (ends_ofPerson r.personId (made.faulty faults)).bind ?_ ?_
        · rintro now m₃ ⟨made₃, store₃, found | ⟨_, ⟨⟩, -⟩⟩
          cases found
          rw [← store₃]
          exact Course.carriedOut satisfied (made₁.trans (made₂.trans made₃))
            (store₃.trans (store₂.trans (congrArg _ store₁)))
        · rintro f m₃ ⟨made₃, store₃, found | ⟨_, -, disturbed⟩⟩
          · cases found
          · exact Course.unseen satisfied (fun quiet => disturbed (made.undisturbed quiet))
              (made₁.trans (made₂.trans made₃))
              (store₃.trans (store₂.trans (congrArg _ store₁)))
      · rintro f m₂ (⟨⟨⟩, -⟩ | ⟨done, w, rest, _, split, -, made₂, store₂, void⟩)
        rw [store₁] at store₂ void
        exact Course.cut satisfied split (fun quiet => void (made₁.undisturbed quiet))
          (made₁.trans made₂) store₂
  · rintro f m₁ ⟨made₁, store₁, found | ⟨_, -, disturbed⟩⟩
    · cases found
    · exact Course.unread disturbed made₁ store₁

/-- How the service answers what a replacement ends with. -/
def answered (personId : String) {α : Type} : Except Failure (Outcome α) →
    Except Failure (Outcome α)
  | .error (.refused refusal) => .ok (.error refusal)
  | .error (.storage e) => .ok (.error (.notUpdated entity (some personId) (some e.message)))
  | x => x

/-- Every run of the service takes one of the courses. -/
theorem ends_apply (r : Replacement) (faults : m.Faulty) :
    (Memory.monitored supply).Ends (r.apply inUnitOfWork) m fun x m' =>
      ∃ y, x = answered r.personId y ∧
        Course supply inUnitOfWork (r.against (m.store.shelves .assignments)) m y m' := by
  unfold apply
  rw [Engine.ends_bind, Engine.ends_attempt]
  refine (ends_carryOut r faults).imp fun y m' course => ?_
  cases y with
  | ok outcome => exact ⟨_, rfl, course⟩
  | error f => cases f with
    | refused | storage => exact ⟨_, rfl, course⟩
    | _ => exact ⟨_, rfl, course⟩

end Replacement

end SchoolRegistry
