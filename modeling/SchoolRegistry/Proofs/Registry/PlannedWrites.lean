import SchoolRegistry.Proofs.Registry.Course
import SchoolRegistry.Proofs.Store.Trace

/-!
# Planned writes

Which writes a replacement makes is planned before the first of them (`Replacement.plan`): every
stored assignment whose key was not sent is removed, in the order in which they were read, and then
every key that was sent and is not stored is added once, in the order in which they were first sent.

Whatever the store answers, the writes that are attempted are the plan or, if one of them fails, the
plan up to this one (`Attempted`), and the failure is what the client is told. Each attempt is
recorded in the log before it is made, and nothing else in the log looks like such a record
(`issues_planned_writes`).

In a unit of work a failing write is followed by undoing the savepoint, which lets the failure
through. The stores here can always undo one; of a store that fails even at that, only the failure
of undoing is told, and no write follows it either.
-/

namespace SchoolRegistry.Replacement

open Assignment (Key)

variable {σ : Type} {e : Engine σ} {m : σ} {inUnitOfWork : Bool} {r : Replacement}

/-! ## The plan -/

/-- The writes that the stored and the sent assignments ask for. -/
def plan (r : Replacement) : List Write :=
  (r.existing.filter fun a => a.key ∉ r.sent.map (·.key)).map .drop ++
    ((r.sent.map (·.key)).filter fun k => k ∉ r.existing.map (·.key)).eraseDups.map .add

/-- The new keys are those that are not known, each at its first place. -/
theorem newKeys_eq_eraseDups (known ks : List Key) :
    newKeys known ks = (ks.filter fun k => k ∉ known).eraseDups := by
  induction ks generalizing known with
  | nil => rfl
  | cons k rest ih =>
    unfold newKeys
    by_cases seen : k ∈ known
    · rw [if_pos (by simpa using seen), List.filter_cons_of_neg (by simpa using seen)]
      exact ih known
    · rw [if_neg (by simpa using seen), List.filter_cons_of_pos (by simpa using seen),
        List.eraseDups_cons, ih, List.filter_filter]
      congr 3
      funext k'
      rw [Bool.eq_iff_iff]
      simp

/-- The writes that a replacement makes are the planned ones. -/
theorem writes_eq_plan (r : Replacement) : r.writes = r.plan := by
  unfold writes plan missing obsolete
  rw [newKeys_eq_eraseDups]
  congr 3
  funext a
  rw [List.contains_eq_mem, decide_not]

/-- A key that is sent twice is added once. -/
example : plan ⟨"person-1", Supply.usualStart, 1,
      [.ofKey ⟨"person-1", "org-2", "rolle-1"⟩, .ofKey ⟨"person-1", "org-2", "rolle-1"⟩],
      [.ofKey ⟨"person-1", "org-1", "rolle-1"⟩]⟩ =
    [.drop (.ofKey ⟨"person-1", "org-1", "rolle-1"⟩), .add ⟨"person-1", "org-2", "rolle-1"⟩] := by
  rfl

/-! ## Attempts -/

/-- A write that was attempted, with the answer of the store. -/
inductive Attempt where
  | drop (a : Assignment) (answer : Except Failure Bool)
  | add (k : Key) (answer : Except Failure Assignment)

namespace Attempt

/-- The write that was attempted. -/
def write : Attempt → Write
  | drop a _ => .drop a
  | add k _ => .add k

/-- The record of the attempt and the request. An added assignment is a new one. -/
def events : Attempt → List Event
  | drop a answer => [.noted (writeRecord "DELETE" a.key),
      .asked (.delete .assignments (a.id.getD "")) answer]
  | add k answer => [.noted (writeRecord "ADD" k), .asked (.save .assignments (.ofKey k)) answer]

/-- What is wrong with the attempt, if it failed. -/
def failure? (personId : String) : Attempt → Option Failure
  | drop _ (.ok true) => none
  | drop a (.ok false) => some (.refused (.notDeleted entity a.id none))
  | drop a (.error (.storage err)) =>
    some (.refused (.notDeleted entity a.id (some err.message)))
  | add _ (.ok _) => none
  | add _ (.error (.storage err)) =>
    some (.refused (.notUpdated entity (some personId) (some err.message)))
  | drop _ (.error f) => some f
  | add _ (.error f) => some f

/-- The complaint about a failure of the store. -/
def complaints (personId : String) : Attempt → List Event
  | drop a (.error (.storage _)) => [.noted ⟨logger, .error,
      "Deleting Personenkontext " ++ Creation.shownText a.id ++ " failed"⟩]
  | add _ (.error (.storage _)) => [.noted ⟨logger, .error,
      "Adding Personenkontext for " ++ personId ++ " failed"⟩]
  | _ => []

/-- All that is seen of the attempt. -/
def shown (personId : String) (t : Attempt) : List Event := t.events ++ t.complaints personId

end Attempt

/-- How far a list of writes gets: all are made, or one fails and those after it are not
attempted. -/
inductive Attempted (personId : String) : List Write → List Attempt → Except Failure Unit → Prop
  | all {made : List Attempt} (succeeded : ∀ t ∈ made, t.failure? personId = none) :
    Attempted personId (made.map Attempt.write) made (.ok ())
  | cut {made : List Attempt} {t : Attempt} {f : Failure} (unmade : List Write)
    (succeeded : ∀ t ∈ made, t.failure? personId = none) (failed : t.failure? personId = some f) :
    Attempted personId (made.map Attempt.write ++ t.write :: unmade) (made ++ [t]) (.error f)

namespace Attempted

variable {personId : String} {ws : List Write} {t : Attempt} {attempts : List Attempt}
  {x : Except Failure Unit}

/-- A write that succeeds is followed by what the rest comes to. -/
theorem cons (succeeded : t.failure? personId = none) (h : Attempted personId ws attempts x) :
    Attempted personId (t.write :: ws) (t :: attempts) x := by
  cases h with
  | all all => exact .all (List.forall_mem_cons.mpr ⟨succeeded, all⟩)
  | cut unmade all failed =>
    exact .cut unmade (List.forall_mem_cons.mpr ⟨succeeded, all⟩) failed

end Attempted

/-! ## The write phase -/

/-- One write is one attempt. -/
theorem shows_perform (personId : String) (w : Write) :
    e.Shows (w.perform personId) m fun es x _ => ∃ t : Attempt, t.write = w ∧
      es = t.shown personId ∧ x = match t.failure? personId with
        | none => .ok ()
        | some f => .error f := by
  cases w with
  | drop a =>
    unfold Write.perform deleteOne
    rw [Engine.shows_bind, Engine.shows_note]
    dsimp only
    rw [Engine.shows_bind, Engine.shows_onStorageFailure, Engine.shows_ask]
    cases (e.handler.answer (.delete .assignments (a.id.getD "")) m).1 with
    | ok deleted => cases deleted with
      | true => exact ⟨.drop a (.ok true), rfl, rfl, rfl⟩
      | false => exact ⟨.drop a (.ok false), rfl, rfl, rfl⟩
    | error f => cases f with
      | storage err => exact ⟨.drop a (.error (.storage err)), rfl, rfl, rfl⟩
      | _ => exact ⟨.drop a (.error _), rfl, rfl, rfl⟩
  | add k =>
    unfold Write.perform addOne
    rw [Engine.shows_bind, Engine.shows_note]
    dsimp only
    rw [Engine.shows_bind, Engine.shows_onStorageFailure, Engine.shows_ask]
    cases (e.handler.answer (.save .assignments (Assignment.ofKey k)) m).1 with
    | ok saved => exact ⟨.add k (.ok saved), rfl, rfl, rfl⟩
    | error f => cases f with
      | storage err => exact ⟨.add k (.error (.storage err)), rfl, rfl, rfl⟩
      | _ => exact ⟨.add k (.error _), rfl, rfl, rfl⟩

/-- A list of writes is attempted up to the first one that fails. -/
theorem shows_each (personId : String) (ws : List Write) :
    e.Shows (each (Write.perform personId) ws) m fun es x _ => ∃ attempts,
      Attempted personId ws attempts x ∧ es = attempts.flatMap (Attempt.shown personId) := by
  induction ws generalizing m with
  | nil => exact ⟨[], .all (List.forall_mem_nil _), rfl⟩
  | cons w ws ih =>
    refine (shows_perform personId w).bind ?_ ?_
    · rintro es ⟨⟩ m' ⟨t, rfl, rfl, told⟩
      refine ih.imp ?_
      rintro es' x _ ⟨attempts, attempted, rfl⟩
      refine ⟨t :: attempts, attempted.cons ?_, rfl⟩
      cases none : t.failure? personId with
      | none => rfl
      | some f =>
        rw [none] at told
        cases told
    · rintro es f m' ⟨t, rfl, rfl, told⟩
      cases failed : t.failure? personId with
      | none =>
        rw [failed] at told
        cases told
      | some f' =>
        rw [failed] at told
        cases told
        exact ⟨[t], .cut ws (List.forall_mem_nil _) failed,
          (List.flatMap_singleton _ _).symm⟩

/-! ## Events of writes -/

/-- Whether an event is a write or the record of one. -/
def isWrite : Event → Bool
  | .asked (.save ..) _ => true
  | .asked (.delete ..) _ => true
  | .asked .. => false
  | .noted r => r.logger = logger && r.level = .info

/-- The record of a write counts as a write. -/
theorem isWrite_writeRecord (verb : String) (k : Key) :
    isWrite (.noted (writeRecord verb k)) = true := by
  simp [isWrite, writeRecord]

/-- A complaint is not taken for a write. -/
theorem isWrite_complaint (text : String) :
    isWrite (.noted ⟨logger, .error, text⟩) = false := by
  simp [isWrite]

/-- The record of a violated rule is not taken for a write. -/
theorem isWrite_unsatisfied (rule : String) (refusal : Refusal) :
    isWrite (.noted (Pipeline.unsatisfied rule refusal)) = false := by
  simp [isWrite, Pipeline.unsatisfied, logger]

/-- Of all that is seen of an attempt, its own events are the writes. -/
theorem filter_isWrite_shown (personId : String) (t : Attempt) :
    (t.shown personId).filter isWrite = t.events := by
  have all : ∀ ev ∈ t.events, isWrite ev = true := by
    cases t with
    | drop a answer =>
      exact List.forall_mem_cons.mpr ⟨isWrite_writeRecord _ _, List.forall_mem_singleton.mpr rfl⟩
    | add k answer =>
      exact List.forall_mem_cons.mpr ⟨isWrite_writeRecord _ _, List.forall_mem_singleton.mpr rfl⟩
  have none : ∀ ev ∈ t.complaints personId, ¬isWrite ev = true := by
    unfold Attempt.complaints
    split
    · exact List.forall_mem_singleton.mpr (by rw [isWrite_complaint]; exact Bool.false_ne_true)
    · exact List.forall_mem_singleton.mpr (by rw [isWrite_complaint]; exact Bool.false_ne_true)
    · exact List.forall_mem_nil _
  rw [Attempt.shown, List.filter_append, List.filter_eq_self.mpr all,
    List.filter_eq_nil_iff.mpr none, List.append_nil]

theorem filter_isWrite_flatMap (personId : String) (attempts : List Attempt) :
    (attempts.flatMap (Attempt.shown personId)).filter isWrite =
      attempts.flatMap Attempt.events := by
  rw [List.filter_flatMap]
  simp only [filter_isWrite_shown]

/-! ## Applying a replacement -/

/-- The write phase attempts writes, unless the savepoint cannot be set. Around the attempts nothing
is a write. If one failed, the phase fails with its failure, unless undoing fails as well. -/
theorem shows_writePhase :
    e.Shows (if inUnitOfWork then r.write.inSavepoint else r.write) m fun es y _ =>
      (∃ f, es = [.asked .setSavepoint (.error f)] ∧ y = .error f) ∨
      ∃ attempts x, Attempted r.personId r.writes attempts x ∧
        es.filter isWrite = attempts.flatMap Attempt.events ∧
        ∀ f, x = .error f → (∀ f', .asked .undoSavepoint (.error f') ∉ es) → y = .error f := by
  have body (m : σ) := shows_each (e := e) (m := m) r.personId r.writes
  rw [← write_eq] at body
  cases inUnitOfWork with
  | false =>
    refine (body m).imp ?_
    rintro es x _ ⟨attempts, attempted, rfl⟩
    exact .inr ⟨attempts, x, attempted, filter_isWrite_flatMap _ _, fun f failed _ => failed⟩
  | true =>
    have writes (attempts : List Attempt) (last : Event) (other : isWrite last = false) :
        (.asked .setSavepoint (.ok ()) :: attempts.flatMap (Attempt.shown r.personId) ++
          [last]).filter isWrite = attempts.flatMap Attempt.events := by
      rw [List.filter_append, List.filter_cons_of_neg (by exact Bool.false_ne_true),
        filter_isWrite_flatMap, List.filter_singleton, other]
      exact List.append_nil _
    refine Engine.Shows.inSavepoint body ?_ ?_ ?_
    · intro f m'
      exact .inl ⟨f, rfl, rfl⟩
    · rintro _ ⟨⟩ m' y m'' ⟨attempts, attempted, rfl⟩
      exact .inr ⟨attempts, _, attempted, writes attempts (.asked .keepSavepoint y) rfl, nofun⟩
    · rintro _ f m' y m'' ⟨attempts, attempted, rfl⟩
      refine .inr ⟨attempts, _, attempted, writes attempts (.asked .undoSavepoint y) rfl, ?_⟩
      rintro _ ⟨⟩ undone
      cases y with
      | ok _ => rfl
      | error f' =>
        exact absurd (List.mem_append_right _ (List.mem_singleton_self _)) (undone f')

/-! ## Carrying out a replacement -/

/-- The stored assignments of the person are asked for and the store answers. -/
def loaded (r : Replacement) (answer : Except Failure (Counted Assignment)) : Event :=
  .asked (.query .assignments (AssignmentRules.ofPersonQuery r.personId)) answer

/-- How a replacement that shows the events is carried out: the writes that are attempted, and what
it ends with. -/
inductive Carried (r : Replacement) (es : List Event) :
    List Attempt → Except Failure (Outcome (List Assignment)) → Prop
  /-- The stored assignments cannot be read. -/
  | unread {f : Failure} (first : [r.loaded (.error f)] <+: es) : Carried r es [] (.error f)
  /-- A rule is violated. -/
  | violated {found : Counted Assignment} {refusal : Refusal}
    (first : [r.loaded (.ok found)] <+: es)
    (violated : violation? { r with existing := found.items } = some refusal) :
    Carried r es [] (.ok (.error refusal))
  /-- The savepoint cannot be set. -/
  | unmarked {found : Counted Assignment} {f : Failure}
    (first : [r.loaded (.ok found), .asked .setSavepoint (.error f)] <+: es) :
    Carried r es [] (.error f)
  /-- Writes are attempted. A failure of one is that of the whole, unless the savepoint cannot be
  undone either. -/
  | attempted {found : Counted Assignment} {attempts : List Attempt} {x : Except Failure Unit}
    {y : Except Failure (Outcome (List Assignment))} (first : [r.loaded (.ok found)] <+: es)
    (satisfied : violation? { r with existing := found.items } = none)
    (planned : Attempted r.personId (plan { r with existing := found.items }) attempts x)
    (told : ∀ f, x = .error f → (∀ f', .asked .undoSavepoint (.error f') ∉ es) → y = .error f) :
    Carried r es attempts y

/-- Events that come later change nothing about how a replacement was carried out. -/
theorem Carried.append {es es' : List Event} {attempts : List Attempt}
    {y : Except Failure (Outcome (List Assignment))} (h : Carried r es attempts y) :
    Carried r (es ++ es') attempts y := by
  have more {first : List Event} (h : first <+: es) : first <+: es ++ es' :=
    h.trans (List.prefix_append _ _)
  cases h with
  | unread first => exact .unread (more first)
  | violated first violated => exact .violated (more first) violated
  | unmarked first => exact .unmarked (more first)
  | attempted first satisfied planned told =>
    refine .attempted (more first) satisfied planned fun f failed undone => told f failed ?_
    exact fun f' there => undone f' (List.mem_append_left _ there)

/-- Loading the assignments of a person makes one query and returns what it answers. -/
theorem shows_ofPerson (personId : String) :
    e.Shows (AssignmentRules.ofPerson personId) m fun es x _ => ∃ answer,
      es = [.asked (.query .assignments (AssignmentRules.ofPersonQuery personId)) answer] ∧
        x = answer.map (·.items) := by
  unfold AssignmentRules.ofPerson
  rw [Engine.shows_bind, Engine.shows_ask]
  cases (e.handler.answer (.query .assignments (AssignmentRules.ofPersonQuery personId)) m).1 with
  | ok found => exact ⟨.ok found, rfl, rfl⟩
  | error f => exact ⟨.error f, rfl, rfl⟩

/-- What follows the reading of the stored assignments. -/
theorem shows_checked (found : Counted Assignment) :
    let r' := { r with existing := found.items }
    e.Shows (Creation.checkRules rules r' do
        (if inUnitOfWork then r'.write.inSavepoint else r'.write)
        let now ← AssignmentRules.ofPerson r.personId
        pure (.ok now)) m fun es y _ => ∃ attempts,
      Carried r (r.loaded (.ok found) :: es) attempts y ∧
        es.filter isWrite = attempts.flatMap Attempt.events := by
  intro r'
  rw [checkRules_eq]
  have first (es : List Event) : [r.loaded (.ok found)] <+: r.loaded (.ok found) :: es :=
    List.prefix_append [_] es
  have reread (m : σ) : e.Shows (do
        let now ← AssignmentRules.ofPerson r.personId
        pure (.ok now : Outcome (List Assignment))) m fun es _ _ =>
      ∃ answer, es = [r.loaded answer] := by
    refine (shows_ofPerson r.personId).bind ?_ ?_
    · rintro _ now _ ⟨answer, rfl, -⟩
      exact ⟨answer, rfl⟩
    · rintro _ f _ ⟨answer, rfl, -⟩
      exact ⟨answer, rfl⟩
  cases satisfied : r'.violation? with
  | some refusal =>
    dsimp only
    rw [Engine.shows_bind, Engine.shows_note]
    refine ⟨[], .violated (first _) satisfied, ?_⟩
    rw [List.filter_append, List.filter_singleton, isWrite_unsatisfied]
    rfl
  | none =>
    dsimp only
    refine shows_writePhase.bind ?_ ?_
    · -- The writes were made, and the assignments are loaded again.
      rintro es ⟨⟩ m₁ (⟨f, -, ⟨⟩⟩ | ⟨attempts, x, attempted, writes, told⟩)
      refine (reread m₁).imp ?_
      rintro _ y _ ⟨answer, rfl⟩
      refine ⟨attempts, .attempted (first _) satisfied (writes_eq_plan r' ▸ attempted) ?_, ?_⟩
      · intro f failed undone
        refine nomatch told f failed fun f' there => undone f' ?_
        exact List.mem_cons_of_mem _ (List.mem_append_left _ there)
      · rw [List.filter_append, writes]
        exact List.append_nil _
    · -- No savepoint could be set, or a write failed; nothing is loaded.
      rintro es f m₁ (⟨f', rfl, failed⟩ | ⟨attempts, x, attempted, writes, told⟩)
      · cases failed
        exact ⟨[], .unmarked (List.prefix_refl _), rfl⟩
      · refine ⟨attempts, .attempted (first _) satisfied (writes_eq_plan r' ▸ attempted) ?_, writes⟩
        intro f' failed undone
        have told := told f' failed fun f'' there => undone f'' (List.mem_cons_of_mem _ there)
        cases told
        rfl

/-- Carrying out a replacement shows, of writes, the attempted ones and nothing else. -/
theorem shows_carryOut :
    e.Shows (r.carryOut inUnitOfWork) m fun es y _ => ∃ attempts, Carried r es attempts y ∧
      es.filter isWrite = attempts.flatMap Attempt.events := by
  rw [carryOut_eq]
  refine (shows_ofPerson r.personId).bind ?_ ?_
  · rintro _ existing m₁ ⟨answer, rfl, read⟩
    cases answer with
    | error f => cases read
    | ok found =>
      cases read
      exact shows_checked found
  · rintro _ f m₁ ⟨answer, rfl, read⟩
    cases answer with
    | ok found => cases read
    | error f =>
      cases read
      exact ⟨[], .unread (List.prefix_refl _), rfl⟩

/-- A replacement attempts the planned writes up to the first that fails, and each attempt is
recorded. What the client is told of a failing write names the assignment or the person. -/
theorem issues_planned_writes (e : Engine σ) (m : σ) (inUnitOfWork : Bool) (r : Replacement) :
    (e.Shows r.write m fun es x _ => ∃ attempts,
      Attempted r.personId r.plan attempts x ∧
        es = attempts.flatMap (Attempt.shown r.personId)) ∧
    e.Shows (r.apply inUnitOfWork) m fun es x _ => ∃ attempts y,
      Carried r es attempts y ∧ x = answered r.personId y ∧
        es.filter isWrite = attempts.flatMap Attempt.events := by
  constructor
  · rw [write_eq, ← writes_eq_plan]
    exact shows_each r.personId r.writes
  · unfold apply
    rw [Engine.shows_bind, Engine.shows_attempt]
    refine shows_carryOut.imp ?_
    rintro es y m' ⟨attempts, carried, writes⟩
    have last (es' : List Event) (quiet : es'.filter isWrite = []) :
        (es ++ es').filter isWrite = attempts.flatMap Attempt.events := by
      rw [List.filter_append, writes, quiet, List.append_nil]
    cases y with
    | ok outcome => exact ⟨attempts, _, carried.append, rfl, last _ rfl⟩
    | error f => cases f with
      | refused refusal => exact ⟨attempts, _, carried.append, rfl, last _ rfl⟩
      | storage err =>
        dsimp only
        rw [Engine.shows_bind, Engine.shows_note]
        refine ⟨attempts, _, carried.append, rfl, last _ ?_⟩
        rw [List.filter_append, List.filter_singleton, isWrite_complaint]
        rfl
      | _ => exact ⟨attempts, _, carried.append, rfl, last _ rfl⟩

end SchoolRegistry.Replacement
