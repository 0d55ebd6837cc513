import SchoolRegistry.Proofs.Query.Assignments
import SchoolRegistry.Proofs.Store.Monitor

/-!
# Replacements

What a replacement asks for, before anything is written. Checking the rules refuses it with
`Replacement.violation?`, the refusal of the first rule that it violates, or goes on, and asks the
store nothing (`ends_checkRules`).

The writes of a replacement are a list that is known before the first of them is made
(`Replacement.writes`): the removals of what was not sent, then the additions of what is not
stored. No key is added twice (`nodup_missing`), and none that the person has already
(`mem_missing`).
-/

namespace SchoolRegistry.Replacement

variable {σ α β : Type} {supply : Supply} {r : Replacement}

/-! ## The rules -/

/-- The refusal of a replacement that violates a rule: the one of the first rule violated. -/
def violation? (r : Replacement) : Option Refusal :=
  if ∃ a ∈ r.sent, a.personId ≠ r.personId then
    some (.ruleViolated "PERSON_ID_MISMATCH" entity (some r.personId) [])
  else if (r.existing.length : Int) ≠ r.count then
    some (.ruleViolated "INVALID_PERSONENKONTEXT_COUNT" entity (some r.personId) [])
  else if ∃ a ∈ r.existing, ∃ s ∈ a.updatedAt, r.lastModified.instant < s.instant then
    some (.revisionMismatch entity (some r.personId) r.outdatedDetails)
  else none

/-- The first rule is violated by an assignment of another person. -/
theorem personIdsMatch_iff {r : Replacement} :
    r.personIdsMatch = true ↔ ¬∃ a ∈ r.sent, a.personId ≠ r.personId := by
  simp [personIdsMatch]

/-- The second rule is violated by another number of stored assignments. -/
theorem countMatches_iff {r : Replacement} :
    r.countMatches = true ↔ ¬(r.existing.length : Int) ≠ r.count := by
  simp [countMatches]

/-- The third rule is violated by a change after the given moment. -/
theorem notOutdated_iff {r : Replacement} :
    r.notOutdated = true ↔
      ¬∃ a ∈ r.existing, ∃ s ∈ a.updatedAt, r.lastModified.instant < s.instant := by
  simp only [notOutdated, Stamp.notAfter, List.all_eq_true, List.mem_filterMap,
    decide_eq_true_eq, not_exists, not_and, Int.not_lt]
  exact ⟨fun h a ha s hs => h s ⟨a, ha, hs⟩, fun h s ⟨a, ha, hs⟩ => h a ha s hs⟩

/-- The name of the rule that the refusal stands for. -/
def ruleOf (refusal : Refusal) : String := refusal.rule?.getD "PERSONENKONTEXTE_OUTDATED"

/-- Checking the rules refuses at the first violation, which is recorded, or else goes on. -/
theorem checkRules_eq (r : Replacement) (next : Service (Outcome α)) :
    Creation.checkRules rules r next = match r.violation? with
      | some refusal => do
        Journal.note (Pipeline.unsatisfied (ruleOf refusal) refusal)
        pure (.error refusal)
      | none => next := by
  unfold rules violation?
  rw [Creation.checkRules_cons (v := .flag r.personIdsMatch) rfl,
    Creation.checkRules_cons (v := .flag r.countMatches) rfl,
    Creation.checkRules_cons (v := .flag r.notOutdated) rfl, Creation.checkRules_nil]
  simp only [Value.truthy, personIdsMatch_iff, countMatches_iff, notOutdated_iff]
  by_cases sent : ∃ a ∈ r.sent, a.personId ≠ r.personId
  · rw [if_neg (not_not_intro sent), if_pos sent]
    rfl
  · rw [if_pos sent, if_neg sent]
    by_cases count : (r.existing.length : Int) ≠ r.count
    · rw [if_neg (not_not_intro count), if_pos count]
      rfl
    · rw [if_pos count, if_neg count]
      by_cases outdated :
        ∃ a ∈ r.existing, ∃ s ∈ a.updatedAt, r.lastModified.instant < s.instant
      · rw [if_neg (not_not_intro outdated), if_pos outdated]
        rfl
      · rw [if_pos outdated, if_neg outdated]

/-- Checking the rules refuses at the first violation, or else goes on. -/
theorem ends_checkRules {e : Engine σ} {m : σ} {r : Replacement} {next : Service (Outcome α)}
    {Q : Except Failure (Outcome α) → σ → Prop} :
    e.Ends (Creation.checkRules rules r next) m Q ↔
      match r.violation? with
      | some refusal => Q (.ok (.error refusal)) m
      | none => e.Ends next m Q := by
  rw [checkRules_eq]
  cases r.violation? with
  | some refusal => rfl
  | none => rfl

/-- What the rules demand of a replacement. -/
theorem violation?_eq_none {r : Replacement} :
    r.violation? = none ↔ (∀ a ∈ r.sent, a.personId = r.personId) ∧
      (r.existing.length : Int) = r.count ∧
      ∀ a ∈ r.existing, ∀ s ∈ a.updatedAt, s.instant ≤ r.lastModified.instant := by
  unfold violation?
  split
  · next h => simpa using fun all => absurd all (by simpa using h)
  · next sent =>
    split
    · next h => simpa using fun _ eq => absurd eq h
    · next count =>
      split
      · next h => simpa using fun _ _ => h
      · next outdated =>
        simp only [not_exists, not_and, ne_eq, Decidable.not_not, Int.not_lt] at sent count outdated
        exact ⟨fun _ => ⟨sent, count, outdated⟩, fun _ => rfl⟩

/-! ## The writes -/

/-- A write of a replacement. -/
inductive Write where
  /-- A stored assignment is removed. -/
  | drop (a : Assignment)
  /-- An assignment with a new key is added. -/
  | add (k : Assignment.Key)

namespace Write

/-- The service that makes the write. -/
def perform (personId : String) : Write → Service Unit
  | drop a => deleteOne a
  | add k => addOne personId k

/-- The call that the write makes. -/
def call : Write → Call
  | drop a => ⟨.assignments, .delete, some (a.id.getD "")⟩
  | add _ => ⟨.assignments, .save, none⟩

/-- The store after the write. -/
def result (supply : Supply) (m : Memory) : Write → Memory
  | drop a => (m.delete .assignments (a.id.getD "")).2
  | add k => (m.save supply .assignments (.ofKey k)).2

/-- Nothing is there to be removed. -/
def IsVoid (m : Memory) : Write → Prop
  | drop a => Memory.find? (a.id.getD "") (m.shelves .assignments) = none
  | add _ => False

end Write

/-- A store of one assignment, which takes part in savepoints. -/
def oneAssignment : Memory :=
  (Write.add ⟨"person-1", "org-1", "rolle-1"⟩).result (.counting Supply.usualStart)
    (.empty [.assignments])

theorem reachable_oneAssignment : oneAssignment.Reachable (.counting Supply.usualStart) :=
  (Memory.Reachable.empty _).answer
    (.save .assignments (Assignment.ofKey ⟨"person-1", "org-1", "rolle-1"⟩))

/-- The writes of a replacement, in their order. -/
def writes (r : Replacement) : List Write := r.obsolete.map .drop ++ r.missing.map .add

/-- Writing two lists is writing the one and then the other. -/
theorem each_append (write : α → Service Unit) (as bs : List α) :
    each write (as ++ bs) = (each write as >>= fun _ => each write bs) := by
  induction as with
  | nil => exact (pure_bind _ _).symm
  | cons a as ih => simp only [List.cons_append, each, ih, bind_assoc]

theorem each_map (write : β → Service Unit) (f : α → β) (as : List α) :
    each write (as.map f) = each (fun a => write (f a)) as := by
  induction as with
  | nil => rfl
  | cons a as ih => simp only [List.map_cons, each, ih]

/-- The write phase makes the writes, one after the other. -/
theorem write_eq (r : Replacement) : r.write = each (Write.perform r.personId) r.writes := by
  rw [writes, each_append, each_map, each_map]
  rfl

/-- The writes of a replacement delete and save assignments. -/
theorem asks_write_of {P : Request → Prop} (deletes : ∀ id, P (.delete .assignments id))
    (saves : ∀ a : Assignment, P (.save .assignments a)) (r : Replacement) : r.write.Asks P := by
  have one : ∀ w : Write, (w.perform r.personId).Asks P := by
    intro w
    cases w with
    | drop a =>
      refine (Service.asks_note _).bind fun _ => Service.Asks.bind ?_ fun deleted => ?_
      · exact Service.Asks.onStorageFailure (Service.asks_ask (deletes _)) fun _ =>
          (Service.asks_note _).bind fun _ => Service.asks_throw _
      · split
        · exact Service.asks_pure _
        · exact Service.asks_throw _
    | add k =>
      refine (Service.asks_note _).bind fun _ => Service.Asks.bind ?_ fun _ =>
        Service.asks_pure _
      exact Service.Asks.onStorageFailure (Service.asks_ask (saves _)) fun _ =>
        (Service.asks_note _).bind fun _ => Service.asks_throw _
  rw [write_eq]
  induction r.writes with
  | nil => exact Service.asks_pure _
  | cons w ws ih => exact (one w).bind fun _ => ih

/-- The writes of a replacement are calls and set no savepoint. -/
theorem asks_write (r : Replacement) : r.write.Asks Request.IsCall :=
  asks_write_of (fun _ => rfl) (fun _ => rfl) r

/-- The clauses of a replacement, with the write phase as one of them. -/
theorem carryOut_eq (inUnitOfWork : Bool) (r : Replacement) :
    r.carryOut inUnitOfWork = (do
      let existing ← AssignmentRules.ofPerson r.personId
      Creation.checkRules rules { r with existing := existing } (do
        (if inUnitOfWork then Service.inSavepoint (write { r with existing := existing })
          else write { r with existing := existing })
        let now ← AssignmentRules.ofPerson r.personId
        pure (.ok now))) := by
  cases inUnitOfWork <;> rfl

/-! ## Keys that are new -/

/-- The new keys are the listed ones that are not known. -/
theorem mem_newKeys {k : Assignment.Key} {known ks : List Assignment.Key} :
    k ∈ newKeys known ks ↔ k ∈ ks ∧ k ∉ known := by
  induction ks generalizing known with
  | nil => simp [newKeys]
  | cons k' rest ih =>
    unfold newKeys
    split
    · next seen =>
      have seen : k' ∈ known := by simpa using seen
      rw [ih, List.mem_cons]
      refine and_congr_left fun new => ⟨.inr, fun h => h.resolve_left ?_⟩
      rintro rfl
      exact new seen
    · next unseen =>
      have unseen : k' ∉ known := by simpa using unseen
      rw [List.mem_cons, ih, List.mem_cons, List.mem_cons]
      by_cases same : k = k'
      · simp [same, unseen]
      · simp [same]

/-- No key is new twice. -/
theorem nodup_newKeys (known ks : List Assignment.Key) : (newKeys known ks).Nodup := by
  induction ks generalizing known with
  | nil => exact List.nodup_nil
  | cons k rest ih =>
    unfold newKeys
    split
    · exact ih known
    · refine List.nodup_cons.mpr ⟨fun h => ?_, ih _⟩
      exact (mem_newKeys.mp h).2 List.mem_cons_self

/-- What is missing is what was sent and is not stored. -/
theorem mem_missing {r : Replacement} {k : Assignment.Key} :
    k ∈ r.missing ↔ k ∈ r.sent.map (·.key) ∧ k ∉ r.existing.map (·.key) := mem_newKeys

/-- No key is added twice. -/
theorem nodup_missing (r : Replacement) : r.missing.Nodup := nodup_newKeys _ _

/-- What is obsolete is what is stored and was not sent. -/
theorem mem_obsolete {r : Replacement} {a : Assignment} :
    a ∈ r.obsolete ↔ a ∈ r.existing ∧ a.key ∉ r.sent.map (·.key) := by
  simp only [obsolete, List.mem_filter, List.contains_eq_mem, Bool.not_eq_true',
    decide_eq_false_iff_not]

/-! ## Replacements and what is stored -/

/-- The request as it is checked and carried out when the given assignments are stored. -/
def against (r : Replacement) (items : List Assignment) : Replacement :=
  { r with existing := Assignment.heldBy r.personId items }

/-- If all sent assignments are the person's, so are the missing keys. -/
theorem personId_of_missing {k : Assignment.Key} (own : ∀ a ∈ r.sent, a.personId = r.personId)
    (h : k ∈ r.missing) : k.personId = r.personId := by
  obtain ⟨a, ha, rfl⟩ := List.mem_map.mp (mem_missing.mp h).1
  exact own a ha

/-- If all sent assignments are the person's, the missing keys are not stored at all. -/
theorem missing_not_stored {items : List Assignment} {k : Assignment.Key}
    (own : ∀ a ∈ r.sent, a.personId = r.personId) (h : k ∈ (r.against items).missing) :
    k ∉ items.map (·.key) := by
  intro stored
  obtain ⟨a, ha, rfl⟩ := List.mem_map.mp stored
  have person : a.personId = r.personId := personId_of_missing (r := r.against items) own h
  exact (mem_missing.mp h).2 (List.mem_map_of_mem (Assignment.mem_heldBy.mpr ⟨ha, person⟩))

/-- What is left of the given items when the obsolete ones are removed. -/
def remaining (r : Replacement) (items : List Assignment) : List Assignment :=
  items.filter fun x => x ∉ (r.against items).obsolete

/-- An item is left unless it is the person's and its key was not sent. -/
theorem mem_remaining {items : List Assignment} {x : Assignment} :
    x ∈ r.remaining items ↔
      x ∈ items ∧ (x.personId = r.personId → x.key ∈ r.sent.map (·.key)) := by
  rw [remaining, List.mem_filter, decide_eq_true_eq, mem_obsolete]
  refine and_congr_right fun there => ?_
  rw [not_and_not_right]
  exact ⟨fun h person => h (Assignment.mem_heldBy.mpr ⟨there, person⟩),
    fun h held => h (Assignment.mem_heldBy.mp held).2⟩

end SchoolRegistry.Replacement
