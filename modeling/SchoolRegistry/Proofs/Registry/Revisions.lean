import SchoolRegistry.Proofs.Registry.PlannedWrites
import SchoolRegistry.Proofs.Registry.Replaced

/-!
# Revision times

Whether stored assignments were changed since a client looked is decided by instants. Moments with
an offset and moments without one cannot be compared at all (`Moment.compare?`), so this rests on
both sides having one: the stamps of entities have it by their type, however they were read or
assigned, and the moment that the client names is given one when it is received.

`Moment.noneAfter` finds the latest of some moments and compares it, and fails where two moments
cannot be compared. What it makes of the moments that stored assignments show is what the rule on
the last change answers (`noneAfter_shownChanges`). So a replacement fails with nothing but failures
of the store, and depends on the instant that the client names only: the same instant in another
offset shows up in the text of a refusal and nowhere else (`compares_instants`).
-/

namespace SchoolRegistry

variable {σ : Type}

/-! ## Comparing moments -/

namespace Moment

/-- The latest of some moments, if they can be compared: each is compared with the latest of those
before it. -/
def latest : Moment → List Moment → Except Failure Moment
  | last, [] => .ok last
  | last, m :: rest =>
    match m.compare? last with
    | some .gt => latest m rest
    | some _ => latest last rest
    | none => .error .wrongType

/-- Whether none of the moments is after the given one, if they can be compared. -/
def noneAfter (bound : Moment) : List Moment → Except Failure Bool
  | [] => .ok true
  | first :: rest => do
    let last ← latest first rest
    match last.compare? bound with
    | some order => pure (order != .gt)
    | none => throw .wrongType

/-- Among moments with an offset the later instant is kept. -/
theorem latest_cons_fixed (last s : Stamp) (rest : List Moment) :
    latest (.fixed last) (.fixed s :: rest) =
      if last.instant < s.instant then latest (.fixed s) rest else latest (.fixed last) rest := by
  rw [latest, compare?]
  cases order : compare s.instant last.instant with
  | gt => exact (if_pos (Int.compare_eq_gt.mp order)).symm
  | lt => exact (if_neg (Int.not_lt.mpr (Int.le_of_lt (Int.compare_eq_lt.mp order)))).symm
  | eq => exact (if_neg (Int.not_lt.mpr (Int.le_of_eq (Int.compare_eq_eq.mp order)))).symm

/-- Stamps have a latest one. -/
theorem latest_fixed (last : Stamp) (stamps : List Stamp) :
    ∃ s ∈ last :: stamps, latest (.fixed last) (stamps.map .fixed) = .ok (.fixed s) ∧
      ∀ t ∈ last :: stamps, t.instant ≤ s.instant := by
  induction stamps generalizing last with
  | nil =>
    exact ⟨last, List.mem_singleton_self _, rfl,
      List.forall_mem_singleton.mpr (Int.le_refl _)⟩
  | cons t rest ih =>
    rw [List.map_cons, latest_cons_fixed]
    by_cases later : last.instant < t.instant
    · obtain ⟨s, hs, found, bound⟩ := ih t
      have le := bound t List.mem_cons_self
      rw [if_pos later]
      exact ⟨s, List.mem_cons_of_mem _ hs, found, List.forall_mem_cons.mpr ⟨by omega, bound⟩⟩
    · obtain ⟨s, hs, found, bound⟩ := ih last
      obtain ⟨le, others⟩ := List.forall_mem_cons.mp bound
      rw [if_neg later]
      refine ⟨s, ?_, found, List.forall_mem_cons.mpr ⟨le, List.forall_mem_cons.mpr ⟨?_, others⟩⟩⟩
      · exact List.mem_cons.mpr ((List.mem_cons.mp hs).imp_right (List.mem_cons_of_mem _))
      · omega

/-- Comparing stamps never fails. -/
theorem noneAfter_fixed (bound : Stamp) (stamps : List Stamp) :
    noneAfter (.fixed bound) (stamps.map .fixed) = .ok (stamps.all (·.notAfter bound)) := by
  cases stamps with
  | nil => rfl
  | cons first rest =>
    obtain ⟨s, hs, found, latest⟩ := latest_fixed first rest
    rw [List.map_cons, noneAfter, found]
    refine congrArg Except.ok (Bool.eq_iff_iff.mpr ?_)
    rw [bne_iff_ne, ne_eq, Int.compare_eq_gt, Int.not_lt, List.all_eq_true]
    simp only [Stamp.notAfter, decide_eq_true_eq]
    exact ⟨fun le t ht => Int.le_trans (latest t ht) le, fun all => all s hs⟩

end Moment

/-! ## What stored assignments show -/

/-- The last changes that assignments show, of those that show one. -/
def Assignment.shownChanges (items : List Assignment) : List Moment :=
  items.filterMap fun a =>
    match (Entity.toValue a).attribute? "updated_at" with
    | some (.moment m) => some m
    | _ => none

/-- The changes that assignments show are their stamps. -/
theorem Assignment.shownChanges_eq (items : List Assignment) :
    shownChanges items = (items.filterMap (·.updatedAt)).map .fixed := by
  have shown (a : Assignment) : (Entity.toValue a).attribute? "updated_at" =
      some (Codec.stamp?.write a.updatedAt) := rfl
  unfold shownChanges
  rw [List.map_filterMap]
  refine congrArg (List.filterMap · items) (funext fun a => ?_)
  rw [shown]
  cases a.updatedAt with
  | none => rfl
  | some s => rfl

namespace Replacement

variable {inUnitOfWork : Bool} {r : Replacement}

/-- The rule on the last change is the comparison of what the assignments show. -/
theorem noneAfter_shownChanges (r : Replacement) :
    Moment.noneAfter (.fixed r.lastModified) (Assignment.shownChanges r.existing) =
      .ok r.notOutdated := by
  rw [Assignment.shownChanges_eq, Moment.noneAfter_fixed]
  rfl

/-! ## Failures -/

open Service (Passes passes_pure passes_note passes_refuse passes_ask)

/-- Loading assignments fails only as the store does. -/
theorem passes_ofPerson (personId : String) : (AssignmentRules.ofPerson personId).Passes :=
  (passes_ask _).bind fun _ => passes_pure _

/-- A write fails with a refusal or as the store does. -/
theorem passes_perform (personId : String) (w : Write) : (w.perform personId).Passes := by
  cases w with
  | drop a =>
    refine (passes_note _).bind fun _ => Passes.bind ?_ fun deleted => ?_
    · exact (passes_ask _).onStorageFailure fun err => (passes_note _).bind fun _ =>
        passes_refuse _
    · split
      · exact passes_pure _
      · exact passes_refuse _
  | add k =>
    refine (passes_note _).bind fun _ => Passes.bind ?_ fun _ => passes_pure _
    exact (passes_ask _).onStorageFailure fun err => (passes_note _).bind fun _ =>
      passes_refuse _

/-- So do the writes of a replacement. -/
theorem passes_write (r : Replacement) : r.write.Passes := by
  rw [write_eq]
  induction r.writes with
  | nil => exact passes_pure _
  | cons w ws ih => exact (passes_perform _ w).bind fun _ => ih

/-- So does carrying out a replacement, in a unit of work or without one. -/
theorem passes_carryOut (inUnitOfWork : Bool) (r : Replacement) :
    (r.carryOut inUnitOfWork).Passes := by
  rw [carryOut_eq]
  refine (passes_ofPerson _).bind fun existing => ?_
  rw [checkRules_eq]
  split
  · exact (passes_note _).bind fun _ => passes_pure _
  · refine Passes.bind ?_ fun _ => (passes_ofPerson _).bind fun _ => passes_pure _
    split
    · exact (passes_write _).inSavepoint
    · exact passes_write _

/-- A replacement fails only with what the store answered a request. -/
theorem fails_as_answered (e : Engine σ) (m : σ) (inUnitOfWork : Bool) (r : Replacement) :
    e.Shows (r.apply inUnitOfWork) m fun es x _ =>
      ∀ f, x = .error f → ∃ q, .asked q (.error f) ∈ es := by
  unfold apply
  rw [Engine.shows_bind, Engine.shows_attempt]
  refine (passes_carryOut inUnitOfWork r σ e m).imp fun es y m' passed => ?_
  cases y with
  | ok outcome => rintro f ⟨⟩
  | error f => cases f with
    | refused refusal => rintro f ⟨⟩
    | storage err => rintro f ⟨⟩
    | _ =>
      rintro f ⟨⟩
      obtain ⟨_, ⟨⟩⟩ | ⟨q, asked⟩ := passed _ rfl
      exact ⟨q, List.mem_append_left _ asked⟩

/-! ## Equal instants -/

/-- The refusal of a replacement that is outdated, in the words of the client. -/
def outdated (personId : String) (s : Stamp) : Refusal :=
  .revisionMismatch entity (some personId) [("last_modified", .text s.toText)]

/-- The record of an outdated replacement does not show the moment. -/
theorem unsatisfied_outdated (personId : String) (s s' : Stamp) :
    Pipeline.unsatisfied (ruleOf (outdated personId s)) (outdated personId s) =
      Pipeline.unsatisfied (ruleOf (outdated personId s')) (outdated personId s') := by
  have about (s : Stamp) : (outdated personId s).entity = entity := rfl
  have kind (s : Stamp) : (outdated personId s).kind = .revisionMismatch := rfl
  have rule (s : Stamp) : ruleOf (outdated personId s) = "PERSONENKONTEXTE_OUTDATED" := rfl
  unfold Pipeline.unsatisfied
  rw [about, about, kind, kind, rule, rule]

/-- The same, or both are outdated and each is told in its own words. -/
def SameVerdict {α : Type} (personId : String) (s s' : Stamp)
    (x y : Except Failure (Outcome α)) : Prop :=
  x = y ∨ x = .ok (.error (outdated personId s)) ∧ y = .ok (.error (outdated personId s'))

/-- Another offset for the same instant changes at most the words of the refusal. -/
theorem violation?_of_same_instant {s : Stamp} (same : r.lastModified.instant = s.instant) :
    { r with lastModified := s }.violation? = r.violation? ∨
      r.violation? = some (outdated r.personId r.lastModified) ∧
        { r with lastModified := s }.violation? = some (outdated r.personId s) := by
  unfold violation?
  dsimp only
  rw [← same]
  split
  · exact .inl rfl
  · split
    · exact .inl rfl
    · split
      · exact .inr ⟨rfl, rfl⟩
      · exact .inl rfl

/-- Replacements at the same instant are carried out by the same requests. -/
theorem parallel_carryOut (inUnitOfWork : Bool) {s : Stamp}
    (same : r.lastModified.instant = s.instant) :
    (r.carryOut inUnitOfWork).Parallel (SameVerdict r.personId r.lastModified s)
      ({ r with lastModified := s }.carryOut inUnitOfWork) := by
  rw [carryOut_eq, carryOut_eq]
  refine Service.parallel_bind _ (fun existing => ?_) fun err => .inl rfl
  rw [checkRules_eq, checkRules_eq]
  have verdict : { r with lastModified := s, existing := existing }.violation? =
        { r with existing := existing }.violation? ∨
      { r with existing := existing }.violation? = some (outdated r.personId r.lastModified) ∧
        { r with lastModified := s, existing := existing }.violation? =
          some (outdated r.personId s) :=
    violation?_of_same_instant (r := { r with existing := existing }) same
  have writes : { r with lastModified := s, existing := existing }.write =
      { r with existing := existing }.write := rfl
  dsimp only
  obtain equal | ⟨old, old'⟩ := verdict
  · rw [equal, writes]
    exact Service.parallel_refl (fun _ => .inl rfl) _
  · rw [old, old']
    dsimp only
    rw [unsatisfied_outdated r.personId r.lastModified s]
    exact .note _ (Service.parallel_pure (.inr ⟨rfl, rfl⟩))

/-- Replacements at the same instant make the same requests from the first to the last. -/
theorem parallel_apply (inUnitOfWork : Bool) {s : Stamp}
    (same : r.lastModified.instant = s.instant) :
    (r.apply inUnitOfWork).Parallel (SameVerdict r.personId r.lastModified s)
      ({ r with lastModified := s }.apply inUnitOfWork) := by
  refine (parallel_carryOut inUnitOfWork same).bind_attempt ?_
  rintro x y (rfl | ⟨rfl, rfl⟩)
  · exact Service.parallel_refl (fun _ => .inl rfl) _
  · exact Service.parallel_pure (.inr ⟨rfl, rfl⟩)

/-- The moment that a client names counts as an instant.

Replacing fails only with what the store answered a request, and not at all over a store in memory
that nothing disturbs. Comparing what the stored assignments show with the moment never fails. A
moment without an offset counts as the same wall in universal time, and of two moments that name one
instant both lead to the same requests, the same log, the same store and the same verdict, but for
the text of the moment in it. -/
theorem compares_instants {supply : Supply} {store : Memory} (reachable : store.Reachable supply)
    (e : Engine σ) (m : σ) (inUnitOfWork : Bool) (personId : String) (count : Int)
    (sent : List Assignment) {lastModified other : Moment}
    (same : lastModified.assumeUtc.instant = other.assumeUtc.instant) :
    let replace (named : Moment) := Assignments.replace inUnitOfWork personId named count sent
    (∀ f, (e.run (replace lastModified) m).result = .error f →
      ∃ q, .asked q (.error f) ∈ e.trace (replace lastModified) m) ∧
    (∃ outcome, ((Memory.engine supply).run (replace lastModified) store).result = .ok outcome) ∧
    (∀ existing, Moment.noneAfter (.fixed lastModified.assumeUtc)
        (Assignment.shownChanges existing) =
      .ok (notOutdated ⟨personId, lastModified.assumeUtc, count, sent, existing⟩)) ∧
    replace lastModified = replace (.fixed lastModified.assumeUtc) ∧
    e.trace (replace lastModified) m = e.trace (replace other) m ∧
    (e.run (replace lastModified) m).records = (e.run (replace other) m).records ∧
    (e.run (replace lastModified) m).state = (e.run (replace other) m).state ∧
    SameVerdict personId lastModified.assumeUtc other.assumeUtc
      (e.run (replace lastModified) m).result (e.run (replace other) m).result := by
  intro replace
  obtain ⟨trace, state, verdict⟩ := (parallel_apply
    (r := requested personId lastModified count sent) inUnitOfWork same).run (e := e) m
  have quiet : (Memory.engine supply).Ends (replace lastModified) store _ :=
    ends_quiet inUnitOfWork _ (reachable.keyed .assignments)
  refine ⟨fails_as_answered e m inUnitOfWork _, ?_, fun _ => noneAfter_shownChanges ⟨_, _, _, _, _⟩,
    rfl, trace, ?_, state, verdict⟩
  · unfold Engine.Ends at quiet
    split at quiet
    · exact ⟨_, quiet.1⟩
    · exact ⟨_, quiet.1⟩
  · rw [Engine.run, Engine.run, Program.records_run, Program.records_run]
    exact congrArg _ trace

/-- Noon, an hour east of universal time. -/
def noonEast : Stamp := ⟨⟨⟨2023, 6, 1, by decide⟩, ⟨12, 0, 0, 0, by decide⟩⟩, 3600000000⟩

/-- The same instant on a wall in universal time. -/
def elevenUtc : Wall := ⟨⟨2023, 6, 1, by decide⟩, ⟨11, 0, 0, 0, by decide⟩⟩

theorem compares_instants_noonEast :
    let engine := Memory.engine (.counting Supply.usualStart)
    let replace (named : Moment) := Assignments.replace true "person-1" named 1 []
    elevenUtc.micros = noonEast.instant ∧
    (∃ outcome, (engine.run (replace (.floating elevenUtc)) oneAssignment).result = .ok outcome) ∧
    SameVerdict "person-1" (.utc elevenUtc) noonEast
      (engine.run (replace (.floating elevenUtc)) oneAssignment).result
      (engine.run (replace (.fixed noonEast)) oneAssignment).result := by
  obtain ⟨-, answered, -, -, -, -, -, verdict⟩ := compares_instants reachable_oneAssignment
    (Memory.engine (.counting Supply.usualStart)) oneAssignment true "person-1" 1 []
    (show (Moment.floating elevenUtc).assumeUtc.instant =
      (Moment.fixed noonEast).assumeUtc.instant by decide)
  exact ⟨by decide, answered, verdict⟩

end Replacement

end SchoolRegistry
