import Mathlib.Order.Bounds.Basic
import SchoolRegistry.Proofs.Registry.Deeds

/-!
# No lost update

A client that replaces the assignments of a person tells how many it saw and when the last of
them was changed. This is enough: if the rules are satisfied, then whatever others have done
meanwhile, the person has exactly the assignments that the client saw.

The invariant is `Memory.Retains`. Of the items that carry a stamp from before the client looked,
none is added and none is moved: a save carries a later stamp, a removal only takes away, and an
undone savepoint puts back what was there before it. The rule on the last change lets only such
items pass, and then the rule on the number leaves no room for a missing one.
-/

namespace SchoolRegistry

open Assignment (heldBy)

variable {supply : Supply} {c : Collection} {n : Nat}

/-- Each of the first readings of the clock shows a later instant than those before it. -/
def Supply.IncreasesUntil (supply : Supply) (n : Nat) : Prop :=
  ∀ i j, i < j → j < n → (supply.time i).instant < (supply.time j).instant

/-- A clock that goes forward for some time goes forward for any shorter time. -/
theorem Supply.IncreasesUntil.earlier {k : Nat} (h : supply.IncreasesUntil k) (le : n ≤ k) :
    supply.IncreasesUntil n := fun i j lt bound => h i j lt (Nat.lt_of_lt_of_le bound le)

namespace Memory

/-- Whether an item carries one of the first stamps of the clock. -/
def isOlder {σ : Type} [Entity σ] (supply : Supply) (n : Nat) (x : σ) : Bool :=
  (List.range n).any fun k => (Entity.header x).updatedAt == some (supply.time k)

/-- An item is older than a draw if its last change bears an earlier one. -/
theorem isOlder_iff {σ : Type} [Entity σ] {x : σ} :
    isOlder supply n x = true ↔ ∃ k < n, (Entity.header x).updatedAt = some (supply.time k) := by
  simp [isOlder]

/-- What is stored now is not older. -/
theorem isOlder_storedAs {m : Memory} {item : c.Item} (le : n ≤ m.drawn.times)
    (increasing : supply.IncreasesUntil (m.drawn.times + 1)) :
    isOlder supply n (storedAs supply c item m) = false := by
  rw [Bool.eq_false_iff, ne_eq, isOlder_iff]
  rintro ⟨k, lt, same⟩
  rw [header_storedAs] at same
  have later := increasing k m.drawn.times (by omega) (by omega)
  rw [← Option.some.inj same] at later
  exact absurd later (Int.lt_irrefl _)

/-- Of the items with one of the first stamps none was added to the given ones, or moved. -/
structure Retains (supply : Supply) (c : Collection) (n : Nat) (items : List c.Item)
    (m : Memory) : Prop where
  clock : n ≤ m.drawn.times
  older : supply.IncreasesUntil m.drawn.times →
    ((m.shelves c).filter (isOlder supply n)).Sublist items

/-- No operation adds or moves an item with an earlier stamp. -/
theorem lasting_retains (supply : Supply) (c : Collection) (n : Nat) (items : List c.Item) :
    Lasting supply (Retains supply c n items) where
  call r m hr h := by
    have le : m.drawn.times ≤ (answer supply r m).2.drawn.times := times_le_answer r
    refine ⟨Nat.le_trans h.clock le, fun increasing => ?_⟩
    have before := h.older (increasing.earlier le)
    rcases answer_cases supply r m c with same | ⟨item, rfl, stored⟩ | ⟨id, rfl, removed⟩ |
      ⟨rfl, -⟩
    · rw [same]
      exact before
    · rw [times_save] at increasing
      rw [stored]
      exact (filter_store_sublist (isOlder_storedAs h.clock increasing)).trans before
    · rw [removed]
      exact (remove_sublist.filter _).trans before
    · exact absurd hr Bool.false_ne_true
  mark m h := ⟨h.clock, h.older⟩
  keptFrom m m' h := ⟨h.clock, h.older⟩
  undoneTo m m' h h' le := by
    refine ⟨h'.clock, fun increasing => ?_⟩
    by_cases enlisted : m.enlisted.contains c = true
    · have back : (m.undoneTo m').shelves c = m.shelves c := if_pos enlisted
      rw [back]
      exact h.older (increasing.earlier le)
    · have stays : (m.undoneTo m').shelves c = m'.shelves c := if_neg enlisted
      rw [stays]
      exact h'.older increasing

/-- Every operation keeps the shelves sound. -/
theorem lasting_sound (supply : Supply) :
    Lasting supply fun m => Sound supply m.drawn.times m.shelves where
  call r m hr h := by
    refine sound_answer r h fun undo => ?_
    rw [undo] at hr
    exact absurd hr Bool.false_ne_true
  mark m h := h
  keptFrom m m' h := h
  undoneTo m m' h h' le := by
    have shelf (c : Collection) : (m.undoneTo m').shelves c = m.shelves c ∨
        (m.undoneTo m').shelves c = m'.shelves c := ite_eq_or_eq _ _ _
    refine ⟨fun c => ?_, fun c => ?_⟩
    · rcases shelf c with back | stays
      · exact back ▸ h.keyed c
      · exact stays ▸ h'.keyed c
    · rcases shelf c with back | stays
      · exact back ▸ (h.later le).stamped c
      · exact stays ▸ h'.stamped c

end Memory

/-! ## What the rules let pass -/

namespace Replacement

/-- Items that the rule on the last change lets pass are as old as what the client saw, if it
names a change that the client saw. -/
theorem isOlder_of_notAfter {times : Nat} {items : List Assignment} {x : Assignment} {k : Nat}
    (stamped : Memory.Stamped supply times items)
    (increasing : supply.IncreasesUntil times) (bound : k < n) (hx : x ∈ items)
    (notAfter : ∀ s ∈ x.updatedAt, s.instant ≤ (supply.time k).instant) :
    Memory.isOlder supply n x = true := by
  obtain ⟨i, hi, stamp⟩ := stamped x hx
  have le : (supply.time i).instant ≤ (supply.time k).instant := notAfter _ stamp
  refine Memory.isOlder_iff.mpr ⟨i, ?_, stamp⟩
  by_contra late
  have := increasing k i (by omega) hi
  omega

/-- The rules are satisfied only if a store that retains what the client saw holds nothing else
of the person. -/
theorem heldBy_eq_of_retains {m now : Memory}
    (stamped : Memory.Stamped supply m.drawn.times (m.shelves .assignments))
    (stamped' : Memory.Stamped supply now.drawn.times (now.shelves .assignments))
    (retains : Memory.Retains supply .assignments m.drawn.times (m.shelves .assignments) now)
    (increasing : supply.IncreasesUntil now.drawn.times) {personId : String}
    {seen sent : List Assignment} {lastModified : Moment}
    (read : seen.Perm (heldBy personId (m.shelves .assignments)))
    (latest : seen ≠ [] → ∃ a ∈ seen, ∃ s ∈ a.updatedAt,
      s.instant = lastModified.assumeUtc.instant)
    (satisfied : ((requested personId lastModified seen.length sent).against
      (now.shelves .assignments)).violation? = none) :
    heldBy personId (now.shelves .assignments) = heldBy personId (m.shelves .assignments) := by
  obtain ⟨-, count, notAfter⟩ := violation?_eq_none.mp satisfied
  have length : (heldBy personId (now.shelves .assignments)).length =
      (heldBy personId (m.shelves .assignments)).length := by
    rw [← read.length_eq]
    exact Int.ofNat.inj count
  by_cases nothing : seen = []
  · -- Nothing was seen, and as much is there.
    have before : heldBy personId (m.shelves .assignments) = [] := by
      rw [nothing] at read
      exact read.nil_eq.symm
    rw [before] at length ⊢
    exact List.length_eq_zero_iff.mp length
  · -- Everything there is older, so it is a part of what was there, and as long.
    obtain ⟨a, ha, s, hs, last⟩ := latest nothing
    have there : a ∈ m.shelves .assignments := (Assignment.mem_heldBy.mp (read.subset ha)).1
    obtain ⟨k, bound, stamp⟩ := stamped a there
    cases hs.symm.trans stamp
    have older : (heldBy personId (now.shelves .assignments)).filter
        (Memory.isOlder supply m.drawn.times) = heldBy personId (now.shelves .assignments) := by
      refine List.filter_eq_self.mpr fun x hx => ?_
      refine isOlder_of_notAfter stamped' increasing bound (Assignment.mem_heldBy.mp hx).1 ?_
      intro t ht
      rw [last]
      exact notAfter x hx t ht
    have part : (heldBy personId (now.shelves .assignments)).Sublist
        (heldBy personId (m.shelves .assignments)) := by
      rw [← older, heldBy, List.filter_comm]
      exact (retains.older increasing).filter _
    exact part.eq_of_length length

/-- If the rules are satisfied, the person has what the client saw, whatever others have done
meanwhile. That no rule is violated is what lets the check of the rules go on
(`Replacement.checkRules_eq`). -/
theorem no_lost_update {m : Memory} (reachable : m.Reachable supply) (deeds : List Deed)
    (increasing : supply.IncreasesUntil (m.afterDeeds supply deeds).drawn.times)
    {personId : String} {seen : List Assignment}
    (read : seen.Perm (heldBy personId (m.shelves .assignments))) (lastModified : Moment)
    (latest : seen ≠ [] → IsGreatest {t | ∃ a ∈ seen, ∃ s ∈ a.updatedAt, s.instant = t}
      lastModified.assumeUtc.instant)
    (sent : List Assignment)
    (satisfied : ((requested personId lastModified seen.length sent).against
      ((m.afterDeeds supply deeds).shelves .assignments)).violation? = none) :
    heldBy personId ((m.afterDeeds supply deeds).shelves .assignments) =
      heldBy personId (m.shelves .assignments) := by
  have retains : Memory.Retains supply .assignments m.drawn.times (m.shelves .assignments)
      (m.afterDeeds supply deeds) :=
    (Memory.lasting_retains supply .assignments m.drawn.times (m.shelves .assignments)).afterDeeds
      ⟨Nat.le_refl _, fun _ => List.filter_sublist⟩ deeds
  have sound := (Memory.lasting_sound supply).afterDeeds reachable.sound.1 deeds
  exact heldBy_eq_of_retains (reachable.stamped .assignments) (sound.stamped .assignments) retains
    increasing read (fun some => (latest some).1) satisfied

/-- Others fail to create an assignment and then add one of another person. -/
def othersMeanwhile : List Deed := [
  ⟨⟨none, true⟩, .createAssignment (.ofKey ⟨"person-1", "org-2", "rolle-1"⟩), []⟩,
  ⟨⟨none, true⟩, .replaceAssignments "person-2" (.fixed Supply.usualStart) 0
    [.ofKey ⟨"person-2", "org-1", "rolle-1"⟩], []⟩]

/-- What others do meanwhile leaves the one assignment of the person as it was. -/
theorem no_lost_update_othersMeanwhile :
    heldBy "person-1" ((oneAssignment.afterDeeds (.counting Supply.usualStart)
        othersMeanwhile).shelves .assignments) =
      heldBy "person-1" (oneAssignment.shelves .assignments) := by
  have times : (oneAssignment.afterDeeds (.counting Supply.usualStart)
      othersMeanwhile).drawn.times = 2 := by decide +kernel
  have increasing : (Supply.counting Supply.usualStart).IncreasesUntil 2 := by
    intro i j lt bound
    obtain ⟨rfl, rfl⟩ : i = 0 ∧ j = 1 := by omega
    decide +kernel
  have latest : IsGreatest {t | ∃ a ∈ heldBy "person-1" (oneAssignment.shelves .assignments),
      ∃ s ∈ a.updatedAt, s.instant = t} (Supply.usualStart).instant := by
    constructor
    · show ∃ a ∈ heldBy "person-1" (oneAssignment.shelves .assignments),
        ∃ s ∈ a.updatedAt, s.instant = (Supply.usualStart).instant
      decide +kernel
    · have latest : ∀ a ∈ heldBy "person-1" (oneAssignment.shelves .assignments),
          ∀ s ∈ a.updatedAt, s.instant ≤ (Supply.usualStart).instant := by decide +kernel
      rintro _ ⟨a, ha, s, hs, rfl⟩
      exact latest a ha s hs
  refine no_lost_update reachable_oneAssignment othersMeanwhile (times ▸ increasing)
    (.refl (heldBy "person-1" (oneAssignment.shelves .assignments))) (.fixed Supply.usualStart)
    (fun _ => latest) [] ?_
  rw [violation?_eq_none]
  decide +kernel

end Replacement

end SchoolRegistry
