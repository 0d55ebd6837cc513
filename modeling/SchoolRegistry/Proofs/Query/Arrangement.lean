import Mathlib.Data.List.Nodup

/-!
# Stable arrangements

A list is arranged by a comparison if it has the members of the original list, none of them stands
before one that it exceeds, and members that the comparison does not tell apart stand as they did.
There is one such list (`Arranged.unique`), and merge sort finds it (`arranged_mergeSort`).

Arranging by a second comparison and then by a first one is arranging by both, the first one
weighing more (`Arranged.lex`). That is why sorting by one key after the other, from the last to
the first, gives the lexicographic order.
-/

namespace SchoolRegistry

open Std

variable {α β : Type} {cmp : α → α → Ordering} {xs ys zs : List α}

/-- Two members that do not exceed each other are not told apart. -/
theorem eq_of_le_of_le [OrientedCmp cmp] {a b : α} (le : cmp a b ≠ .gt) (ge : cmp b a ≠ .gt) :
    cmp a b = .eq := by
  have swap : cmp b a = (cmp a b).swap := OrientedCmp.eq_swap
  rw [swap] at ge
  cases h : cmp a b <;> simp_all

/-- The second list is the first one, arranged by the comparison. -/
structure Arranged (cmp : α → α → Ordering) (xs ys : List α) : Prop where
  perm : ys.Perm xs
  sorted : ys.Pairwise fun a b => cmp a b ≠ .gt
  ties : ∀ a ∈ xs, (ys.filter fun b => cmp a b == .eq) = xs.filter fun b => cmp a b == .eq

namespace Arranged

/-- A list that is sorted already is arranged as it stands. -/
theorem refl (sorted : xs.Pairwise fun a b => cmp a b ≠ .gt) : Arranged cmp xs xs :=
  ⟨.refl xs, sorted, fun _ _ => rfl⟩

/-- The first members of two sorted lists with the same members are not told apart. -/
theorem head_eq [TransCmp cmp] {y z : α} (perm : (y :: ys).Perm (z :: zs))
    (hy : (y :: ys).Pairwise fun a b => cmp a b ≠ .gt)
    (hz : (z :: zs).Pairwise fun a b => cmp a b ≠ .gt) : cmp y z = .eq := by
  have y_le : cmp y z ≠ .gt := by
    rcases List.mem_cons.mp (perm.mem_iff.mpr List.mem_cons_self) with rfl | there
    · simp [ReflCmp.compare_self]
    · exact List.rel_of_pairwise_cons hy there
  have z_le : cmp z y ≠ .gt := by
    rcases List.mem_cons.mp (perm.mem_iff.mp List.mem_cons_self) with rfl | there
    · simp [ReflCmp.compare_self]
    · exact List.rel_of_pairwise_cons hz there
  exact eq_of_le_of_le y_le z_le

/-- Sorted lists with the same members and the same order among ties are the same. -/
theorem eq_of_perm [TransCmp cmp] (perm : ys.Perm zs)
    (hy : ys.Pairwise fun a b => cmp a b ≠ .gt) (hz : zs.Pairwise fun a b => cmp a b ≠ .gt)
    (ties : ∀ a ∈ ys, (ys.filter fun b => cmp a b == .eq) = zs.filter fun b => cmp a b == .eq) :
    ys = zs := by
  induction ys generalizing zs with
  | nil => exact (List.nil_perm.mp perm).symm
  | cons y ys ih =>
    cases zs with
    | nil => exact absurd perm.length_eq (by simp)
    | cons z zs =>
      -- Both heads lead the class of ties of `y`, so they are the same member.
      have tie : cmp y z = .eq := head_eq perm hy hz
      have leading := ties y List.mem_cons_self
      rw [List.filter_cons_of_pos (by simp [ReflCmp.compare_self]),
        List.filter_cons_of_pos (by simp [tie])] at leading
      obtain rfl : y = z := (List.cons.inj leading).1
      refine congrArg (y :: ·) (ih perm.cons_inv (List.Pairwise.of_cons hy)
        (List.Pairwise.of_cons hz) fun a ha => ?_)
      have both := ties a (List.mem_cons_of_mem _ ha)
      rw [List.filter_cons, List.filter_cons] at both
      split at both
      · exact (List.cons.inj both).2
      · exact both

/-- There is only one way to arrange a list. -/
theorem unique [TransCmp cmp] (h : Arranged cmp xs ys) (h' : Arranged cmp xs zs) : ys = zs :=
  eq_of_perm (h.perm.trans h'.perm.symm) h.sorted h'.sorted
    fun a ha => (h.ties a (h.perm.mem_iff.mp ha)).trans (h'.ties a (h.perm.mem_iff.mp ha)).symm

/-- Arranging by a second comparison and then by a first one is arranging by both. -/
theorem lex {first second : α → α → Ordering} [TransCmp first]
    (h : Arranged second xs ys) (h' : Arranged first ys zs) :
    Arranged (compareLex first second) xs zs := by
  have perm : zs.Perm xs := h'.perm.trans h.perm
  refine ⟨perm, ?_, fun a ha => ?_⟩
  · -- Two members that the first comparison does not tell apart stand as they did before it.
    rw [List.pairwise_iff_forall_sublist]
    intro a b sub
    have le : first a b ≠ .gt := List.pairwise_iff_forall_sublist.mp h'.sorted sub
    unfold compareLex
    cases tie : first a b with
    | lt => simp
    | gt => exact absurd tie le
    | eq =>
      have kept : [a, b].Sublist (zs.filter fun c => first a c == .eq) := by
        have := sub.filter fun c => first a c == .eq
        rwa [List.filter_eq_self.mpr (by simp [tie, ReflCmp.compare_self])] at this
      have there : a ∈ ys := h'.perm.mem_iff.mp (sub.subset List.mem_cons_self)
      rw [h'.ties a there] at kept
      exact List.pairwise_iff_forall_sublist.mp h.sorted (kept.trans List.filter_sublist)
  · -- Full ties are ties of the second comparison among ties of the first one.
    have both (l : List α) : (l.filter fun b => compareLex first second a b == .eq) =
        (l.filter fun b => first a b == .eq).filter fun b => second a b == .eq := by
      rw [List.filter_filter]
      refine List.filter_congr fun b _ => ?_
      unfold compareLex
      cases first a b <;> simp
    have swapped (l : List α) :
        ((l.filter fun b => first a b == .eq).filter fun b => second a b == .eq) =
          (l.filter fun b => second a b == .eq).filter fun b => first a b == .eq := by
      rw [List.filter_filter, List.filter_filter]
      exact List.filter_congr fun b _ => Bool.and_comm _ _
    rw [both, both, h'.ties a (h.perm.mem_iff.mpr ha), swapped, h.ties a ha, ← swapped]

end Arranged

/-! ## What ties have in common -/

/-- The first member of a list that the comparison does not tell apart from the given one. -/
def leader (cmp : α → α → Ordering) (xs : List α) (a : α) : α :=
  (xs.find? fun b => cmp a b == .eq).getD a

/-- The leader of a member is what the search for a tie finds. -/
theorem find?_leader [TransCmp cmp] {a : α} (ha : a ∈ xs) :
    (xs.find? fun b => cmp a b == .eq) = some (leader cmp xs a) := by
  unfold leader
  cases found : xs.find? fun b => cmp a b == .eq with
  | none => exact absurd (List.find?_eq_none.mp found a ha) (by simp [ReflCmp.compare_self])
  | some b => rfl

/-- The leader of a member is a member that ties with it. -/
theorem leader_tied [TransCmp cmp] {a : α} (ha : a ∈ xs) :
    leader cmp xs a ∈ xs ∧ cmp a (leader cmp xs a) = .eq := by
  have found := @find?_leader α cmp xs _ a ha
  exact ⟨List.mem_of_find?_eq_some found, by simpa using List.find?_some found⟩

/-- Members that tie have the same leader. -/
theorem leader_eq [TransCmp cmp] {a b : α} (ha : a ∈ xs) (hb : b ∈ xs) (tie : cmp a b = .eq) :
    leader cmp xs a = leader cmp xs b := by
  have class_eq : (fun c => cmp a c == .eq) = fun c => cmp b c == .eq :=
    funext fun c => by rw [TransCmp.congr_left tie]
  have found := @find?_leader α cmp xs _ a ha
  rw [class_eq, find?_leader hb] at found
  exact (Option.some.inj found).symm

namespace Arranged

/-- Two arrangements of the same members go through the same classes of ties. -/
theorem map_leader [TransCmp cmp] {xs' : List α} (h : Arranged cmp xs ys)
    (h' : Arranged cmp xs' zs) (perm : xs.Perm xs') :
    ys.map (leader cmp xs) = zs.map (leader cmp xs) := by
  have here {a : α} (ha : a ∈ ys) : a ∈ xs := h.perm.mem_iff.mp ha
  have there {a : α} (ha : a ∈ zs) : a ∈ xs := perm.mem_iff.mpr (h'.perm.mem_iff.mp ha)
  have moved {l : List α} (sub : ∀ a ∈ l, a ∈ xs) (sorted : l.Pairwise fun a b => cmp a b ≠ .gt) :
      (l.map (leader cmp xs)).Pairwise fun a b => cmp a b ≠ .gt := by
    refine List.pairwise_map.mpr (sorted.imp_of_mem fun {a b} ha hb le => ?_)
    have ha : cmp a (leader cmp xs a) = .eq := (leader_tied (sub a ha)).2
    have hb : cmp b (leader cmp xs b) = .eq := (leader_tied (sub b hb)).2
    rwa [← TransCmp.congr_left ha, ← TransCmp.congr_right hb]
  refine List.Perm.eq_of_pairwise ?_ (moved (fun _ => here) h.sorted)
    (moved (fun _ => there) h'.sorted) ((h.perm.trans (perm.trans h'.perm.symm)).map _)
  intro a' b' ha' hb' le ge
  obtain ⟨a, ha, rfl⟩ := List.mem_map.mp ha'
  obtain ⟨b, hb, rfl⟩ := List.mem_map.mp hb'
  have tie : cmp (leader cmp xs a) (leader cmp xs b) = .eq := eq_of_le_of_le le ge
  have tied_a : cmp a (leader cmp xs a) = .eq := (leader_tied (here ha)).2
  have tied_b : cmp b (leader cmp xs b) = .eq := (leader_tied (there hb)).2
  rw [← TransCmp.congr_left tied_a, ← TransCmp.congr_right tied_b] at tie
  exact leader_eq (here ha) (there hb) tie

/-- Two arrangements of the same members show the same in every place, as far as what they show
does not tell ties apart. -/
theorem map_eq [TransCmp cmp] {f : α → β} {xs' : List α} (h : Arranged cmp xs ys)
    (h' : Arranged cmp xs' zs) (perm : xs.Perm xs')
    (tied : ∀ a ∈ xs, ∀ b ∈ xs, cmp a b = .eq → f a = f b) : ys.map f = zs.map f := by
  have shown {l : List α} (sub : ∀ a ∈ l, a ∈ xs) :
      l.map f = (l.map (leader cmp xs)).map f := by
    rw [List.map_map]
    refine List.map_congr_left fun a ha => ?_
    obtain ⟨there, tie⟩ := @leader_tied α cmp xs _ a (sub a ha)
    exact tied a (sub a ha) _ there tie
  rw [shown fun a ha => h.perm.mem_iff.mp ha,
    shown fun a ha => perm.mem_iff.mpr (h'.perm.mem_iff.mp ha), h.map_leader h' perm]

end Arranged

/-! ## Merge sort -/

/-- Merge sort depends on how the members of the list compare and on nothing else. -/
theorem mergeSort_congr {le le' : α → α → Bool} (same : ∀ a ∈ xs, ∀ b ∈ xs, le a b = le' a b) :
    xs.mergeSort le = xs.mergeSort le' := by
  have mapped := List.map_mergeSort (f := id) same
  rwa [List.map_id, List.map_id] at mapped

/-- Merge sort arranges a list. -/
theorem arranged_mergeSort [TransCmp cmp] (xs : List α) :
    Arranged cmp xs (xs.mergeSort fun a b => cmp a b != .gt) := by
  have le_iff {a b : α} : (cmp a b != .gt) = true ↔ (cmp a b).isLE = true := by
    cases cmp a b <;> simp
  have trans : ∀ a b c, (cmp a b != .gt) = true → (cmp b c != .gt) = true →
      (cmp a c != .gt) = true := by
    intro a b c hab hbc
    exact le_iff.mpr (TransCmp.isLE_trans (le_iff.mp hab) (le_iff.mp hbc))
  have total : ∀ a b, ((cmp a b != .gt) || (cmp b a != .gt)) = true := by
    intro a b
    have swap : cmp b a = (cmp a b).swap := OrientedCmp.eq_swap
    rw [swap]
    cases cmp a b <;> rfl
  have perm := List.mergeSort_perm xs fun a b => cmp a b != .gt
  refine ⟨perm, ?_, fun a _ => ?_⟩
  · exact (List.pairwise_mergeSort trans total xs).imp fun h => by simpa using h
  · -- The ties are sorted as they stand, so they are a part of the sorted list in this order.
    have level :
        (xs.filter fun b => cmp a b == .eq).Pairwise fun b c => (cmp b c != .gt) = true := by
      refine List.pairwise_of_forall_mem_list fun b hb c hc => ?_
      have tied {b : α} (hb : b ∈ xs.filter fun b => cmp a b == .eq) : cmp a b = .eq := by
        simpa using (List.mem_filter.mp hb).2
      have : cmp b c = .eq := (TransCmp.congr_left (tied hb)).symm.trans (tied hc)
      simp [this]
    have sub := (List.sublist_mergeSort trans total level List.filter_sublist).filter
      fun b => cmp a b == .eq
    rw [List.filter_filter] at sub
    simp only [Bool.and_self] at sub
    exact (sub.eq_of_length (perm.filter _).length_eq.symm).symm

end SchoolRegistry
