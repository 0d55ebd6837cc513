import SchoolRegistry.Rule.Basic

/-!
# Decisions

A specification asks its rules from left to right and leaves alone those that cannot change the
outcome any more. Written out, that is a binary tree, its decision: at every node a rule to ask,
and one way to go on for each verdict. `Spec.branch` builds it with the two ways to go on as
arguments, so that negation swaps them and a conjunction puts the other operands where the first
one says yes. A rule that occurs twice is asked twice, so a node carries the place of its rule
among the leaves, and valuations are about places.

`judge_branch` says that a specification judges as its decision runs, in every monad with the
monad laws. `value_branch` says that the decision stands for the Boolean formula, `after_branch`
that no path comes back to a place, and `sharp_branch` that no rule is asked in vain: where one is
asked, the two ways to go on differ. The laws of De Morgan and the brackets of a chain do not
change the decision at all. What a run asks in which world is not said here.
-/

namespace SchoolRegistry

variable {m : Type → Type} {α : Type}

@[simp]
theorem Value.truthy_flag (yes : Bool) : (Value.flag yes).truthy = yes := rfl

/-- How to decide: at once, or by the verdict of the rule at a place. -/
inductive Decision (m : Type → Type) (α : Type) where
  | settled (yes : Bool)
  | ask (place : Nat) (r : Rule m α) (onYes onNo : Decision m α)

namespace Decision

/-- Asks the rules along the path that their verdicts select. -/
def run [Monad m] (c : α) : Decision m α → m Bool
  | settled yes => pure yes
  | ask _ r onYes onNo => do
    let v ← r.judge c
    if v.truthy then onYes.run c else onNo.run c

/-- The outcome if the verdicts were these. -/
def value (t : Nat → Bool) : Decision m α → Bool
  | settled yes => yes
  | ask place _ onYes onNo => if t place then onYes.value t else onNo.value t

/-- No path asks a place before `k`, or goes back. -/
def After (k : Nat) : Decision m α → Prop
  | settled _ => True
  | ask place _ onYes onNo =>
    k ≤ place ∧ onYes.After (place + 1) ∧ onNo.After (place + 1)

/-- Wherever a rule is asked, its verdict can make the difference. -/
def Sharp : Decision m α → Prop
  | settled _ => True
  | ask _ _ onYes onNo =>
    (∃ t, onYes.value t ≠ onNo.value t) ∧ onYes.Sharp ∧ onNo.Sharp

/-- Every rule that is asked stands in the list, at its place. -/
def Within (occurring : List (Rule m α)) : Decision m α → Prop
  | settled _ => True
  | ask place r onYes onNo =>
    occurring[place]? = some r ∧ onYes.Within occurring ∧ onNo.Within occurring

theorem After.mono {d : Decision m α} {j k : Nat} (h : d.After k) (le : j ≤ k) : d.After j := by
  cases d with
  | settled => trivial
  | ask => exact ⟨Nat.le_trans le h.1, h.2⟩

/-- A decision depends on the verdicts of the places from its first one on. -/
theorem value_congr {d : Decision m α} {k : Nat} (h : d.After k) {t u : Nat → Bool}
    (same : ∀ i, k ≤ i → t i = u i) : d.value t = d.value u := by
  induction d generalizing k with
  | settled => rfl
  | ask place r onYes onNo ihYes ihNo =>
    obtain ⟨le, yes, no⟩ := h
    have later : ∀ i, place + 1 ≤ i → t i = u i := fun i hi => same i (by omega)
    simp only [value, same place le, ihYes yes later, ihNo no later]

end Decision

namespace Spec

/-- A combination of rules, not a single rule. -/
def IsComposite : Spec m α → Prop
  | rule _ => False
  | _ => True

/-! ## The formula of a specification -/

mutual

/-- The occurrences of rules, from left to right. -/
def leaves : Spec m α → List (Rule m α)
  | rule r => [r]
  | all _ first rest => first.leaves ++ leavesOf rest
  | any _ first rest => first.leaves ++ leavesOf rest
  | not _ operand => operand.leaves

/-- The occurrences of rules in several specifications. -/
def leavesOf : List (Spec m α) → List (Rule m α)
  | [] => []
  | s :: rest => s.leaves ++ leavesOf rest

end

mutual

/-- The value of the Boolean formula whose variables are the places from `k` on. -/
def holds : Spec m α → Nat → (Nat → Bool) → Bool
  | rule _, k, t => t k
  | all _ first rest, k, t => first.holds k t && holdsAll rest (k + first.leaves.length) t
  | any _ first rest, k, t => first.holds k t || holdsAny rest (k + first.leaves.length) t
  | not _ operand, k, t => !operand.holds k t

/-- The value of the conjunction of formulas. -/
def holdsAll : List (Spec m α) → Nat → (Nat → Bool) → Bool
  | [], _, _ => true
  | s :: rest, k, t => s.holds k t && holdsAll rest (k + s.leaves.length) t

/-- The value of the disjunction of formulas. -/
def holdsAny : List (Spec m α) → Nat → (Nat → Bool) → Bool
  | [], _, _ => false
  | s :: rest, k, t => s.holds k t || holdsAny rest (k + s.leaves.length) t

end

mutual

/-- A formula depends on the verdicts of its own places. -/
theorem holds_congr (s : Spec m α) {k : Nat} {t u : Nat → Bool}
    (same : ∀ i, k ≤ i → i < k + s.leaves.length → t i = u i) : s.holds k t = s.holds k u := by
  cases s with
  | rule r => exact same k (Nat.le_refl k) (by simp [leaves])
  | all own first rest =>
    simp only [leaves, List.length_append] at same
    rw [holds, holds, holds_congr first fun i le lt => same i le (by omega),
      holdsAll_congr rest fun i le lt => same i (by omega) (by omega)]
  | any own first rest =>
    simp only [leaves, List.length_append] at same
    rw [holds, holds, holds_congr first fun i le lt => same i le (by omega),
      holdsAny_congr rest fun i le lt => same i (by omega) (by omega)]
  | not own operand => rw [holds, holds, holds_congr operand same]

theorem holdsAll_congr (rest : List (Spec m α)) {k : Nat} {t u : Nat → Bool}
    (same : ∀ i, k ≤ i → i < k + (leavesOf rest).length → t i = u i) :
    holdsAll rest k t = holdsAll rest k u := by
  cases rest with
  | nil => rfl
  | cons s rest =>
    simp only [leavesOf, List.length_append] at same
    rw [holdsAll, holdsAll, holds_congr s fun i le lt => same i le (by omega),
      holdsAll_congr rest fun i le lt => same i (by omega) (by omega)]

theorem holdsAny_congr (rest : List (Spec m α)) {k : Nat} {t u : Nat → Bool}
    (same : ∀ i, k ≤ i → i < k + (leavesOf rest).length → t i = u i) :
    holdsAny rest k t = holdsAny rest k u := by
  cases rest with
  | nil => rfl
  | cons s rest =>
    simp only [leavesOf, List.length_append] at same
    rw [holdsAny, holdsAny, holds_congr s fun i le lt => same i le (by omega),
      holdsAny_congr rest fun i le lt => same i (by omega) (by omega)]

end

/-! ## Decisions of specifications -/

mutual

/-- Decides by the specification and goes on in one of two ways. -/
def branch : Spec m α → Nat → Decision m α → Decision m α → Decision m α
  | rule r, k, onYes, onNo => .ask k r onYes onNo
  | all _ first rest, k, onYes, onNo =>
    first.branch k (branchAll rest (k + first.leaves.length) onYes onNo) onNo
  | any _ first rest, k, onYes, onNo =>
    first.branch k onYes (branchAny rest (k + first.leaves.length) onYes onNo)
  | not _ operand, k, onYes, onNo => operand.branch k onNo onYes

/-- Goes on in the first way if every operand is satisfied. -/
def branchAll : List (Spec m α) → Nat → Decision m α → Decision m α → Decision m α
  | [], _, onYes, _ => onYes
  | s :: rest, k, onYes, onNo =>
    s.branch k (branchAll rest (k + s.leaves.length) onYes onNo) onNo

/-- Goes on in the first way if one operand is satisfied. -/
def branchAny : List (Spec m α) → Nat → Decision m α → Decision m α → Decision m α
  | [], _, _, onNo => onNo
  | s :: rest, k, onYes, onNo =>
    s.branch k onYes (branchAny rest (k + s.leaves.length) onYes onNo)

end

/-- The decision that a specification stands for. -/
def decision (s : Spec m α) : Decision m α := s.branch 0 (.settled true) (.settled false)

mutual

/-- To branch on a specification is to go on by the value of its formula. -/
theorem value_branch (s : Spec m α) (k : Nat) (onYes onNo : Decision m α) (t : Nat → Bool) :
    (s.branch k onYes onNo).value t = if s.holds k t then onYes.value t else onNo.value t := by
  cases s with
  | rule r => rfl
  | all own first rest =>
    rw [branch, value_branch first, value_branchAll rest, holds]
    by_cases h : first.holds k t <;> simp [h]
  | any own first rest =>
    rw [branch, value_branch first, value_branchAny rest, holds]
    by_cases h : first.holds k t <;> simp [h]
  | not own operand =>
    rw [branch, value_branch operand, holds]
    by_cases h : operand.holds k t <;> simp [h]

/-- The same for a conjunction. -/
theorem value_branchAll (rest : List (Spec m α)) (k : Nat) (onYes onNo : Decision m α)
    (t : Nat → Bool) : (branchAll rest k onYes onNo).value t =
      if holdsAll rest k t then onYes.value t else onNo.value t := by
  cases rest with
  | nil => rfl
  | cons s rest =>
    rw [branchAll, value_branch s, value_branchAll rest, holdsAll]
    by_cases h : s.holds k t <;> simp [h]

/-- The same for a disjunction. -/
theorem value_branchAny (rest : List (Spec m α)) (k : Nat) (onYes onNo : Decision m α)
    (t : Nat → Bool) : (branchAny rest k onYes onNo).value t =
      if holdsAny rest k t then onYes.value t else onNo.value t := by
  cases rest with
  | nil => rfl
  | cons s rest =>
    rw [branchAny, value_branch s, value_branchAny rest, holdsAny]
    by_cases h : s.holds k t <;> simp [h]

end

/-- The decision stands for the formula. -/
theorem value_decision (s : Spec m α) (t : Nat → Bool) : s.decision.value t = s.holds 0 t := by
  rw [decision, value_branch]
  by_cases h : s.holds 0 t <;> simp [h, Decision.value]

mutual

/-- A branch asks the places of its specification and then goes on behind them. -/
theorem after_branch (s : Spec m α) {k : Nat} {onYes onNo : Decision m α}
    (yes : onYes.After (k + s.leaves.length)) (no : onNo.After (k + s.leaves.length)) :
    (s.branch k onYes onNo).After k := by
  cases s with
  | rule r => exact ⟨Nat.le_refl k, yes, no⟩
  | all own first rest =>
    simp only [leaves, List.length_append, ← Nat.add_assoc] at yes no
    exact after_branch first (after_branchAll rest yes no) (no.mono (by omega))
  | any own first rest =>
    simp only [leaves, List.length_append, ← Nat.add_assoc] at yes no
    exact after_branch first (yes.mono (by omega)) (after_branchAny rest yes no)
  | not own operand => exact after_branch operand no yes

theorem after_branchAll (rest : List (Spec m α)) {k : Nat} {onYes onNo : Decision m α}
    (yes : onYes.After (k + (leavesOf rest).length))
    (no : onNo.After (k + (leavesOf rest).length)) :
    (branchAll rest k onYes onNo).After k := by
  cases rest with
  | nil => exact yes
  | cons s rest =>
    simp only [leavesOf, List.length_append, ← Nat.add_assoc] at yes no
    exact after_branch s (after_branchAll rest yes no) (no.mono (by omega))

theorem after_branchAny (rest : List (Spec m α)) {k : Nat} {onYes onNo : Decision m α}
    (yes : onYes.After (k + (leavesOf rest).length))
    (no : onNo.After (k + (leavesOf rest).length)) :
    (branchAny rest k onYes onNo).After k := by
  cases rest with
  | nil => exact no
  | cons s rest =>
    simp only [leavesOf, List.length_append, ← Nat.add_assoc] at yes no
    exact after_branch s (yes.mono (by omega)) (after_branchAny rest yes no)

end

mutual

/-- A formula takes both values, whatever the valuation is elsewhere. -/
theorem exists_holds (s : Spec m α) (k : Nat) (t : Nat → Bool) (b : Bool) :
    ∃ u, s.holds k u = b ∧ ∀ i, i < k ∨ k + s.leaves.length ≤ i → u i = t i := by
  cases s with
  | rule r =>
    refine ⟨fun i => if i = k then b else t i, by simp [holds], fun i hi => ?_⟩
    simp only [leaves, List.length_cons, List.length_nil] at hi
    exact if_neg (by omega)
  | all own first rest =>
    simp only [leaves, List.length_append, ← Nat.add_assoc]
    obtain ⟨u, hu, outside⟩ := exists_holds first k t b
    cases b with
    | false => exact ⟨u, by simp [holds, hu], fun i hi => outside i (by omega)⟩
    | true =>
      -- The other operands have places of their own, so the first one keeps its value.
      obtain ⟨v, hv, beside⟩ := exists_holdsAll rest (k + first.leaves.length) u
      have same : first.holds k v = first.holds k u :=
        holds_congr first fun i _ lt => beside i (.inl lt)
      refine ⟨v, by simp [holds, same, hu, hv], fun i hi => ?_⟩
      rw [beside i (by omega), outside i (by omega)]
  | any own first rest =>
    simp only [leaves, List.length_append, ← Nat.add_assoc]
    obtain ⟨u, hu, outside⟩ := exists_holds first k t b
    cases b with
    | true => exact ⟨u, by simp [holds, hu], fun i hi => outside i (by omega)⟩
    | false =>
      obtain ⟨v, hv, beside⟩ := exists_holdsAny rest (k + first.leaves.length) u
      have same : first.holds k v = first.holds k u :=
        holds_congr first fun i _ lt => beside i (.inl lt)
      refine ⟨v, by simp [holds, same, hu, hv], fun i hi => ?_⟩
      rw [beside i (by omega), outside i (by omega)]
  | not own operand =>
    obtain ⟨u, hu, outside⟩ := exists_holds operand k t (!b)
    exact ⟨u, by simp [holds, hu], outside⟩

/-- A conjunction can be made true by its own places. -/
theorem exists_holdsAll (rest : List (Spec m α)) (k : Nat) (t : Nat → Bool) :
    ∃ u, holdsAll rest k u = true ∧ ∀ i, i < k ∨ k + (leavesOf rest).length ≤ i → u i = t i := by
  cases rest with
  | nil => exact ⟨t, rfl, fun _ _ => rfl⟩
  | cons s rest =>
    simp only [leavesOf, List.length_append, ← Nat.add_assoc]
    obtain ⟨u, hu, outside⟩ := exists_holds s k t true
    obtain ⟨v, hv, beside⟩ := exists_holdsAll rest (k + s.leaves.length) u
    have same : s.holds k v = s.holds k u := holds_congr s fun i _ lt => beside i (.inl lt)
    refine ⟨v, by simp [holdsAll, same, hu, hv], fun i hi => ?_⟩
    rw [beside i (by omega), outside i (by omega)]

/-- A disjunction can be made false by its own places. -/
theorem exists_holdsAny (rest : List (Spec m α)) (k : Nat) (t : Nat → Bool) :
    ∃ u, holdsAny rest k u = false ∧ ∀ i, i < k ∨ k + (leavesOf rest).length ≤ i → u i = t i := by
  cases rest with
  | nil => exact ⟨t, rfl, fun _ _ => rfl⟩
  | cons s rest =>
    simp only [leavesOf, List.length_append, ← Nat.add_assoc]
    obtain ⟨u, hu, outside⟩ := exists_holds s k t false
    obtain ⟨v, hv, beside⟩ := exists_holdsAny rest (k + s.leaves.length) u
    have same : s.holds k v = s.holds k u := holds_congr s fun i _ lt => beside i (.inl lt)
    refine ⟨v, by simp [holdsAny, same, hu, hv], fun i hi => ?_⟩
    rw [beside i (by omega), outside i (by omega)]

end

mutual

/-- A branch asks the rules of its specification, each at its place. -/
theorem within_branch (s : Spec m α) (before after : List (Rule m α))
    {occurring : List (Rule m α)} (split : occurring = before ++ (s.leaves ++ after)) {k : Nat}
    (hk : before.length = k) {onYes onNo : Decision m α} (yes : onYes.Within occurring)
    (no : onNo.Within occurring) : (s.branch k onYes onNo).Within occurring := by
  subst hk
  cases s with
  | rule r => exact ⟨by simp [split, leaves], yes, no⟩
  | all own first rest =>
    have rests := within_branchAll rest (before ++ first.leaves) after (by simp [split, leaves])
      List.length_append yes no
    exact within_branch first before (leavesOf rest ++ after) (by simp [split, leaves]) rfl
      rests no
  | any own first rest =>
    have rests := within_branchAny rest (before ++ first.leaves) after (by simp [split, leaves])
      List.length_append yes no
    exact within_branch first before (leavesOf rest ++ after) (by simp [split, leaves]) rfl
      yes rests
  | not own operand => exact within_branch operand before after split rfl no yes

theorem within_branchAll (rest : List (Spec m α)) (before after : List (Rule m α))
    {occurring : List (Rule m α)} (split : occurring = before ++ (leavesOf rest ++ after)) {k : Nat}
    (hk : before.length = k) {onYes onNo : Decision m α} (yes : onYes.Within occurring)
    (no : onNo.Within occurring) : (branchAll rest k onYes onNo).Within occurring := by
  subst hk
  cases rest with
  | nil => exact yes
  | cons s rest =>
    have rests := within_branchAll rest (before ++ s.leaves) after (by simp [split, leavesOf])
      List.length_append yes no
    exact within_branch s before (leavesOf rest ++ after) (by simp [split, leavesOf]) rfl rests no

theorem within_branchAny (rest : List (Spec m α)) (before after : List (Rule m α))
    {occurring : List (Rule m α)} (split : occurring = before ++ (leavesOf rest ++ after)) {k : Nat}
    (hk : before.length = k) {onYes onNo : Decision m α} (yes : onYes.Within occurring)
    (no : onNo.Within occurring) : (branchAny rest k onYes onNo).Within occurring := by
  subst hk
  cases rest with
  | nil => exact no
  | cons s rest =>
    have rests := within_branchAny rest (before ++ s.leaves) after (by simp [split, leavesOf])
      List.length_append yes no
    exact within_branch s before (leavesOf rest ++ after) (by simp [split, leavesOf]) rfl yes rests

end

/-- The operands of a conjunction can all hold, and what comes after them does not notice. -/
theorem branchAll_apart (rest : List (Spec m α)) {k : Nat} {onYes onNo : Decision m α}
    (differ : ∃ t, onYes.value t ≠ onNo.value t)
    (yes : onYes.After (k + (leavesOf rest).length))
    (no : onNo.After (k + (leavesOf rest).length)) :
    ∃ t, (branchAll rest k onYes onNo).value t ≠ onNo.value t := by
  obtain ⟨t, ht⟩ := differ
  obtain ⟨u, hu, beside⟩ := exists_holdsAll rest k t
  refine ⟨u, ?_⟩
  rw [value_branchAll, hu, if_pos rfl, Decision.value_congr yes fun i h => beside i (.inr h),
    Decision.value_congr no fun i h => beside i (.inr h)]
  exact ht

/-- Where the two ways to go on differ, so does the branch from the first of them. -/
theorem branchAny_apart (rest : List (Spec m α)) {k : Nat} {onYes onNo : Decision m α}
    (differ : ∃ t, onYes.value t ≠ onNo.value t)
    (yes : onYes.After (k + (leavesOf rest).length))
    (no : onNo.After (k + (leavesOf rest).length)) :
    ∃ t, onYes.value t ≠ (branchAny rest k onYes onNo).value t := by
  obtain ⟨t, ht⟩ := differ
  obtain ⟨u, hu, beside⟩ := exists_holdsAny rest k t
  refine ⟨u, ?_⟩
  rw [value_branchAny, hu, if_neg Bool.false_ne_true,
    Decision.value_congr yes fun i h => beside i (.inr h),
    Decision.value_congr no fun i h => beside i (.inr h)]
  exact ht

mutual

/-- Where a rule is asked, the two ways to go on differ, if those of the whole do. -/
theorem sharp_branch (s : Spec m α) {k : Nat} {onYes onNo : Decision m α}
    (differ : ∃ t, onYes.value t ≠ onNo.value t) (yes : onYes.Sharp) (no : onNo.Sharp)
    (yesAfter : onYes.After (k + s.leaves.length)) (noAfter : onNo.After (k + s.leaves.length)) :
    (s.branch k onYes onNo).Sharp := by
  cases s with
  | rule r => exact ⟨differ, yes, no⟩
  | all own first rest =>
    simp only [leaves, List.length_append, ← Nat.add_assoc] at yesAfter noAfter
    exact sharp_branch first (branchAll_apart rest differ yesAfter noAfter)
      (sharp_branchAll rest differ yes no yesAfter noAfter) no
      (after_branchAll rest yesAfter noAfter) (noAfter.mono (by omega))
  | any own first rest =>
    simp only [leaves, List.length_append, ← Nat.add_assoc] at yesAfter noAfter
    exact sharp_branch first (branchAny_apart rest differ yesAfter noAfter)
      yes (sharp_branchAny rest differ yes no yesAfter noAfter)
      (yesAfter.mono (by omega)) (after_branchAny rest yesAfter noAfter)
  | not own operand =>
    obtain ⟨t, ht⟩ := differ
    exact sharp_branch operand ⟨t, ht.symm⟩ no yes noAfter yesAfter

/-- If both ways to go on are sharp and differ, a conjunction branches sharply. -/
theorem sharp_branchAll (rest : List (Spec m α)) {k : Nat} {onYes onNo : Decision m α}
    (differ : ∃ t, onYes.value t ≠ onNo.value t) (yes : onYes.Sharp) (no : onNo.Sharp)
    (yesAfter : onYes.After (k + (leavesOf rest).length))
    (noAfter : onNo.After (k + (leavesOf rest).length)) :
    (branchAll rest k onYes onNo).Sharp := by
  cases rest with
  | nil => exact yes
  | cons s rest =>
    simp only [leavesOf, List.length_append, ← Nat.add_assoc] at yesAfter noAfter
    exact sharp_branch s (branchAll_apart rest differ yesAfter noAfter)
      (sharp_branchAll rest differ yes no yesAfter noAfter) no
      (after_branchAll rest yesAfter noAfter) (noAfter.mono (by omega))

/-- If both ways to go on are sharp and differ, a disjunction branches sharply. -/
theorem sharp_branchAny (rest : List (Spec m α)) {k : Nat} {onYes onNo : Decision m α}
    (differ : ∃ t, onYes.value t ≠ onNo.value t) (yes : onYes.Sharp) (no : onNo.Sharp)
    (yesAfter : onYes.After (k + (leavesOf rest).length))
    (noAfter : onNo.After (k + (leavesOf rest).length)) :
    (branchAny rest k onYes onNo).Sharp := by
  cases rest with
  | nil => exact no
  | cons s rest =>
    simp only [leavesOf, List.length_append, ← Nat.add_assoc] at yesAfter noAfter
    exact sharp_branch s (branchAny_apart rest differ yesAfter noAfter)
      yes (sharp_branchAny rest differ yes no yesAfter noAfter)
      (yesAfter.mono (by omega)) (after_branchAny rest yesAfter noAfter)

end

/-- The decision of a specification asks from left to right. -/
theorem after_decision (s : Spec m α) : s.decision.After 0 := after_branch s trivial trivial

/-- The decision of a specification asks its own rules. -/
theorem within_decision (s : Spec m α) : s.decision.Within s.leaves :=
  within_branch s [] [] (by simp) rfl trivial trivial

/-- No rule is asked in vain. -/
theorem sharp_decision (s : Spec m α) : s.decision.Sharp :=
  sharp_branch s ⟨fun _ => true, by simp [Decision.value]⟩ trivial trivial trivial trivial

section Judging

variable [Monad m] [LawfulMonad m]

mutual

/-- To judge and go on by the verdict is to run the decision. -/
theorem judge_branch (s : Spec m α) (c : α) (k : Nat) (onYes onNo : Decision m α) :
    (s.judge c >>= fun v => if v.truthy then onYes.run c else onNo.run c) =
      (s.branch k onYes onNo).run c := by
  cases s with
  | rule r => rfl
  | all own first rest =>
    rw [branch, ← judge_branch first c, judge, bind_assoc]
    refine bind_congr fun v => ?_
    rw [← judge_branchAll rest c]
    by_cases yes : v.truthy
    · simp only [yes, if_true, bind_assoc, pure_bind]
      rfl
    · simp [yes]
  | any own first rest =>
    rw [branch, ← judge_branch first c, judge, bind_assoc]
    refine bind_congr fun v => ?_
    rw [← judge_branchAny rest c]
    by_cases yes : v.truthy
    · simp [yes]
    · simp only [yes, Bool.false_eq_true, if_false, bind_assoc, pure_bind]
      rfl
  | not own operand =>
    rw [branch, ← judge_branch operand c, judge, bind_assoc]
    refine bind_congr fun v => ?_
    by_cases yes : v.truthy <;> simp [yes]

/-- To judge a conjunction and go on is to run its branch. -/
theorem judge_branchAll (rest : List (Spec m α)) (c : α) (k : Nat) (onYes onNo : Decision m α) :
    (judgeAll rest c >>= fun yes => if yes then onYes.run c else onNo.run c) =
      (branchAll rest k onYes onNo).run c := by
  cases rest with
  | nil => simp [judgeAll, branchAll]
  | cons s rest =>
    rw [branchAll, ← judge_branch s c, judgeAll, bind_assoc]
    refine bind_congr fun v => ?_
    rw [← judge_branchAll rest c]
    by_cases yes : v.truthy <;> simp [yes]

/-- To judge a disjunction and go on is to run its branch. -/
theorem judge_branchAny (rest : List (Spec m α)) (c : α) (k : Nat) (onYes onNo : Decision m α) :
    (judgeAny rest c >>= fun yes => if yes then onYes.run c else onNo.run c) =
      (branchAny rest k onYes onNo).run c := by
  cases rest with
  | nil => simp [judgeAny, branchAny]
  | cons s rest =>
    rw [branchAny, ← judge_branch s c, judgeAny, bind_assoc]
    refine bind_congr fun v => ?_
    rw [← judge_branchAny rest c]
    by_cases yes : v.truthy <;> simp [yes]

end

/-- A combination says yes or no as its decision does. -/
theorem judge_eq_run {s : Spec m α} (h : s.IsComposite) (c : α) :
    s.judge c = Value.flag <$> s.decision.run c := by
  have truth : ∀ x : m Value, (∃ y : m Bool, x = Value.flag <$> y) →
      x = Value.flag <$> (x >>= fun v => if v.truthy then pure true else pure false) := by
    rintro _ ⟨y, rfl⟩
    simp only [map_eq_pure_bind, bind_assoc, pure_bind]
    refine bind_congr fun yes => ?_
    cases yes <;> simp
  rw [decision, ← judge_branch s c 0]
  refine truth _ ?_
  cases s with
  | rule r => exact h.elim
  | all own first rest =>
    refine ⟨first.judge c >>= fun v => if v.truthy then judgeAll rest c else pure false, ?_⟩
    simp only [judge, map_eq_pure_bind, bind_assoc]
    refine bind_congr fun v => ?_
    by_cases yes : v.truthy <;> simp [yes]
  | any own first rest =>
    refine ⟨first.judge c >>= fun v => if v.truthy then pure true else judgeAny rest c, ?_⟩
    simp only [judge, map_eq_pure_bind, bind_assoc]
    refine bind_congr fun v => ?_
    by_cases yes : v.truthy <;> simp [yes]
  | not own operand =>
    exact ⟨(fun v => !v.truthy) <$> operand.judge c, by simp [judge]⟩

end Judging

end Spec

end SchoolRegistry
