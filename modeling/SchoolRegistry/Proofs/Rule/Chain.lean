import SchoolRegistry.Proofs.Rule.Decision

/-!
# Equal decisions

De Morgan's laws and the brackets of a chain, for decisions: to deny a conjunction is to decide by
its denied operands, one of which must hold, and a chain decides by its operands, however they are
bracketed. The decisions are equal, not only equivalent, so both sides ask the same rules at the
same places; names play no part in that. A single rule and the chain of it alone decide alike, but
they do not judge alike: the rule may answer with a value that is neither yes nor no.
-/

namespace SchoolRegistry.Spec

variable {m : Type → Type} {α : Type}

/-! ## De Morgan's laws -/

/-- A disjunction of negations branches as the conjunction the other way round. -/
theorem branchAny_not (rest : List (Option String × Spec m α)) (k : Nat)
    (onYes onNo : Decision m α) :
    branchAny (rest.map fun p => .not p.1 p.2) k onYes onNo =
      branchAll (rest.map Prod.snd) k onNo onYes := by
  induction rest generalizing k with
  | nil => rfl
  | cons p rest ih => simp only [List.map_cons, branchAny, branchAll, branch, leaves, ih]

/-- A conjunction of negations branches as the disjunction the other way round. -/
theorem branchAll_not (rest : List (Option String × Spec m α)) (k : Nat)
    (onYes onNo : Decision m α) :
    branchAll (rest.map fun p => .not p.1 p.2) k onYes onNo =
      branchAny (rest.map Prod.snd) k onNo onYes := by
  induction rest generalizing k with
  | nil => rfl
  | cons p rest ih => simp only [List.map_cons, branchAny, branchAll, branch, leaves, ih]

/-- To deny a conjunction is to decide by its denied operands, one of which must hold. -/
theorem decision_not_all (own own' own'' : Option String) (first : Option String × Spec m α)
    (rest : List (Option String × Spec m α)) :
    (Spec.not own (.all own' first.2 (rest.map Prod.snd))).decision =
      (Spec.any own'' (.not first.1 first.2) (rest.map fun p => .not p.1 p.2)).decision := by
  simp only [decision, branch, leaves, branchAny_not]

/-- The negation of a disjunction decides as the conjunction of the negations. -/
theorem decision_not_any (own own' own'' : Option String) (first : Option String × Spec m α)
    (rest : List (Option String × Spec m α)) :
    (Spec.not own (.any own' first.2 (rest.map Prod.snd))).decision =
      (Spec.all own'' (.not first.1 first.2) (rest.map fun p => .not p.1 p.2)).decision := by
  simp only [decision, branch, leaves, branchAll_not]

/-! ## Chains -/

mutual

/-- The operands of a chain of conjunctions, without its brackets. -/
def conjuncts : Spec m α → List (Spec m α)
  | all _ first rest => first.conjuncts ++ conjunctsOf rest
  | s => [s]

/-- The operands of several chains of conjunctions. -/
def conjunctsOf : List (Spec m α) → List (Spec m α)
  | [] => []
  | s :: rest => s.conjuncts ++ conjunctsOf rest

end

mutual

/-- The operands of a chain of disjunctions, without its brackets. -/
def disjuncts : Spec m α → List (Spec m α)
  | any _ first rest => first.disjuncts ++ disjunctsOf rest
  | s => [s]

/-- The operands of several chains of disjunctions. -/
def disjunctsOf : List (Spec m α) → List (Spec m α)
  | [] => []
  | s :: rest => s.disjuncts ++ disjunctsOf rest

end

theorem leavesOf_append (xs ys : List (Spec m α)) :
    leavesOf (xs ++ ys) = leavesOf xs ++ leavesOf ys := by
  induction xs with
  | nil => rfl
  | cons s xs ih => simp only [List.cons_append, leavesOf, ih, List.append_assoc]

/-- To branch on two lists of operands is to branch on one and then on the other. -/
theorem branchAll_append (xs ys : List (Spec m α)) (k : Nat) (onYes onNo : Decision m α) :
    branchAll (xs ++ ys) k onYes onNo =
      branchAll xs k (branchAll ys (k + (leavesOf xs).length) onYes onNo) onNo := by
  induction xs generalizing k with
  | nil => rfl
  | cons s xs ih =>
    simp only [List.cons_append, branchAll, ih, leavesOf, List.length_append, Nat.add_assoc]

theorem branchAny_append (xs ys : List (Spec m α)) (k : Nat) (onYes onNo : Decision m α) :
    branchAny (xs ++ ys) k onYes onNo =
      branchAny xs k onYes (branchAny ys (k + (leavesOf xs).length) onYes onNo) := by
  induction xs generalizing k with
  | nil => rfl
  | cons s xs ih =>
    simp only [List.cons_append, branchAny, ih, leavesOf, List.length_append, Nat.add_assoc]

mutual

/-- Without brackets, a chain of conjunctions has the same rules. -/
theorem leavesOf_conjuncts (s : Spec m α) : leavesOf s.conjuncts = s.leaves := by
  cases s with
  | all own first rest =>
    rw [conjuncts, leavesOf_append, leavesOf_conjuncts first, leavesOf_conjunctsOf rest, leaves]
  | rule | any | not => simp [conjuncts, leavesOf]

theorem leavesOf_conjunctsOf (rest : List (Spec m α)) :
    leavesOf (conjunctsOf rest) = leavesOf rest := by
  cases rest with
  | nil => rfl
  | cons s rest =>
    rw [conjunctsOf, leavesOf_append, leavesOf_conjuncts s, leavesOf_conjunctsOf rest, leavesOf]

end

mutual

/-- Without brackets, a chain of disjunctions has the same rules. -/
theorem leavesOf_disjuncts (s : Spec m α) : leavesOf s.disjuncts = s.leaves := by
  cases s with
  | any own first rest =>
    rw [disjuncts, leavesOf_append, leavesOf_disjuncts first, leavesOf_disjunctsOf rest, leaves]
  | rule | all | not => simp [disjuncts, leavesOf]

theorem leavesOf_disjunctsOf (rest : List (Spec m α)) :
    leavesOf (disjunctsOf rest) = leavesOf rest := by
  cases rest with
  | nil => rfl
  | cons s rest =>
    rw [disjunctsOf, leavesOf_append, leavesOf_disjuncts s, leavesOf_disjunctsOf rest, leavesOf]

end

mutual

/-- The brackets of a chain of conjunctions do not matter. -/
theorem branch_conjuncts (s : Spec m α) (k : Nat) (onYes onNo : Decision m α) :
    s.branch k onYes onNo = branchAll s.conjuncts k onYes onNo := by
  cases s with
  | all own first rest =>
    rw [conjuncts, branchAll_append, leavesOf_conjuncts, ← branch_conjuncts first,
      ← branchAll_conjunctsOf rest, branch]
  | rule | any | not => rfl

/-- The brackets of a conjunction do not matter to how it branches. -/
theorem branchAll_conjunctsOf (rest : List (Spec m α)) (k : Nat) (onYes onNo : Decision m α) :
    branchAll rest k onYes onNo = branchAll (conjunctsOf rest) k onYes onNo := by
  cases rest with
  | nil => rfl
  | cons s rest =>
    rw [conjunctsOf, branchAll_append, leavesOf_conjuncts, ← branch_conjuncts s,
      ← branchAll_conjunctsOf rest, branchAll]

end

mutual

/-- The brackets of a chain of disjunctions do not matter. -/
theorem branch_disjuncts (s : Spec m α) (k : Nat) (onYes onNo : Decision m α) :
    s.branch k onYes onNo = branchAny s.disjuncts k onYes onNo := by
  cases s with
  | any own first rest =>
    rw [disjuncts, branchAny_append, leavesOf_disjuncts, ← branch_disjuncts first,
      ← branchAny_disjunctsOf rest, branch]
  | rule | all | not => rfl

/-- The brackets of a disjunction do not matter to how it branches. -/
theorem branchAny_disjunctsOf (rest : List (Spec m α)) (k : Nat) (onYes onNo : Decision m α) :
    branchAny rest k onYes onNo = branchAny (disjunctsOf rest) k onYes onNo := by
  cases rest with
  | nil => rfl
  | cons s rest =>
    rw [disjunctsOf, branchAny_append, leavesOf_disjuncts, ← branch_disjuncts s,
      ← branchAny_disjunctsOf rest, branchAny]

end

end SchoolRegistry.Spec
