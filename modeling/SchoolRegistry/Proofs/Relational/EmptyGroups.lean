import SchoolRegistry.Query.Evaluate
import SchoolRegistry.Relational.Statement

/-!
# Groups without conditions

Steps that build a query never add a group without conditions, but a query can also be written down
with one. A statement for rows leaves such a group out, whatever its connective and wherever it
stands (`clausesOf_insert`). In memory the connective decides: all of no conditions hold, and none
of them does. So the group adds nothing under the one connective, while under the other it fails for
every value and nothing is found (`evaluate_insert_any`).

Hence memory and statements read a query with such a group alike only if its conditions must all
hold, or if nothing meets the other groups anyway (`insert_empty_group`).
-/

namespace SchoolRegistry

variable {k : Connective} {before behind : List ConditionGroup}

/-! ## Statements -/

/-- An empty group becomes no clause. -/
theorem Statement.clausesOf_insert (t : Table) (k : Connective)
    (before behind : List ConditionGroup) :
    clausesOf t (before ++ ⟨k, []⟩ :: behind) = clausesOf t (before ++ behind) := by
  induction before with
  | nil => rfl
  | cons g before ih =>
    rw [List.cons_append, List.cons_append, clausesOf, clausesOf, ih]

/-! ## Values -/

/-- An empty group holds if all of nothing is demanded, and not if any of it is. -/
theorem ConditionGroup.holds_empty (v : Value) :
    ConditionGroup.holds ⟨k, []⟩ v = true ↔ k = .all := by
  cases k with
  | all => exact iff_of_true rfl rfl
  | any => exact iff_of_false Bool.false_ne_true nofun

namespace Query

variable {α : Type}

/-- The query with other groups. -/
def grouped (groups : List ConditionGroup) (q : Query) : Query := { q with groups := groups }

/-- The place of a group does not matter to a value. -/
theorem holds_insert (q : Query) (g : ConditionGroup) (v : Value) :
    (q.grouped (before ++ g :: behind)).holds v = true ↔
      g.holds v = true ∧ (q.grouped (before ++ behind)).holds v = true := by
  unfold holds grouped
  rw [List.all_eq_true, List.all_eq_true]
  constructor
  · intro all
    refine ⟨all g List.mem_append_cons_self, fun other there => all other ?_⟩
    rcases List.mem_append.mp there with first | last
    · exact List.mem_append_left _ first
    · exact List.mem_append_right _ (.tail _ last)
  · rintro ⟨one, all⟩ other there
    rcases List.mem_append.mp there with first | _ | ⟨_, last⟩
    · exact all other (List.mem_append_left _ first)
    · exact one
    · exact all other (List.mem_append_right _ last)

theorem arranged_nil (view : α → Value) (keys : List SortKey) : arranged view keys [] = .ok [] := by
  induction keys with
  | nil => rfl
  | cons k keys ih =>
    rw [arranged, ih]
    exact congrArg Except.ok List.mergeSort_nil

/-- Nothing is found if one of no conditions must hold. -/
theorem evaluate_insert_any (q : Query) (before behind : List ConditionGroup) (view : α → Value)
    (candidates : List α) :
    (q.grouped (before ++ ⟨.any, []⟩ :: behind)).evaluate view candidates = .ok ⟨[], 0⟩ := by
  have none_found :
      (q.grouped (before ++ ⟨.any, []⟩ :: behind)).matching view candidates = [] := by
    refine List.filter_eq_nil_iff.mpr fun c _ holds => ?_
    obtain ⟨empty, -⟩ := (holds_insert q _ _).mp holds
    cases (ConditionGroup.holds_empty _).mp empty
  simp only [evaluate, none_found, arranged_nil, Except.map, window, List.take_nil, List.drop_nil,
    List.length_nil, Int.ofNat_zero]

/-- A group without conditions leaves every statement as it is. It leaves what a query means in
memory only if all of its conditions must hold or nothing meets the query without it; if one of its
conditions must hold, nothing is found at all. -/
theorem insert_empty_group (q : Query) (k : Connective) (before behind : List ConditionGroup) :
    (∀ t, Statement.ofQuery t (q.grouped (before ++ ⟨k, []⟩ :: behind)) =
      Statement.ofQuery t (q.grouped (before ++ behind))) ∧
    ((∀ v, (q.grouped (before ++ ⟨k, []⟩ :: behind)).holds v =
      (q.grouped (before ++ behind)).holds v) ↔
        k = .all ∨ ∀ v, (q.grouped (before ++ behind)).holds v = false) ∧
    ∀ (α : Type) (view : α → Value) (candidates : List α),
      (q.grouped (before ++ ⟨.any, []⟩ :: behind)).evaluate view candidates = .ok ⟨[], 0⟩ := by
  refine ⟨fun t => ?_, ⟨fun same => ?_, ?_⟩, fun α view => evaluate_insert_any q before behind view⟩
  · unfold Statement.ofQuery grouped
    rw [Statement.clausesOf_insert]
  · cases k with
    | all => exact .inl rfl
    | any =>
      refine .inr fun v => ?_
      rw [← same v, ← Bool.not_eq_true, holds_insert, ConditionGroup.holds_empty]
      rintro ⟨⟨⟩, -⟩
  · rintro (rfl | nothing) v
    · rw [Bool.eq_iff_iff, holds_insert, ConditionGroup.holds_empty]
      exact and_iff_right rfl
    · rw [nothing v, ← Bool.not_eq_true, holds_insert, nothing v]
      exact fun ⟨_, holds⟩ => Bool.false_ne_true holds

/-- Every school meets no conditions at all, but not one of them. -/
theorem empty_group_rejects_school :
    let school : Value := .table [("name", .text "Hof")]
    (all.grouped [⟨.any, []⟩]).holds school = false ∧ (all.grouped []).holds school = true ∧
      (all.grouped [⟨.any, []⟩]).evaluate id [school] = .ok ⟨[], 0⟩ ∧
        (all.grouped []).evaluate id [school] = .ok ⟨[school], 1⟩ := by
  intro school
  exact ⟨rfl, rfl, evaluate_insert_any all [] [] id [school], rfl⟩

end Query

end SchoolRegistry
