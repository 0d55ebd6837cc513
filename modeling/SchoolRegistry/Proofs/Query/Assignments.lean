import SchoolRegistry.Registry.Assignments

/-!
# What queries for assignments find

The services find assignments through two queries: for those of a person and for those with a
key. Evaluated in memory, the first one finds exactly the person's assignments, in the order of
the shelf (`evaluate_ofPersonQuery`), and the second one finds an assignment exactly if one with
the key is there (`evaluate_keyQuery`).
-/

namespace SchoolRegistry

/-- Two texts are equal as values if they are equal. -/
theorem Value.same_text (s t : String) : (Value.text s).same (.text t) = (s == t) := by
  rw [Bool.eq_iff_iff]
  simp [Value.same, Value.scalar?, Scalar.same, Scalar.compare?]

/-- An optional text is equal to a text if it is that text. -/
theorem Value.same_ofText? (s : Option String) (t : String) :
    (Value.ofText? s).same (.text t) = (s == some t) := by
  cases s with
  | none => simp [Value.ofText?, Value.same, Value.scalar?]
  | some s => exact Value.same_text s t

/-- A path without a dot leads to the attribute of this name. -/
theorem Value.resolve_single {path : String} (single : Value.pathNames path = [path]) (v : Value) :
    v.resolve path = Value.along [path] v := by rw [Value.resolve, single]

/-- An optional text is shown as the text or as nothing. -/
theorem Codec.write_text? (s : Option String) : Codec.text?.write s = .ofText? s := by
  cases s <;> rfl

namespace Query

variable {α : Type} {view : α → Value} {items : List α}

/-- A window without bounds cuts nothing off. -/
theorem window_none (items : List α) : window none none items = items := by
  simp [window, place]

/-- The window of the first item. -/
theorem window_first (items : List α) : window (some 0) (some 1) items = items.take 1 := by
  cases items with
  | nil => rfl
  | cons x xs => simp [window, place]

/-- A query without sort keys finds the matches in their order. -/
theorem evaluate_unsorted {q : Query} (h : q.sort = []) :
    q.evaluate view items = .ok ⟨window q.offset q.limit (items.filter fun x => q.holds (view x)),
      (items.filter fun x => q.holds (view x)).length⟩ := by
  unfold evaluate
  rw [h]
  rfl

end Query

namespace Assignment

/-! ## Fields of an assignment -/

theorem resolve_personId (a : Assignment) :
    (Entity.toValue a).resolve "person_id" = .text a.personId := Value.resolve_single (by decide) _

theorem resolve_organisationId (a : Assignment) :
    (Entity.toValue a).resolve "organisation_id" = .text a.organisationId :=
  Value.resolve_single (by decide) _

theorem resolve_roleId (a : Assignment) :
    (Entity.toValue a).resolve "rolle_id" = .text a.roleId := Value.resolve_single (by decide) _

/-! ## The two queries -/

/-- The assignments of a person among the given ones. -/
def heldBy (personId : String) (items : List Assignment) : List Assignment :=
  items.filter fun a => a.personId == personId

/-- The assignments of a person are those that name the person. -/
theorem mem_heldBy {personId : String} {items : List Assignment} {a : Assignment} :
    a ∈ heldBy personId items ↔ a ∈ items ∧ a.personId = personId := by simp [heldBy]

/-- The query for the assignments of a person matches those that name the person. -/
theorem holds_ofPersonQuery (personId : String) (a : Assignment) :
    (AssignmentRules.ofPersonQuery personId).holds (Entity.toValue a) =
      (a.personId == personId) := by
  change ((((Entity.toValue a).resolve "person_id").same (.text personId) && true) && true) = _
  rw [resolve_personId, Value.same_text, Bool.and_true, Bool.and_true]

/-- The query for a person finds the person's assignments. -/
theorem evaluate_ofPersonQuery (personId : String) (items : List Assignment) :
    (AssignmentRules.ofPersonQuery personId).evaluate Entity.toValue items =
      .ok ⟨heldBy personId items, (heldBy personId items).length⟩ := by
  rw [Query.evaluate_unsorted rfl]
  simp only [holds_ofPersonQuery]
  rw [show (AssignmentRules.ofPersonQuery personId).offset = none from rfl,
    show (AssignmentRules.ofPersonQuery personId).limit = none from rfl, Query.window_none]
  rfl

/-- The query for a key matches the assignments with this key. -/
theorem holds_keyQuery (k : Key) (a : Assignment) :
    (Assignments.keyQuery k).holds (Entity.toValue a) = decide (a.key = k) := by
  change ((((Entity.toValue a).resolve "person_id").same (.text k.personId) &&
    (((Entity.toValue a).resolve "organisation_id").same (.text k.organisationId) &&
      (((Entity.toValue a).resolve "rolle_id").same (.text k.roleId) && true))) && true) = _
  rw [resolve_personId, resolve_organisationId, resolve_roleId]
  simp only [Value.same_text, Bool.and_true]
  rw [Bool.eq_iff_iff]
  cases k
  simp [key]

/-- The query for a key finds the first assignment with the key. -/
theorem evaluate_keyQuery (k : Key) (items : List Assignment) :
    (Assignments.keyQuery k).evaluate Entity.toValue items =
      .ok ⟨(items.filter fun a => a.key = k).take 1, (items.filter fun a => a.key = k).length⟩ := by
  rw [Query.evaluate_unsorted rfl]
  simp only [holds_keyQuery]
  rw [show (Assignments.keyQuery k).offset = some 0 from rfl,
    show (Assignments.keyQuery k).limit = some 1 from rfl, Query.window_first]

/-- If the query for a key finds nothing, the key is not there. -/
theorem not_mem_of_keyQuery {k : Key} {items : List Assignment} {found : Counted Assignment}
    (evaluated : (Assignments.keyQuery k).evaluate Entity.toValue items = .ok found)
    (none : found.items.isEmpty = true) : k ∉ items.map key := by
  intro stored
  obtain ⟨a, ha, same⟩ := List.mem_map.mp stored
  cases (evaluate_keyQuery k items).symm.trans evaluated
  have absent : (items.filter fun a => a.key = k) = [] :=
    (List.take_eq_nil_iff.mp (List.isEmpty_iff.mp none)).resolve_left Nat.one_ne_zero
  exact absurd (decide_eq_true same) (List.filter_eq_nil_iff.mp absent a ha)

end Assignment

end SchoolRegistry
