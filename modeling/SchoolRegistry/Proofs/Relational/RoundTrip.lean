import SchoolRegistry.Proofs.Relational.Recall

/-!
# From instances to columns and back

What is written to the columns of a table is read as the same instance
(`instanceOf_columnValues`): its fields are what the item shows, terms are found by their texts, and
the version, which is no field, is written beside the fields and put back after they are read. So
the columns lose nothing, and whatever a row is read as survives being written and read once more
(`columns_lose_nothing`).

An object in memory keeps its attributes as they were given, moments with their offsets among them.
What a database makes of the same columns is in `Collection.ofRow_toRow`. A row may give any values;
only its version must be one that a column holds, since nothing reads it before it is put back.
-/

namespace SchoolRegistry

/-- An entity as a value that says the given version. -/
def Entity.carrying {σ : Type} [Entity σ] (version : Value) (x : σ) : Value :=
  .record (Entity.name σ) version ((Entity.model : Model σ).fieldValues x)

namespace Collection

variable {c : Collection} {x : c.Item} {version : Value}

/-- The instance that the columns of a row describe. -/
def instanceOf (c : Collection) (row : Fields) : Except Failure Value :=
  c.mapping.ofRow (Entity.model : Model c.Item) Entity.toValue row

/-! ## What is written -/

/-- The columns give every field as a column holds it. -/
theorem lookup_columnValues (present : version.isNull = false) :
    ∀ f ∈ (Entity.model : Model c.Item).fields,
      (c.mapping.columnValues (Entity.carrying version x)).lookup f.wireName =
        some (f.get x).stored := by
  refine List.map_inj_left.mp ?_
  cases c <;> simp only [Mapping.columnValues, Mapping.allValues, Entity.carrying, present] <;> rfl

/-- The version that an entity carries is the value of its column. -/
theorem lookup_version_columnValues (present : version.isNull = false) :
    (c.mapping.columnValues (Entity.carrying version x)).lookup Mapping.versionColumn =
      some version.stored := by
  cases c <;> simp only [Mapping.columnValues, Mapping.allValues, Entity.carrying, present] <;> rfl

end Collection

namespace Mapping

variable {m : Mapping} {v : Value}

/-- Only columns that take part are written. -/
theorem covers_columnValues : ∀ f ∈ m.columnValues v, m.covers f.1 = true := by
  intro f written
  obtain ⟨given, found, rfl⟩ := List.mem_map.mp written
  exact (List.mem_filter.mp found).2

/-- The mapping covers every value that it writes. -/
theorem columnValues_filter_covers :
    ((m.columnValues v).filter fun f => m.covers f.1) = m.columnValues v :=
  List.filter_eq_self.mpr covers_columnValues

theorem columnValues_all_columns :
    ((m.columnValues v).all fun f => m.table.columnNames.contains f.1) = true := by
  apply List.all_eq_true.mpr
  intro f written
  have covered := covers_columnValues f written
  rw [covers, Bool.and_eq_true] at covered
  exact covered.1

end Mapping

namespace Collection

variable {c : Collection} {version : Value}

/-! ## What is read -/

/-- The version is no field. -/
theorem fieldValues_setVersion (n : Nat) (x : c.Item) :
    (Entity.model : Model c.Item).fieldValues
        (Entity.setHeader { Entity.header x with version := n } x) =
      (Entity.model : Model c.Item).fieldValues x := by
  cases c <;> rfl

/-- In memory, a header keeps all but its version. -/
theorem header_asGiven (h : Header) : Keeping.asGiven.header h = { h with version := 0 } := by
  simp only [Keeping.header, Keeping.asGiven, Option.map_id_fun, id]

/-- What is written to the columns is read as the same instance. -/
theorem instanceOf_columnValues (x : c.Item) (present : version.isNull = false)
    (held : version.stored = version) :
    c.instanceOf (c.mapping.columnValues (Entity.carrying version x)) =
      .ok (Entity.carrying version x) := by
  have parsed := parse_of_kept .asGiven (lookup_columnValues (x := x) present)
  have said := lookup_version_columnValues (x := x) present
  rw [header_asGiven] at parsed
  rw [held] at said
  rw [instanceOf, Mapping.ofRow, if_pos Mapping.columnValues_all_columns, Mapping.ofValues,
    Mapping.columnValues_filter_covers, parsed]
  simp only [Entity.toValue, Mapping.withVersion, said, present, fieldValues_setVersion]
  rfl

/-- A row is read as an item with the version that it says, if it can be read at all. -/
theorem instanceOf_cases {row : Fields} (known : ∀ f ∈ row, f.1 ∈ c.table.columnNames)
    (held : ∀ v, row.lookup Mapping.versionColumn = some v → v.stored = v) :
    c.instanceOf row = .error (Mapping.unreadable c.table.rowName c.modelName row) ∨
      ∃ (x : c.Item) (version : Value), version.isNull = false ∧ version.stored = version ∧
        c.instanceOf row = .ok (Entity.carrying version x) := by
  have covered : ∀ f ∈ row, c.mapping.covers f.1 = true := by
    intro f there
    exact Bool.and_eq_true_iff.mpr ⟨List.contains_iff_mem.mpr (known f there), rfl⟩
  have columns : (row.all fun f => c.mapping.table.columnNames.contains f.1) = true :=
    List.all_eq_true.mpr fun f there => (Bool.and_eq_true_iff.mp (covered f there)).1
  rw [instanceOf, Mapping.ofRow, if_pos columns, Mapping.ofValues,
    List.filter_eq_self.mpr covered]
  cases (Entity.model : Model c.Item).parse row with
  | error faults => exact .inl rfl
  | ok x =>
    -- without a version of the row the item keeps the one it was read with
    refine .inr ⟨x, ?_⟩
    cases said : row.lookup Mapping.versionColumn with
    | none => exact ⟨.whole (Entity.version x), rfl, rfl, by
        simp only [Mapping.withVersion, Entity.toValue, said, Entity.carrying]⟩
    | some v =>
      cases missing : v.isNull with
      | true => exact ⟨.whole (Entity.version x), rfl, rfl, by
          simp only [Mapping.withVersion, Entity.toValue, said, missing, Entity.carrying]
          rfl⟩
      | false => exact ⟨v, missing, held v said, by
          simp only [Mapping.withVersion, Entity.toValue, said, missing, Entity.carrying]
          rfl⟩

/-- The columns of each table lose nothing. Every instance of the model, with whatever version, is
read from its columns as it was: all fields, terms and lists of terms, stamps with their offsets,
and the version. And every row of values either cannot be read, and the failure names the row, or
is read as an instance that is read from its own columns as it was. -/
theorem columns_lose_nothing (c : Collection) :
    (∀ (x : c.Item) (n : Int),
      c.instanceOf (c.mapping.columnValues (Entity.carrying (.whole n) x)) =
        .ok (Entity.carrying (.whole n) x)) ∧
    ∀ row : Fields, (∀ f ∈ row, f.1 ∈ c.table.columnNames) →
      (∀ v, row.lookup Mapping.versionColumn = some v → v.stored = v) →
      c.instanceOf row = .error (Mapping.unreadable c.table.rowName c.modelName row) ∨
        ∃ e, c.instanceOf row = .ok e ∧ c.instanceOf (c.mapping.columnValues e) = .ok e := by
  refine ⟨fun x n => instanceOf_columnValues x rfl rfl, fun row known held => ?_⟩
  obtain failed | ⟨x, version, present, held, read⟩ := instanceOf_cases known held
  · exact .inl failed
  · exact .inr ⟨_, read, instanceOf_columnValues x present held⟩

/-- A role in the columns as a database gives them: marks as texts, a time of creation without an
offset, and no other column loaded. -/
theorem columns_lose_nothing_role :
    let created : Wall := ⟨⟨2024, 2, 29, by decide⟩, .midnight⟩
    let row : Fields := [("id", .text "rolle-1"), ("version", .whole 3),
      ("merkmale", .list [.text "KOPERS_PFLICHT", .text "BEFRISTUNG_PFLICHT"]),
      ("created_at", .moment (.floating created))]
    ∃ e, roles.instanceOf row = .ok e ∧
      roles.instanceOf (roles.mapping.columnValues e) = .ok e := by
  intro created row
  have known : ∀ f ∈ row, f.1 ∈ roles.table.columnNames := by decide +revert
  have held : ∀ v, row.lookup Mapping.versionColumn = some v → v.stored = v := by
    intro v said
    cases said
    rfl
  refine ((columns_lose_nothing roles).2 row known held).resolve_left ?_
  intro failed
  cases failed

end Collection

end SchoolRegistry
