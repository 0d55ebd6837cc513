import SchoolRegistry.Proofs.Query.Meaning
import SchoolRegistry.Proofs.Time.DayText
import SchoolRegistry.Relational.Rows

/-!
# Fields and their columns

A field of texts, terms, yes or no or days is kept in a column that compares its contents as the
values of the field compare: equal contents for equal values (`Value.equal_content`) and the order
of contents for the order of values (`Value.compareNullsLast_content`). The row of an item shows
under the name of a column what the item shows under the name of the field (`toRow_value`).

Nothing is said here about columns of moments and of documents.
-/

namespace SchoolRegistry

open Std

/-- The types of columns whose contents compare as the values of the field do. -/
def ColumnType.isPlain : ColumnType → Bool
  | varchar _ | boolean | date => true
  | integer | datetime | json => false

namespace Value

/-- The value is one that fields with a column of the type have. -/
inductive Suits : ColumnType → Value → Prop
  | missing {t : ColumnType} : t.isPlain = true → Suits t .null
  | text {n : Nat} {s : String} : Suits (.varchar n) (.text s)
  | choice {n : Nat} {term : Choice} : Suits (.varchar n) (.choice term)
  | flag {yes : Bool} : Suits .boolean (.flag yes)
  | day {d : Date} : Suits .date (.day d)

/-- The content of a value in a column. -/
def content? (v : Value) : Option Content :=
  match Content.ofScalar v with
  | .ok content => content
  | .error _ => none

/-- A text by which values that suit one column are ordered. -/
def sortText : Value → String
  | .flag yes => if yes then "1" else "0"
  | .text s => s
  | .choice term => term.text
  | .day d => d.toText
  | _ => ""

variable {t : ColumnType} {v w : Value}

/-- A value that suits a column has its content there. -/
theorem Suits.ofValue_eq (h : Suits t v) : Content.ofValue t v = .ok v.content? := by
  cases h with
  | missing plain => cases t <;> first | rfl | cases plain
  | _ => rfl

/-- A value that suits a column still does after it was kept. -/
theorem Suits.stored_kept (h : Suits t v) : Suits t v.stored.kept := by
  cases h with
  | missing plain => exact .missing plain
  | choice => exact .text
  | _ => constructor

/-- To store a value does not change its content. -/
theorem Suits.ofValue_stored (h : Suits t v) : Content.ofValue t v.stored = .ok v.content? := by
  cases h with
  | missing plain => cases t <;> first | rfl | cases plain
  | _ => rfl

/-- To keep a value does not change its content. -/
theorem Suits.content?_stored_kept (h : Suits t v) : v.stored.kept.content? = v.content? := by
  cases h <;> rfl

/-! ## Days as texts -/

theorem isPlainDigit_digitChar (n : Nat) : Text.isPlainDigit (Text.digitChar n) = true := by
  have each : ∀ a < 10, Text.isPlainDigit (Char.ofNat ('0'.toNat + a)) = true := by decide
  exact each _ (Nat.mod_lt n (by decide))

theorem not_isSpace_digitChar (n : Nat) : Content.isSpace (Text.digitChar n) = false := by
  have each : ∀ a < 10, Content.isSpace (Char.ofNat ('0'.toNat + a)) = false := by decide
  exact each _ (Nat.mod_lt n (by decide))

theorem digitChar_ne (n : Nat) : Text.digitChar n ≠ '-' ∧ Text.digitChar n ≠ '+' := by
  have each : ∀ a < 10, Char.ofNat ('0'.toNat + a) ≠ '-' ∧ Char.ofNat ('0'.toNat + a) ≠ '+' := by
    decide
  exact each _ (Nat.mod_lt n (by decide))

/-- Digits before a stroke spell no number. -/
theorem ofDigits_stroke {digits rest : List Char}
    (plain : ∀ c ∈ digits, Text.isPlainDigit c = true) :
    Content.ofDigits false (digits ++ '-' :: rest) = none := by
  have stroke : Text.isPlainDigit '-' = false := by decide
  have split : Content.splitDigits (digits ++ '-' :: rest) = (digits, '-' :: rest) := by
    unfold Content.splitDigits
    rw [List.takeWhile_append_of_pos plain, List.dropWhile_append_of_pos plain]
    simp [stroke]
  rw [Content.ofDigits, split]
  rfl

/-- A text spells no number if it begins with digits and a stroke and does not end with a blank. -/
theorem ofNumeral?_of_stroke {s : String} {n : Nat} {digits rest : List Char}
    (begins : s.toList = Text.digitChar n :: (digits ++ '-' :: rest))
    (plain : ∀ c ∈ digits, Text.isPlainDigit c = true)
    (back : s.toList.reverse.dropWhile Content.isSpace = s.toList.reverse) :
    Content.ofNumeral? s = none := by
  have front : s.toList.dropWhile Content.isSpace = s.toList := by
    simp [begins, not_isSpace_digitChar]
  have unsigned : Content.ofNumeral? s = Content.ofDigits false s.toList := by
    unfold Content.ofNumeral?
    simp only [front, back, List.reverse_reverse]
    rw [begins]
    split
    · exact absurd (List.cons.inj ‹_›).1 (digitChar_ne n).1
    · exact absurd (List.cons.inj ‹_›).1 (digitChar_ne n).2
    · rfl
  have first : ∀ c ∈ Text.digitChar n :: digits, Text.isPlainDigit c = true :=
    List.forall_mem_cons.mpr ⟨isPlainDigit_digitChar n, plain⟩
  rw [unsigned, begins]
  exact ofDigits_stroke first

/-- The text of a day spells no number. -/
theorem ofNumeral?_toText (d : Date) : Content.ofNumeral? d.toText = none := by
  refine ofNumeral?_of_stroke d.toList_toText ?_ ?_
  · simp [isPlainDigit_digitChar]
  · simp [Date.toList_toText, Text.paddedChars, not_isSpace_digitChar]

/-! ## Comparisons -/

/-- Values that suit one column compare as their texts do. -/
theorem Suits.compare?_eq (hv : Suits t v) (hw : Suits t w) (nv : v.isNull = false)
    (nw : w.isNull = false) : v.compare? w = some (Ord.compare v.sortText w.sortText) := by
  cases hv <;> cases hw <;> first | cases nv; done | cases nw; done | skip
  · exact (compare?_of_scalar rfl rfl).trans rfl
  · exact (compare?_of_scalar rfl rfl).trans rfl
  · exact (compare?_of_scalar rfl rfl).trans rfl
  · exact (compare?_of_scalar rfl rfl).trans rfl
  · rename_i a b
    refine (compare?_of_scalar rfl rfl).trans ?_
    cases a <;> cases b <;> rfl
  · refine (compare?_of_scalar rfl rfl).trans ?_
    exact congrArg some (Date.compare_eq_toText ..)

/-- The contents of values that suit one column compare as their texts do. -/
theorem Suits.compareNullsLast_content (hv : Suits t v) (hw : Suits t w) :
    Content.compareNullsLast v.content? w.content? =
      nullsLast (fun a b => Ord.compare a.sortText b.sortText) v w := by
  cases hv <;> cases hw <;> try rfl
  rename_i a b
  cases a <;> cases b <;> rfl

/-- A column of any type takes a text that spells no number as it is. -/
theorem equal_text {s t : String} (type : ColumnType) (h : Content.ofNumeral? t = none) :
    Content.equal type (some (.text s)) (some (.text t)) = (Ord.compare s t == .eq) := by
  have met : Content.metBy type (.text t) = .text t := by
    have kept : (Content.ofNumeral? t).getD (.text t) = .text t := by rw [h, Option.getD_none]
    cases type <;> first | rfl | exact kept
  rw [Content.equal, met]
  rfl

/-- A value that suits a column and is there is a scalar. -/
theorem Suits.scalar?_isSome (h : Suits t v) (present : v.isNull = false) :
    ∃ x, v.scalar? = some x := by
  cases h with
  | missing => cases present
  | _ => exact ⟨_, rfl⟩

/-- Contents are equal where the texts that order the values are. -/
theorem Suits.equal_content_eq (hv : Suits t v) (hw : Suits t w) (present : v.isNull = false)
    (given : w.isNull = false) :
    Content.equal t v.content? w.content? = (Ord.compare v.sortText w.sortText == .eq) := by
  cases hv with
  | missing => cases present
  | text | choice =>
    cases hw with
    | missing => cases given
    | text | choice => rfl
  | @flag a =>
    cases hw with
    | missing => cases given
    | @flag b => cases a <;> cases b <;> rfl
  | day =>
    cases hw with
    | missing => cases given
    | day => exact equal_text .date (ofNumeral?_toText _)

/-- Scalars are equal where the comparison says so. -/
theorem same_eq_compare? {x y : Scalar} (hv : v.scalar? = some x) (hw : w.scalar? = some y) :
    v.same w = (v.compare? w == some .eq) := by
  rw [same_of_scalar hv hw, compare?_of_scalar hv hw, Scalar.same]

/-- Contents are equal where the values are. -/
theorem Suits.equal_content (hv : Suits t v) (hw : Suits t w) (given : w.isNull = false) :
    Content.equal t v.content? w.content? = v.same w := by
  cases present : v.isNull with
  | true =>
    have nothing : Value.null.same w = false := by
      cases w <;> first | cases given; done | simp [Value.same, Value.scalar?]
    cases v <;> cases present
    exact nothing.symm
  | false =>
    obtain ⟨x, hx⟩ := hv.scalar?_isSome present
    obtain ⟨y, hy⟩ := hw.scalar?_isSome given
    rw [same_eq_compare? hx hy, hv.compare?_eq hw present given,
      hv.equal_content_eq hw present given]
    rfl

end Value

/-! ## The columns of a collection -/

namespace Collection

variable {c : Collection}

/-- The name of a column is a path of one step. -/
theorem pathNames_column (c : Collection) :
    ∀ col ∈ c.table.columns, Value.pathNames col.name = [col.name] := by
  cases c <;> decide

/-- The name of a column finds it in its table. -/
theorem column?_name (c : Collection) :
    ∀ col ∈ c.table.columns, c.table.column? col.name = some col := by
  cases c <;> decide

/-- The row of an item shows under the name of a column what the item shows, as columns hold it. -/
theorem toRow_value (x : c.Item) {col : Column} (h : col ∈ c.table.columns) :
    (c.toRow x).value col.name = ((Entity.toValue x).resolve col.name).stored.kept := by
  have each : ∀ col ∈ c.table.columns,
      (c.toRow x).value col.name = (Value.along [col.name] (Entity.toValue x)).stored.kept := by
    refine List.map_inj_left.mp ?_
    cases c <;> rfl
  rw [Value.resolve, pathNames_column c col h]
  exact each col h

end Collection

/-! ## Plain fields -/

/-- What a codec shows suits a column, and no two of its values are level there. -/
structure Codec.Fits {α : Type} (codec : Codec α) (t : ColumnType) : Prop where
  suits : ∀ a, (codec.write a).Suits t
  level : ∀ a b, (codec.write a).Level (codec.write b) → codec.write a = codec.write b

namespace Codec

/-- Level texts are equal. -/
theorem eq_of_level_text {v w : Value} {s t : String} (hv : v.scalar? = some (.text s))
    (hw : w.scalar? = some (.text t)) (level : v.Level w) : s = t := by
  rw [Value.Level, Value.compare?_of_scalar hv hw] at level
  exact LawfulEqOrd.compare_eq_iff_eq.mp (Option.some.inj level)

/-- Texts fit into columns of texts. -/
theorem fits_text (n : Nat) : text.Fits (.varchar n) where
  suits _ := .text
  level _ _ level := congrArg Value.text (eq_of_level_text rfl rfl level)

/-- Yes and no fit into columns of truth values. -/
theorem fits_flag : flag.Fits .boolean where
  suits _ := .flag
  level a b level := by
    rw [Value.Level, Value.compare?_of_scalar rfl rfl] at level
    cases a <;> cases b <;> first | rfl | cases level

/-- Values that may be missing fit where those that are there do. -/
theorem Fits.optional {α : Type} {codec : Codec α} {t : ColumnType}
    {present : ∀ a, (codec.write a).isNull = false} (h : codec.Fits t) (plain : t.isPlain = true) :
    (codec.optional present).Fits t where
  suits a := by
    cases a with
    | none => exact .missing plain
    | some a => exact h.suits a
  level a b level := by
    have shown (a : α) : (codec.optional present).write (some a) = codec.write a := rfl
    cases a with
    | none =>
      cases b with
      | none => rfl
      | some b =>
        rw [Value.Level, Value.compare?_of_isNull rfl, shown, present] at level
        cases level
    | some a =>
      cases b with
      | none =>
        rw [Value.Level, Value.compare?_of_isNull_right rfl, shown, present] at level
        cases level
      | some b => exact h.level a b level

/-- Days fit into columns of dates. -/
theorem fits_day : day.Fits .date where
  suits _ := .day
  level a b level := by
    rw [Value.Level, Value.compare?_of_scalar rfl rfl, Scalar.compare?, Date.compare_eq_toText]
      at level
    have same := LawfulEqOrd.compare_eq_iff_eq.mp (Option.some.inj level)
    exact congrArg Value.day (Date.toText_inj same)

/-- Terms of a vocabulary fit where their texts tell them apart. -/
theorem fits_term {α : Type} [Selectable α] (n : Nat)
    (apart : ∀ a b : α, (Selectable.choose a).text = (Selectable.choose b).text → a = b) :
    (term α).Fits (.varchar n) where
  suits _ := .choice
  level a b level := by rw [apart a b (eq_of_level_text rfl rfl level)]

end Codec

namespace Collection

variable {c : Collection}

/-- A plain column shows a part of the item through a codec that fits it. -/
theorem exists_codec (c : Collection) : ∀ col ∈ c.table.columns, col.type.isPlain = true →
    ∃ (α : Type) (codec : Codec α) (get : c.Item → α), codec.Fits col.type ∧
      ∀ x, Value.along [col.name] (Entity.toValue x) = codec.write (get x) := by
  have name (n : Nat) : Codec.text?.Fits (.varchar n) := (Codec.fits_text n).optional rfl
  have kind (n : Nat) : (Codec.term? OrganisationKind).Fits (.varchar n) :=
    (Codec.fits_term n Vocabulary.text_injective).optional rfl
  have role_kind (n : Nat) : (Codec.term? RoleKind).Fits (.varchar n) :=
    (Codec.fits_term n Vocabulary.text_injective).optional rfl
  have birth : Codec.day?.Fits .date := Codec.fits_day.optional rfl
  cases c <;>
    simp only [table, Table.organisations, Table.persons, Table.roles, Table.assignments,
      Table.commonColumns, List.cons_append, List.nil_append, List.forall_mem_cons]
  case organisations =>
    exact ⟨fun _ => ⟨_, _, Organisation.identifier, name 64, fun _ => rfl⟩,
      fun _ => ⟨_, _, Organisation.name, name 255, fun _ => rfl⟩,
      fun _ => ⟨_, _, Organisation.nameAddition, name 255, fun _ => rfl⟩,
      fun _ => ⟨_, _, Organisation.shortName, name 64, fun _ => rfl⟩,
      fun _ => ⟨_, _, Organisation.kind, kind 64, fun _ => rfl⟩,
      fun _ => ⟨_, _, Organisation.administeredBy, name 36, fun _ => rfl⟩,
      fun _ => ⟨_, _, Organisation.belongsTo, name 36, fun _ => rfl⟩,
      fun _ => ⟨_, _, fun x => x.id, name 36, fun _ => rfl⟩, nofun, nofun, nofun, nofun⟩
  case persons =>
    exact ⟨fun _ => ⟨_, _, Person.referrer, name 255, fun _ => rfl⟩,
      fun _ => ⟨_, _, Person.firstName, name 64, fun _ => rfl⟩,
      fun _ => ⟨_, _, Person.familyName, name 64, fun _ => rfl⟩,
      fun _ => ⟨_, _, Person.birthDate, birth, fun _ => rfl⟩,
      fun _ => ⟨_, _, Person.informationBlocked, Codec.fits_flag, fun _ => rfl⟩,
      fun _ => ⟨_, _, fun x => x.id, name 36, fun _ => rfl⟩, nofun, nofun, nofun, nofun⟩
  case roles =>
    exact ⟨fun _ => ⟨_, _, Role.name, name 255, fun _ => rfl⟩,
      fun _ => ⟨_, _, Role.administeredBy, name 36, fun _ => rfl⟩,
      fun _ => ⟨_, _, Role.kind, role_kind 32, fun _ => rfl⟩, nofun, nofun,
      fun _ => ⟨_, _, fun x => x.id, name 36, fun _ => rfl⟩, nofun, nofun, nofun, nofun⟩
  case assignments =>
    exact ⟨fun _ => ⟨_, _, Assignment.personId, Codec.fits_text 36, fun _ => rfl⟩,
      fun _ => ⟨_, _, Assignment.organisationId, Codec.fits_text 36, fun _ => rfl⟩,
      fun _ => ⟨_, _, Assignment.roleId, Codec.fits_text 36, fun _ => rfl⟩,
      fun _ => ⟨_, _, fun x => x.id, name 36, fun _ => rfl⟩, nofun, nofun, nofun, nofun⟩

end Collection

end SchoolRegistry
