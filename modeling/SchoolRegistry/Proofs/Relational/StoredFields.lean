import SchoolRegistry.Proofs.Relational.ListTexts
import SchoolRegistry.Proofs.Relational.Recall
import SchoolRegistry.Proofs.Relational.Refinement
import SchoolRegistry.Proofs.Time.WallText

/-!
# Fields of stored items

What a stored item shows under any of its fields is a plain value, a moment at universal time or a
list of terms (`Collection.keeps`). In memory such values are ordered by texts, lists by those of
their members; a column orders them by one text each. For every condition with such a value there is
a test, and for every sort key a column with an order of its own, so that a query about any fields
of stored items compiles (`IsTested.of_stored`, `IsOrdered.of_stored`).

The two orders tell the same values apart, and they differ on lists of which one begins the other
and on nothing else (`Value.Held.opposed_iff`).
-/

namespace SchoolRegistry

open Std

/-! ## Values of stored items -/

namespace Value

/-- The value is one that a stored item shows in a column of the type. -/
inductive Held : ColumnType → Value → Prop
  | plain {t : ColumnType} {v : Value} : Suits t v → Held t v
  | terms {ts : List Choice} : (∀ t ∈ ts, Text.IsQuotable t.text) →
    Held .json (.list (ts.map .choice))
  | moment (w : Wall) : Held .datetime (.moment (.fixed (.utc w)))
  | noMoment : Held .datetime .null

/-- The texts of members that are texts or terms. -/
def texts (items : List Value) : List String := items.map fun v => v.text?.getD ""

/-- The texts by which values are ordered in memory. -/
def sortTexts : Value → List String
  | .list items => texts items
  | .moment m => [m.wall.columnText]
  | v => [v.sortText]

/-- The text by which a column orders the value. -/
def columnText : Value → String
  | .list items => Text.listText (texts items)
  | .moment m => m.wall.columnText
  | v => v.sortText

/-- The content of the value in its column. -/
def columnContent? : Value → Option Content
  | .null => none
  | .flag yes => some (.whole (if yes then 1 else 0))
  | v => some (.text v.columnText)

/-- The first value is a list that begins the second one, which is longer. -/
def Begins (v w : Value) : Prop :=
  ∃ front rest, rest ≠ [] ∧ w = .list (front ++ rest) ∧ v.same (.list front) = true

variable {t : ColumnType} {v w : Value}

/-! ## Lists of terms -/

/-- The texts of terms, as a column of lists keeps them. -/
theorem texts_terms (ts : List Choice) : texts (ts.map .choice) = ts.map Choice.text := by
  rw [texts, List.map_map]
  rfl

/-- Stored terms are their texts. -/
theorem storedItems_terms (ts : List Choice) :
    storedItems (ts.map .choice) = ts.map fun t => .text t.text := by
  induction ts with
  | nil => rfl
  | cons t ts ih => rw [List.map_cons, storedItems, ih]; rfl

theorem documentItems?_texts (ss : List String) :
    documentItems? (ss.map .text) = some (ss.map documentString) := by
  induction ss with
  | nil => rfl
  | cons s ss ih => rw [List.map_cons, documentItems?, ih]; rfl

/-- A list of terms is kept as the list of their texts. -/
theorem documentText?_terms (ts : List Choice) :
    (Value.list (ts.map .choice)).stored.documentText? =
      some (Text.listText (ts.map Choice.text)) := by
  have members : documentItems? (ts.map fun t => .text t.text) =
      some ((ts.map Choice.text).map documentString) := by
    rw [← documentItems?_texts, List.map_map]
    rfl
  rw [stored, storedItems_terms, documentText?, members]
  rfl

/-- Lists of terms compare as the lists of their texts. -/
theorem compareItems?_terms (ts us : List Choice) :
    compareItems? (ts.map .choice) (us.map .choice) =
      some (compare (ts.map Choice.text) (us.map Choice.text)) := by
  induction ts generalizing us with
  | nil => cases us <;> rfl
  | cons t ts ih =>
    cases us with
    | nil => rfl
    | cons u us =>
      have first : (Value.choice t).compare? (.choice u) = some (compare t.text u.text) :=
        (compare?_of_scalar rfl rfl).trans rfl
      rw [List.map_cons, List.map_cons, compareItems?, first, List.map_cons, List.map_cons,
        List.compare_cons_cons, ih]
      cases compare t.text u.text <;> rfl

/-- Lists of terms are the same if their texts are. -/
theorem sameItems_terms (ts us : List Choice) :
    sameItems (ts.map .choice) (us.map .choice) = true ↔
      ts.map Choice.text = us.map Choice.text := by
  induction ts generalizing us with
  | nil => cases us <;> simp [sameItems]
  | cons t ts ih =>
    cases us with
    | nil => simp [sameItems]
    | cons u us =>
      have first : (Value.choice t).same (.choice u) = true ↔ t.text = u.text := by
        rw [same_of_scalar rfl rfl]
        exact beq_iff_eq.trans (Option.some_inj.trans LawfulEqOrd.compare_eq_iff_eq)
      rw [List.map_cons, List.map_cons, sameItems, Bool.and_eq_true, first, ih, List.map_cons,
        List.map_cons, List.cons.injEq]

/-- A list of terms begins another one if its texts do. -/
theorem begins_terms_iff (ts us : List Choice) :
    Begins (.list (ts.map .choice)) (.list (us.map .choice)) ↔
      ts.map Choice.text ≠ us.map Choice.text ∧ ts.map Choice.text <+: us.map Choice.text := by
  constructor
  · rintro ⟨front, rest, more, whole, alike⟩
    obtain ⟨first, last, rfl, rfl, rfl⟩ := List.map_eq_append_iff.mp (Value.list.inj whole)
    have alike := (sameItems_terms ts first).mp (by simpa [same] using alike)
    rw [List.map_append, ← alike]
    refine ⟨fun whole => more ?_, List.prefix_append _ _⟩
    rw [List.map_eq_nil_iff]
    exact List.map_eq_nil_iff.mp (List.append_right_eq_self.mp whole.symm)
  · rintro ⟨apart, last, whole⟩
    obtain ⟨front, rest, rfl, alike, rest_eq⟩ := List.map_eq_append_iff.mp whole.symm
    refine ⟨front.map .choice, rest.map .choice, ?_, by rw [List.map_append], ?_⟩
    · intro empty
      rw [List.map_eq_nil_iff] at empty
      subst empty
      exact apart (by simp [alike])
    · rw [same]
      exact (sameItems_terms ts front).mpr alike.symm

/-! ## Values by the types of their columns -/

theorem Suits.isPlain (h : Suits t v) : t.isPlain = true := by
  cases h with
  | missing plain => exact plain
  | _ => rfl

/-- A column of documents holds lists of terms. -/
theorem Held.exists_terms (h : Held .json v) : ∃ ts : List Choice,
    (∀ s ∈ ts.map Choice.text, Text.IsQuotable s) ∧ v = .list (ts.map .choice) := by
  cases h with
  | plain suits => cases suits.isPlain
  | terms quotable => exact ⟨_, List.forall_mem_map.mpr quotable, rfl⟩

/-- Any other column holds values that are ordered by one text each. -/
theorem Held.single (h : Held t v) (other : t ≠ .json) :
    v.sortTexts = [v.columnText] ∧ ∀ items, v ≠ .list items := by
  cases h with
  | plain suits => cases suits <;> exact ⟨rfl, nofun⟩
  | terms => exact absurd rfl other
  | moment | noMoment => exact ⟨rfl, nofun⟩

/-! ## Two orders -/

/-- The order in memory, whatever the key. -/
def textsOrder (_ : SortKey) (v w : Value) : Ordering := compare v.sortTexts w.sortTexts

/-- The order of columns, whatever the key. -/
def columnOrder (_ : SortKey) (v w : Value) : Ordering := compare v.columnText w.columnText

instance (k : SortKey) : TransCmp (textsOrder k) := transCmp_on sortTexts

instance (k : SortKey) : TransCmp (columnOrder k) := transCmp_on columnText

theorem compare_singleton (s t : String) : compare [s] [t] = compare s t := by
  rw [List.compare_cons_cons]
  cases compare s t <;> rfl

/-- Moments at universal time compare as the texts of what the walls show. -/
theorem compare?_moment (a b : Wall) :
    (Value.moment (.fixed (.utc a))).compare? (.moment (.fixed (.utc b))) =
      some (compare a.columnText b.columnText) := by
  have instant (w : Wall) : (Stamp.utc w).instant = w.micros := Int.sub_zero _
  have scalars : (Value.moment (.fixed (.utc a))).compare? (.moment (.fixed (.utc b))) =
      some (compare (Stamp.utc a).instant (Stamp.utc b).instant) :=
    (compare?_of_scalar rfl rfl).trans rfl
  rw [scalars, instant, instant, Wall.compare_eq_columnText]

/-- Values that one column holds compare in memory as their texts do. -/
theorem Held.compare?_eq (hv : Held t v) (hw : Held t w) (nv : v.isNull = false)
    (nw : w.isNull = false) (k : SortKey) : v.compare? w = some (textsOrder k v w) := by
  cases hv with
  | plain suits =>
    have single : v.sortTexts = [v.sortText] := by cases suits <;> rfl
    cases hw with
    | plain suits' =>
      have single' : w.sortTexts = [w.sortText] := by cases suits' <;> rfl
      rw [suits.compare?_eq suits' nv nw, textsOrder, single, single', compare_singleton]
    | terms | moment | noMoment => cases suits.isPlain
  | @terms ts =>
    obtain ⟨us, -, rfl⟩ := hw.exists_terms
    rw [compare?, compareItems?_terms, textsOrder, sortTexts, sortTexts, texts_terms, texts_terms]
  | moment a =>
    cases hw with
    | plain suits' => cases suits'.isPlain
    | noMoment => cases nw
    | moment b =>
      rw [compare?_moment, textsOrder]
      exact congrArg some (compare_singleton ..).symm
  | noMoment => cases nv

/-- The contents of values that one column holds compare as their texts there do. -/
theorem Held.compareNullsLast_content (hv : Held t v) (hw : Held t w) (k : SortKey) :
    Content.compareNullsLast v.columnContent? w.columnContent? =
      nullsLast (columnOrder k) v w := by
  cases hv with
  | plain suits =>
    cases hw with
    | plain suits' =>
      cases suits <;> cases suits' <;> try rfl
      rename_i a b
      cases a <;> cases b <;> rfl
    | terms | moment | noMoment => cases suits.isPlain
  | terms =>
    obtain ⟨us, -, rfl⟩ := hw.exists_terms
    rfl
  | moment | noMoment =>
    cases hw with
    | plain suits' => cases suits'.isPlain
    | moment | noMoment => rfl

/-- Both orders tell the same values of a column apart. -/
theorem Held.level_iff (hv : Held t v) (hw : Held t w) (k : SortKey) :
    columnOrder k v w = .eq ↔ textsOrder k v w = .eq := by
  unfold columnOrder textsOrder
  by_cases type : t = .json
  · subst type
    obtain ⟨ts, quotable, rfl⟩ := hv.exists_terms
    obtain ⟨us, quotable', rfl⟩ := hw.exists_terms
    rw [columnText, columnText, sortTexts, sortTexts, texts_terms, texts_terms,
      Text.compare_listText quotable quotable',
      Text.longerFirst_eq_eq, LawfulEqOrd.compare_eq_iff_eq]
  · rw [(hv.single type).1, (hw.single type).1, compare_singleton]

/-- The two orders oppose each other on lists of which one begins the other, and only there. -/
theorem Held.opposed_iff (hv : Held t v) (hw : Held t w) (k : SortKey) :
    Opposed (textsOrder k v w) (columnOrder k v w) ↔ v.Begins w ∨ w.Begins v := by
  unfold columnOrder textsOrder
  by_cases type : t = .json
  · subst type
    obtain ⟨ts, quotable, rfl⟩ := hv.exists_terms
    obtain ⟨us, quotable', rfl⟩ := hw.exists_terms
    rw [columnText, columnText, sortTexts, sortTexts, texts_terms, texts_terms,
      Text.compare_listText quotable quotable',
      Text.opposed_longerFirst_iff, begins_terms_iff, begins_terms_iff]
    have symm := @ne_comm _ (ts.map Choice.text) (us.map Choice.text)
    tauto
  · obtain ⟨single, no_list⟩ := hv.single type
    obtain ⟨single', no_list'⟩ := hw.single type
    rw [single, single', compare_singleton]
    refine iff_of_false ?_ ?_
    · cases compare v.columnText w.columnText <;> simp [Opposed]
    · rintro (⟨front, rest, -, list, -⟩ | ⟨front, rest, -, list, -⟩)
      · exact no_list' _ list
      · exact no_list _ list

/-! ## Contents -/

/-- A list is kept as a text. -/
theorem columnContent?_list (items : List Value) :
    (Value.list items).columnContent? = some (.text (Text.listText (texts items))) := rfl

/-- A moment is kept as the text of its wall. -/
theorem columnContent?_moment (m : Moment) :
    (Value.moment m).columnContent? = some (.text m.wall.columnText) := rfl

/-- The content that the row of an item has in the column. -/
theorem Held.ofValue_kept (h : Held t v) :
    Content.ofValue t v.stored.kept = .ok v.columnContent? := by
  cases h with
  | plain suits =>
    rw [suits.stored_kept.ofValue_eq, suits.content?_stored_kept]
    cases suits <;> rfl
  | @terms ts =>
    have text : (Value.list (ts.map .choice)).stored.kept.documentText? =
        some (Text.listText (ts.map Choice.text)) := documentText?_terms ts
    simp only [Content.ofValue, text, columnContent?_list, texts_terms]
  | moment | noMoment => rfl

/-- The content of the value as a parameter. -/
theorem Held.ofValue_stored (h : Held t v) : Content.ofValue t v.stored = .ok v.columnContent? := by
  cases h with
  | plain suits =>
    rw [suits.ofValue_stored]
    cases suits <;> rfl
  | terms => exact Held.ofValue_kept (.terms ‹_›)
  | moment | noMoment => rfl

/-- A text in brackets spells no number. -/
theorem ofNumeral?_listText (ss : List String) : Content.ofNumeral? (Text.listText ss) = none := by
  obtain ⟨middle, whole⟩ : ∃ middle, (Text.listText ss).toList = '[' :: (middle ++ [']']) :=
    ⟨(", ".intercalate (ss.map documentString)).toList, by simp [Text.listText]⟩
  have opening : Content.isSpace '[' = false := by decide
  have closing : Content.isSpace ']' = false := by decide
  have front : ('[' :: (middle ++ [']'])).dropWhile Content.isSpace = '[' :: (middle ++ [']']) :=
    List.dropWhile_cons_of_neg (by simp [opening])
  have back : ('[' :: (middle ++ [']'])).reverse.dropWhile Content.isSpace =
      ('[' :: (middle ++ [']'])).reverse := by
    simp [closing]
  have digit : Text.isPlainDigit '[' = false := by decide
  unfold Content.ofNumeral?
  simp only [whole, front, back, List.reverse_reverse]
  simp [Content.ofDigits, Content.splitDigits, digit, Content.splitFraction, Content.exponent?]

/-- The text of a wall spells no number. -/
theorem ofNumeral?_columnText (w : Wall) : Content.ofNumeral? w.columnText = none := by
  have begins : w.columnText.toList = Text.paddedChars 4 w.date.year ++ '-' ::
      (Text.paddedChars 2 w.date.month ++ '-' :: (Text.paddedChars 2 w.date.day ++
        ' ' :: w.time.columnChars)) := by
    simp [Wall.toList_columnText, Date.toList_toText]
  refine ofNumeral?_of_stroke begins ?_ ?_
  · simp [isPlainDigit_digitChar]
  · simp [begins, TimeOfDay.columnChars, Text.paddedChars, not_isSpace_digitChar]

/-- Contents are equal where the values are. -/
theorem Held.equal_content (hv : Held t v) (hw : Held t w) (given : w.isNull = false) :
    Content.equal t v.columnContent? w.columnContent? = v.same w := by
  cases hv with
  | plain suits =>
    cases hw with
    | plain suits' =>
      have content {v : Value} (suits : Suits t v) : v.columnContent? = v.content? := by
        cases suits <;> rfl
      rw [content suits, content suits', suits.equal_content suits' given]
    | terms | moment | noMoment => cases suits.isPlain
  | terms quotable =>
    obtain ⟨us, quotable', rfl⟩ := hw.exists_terms
    have quotable := List.forall_mem_map.mpr quotable
    rw [columnContent?_list, columnContent?_list, equal_text _ (ofNumeral?_listText _),
      texts_terms, texts_terms,
      Text.compare_listText quotable quotable', Bool.eq_iff_iff, beq_iff_eq,
      Text.longerFirst_eq_eq, same, sameItems_terms]
  | moment a =>
    cases hw with
    | plain suits' => cases suits'.isPlain
    | noMoment => cases given
    | moment b =>
      have alike : (Value.moment (.fixed (.utc a))).same (.moment (.fixed (.utc b))) =
          ((Value.moment (.fixed (.utc a))).compare? (.moment (.fixed (.utc b))) == some .eq) :=
        same_eq_compare? rfl rfl
      have text (w : Wall) : (Moment.fixed (.utc w)).wall.columnText = w.columnText := rfl
      rw [alike, compare?_moment, Option.some_beq_some, columnContent?_moment,
        columnContent?_moment, text, text, equal_text _ (ofNumeral?_columnText _)]
  | noMoment =>
    cases hw with
    | plain suits' => cases suits'.isPlain
    | noMoment => cases given
    | moment b =>
      have apart : Value.null.same (.moment (.fixed (.utc b))) = false := by simp [same, scalar?]
      rw [apart]
      rfl

end Value

/-! ## Fields of stored items -/

namespace Collection

variable {c : Collection}

/-- Stored items show values in the column that it holds, and level ones are equal. -/
structure Keeps (c : Collection) (col : Column) : Prop where
  held : ∀ x : c.Item, Entity.recalled x = x →
    (Value.along [col.name] (Entity.toValue x)).Held col.type
  level : ∀ x y : c.Item, Entity.recalled x = x → Entity.recalled y = y →
    (Value.along [col.name] (Entity.toValue x)).Level (Value.along [col.name] (Entity.toValue y)) →
      Value.along [col.name] (Entity.toValue x) = Value.along [col.name] (Entity.toValue y)

/-- A column into which the codec of its field fits keeps the field. -/
theorem keeps_of_fits {col : Column} {α : Type} {codec : Codec α} {get : c.Item → α}
    (fits : codec.Fits col.type)
    (shows : ∀ x, Value.along [col.name] (Entity.toValue x) = codec.write (get x)) :
    c.Keeps col where
  held x _ := shows x ▸ .plain (fits.suits _)
  level x y _ _ level := by
    rw [shows, shows] at level ⊢
    exact fits.level _ _ level

/-- A field of stamps, which are universal time in stored items. -/
theorem keeps_of_stamp {col : Column} {get : c.Item → Option Stamp} (type : col.type = .datetime)
    (universal : ∀ x, Entity.recalled x = x → ∀ s ∈ get x, s.offset = 0)
    (shows : ∀ x, Value.along [col.name] (Entity.toValue x) = Codec.stamp?.write (get x)) :
    c.Keeps col := by
  have held : ∀ x : c.Item, Entity.recalled x = x →
      Codec.stamp?.write (get x) = .null ∨
        ∃ w, Codec.stamp?.write (get x) = .moment (.fixed (.utc w)) := by
    intro x stored
    cases given : get x with
    | none => exact .inl rfl
    | some s =>
      have zero : s.offset = 0 := universal x stored s given
      have utc : s = .utc s.wall := (Stamp.recalled_eq_iff.mpr zero).symm
      exact .inr ⟨s.wall, congrArg (fun s => Value.moment (.fixed s)) utc⟩
  refine ⟨fun x stored => ?_, fun x y stored stored' level => ?_⟩
  · rw [shows, type]
    obtain null | ⟨w, moment⟩ := held x stored
    · exact null ▸ .noMoment
    · exact moment ▸ .moment w
  · rw [shows, shows] at level ⊢
    obtain null | ⟨w, moment⟩ := held x stored <;> obtain null' | ⟨w', moment'⟩ := held y stored'
    · rw [null, null']
    · rw [null, moment', Value.Level, Value.compare?_of_isNull rfl] at level
      cases level
    · rw [moment, null', Value.Level, Value.compare?_of_isNull_right rfl] at level
      cases level
    · rw [moment, moment', Value.Level, Value.compare?_moment] at level
      rw [moment, moment',
        Wall.columnText_inj (LawfulEqOrd.compare_eq_iff_eq.mp (Option.some.inj level))]

/-- A field of lists of terms of one vocabulary. -/
theorem keeps_of_terms {col : Column} {α : Type} [Selectable α] {get : c.Item → List α}
    (type : col.type = .json) (quotable : ∀ a : α, Text.IsQuotable (Selectable.choose a).text)
    (apart : ∀ a b : α, (Selectable.choose a).text = (Selectable.choose b).text → a = b)
    (shows : ∀ x, Value.along [col.name] (Entity.toValue x) =
      (Codec.list (Codec.term α)).write (get x)) : c.Keeps col := by
  have written (as : List α) : (Codec.list (Codec.term α)).write as =
      .list ((as.map Selectable.choose).map .choice) := by
    rw [List.map_map]
    rfl
  refine ⟨fun x _ => ?_, fun x y _ _ level => ?_⟩
  · rw [shows, type, written]
    exact .terms (List.forall_mem_map.mpr fun a _ => quotable a)
  · rw [shows, shows] at level ⊢
    rw [written, written, Value.Level, Value.compare?, Value.compareItems?_terms, List.map_map,
      List.map_map] at level
    have texts := LawfulEqOrd.compare_eq_iff_eq.mp (Option.some.inj level)
    rw [List.map_injective_iff.mpr (fun a b => apart a b) texts]

/-- The texts of role marks need no escapes. -/
theorem quotable_roleMark (m : RoleMark) : Text.IsQuotable (Selectable.choose m).text := by
  cases m <;> decide

/-- The texts of system rights need no escapes. -/
theorem quotable_systemRight (r : SystemRight) : Text.IsQuotable (Selectable.choose r).text := by
  cases r <;> decide

theorem columns_not_plain (c : Collection) :
    ∀ col ∈ c.table.columns, col.type.isPlain = false →
      col = ⟨"version", .integer, true⟩ ∨ col = ⟨"created_at", .datetime, false⟩ ∨
        col = ⟨"updated_at", .datetime, false⟩ ∨
        c = .roles ∧ (col = ⟨"merkmale", .json, true⟩ ∨ col = ⟨"systemrechte", .json, true⟩) := by
  cases c <;> decide

/-- Every field has a column that keeps what stored items show. -/
theorem keeps (c : Collection) {col : Column} (there : col ∈ c.table.columns)
    (known : col.name ∈ c.subject.fields) : c.Keeps col := by
  have created (x : c.Item) (stored : Entity.recalled x = x) :
      ∀ s ∈ (Entity.header x).createdAt, s.offset = 0 := (Entity.recalled_eq_iff.mp stored).1
  have changed (x : c.Item) (stored : Entity.recalled x = x) :
      ∀ s ∈ (Entity.header x).updatedAt, s.offset = 0 := (Entity.recalled_eq_iff.mp stored).2
  cases kind : col.type.isPlain with
  | true =>
    obtain ⟨α, codec, get, fits, shows⟩ := c.exists_codec col there kind
    exact keeps_of_fits fits shows
  | false =>
    obtain rfl | rfl | rfl | ⟨rfl, rfl | rfl⟩ := c.columns_not_plain col there kind
    · -- Versions are counted in a column, but they are no field.
      exact absurd known (by cases c <;> decide)
    · refine keeps_of_stamp rfl created fun x => ?_
      cases c <;> rfl
    · refine keeps_of_stamp rfl changed fun x => ?_
      cases c <;> rfl
    · exact keeps_of_terms rfl quotable_roleMark Vocabulary.text_injective fun _ => rfl
    · exact keeps_of_terms rfl quotable_systemRight Vocabulary.text_injective fun _ => rfl

/-- A field of stored items is kept in a column. -/
theorem exists_keeps {field : String} (known : field ∈ c.subject.fields) :
    ∃ col, c.table.column? field = some col ∧ col ∈ c.table.columns ∧ col.name = field ∧
      c.Keeps col := by
  obtain ⟨col, there, rfl⟩ := c.exists_column field known
  exact ⟨col, c.column?_name col there, there, rfl, c.keeps there known⟩

variable {col : Column}

theorem resolve_column (there : col ∈ c.table.columns) (x : c.Item) :
    (Entity.toValue x).resolve col.name = Value.along [col.name] (Entity.toValue x) := by
  rw [Value.resolve, c.pathNames_column col there]

/-- What a stored item shows is the content of its row. -/
theorem Keeps.content (keeps : c.Keeps col) (there : col ∈ c.table.columns) {x : c.Item}
    (stored : Entity.recalled x = x) :
    (c.toRow x).content col = ((Entity.toValue x).resolve col.name).columnContent? ∧
      ((Entity.toValue x).resolve col.name).Held col.type := by
  have held : ((Entity.toValue x).resolve col.name).Held col.type := by
    rw [resolve_column there]
    exact keeps.held x stored
  refine ⟨?_, held⟩
  rw [Row.content, c.toRow_value x there, held.ofValue_kept]

end Collection

/-! ## Conditions and keys -/

/-- A condition with a value that the column holds is tested as equal to its content. -/
theorem Statement.exists_comparison {t : Table} {k : Condition} {col : Column}
    (found : t.column? k.field = some col) (held : k.value.Held col.type)
    (present : k.value.isNull = false) : ∃ comparison, comparisonOf t k = .ok comparison ∧
      testOf comparison = .ok (.equal col k.value.columnContent?) := by
  have bound : testOf (.equal col k.value.stored) = .ok (.equal col k.value.columnContent?) := by
    rw [testOf, held.ofValue_stored]
    rfl
  rw [comparisonOf, columnOf_eq found]
  refine ⟨_, rfl, ?_⟩
  generalize k.value = v at held present bound ⊢
  generalize col.type = type at held
  cases held with
  | plain suits =>
    cases suits with
    | missing => cases present
    | flag => rfl
    | text | choice | day => exact bound
  | terms | moment => exact bound
  | noMoment => cases present

section Queries

variable {c : Collection} {items : List c.Item} (stored : ∀ x ∈ items, Entity.recalled x = x)

include stored

/-- What stored items show under a field is held by one type of column. -/
theorem Collection.exists_held {field : String} (known : field ∈ c.subject.fields) :
    ∃ t, ∀ x ∈ items, ((Entity.toValue x).resolve field).Held t := by
  obtain ⟨col, -, there, rfl, keeps⟩ := Collection.exists_keeps known
  exact ⟨col.type, fun x hx => (keeps.content there (stored x hx)).2⟩

/-- A condition with a value that stored items have is tested. -/
theorem Statement.IsTested.of_stored {k : Condition} (known : k.field ∈ c.subject.fields)
    (present : k.value.isNull = false) (taken : ∃ x : c.Item, Entity.recalled x = x ∧
      (Entity.toValue x).resolve k.field = k.value) : IsTested c items k := by
  obtain ⟨col, found, there, name, keeps⟩ := Collection.exists_keeps known
  have given : k.value.Held col.type := by
    obtain ⟨x, stored, shown⟩ := taken
    rw [← shown, ← name]
    exact (keeps.content there stored).2
  obtain ⟨comparison, compared, tested⟩ := Statement.exists_comparison found given present
  refine ⟨comparison, _, compared, tested, fun x hx => ?_⟩
  obtain ⟨content, held⟩ := keeps.content there (stored x hx)
  rw [Test.accepts, content, held.equal_content given present, name, Condition.holds]

/-- The field of a key is kept in a column that orders the rows of stored items. -/
theorem Statement.IsOrdered.of_stored {k : SortKey} (known : k.field ∈ c.subject.fields) :
    IsOrdered c items Value.columnOrder k := by
  obtain ⟨col, found, there, name, keeps⟩ := Collection.exists_keeps known
  refine ⟨col, found, fun x hx y hy => ?_⟩
  obtain ⟨content_x, held_x⟩ := keeps.content there (stored x hx)
  obtain ⟨content_y, held_y⟩ := keeps.content there (stored y hy)
  unfold compareBy Query.keyOrder
  rw [content_x, content_y, held_x.compareNullsLast_content held_y k, name]
  cases k.direction <;> rfl

/-- In memory the values under a key compare as their texts do. -/
theorem Query.compares_textsOrder {k : SortKey} (known : k.field ∈ c.subject.fields) :
    Compares Entity.toValue Value.textsOrder items k := by
  obtain ⟨t, held⟩ := Collection.exists_held stored known
  intro x hx y hy present present'
  exact (held x hx).compare?_eq (held y hy) present present' k

end Queries

end SchoolRegistry
