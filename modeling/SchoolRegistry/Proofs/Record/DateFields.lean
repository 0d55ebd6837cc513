import SchoolRegistry.Record.Model

/-!
# Faults of date fields

Fields are read by codecs, which are built from a few simple ones. What matters here of a field is
whether it holds a day or a moment, and which fields are inside of it (`FieldKind`). The relations
`Codec.HasKind`, `Field.HasKind` and `Fields.HaveKinds` follow the way in which a codec is built,
down into the records that are nested in others.

Along these relations all faults for which data are refused are explained
(`Fields.HaveKinds.coversIn`): a fault is about a day or a moment exactly if it stands at one that
the data give. A missing day is not about a day, and so is nothing that concerns a record or a list
as a whole.
-/

namespace SchoolRegistry

/-- What a field holds, as far as days and moments are concerned. -/
inductive FieldKind where
  /-- A day or a moment. -/
  | date
  | other
  /-- Values of one kind, each under a name of its own. -/
  | items (each : FieldKind)
  | record (fields : List (String × FieldKind))

namespace FieldKind

/-- Whether the path leads to a day or a moment. -/
def datedAt : FieldKind → List String → Bool
  | date, [] => true
  | items each, _ :: rest => each.datedAt rest
  | record fields, name :: rest =>
    match fields.lookup name with
    | some kind => kind.datedAt rest
    | none => false
  | _, _ => false

end FieldKind

/-- Whether the fault is that a value is no day or no moment. -/
@[simp] def FaultCode.isOfDate : FaultCode → Bool
  | dateType | dateParsing | dateFromDatetimeParsing | dateFromDatetimeInexact => true
  | datetimeType | datetimeParsing | datetimeFromDateParsing => true
  | _ => false

/-- The names by which the data may give the field. -/
def Field.spellings {σ : Type} (f : Field σ) : List String :=
  if f.wireName = f.name then [f.name] else [f.wireName, f.name]

mutual

/-- The codec reads values of the kind. -/
inductive Codec.HasKind : {α : Type} → Codec α → FieldKind → Prop
  | text : Codec.HasKind Codec.text .other
  | flag : Codec.HasKind Codec.flag .other
  | whole : Codec.HasKind Codec.whole .other
  | term (α : Type) [Selectable α] : Codec.HasKind (Codec.term α) .other
  | day : Codec.HasKind Codec.day .date
  | moment : Codec.HasKind Codec.moment .date
  | stamp : Codec.HasKind Codec.stamp .date
  | optional {α : Type} {c : Codec α} {kind : FieldKind} (present) (each : Codec.HasKind c kind) :
    Codec.HasKind (c.optional present) kind
  | list {α : Type} {c : Codec α} {kind : FieldKind} (each : Codec.HasKind c kind) :
    Codec.HasKind c.list (.items kind)
  | table {α : Type} {c : Codec α} {kind : FieldKind} (each : Codec.HasKind c kind) :
    Codec.HasKind c.table (.items kind)
  | nested {σ : Type} {shape : Shape σ} {kinds : List (String × FieldKind)} (name : String) (law)
    (fields : Fields.HaveKinds shape.fields kinds) :
    Codec.HasKind (Codec.nested name shape law) (.record kinds)
  /-- Of the records that can be read, a check of the whole may refuse some. -/
  | checked {α β : Type} {c : Codec α} {c' : Codec β} {kinds : List (String × FieldKind)}
    (unchecked : Codec.HasKind c (.record kinds))
    (check : ∀ v faults, c'.read v = .error faults →
      c.read v = .error faults ∨ faults = [.here .valueError]) :
    Codec.HasKind c' (.record kinds)

/-- The field holds values of the kind. -/
inductive Field.HasKind : {σ : Type} → Field σ → FieldKind → Prop
  | of {σ α : Type} {c : Codec α} {kind : FieldKind} (name wireName : String) (required : Bool)
    (get : σ → α) (put : α → σ → σ) (law) (codec : Codec.HasKind c kind) :
    Field.HasKind (Field.of name wireName required c get put law) kind
  | within {σ τ : Type} {f : Field σ} {kind : FieldKind} (get : τ → σ) (put : σ → τ → τ) (law)
    (part : Field.HasKind f kind) : Field.HasKind (f.within get put law) kind

/-- The fields hold values of the kinds, each under names that no other one has. -/
inductive Fields.HaveKinds : {σ : Type} → List (Field σ) → List (String × FieldKind) → Prop
  | nil {σ : Type} : Fields.HaveKinds ([] : List (Field σ)) []
  | cons {σ : Type} {f : Field σ} {fs : List (Field σ)} {kind : FieldKind}
    {kinds : List (String × FieldKind)} (first : Field.HasKind f kind)
    (fresh : ∀ name ∈ f.spellings, name ≠ "" ∧ name ∉ kinds.map Prod.fst)
    (rest : Fields.HaveKinds fs kinds) :
    Fields.HaveKinds (f :: fs) (f.spellings.map (·, kind) ++ kinds)

end

/-! ## What a refusal says -/

namespace FieldKind

/-- The fault is about a day or a moment exactly if it stands at one that is there. -/
def Explains (kind : FieldKind) (f : Fault) : Prop :=
  f.code.isOfDate = (kind.datedAt f.path && f.code != .missing)

/-- A refusal gives faults, and the kind explains all of them. -/
structure Covers (kind : FieldKind) (faults : List Fault) : Prop where
  given : faults ≠ []
  explained : ∀ f ∈ faults, kind.Explains f

/-- The fault stands in one of the fields, whose kind explains it. -/
def ExplainsIn (kinds : List (String × FieldKind)) (f : Fault) : Prop :=
  ∃ name kind inner, kinds.lookup name = some kind ∧ f = inner.under name ∧ kind.Explains inner

/-- A refusal gives faults, and all of them stand in the fields. -/
structure CoversIn (kinds : List (String × FieldKind)) (faults : List Fault) : Prop where
  given : faults ≠ []
  explained : ∀ f ∈ faults, ExplainsIn kinds f

variable {kind : FieldKind} {kinds : List (String × FieldKind)} {faults faults' : List Fault}

/-- A fault of the value itself is about a date exactly where a date is expected. -/
theorem covers_here {code : FaultCode} (dated : code.isOfDate = kind.datedAt []) :
    kind.Covers [.here code] := by
  refine ⟨List.cons_ne_nil _ _, List.forall_mem_singleton.mpr ?_⟩
  -- A missing value is no fault of a date, so the code decides alone.
  rw [Explains, Fault.here, ← dated]
  cases code <;> rfl

/-- What a kind says of the faults of an item, the list says of them below the item. -/
theorem Covers.items (covers : kind.Covers faults) (name : String) :
    (items kind).Covers (faults.map (·.under name)) := by
  refine ⟨by simpa using covers.given, fun f member => ?_⟩
  obtain ⟨inner, faulty, rfl⟩ := List.mem_map.mp member
  exact covers.explained inner faulty

/-- Two lists of faults that are covered are covered together. -/
theorem Covers.append (covers : kind.Covers faults) (covers' : kind.Covers faults') :
    kind.Covers (faults ++ faults') :=
  ⟨List.append_ne_nil_of_left_ne_nil covers.given _,
    List.forall_mem_append.mpr ⟨covers.explained, covers'.explained⟩⟩

/-- A field that is found is one of the fields. -/
theorem mem_of_lookup {name : String} (found : kinds.lookup name = some kind) :
    name ∈ kinds.map Prod.fst := by
  obtain ⟨before, after, rfl, -⟩ := List.lookup_eq_some_iff.mp found
  simp

/-- A fault in one of the fields is a fault of the record. -/
theorem ExplainsIn.explains {f : Fault} (inside : ExplainsIn kinds f) :
    (record kinds).Explains f := by
  obtain ⟨name, kind, inner, found, rfl, explained⟩ := inside
  simpa only [Explains, Fault.under, datedAt, found] using explained

/-- Faults in the fields are faults of the record. -/
theorem CoversIn.covers (inside : CoversIn kinds faults) : (record kinds).Covers faults :=
  ⟨inside.given, fun f member => (inside.explained f member).explains⟩

/-- Faults in some fields and faults in further ones are all faults in the fields. -/
theorem CoversIn.append (inside : CoversIn kinds faults) (inside' : CoversIn kinds faults') :
    CoversIn kinds (faults ++ faults') :=
  ⟨List.append_ne_nil_of_left_ne_nil inside.given _,
    List.forall_mem_append.mpr ⟨inside.explained, inside'.explained⟩⟩

/-- Faults of a field are faults in the fields, below its name. -/
theorem Covers.under {name : String} (covers : kind.Covers faults)
    (found : kinds.lookup name = some kind) : CoversIn kinds (faults.map (·.under name)) := by
  refine ⟨by simpa using covers.given, fun f member => ?_⟩
  obtain ⟨inner, faulty, rfl⟩ := List.mem_map.mp member
  exact ⟨name, kind, inner, found, rfl, covers.explained inner faulty⟩

end FieldKind

/-! ## What codecs refuse -/

/-- Whatever is refused is refused as a whole, by a fault that is or is not about a date. -/
def Codec.Refuses {α : Type} (ofDate : Bool) (outcome : Except (List Fault) α) : Prop :=
  ∀ faults, outcome = .error faults → ∃ code, faults = [.here code] ∧ code.isOfDate = ofDate

namespace Codec

variable {α : Type} {ofDate : Bool}

@[simp] theorem refuses_ok (a : α) : Refuses ofDate (.ok a) := nofun

@[simp] theorem refuses_refuse (code : FaultCode) :
    Refuses ofDate (refuse code : Except (List Fault) α) ↔ code.isOfDate = ofDate := by
  refine ⟨fun refused => ?_, fun same faults refused =>
    ⟨code, (Except.error.inj refused).symm, same⟩⟩
  obtain ⟨code', same, ofDate⟩ := refused _ rfl
  rwa [show code = code' by simpa [Fault.here] using same]

/-- What is made of a result does not change the faults. -/
theorem error_of_map {β : Type} {outcome : Except (List Fault) α} {g : α → β}
    {faults : List Fault} (refused : outcome.map g = .error faults) : outcome = .error faults := by
  cases outcome with
  | ok a => cases refused
  | error e => exact congrArg Except.error (Except.error.inj refused)

/-- What is no text is refused, and not as a date. -/
theorem refuses_text (v : Value) : Refuses false (text.read v) := by
  simp only [text]
  split <;> simp

/-- A word for yes or no that is none is refused, and not as a date. -/
theorem refuses_readWord (s : String) : Refuses false (readWord s) := by
  simp only [readWord]
  split
  · exact refuses_ok _
  · split <;> simp

/-- What is neither yes nor no is refused, and not as a date. -/
theorem refuses_flag (v : Value) : Refuses false (flag.read v) := by
  unfold flag
  dsimp only
  split
  case h_1 => exact refuses_ok _
  case h_2 =>
    split
    · exact refuses_ok _
    · split <;> simp
  case h_3 => split <;> simp
  case h_4 =>
    split
    · exact refuses_readWord _
    · simp

/-- What is no whole number is refused, and not as a date. -/
theorem refuses_whole (v : Value) : Refuses false (whole.read v) := by
  unfold whole
  dsimp only
  split
  case h_1 => exact refuses_ok _
  case h_2 => exact refuses_ok _
  case h_3 =>
    split
    · simp
    · split <;> simp
  case h_4 =>
    split
    · split <;> simp
    · simp

/-- What is no term is refused, and not as a date. -/
theorem refuses_term (α : Type) [Selectable α] (v : Value) : Refuses false ((term α).read v) := by
  unfold term
  dsimp only
  split
  case h_1 => split <;> simp
  case h_2 => split <;> simp
  case h_3 => simp

/-- A moment in the middle of a day is refused as a date. -/
theorem refuses_dayOf (m : Moment) : Refuses true (dayOf m) := by
  unfold dayOf
  split <;> simp

theorem refuses_dayOfReading (r : Lenient.Reading Moment) : Refuses true (dayOfReading r) := by
  cases r with
  | read m => exact refuses_dayOf m
  | beforeCalendar => simp [dayOfReading]
  | unreadable => simp [dayOfReading]

/-- What is no day is refused as a date. -/
theorem refuses_day (v : Value) : Refuses true (day.read v) := by
  unfold day
  dsimp only
  split
  case h_1 => exact refuses_ok _
  case h_2 => exact refuses_dayOf _
  case h_3 => exact refuses_dayOfReading _
  case h_4 => exact refuses_dayOfReading _
  case h_5 =>
    split
    · split
      · exact refuses_ok _
      · simp
      · exact refuses_dayOfReading _
    · simp

theorem refuses_momentOfReading {unreadable : FaultCode} (ofDate : unreadable.isOfDate = true)
    (r : Lenient.Reading Moment) : Refuses true (momentOfReading unreadable r) := by
  cases r with
  | read m => exact refuses_ok m
  | beforeCalendar => simp [momentOfReading]
  | unreadable => simpa [momentOfReading] using ofDate

/-- What is no moment is refused as a date. -/
theorem refuses_moment (v : Value) : Refuses true (moment.read v) := by
  unfold moment
  dsimp only
  split
  case h_1 => exact refuses_ok _
  case h_2 => exact refuses_ok _
  case h_3 => exact refuses_momentOfReading rfl _
  case h_4 => exact refuses_momentOfReading rfl _
  case h_5 =>
    split
    · exact refuses_momentOfReading rfl _
    · simp

/-- What is no stamp is refused as a date. -/
theorem refuses_stamp (v : Value) : Refuses true (stamp.read v) :=
  fun faults refused => refuses_moment v faults (error_of_map refused)

/-- Refusals as dates, or not as dates, are covered by kinds that expect dates, or none. -/
theorem Refuses.covers {kind : FieldKind} {outcome : Except (List Fault) α} {faults : List Fault}
    (refuses : Refuses ofDate outcome) (dated : kind.datedAt [] = ofDate)
    (refused : outcome = .error faults) : kind.Covers faults := by
  obtain ⟨code, rfl, same⟩ := refuses faults refused
  exact FieldKind.covers_here (same.trans dated.symm)

section Composition

variable {c : Codec α} {kind : FieldKind} {v : Value} {faults : List Fault}
  (each : ∀ v faults, c.read v = .error faults → kind.Covers faults)

include each

/-- An optional value is refused as its codec refuses it. -/
theorem covers_optional {present : ∀ a, (c.write a).isNull = false}
    (refused : (c.optional present).read v = .error faults) : kind.Covers faults := by
  simp only [optional] at refused
  split at refused
  · cases refused
  · exact each v faults (error_of_map refused)

/-- Items that are refused are refused each below its number. -/
theorem covers_readItems {vs : List Value} {i : Nat} (refused : readItems c i vs = .error faults) :
    (FieldKind.items kind).Covers faults := by
  induction vs generalizing i faults with
  | nil => cases refused
  | cons v vs ih =>
    rw [readItems] at refused
    split at refused
    case h_1 => cases refused
    case h_2 e _ later => exact Except.error.inj refused ▸ ih later
    case h_3 e _ here _ => exact Except.error.inj refused ▸ (each v e here).items _
    case h_4 e e' here later =>
      exact Except.error.inj refused ▸ ((each v e here).items _).append (ih later)

/-- A list is refused for itself or for its items. -/
theorem covers_list (refused : c.list.read v = .error faults) :
    (FieldKind.items kind).Covers faults := by
  simp only [list] at refused
  split at refused
  case h_4 => exact ((refuses_refuse .listType).mpr rfl).covers rfl refused
  all_goals exact covers_readItems each refused

/-- Entries that are refused are refused each below its name. -/
theorem covers_readEntries {entries : Fields} (refused : readEntries c entries = .error faults) :
    (FieldKind.items kind).Covers faults := by
  induction entries generalizing faults with
  | nil => cases refused
  | cons entry entries ih =>
    obtain ⟨name, v⟩ := entry
    rw [readEntries] at refused
    split at refused
    case h_1 => cases refused
    case h_2 e _ later => exact Except.error.inj refused ▸ ih later
    case h_3 e _ here _ => exact Except.error.inj refused ▸ (each v e here).items _
    case h_4 e e' here later =>
      exact Except.error.inj refused ▸ ((each v e here).items _).append (ih later)

/-- A table is refused for itself or for its entries. -/
theorem covers_table (refused : c.table.read v = .error faults) :
    (FieldKind.items kind).Covers faults := by
  simp only [table] at refused
  split at refused
  · exact covers_readEntries each refused
  · exact ((refuses_refuse .dictType).mpr rfl).covers rfl refused

end Composition

/-- Nested structures are refused for themselves or for their fields. -/
theorem covers_nested {σ : Type} {shape : Shape σ} {kinds : List (String × FieldKind)}
    {name : String} {law : ∀ s, shape.read (shape.fieldValues s) = .ok s}
    (fields : ∀ data s faults, Shape.fill data shape.fields s = .error faults →
      FieldKind.CoversIn kinds faults) {v : Value} {faults : List Fault}
    (refused : (nested name shape law).read v = .error faults) :
    (FieldKind.record kinds).Covers faults := by
  simp only [nested] at refused
  split at refused
  · exact (fields _ _ _ refused).covers
  · split at refused
    · exact (fields _ _ _ refused).covers
    · exact ((refuses_refuse .modelType).mpr rfl).covers rfl refused
  · exact ((refuses_refuse .modelType).mpr rfl).covers rfl refused

end Codec

/-! ## What fields refuse -/

section Fields

variable {σ : Type} {f : Field σ} {kind : FieldKind} {kinds : List (String × FieldKind)}
  {name : String} {faults : List Fault}

/-- Data give a field under one of its names. -/
theorem Field.found?_mem_spellings {data : Fields} {v : Value}
    (found : f.found? data = some (name, v)) : name ∈ f.spellings := by
  have either : name = f.wireName ∨ name = f.name := by
    unfold found? at found
    split at found
    · exact .inl (congrArg Prod.fst (Option.some.inj found)).symm
    · obtain ⟨_, -, same⟩ := Option.map_eq_some_iff.mp found
      exact .inr (congrArg Prod.fst same).symm
  unfold spellings
  split <;> simp_all

theorem Field.wireName_mem_spellings (f : Field σ) : f.wireName ∈ f.spellings := by
  unfold spellings
  split <;> simp_all

theorem lookup_spellings (name : String) :
    (f.spellings.map (·, kind) ++ kinds).lookup name =
      if name ∈ f.spellings then some kind else kinds.lookup name := by
  rw [List.lookup_append]
  generalize f.spellings = names
  induction names with
  | nil => rfl
  | cons first names ih =>
    by_cases same : name = first
    · simp [same]
    · simpa [List.lookup_cons, same, beq_false_of_ne same] using ih

theorem lookup_of_spelled (spelled : name ∈ f.spellings) :
    (f.spellings.map (·, kind) ++ kinds).lookup name = some kind :=
  (lookup_spellings name).trans (if_pos spelled)

/-- Faults of one field stand below one of its names, as its kind says. -/
theorem Field.coversIn_take (each : ∀ v s faults, f.set v s = .error faults → kind.Covers faults)
    {data : Fields} {s : σ} (refused : f.take data s = .error faults) :
    FieldKind.CoversIn (f.spellings.map (·, kind) ++ kinds) faults := by
  unfold take at refused
  split at refused
  case h_1 name v found =>
    cases outcome : f.set v s with
    | ok s' =>
      rw [outcome] at refused
      cases refused
    | error inner =>
      rw [outcome] at refused
      rw [← Except.error.inj refused]
      exact (each v s inner outcome).under (lookup_of_spelled (found?_mem_spellings found))
  case h_2 absent =>
    split at refused
    · have missing : kind.Covers [.here .missing] :=
        ⟨List.cons_ne_nil _ _, List.forall_mem_singleton.mpr (Bool.and_false _).symm⟩
      rw [← Except.error.inj refused]
      exact missing.under (lookup_of_spelled f.wireName_mem_spellings)
    · cases refused

/-- What stands in some fields stands in them if others with names of their own come first. -/
theorem FieldKind.CoversIn.behind (inside : CoversIn kinds faults)
    (fresh : ∀ name ∈ f.spellings, name ∉ kinds.map Prod.fst) :
    CoversIn (f.spellings.map (·, kind) ++ kinds) faults := by
  refine ⟨inside.given, fun fault member => ?_⟩
  obtain ⟨name, kind', inner, found, under, explained⟩ := inside.explained fault member
  refine ⟨name, kind', inner, ?_, under, explained⟩
  have foreign : name ∉ f.spellings := fun spelled =>
    fresh name spelled (FieldKind.mem_of_lookup found)
  rw [lookup_spellings, if_neg foreign, found]

end Fields

/-! ## Refusals are explained

The induction follows the three relations at once: a nested record leads from its codec to the
list of its fields, and each of these to a codec again. -/

mutual

/-- What a codec refuses is explained by its kind. -/
theorem Codec.HasKind.covers : ∀ {α : Type} {c : Codec α} {kind : FieldKind}, c.HasKind kind →
    ∀ v faults, c.read v = .error faults → kind.Covers faults
  | _, _, _, .text, v, _, refused => (Codec.refuses_text v).covers rfl refused
  | _, _, _, .flag, v, _, refused => (Codec.refuses_flag v).covers rfl refused
  | _, _, _, .whole, v, _, refused => (Codec.refuses_whole v).covers rfl refused
  | _, _, _, @Codec.HasKind.term α _, v, _, refused =>
    (Codec.refuses_term α v).covers rfl refused
  | _, _, _, .day, v, _, refused => (Codec.refuses_day v).covers rfl refused
  | _, _, _, .moment, v, _, refused => (Codec.refuses_moment v).covers rfl refused
  | _, _, _, .stamp, v, _, refused => (Codec.refuses_stamp v).covers rfl refused
  | _, _, _, .optional _ each, _, _, refused => Codec.covers_optional each.covers refused
  | _, _, _, .list each, _, _, refused => Codec.covers_list each.covers refused
  | _, _, _, .table each, _, _, refused => Codec.covers_table each.covers refused
  | _, _, _, .nested _ _ fields, _, _, refused => Codec.covers_nested fields.coversIn refused
  | _, _, _, .checked unchecked check, v, faults, refused =>
    match check v faults refused with
    | .inl unread => unchecked.covers v faults unread
    | .inr whole => whole ▸ FieldKind.covers_here rfl

/-- What a field refuses is explained by its kind. -/
theorem Field.HasKind.covers : ∀ {σ : Type} {f : Field σ} {kind : FieldKind}, f.HasKind kind →
    ∀ v s faults, f.set v s = .error faults → kind.Covers faults
  | _, _, _, .of _ _ _ _ _ _ codec, v, _, faults, refused =>
    codec.covers v faults (Codec.error_of_map refused)
  | _, _, _, .within get _ _ part, v, t, faults, refused =>
    part.covers v (get t) faults (Codec.error_of_map refused)

/-- What the fields refuse stands in one of them and is explained by its kind. -/
theorem Fields.HaveKinds.coversIn : ∀ {σ : Type} {fs : List (Field σ)}
    {kinds : List (String × FieldKind)}, Fields.HaveKinds fs kinds →
    ∀ data s faults, Shape.fill data fs s = .error faults → FieldKind.CoversIn kinds faults
  | _, _, _, .nil, _, _, _, refused => nomatch refused
  | _, _, _, .cons first fresh rest, data, s, faults, refused => by
    -- Reading goes on behind a field that is refused, and its faults come first.
    have disjoint := fun name spelled => (fresh name spelled).2
    rw [Shape.fill] at refused
    split at refused
    case h_1 s' _ => exact (rest.coversIn data s' faults refused).behind disjoint
    case h_2 e here =>
      split at refused
      case h_1 => exact Except.error.inj refused ▸ Field.coversIn_take first.covers here
      case h_2 e' later =>
        rw [← Except.error.inj refused]
        exact (Field.coversIn_take first.covers here).append
          ((rest.coversIn data s e' later).behind disjoint)

end

end SchoolRegistry
