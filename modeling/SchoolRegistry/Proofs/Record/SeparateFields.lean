import Mathlib.Data.List.Nodup
import SchoolRegistry.Entity.Header

/-!
# Entities whose fields are apart

A field of an entity stands for itself if setting it shows in this field only, and if it depends on
the value alone whether the field takes it (`Field.IsSeparate`). `Entity.Fieldwise` says that all
fields of an entity are like this and make up the entity together with its version.

For such entities reading data and assigning to attributes come to the same. What an unsaved entity
shows is read as the entity (`Fieldwise.parse_fieldValues`), and assigning to a field is reading
what the entity shows with one value replaced, down to the faults for which the value is refused
(`Fieldwise.assign_eq_parse`).

A model with a check of the whole is not like this, since the check may refuse what every single
field takes.
-/

namespace SchoolRegistry

/-! ## Named values -/

/-- The name that is inserted shows the new value, and every other name what it showed. -/
theorem Fields.lookup_insert {name other : String} {v : Value} {fs : Fields} :
    (insert name v fs).lookup other = if other = name then some v else fs.lookup other := by
  induction fs with
  | nil =>
    by_cases same : other = name
    · simp [insert, same]
    · simp [insert, List.lookup_cons, same, beq_false_of_ne same]
  | cons entry fs ih =>
    obtain ⟨first, old⟩ := entry
    by_cases here : first = name
    · by_cases same : other = name
      · simp [insert, here, same]
      · simp [insert, List.lookup_cons, here, same, beq_false_of_ne same]
    · by_cases front : other = first
      · simp [insert, here, front]
      · simp [insert, List.lookup_cons, here, beq_false_of_ne front, ih]

section Shape

variable {σ : Type} {m : Shape σ} {f : Field σ}

/-- The other fields have other names. -/
theorem Shape.exists_split (apart : m.names.Nodup) (member : f ∈ m.fields) :
    ∃ before after, m.fields = before ++ f :: after ∧ ∀ g ∈ before ++ after, g.name ≠ f.name := by
  obtain ⟨before, after, split⟩ := List.append_of_mem member
  refine ⟨before, after, split, fun g there same => ?_⟩
  rw [names, split, List.map_append, List.map_cons, List.nodup_middle, ← List.map_append] at apart
  exact (List.nodup_cons.mp apart).1 (same ▸ List.mem_map_of_mem there)

/-- Under the name of a field stands what the field shows. -/
theorem Shape.lookup_fieldValues (s : σ) (apart : m.names.Nodup) (member : f ∈ m.fields) :
    (m.fieldValues s).lookup f.name = some (f.get s) := by
  obtain ⟨before, after, split, different⟩ := exists_split apart member
  refine List.lookup_eq_some_iff.mpr ⟨before.map fun g => (g.name, g.get s),
    after.map fun g => (g.name, g.get s), ?_, ?_⟩
  · rw [fieldValues, split, List.map_append, List.map_cons]
  · intro entry earlier
    obtain ⟨g, there, rfl⟩ := List.mem_map.mp earlier
    simpa using (different g (List.mem_append_left _ there)).symm

/-- The field found under a name is the one that has it. -/
theorem Shape.field?_name (apart : m.names.Nodup) (member : f ∈ m.fields) :
    m.field? f.name = some f := by
  obtain ⟨g, found⟩ := Option.isSome_iff_exists.mp
    (List.find?_isSome.mpr ⟨f, member, BEq.rfl⟩ : (m.field? f.name).isSome = true)
  have same : g.name = f.name := eq_of_beq (List.find?_some found :)
  rwa [List.inj_on_of_nodup_map apart (List.mem_of_find?_eq_some found) member same] at found

end Shape

/-! ## Fields -/

/-- Codecs show different values differently, as each is read back. -/
theorem Codec.write_injective {α : Type} (c : Codec α) : Function.Injective c.write := by
  intro a b same
  have read := c.read_write a
  rw [same, c.read_write] at read
  exact (Except.ok.inj read).symm

/-- The entity as a value, with one field replaced. -/
def Entity.showing {σ : Type} [Entity σ] (s : σ) (field : String) (shown : Value) : Value :=
  .record (Entity.name σ) (.whole (Entity.version s))
    (Fields.insert field shown ((Entity.model : Model σ).fieldValues s))

namespace Field

variable {σ τ α : Type} {f : Field σ} {c : Codec α} {get : σ → α} {put : α → σ → σ}

/-- The field reads and shows a part of the structure by a codec. -/
structure IsPlace (f : Field σ) (c : Codec α) (get : σ → α) (put : α → σ → σ) : Prop where
  get_eq : ∀ s, f.get s = c.write (get s)
  set_eq : ∀ v s, f.set v s = (c.read v).map fun a => put a s

/-- A field that is made from a codec reads and shows its part by this codec. -/
theorem isPlace_of {name wireName : String} {required : Bool} {put_get : ∀ s, put (get s) s = s} :
    (Field.of name wireName required c get put put_get).IsPlace c get put :=
  ⟨fun _ => rfl, fun _ _ => rfl⟩

/-- A field of a part of a larger structure reads and shows by the same codec. -/
theorem IsPlace.within {part : τ → σ} {setPart : σ → τ → τ}
    {set_part : ∀ t, setPart (part t) t = t} (place : f.IsPlace c get put) :
    (f.within part setPart set_part).IsPlace c (fun t => get (part t))
      fun a t => setPart (put a (part t)) t := by
  refine ⟨fun t => place.get_eq (part t), fun v t => ?_⟩
  simp only [Field.within, place.set_eq]
  cases c.read v <;> rfl

/-- Parts that are shown alike are the same. -/
theorem IsPlace.eq_of_get {s t : σ} (place : f.IsPlace c get put) (same : f.get s = f.get t) :
    get s = get t := by
  rw [place.get_eq, place.get_eq] at same
  exact c.write_injective same

variable [Entity σ]

/-- In every entity the field takes the value: it shows `shown` from then on, and everything else
shows what it showed. -/
def Reads (f : Field σ) (v shown : Value) : Prop :=
  ∀ s, ∃ s', f.set v s = .ok s' ∧ Entity.toValue s' = Entity.showing s f.name shown

/-- In every entity the field refuses the value. -/
def Refuses (f : Field σ) (v : Value) (faults : List Fault) : Prop :=
  ∀ s, f.set v s = .error faults

/-- The field stands for itself. -/
def IsSeparate (f : Field σ) : Prop :=
  ∀ v, (∃ shown, f.Reads v shown) ∨ ∃ faults, f.Refuses v faults

/-- A field that reads by a codec stands for itself if putting its part shows nowhere else. -/
theorem IsPlace.isSeparate (place : f.IsPlace c get put)
    (apart : ∀ a s, Entity.toValue (put a s) = Entity.showing s f.name (c.write a)) :
    f.IsSeparate := by
  intro v
  cases read : c.read v with
  | error faults =>
    exact .inr ⟨faults, fun s => by simp only [place.set_eq, read, Except.map]⟩
  | ok a =>
    exact .inl ⟨c.write a, fun s =>
      ⟨put a s, by simp only [place.set_eq, read, Except.map], apart a s⟩⟩

end Field

/-! ## Entities -/

namespace Entity

/-- The fields stand for themselves and make up the entity, together with its version. -/
structure Fieldwise (σ : Type) [Entity σ] : Prop where
  separate : ∀ f ∈ (model : Model σ).fields, f.IsSeparate
  eq_of_get : ∀ s t : σ, version s = version t →
    (∀ f ∈ (model : Model σ).fields, f.get s = f.get t) → s = t
  /-- The first fields are those of the header. -/
  header_fields : ∃ own, (model : Model σ).fields =
    Header.fieldsWithin header setHeader setHeader_header ++ own
  names_nodup : (model : Model σ).names.Nodup := by decide
  wireName_eq : ∀ f ∈ (model : Model σ).fields, f.wireName = f.name := by
    exact List.map_inj_left.mp rfl
  version_blank : version (model : Model σ).blank = 0 := by rfl
  unchecked : ∀ s, (model : Model σ).check s = .ok () := by exact fun _ => rfl
  not_frozen : (model : Model σ).frozen = false := by rfl
  not_derived : ∀ name ∈ (model : Model σ).names, name ∉ (model : Model σ).derived := by decide

variable {σ : Type} [Entity σ] {f g : Field σ} {fs : List (Field σ)} {data : Fields} {s t x : σ}
  {v shown : Value} {faults : List Fault}

/-- Replacing what a field shows leaves the version. -/
theorem version_of_showing (same : toValue t = showing s f.name shown) :
    version t = version s := by
  simp only [toValue, showing, Value.record.injEq, Value.whole.injEq] at same
  exact Int.ofNat.inj same.2.1

namespace Fieldwise

variable (laws : Fieldwise σ)

include laws

/-- Replacing what a field shows leaves what the others show. -/
theorem get_of_showing (same : toValue t = showing s f.name shown)
    (member : g ∈ (model : Model σ).fields) :
    g.get t = if g.name = f.name then shown else g.get s := by
  simp only [toValue, showing, Value.record.injEq] at same
  have found := Shape.lookup_fieldValues t laws.names_nodup member
  rw [same.2.2, Fields.lookup_insert, Shape.lookup_fieldValues s laws.names_nodup member] at found
  split_ifs at found ⊢ <;> exact (Option.some.inj found).symm

/-- A field takes what it shows and shows it again. -/
theorem reads_get (member : f ∈ (model : Model σ).fields) (s : σ) :
    f.Reads (f.get s) (f.get s) := by
  obtain ⟨shown, reads⟩ | ⟨faults, refuses⟩ := laws.separate f member (f.get s)
  · obtain ⟨s', set, same⟩ := reads s
    rw [f.set_get] at set
    cases set
    have again := laws.get_of_showing same member
    rw [if_pos rfl] at again
    rwa [← again] at reads
  · have set := refuses s
    rw [f.set_get] at set
    cases set

/-- Fields of an entity with the same name are the same field. -/
theorem eq_of_name_eq (member : f ∈ (model : Model σ).fields)
    (member' : g ∈ (model : Model σ).fields) (same : g.name = f.name) : g = f :=
  List.inj_on_of_nodup_map laws.names_nodup member' member same

end Fieldwise

/-! ## Reading data -/

/-- The data give the field a value that it takes and shows as `shown`. -/
def Gives (data : Fields) (f : Field σ) (shown : Value) : Prop :=
  ∃ v, data.lookup f.wireName = some v ∧ f.Reads v shown

/-- A field takes what the data give it and shows it, and the others show what they showed. -/
theorem Gives.take (given : Gives data f shown) (s : σ) :
    ∃ t, f.take data s = .ok t ∧ toValue t = showing s f.name shown := by
  obtain ⟨v, found, reads⟩ := given
  obtain ⟨t, set, same⟩ := reads s
  exact ⟨t, Field.take_of_set found set, same⟩

/-- Fields to which the data give values that they take are passed by. -/
theorem exists_fill_append (given : ∀ f ∈ fs, ∃ shown, Gives data f shown) (s : σ) :
    ∃ t, ∀ rest, Shape.fill data (fs ++ rest) s = Shape.fill data rest t := by
  induction fs generalizing s with
  | nil => exact ⟨s, fun _ => rfl⟩
  | cons f fs ih =>
    obtain ⟨first, later⟩ := List.forall_mem_cons.mp given
    obtain ⟨t, took, -⟩ := first.choose_spec.take s
    obtain ⟨t', passed⟩ := ih later t
    exact ⟨t', fun rest => by rw [List.cons_append, Shape.fill, took]; exact passed rest⟩

namespace Fieldwise

variable (laws : Fieldwise σ)

include laws

/-- Setting fields one by one to what an entity shows leads to this entity, from any that has its
version and shows what it shows in the other fields. -/
theorem fill_eq_ok (given : ∀ f ∈ fs, Gives data f (f.get x))
    (known : ∀ f ∈ fs, f ∈ (model : Model σ).fields) (versions : version s = version x)
    (others : ∀ g ∈ (model : Model σ).fields, g ∈ fs ∨ g.get s = g.get x) :
    Shape.fill data fs s = .ok x := by
  induction fs generalizing s with
  | nil =>
    have same := laws.eq_of_get s x versions fun g member => (others g member).resolve_left nofun
    exact congrArg Except.ok same
  | cons f fs ih =>
    obtain ⟨first, later⟩ := List.forall_mem_cons.mp given
    obtain ⟨here, there⟩ := List.forall_mem_cons.mp known
    obtain ⟨t, took, same⟩ := first.take s
    rw [Shape.fill, took]
    refine ih later there ((version_of_showing same).trans versions) fun g member => ?_
    rw [laws.get_of_showing same member]
    split_ifs with names
    · exact .inr (laws.eq_of_name_eq here member names ▸ rfl)
    · refine (others g member).imp_left fun inside => ?_
      exact (List.mem_cons.mp inside).resolve_left fun equal => names (equal ▸ rfl)

/-- Data that give every field what an unsaved entity shows are read as the entity. -/
theorem parse_eq_ok (given : ∀ f ∈ (model : Model σ).fields, Gives data f (f.get x))
    (unsaved : version x = 0) : (model : Model σ).parse data = .ok x := by
  have filled := laws.fill_eq_ok given (fun _ member => member)
    (laws.version_blank.trans unsaved.symm) fun _ member => .inl member
  simp only [Model.parse, Shape.read, filled, laws.unchecked, Except.map]

/-- Data whose one fault is the value of a field are refused for the faults of this value. -/
theorem parse_eq_error (member : f ∈ (model : Model σ).fields)
    (found : data.lookup f.wireName = some v) (refuses : f.Refuses v faults)
    (others : ∀ g ∈ (model : Model σ).fields, g.name ≠ f.name → ∃ shown, Gives data g shown) :
    (model : Model σ).parse data = .error (.invalid (faults.map (·.under f.wireName))) := by
  obtain ⟨before, after, split, different⟩ := Shape.exists_split laws.names_nodup member
  have given : ∀ g ∈ before ++ after, ∃ shown, Gives data g shown := fun g there =>
    others g (split ▸ (List.perm_middle.symm.subset (List.mem_cons_of_mem f there)))
      (different g there)
  obtain ⟨earlier, later⟩ := List.forall_mem_append.mp given
  obtain ⟨s, passed⟩ := exists_fill_append earlier (model : Model σ).blank
  obtain ⟨t, finished⟩ := exists_fill_append later s
  have last : Shape.fill data after s = .ok t := by simpa [Shape.fill] using finished []
  have filled : Shape.fill data (model : Model σ).fields (model : Model σ).blank =
      .error (faults.map (·.under f.wireName)) := by
    rw [split, passed, Shape.fill, Field.take_of_set_error found (refuses s), last]
  simp only [Model.parse, Shape.read, filled]

/-- What an unsaved entity shows gives every field what it shows. -/
theorem gives_fieldValues (member : f ∈ (model : Model σ).fields) (s : σ) :
    Gives ((model : Model σ).fieldValues s) f (f.get s) :=
  ⟨f.get s, by rw [laws.wireName_eq f member, Shape.lookup_fieldValues s laws.names_nodup member],
    laws.reads_get member s⟩

/-- What an unsaved entity shows is read as the entity. -/
theorem parse_fieldValues (unsaved : version x = 0) :
    (model : Model σ).parse ((model : Model σ).fieldValues x) = .ok x :=
  laws.parse_eq_ok (fun _ member => laws.gives_fieldValues member x) unsaved

/-- Taking a field from data leaves the version. -/
theorem version_of_take (member : f ∈ (model : Model σ).fields) (took : f.take data s = .ok t) :
    version t = version s := by
  unfold Field.take at took
  split at took
  case h_1 name v _ =>
    obtain ⟨shown, reads⟩ | ⟨faults, refuses⟩ := laws.separate f member v
    · obtain ⟨t', set, same⟩ := reads s
      rw [set] at took
      cases took
      exact version_of_showing same
    · rw [refuses s] at took
      cases took
  case h_2 =>
    split at took <;> cases took
    rfl

/-- Taking fields from data leaves the version. -/
theorem version_of_fill (known : ∀ f ∈ fs, f ∈ (model : Model σ).fields)
    (filled : Shape.fill data fs s = .ok t) : version t = version s := by
  induction fs generalizing s with
  | nil => cases filled; rfl
  | cons f fs ih =>
    obtain ⟨here, there⟩ := List.forall_mem_cons.mp known
    rw [Shape.fill] at filled
    split at filled
    case h_1 s' took => exact (ih there filled).trans (laws.version_of_take here took)
    case h_2 => split at filled <;> cases filled

/-- Whatever data are read, the entity was never saved. -/
theorem version_of_parse (read : (model : Model σ).parse data = .ok s) : version s = 0 := by
  rw [Model.parse] at read
  split at read
  case h_1 => cases read
  case h_2 t filled =>
    rw [laws.unchecked] at read
    cases read
    exact (laws.version_of_fill (fun _ member => member) filled).trans laws.version_blank

/-! ## Assigning to attributes -/

/-- Assigning to a field is setting it; what it refuses is refused below its name. -/
theorem assign_field (member : f ∈ (model : Model σ).fields) :
    (model : Model σ).assign f.name v s =
      (f.set v s).mapError fun faults => .invalid (faults.map (·.under f.name)) := by
  have free : (model : Model σ).derived.contains f.name = false := by
    simpa using laws.not_derived f.name (List.mem_map_of_mem member)
  simp only [Model.assign, laws.not_frozen, free, Shape.field?_name laws.names_nodup member,
    Bool.false_eq_true, if_false]

/-- Assigning to a field of an unsaved entity is reading what the entity shows, with the value of
the field replaced. -/
theorem assign_eq_parse (unsaved : version x = 0) (member : f ∈ (model : Model σ).fields) :
    (model : Model σ).assign f.name v x =
      (model : Model σ).parse (((model : Model σ).fieldValues x).insert f.name v) := by
  have replaced : (((model : Model σ).fieldValues x).insert f.name v).lookup f.wireName =
      some v := by
    rw [laws.wireName_eq f member, Fields.lookup_insert, if_pos rfl]
  have others : ∀ g ∈ (model : Model σ).fields, g.name ≠ f.name →
      Gives (((model : Model σ).fieldValues x).insert f.name v) g (g.get x) := by
    intro g there different
    obtain ⟨w, found, reads⟩ := laws.gives_fieldValues there x
    refine ⟨w, ?_, reads⟩
    rw [laws.wireName_eq g there] at found ⊢
    rw [Fields.lookup_insert, if_neg different, found]
  rw [laws.assign_field member]
  obtain ⟨shown, reads⟩ | ⟨faults, refuses⟩ := laws.separate f member v
  · obtain ⟨t, set, same⟩ := reads x
    rw [set]
    refine (laws.parse_eq_ok (fun g there => ?_) ((version_of_showing same).trans unsaved)).symm
    rw [laws.get_of_showing same there]
    split_ifs with names
    · obtain rfl := laws.eq_of_name_eq member there names
      exact ⟨v, replaced, reads⟩
    · exact others g there names
  · rw [refuses x, laws.parse_eq_error member replaced refuses fun g there different =>
      ⟨_, others g there different⟩, laws.wireName_eq f member]
    rfl

/-- What is no field cannot be assigned. -/
theorem exists_assign_error {name : String} (unknown : name ∉ (model : Model σ).names) :
    ∃ failure, (model : Model σ).assign name v s = .error failure := by
  have absent : (model : Model σ).field? name = none := List.find?_eq_none.mpr fun f member same =>
    unknown (eq_of_beq same ▸ List.mem_map_of_mem member)
  simp only [Model.assign, laws.not_frozen, absent, Bool.false_eq_true, if_false]
  split
  · exact ⟨_, rfl⟩
  · exact ⟨_, rfl⟩

/-- An assignment succeeds exactly for a field whose new value is read together with what the entity
shows in the others; then it makes what is read. -/
theorem assign_eq_ok_iff {name : String} (unsaved : version x = 0) :
    (model : Model σ).assign name v x = .ok s ↔ name ∈ (model : Model σ).names ∧
      (model : Model σ).parse (((model : Model σ).fieldValues x).insert name v) = .ok s := by
  refine ⟨fun assigned => ?_, fun ⟨known, read⟩ => ?_⟩
  · have known : name ∈ (model : Model σ).names := by
      by_contra unknown
      obtain ⟨failure, failed⟩ := laws.exists_assign_error (v := v) (s := x) unknown
      rw [failed] at assigned
      cases assigned
    obtain ⟨f, member, rfl⟩ := List.mem_map.mp known
    exact ⟨known, laws.assign_eq_parse unsaved member ▸ assigned⟩
  · obtain ⟨f, member, rfl⟩ := List.mem_map.mp known
    exact laws.assign_eq_parse unsaved member ▸ read

end Fieldwise

end Entity

end SchoolRegistry
