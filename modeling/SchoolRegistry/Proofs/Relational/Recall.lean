import SchoolRegistry.Relational.Rows

/-!
# What comes back from a table

The row of an item is read as the item again, except that its stamps lose their offsets
(`ofRow_toRow`): a column of moments keeps what the wall shows, and what comes back is universal
time. An item comes back as it was exactly if its stamps are universal time already
(`Entity.recalled_eq_iff`).

The proof follows the fields. What a codec shows is read back from a column (`ComesBack`), so each
field is set to what the item shows (`reread`), and all of them together make up the item. All of
this holds for any `Keeping`: only what becomes of moments differs from one to another, and where
moments are kept as they are, an item comes back as it was.
-/

namespace SchoolRegistry

/-- A stamp as a column of moments gives it back. -/
def Stamp.recalled (s : Stamp) : Stamp := .utc s.wall

/-- A way to keep the values of columns: moments in a way of their own, everything else as it is. -/
structure Keeping where
  keep : Value → Value
  keep_other : ∀ v, (∀ m, v ≠ .moment m) → keep v = v
  /-- A stamp as it is read again. -/
  back : Stamp → Stamp
  read_keep : ∀ s, Codec.stamp.read (keep (.moment (.fixed s))) = .ok (back s)

namespace Keeping

/-- An object in memory keeps its attributes. -/
def asGiven : Keeping := ⟨id, fun _ _ => rfl, id, fun _ => rfl⟩

/-- A database keeps of a moment what the wall shows. -/
def inDatabase : Keeping where
  keep := Value.kept
  keep_other v other := by
    cases v with
    | moment m => exact absurd rfl (other m)
    | _ => rfl
  back := Stamp.recalled
  read_keep _ := rfl

variable (k : Keeping)

@[simp] theorem keep_null : k.keep .null = .null := k.keep_other _ nofun

@[simp] theorem keep_flag (yes : Bool) : k.keep (.flag yes) = .flag yes := k.keep_other _ nofun

@[simp] theorem keep_text (s : String) : k.keep (.text s) = .text s := k.keep_other _ nofun

@[simp] theorem keep_day (d : Date) : k.keep (.day d) = .day d := k.keep_other _ nofun

@[simp] theorem keep_list (vs : List Value) : k.keep (.list vs) = .list vs := k.keep_other _ nofun

/-- The header without its version, as it is read again. -/
def header (h : Header) : Header := ⟨h.id, h.createdAt.map k.back, h.updatedAt.map k.back, 0⟩

end Keeping

namespace Codec

variable {α : Type} (k : Keeping)

/-- What the codec shows is read again from a column as `back` says. -/
def ComesBack (codec : Codec α) (back : α → α) : Prop :=
  ∀ a, codec.read (k.keep (codec.write a).stored) = .ok (back a)

theorem comesBack_text : text.ComesBack k id := fun a => by
  simp only [text, Value.stored, Keeping.keep_text]
  rfl

theorem comesBack_flag : flag.ComesBack k id := fun a => by
  simp only [flag, Value.stored, Keeping.keep_flag]
  rfl

theorem comesBack_day : day.ComesBack k id := fun a => by
  simp only [day, Value.stored, Keeping.keep_day]
  rfl

/-- A stamp comes back as the keeping says. -/
theorem comesBack_stamp : stamp.ComesBack k k.back := k.read_keep

/-- What may be missing comes back if what is there comes back and is not read from nothing. -/
theorem comesBack_optional {codec : Codec α} {present : ∀ a, (codec.write a).isNull = false}
    {back : α → α} (refuses : ∀ a, codec.read .null ≠ .ok a) (comes : codec.ComesBack k back) :
    (optional codec present).ComesBack k (Option.map back) := by
  intro a
  cases a with
  | none => simp only [optional, Value.stored, Keeping.keep_null, Value.isNull, if_true, Option.map]
  | some a =>
    have read := comes a
    have shown : (k.keep (codec.write a).stored).isNull = false := by
      cases kept : k.keep (codec.write a).stored with
      | null => exact absurd (kept ▸ read) (refuses _)
      | _ => rfl
    simp only [optional, shown, read, Bool.false_eq_true, if_false, Except.map, Option.map]

theorem comesBack_text? : text?.ComesBack k id :=
  Option.map_id ▸ comesBack_optional k nofun (comesBack_text k)

theorem comesBack_day? : day?.ComesBack k id :=
  Option.map_id ▸ comesBack_optional k nofun (comesBack_day k)

/-- So does a stamp that may be missing. -/
theorem comesBack_stamp? : stamp?.ComesBack k (Option.map k.back) :=
  comesBack_optional k nofun (comesBack_stamp k)

section Terms

variable [Selectable α] (texts : ∀ a : α, (Selectable.choose a).text = Vocabulary.text a)

include texts

/-- A term is read by its text. -/
theorem read_term_stored (a : α) : (term α).read ((term α).write a).stored = .ok a := by
  have found : Vocabulary.ofText? (Selectable.choose a).text = some a := by
    rw [texts, Vocabulary.ofText?_text]
  simp only [term, Value.stored, found]

/-- A term comes back as itself, from its text. -/
theorem comesBack_term : (term α).ComesBack k id := fun a => by
  have kept : k.keep ((term α).write a).stored = ((term α).write a).stored := k.keep_text _
  rw [kept]
  exact read_term_stored texts a

theorem comesBack_term? : (term? α).ComesBack k id :=
  Option.map_id ▸ comesBack_optional k nofun (comesBack_term k texts)

/-- Terms come back one by one. -/
theorem comesBack_terms : (list (term α)).ComesBack k id := fun as => by
  have each (i : Nat) :
      readItems (term α) i (Value.storedItems (as.map (term α).write)) = .ok as := by
    induction as generalizing i with
    | nil => rfl
    | cons a as ih =>
      simp only [List.map_cons, Value.storedItems, readItems, read_term_stored texts a, ih]
  simp only [list, Value.stored, Keeping.keep_list]
  exact each 0

end Terms

end Codec

/-! ## Fields -/

namespace Shape

variable {σ α : Type} {k : Keeping} {x s : σ} {fs : List (Field σ)} {name wireName : String}
  {required : Bool} {codec : Codec α} {back : α → α}

/-- The structure with fields set to what another one shows, as columns keep it. -/
def reread (k : Keeping) (x : σ) : List (Field σ) → σ → Except (List Fault) σ
  | [], s => .ok s
  | f :: fs, s =>
    match f.set (k.keep (f.get x).stored) s with
    | .ok s => reread k x fs s
    | .error e => .error e

/-- One field more is read again as its codec says. -/
theorem reread_of {get : σ → α} {put : α → σ → σ} {put_get : ∀ s, put (get s) s = s}
    (h : codec.ComesBack k back) :
    reread k x (.of name wireName required codec get put put_get :: fs) s =
      reread k x fs (put (back (get x)) s) := by
  simp only [reread, Field.of, h (get x), Except.map]

/-- A field of a part, here of the header. -/
theorem reread_within {get : Header → α} {put : α → Header → Header}
    {put_get : ∀ h, put (get h) h = h} {header : σ → Header} {setHeader : Header → σ → σ}
    {set_header : ∀ s, setHeader (header s) s = s} (h : codec.ComesBack k back) :
    reread k x ((Field.of name wireName required codec get put put_get).within header setHeader
        set_header :: fs) s =
      reread k x fs (setHeader (put (back (get (header x))) (header s)) s) := by
  simp only [reread, Field.of, Field.within, h (get (header x)), Except.map]

/-- The fields of the header. -/
theorem reread_header {τ : Type} [Entity τ] {x s : τ} {fs : List (Field τ)} :
    reread k x (Header.fieldsWithin Entity.header Entity.setHeader Entity.setHeader_header ++ fs)
        s = reread k x fs (Entity.setHeader
          { k.header (Entity.header x) with version := (Entity.header s).version } s) := by
  refine (reread_within (Codec.comesBack_text? k)).trans ?_
  refine (reread_within (Codec.comesBack_stamp? k)).trans ?_
  refine (reread_within (Codec.comesBack_stamp? k)).trans ?_
  simp only [Entity.header_setHeader, Entity.setHeader_setHeader]
  rfl

/-- Reading data that give every field as a column keeps it. -/
theorem fill_of_reread {data : Fields} {y : σ} (given : ∀ f ∈ fs,
      data.lookup f.wireName = some (k.keep (f.get x).stored))
    (h : reread k x fs s = .ok y) : fill data fs s = .ok y := by
  induction fs generalizing s with
  | nil => exact h
  | cons f fs ih =>
    have found := given f List.mem_cons_self
    unfold reread at h
    cases set : f.set (k.keep (f.get x).stored) s with
    | error e => rw [set] at h; cases h
    | ok s' =>
      rw [set] at h
      rw [fill, Field.take_of_set found set]
      exact ih (fun g hg => given g (List.mem_cons_of_mem _ hg)) h

end Shape

/-! ## Items -/

/-- The entity with its stamps as columns of moments give them back. -/
def Entity.recalled {σ : Type} [Entity σ] (x : σ) : σ :=
  let h := Entity.header x
  Entity.setHeader ⟨h.id, h.createdAt.map Stamp.recalled, h.updatedAt.map Stamp.recalled,
    h.version⟩ x

namespace Collection

variable {c : Collection}

/-- The row of an item gives every field as a column holds it. -/
theorem lookup_toRow (x : c.Item) : ∀ f ∈ (Entity.model : Model c.Item).fields,
    (c.toRow x).lookup f.wireName = some (f.get x).stored.kept := by
  refine List.map_inj_left.mp ?_
  cases c <;> rfl

/-- All fields of an item come back; the version is no field. -/
theorem reread_fields (k : Keeping) (x : c.Item) :
    Shape.reread k x (Entity.model : Model c.Item).fields (Entity.model : Model c.Item).blank =
      .ok (Entity.setHeader (k.header (Entity.header x)) x) := by
  cases c with
  | organisations =>
    refine Shape.reread_header.trans ?_
    refine (Shape.reread_of (Codec.comesBack_text? k)).trans ?_
    refine (Shape.reread_of (Codec.comesBack_text? k)).trans ?_
    refine (Shape.reread_of (Codec.comesBack_text? k)).trans ?_
    refine (Shape.reread_of (Codec.comesBack_text? k)).trans ?_
    refine (Shape.reread_of (Codec.comesBack_term? k fun _ => rfl)).trans ?_
    refine (Shape.reread_of (Codec.comesBack_text? k)).trans ?_
    refine (Shape.reread_of (Codec.comesBack_text? k)).trans ?_
    rfl
  | persons =>
    refine Shape.reread_header.trans ?_
    refine (Shape.reread_of (Codec.comesBack_text? k)).trans ?_
    refine (Shape.reread_of (Codec.comesBack_text? k)).trans ?_
    refine (Shape.reread_of (Codec.comesBack_text? k)).trans ?_
    refine (Shape.reread_of (Codec.comesBack_day? k)).trans ?_
    refine (Shape.reread_of (Codec.comesBack_flag k)).trans ?_
    rfl
  | roles =>
    refine Shape.reread_header.trans ?_
    refine (Shape.reread_of (Codec.comesBack_text? k)).trans ?_
    refine (Shape.reread_of (Codec.comesBack_text? k)).trans ?_
    refine (Shape.reread_of (Codec.comesBack_term? k fun _ => rfl)).trans ?_
    refine (Shape.reread_of (Codec.comesBack_terms k fun _ => rfl)).trans ?_
    refine (Shape.reread_of (Codec.comesBack_terms k fun _ => rfl)).trans ?_
    rfl
  | assignments =>
    refine Shape.reread_header.trans ?_
    refine (Shape.reread_of (Codec.comesBack_text k)).trans ?_
    refine (Shape.reread_of (Codec.comesBack_text k)).trans ?_
    refine (Shape.reread_of (Codec.comesBack_text k)).trans ?_
    rfl

/-- The row of an item has its version. -/
theorem versionOf_toRow (x : c.Item) : versionOf (c.toRow x) = Entity.version x := by
  cases c <;> rfl

/-- Data that give every field of an item as a column keeps it are read as the item. -/
theorem parse_of_kept (k : Keeping) {data : Fields} {x : c.Item}
    (given : ∀ f ∈ (Entity.model : Model c.Item).fields,
      data.lookup f.wireName = some (k.keep (f.get x).stored)) :
    (Entity.model : Model c.Item).parse data =
      .ok (Entity.setHeader (k.header (Entity.header x)) x) := by
  have unchecked : ∀ s, (Entity.model : Model c.Item).check s = .ok () := by
    cases c <;> exact fun _ => rfl
  rw [Model.parse, Shape.read, Shape.fill_of_reread given (reread_fields k x)]
  simp only [unchecked, Except.map]

/-- The row of an item is read as the item with its stamps at universal time. -/
theorem ofRow_toRow (x : c.Item) : c.ofRow (c.toRow x) = .ok (Entity.recalled x) := by
  simp only [ofRow, parse_of_kept .inDatabase (c.lookup_toRow x), versionOf_toRow,
    Entity.setHeader_setHeader, Entity.header_setHeader, Entity.recalled]
  rfl

/-- The rows of items are read as the items, one by one. -/
theorem ofRows_map_toRow (items : List c.Item) :
    c.ofRows (items.map c.toRow) = .ok (items.map Entity.recalled) := by
  induction items with
  | nil => rfl
  | cons x xs ih =>
    rw [List.map_cons, ofRows, ofRow_toRow, ih]
    rfl

end Collection

/-! ## Items that come back as they were -/

/-- A stamp is given back as it is exactly if it is universal. -/
theorem Stamp.recalled_eq_iff {s : Stamp} : s.recalled = s ↔ s.offset = 0 := by
  cases s
  simp [Stamp.recalled, Stamp.utc, eq_comm]

/-- An entity comes back as it was exactly if its stamps are universal time. -/
theorem Entity.recalled_eq_iff {σ : Type} [Entity σ] {x : σ} : Entity.recalled x = x ↔
    (∀ s ∈ (Entity.header x).createdAt, s.offset = 0) ∧
      ∀ s ∈ (Entity.header x).updatedAt, s.offset = 0 := by
  have flat (stamp : Option Stamp) :
      stamp.map Stamp.recalled = stamp ↔ ∀ s ∈ stamp, s.offset = 0 := by
    cases stamp <;> simp [Stamp.recalled_eq_iff]
  rw [← flat, ← flat]
  refine ⟨fun same => ?_, fun ⟨created, changed⟩ => ?_⟩
  · have headers := congrArg Entity.header same
    rw [Entity.recalled, Entity.header_setHeader] at headers
    exact ⟨congrArg Header.createdAt headers, congrArg Header.updatedAt headers⟩
  · rw [Entity.recalled]
    simp only [created, changed]
    exact Entity.setHeader_header x

end SchoolRegistry
