import SchoolRegistry.Proofs.Store.Database

/-!
# Stored versions

A store counts the version up from the copy that it is given, not from what it has
(`Handler.Counts`). So the stored version grows with every save exactly if no save is given a copy
that is older than what is stored (`versions_grow_iff`). Nothing refuses an old copy: it takes the
place of a newer item, and the stored version goes back (`stored_version_goes_back`).

A save that fails does not count here, and neither does a save under an identifier that is free.
-/

namespace SchoolRegistry

namespace Handler

variable {σ : Type} (h : Handler σ) (c : Collection)

/-- The version that is stored under an identifier. -/
def storedVersion? (id : String) (s : σ) : Option Nat :=
  match (h.answer (.get c id) s).1 with
  | .ok (some x) => some (Entity.version x)
  | _ => none

/-- A save of the item is answered with an item under the identifier. -/
def SavedUnder (item : c.Item) (s : σ) (id : String) : Prop :=
  ∃ x, (h.answer (.save c item) s).1 = .ok x ∧ Entity.id x = some id

/-- Along the saves, each that hits a stored identifier raises the stored version. -/
def VersionsGrow : List c.Item → σ → Prop
  | [], _ => True
  | item :: rest, s =>
    (∀ id version, h.SavedUnder c item s id → h.storedVersion? c id s = some version →
      ∃ later, h.storedVersion? c id (h.answer (.save c item) s).2 = some later ∧
        version < later) ∧
    VersionsGrow rest (h.answer (.save c item) s).2

/-- Along the saves, each that hits a stored identifier is given a copy that is not older. -/
def NoneStale : List c.Item → σ → Prop
  | [], _ => True
  | item :: rest, s =>
    (∀ id version, h.SavedUnder c item s id → h.storedVersion? c id s = some version →
      version ≤ Entity.version item) ∧
    NoneStale rest (h.answer (.save c item) s).2

/-- After a save, the stored version is the one after the version of the given copy. -/
def Counts : Prop := ∀ item s id, h.SavedUnder c item s id →
  h.storedVersion? c id (h.answer (.save c item) s).2 = some (Entity.version item + 1)

variable {h c}

/-- Where saves count on from the copy, versions grow exactly if no copy is stale. -/
theorem Counts.versionsGrow_iff (counts : h.Counts c) (items : List c.Item) (s : σ) :
    h.VersionsGrow c items s ↔ h.NoneStale c items s := by
  induction items generalizing s with
  | nil => exact Iff.rfl
  | cons item rest ih =>
    rw [VersionsGrow, NoneStale, ih]
    refine and_congr_left fun _ => ?_
    refine forall₄_congr fun id version saved _ => ?_
    rw [counts item s id saved]
    constructor
    · rintro ⟨_, ⟨⟩, raised⟩
      omega
    · intro current
      exact ⟨_, rfl, by omega⟩

/-- A copy that is saved right after one that is not older does not raise the stored version. -/
theorem Counts.not_versionsGrow (counts : h.Counts c) (id : String) {item stale : c.Item}
    {rest : List c.Item} {s : σ} (saved : h.SavedUnder c item s id)
    (again : h.SavedUnder c stale (h.answer (.save c item) s).2 id)
    (older : Entity.version stale ≤ Entity.version item) :
    ¬h.VersionsGrow c (item :: stale :: rest) s := by
  rintro ⟨-, grows, -⟩
  obtain ⟨later, after, raised⟩ := grows id _ again (counts item s id saved)
  rw [counts stale _ id again] at after
  cases after
  omega

end Handler

/-- The store in memory counts on from the copy. -/
theorem Memory.counts (supply : Supply) (c : Collection) : (Memory.handler supply).Counts c := by
  rintro item m id ⟨x, answered, its⟩
  have stored : x = Memory.storedAs supply c item m :=
    (Except.ok.inj ((Mirrors.reply_save item).symm.trans answered)).symm
  have shelf : (Memory.answer supply (.save c item) m).2.shelves c =
      Memory.store (Memory.idFor supply c item m) (Memory.storedAs supply c item m)
        (m.shelves c) := Memory.shelves_save supply m c item
  obtain rfl : Memory.idFor supply c item m = id := by
    rw [stored, Memory.id_storedAs] at its
    exact Option.some.inj its
  have found : (Memory.answer supply (.get c (Memory.idFor supply c item m))
      (Memory.answer supply (.save c item) m).2).1 = .ok (some x) := by
    simp only [Memory.answer] at shelf ⊢
    rw [shelf, Memory.find?_store Memory.id_storedAs, stored]
  simp only [Handler.storedVersion?, Memory.handler, found]
  rw [stored, Entity.version, Memory.header_storedAs]
  rfl

/-- A version is recalled as it is. -/
theorem Entity.version_recalled {σ : Type} [Entity σ] (x : σ) :
    Entity.version (Entity.recalled x) = Entity.version x := by
  simp only [Entity.version, Entity.recalled, Entity.header_setHeader]

/-- So does the database. -/
theorem Database.counts (supply : Supply) (c : Collection) :
    (Database.handler supply).Counts c := by
  rintro item db id ⟨x, answered, its⟩
  obtain ⟨id', saved⟩ := Database.saved_save answered
  obtain rfl : id' = id := Option.some.inj (saved.stored.id_eq.symm.trans its)
  have got := saved.get supply
  simp only [Handler.storedVersion?, Database.handler, got, Entity.version_recalled,
    saved.stored.version_eq]

/-- In both stores, from any state and for any saves in one collection, the stored version grows
with each save that hits a stored identifier exactly if each such save is given a copy that is not
older than what is stored. -/
theorem versions_grow_iff (supply : Supply) (c : Collection) (items : List c.Item) :
    (∀ m, (Memory.handler supply).VersionsGrow c items m ↔
      (Memory.handler supply).NoneStale c items m) ∧
    ∀ db, (Database.handler supply).VersionsGrow c items db ↔
      (Database.handler supply).NoneStale c items db :=
  ⟨(Memory.counts supply c).versionsGrow_iff items,
    (Database.counts supply c).versionsGrow_iff items⟩

/-- A person is saved, the answer is saved again, and then the first answer once more: both stores
take it for the newest. -/
theorem stored_version_goes_back :
    let supply := Supply.counting Supply.usualStart
    let draft : Person := { Person.blank with familyName := some "Meier" }
    let m := Memory.empty []
    let db := (Database.engine supply).enter (Database.empty .caller)
    (∃ first second : Person, (Memory.answer supply (.save .persons draft) m).1 = .ok first ∧
      (Memory.answer supply (.save .persons first)
        (Memory.answer supply (.save .persons draft) m).2).1 = .ok second ∧
      ¬(Memory.handler supply).VersionsGrow .persons [draft, first, second, first] m) ∧
    ∃ first second : Person, (Database.answer supply (.save .persons draft) db).1 = .ok first ∧
      (Database.answer supply (.save .persons first)
        (Database.answer supply (.save .persons draft) db).2).1 = .ok second ∧
      ¬(Database.handler supply).VersionsGrow .persons [draft, first, second, first] db := by
  refine ⟨⟨_, _, rfl, rfl, ?_⟩, _, _, rfl, rfl, ?_⟩
  · rintro ⟨-, -, grow⟩
    refine (Memory.counts _ .persons).not_versionsGrow "person-1" ?_ ?_ (by decide) grow
    · exact ⟨_, rfl, rfl⟩
    · exact ⟨_, rfl, rfl⟩
  · rintro ⟨-, -, grow⟩
    refine (Database.counts _ .persons).not_versionsGrow "person-1" ?_ ?_ (by decide) grow
    · exact ⟨_, rfl, rfl⟩
    · exact ⟨_, rfl, rfl⟩

end SchoolRegistry
