import Mathlib.Data.List.Nodup
import SchoolRegistry.Store.Memory

/-!
# The store in memory

A shelf is a list of items under their identifiers. `Memory.Keyed` is what makes it a look-up
table: every item has an identifier, and no two have the same one. Storing and removing keep it.
`Memory.Reachable` is a store that requests lead to from an empty one. Two facts hold of every
such store, on its shelves and in what its savepoints remember: shelves are keyed
(`Reachable.keyed`), and every item carries a stamp that the clock has shown already
(`Reachable.stamped`).

`answer_cases` says once what a request does to a shelf, and every fact about shelves follows
from it.
-/

namespace SchoolRegistry

namespace Shelving

variable {ι : Type} [DecidableEq ι] {Item : ι → Type} {c : ι}

@[simp] theorem put_same {items : List (Item c)} {s : Shelving Item} : put c items s c = items := by
  simp [put]

@[simp] theorem put_other {c' : ι} {items : List (Item c)} {s : Shelving Item} (h : c' ≠ c) :
    put c items s c' = s c' := by simp [put, h]

/-- Putting a shelf back where it is changes nothing. -/
theorem put_self (s : Shelving Item) : put c (s c) s = s := by
  funext c'
  by_cases h : c' = c
  · subst h; simp
  · simp [h]

end Shelving

namespace Memory

/-! ## Storing and removing on a shelf -/

section Shelf

variable {σ κ : Type} [Entity σ] {id : String} {item x : σ} {items : List σ}

theorem hasId_iff : hasId id x = true ↔ Entity.id x = some id := by simp [hasId]

/-- What is on a shelf after an item was stored is this item or was there before. -/
theorem mem_store (h : x ∈ store id item items) : x = item ∨ x ∈ items := by
  induction items with
  | nil => exact .inl (List.mem_singleton.mp h)
  | cons y ys ih =>
    unfold store at h
    split at h
    · rcases List.mem_cons.mp h with rfl | h
      · exact .inl rfl
      · exact .inr (List.mem_cons_of_mem _ h)
    · rcases List.mem_cons.mp h with rfl | h
      · exact .inr List.mem_cons_self
      · exact (ih h).imp_right (List.mem_cons_of_mem _)

/-- An item that was stored is there. -/
theorem mem_store_self : item ∈ store id item items := by
  induction items with
  | nil => exact List.mem_singleton_self _
  | cons y ys ih =>
    unfold store
    split
    · exact List.mem_cons_self
    · exact List.mem_cons_of_mem _ ih

/-- An item with a new identifier comes last. -/
theorem store_of_new (h : ∀ y ∈ items, Entity.id y ≠ some id) :
    store id item items = items ++ [item] := by
  induction items with
  | nil => rfl
  | cons y ys ih =>
    have other : hasId id y = false := by
      simpa [hasId] using h y List.mem_cons_self
    simp [store, other, ih fun z hz => h z (List.mem_cons_of_mem _ hz)]

/-- Among the items of a kind that the stored one is not of, nothing is added or moved. -/
theorem filter_store_sublist {q : σ → Bool} (h : q item = false) :
    ((store id item items).filter q).Sublist (items.filter q) := by
  induction items with
  | nil => simp [store, h]
  | cons y ys ih =>
    unfold store
    split
    · rw [List.filter_cons_of_neg (by simp [h])]
      exact (List.sublist_cons_self y ys).filter q
    · by_cases hy : q y = true
      · rw [List.filter_cons_of_pos hy, List.filter_cons_of_pos hy]
        exact ih.cons_cons y
      · rw [List.filter_cons_of_neg hy, List.filter_cons_of_neg hy]
        exact ih

/-- Storing an item that is apart from all others leaves the items apart. -/
theorem pairwise_store {R : σ → σ → Prop} (apart : items.Pairwise R)
    (new : ∀ y ∈ items, R item y ∧ R y item) : (store id item items).Pairwise R := by
  induction items with
  | nil => exact List.pairwise_singleton R item
  | cons y ys ih =>
    obtain ⟨first, rest⟩ := List.pairwise_cons.mp apart
    have later : ∀ z ∈ ys, R item z ∧ R z item := fun z hz => new z (List.mem_cons_of_mem _ hz)
    unfold store
    split
    · exact List.pairwise_cons.mpr ⟨fun z hz => (later z hz).1, rest⟩
    · refine List.pairwise_cons.mpr ⟨fun z hz => ?_, ih rest later⟩
      rcases mem_store hz with rfl | hz
      · exact (new y List.mem_cons_self).2
      · exact first z hz

/-- Storing an item with a new value of an attribute leaves no value of it twice. -/
theorem nodup_map_store {f : σ → κ} (distinct : (items.map f).Nodup)
    (fresh : f item ∉ items.map f) : ((store id item items).map f).Nodup := by
  refine List.pairwise_map.mpr (pairwise_store (List.pairwise_map.mp distinct) fun y hy => ?_)
  have other : f item ≠ f y := fun same => fresh (same ▸ List.mem_map_of_mem hy)
  exact ⟨other, other.symm⟩

/-- An item stored under its identifier is found by it. -/
theorem find?_store (its : Entity.id item = some id) :
    find? id (store id item items) = some item := by
  have has : hasId id item = true := hasId_iff.mpr its
  induction items with
  | nil => simp [store, find?, has]
  | cons x xs ih =>
    unfold store
    split
    · simp [find?, has]
    · next other =>
      rw [find?, List.find?_cons_of_neg other]
      exact ih

/-- Storing an item under its identifier leaves the other items and their order alone. -/
theorem remove_store (its : Entity.id item = some id) :
    remove id (store id item items) = remove id items := by
  have has : (!hasId id item) = false := by simpa using hasId_iff.mpr its
  induction items with
  | nil => simp [store, remove, has]
  | cons x xs ih =>
    unfold store remove
    split
    · next same => simp [has, same]
    · next other =>
      rw [List.filter_cons_of_pos (by simpa using other),
        List.filter_cons_of_pos (by simpa using other)]
      exact congrArg (x :: ·) ih

/-- Storing an item in the place of another one does not make the list longer. -/
theorem length_store_of_mem (hx : x ∈ items) (its : Entity.id x = some id) :
    (store id item items).length = items.length := by
  induction items with
  | nil => exact absurd hx List.not_mem_nil
  | cons y ys ih =>
    unfold store
    split
    · rfl
    · next other =>
      rcases List.mem_cons.mp hx with rfl | hx
      · exact absurd (hasId_iff.mpr its) other
      · exact congrArg (· + 1) (ih hx)

theorem remove_sublist : (remove id items).Sublist items := List.filter_sublist

/-- What is left after a removal is what has another identifier. -/
theorem mem_remove : x ∈ remove id items ↔ x ∈ items ∧ Entity.id x ≠ some id := by
  simp [remove, hasId]

/-- Removing what is not there changes nothing. -/
theorem remove_of_find?_none (h : find? id items = none) : remove id items = items :=
  List.filter_eq_self.mpr fun y hy => by simpa using List.find?_eq_none.mp h y hy

end Shelf

/-! ## Keyed shelves -/

/-- Every item has an identifier, and no two items have the same one. -/
structure Keyed {σ : Type} [Entity σ] (items : List σ) : Prop where
  identified : ∀ x ∈ items, ∃ id, Entity.id x = some id
  distinct : (items.map Entity.id).Nodup

namespace Keyed

variable {σ : Type} [Entity σ] {id : String} {item : σ} {items : List σ}

theorem nil : Keyed ([] : List σ) := ⟨fun _ h => absurd h List.not_mem_nil, List.nodup_nil⟩

/-- A part of a keyed shelf is keyed. -/
theorem sublist {kept : List σ} (h : Keyed items) (sub : kept.Sublist items) : Keyed kept :=
  ⟨fun x hx => h.identified x (sub.subset hx), h.distinct.sublist (sub.map _)⟩

/-- A keyed shelf stays keyed under removals. -/
theorem remove (h : Keyed items) : Keyed (Memory.remove id items) := h.sublist remove_sublist

/-- An item stored under its own identifier takes the place of the one that had it. -/
theorem store (h : Keyed items) (hid : Entity.id item = some id) :
    Keyed (Memory.store id item items) := by
  refine ⟨fun x hx => ?_, ?_⟩
  · rcases mem_store hx with rfl | hx
    · exact ⟨id, hid⟩
    · exact h.identified x hx
  · have distinct := h.distinct
    clear h
    induction items with
    | nil => simp [Memory.store]
    | cons y ys ih =>
      have hy := List.nodup_cons.mp distinct
      unfold Memory.store
      split
      · next same =>
        have : Entity.id item = Entity.id y := hid.trans (hasId_iff.mp same).symm
        simpa [this] using distinct
      · next other =>
        refine List.nodup_cons.mpr ⟨fun hm => ?_, ih hy.2⟩
        obtain ⟨z, hz, same⟩ := List.mem_map.mp hm
        rcases mem_store hz with rfl | hz
        · exact other (hasId_iff.mpr (same.symm.trans hid))
        · exact hy.1 (same ▸ List.mem_map_of_mem hz)

/-- An identifier names one item. -/
theorem eq_of_id (h : Keyed items) {x y : σ} (hx : x ∈ items) (hy : y ∈ items)
    (same : Entity.id x = Entity.id y) : x = y := List.inj_on_of_nodup_map h.distinct hx hy same

end Keyed

/-! ## What requests do to a shelf -/

variable {supply : Supply} {m : Memory} {c : Collection}

/-- The identifier under which an item is stored: its own, or else the next one issued. -/
def idFor (supply : Supply) (c : Collection) (item : c.Item) (m : Memory) : String :=
  (Entity.id item).getD (supply.id c (m.drawn.ids c))

/-- An item as it is stored now. -/
def storedAs (supply : Supply) (c : Collection) (item : c.Item) (m : Memory) : c.Item :=
  stamped (idFor supply c item m) (supply.time m.drawn.times) item

@[simp] theorem header_storedAs {item : c.Item} :
    Entity.header (storedAs supply c item m) =
      ⟨some (idFor supply c item m),
        if (Entity.id item).isNone then some (supply.time m.drawn.times)
          else (Entity.header item).createdAt,
        some (supply.time m.drawn.times), (Entity.header item).version + 1⟩ :=
  Entity.header_setHeader _ _

/-- An item is stored under the identifier for it. -/
theorem id_storedAs {item : c.Item} :
    Entity.id (storedAs supply c item m) = some (idFor supply c item m) := by
  rw [Entity.id, header_storedAs]

/-- What saving does, clause by clause. -/
theorem save_eq (item : c.Item) :
    m.save supply c item = (storedAs supply c item m,
      { m with
        drawn := if (Entity.id item).isNone then m.drawn.drawTime.drawId c else m.drawn.drawTime
        shelves := m.shelves.put c
          (store (idFor supply c item m) (storedAs supply c item m) (m.shelves c)) }) := by
  unfold save Depot.save
  cases h : Entity.id item <;> simp [storedAs, idFor, h, DrawnFor.drawTime]

/-- A removal takes from its shelf. -/
theorem shelves_delete (m : Memory) (c : Collection) (id : String) :
    (m.delete c id).2.shelves c = remove id (m.shelves c) := by
  simp [delete, Depot.delete]

/-- A save puts the item, as it is stored, on its shelf. -/
theorem shelves_save (supply : Supply) (m : Memory) (c : Collection) (item : c.Item) :
    (m.save supply c item).2.shelves c =
      store (idFor supply c item m) (storedAs supply c item m) (m.shelves c) := by
  simp [save_eq]

/-- A save does not touch other shelves. -/
theorem shelves_save_other {c' : Collection} (h : c' ≠ c) (item : c.Item) (m : Memory) :
    (m.save supply c item).2.shelves c' = m.shelves c' := by simp [save_eq, h]

/-- A removal does not touch other shelves. -/
theorem shelves_delete_other {c' : Collection} (h : c' ≠ c) (id : String) (m : Memory) :
    (m.delete c id).2.shelves c' = m.shelves c' := by simp [delete, Depot.delete, h]

/-- A request leaves a shelf alone, stores an item on it, removes one from it, or puts back what
a savepoint remembers. -/
theorem answer_cases (supply : Supply) (r : Request) (m : Memory) (c : Collection) :
    (answer supply r m).2.shelves c = m.shelves c ∨
    (∃ item : c.Item, r = .save c item ∧ (answer supply r m).2.shelves c =
      store (idFor supply c item m) (storedAs supply c item m) (m.shelves c)) ∨
    (∃ id, r = .delete c id ∧ (answer supply r m).2.shelves c = remove id (m.shelves c)) ∨
    (r = .undoSavepoint ∧ ∃ kept ∈ m.savepoints,
      (answer supply r m).2.shelves c = kept c) := by
  cases r with
  | save c' item =>
    by_cases h : c = c'
    · subst h; exact .inr (.inl ⟨item, rfl, by simp [answer, save_eq]⟩)
    · exact .inl (by simp [answer, save_eq, h])
  | delete c' id =>
    by_cases h : c = c'
    · subst h; exact .inr (.inr (.inl ⟨id, rfl, by simp [answer, Depot.delete]⟩))
    · exact .inl (by simp [answer, Depot.delete, h])
  | list c' ids => cases ids <;> exact .inl rfl
  | undoSavepoint =>
    cases h : m.savepoints with
    | nil => exact .inl (by simp [answer, undo, Depot.undo, h])
    | cons kept rest =>
      by_cases hc : m.enlisted.contains c = true
      · exact .inr (.inr (.inr ⟨rfl, kept, by simp,
          by simp only [answer, undo, Depot.undo, h, Shelving.restore, if_pos hc]⟩))
      · exact .inl (by simp only [answer, undo, Depot.undo, h, Shelving.restore, if_neg hc])
  | _ => exact .inl rfl

/-- What a savepoint remembers after a request it remembered before, or it is the shelves. -/
theorem mem_savepoints_answer {r : Request} {kept : Shelves}
    (h : kept ∈ (answer supply r m).2.savepoints) : kept ∈ m.savepoints ∨ kept = m.shelves := by
  cases r with
  | save c item => exact .inl (by simpa [answer, save_eq] using h)
  | list c ids => cases ids <;> exact .inl h
  | setSavepoint => exact (List.mem_cons.mp h).symm
  | keepSavepoint => exact .inl (List.mem_of_mem_tail h)
  | undoSavepoint =>
    revert h
    cases hs : m.savepoints with
    | nil => simp [answer, undo, Depot.undo, hs]
    | cons first rest =>
      exact fun h => .inl (by simp [answer, undo, Depot.undo, hs] at h ⊢; exact .inr h)
  | _ => exact .inl h

/-- The clock never goes back. -/
theorem times_le_answer (r : Request) : m.drawn.times ≤ (answer supply r m).2.drawn.times := by
  cases r with
  | save c item =>
    simp only [answer, save_eq]
    split <;> simp [DrawnFor.drawId, DrawnFor.drawTime]
  | list c ids => cases ids <;> exact Nat.le_refl _
  | undoSavepoint => cases hs : m.savepoints <;> simp [answer, undo, Depot.undo, hs]
  | _ => exact Nat.le_refl _

/-- A save reads the clock. -/
theorem times_save (item : c.Item) :
    (answer supply (.save c item) m).2.drawn.times = m.drawn.times + 1 := by
  simp only [answer, save_eq]
  split <;> simp [DrawnFor.drawId, DrawnFor.drawTime]

/-! ## Stores that requests lead to -/

/-- A store that requests lead to from an empty one. -/
inductive Reachable (supply : Supply) : Memory → Prop where
  | empty (enlisted : List Collection) : Reachable supply (Memory.empty enlisted)
  | answer {m : Memory} (r : Request) :
    Reachable supply m → Reachable supply (Memory.answer supply r m).2

/-- Every item carries a stamp among those that the clock showed in its first readings. -/
def Stamped {σ : Type} [Entity σ] (supply : Supply) (readings : Nat) (items : List σ) : Prop :=
  ∀ x ∈ items, ∃ n < readings, (Entity.header x).updatedAt = some (supply.time n)

/-- What holds of every shelf of a reachable store, also of the shelves that its savepoints
remember. -/
structure Sound (supply : Supply) (readings : Nat) (s : Shelves) : Prop where
  keyed : ∀ c, Keyed (s c)
  stamped : ∀ c, Stamped supply readings (s c)

theorem Sound.later {n k : Nat} {s : Shelves} (h : Sound supply n s) (le : n ≤ k) :
    Sound supply k s :=
  ⟨h.keyed, fun c x hx => (h.stamped c x hx).imp fun _ hn => ⟨Nat.lt_of_lt_of_le hn.1 le, hn.2⟩⟩

/-- Requests keep shelves sound. -/
theorem sound_answer (r : Request) (now : Sound supply m.drawn.times m.shelves)
    (saved : r = .undoSavepoint → ∀ kept ∈ m.savepoints, Sound supply m.drawn.times kept) :
    Sound supply (answer supply r m).2.drawn.times (answer supply r m).2.shelves := by
  have le : m.drawn.times ≤ (answer supply r m).2.drawn.times := times_le_answer r
  refine ⟨fun c => ?_, fun c => ?_⟩ <;>
    rcases answer_cases supply r m c with same | ⟨item, rfl, stored⟩ | ⟨id, rfl, removed⟩ |
      ⟨undo, kept, hkept, undone⟩
  · exact same ▸ now.keyed c
  · exact stored ▸ (now.keyed c).store id_storedAs
  · exact removed ▸ (now.keyed c).remove
  · exact undone ▸ (saved undo kept hkept).keyed c
  · exact same ▸ (now.later le).stamped c
  · rw [stored, times_save]
    intro x hx
    rcases mem_store hx with rfl | hx
    · exact ⟨m.drawn.times, Nat.lt_succ_self _, by rw [header_storedAs]⟩
    · exact (now.later (Nat.le_succ _)).stamped c x hx
  · rw [removed]
    exact fun x hx => (now.later le).stamped c x (mem_remove.mp hx).1
  · exact undone ▸ ((saved undo kept hkept).later le).stamped c

namespace Reachable

/-- The shelves of a reachable store are sound, and so are those that its savepoints remember. -/
theorem sound (h : Reachable supply m) :
    Sound supply m.drawn.times m.shelves ∧
      ∀ kept ∈ m.savepoints, Sound supply m.drawn.times kept := by
  induction h with
  | empty enlisted =>
    exact ⟨⟨fun _ => .nil, fun _ _ h => absurd h List.not_mem_nil⟩,
      fun _ h => absurd h List.not_mem_nil⟩
  | @answer m r _ ih =>
    refine ⟨sound_answer r ih.1 fun _ => ih.2, fun kept hkept => ?_⟩
    have le : m.drawn.times ≤ (Memory.answer supply r m).2.drawn.times := times_le_answer r
    rcases mem_savepoints_answer hkept with hkept | rfl
    · exact (ih.2 kept hkept).later le
    · exact ih.1.later le

/-- In a reachable store every item is kept under its own identifier. -/
theorem keyed (h : Reachable supply m) (c : Collection) : Keyed (m.shelves c) :=
  h.sound.1.keyed c

/-- In a reachable store every item carries a stamp that the clock has shown. -/
theorem stamped (h : Reachable supply m) (c : Collection) :
    Stamped supply m.drawn.times (m.shelves c) := h.sound.1.stamped c

end Reachable

end Memory

end SchoolRegistry
