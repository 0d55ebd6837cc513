import SchoolRegistry.Proofs.Query.Meaning
import SchoolRegistry.Proofs.Store.Mirror

/-!
# Stores that stay in step

A store in memory and a database are in step if the tables hold the rows of the items in memory,
every item comes back from its row as it was, and items stand in the order of their identifiers,
each of which the supply has issued (`InStep`). Identifiers are issued in ascending order, so a new
item comes last in memory as it does by its identifier.

`Request.Fits` says which requests both stores answer alike then, and after which they are still in
step (`InStep.answer`): items are only saved that were never saved before and that have none of the
unique values stored, and queries ask for plain fields in a narrow window. Listing all items and
undoing a savepoint are not settled here.
-/

namespace SchoolRegistry

/-- The clock shows universal time, and identifiers are issued in ascending order. -/
structure Supply.Orderly (supply : Supply) : Prop where
  universal : ∀ n, ∃ wall, supply.time n = .utc wall
  ascending : ∀ c i j, i < j → supply.id c i < supply.id c j

/-- Identifiers of which each is longer than the ones before, and a clock that advances by one
second at each reading. -/
def Supply.tallying (start : Stamp) : Supply where
  id c n := c.idStart ++ String.ofList (List.replicate (n + 1) '1')
  time := later start

theorem Supply.orderly_tallying (wall : Wall) : (Supply.tallying (.utc wall)).Orderly where
  universal n := later_utc wall n
  ascending c i j less := by
    obtain ⟨more, rfl⟩ := Nat.exists_eq_add_of_lt less
    have tally : List.replicate (i + more + 1 + 1) '1' =
        List.replicate (i + 1) '1' ++ '1' :: List.replicate more '1' := by
      rw [← List.replicate_succ, ← List.replicate_add]
      congr 1
      omega
    rw [String.lt_iff]
    simp only [tallying, String.toList_append, String.toList_ofList, tally]
    rw [← List.append_assoc]
    generalize c.idStart.toList ++ List.replicate (i + 1) '1' = shorter
    induction shorter with
    | nil => exact List.nil_lt_cons _ _
    | cons d ds ih => exact List.cons_lt_cons_iff.mpr (.inr ⟨rfl, ih⟩)

/-- The entity was never saved. -/
structure Entity.Unsaved {σ : Type} [Entity σ] (x : σ) : Prop where
  unidentified : Entity.id x = none
  created : (Entity.header x).createdAt = none
  changed : (Entity.header x).updatedAt = none

/-- A request that stores in step answer alike, and after which they are in step again. -/
def Request.Fits (m : Memory) : Request → Prop
  | get .. | delete .. | setSavepoint | keepSavepoint => True
  | save c item => Entity.Unsaved item ∧ ∀ x ∈ m.shelves c, c.clash item x = false
  | query c q => q.IsPlain c ∧ q.Narrow
  | list .. | undoSavepoint => False

/-- The stores hold the same items in the order of the identifiers that were issued to them. -/
structure InStep (supply : Supply) (m : Memory) (db : Database) : Prop where
  mirrors : Mirrors m db
  back : ∀ c, ∀ x ∈ m.shelves c, Entity.recalled x = x
  issued : ∀ c, ∀ x ∈ m.shelves c, ∃ n < m.drawn.ids c, Entity.id x = some (supply.id c n)
  ascending : ∀ c : Collection, c.Ascending (m.shelves c)

namespace InStep

variable {supply : Supply} {m : Memory} {db : Database} {c : Collection}

/-- An empty store and an empty database are in step. -/
theorem empty (supply : Supply) (enlisted : List Collection) (source : SessionSource) :
    InStep supply (Memory.empty enlisted)
      ((Database.engine supply).enter (Database.empty source)) where
  mirrors := mirrors_empty supply enlisted source
  back _ _ h := absurd h List.not_mem_nil
  issued _ _ h := absurd h List.not_mem_nil
  ascending _ := .nil

/-- An identifier that is still to be issued is behind all that are stored. -/
theorem id_lt (h : InStep supply m db) (orderly : supply.Orderly) {x : c.Item}
    (hx : x ∈ m.shelves c) :
    ∃ id, Entity.id x = some id ∧ id < supply.id c (m.drawn.ids c) := by
  obtain ⟨n, lt, hid⟩ := h.issued c x hx
  exact ⟨_, hid, orderly.ascending c n _ lt⟩

/-- A removal is answered alike and keeps both in step. -/
theorem delete (h : InStep supply m db) (c : Collection) (id : String) :
    (Database.answer supply (.delete c id) db).1 = (Memory.answer supply (.delete c id) m).1 ∧
      InStep supply (Memory.answer supply (.delete c id) m).2
        (Database.answer supply (.delete c id) db).2 := by
  obtain ⟨same, mirrors⟩ := h.mirrors.delete supply c id
  have left (c' : Collection) :
      ((Memory.answer supply (.delete c id) m).2.shelves c').Sublist (m.shelves c') := by
    rcases Memory.answer_cases supply (.delete c id) m c' with stays | ⟨_, saves, -⟩ |
      ⟨id', deletes, removed⟩ | ⟨undoes, -⟩
    · rw [stays]
    · cases saves
    · cases deletes
      rw [removed]
      exact Memory.remove_sublist
    · cases undoes
  exact ⟨same, mirrors, fun c' x hx => h.back c' x ((left c').subset hx),
    fun c' x hx => h.issued c' x ((left c').subset hx),
    fun c' => (h.ascending c').sublist (left c')⟩

/-- What holds of all items holds of them again after one of which it holds is put behind a
shelf. -/
theorem forall_mem_put_append {s : Shelves} {y : c.Item} {P : (c : Collection) → c.Item → Prop}
    (old : ∀ c', ∀ x ∈ s c', P c' x) (new : P c y) (c' : Collection) :
    ∀ x ∈ s.put c (s c ++ [y]) c', P c' x := by
  by_cases here : c' = c
  · subst here
    rw [Shelving.put_same]
    intro x hx
    rcases List.mem_append.mp hx with before | added
    · exact old c' x before
    · exact List.mem_singleton.mp added ▸ new
  · rw [Shelving.put_other here]
    exact old c'

/-- Stores stay in step if an item with the next identifier comes last on its shelf. -/
theorem append (h : InStep supply m db) (orderly : supply.Orderly) {m' : Memory} {db' : Database}
    {y : c.Item} (mirrors : Mirrors m' db')
    (shelves : m'.shelves = m.shelves.put c (m.shelves c ++ [y]))
    (drawn : m'.drawn.ids = (m.drawn.drawId c).ids)
    (named : Entity.id y = some (supply.id c (m.drawn.ids c))) (back : Entity.recalled y = y) :
    InStep supply m' db' := by
  have more (c' : Collection) : m.drawn.ids c' ≤ m'.drawn.ids c' := by
    rw [drawn]
    simp only [DrawnFor.drawId]
    split
    · next here => exact here ▸ Nat.le_succ _
    · exact Nat.le_refl _
  have drew : m.drawn.ids c < m'.drawn.ids c := by simp [drawn, DrawnFor.drawId]
  refine ⟨mirrors, ?_, ?_, fun c' => ?_⟩
  · rw [shelves]
    exact forall_mem_put_append h.back back
  · rw [shelves]
    refine forall_mem_put_append
      (P := fun c' x => ∃ n < m'.drawn.ids c', Entity.id x = some (supply.id c' n))
      (fun c' x hx => ?_) ⟨_, drew, named⟩
    obtain ⟨n, lt, hid⟩ := h.issued c' x hx
    exact ⟨n, Nat.lt_of_lt_of_le lt (more c'), hid⟩
  · rw [shelves]
    by_cases here : c' = c
    · subst here
      rw [Shelving.put_same]
      refine List.pairwise_append.mpr ⟨h.ascending c', List.pairwise_singleton _ _, ?_⟩
      intro x hx z hz
      obtain ⟨id, hid, lt⟩ := h.id_lt orderly hx
      exact ⟨id, _, hid, List.mem_singleton.mp hz ▸ named, lt⟩
    · rw [Shelving.put_other here]
      exact h.ascending c'

/-- A new item is stored under the next identifier, behind the others. -/
theorem save (h : InStep supply m db) (orderly : supply.Orderly) {item : c.Item}
    (unsaved : Entity.Unsaved item) (apart : ∀ x ∈ m.shelves c, c.clash item x = false) :
    (Database.answer supply (.save c item) db).1 = (Memory.answer supply (.save c item) m).1 ∧
      InStep supply (Memory.answer supply (.save c item) m).2
        (Database.answer supply (.save c item) db).2 := by
  have new : ∀ x ∈ m.shelves c, Entity.id x ≠ some (supply.id c (m.drawn.ids c)) := by
    intro x hx same
    obtain ⟨id, hid, lt⟩ := h.id_lt orderly hx
    rw [hid] at same
    exact absurd (Option.some.inj same) (String.ne_of_lt lt)
  have alike : SavedAlike supply m c item :=
    .new unsaved.unidentified (.inl unsaved.created) fun x hx => ⟨new x hx, apart x hx⟩
  obtain ⟨answered, mirrors⟩ := @Mirrors.save_new supply m db c h.mirrors item unsaved.unidentified
  have same := answered.mpr alike
  have named : Memory.idFor supply c item m = supply.id c (m.drawn.ids c) := by
    rw [Memory.idFor, unsaved.unidentified, Option.getD_none]
  have shelves : (Memory.answer supply (.save c item) m).2.shelves =
      m.shelves.put c (m.shelves c ++ [Memory.storedAs supply c item m]) := by
    rw [← Memory.store_of_new new, ← named]
    simp only [Memory.answer, Memory.save_eq]
  have drawn : (Memory.answer supply (.save c item) m).2.drawn.ids = (m.drawn.drawId c).ids := by
    simp only [Memory.answer, Memory.save_eq, unsaved.unidentified]
    rfl
  -- an unsaved item gets both its stamps from the clock, and those come back as they are
  have back : Entity.recalled (Memory.storedAs supply c item m) =
      Memory.storedAs supply c item m := by
    obtain ⟨wall, now⟩ := orderly.universal m.drawn.times
    rw [Entity.recalled_eq_iff, Memory.header_storedAs, unsaved.unidentified, now]
    exact ⟨by rintro s ⟨⟩; rfl, by rintro s ⟨⟩; rfl⟩
  exact ⟨same, h.append orderly (mirrors same) shelves drawn
    ((Memory.id_storedAs ..).trans (congrArg some named)) back⟩

/-- A plain query in a narrow window finds the same items in the same order. -/
theorem query (h : InStep supply m db) {q : Query} (plain : q.IsPlain c) (narrow : q.Narrow) :
    Database.answer supply (.query c q) db = ((Memory.answer supply (.query c q) m).1, db) := by
  obtain ⟨statement, page, answer, selected, compiled, evaluated, answered, total, rows, -, same⟩ :=
    plain.refined narrow (m.shelves c)
  have items : selected = page.items := same (h.ascending c)
  have found : selected.map Entity.recalled = page.items := by
    rw [items]
    conv_rhs => rw [← List.map_id page.items]
    exact List.map_congr_left fun x hx => h.back c x (Query.subset_of_evaluate evaluated hx)
  have selects : Database.select c q statement db.work.state = .ok page := by
    rw [Database.select, h.mirrors.rows, answered]
    simp only [rows, Collection.ofRows_map_toRow, found, total]
    rfl
  rw [Database.answer, compiled]
  simp only [h.mirrors.inSession_prepared, selects, Memory.answer, evaluated]
  rfl

/-- Stores in step answer a fitting request alike and stay in step. -/
theorem answer (h : InStep supply m db) (orderly : supply.Orderly) {r : Request} (fits : r.Fits m) :
    (Database.answer supply r db).1 = (Memory.answer supply r m).1 ∧
      InStep supply (Memory.answer supply r m).2 (Database.answer supply r db).2 := by
  cases r with
  | get c id =>
    rw [h.mirrors.get_alike (h.back c) supply id]
    exact ⟨rfl, h⟩
  | save c item => exact h.save orderly fits.1 fits.2
  | delete c id => exact h.delete c id
  | query c q =>
    rw [h.query fits.1 fits.2]
    exact ⟨rfl, h⟩
  | setSavepoint =>
    obtain ⟨same, mirrors⟩ := @Mirrors.setSavepoint supply m db h.mirrors
    exact ⟨same, mirrors, h.back, h.issued, h.ascending⟩
  | keepSavepoint =>
    obtain ⟨same, mirrors⟩ := @Mirrors.keepSavepoint supply m db h.mirrors
    exact ⟨same, mirrors, h.back, h.issued, h.ascending⟩
  | list | undoSavepoint => cases fits

end InStep

end SchoolRegistry
