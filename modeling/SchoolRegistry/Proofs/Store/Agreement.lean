import SchoolRegistry.Proofs.Store.Mirror

/-!
# When the two stores agree on what is saved

Both stores are run on the same requests, from empty and with the same identifiers and times. They
agree on a save if they answer it alike and then every item that can be got is alike
(`SaveAgrees`). They do not agree on all saves: memory keeps the time of creation that an item
brings with an identifier, even if there is none, and takes it over for an item that is stored
already, while the database creates what it does not know now and never changes the time of what
it knows (`saves_disagree_of_brought`). Nor does memory know of unique values, of identifiers that
are empty, and of columns that drop the offset of a stamp.

`saves_agree_iff` says exactly when they agree, for every run: each item that is saved is
`Agreeable` at its time. The replies to all other requests on single items are the same then, and
every saved item has its identifier and both stamps. In which order items are listed is not
settled here.
-/

namespace SchoolRegistry

/-- Requests on items: no queries and no savepoints. -/
def Request.isBasic : Request → Bool
  | get .. | save .. | delete .. | list .. => true
  | query .. | setSavepoint | keepSavepoint | undoSavepoint => false

/-- An item that both stores save alike and give back alike: it is one to be saved alike, and the
time of creation that it brings, if any, is universal. -/
structure Agreeable (supply : Supply) (m : Memory) (c : Collection) (item : c.Item) : Prop where
  alike : SavedAlike supply m c item
  universal : ∀ stamp ∈ (Entity.header item).createdAt, stamp.offset = 0

/-- The stores answer a save alike, and then they answer alike whatever item is asked for. -/
structure SaveAgrees (supply : Supply) (m : Memory) (db : Database) (c : Collection)
    (item : c.Item) : Prop where
  saved : (Database.answer supply (.save c item) db).1 = (Memory.answer supply (.save c item) m).1
  got : ∀ id, (Database.answer supply (.get c id) (Database.answer supply (.save c item) db).2).1 =
    (Memory.answer supply (.get c id) (Memory.answer supply (.save c item) m).2).1

/-- Along the requests the stores agree on every save. -/
def SavesAgree (supply : Supply) : List Request → Memory → Database → Prop
  | [], _, _ => True
  | r :: rs, m, db => (∀ c item, r = .save c item → SaveAgrees supply m db c item) ∧
    SavesAgree supply rs (Memory.answer supply r m).2 (Database.answer supply r db).2

/-- Along the requests every item that is saved is agreeable. -/
def AllAgreeable (supply : Supply) : List Request → Memory → Prop
  | [], _ => True
  | r :: rs, m => (∀ c item, r = .save c item → Agreeable supply m c item) ∧
    AllAgreeable supply rs (Memory.answer supply r m).2

/-- Along the requests the stores give the same answers, lists apart, and what they save has its
identifier and both stamps. -/
def AnswersAgree (supply : Supply) : List Request → Memory → Database → Prop
  | [], _, _ => True
  | r :: rs, m, db =>
    ((∀ c ids, r ≠ .list c ids) →
      (Database.answer supply r db).1 = (Memory.answer supply r m).1) ∧
    (∀ c item, r = .save c item →
      ∃ x, (Memory.answer supply (.save c item) m).1 = .ok x ∧ Entity.Settled x) ∧
    AnswersAgree supply rs (Memory.answer supply r m).2 (Database.answer supply r db).2

/-! ## Stamps -/

/-- A settled entity is recalled as it is. -/
theorem Entity.Settled.recalled_eq {σ : Type} [Entity σ] {x : σ} (h : Entity.Settled x) :
    Entity.recalled x = x := by
  obtain ⟨-, ⟨created, hcreated⟩, changed, hchanged⟩ := h
  refine Entity.recalled_eq_iff.mpr ⟨?_, ?_⟩
  · rw [hcreated]
    rintro s ⟨⟩
    rfl
  · rw [hchanged]
    rintro s ⟨⟩
    rfl

theorem Stamp.eq_utc {s : Stamp} (h : s.offset = 0) : s = .utc s.wall := by
  cases s
  cases h
  rfl

variable {supply : Supply} {m : Memory} {db : Database} {c : Collection} {item : c.Item}

/-! ## One save -/

/-- What is stored has an identifier that is not empty and a time of creation, if the stores save
it alike. -/
theorem SavedAlike.identified (h : SavedAlike supply m c item) (proper : supply.Proper)
    (settled : m.Settled) : Memory.idFor supply c item m ≠ "" ∧
      ∃ stamp, (Entity.header (Memory.storedAs supply c item m)).createdAt = some stamp := by
  rw [Memory.header_storedAs, Memory.idFor]
  cases h with
  | new unsaved =>
    rw [unsaved]
    exact ⟨proper.named c _, _, rfl⟩
  | @known id x given there known created =>
    obtain ⟨id', same, named⟩ := (settled c x there).identified
    obtain rfl := Option.some.inj (known.symm.trans same)
    obtain ⟨wall, hwall⟩ := (settled c x there).created
    rw [given]
    exact ⟨named, _, created.trans hwall⟩
  | brought given named created =>
    rw [given]
    exact ⟨named, _, created⟩

/-- A stored item was created at universal time exactly if the time that it brought, if any, was
universal. -/
theorem SavedAlike.universal_iff (h : SavedAlike supply m c item) (proper : supply.Proper) :
    (∀ s ∈ (Entity.header (Memory.storedAs supply c item m)).createdAt, s.offset = 0) ↔
      ∀ s ∈ (Entity.header item).createdAt, s.offset = 0 := by
  rw [Memory.header_storedAs]
  obtain ⟨wall, now⟩ := proper.universal m.drawn.times
  have universal : (supply.time m.drawn.times).offset = 0 := by rw [now]; rfl
  cases h with
  | new unsaved created =>
    rcases created with created | created <;> simp [unsaved, created, universal]
  | known given => simp [given]
  | brought given => simp [given]

/-- An agreeable item is stored as a settled one. -/
theorem Agreeable.settled (h : Agreeable supply m c item) (proper : supply.Proper)
    (settled : m.Settled) : Entity.Settled (Memory.storedAs supply c item m) := by
  obtain ⟨named, stamp, created⟩ := h.alike.identified proper settled
  obtain ⟨wall, now⟩ := proper.universal m.drawn.times
  refine ⟨⟨_, Memory.id_storedAs, named⟩, ⟨stamp.wall, ?_⟩, wall, ?_⟩
  · have universal := (h.alike.universal_iff proper).mpr h.universal stamp created
    rw [created, ← Stamp.eq_utc universal]
  · rw [Memory.header_storedAs, now]

/-- All items are settled after an agreeable one was saved. -/
theorem Memory.Settled.save (settled : m.Settled) (proper : supply.Proper)
    (agreeable : Agreeable supply m c item) :
    (Memory.answer supply (.save c item) m).2.Settled := by
  intro c' x hx
  rcases Memory.answer_cases supply (.save c item) m c' with same | ⟨saved, hr, stored⟩ |
    ⟨id, hr, -⟩ | ⟨hr, -⟩
  · exact settled c' x (same ▸ hx)
  · cases hr
    rcases Memory.mem_store (stored ▸ hx) with rfl | hx
    · exact agreeable.settled proper settled
    · exact settled c x hx
  · cases hr
  · cases hr

theorem Memory.Settled.delete (settled : m.Settled) (id : String) :
    (Memory.answer supply (.delete c id) m).2.Settled := by
  intro c' x hx
  rcases Memory.answer_cases supply (.delete c id) m c' with same | ⟨saved, hr, -⟩ |
    ⟨id', hr, removed⟩ | ⟨hr, -⟩
  · exact settled c' x (same ▸ hx)
  · cases hr
  · cases hr
    exact settled c x (Memory.mem_remove.mp (removed ▸ hx)).1
  · cases hr

namespace Mirrors

/-- Listing changes neither store. -/
theorem list (h : Mirrors m db) (c : Collection) (ids : Option (List String)) :
    Mirrors (Memory.answer supply (.list c ids) m).2
      (Database.answer supply (.list c ids) db).2 := by
  rw [Database.answer, h.inSession_prepared]
  cases ids <;> exact h

/-- Mirrored stores agree on a save exactly if the item is agreeable. -/
theorem saveAgrees_iff (h : Mirrors m db) (settled : m.Settled) (proper : supply.Proper)
    (item : c.Item) :
    SaveAgrees supply m db c item ↔ Agreeable supply m c item := by
  obtain ⟨alike, mirrors⟩ := h.save settled (proper.named c) item
  refine ⟨fun ⟨saved, got⟩ => ?_, fun agreeable => ?_⟩
  · have savedAlike := alike.mp saved
    refine ⟨savedAlike, (savedAlike.universal_iff proper).mp ?_⟩
    -- The item that was stored is got as it is.
    have after := mirrors saved
    have there : Memory.storedAs supply c item m ∈
        (Memory.answer supply (.save c item) m).2.shelves c := by
      simp only [Memory.answer, Memory.shelves_save]
      exact Memory.mem_store_self
    have found := (after.keyed c).find?_eq there Memory.id_storedAs
    have same := got (Memory.idFor supply c item m)
    rw [after.get, found] at same
    simp only [Memory.answer] at same found
    rw [found] at same
    have recalled : Entity.recalled (Memory.storedAs supply c item m) = _ :=
      Option.some.inj (Except.ok.inj same)
    exact (Entity.recalled_eq_iff.mp recalled).1
  · have saved := alike.mpr agreeable.alike
    refine ⟨saved, fun id => ?_⟩
    rw [(mirrors saved).get_alike fun x hx => (settled.save proper agreeable c x hx).recalled_eq]

end Mirrors

/-! ## Runs -/

/-- Mirrored stores of settled items agree on all saves of a run exactly if it saves agreeable
items only, and then the rest of their answers agree as well. -/
theorem Mirrors.savesAgree_iff (proper : supply.Proper) (rs : List Request)
    (basic : ∀ r ∈ rs, r.isBasic = true) (h : Mirrors m db) (settled : m.Settled) :
    (SavesAgree supply rs m db ↔ AllAgreeable supply rs m) ∧
      (AllAgreeable supply rs m → AnswersAgree supply rs m db) := by
  induction rs generalizing m db with
  | nil => exact ⟨Iff.rfl, id⟩
  | cons r rs ih =>
    have others : ∀ r ∈ rs, r.isBasic = true := fun r hr => basic r (List.mem_cons_of_mem _ hr)
    simp only [SavesAgree, AllAgreeable, AnswersAgree]
    cases r with
    | get c id =>
      have answered := h.get_alike (fun x hx => (settled c x hx).recalled_eq) supply id
      have unchanged : (Memory.answer supply (.get c id) m).2 = m := rfl
      obtain ⟨agree, answers⟩ := ih others h settled
      rw [answered, unchanged]
      exact ⟨and_congr (by simp) agree, fun all => ⟨fun _ => rfl, by simp, answers all.2⟩⟩
    | save c item =>
      -- Only a save can part the stores; if it does not, the rest goes on from mirrored ones.
      have here := h.saveAgrees_iff settled proper item
      have after (agreeable : Agreeable supply m c item) :=
        ih others ((h.save settled (proper.named c) item).2 (here.mpr agreeable).saved)
          (settled.save proper agreeable)
      refine ⟨⟨fun ⟨saved, rest⟩ => ?_, fun ⟨saved, rest⟩ => ?_⟩, fun ⟨saved, rest⟩ => ?_⟩
      · have agreeable := here.mp (saved c item rfl)
        exact ⟨fun c' item' same => by cases same; exact agreeable, (after agreeable).1.mp rest⟩
      · have agreeable := saved c item rfl
        exact ⟨fun c' item' same => by cases same; exact here.mpr agreeable,
          (after agreeable).1.mpr rest⟩
      · have agreeable := saved c item rfl
        refine ⟨fun _ => (here.mpr agreeable).saved, fun c' item' same => ?_,
          (after agreeable).2 rest⟩
        cases same
        exact ⟨_, Mirrors.reply_save item, agreeable.settled proper settled⟩
    | delete c id =>
      obtain ⟨same, after⟩ := h.delete supply c id
      obtain ⟨agree, answers⟩ := ih others after (settled.delete id)
      exact ⟨and_congr (by simp) agree, fun all => ⟨fun _ => same, by simp, answers all.2⟩⟩
    | list c ids =>
      have unchanged : (Memory.answer supply (.list c ids) m).2.Settled := by
        cases ids <;> exact settled
      obtain ⟨agree, answers⟩ := ih others (h.list c ids) unchanged
      exact ⟨and_congr (by simp) agree,
        fun all => ⟨fun unlisted => absurd rfl (unlisted c ids), by simp, answers all.2⟩⟩
    | query | setSavepoint | keepSavepoint | undoSavepoint =>
      cases basic _ List.mem_cons_self

theorem Supply.proper_counting (wall : Wall) : (Supply.counting (.utc wall)).Proper where
  universal n := later_utc wall n
  named c n := by
    cases c <;> simp [counting, Collection.idStart]

/-- The two stores, run from empty on the same requests with the same identifiers and times, agree
on all saves exactly if every item that is saved is agreeable. Then they answer all requests on
single items alike, and what they save has its identifier and both stamps. -/
theorem saves_agree_iff (proper : supply.Proper) (enlisted : List Collection)
    (source : SessionSource) (rs : List Request) (basic : ∀ r ∈ rs, r.isBasic = true) :
    let m := Memory.empty enlisted
    let db := (Database.engine supply).enter (Database.empty source)
    (SavesAgree supply rs m db ↔ AllAgreeable supply rs m) ∧
      (AllAgreeable supply rs m → AnswersAgree supply rs m db) :=
  (mirrors_empty supply enlisted source).savesAgree_iff proper rs basic
    (Memory.settled_empty enlisted)

/-- A person is saved, changed and removed, and a role is saved that brings its own identifier and
time of creation. -/
theorem saves_agree_role_brought :
    let start := Supply.usualStart
    let supply := Supply.counting start
    let person : Person := { Person.blank with familyName := some "Meier" }
    let changed : Person :=
      { person with id := some "person-1", createdAt := some (supply.time 0) }
    let role : Role := { Role.blank with id := some "r", createdAt := some start }
    let rs : List Request := [.save .persons person, .save .persons changed, .save .roles role,
      .get .persons "person-1", .delete .persons "person-1"]
    let m := Memory.empty []
    let db := (Database.engine supply).enter (Database.empty .caller)
    supply.Proper ∧ (∀ r ∈ rs, r.isBasic = true) ∧ SavesAgree supply rs m db ∧
      AnswersAgree supply rs m db := by
  intro start supply person changed role rs m db
  have proper : supply.Proper := Supply.proper_counting _
  have basic : ∀ r ∈ rs, r.isBasic = true := by simp [rs, Request.isBasic]
  have agreeable : AllAgreeable supply rs m := by
    refine ⟨?_, ?_, ?_, by simp, by simp, trivial⟩
    · rintro _ _ ⟨⟩
      exact ⟨.new rfl (.inl rfl) fun _ h => absurd h List.not_mem_nil, nofun⟩
    · rintro _ _ ⟨⟩
      have first : supply.id .persons 0 = "person-1" := by decide
      have universal : ∀ s ∈ some (supply.time 0), s.offset = 0 := by
        obtain ⟨wall, now⟩ := proper.universal 0
        rintro s ⟨⟩
        rw [now]
        rfl
      refine ⟨.known rfl (List.mem_singleton_self _) (congrArg some first) rfl ?_, universal⟩
      rintro y hy other
      rw [List.mem_singleton.mp hy] at other
      exact absurd (congrArg some first) other
    · rintro _ _ ⟨⟩
      exact ⟨.brought rfl (by decide) rfl fun _ h => absurd h List.not_mem_nil,
        by rintro s ⟨⟩; rfl⟩
  have agree := saves_agree_iff proper [] .caller rs basic
  exact ⟨proper, basic, agree.1.mpr agreeable, agree.2 agreeable⟩

/-- A person that brings an identifier and no time of creation is stored by the database as created
now and kept by memory without that time. -/
theorem saves_disagree_of_brought :
    let supply := Supply.counting Supply.usualStart
    let person : Person := { Person.blank with id := some "p-1" }
    let m := Memory.empty []
    let db := (Database.engine supply).enter (Database.empty .caller)
    ¬SavesAgree supply [.save .persons person] m db ∧
      ∃ x, (Memory.answer supply (.save .persons person) m).1 = .ok x ∧ x.createdAt = none := by
  intro supply person m db
  refine ⟨fun ⟨saved, _⟩ => ?_, _, rfl, rfl⟩
  have created : (Database.answer supply (.save .persons person) db).1.map
      (fun x : Person => x.createdAt) = .ok (some (supply.time 0)) := rfl
  rw [(saved .persons person rfl).saved] at created
  cases created

end SchoolRegistry
