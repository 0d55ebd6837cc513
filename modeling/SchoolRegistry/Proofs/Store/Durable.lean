import SchoolRegistry.Proofs.Store.Agreement
import SchoolRegistry.Proofs.Store.Written

/-!
# What stays of a save

What a database answers to a save and what it gives back in a later block of work are the same
item, stamps compared as instants, except for one thing: the answer tells the time of creation as
the caller gave it, while the column keeps only what the wall shows and is read as universal time.
So they differ exactly if an item that was not stored yet brings a time of creation with an offset
(`saved_is_kept_iff`); two hours east of universal time, it comes back two hours later
(`not_kept_of_offset`).

Between the save and the later block there may be any requests and any blocks, as long as all are
answered, all end cleanly and outside of savepoints, and nothing writes to the item or is undone
(`Database.Later`).
-/

namespace SchoolRegistry

/-! ## The same at another offset -/

/-- The entities are the same, their stamps compared as instants. -/
structure Entity.SameAt {σ : Type} [Entity σ] (x y : σ) : Prop where
  id : Entity.id x = Entity.id y
  version : Entity.version x = Entity.version y
  createdAt : (Entity.header x).createdAt.map Stamp.instant =
    (Entity.header y).createdAt.map Stamp.instant
  updatedAt : (Entity.header x).updatedAt.map Stamp.instant =
    (Entity.header y).updatedAt.map Stamp.instant
  rest : Entity.setHeader .blank x = Entity.setHeader .blank y

/-- A recalled stamp is the same instant exactly if the stamp is universal. -/
theorem Stamp.instant_recalled {s : Stamp} : s.instant = s.recalled.instant ↔ s.offset = 0 := by
  have recalled : s.recalled.instant = s.wall.micros := by simp [recalled, utc, instant]
  rw [recalled, instant]
  omega

/-- An entity comes back from a row as the same exactly if its stamps are universal time. -/
theorem Entity.sameAt_recalled_iff {σ : Type} [Entity σ] {x : σ} :
    Entity.SameAt x (Entity.recalled x) ↔ (∀ s ∈ (Entity.header x).createdAt, s.offset = 0) ∧
      ∀ s ∈ (Entity.header x).updatedAt, s.offset = 0 := by
  have flat (stamp : Option Stamp) : stamp.map Stamp.instant =
      (stamp.map Stamp.recalled).map Stamp.instant ↔ ∀ s ∈ stamp, s.offset = 0 := by
    cases stamp <;> simp [Stamp.instant_recalled]
  rw [← flat, ← flat]
  have header : Entity.header (Entity.recalled x) = ⟨(Entity.header x).id,
      (Entity.header x).createdAt.map Stamp.recalled,
      (Entity.header x).updatedAt.map Stamp.recalled, (Entity.header x).version⟩ :=
    Entity.header_setHeader _ _
  constructor
  · intro same
    have createdAt := same.createdAt
    have updatedAt := same.updatedAt
    rw [header] at createdAt updatedAt
    exact ⟨createdAt, updatedAt⟩
  · rintro ⟨createdAt, updatedAt⟩
    refine ⟨?_, ?_, ?_, ?_, ?_⟩
    · rw [Entity.id, Entity.id, header]
    · rw [Entity.version, Entity.version, header]
    · rwa [header]
    · rwa [header]
    · rw [Entity.recalled, Entity.setHeader_setHeader]

/-! ## From block to block -/

namespace Session

variable {s : Session} {c : Collection} {id : String} {row : Row}

/-- A commit that succeeds outside of savepoints commits what the transaction sees. -/
theorem Held.commit (held : s.Held c id row) (unnested : s.savepoints = [])
    (succeeded : s.commit.1 = true) : s.broken = false ∧
      s.commit.2 = { s with committed := s.current } := by
  unfold Session.commit at succeeded ⊢
  dsimp only at succeeded ⊢
  cases ready : s.prepare.1 with
  | false => simp [ready] at succeeded
  | true =>
    have live := (prepare_eq_true ready).1
    rw [health, unnested] at live
    constructor
    · cases broken : s.broken with
      | false => rfl
      | true => simp [broken] at live
    · simp only [if_true, held.prepare ready, endSavepoints, unnested, List.map_nil]

end Session

/-- A block ends cleanly if it was open and its session committed; then the session is closed. -/
theorem UnitOfWork.leave_ok {σ : Type} {calls : SessionCalls σ} {u : UnitOfWork σ}
    (clean : (u.leave calls false).1 = .ok ()) : u.isOpen = true ∧
      (calls.commit u.state).1 = true ∧
      (u.leave calls false).2 = (close calls { u with state := (calls.commit u.state).2 }).2 := by
  unfold leave commit at clean ⊢
  cases isOpen : u.isOpen with
  | false =>
    simp only [isOpen, Bool.false_eq_true, if_false] at clean
    split at clean <;> simp at clean
  | true =>
    cases committed : (calls.commit u.state).1 with
    | false =>
      simp only [isOpen, committed, Bool.false_eq_true, if_false, if_true] at clean
      split at clean <;> simp at clean
    | true =>
      refine ⟨rfl, rfl, ?_⟩
      simp only [committed, Bool.false_eq_true, if_false, if_true]
      split <;> rfl

/-- What the next block begins with: the session of the caller, or a new one. -/
theorem UnitOfWork.enter_close {σ : Type} {calls : SessionCalls σ} {u : UnitOfWork σ}
    (isOpen : u.isOpen = true) : enter calls (u.close calls).2 = { u with
      state := match u.source with
        | .caller => u.state
        | .opened => calls.start (calls.close u.state).2 } := by
  obtain ⟨source, _, state⟩ := u
  cases isOpen
  cases source <;> rfl

namespace Database

variable {supply : Supply} {db db' : Database} {c : Collection} {id : String} {row : Row}

/-- The database in its next block, after the one before ended without a failure. -/
def nextBlock (supply : Supply) (db : Database) : Database :=
  (engine supply).enter ((engine supply).leave false db).2

/-- A row is there in the next block if the block before ended cleanly. -/
theorem held_nextBlock (held : db.work.state.Held c id row)
    (unnested : db.work.state.savepoints = [])
    (clean : ((engine supply).leave false db).1 = .ok ()) :
    (nextBlock supply db).work.isOpen = true ∧ (nextBlock supply db).work.state.Ready ∧
      (nextBlock supply db).work.state.Held c id row := by
  have ended : (db.work.leave sessionCalls false).1 = .ok () := clean
  obtain ⟨isOpen, committed, left⟩ := UnitOfWork.leave_ok ended
  have commits : sessionCalls.commit db.work.state = db.work.state.commit := rfl
  rw [commits] at committed left
  obtain ⟨unbroken, after⟩ := held.commit unnested committed
  have next : (nextBlock supply db).work =
      UnitOfWork.enter sessionCalls (db.work.leave sessionCalls false).2 := rfl
  rw [next, left, after, UnitOfWork.enter_close (by exact isOpen)]
  refine ⟨isOpen, ?_⟩
  cases source : db.work.source with
  | caller =>
    have live : db.work.state.health = .live := by
      rw [Session.health, unnested, unbroken]
      rfl
    exact ⟨⟨live, held.waiting⟩, held.waiting, held.found⟩
  | opened => exact ⟨⟨rfl, rfl⟩, rfl, held.found⟩

/-- Requests and blocks of work lead from one state of the database to another. All of them
succeed, no block ends inside a savepoint, and all requests spare the row of the identifier. -/
inductive Later (supply : Supply) (c : Collection) (id : String) : Database → Database → Prop
  | refl (db : Database) : Later supply c id db db
  | ask {db db' : Database} {r : Request} {reply : r.Reply} : r.SparesRow c id →
    (answer supply r db).1 = .ok reply → Later supply c id (answer supply r db).2 db' →
    Later supply c id db db'
  | block {db db' : Database} : db.work.state.savepoints = [] →
    ((engine supply).leave false db).1 = .ok () → Later supply c id (nextBlock supply db) db' →
    Later supply c id db db'

/-- A row that is held is still held later. -/
theorem Later.held (later : Later supply c id db db') (held : db.work.state.Held c id row) :
    db'.work.state.Held c id row := by
  induction later with
  | refl => exact held
  | ask spares answered _ ih => exact ih (held_answer held spares answered)
  | block unnested clean _ ih => exact ih (held_nextBlock held unnested clean).2.2

/-! ## What comes back -/

variable {item x : c.Item} {now : Stamp}

theorem Stored.updatedAt_eq {before : Tables} (h : Stored before now item id x) :
    (Entity.header x).updatedAt = some now := by
  cases h <;> simp only [inserted, updated, Entity.header_setHeader]

/-- What was saved was created at universal time exactly if it was there before or did not bring
another time of creation. -/
theorem Saved.universal_iff {after : Database} (h : Saved db now item id x after)
    (written : db.work.state.Written) (universal : now.offset = 0) (supply : Supply) :
    (∀ s ∈ (Entity.header x).createdAt, s.offset = 0) ↔
      (∃ old, (answer supply (.get c id) db).1 = .ok (some old)) ∨
        ∀ s ∈ (Entity.header item).createdAt, s.offset = 0 := by
  rw [answer_get h.isOpen h.prepared]
  cases h.stored with
  | new free =>
    have unknown : ¬∃ old, find c id db.work.state.prepare.2 = .ok (some old) := by
      rintro ⟨old, found⟩
      rw [find, free] at found
      cases found
    rw [or_iff_right unknown, inserted, Entity.header_setHeader]
    cases (Entity.header item).createdAt <;> simp [universal]
  | @known row given there =>
    obtain ⟨old, rfl⟩ := written.prepare.current c row (List.mem_of_find?_eq_some there)
    refine iff_of_true ?_ (.inl ⟨_, find_of_row there⟩)
    rw [updated, Entity.header_setHeader, c.createdAtOf_toRow]
    intro s created
    obtain ⟨s', -, rfl⟩ := Option.map_eq_some_iff.mp created
    rfl

/-- In any later block of work getting the identifier finds what the save answered, with its stamps
as columns give them back. That is the same, stamps compared as instants, exactly if the identifier
was stored before or the item did not bring a time of creation with an offset. -/
theorem saved_is_kept_iff (universal : ∀ n, (supply.time n).offset = 0)
    (reached : Reachable supply db)
    (saved : (answer supply (.save c item) db).1 = .ok x) :
    ∃ id, Entity.id x = some id ∧
      ∀ db', Later supply c id (answer supply (.save c item) db).2 db' →
        db'.work.state.savepoints = [] → ((engine supply).leave false db').1 = .ok () →
        (answer supply (.get c id) (nextBlock supply db')).1 = .ok (some (Entity.recalled x)) ∧
          (Entity.SameAt x (Entity.recalled x) ↔
            (∃ old, (answer supply (.get c id) db).1 = .ok (some old)) ∨
              ∀ s ∈ (Entity.header item).createdAt, s.offset = 0) := by
  obtain ⟨id, made⟩ := saved_save saved
  refine ⟨id, made.stored.id_eq, ?_⟩
  intro db' later unnested clean
  have held := later.held ⟨made.ready.waiting, made.found⟩
  obtain ⟨isOpen, ready, held⟩ := held_nextBlock held unnested clean
  constructor
  · rw [answer_get isOpen (by rw [ready.prepare]), ready.prepare]
    exact find_of_row held.found
  · have changed : ∀ s ∈ (Entity.header x).updatedAt, s.offset = 0 := by
      rw [made.stored.updatedAt_eq]
      rintro s ⟨⟩
      exact universal _
    rw [Entity.sameAt_recalled_iff, ← made.universal_iff reached.written (universal _) supply]
    exact and_iff_left changed

/-- A new person is the same in the block after the next one. -/
theorem saved_is_kept_person :
    let supply := Supply.counting Supply.usualStart
    let draft : Person := { Person.blank with familyName := some "Meier" }
    let db := (engine supply).enter (Database.empty .opened)
    let after := (answer supply (.save .persons draft) db).2
    ∃ x : Person, (answer supply (.save .persons draft) db).1 = .ok x ∧
      (answer supply (.get .persons "person-1") (nextBlock supply (nextBlock supply after))).1 =
        .ok (some (Entity.recalled x)) ∧
      Entity.SameAt x (Entity.recalled x) := by
  intro supply draft db after
  have universal : ∀ n, (supply.time n).offset = 0 := by
    intro n
    have proper : supply.Proper := Supply.proper_counting _
    obtain ⟨wall, shows⟩ := proper.universal n
    rw [shows]
    rfl
  have reached : Reachable supply db := .enter (.empty .opened)
  have saved : (answer supply (.save .persons draft) db).1 =
      .ok (inserted "person-1" (supply.time 0) draft) := by
    subst supply draft db
    rfl
  obtain ⟨id, named, kept⟩ := saved_is_kept_iff universal reached saved
  obtain rfl : "person-1" = id := Option.some.inj named
  obtain ⟨found, same⟩ := kept _ (.block rfl rfl (.refl _)) rfl rfl
  exact ⟨_, saved, found, same.mpr (.inr nofun)⟩

/-- A person that brings ten o'clock, two hours east of universal time, as the time of its creation
is answered so and comes back as created at ten o'clock universal time. -/
theorem not_kept_of_offset :
    let supply := Supply.counting Supply.usualStart
    let ten : Wall := ⟨⟨2024, 1, 1, by decide⟩, ⟨10, 0, 0, 0, by decide⟩⟩
    let draft : Person := { Person.blank with
      familyName := some "Meier", createdAt := some ⟨ten, 7200000000⟩ }
    let db := (engine supply).enter (Database.empty .opened)
    let after := (answer supply (.save .persons draft) db).2
    ((engine supply).leave false after).1 = .ok () ∧
      ∃ x y : Person, (answer supply (.save .persons draft) db).1 = .ok x ∧
        (answer supply (.get .persons "person-1") (nextBlock supply after)).1 = .ok (some y) ∧
        ¬Entity.SameAt x y := by
  refine ⟨rfl, _, _, rfl, rfl, ?_⟩
  intro same
  have instants := same.createdAt
  revert instants
  decide

end Database

end SchoolRegistry
