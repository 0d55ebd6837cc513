import SchoolRegistry.Proofs.Store.Database

/-!
# Databases that requests lead to

`Reachable` is a database that requests and blocks of work lead to from an empty one. In all that
it holds, what is committed, what the transaction sees, what its savepoints remember and what
waits, every row is the row of an item (`Reachable.written`): each operation of a session keeps
that, and so do requests and blocks.
-/

namespace SchoolRegistry

/-! ## Rows of items -/

/-- Every row is the row of an item. -/
def Tables.Written (t : Tables) : Prop := ∀ c, ∀ row ∈ t c, ∃ x : c.Item, row = c.toRow x

namespace Tables.Written

variable {t t' : Tables} {c : Collection} {id : String} {row : Row}

/-- To give a table other rows of items keeps that all rows are. -/
theorem put {rows : List Row} (h : t.Written) (new : ∀ r ∈ rows, ∃ x : c.Item, r = c.toRow x) :
    (t.put c rows).Written := by
  intro c' r there
  by_cases same : c' = c
  · subst same
    rw [put_same] at there
    exact new r there
  · rw [put_other same] at there
    exact h c' r there

/-- An inserted row is one of an item. -/
theorem insert? (h : t.Written) (inserted : t.insert? c row = some t')
    (new : ∃ x : c.Item, row = c.toRow x) : t'.Written := by
  obtain ⟨-, rfl⟩ := insert?_eq_some.mp inserted
  apply h.put
  intro r there
  rcases List.mem_append.mp there with there | there
  · exact h c r there
  · exact List.mem_singleton.mp there ▸ new

/-- An updated row is one of an item. -/
theorem update? (h : t.Written) (updated : t.update? c id row = some t')
    (new : ∃ x : c.Item, row = c.toRow x) : t'.Written := by
  obtain ⟨-, rfl⟩ := update?_eq_some.mp updated
  apply h.put
  intro r there
  obtain ⟨old, known, rfl⟩ := List.mem_map.mp there
  split
  · exact new
  · exact h c old known

theorem remove (h : t.Written) : (t.remove c id).Written :=
  h.put fun r there => h c r (List.mem_filter.mp there).1

/-- Rows that waited are rows of items when they are inserted. -/
theorem insertAll {ws : List (Collection × Row)} (h : t.Written)
    (new : ∀ w ∈ ws, ∃ x : w.1.Item, w.2 = w.1.toRow x)
    (inserted : Session.insertAll ws t = some t') : t'.Written := by
  induction ws generalizing t with
  | nil =>
    cases inserted
    exact h
  | cons w ws ih =>
    obtain ⟨between, first, rest⟩ := Option.bind_eq_some_iff.mp inserted
    have written := h.insert? first (new w List.mem_cons_self)
    exact ih written (fun v hv => new v (List.mem_cons_of_mem _ hv)) rest

end Tables.Written

/-- Every row that the session holds anywhere is the row of an item. -/
structure Session.Written (s : Session) : Prop where
  committed : s.committed.Written
  current : s.current.Written
  before : ∀ p ∈ s.savepoints, p.before.Written
  waiting : ∀ w ∈ s.waiting, ∃ x : w.1.Item, w.2 = w.1.toRow x

namespace Session.Written

variable {s : Session} {c : Collection} {id : String} {row : Row}

theorem breakDown (h : s.Written) : s.breakDown.Written := by
  have before := h.before
  unfold Session.breakDown
  cases saved : s.savepoints with
  | nil => exact ⟨h.committed, h.committed, nofun, nofun⟩
  | cons p rest =>
    rw [saved] at before
    refine ⟨h.committed, before p List.mem_cons_self, ?_, nofun⟩
    intro q there
    rcases List.mem_cons.mp there with rfl | there
    · exact before p List.mem_cons_self
    · exact before q (List.mem_cons_of_mem _ there)

/-- Flushing moves rows from where they wait into the tables. -/
theorem flush (h : s.Written) : s.flush.2.Written := by
  unfold Session.flush
  cases all : insertAll s.waiting s.current with
  | none => exact h.breakDown
  | some t => exact ⟨h.committed, h.current.insertAll h.waiting all, h.before, nofun⟩

/-- Getting ready only flushes. -/
theorem prepare (h : s.Written) : s.prepare.2.Written := by
  unfold Session.prepare
  split
  · exact h.flush
  · exact h

/-- A row that waits is one of an item. -/
theorem wait (h : s.Written) (new : ∃ x : c.Item, row = c.toRow x) :
    Session.Written { s with waiting := s.waiting ++ [(c, row)] } := by
  refine ⟨h.committed, h.current, h.before, ?_⟩
  intro w there
  rcases List.mem_append.mp there with there | there
  · exact h.waiting w there
  · exact List.mem_singleton.mp there ▸ new

/-- A session inserts rows of items. -/
theorem insert (h : s.Written) (new : ∃ x : c.Item, row = c.toRow x) :
    (s.insert c row).2.Written := by
  unfold Session.insert
  split
  · exact (h.wait new).flush
  · exact h.wait new
  · exact h

/-- A session updates to rows of items. -/
theorem update (h : s.Written) (new : ∃ x : c.Item, row = c.toRow x) :
    (s.update c id row).2.Written := by
  unfold Session.update
  split
  · next updated => exact ⟨h.committed, h.current.update? updated new, h.before, h.waiting⟩
  · exact h.breakDown

theorem remove (h : s.Written) : (s.remove c id).Written :=
  ⟨h.committed, h.current.remove, h.before, h.waiting⟩

theorem setSavepoint (h : s.Written) : s.setSavepoint.2.Written := by
  unfold Session.setSavepoint
  have prepared := h.prepare
  dsimp only
  split
  · refine ⟨prepared.committed, prepared.current, ?_, prepared.waiting⟩
    intro p there
    rcases List.mem_cons.mp there with rfl | there
    · exact prepared.current
    · exact prepared.before p there
  · exact prepared

theorem leaveSavepoint (h : s.Written) : s.leaveSavepoint.Written :=
  ⟨h.committed, h.current, fun p there => h.before p (List.mem_of_mem_tail there), h.waiting⟩

theorem keepSavepoint (h : s.Written) : s.keepSavepoint.2.Written := by
  unfold Session.keepSavepoint
  split
  · exact h
  · split
    · exact h.flush.leaveSavepoint
    · exact h.leaveSavepoint

/-- To undo a savepoint gives back tables that were remembered. -/
theorem undoSavepoint (h : s.Written) : s.undoSavepoint.Written := by
  unfold Session.undoSavepoint
  split
  · exact h
  · next p rest saved =>
    have before := h.before p (saved ▸ List.mem_cons_self)
    split
    · exact leaveSavepoint ⟨h.committed, before, h.before, nofun⟩
    · exact h.leaveSavepoint

theorem endSavepoints (h : s.Written) : s.endSavepoints.Written := by
  refine ⟨h.committed, h.current, ?_, h.waiting⟩
  intro p there
  obtain ⟨q, known, rfl⟩ := List.mem_map.mp there
  exact h.before q known

/-- To roll back gives back what is committed. -/
theorem rollback (h : s.Written) : s.rollback.Written := by
  unfold Session.rollback
  split
  · exact h
  · exact endSavepoints ⟨h.committed, h.committed, h.before, nofun⟩

/-- What is committed is what the transaction saw. -/
theorem commit (h : s.Written) : s.commit.2.Written := by
  unfold Session.commit
  have prepared := h.prepare
  dsimp only
  split
  · exact endSavepoints ⟨prepared.current, prepared.current, prepared.before, prepared.waiting⟩
  · exact prepared

theorem next (h : s.Written) : s.next.Written := ⟨h.committed, h.current, nofun, nofun⟩

theorem closed (h : s.Written) : s.closed.Written := ⟨h.committed, h.committed, nofun, nofun⟩

end Session.Written

/-! ## Blocks of work -/

/-- Everything that can be done with sessions keeps a property of them. -/
structure SessionCalls.Keep {σ : Type} (calls : SessionCalls σ) (P : σ → Prop) : Prop where
  start : ∀ s, P s → P (calls.start s)
  commit : ∀ s, P s → P (calls.commit s).2
  rollback : ∀ s, P s → P (calls.rollback s).2
  close : ∀ s, P s → P (calls.close s).2

namespace UnitOfWork

variable {σ : Type} {calls : SessionCalls σ} {P : σ → Prop} {u : UnitOfWork σ}

/-- A condition that sessions keep is kept on entering a block. -/
theorem keep_enter (k : calls.Keep P) (h : P u.state) : P (u.enter calls).state := by
  unfold enter
  split
  · exact h
  · exact k.start _ h

theorem keep_commit (k : calls.Keep P) (h : P u.state) : P (u.commit calls).2.state := by
  unfold commit
  split
  · dsimp only
    split
    · exact k.commit _ h
    · exact k.rollback _ (k.commit _ h)
  · exact h

theorem keep_rollback (k : calls.Keep P) (h : P u.state) : P (u.rollback calls).2.state := by
  unfold rollback
  split
  · exact k.rollback _ h
  · exact h

theorem keep_close (k : calls.Keep P) (h : P u.state) : P (u.close calls).2.state := by
  unfold close
  split
  · exact k.close _ h
  · exact h

/-- A condition that sessions keep is kept on leaving a block. -/
theorem keep_leave (k : calls.Keep P) (h : P u.state) (failed : Bool) :
    P (u.leave calls failed).2.state := by
  have ended : P (if failed then u.rollback calls else u.commit calls).2.state := by
    split
    · exact keep_rollback k h
    · exact keep_commit k h
  have closed := keep_close k ended
  unfold leave
  dsimp only
  split <;> exact closed

end UnitOfWork

/-- Calls of a session only leave rows of items behind. -/
theorem Database.sessionCalls_keep_written : sessionCalls.Keep Session.Written where
  start _ h := h.next
  commit _ h := h.commit
  rollback _ h := h.rollback
  close _ h := h.closed

namespace Database

variable {supply : Supply} {db : Database} {c : Collection} {item : c.Item}

/-- Whatever a session is used for, rows stay rows of items if the use keeps that. -/
theorem written_inSession {α : Type} {use : Session → Except Failure α × Session}
    (h : db.work.state.Written) (keep : (use db.work.state).2.Written) :
    (db.inSession use).2.work.state.Written := by
  unfold inSession
  split
  · exact h
  · exact keep

/-- The same of a use after getting ready. -/
theorem written_prepared {α : Type} {failed : StorageFailure} {s : Session}
    {use : Session → Except Failure α × Session} (h : s.Written)
    (keep : (use s.prepare.2).2.Written) : (Database.prepared failed use s).2.Written := by
  unfold Database.prepared
  dsimp only
  split
  · exact keep
  · exact h.prepare

/-- Storing an item writes a row of it. -/
theorem written_store (h : db.work.state.Written) (now : Stamp) :
    (store supply c now item db).2.work.state.Written := by
  unfold store
  split
  · exact h.insert ⟨_, rfl⟩
  · dsimp only
    split
    · split
      · exact h.prepare.update ⟨_, rfl⟩
      · exact h.prepare.insert ⟨_, rfl⟩
    · exact h.prepare

/-- So does saving it, whichever time is drawn for it. -/
theorem written_save (h : db.work.state.Written) :
    (save supply c item db).2.work.state.Written := by
  unfold save
  dsimp only
  split
  · exact h
  · refine written_store ?_ _
    exact h

/-- What requests write are rows of items. -/
theorem written_answer (h : db.work.state.Written) (r : Request) :
    (answer supply r db).2.work.state.Written := by
  cases r with
  | get => exact written_inSession h (written_prepared h h.prepare)
  | save => exact written_save h
  | delete => exact written_inSession h (written_prepared h h.prepare.remove)
  | list => exact written_inSession h (written_prepared h h.prepare)
  | query c q =>
    rw [answer]
    split
    · exact h
    · exact written_inSession h (written_prepared h h.prepare)
  | setSavepoint => exact written_inSession h h.setSavepoint
  | keepSavepoint => exact written_inSession h h.keepSavepoint
  | undoSavepoint => exact written_inSession h h.undoSavepoint

/-- A database that requests and blocks of work lead to from an empty one. -/
inductive Reachable (supply : Supply) : Database → Prop
  | empty (source : SessionSource) : Reachable supply (Database.empty source)
  | answer {db : Database} (r : Request) :
    Reachable supply db → Reachable supply (Database.answer supply r db).2
  | enter {db : Database} : Reachable supply db → Reachable supply ((engine supply).enter db)
  | commit {db : Database} : Reachable supply db → Reachable supply ((engine supply).commit db).2
  | rollback {db : Database} :
    Reachable supply db → Reachable supply ((engine supply).rollback db).2
  | leave {db : Database} (failed : Bool) :
    Reachable supply db → Reachable supply ((engine supply).leave failed db).2

/-- A reachable database holds rows of items only. -/
theorem Reachable.written (h : Reachable supply db) : db.work.state.Written := by
  induction h with
  | empty source =>
    have none : Tables.Written .empty := fun _ _ there => absurd there List.not_mem_nil
    exact ⟨none, none, nofun, nofun⟩
  | answer r _ ih => exact written_answer ih r
  | enter _ ih => exact UnitOfWork.keep_enter sessionCalls_keep_written ih
  | commit _ ih => exact UnitOfWork.keep_commit sessionCalls_keep_written ih
  | rollback _ ih => exact UnitOfWork.keep_rollback sessionCalls_keep_written ih
  | leave failed _ ih => exact UnitOfWork.keep_leave sessionCalls_keep_written ih failed

end Database

end SchoolRegistry
