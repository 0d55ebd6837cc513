import SchoolRegistry.Proofs.Store.Memory
import SchoolRegistry.Proofs.Store.Running
import SchoolRegistry.Store.Monitor

/-!
# Monitored stores

A list of disturbances is a schedule: it says which calls of which kind are disturbed and how.
`Monitored.answer_cases` says once what a call to a monitored store does: the store answers it, or
a disturbance does and the store is as before; either way the call is logged and the disturbances
stay of the same kinds. A store that nothing disturbs behaves as if it were not monitored
(`Monitored.ends_undisturbed`).

Savepoints are no calls and are never disturbed. `Memory.Ends.inSavepoint` is their law: a service
that fails inside a savepoint leaves the enlisted shelves as they were when the savepoint was set,
a service that does not fail leaves what it did, and either way the savepoints outside are the
same as before.
-/

namespace SchoolRegistry

/-! ## Kinds of requests -/

namespace Request

/-- A call on a collection, not a request about savepoints. -/
def IsCall (r : Request) : Prop := (Call.ofRequest? r).isSome

/-- A call that changes nothing. -/
def IsRead : Request → Prop
  | get .. => True
  | list .. => True
  | query .. => True
  | _ => False

/-- A call that does not change the collection. -/
def Spares (c : Collection) : Request → Prop
  | save c' _ => c ≠ c'
  | delete c' _ => c ≠ c'
  | r => r.IsRead

/-- A call that changes nothing spares every collection. -/
theorem IsRead.spares {c : Collection} {r : Request} (h : r.IsRead) : r.Spares c := by
  cases r <;> first | exact h | exact absurd h id

theorem Spares.isCall {c : Collection} {r : Request} (h : r.Spares c) : r.IsCall := by
  cases r <;> first | rfl | exact absurd h id

theorem IsRead.isCall {r : Request} (h : r.IsRead) : r.IsCall :=
  (h.spares (c := .assignments)).isCall

end Request

/-! ## Disturbances -/

namespace Disturbance

/-- What a disturbance is about and does, whatever is left of it. -/
def kind (d : Disturbance) : Collection × Access × Interruption :=
  (d.collection, d.access, d.effect)

/-- Disturbed calls fail. A disturbed removal may also be answered by no; no other call is
answered by anything that the store did not say. -/
def IsFault (d : Disturbance) : Prop :=
  match d.effect with
  | .failure _ => True
  | .reply v => d.access = .delete ∧ v.truthy = false

theorem IsFault.of_kind {d d' : Disturbance} (same : d.kind = d'.kind) (h : d.IsFault) :
    d'.IsFault := by
  obtain ⟨-, access, effect⟩ : _ ∧ d.access = d'.access ∧ d.effect = d'.effect := by
    simpa [kind] using same
  simpa only [IsFault, access, effect] using h

/-- A disturbed call that is no removal fails. -/
theorem IsFault.answer {d : Disturbance} (h : d.IsFault) (r : Request)
    (other : d.access ≠ .delete) : ∃ f, d.effect.answer r = .error f := by
  unfold IsFault at h
  cases effect : d.effect with
  | failure f => exact ⟨f, rfl⟩
  | reply v =>
    rw [effect] at h
    exact absurd h.1 other

/-- A disturbed removal fails or is answered by no. -/
theorem IsFault.answer_delete {d : Disturbance} (h : d.IsFault) (c : Collection) (id : String) :
    d.effect.answer (.delete c id) = .ok false ∨
      ∃ f, d.effect.answer (.delete c id) = .error f := by
  unfold IsFault at h
  cases effect : d.effect with
  | failure f => exact .inr ⟨f, rfl⟩
  | reply v =>
    rw [effect] at h
    exact .inl (congrArg Except.ok h.2)

end Disturbance

/-- Counting a call does not change of which kinds the disturbances are. -/
theorem interrupt_kinds (c : Call) (ds : List Disturbance) :
    (interrupt c ds).2.map Disturbance.kind = ds.map Disturbance.kind := by
  induction ds with
  | nil => rfl
  | cons d rest ih =>
    unfold interrupt
    split
    · split <;> rfl
    · exact congrArg (d.kind :: ·) ih

/-- What happens to a disturbed call is what a disturbance of such calls says. -/
theorem of_interrupt {c : Call} {ds : List Disturbance} {effect : Interruption}
    (h : (interrupt c ds).1 = some effect) :
    ∃ d ∈ ds, d.collection = c.collection ∧ d.access = c.access ∧ d.effect = effect := by
  induction ds with
  | nil => cases h
  | cons d rest ih =>
    unfold interrupt at h
    split at h
    · next concerns =>
      split at h
      · cases h
      · simp only [Disturbance.concerns, Bool.and_eq_true, beq_iff_eq] at concerns
        exact ⟨d, List.mem_cons_self, concerns.1.1, concerns.1.2, Option.some.inj h⟩
    · obtain ⟨d', hd', rest⟩ := ih h
      exact ⟨d', List.mem_cons_of_mem _ hd', rest⟩

/-! ## Calls to a monitored store -/

namespace Monitored

variable {σ α : Type} {m m' m'' : Monitored σ}

/-- The second monitored store comes from the first one by some calls. -/
structure Made (m : Monitored σ) (made : List Call) (m' : Monitored σ) : Prop where
  calls : m'.calls = m.calls ++ made
  kinds : m'.disturbances.map Disturbance.kind = m.disturbances.map Disturbance.kind

theorem Made.refl (m : Monitored σ) : m.Made [] m := ⟨(List.append_nil _).symm, rfl⟩

/-- Calls can be made one after the other. -/
theorem Made.trans {made more : List Call} (h : m.Made made m') (h' : m'.Made more m'') :
    m.Made (made ++ more) m'' :=
  ⟨by rw [h'.calls, h.calls, List.append_assoc], h'.kinds.trans h.kinds⟩

/-- A store of which no call was made, with the disturbances to come. -/
def under (ds : List Disturbance) (store : σ) : Monitored σ := ⟨store, [], ds⟩

@[simp] theorem store_under (ds : List Disturbance) (store : σ) :
    (under ds store).store = store := rfl

/-- Every disturbance to come is a fault. -/
def Faulty (m : Monitored σ) : Prop := ∀ d ∈ m.disturbances, d.IsFault

/-- A disturbance that is left was there from the start. -/
theorem Made.exists_kind {made : List Call} (h : m.Made made m') {d : Disturbance}
    (hd : d ∈ m'.disturbances) : ∃ d' ∈ m.disturbances, d'.kind = d.kind :=
  List.mem_map.mp (h.kinds ▸ List.mem_map_of_mem hd)

/-- Faults stay faults whatever calls are made. -/
theorem Made.faulty {made : List Call} (h : m.Made made m') (faults : m.Faulty) : m'.Faulty := by
  intro d hd
  obtain ⟨d', hd', same⟩ := h.exists_kind hd
  exact (faults d' hd').of_kind same

theorem Made.undisturbed {made : List Call} (h : m.Made made m') (quiet : m.disturbances = []) :
    m'.disturbances = [] := by simpa [quiet] using h.kinds

/-- A request is answered by the store, or by a disturbance, and then the store is as before. -/
theorem answer_cases (h : Handler σ) (r : Request) (m : Monitored σ) :
    m.Made (Call.ofRequest? r).toList (answer h r m).2 ∧
      ((answer h r m).1 = (h.answer r m.store).1 ∧
          (answer h r m).2.store = (h.answer r m.store).2 ∨
        ∃ d ∈ m.disturbances, (∃ c, Call.ofRequest? r = some c ∧ d.collection = c.collection ∧
            d.access = c.access) ∧
          (answer h r m).1 = d.effect.answer r ∧ (answer h r m).2.store = m.store) := by
  unfold answer
  cases hc : Call.ofRequest? r with
  | none => exact ⟨⟨(List.append_nil _).symm, rfl⟩, .inl ⟨rfl, rfl⟩⟩
  | some c =>
    have kinds := interrupt_kinds c m.disturbances
    have source := @of_interrupt c m.disturbances
    simp only [observe]
    revert kinds source
    rcases interrupt c m.disturbances with ⟨_ | effect, ds⟩ <;> intro kinds source
    · exact ⟨⟨rfl, kinds⟩, .inl ⟨rfl, rfl⟩⟩
    · obtain ⟨d, hd, collection, access, rfl⟩ := source rfl
      exact ⟨⟨rfl, kinds⟩, .inr ⟨d, hd, ⟨c, rfl, collection, access⟩, rfl, rfl⟩⟩

/-- What a request keeps of the store, it keeps under any disturbance. -/
theorem answer_keeps {h : Handler σ} {I : σ → Prop} {r : Request}
    (step : ∀ s, I s → I (h.answer r s).2) (hm : I m.store) : I (answer h r m).2.store := by
  rcases (answer_cases h r m).2 with ⟨-, passed⟩ | ⟨-, -, -, -, kept⟩
  · exact passed ▸ step _ hm
  · exact kept ▸ hm

theorem answer_faulty (h : Handler σ) (r : Request) (faults : m.Faulty) :
    (answer h r m).2.Faulty := (answer_cases h r m).1.faulty faults

/-- A request that nothing disturbs is answered by the store. -/
theorem answer_undisturbed (h : Handler σ) (r : Request) (quiet : m.disturbances = []) :
    (answer h r m).1 = (h.answer r m.store).1 ∧
      (answer h r m).2.store = (h.answer r m.store).2 ∧ (answer h r m).2.disturbances = [] := by
  obtain ⟨made, passed | ⟨d, hd, -⟩⟩ := answer_cases h r m
  · exact ⟨passed.1, passed.2, made.undisturbed quiet⟩
  · exact absurd (quiet ▸ hd) List.not_mem_nil

/-- A program over a store that nothing disturbs runs as over the store itself. -/
theorem run_undisturbed (h : Handler σ) (p : Program α) (quiet : m.disturbances = []) :
    (p.run (handler h) m).result = (p.run h m.store).result ∧
      (p.run (handler h) m).state.store = (p.run h m.store).state := by
  induction p generalizing m with
  | done a => exact ⟨rfl, rfl⟩
  | note r p ih => exact ih quiet
  | ask r k ih =>
    obtain ⟨reply, store, still⟩ := answer_undisturbed h r quiet
    have rest := ih (answer h r m).1 still
    rw [store, reply] at rest
    simpa only [Program.run, handler, reply] using rest

/-- Undisturbed, a monitored store is the store itself. -/
theorem ends_undisturbed {e : Engine σ} {s : Service α} {Q : Except Failure α → σ → Prop}
    (quiet : m.disturbances = []) :
    (engine e).Ends s m (fun x m' => Q x m'.store) ↔ e.Ends s m.store Q := by
  obtain ⟨result, state⟩ := run_undisturbed e.handler (ExceptT.run s) quiet
  change Q (Program.run (handler e.handler) (ExceptT.run s) m).result
    (Program.run (handler e.handler) (ExceptT.run s) m).state.store ↔ _
  rw [result, state]
  rfl

end Monitored

/-! ## The monitored store in memory -/

namespace Memory

variable {α : Type} {supply : Supply} {c : Collection}

/-- The store in memory, monitored. -/
abbrev monitored (supply : Supply) : Engine (Monitored Memory) :=
  Monitored.engine (Memory.engine supply)

/-- A request that spares a collection leaves its shelf as it is. -/
theorem answer_of_spares {r : Request} (h : r.Spares c) (m : Memory) :
    (answer supply r m).2.shelves c = m.shelves c := by
  rcases answer_cases supply r m c with same | ⟨item, rfl, -⟩ | ⟨id, rfl, -⟩ | ⟨rfl, -⟩
  · exact same
  · exact absurd rfl h
  · exact absurd rfl h
  · exact absurd h id

/-- Reading leaves the store as it is. -/
theorem answer_of_isRead {r : Request} (h : r.IsRead) (m : Memory) : (answer supply r m).2 = m := by
  cases r with
  | get | query => rfl
  | list c ids => cases ids <;> rfl
  | _ => exact absurd h id

/-- Calls leave the savepoints alone, and no request changes what takes part in them. -/
theorem savepoints_answer (supply : Supply) {r : Request} (h : r.IsCall) (m : Memory) :
    (answer supply r m).2.savepoints = m.savepoints ∧
      (answer supply r m).2.enlisted = m.enlisted := by
  cases r with
  | save c item => simp [answer, save_eq]
  | list c ids => cases ids <;> exact ⟨rfl, rfl⟩
  | get | delete | query => exact ⟨rfl, rfl⟩
  | _ => exact absurd h Bool.false_ne_true

/-- What the requests of a service keep of the store, the service keeps under any disturbance. -/
theorem keeps_of_asks {P : Request → Prop} {I : Memory → Prop}
    (step : ∀ r s, P r → I s → I (answer supply r s).2) {s : Service α} (hs : s.Asks P) :
    (monitored supply).Keeps (fun m => I m.store) s :=
  hs.keeps fun r _ hr hm => Monitored.answer_keeps (fun s hs => step r s hr hs) hm

/-- Disturbances that are faults stay faults. -/
theorem keeps_faulty (s : Service α) : (monitored supply).Keeps Monitored.Faulty s :=
  fun _ faults => Program.run_keeps (fun r _ => Monitored.answer_faulty _ r) _ faults

/-! ## Requests under faults -/

section Faults

variable {m : Monitored Memory} (faults : m.Faulty)
include faults

/-- A look-up by identifier is answered, or it fails by a fault. -/
theorem ends_get (id : String) :
    (monitored supply).Ends (Service.ask (.get c id)) m fun x m' =>
      m.Made [⟨c, .get, some id⟩] m' ∧ m'.store = m.store ∧
        (x = .ok (find? id (m.store.shelves c)) ∨ ∃ f, x = .error f ∧ m.disturbances ≠ []) := by
  obtain ⟨made, ⟨answered, stored⟩ | ⟨d, hd, ⟨_, call, -, access⟩, answered, kept⟩⟩ :=
    Monitored.answer_cases (handler supply) (.get c id) m
  · exact ⟨made, stored, .inl answered⟩
  · cases call
    obtain ⟨f, failed⟩ := (faults d hd).answer (.get c id) (by simp [access])
    exact ⟨made, kept, .inr ⟨f, answered.trans failed, List.ne_nil_of_mem hd⟩⟩

/-- A query is answered, or it fails by a fault. -/
theorem ends_query (q : Query) :
    (monitored supply).Ends (Service.ask (.query c q)) m fun x m' =>
      m.Made [⟨c, .query, none⟩] m' ∧ m'.store = m.store ∧
        (x = q.evaluate Entity.toValue (m.store.shelves c) ∨
          ∃ f, x = .error f ∧ m.disturbances ≠ []) := by
  obtain ⟨made, ⟨answered, stored⟩ | ⟨d, hd, ⟨_, call, -, access⟩, answered, kept⟩⟩ :=
    Monitored.answer_cases (handler supply) (.query c q) m
  · exact ⟨made, stored, .inl answered⟩
  · cases call
    obtain ⟨f, failed⟩ := (faults d hd).answer (.query c q) (by simp [access])
    exact ⟨made, kept, .inr ⟨f, answered.trans failed, List.ne_nil_of_mem hd⟩⟩

/-- A save is carried out, or it fails by a fault and the store is as before. -/
theorem ends_save (item : c.Item) :
    (monitored supply).Ends (Service.ask (.save c item)) m fun x m' =>
      m.Made [⟨c, .save, none⟩] m' ∧
        (x = .ok (storedAs supply c item m.store) ∧ m'.store = (m.store.save supply c item).2 ∨
          ∃ f, x = .error f ∧ m'.store = m.store ∧ m.disturbances ≠ []) := by
  obtain ⟨made, ⟨answered, stored⟩ | ⟨d, hd, ⟨_, call, -, access⟩, answered, kept⟩⟩ :=
    Monitored.answer_cases (handler supply) (.save c item) m
  · refine ⟨made, .inl ⟨answered.trans ?_, stored⟩⟩
    exact congrArg (fun saved => Except.ok saved.1) (save_eq item)
  · cases call
    obtain ⟨f, failed⟩ := (faults d hd).answer (.save c item) (by simp [access])
    exact ⟨made, .inr ⟨f, answered.trans failed, kept, List.ne_nil_of_mem hd⟩⟩

/-- A removal is carried out, or it fails or is answered by no and the store is as before. Without
a fault it is answered by no only if there is nothing to remove. -/
theorem ends_delete (id : String) :
    (monitored supply).Ends (Service.ask (.delete c id)) m fun x m' =>
      m.Made [⟨c, .delete, some id⟩] m' ∧
        (x = .ok true ∧ m'.store = (m.store.delete c id).2 ∨
          m'.store = m.store ∧
            (x = .ok false ∧ (m.disturbances = [] → find? id (m.store.shelves c) = none) ∨
              ∃ f, x = .error f ∧ m.disturbances ≠ [])) := by
  obtain ⟨made, ⟨answered, stored⟩ | ⟨d, hd, ⟨_, call, -, access⟩, answered, kept⟩⟩ :=
    Monitored.answer_cases (handler supply) (.delete c id) m
  · refine ⟨made, ?_⟩
    cases found : find? id (m.store.shelves c) with
    | some item =>
      exact .inl ⟨answered.trans (by simp [handler, answer, Depot.delete, found]), stored⟩
    | none =>
      refine .inr ⟨stored.trans ?_, .inl ⟨answered.trans ?_, fun _ => rfl⟩⟩
      · simp only [handler, answer, Depot.delete, remove_of_find?_none found, Shelving.put_self]
      · simp [handler, answer, Depot.delete, found]
  · cases call
    refine ⟨made, .inr ⟨kept, ?_⟩⟩
    have disturbed : m.disturbances ≠ [] := List.ne_nil_of_mem hd
    rcases (faults d hd).answer_delete c id with no | ⟨f, failed⟩
    · exact .inl ⟨answered.trans no, fun quiet => absurd quiet disturbed⟩
    · exact .inr ⟨f, answered.trans failed, disturbed⟩

end Faults

/-! ## Savepoints -/

/-- The store with a savepoint set. -/
def mark (m : Memory) : Memory := { m with savepoints := m.shelves :: m.savepoints }

/-- The store after a savepoint that `m` set was kept. -/
def keptFrom (m m' : Memory) : Memory := { m' with savepoints := m.savepoints }

/-- The store after a savepoint that `m` set was undone. -/
def undoneTo (m m' : Memory) : Memory :=
  { m' with
    shelves := Shelving.restore m.enlisted m.shelves m'.shelves
    savepoints := m.savepoints
    undone := m'.undone + 1 }

/-- A service in a savepoint ends as the service does, and then keeps or undoes what it did. -/
theorem Ends.inSavepoint {s : Service α} (hs : s.Asks Request.IsCall) {m : Monitored Memory}
    {R Q : Except Failure α → Monitored Memory → Prop}
    (body : (monitored supply).Ends s { m with store := m.store.mark } R)
    (onOk : ∀ a m', R (.ok a) m' → Q (.ok a) { m' with store := m.store.keptFrom m'.store })
    (onError : ∀ f m', R (.error f) m' →
      Q (.error f) { m' with store := m.store.undoneTo m'.store }) :
    (monitored supply).Ends s.inSavepoint m Q := by
  -- Calls leave the stack of savepoints alone, so that the one on top is still the one set here.
  have stack : (monitored supply).Ends s { m with store := m.store.mark } fun _ m' =>
      m'.store.savepoints = m.store.shelves :: m.store.savepoints ∧
        m'.store.enlisted = m.store.enlisted :=
    keeps_of_asks (I := fun m' => m'.savepoints = m.store.shelves :: m.store.savepoints ∧
        m'.enlisted = m.store.enlisted)
      (fun r m' hr hm => by
        obtain ⟨savepoints, enlisted⟩ := savepoints_answer supply hr m'
        exact ⟨savepoints.trans hm.1, enlisted.trans hm.2⟩) hs _ ⟨rfl, rfl⟩
  unfold Service.inSavepoint
  rw [Engine.ends_bind, Engine.ends_ask]
  change (monitored supply).Ends _ { m with store := m.store.mark } Q
  rw [Engine.ends_bind, Engine.ends_attempt]
  refine (body.and stack).imp fun x m' ⟨hR, savepoints, enlisted⟩ => ?_
  cases x with
  | ok a =>
    have kept : m.store.keptFrom m'.store =
        { m'.store with savepoints := m'.store.savepoints.tail } := by
      rw [savepoints]; rfl
    dsimp only
    rw [Engine.ends_bind, Engine.ends_ask]
    have ended := onOk a m' hR
    rw [kept] at ended
    exact ended
  | error f =>
    have undone : m.store.undoneTo m'.store = m'.store.undo := by
      simp only [undo, Depot.undo, undoneTo, savepoints, enlisted]
    dsimp only
    rw [Engine.ends_bind, Engine.ends_ask]
    have ended := onError f m' hR
    rw [undone] at ended
    exact ended

end Memory

end SchoolRegistry
