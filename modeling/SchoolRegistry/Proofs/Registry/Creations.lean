import SchoolRegistry.Proofs.Registry.Persons

/-!
# What creations leave

Creations look things up and save once, at the end. `Creation.Atomic` is what comes of that under
faults: a creation saves its item and accepts it, or it ends otherwise and the store is as before.
It has a law for each part of a creation, and with them each creation is followed once, down to
its save (`Collection.atomic_create`).

The save puts the item in the place of the one that has its identifier, and no creation looks
whether there is one. So a creation leaves the items with other identifiers alone
(`single_writes_atomic`), but it leaves all items only if none has the identifier that it saves
under (`accepted_adds_iff`).
-/

namespace SchoolRegistry

variable {supply : Supply} {c : Collection} {α β : Type}

/-! ## Storing an item -/

namespace Memory

/-- All collections but one are the same. -/
def AgreeOutside (c : Collection) (m m' : Memory) : Prop :=
  ∀ c' ≠ c, m'.shelves c' = m.shelves c'

theorem AgreeOutside.refl (c : Collection) (m : Memory) : AgreeOutside c m m := fun _ _ => rfl

theorem AgreeOutside.symm {m m' : Memory} (h : AgreeOutside c m m') : AgreeOutside c m' m :=
  fun c' other => (h c' other).symm

theorem AgreeOutside.trans {m m' m'' : Memory} (h : AgreeOutside c m m')
    (h' : AgreeOutside c m' m'') : AgreeOutside c m m'' :=
  fun c' other => (h' c' other).trans (h c' other)

/-- Saving an item leaves the other collections alone. -/
theorem agreeOutside_save (item : c.Item) (m : Memory) :
    AgreeOutside c m (m.save supply c item).2 := fun _ other => shelves_save_other other item m

/-- The later store has the item under its identifier, and everything else as the earlier one. -/
structure Received (c : Collection) (item : c.Item) (m m' : Memory) : Prop where
  found : ∃ id, Entity.id item = some id ∧ find? id (m'.shelves c) = some item ∧
    remove id (m'.shelves c) = remove id (m.shelves c)
  elsewhere : AgreeOutside c m m'

/-- Every item is still there, and one item is there in addition. -/
structure Grown (c : Collection) (m m' : Memory) : Prop where
  one : ∃ item, (m'.shelves c).Perm (item :: m.shelves c)
  elsewhere : AgreeOutside c m m'

/-- Saving an item puts it into the store as it is stored, and nothing else. -/
theorem received_save (item : c.Item) (m : Memory) :
    Received c (storedAs supply c item m) m (m.save supply c item).2 := by
  refine ⟨⟨idFor supply c item m, id_storedAs, ?_, ?_⟩, agreeOutside_save item m⟩
  · rw [shelves_save]
    exact find?_store id_storedAs
  · rw [shelves_save]
    exact remove_store id_storedAs

/-- A save adds an item exactly if none has the identifier. -/
theorem grown_save_iff (item : c.Item) (m : Memory) :
    Grown c m (m.save supply c item).2 ↔
      ∀ x ∈ m.shelves c, Entity.id x ≠ some (idFor supply c item m) := by
  constructor
  · rintro ⟨⟨added, same⟩, -⟩ x hx its
    have longer := same.length_eq
    rw [shelves_save, length_store_of_mem hx its, List.length_cons] at longer
    omega
  · intro new
    refine ⟨⟨storedAs supply c item m, ?_⟩, agreeOutside_save item m⟩
    rw [shelves_save, store_of_new new]
    exact List.perm_append_singleton _ _

end Memory

/-! ## Creations under faults -/

namespace Creation

/-- How a creation ends, and what it leaves: the item is stored and accepted, or the store is as
before. -/
inductive Course (supply : Supply) (item : c.Item) (m : Memory) :
    Except Failure (Outcome c.Item) → Memory → Prop
  | stored : Course supply item m (.ok (.ok (Memory.storedAs supply c item m)))
      (m.save supply c item).2
  | refused (r : Refusal) : Course supply item m (.ok (.error r)) m
  | failed (f : Failure) : Course supply item m (.error f) m

/-- Under faults the service ends as a creation of the item does. -/
def Atomic (supply : Supply) (item : c.Item) (s : Service (Outcome c.Item)) : Prop :=
  ∀ m : Monitored Memory, m.Faulty →
    (Memory.monitored supply).Ends s m fun x m' => Course supply item m.store x m'.store

variable {item : c.Item}

/-- A refusal without a write is atomic. -/
theorem atomic_refused (r : Refusal) : Atomic supply item (pure (.error r)) :=
  fun _ _ => Course.refused r

/-- A failure without a write is atomic. -/
theorem atomic_throw (f : Failure) : Atomic supply item (throw f) :=
  fun _ _ => Course.failed f

/-- Reading before an atomic operation leaves it atomic. -/
theorem Atomic.after {s : Service α} {f : α → Service (Outcome c.Item)}
    (reads : s.Asks Request.IsRead) (hf : ∀ a, Atomic supply item (f a)) :
    Atomic supply item (s >>= f) := by
  intro m faults
  -- What is read leaves the store as it is, so that what follows starts where the whole does.
  have same : (Memory.monitored supply).Ends s m fun _ m' => m'.store = m.store :=
    Memory.keeps_of_asks (I := fun m' => m' = m.store)
      (fun r m' read h => (Memory.answer_of_isRead read m').trans h) reads m rfl
  refine (same.and (Memory.keeps_faulty s m faults)).bind ?_ ?_
  · rintro a m' ⟨same, faults'⟩
    exact same ▸ hf a m' faults'
  · rintro f m' ⟨same, -⟩
    exact same ▸ Course.failed f

/-- A save ends a creation if what it answers is accepted. -/
theorem atomic_save {accept : c.Item → Service (Outcome c.Item)}
    (accepts : ∀ saved (m : Monitored Memory),
      (Memory.monitored supply).Ends (accept saved) m fun x m' => x = .ok (.ok saved) ∧ m' = m) :
    Atomic supply item (Service.ask (.save c item) >>= accept) := by
  intro m faults
  refine (Memory.ends_save faults item).bind ?_ ?_
  · rintro saved m' ⟨-, ⟨⟨⟩, stored⟩ | ⟨_, ⟨⟩, -⟩⟩
    refine (accepts _ m').imp ?_
    rintro x m'' ⟨rfl, rfl⟩
    exact stored ▸ Course.stored
  · rintro f m' ⟨-, ⟨⟨⟩, -⟩ | ⟨_, -, kept, -⟩⟩
    exact kept ▸ Course.failed f

section Rules

variable [Candidate β] {rules : List (Rule Service β)} {candidate : β}
  {next : Service (Outcome c.Item)}

/-- Rules that only read leave what follows them atomic. -/
theorem Atomic.checkRules (hnext : Atomic supply item next)
    (reads : ∀ r ∈ rules, (r.judge candidate).Asks Request.IsRead) :
    Atomic supply item (checkRules rules candidate next) := by
  refine Atomic.after (Pipeline.asks_validateBy reads) fun verdict => ?_
  cases verdict with
  | ok _ => exact hnext
  | error r => exact atomic_refused r

/-- Field rules leave what follows them atomic, as they ask nothing. -/
theorem Atomic.checkFields {fields : List FieldRule} (hnext : Atomic supply item next) :
    Atomic supply item (checkFields fields item next) := by
  unfold Creation.checkFields
  split
  · exact atomic_throw _
  · split
    · exact hnext
    · split
      · exact atomic_refused _
      · exact atomic_throw _

/-- Turning a failure of the store into a refusal leaves an operation atomic. -/
theorem Atomic.orNotCreated {logger text entity : String} (hnext : Atomic supply item next) :
    Atomic supply item (orNotCreated logger text entity next) := by
  intro m faults
  apply Creation.Ends.orNotCreated (hnext m faults)
  intro err m' failed
  -- A failure left the store as it was, and so does the refusal that it becomes.
  generalize m'.store = after at failed ⊢
  cases failed
  exact Course.refused _

end Rules

end Creation

/-! ## The creations -/

/-- Creates an item of a collection. -/
def Collection.create : (c : Collection) → c.Item → Service (Outcome c.Item)
  | .organisations, o => Organisations.create o
  | .persons, p => Persons.create p
  | .roles, r => Roles.create r
  | .assignments, a => Assignments.create a

open Creation (Atomic Course atomic_refused atomic_save)

/-- The creation of an organisation is atomic. -/
theorem Organisations.atomic_create (o : Organisation) :
    Atomic (c := .organisations) supply o (create o) := by
  have saves : Atomic (c := .organisations) supply o (store o) := atomic_save fun _ _ => ⟨rfl, rfl⟩
  refine ((saves.checkRules fun r hr => ?_).orNotCreated).checkFields
  exact (OrganisationRules.looksUp_judge o r hr).reading

/-- The creation of a person is atomic. -/
theorem Persons.atomic_create (p : Person) : Atomic (c := .persons) supply p (create p) := by
  have saves : Atomic (c := .persons) supply p (store p) := atomic_save fun _ _ => ⟨rfl, rfl⟩
  have looksUp := (looksUp_referrerTaken p.referrer).reading
  refine (Atomic.after looksUp fun taken => ?_).orNotCreated.checkFields
  cases taken with
  | true => exact Atomic.after (Service.asks_note _) fun _ => atomic_refused _
  | false => exact saves

/-- The creation of a role is atomic. -/
theorem Roles.atomic_create (r : Role) : Atomic (c := .roles) supply r (create r) := by
  have saves : Atomic (c := .roles) supply r (store r) := by
    refine Atomic.after (looksUp_isAdministered r).reading fun administered => ?_
    cases administered with
    | true => exact atomic_save fun _ _ => ⟨rfl, rfl⟩
    | false => exact atomic_refused _
  refine saves.orNotCreated.checkRules fun rule hrule => ?_
  cases List.mem_singleton.mp hrule
  rw [Presence.judge_nameWithoutBlanks]
  exact Service.asks_pure _

/-- The creation of an assignment is atomic. -/
theorem Assignments.atomic_create (a : Assignment) :
    Atomic (c := .assignments) supply a (create a) := by
  have saves : Atomic (c := .assignments) supply a (store a) := by
    refine Atomic.after (looksUp_isStored a.key).reading fun stored => ?_
    cases stored with
    | true => exact atomic_refused _
    | false => exact atomic_save fun _ _ => ⟨rfl, rfl⟩
  have finds : (Service.ask (.get .persons a.personId)).Asks Request.IsRead :=
    Service.asks_ask trivial
  refine (Atomic.after finds fun person => ?_).orNotCreated
  split
  · exact saves.checkRules (AssignmentRules.asks_judge a)
  · exact atomic_refused _

/-- Every creation is atomic. -/
theorem Collection.atomic_create (c : Collection) (item : c.Item) :
    Atomic supply item (c.create item) := by
  cases c with
  | organisations => exact Organisations.atomic_create item
  | persons => exact Persons.atomic_create item
  | roles => exact Roles.atomic_create item
  | assignments => exact Assignments.atomic_create item

/-- A creation answers every outage by a refusal. -/
theorem Collection.answered_create (c : Collection) (item : c.Item) :
    (c.create item).Leads Answered false := by
  cases c with
  | organisations => exact Organisations.answered_create item
  | persons => exact Persons.answered_create item
  | roles => exact Roles.answered_create item
  | assignments => exact Assignments.answered_create item

/-- A creation asks nothing that must fail. -/
theorem Collection.succeeds_create (c : Collection) (item : c.Item) :
    (c.create item).Asks Request.Succeeds := by
  have looks (r : Request) (looksUp : r.IsLookUp) : r.Succeeds := looksUp.succeeds
  have saves : (Request.save c item).Succeeds := fun _ _ => ⟨_, rfl⟩
  cases c with
  | organisations => exact Organisations.asks_create_of looks saves
  | persons => exact Persons.asks_create_of looks saves
  | roles => exact Roles.asks_create_of looks saves
  | assignments => exact Assignments.asks_create_of looks saves

/-- A deletion removes what has the identifier and is accepted, or the store is as before. -/
theorem Assignments.ends_delete {m : Monitored Memory} (faults : m.Faulty) (id : String) :
    (Memory.monitored supply).Ends (delete id) m fun x m' =>
      x = .ok (.ok ()) ∧ m'.store = (m.store.delete .assignments id).2 ∨
        x ≠ .ok (.ok ()) ∧ m'.store = m.store := by
  unfold delete
  rw [Engine.ends_onStorageFailure]
  refine (Memory.ends_delete (c := .assignments) faults id).bind ?_ ?_
  · rintro deleted m' ⟨-, ⟨⟨⟩, removed⟩ | ⟨kept, ⟨⟨⟩, -⟩ | ⟨_, ⟨⟩, -⟩⟩⟩
    · exact .inl ⟨rfl, removed⟩
    · exact .inr ⟨nofun, kept⟩
  · rintro f m' ⟨-, ⟨⟨⟩, -⟩ | ⟨kept, -⟩⟩
    cases f <;> exact .inr ⟨nofun, kept⟩

/-! ## All or nothing -/

/-- The service returns an outcome. If that is accepted, it leaves what it is to leave, and
otherwise the store as it was. -/
def AllOrNothing (m : Memory) (leaves : α → Memory → Prop) (x : Except Failure (Outcome α))
    (m' : Monitored Memory) : Prop :=
  ∃ outcome, x = .ok outcome ∧ match outcome with
    | .ok a => leaves a m'.store
    | .error _ => m'.store = m

/-- A creation with an outcome has stored the item or has changed nothing. -/
theorem Creation.Course.allOrNothing {item : c.Item} {m : Memory} {m' : Monitored Memory}
    {x : Except Failure (Outcome c.Item)} (course : Course supply item m x m'.store) {met : Bool}
    (answered : Answered met x) : AllOrNothing m (Memory.Received c · m) x m' := by
  obtain ⟨outcome, rfl, -⟩ := answered
  refine ⟨outcome, rfl, ?_⟩
  generalize m'.store = after at course
  cases course with
  | stored => exact Memory.received_save item m
  | refused r => rfl

/-- Creations and the deletion are atomic: under any outages of the store each of them returns an
outcome. A refused one leaves the store as it was. An accepted creation leaves the item under its
identifier and everything else as it was, and an accepted deletion leaves everything else. -/
theorem single_writes_atomic (supply : Supply) (m : Memory) {outages : List Disturbance}
    (only : ∀ d ∈ outages, d.IsOutage) :
    (∀ (c : Collection) (item : c.Item),
      (Memory.monitored supply).Ends (c.create item) (.under outages m)
        (AllOrNothing m (Memory.Received c · m))) ∧
    ∀ id, (Memory.monitored supply).Ends (Assignments.delete id) (.under outages m)
      (AllOrNothing m fun _ m' => m' = (m.delete .assignments id).2) := by
  have faulty : (Monitored.under outages m).Faulty := fun d hd => (only d hd).isFault
  constructor
  · intro c item
    have answered : (Memory.monitored supply).Ends (c.create item) (.under outages m) fun x _ =>
        Answered ((Memory.monitored supply).raises (c.create item) (.under outages m)) x :=
      (c.answered_create item).ends (c.succeeds_create item) only
    refine ((c.atomic_create item _ faulty).and answered).imp ?_
    rintro x m' ⟨course, answered⟩
    exact course.allOrNothing answered
  · intro id
    have succeeds : (Assignments.delete id).Asks Request.Succeeds :=
      Assignments.asks_delete_of fun _ _ => ⟨_, rfl⟩
    have answered : (Memory.monitored supply).Ends (Assignments.delete id) (.under outages m)
        fun x _ => Answered
          ((Memory.monitored supply).raises (Assignments.delete id) (.under outages m)) x :=
      (Assignments.answered_delete id).ends succeeds only
    refine ((Assignments.ends_delete faulty id).and answered).imp ?_
    rintro x m' ⟨ended, outcome, rfl, -⟩
    refine ⟨outcome, rfl, ?_⟩
    rcases ended with ⟨⟨⟩, removed⟩ | ⟨other, kept⟩
    · exact removed
    · cases outcome with
      | ok _ => exact absurd rfl other
      | error r => exact kept

/-- The save is lost, the creation is refused, and the store is as it was. -/
theorem single_writes_atomic_lostSave :
    let ended := (Memory.monitored (.counting Supply.usualStart)).run
      (Collection.persons.create (.erika none (some "R-1")))
      (.under [personsFail .save] (Memory.empty []))
    Replacement.Refuses ended.result ∧ ended.state.calls.length = 2 ∧
      ended.state.store = Memory.empty [] := by
  intro ended
  have refused : Replacement.Refuses ended.result := by decide +kernel
  have atomic := single_writes_atomic (.counting Supply.usualStart) (Memory.empty [])
    (isOutage_personsFail .save)
  refine ⟨refused, by decide +kernel, ?_⟩
  obtain ⟨r, returned⟩ := refused
  obtain ⟨outcome, same, left⟩ := atomic.1 .persons (.erika none (some "R-1"))
  cases returned.symm.trans same
  exact left

/-! ## What else was there -/

namespace Creation

/-- The service accepts. -/
def Accepts (x : Except Failure (Outcome α)) : Prop := ∃ a, x = .ok (.ok a)

instance (x : Except Failure (Outcome α)) : Decidable (Accepts x) :=
  match x with
  | .ok (.ok a) => isTrue ⟨a, rfl⟩
  | .ok (.error _) => isFalse fun ⟨_, h⟩ => nomatch h
  | .error _ => isFalse fun ⟨_, h⟩ => nomatch h

end Creation

open Creation (Accepts)

/-- An accepted creation leaves everything there and adds one item exactly if no stored item has
the identifier that the item gets, whether it brings it or is issued it. -/
theorem accepted_adds_iff (supply : Supply) {m : Memory} {faults : List Disturbance}
    (faulty : ∀ d ∈ faults, d.IsFault) (c : Collection) (item : c.Item) :
    (Memory.monitored supply).Ends (c.create item) (.under faults m) fun x m' => Accepts x →
      (Memory.Grown c m m'.store ↔
        ∀ y ∈ m.shelves c, Entity.id y ≠ some (Memory.idFor supply c item m)) := by
  refine (c.atomic_create item (.under faults m) faulty).imp ?_
  rintro x m' course ⟨a, rfl⟩
  generalize m'.store = store at course
  cases course
  exact Memory.grown_save_iff item m

/-- A store with one person. -/
def onePerson : Memory :=
  ((Memory.empty []).save (.counting Supply.usualStart) .persons (.erika none (some "R-1"))).2

/-- A person with the identifier of a stored one takes the place of that one. -/
theorem accepted_adds_iff_takenOver :
    let ended := (Memory.monitored (.counting Supply.usualStart)).run
      (Collection.persons.create (.erika (some "person-1") none))
      (.under [personsFail .query] onePerson)
    Accepts ended.result ∧ ¬Memory.Grown .persons onePerson ended.state.store := by
  intro ended
  have accepted : Accepts ended.result := by decide +kernel
  have faulty : ∀ d ∈ [personsFail .query], d.IsFault :=
    fun d hd => (isOutage_personsFail .query d hd).isFault
  have iff := accepted_adds_iff (.counting Supply.usualStart) faulty .persons
    (.erika (some "person-1") none) accepted
  refine ⟨accepted, fun grown => ?_⟩
  have new := iff.mp grown
  revert new
  decide +kernel

/-- A creation may cost an item that was there. -/
theorem create_not_always_adds :
    ¬∀ (supply : Supply) (m : Memory) (c : Collection) (item : c.Item),
      (Memory.engine supply).Ends (c.create item) m fun x m' =>
        Accepts x → Memory.Grown c m m' := by
  intro all
  have accepted : Accepts ((Memory.engine (.counting Supply.usualStart)).run
      (Collection.persons.create (.erika (some "person-1") none)) onePerson).result := by
    decide +kernel
  obtain ⟨item, same⟩ := (all _ onePerson .persons _ accepted).one
  have length := same.length_eq
  rw [List.length_cons] at length
  revert length
  decide +kernel

end SchoolRegistry
