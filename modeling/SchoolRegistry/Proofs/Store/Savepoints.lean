import SchoolRegistry.Proofs.Store.Memory
import SchoolRegistry.Proofs.Store.Running

/-!
# Savepoints

What a tree of writes in nested savepoints leaves of a store, with any number of collections and
exceptions that are raised and caught anywhere. `Work.writes` lists the writes that are carried
out, in order, and marks those that lie in a block left by an exception; it does not look at a
store. `savepoints_undo_own_writes` says that the store afterwards is as if, in the collections
that take part in savepoints, the unmarked writes had been carried out alone, under the identifiers
and at the times that they had among all of them. The other collections keep every write.

Snapshots do not occur in that statement. `undo_after` is the step that does away with them: a
block left by an exception keeps none of its writes, so to put its snapshot back is to replay
nothing. Identifiers and times are not put back: writes after an undone block get later ones.
-/

namespace SchoolRegistry.Depot

variable {ι ε : Type} {Item : ι → Type}

/-- A call that changes a collection. -/
inductive Write (Item : ι → Type) where
  | save (c : ι) (item : Item c)
  | delete (c : ι) (id : String)

/-- Writes, exceptions and the blocks around them. -/
inductive Work (ε : Type) (Item : ι → Type) where
  | done
  | write (w : Write Item)
  | raise (e : ε)
  | andThen (first second : Work ε Item)
  /-- A block in a savepoint. -/
  | savepoint (body : Work ε Item)
  /-- A block whose exceptions are caught; what the handler raises propagates. -/
  | handled (body : Work ε Item) (handler : ε → Work ε Item)

/-- What a write does to its collection, under the identifier and at the time given to it. -/
inductive Change (Item : ι → Type) where
  | put (c : ι) (id : String) (stored : Item c)
  | drop (c : ι) (id : String)

section

variable [DecidableEq ι] [∀ c, Entity (Item c)]

namespace Write

/-- Carries out the call. -/
def run (supply : SupplyFor ι) : Write Item → Depot Item → Depot Item
  | save c item, d => (d.save supply c item).2
  | delete c id, d => (d.delete c id).2

/-- What is drawn for the write: the time for a save, and an identifier if there is none. -/
def draw : Write Item → DrawnFor ι → DrawnFor ι
  | save c item, drawn =>
    if (Entity.id item).isNone then drawn.drawTime.drawId c else drawn.drawTime
  | delete _ _, drawn => drawn

/-- The change that the write makes. -/
def change (supply : SupplyFor ι) : Write Item → DrawnFor ι → Change Item
  | save c item, drawn =>
    let id := (Entity.id item).getD (supply.id c (drawn.ids c))
    .put c id (Memory.stamped id (supply.time drawn.times) item)
  | delete c id, _ => .drop c id

end Write

namespace Change

/-- Makes the change. -/
def apply : Change Item → Shelving Item → Shelving Item
  | put c id stored, s => s.put c (Memory.store id stored (s c))
  | drop c id, s => s.put c (Memory.remove id (s c))

/-- Makes changes one after the other. -/
def replay (changes : List (Change Item)) (s : Shelving Item) : Shelving Item :=
  changes.foldl (fun s change => change.apply s) s

/-- A change to a collection looks at no other one. -/
theorem apply_congr {s s' : Shelving Item} {c : ι} (h : s c = s' c) (change : Change Item) :
    change.apply s c = change.apply s' c := by
  cases change with
  | put c' id stored =>
    by_cases same : c = c'
    · subst same
      simp [apply, h]
    · simp [apply, same, h]
  | drop c' id =>
    by_cases same : c = c'
    · subst same
      simp [apply, h]
    · simp [apply, same, h]

/-- Changes do the same to a collection that is the same. -/
theorem replay_congr {s s' : Shelving Item} {c : ι} (h : s c = s' c)
    (changes : List (Change Item)) : replay changes s c = replay changes s' c := by
  induction changes generalizing s s' with
  | nil => exact h
  | cons change rest ih => exact ih (apply_congr h change)

/-- Changes of two lists are made one after the other. -/
theorem replay_append (first second : List (Change Item)) (s : Shelving Item) :
    replay (first ++ second) s = replay second (replay first s) := List.foldl_append

end Change

/-- A write changes the shelves and draws, and nothing else. -/
theorem Write.run_eq (supply : SupplyFor ι) (w : Write Item) (d : Depot Item) :
    w.run supply d = { d with
      shelves := (w.change supply d.drawn).apply d.shelves, drawn := w.draw d.drawn } := by
  cases w with
  | save c item =>
    cases h : Entity.id item <;>
      simp [Write.run, Write.change, Write.draw, Change.apply, Depot.save, DrawnFor.drawTime, h]
  | delete c id => rfl

namespace Work

/-! ## Running -/

/-- Carries out the work. -/
def run (supply : SupplyFor ι) : Work ε Item → Depot Item → Except ε Unit × Depot Item
  | done, d => (.ok (), d)
  | write w, d => (.ok (), w.run supply d)
  | raise e, d => (.error e, d)
  | andThen first second, d =>
    match first.run supply d with
    | (.ok (), d) => second.run supply d
    | (.error e, d) => (.error e, d)
  | savepoint body, d =>
    match body.run supply d.setSavepoint with
    | (.ok (), d) => (.ok (), d.keepSavepoint)
    | (.error e, d) => (.error e, d.undo)
  | handled body handler, d =>
    match body.run supply d with
    | (.ok (), d) => (.ok (), d)
    | (.error e, d) => (handler e).run supply d

end Work

end

namespace Work

/-! ## What the tree says by itself -/

/-- How the work ends: a block ends as what is in it. -/
def exit : Work ε Item → Except ε Unit
  | done => .ok ()
  | write _ => .ok ()
  | raise e => .error e
  | andThen first second =>
    match first.exit with
    | .ok () => second.exit
    | .error e => .error e
  | savepoint body => body.exit
  | handled body handler =>
    match body.exit with
    | .ok () => .ok ()
    | .error e => (handler e).exit

/-- The writes carried out, in order, and whether they lie in a block left by an exception. -/
def writes : Work ε Item → List (Write Item × Bool)
  | done => []
  | write w => [(w, false)]
  | raise _ => []
  | andThen first second =>
    match first.exit with
    | .ok () => first.writes ++ second.writes
    | .error _ => first.writes
  | savepoint body =>
    match body.exit with
    | .ok () => body.writes
    | .error _ => body.writes.map fun p => (p.1, true)
  | handled body handler =>
    match body.exit with
    | .ok () => body.writes
    | .error e => body.writes ++ (handler e).writes

/-- The number of blocks left by an exception. -/
def broken : Work ε Item → Nat
  | done => 0
  | write _ => 0
  | raise _ => 0
  | andThen first second =>
    match first.exit with
    | .ok () => first.broken + second.broken
    | .error _ => first.broken
  | savepoint body =>
    match body.exit with
    | .ok () => body.broken
    | .error _ => body.broken + 1
  | handled body handler =>
    match body.exit with
    | .ok () => body.broken
    | .error e => body.broken + (handler e).broken

end Work

namespace Write

variable [DecidableEq ι] [∀ c, Entity (Item c)]

/-- What is drawn for writes. -/
def drawAll (ws : List (Write Item × Bool)) (drawn : DrawnFor ι) : DrawnFor ι :=
  ws.foldl (fun drawn p => p.1.draw drawn) drawn

/-- The changes of writes, each as it is given when its turn comes. -/
def changes (supply : SupplyFor ι) : List (Write Item × Bool) → DrawnFor ι →
    List (Change Item × Bool)
  | [], _ => []
  | p :: rest, drawn => (p.1.change supply drawn, p.2) :: changes supply rest (p.1.draw drawn)

/-- Later writes are given what is drawn after the earlier ones. -/
theorem changes_append (supply : SupplyFor ι) (first second : List (Write Item × Bool))
    (drawn : DrawnFor ι) : changes supply (first ++ second) drawn =
      changes supply first drawn ++ changes supply second (drawAll first drawn) := by
  induction first generalizing drawn with
  | nil => rfl
  | cons p first ih => simp only [List.cons_append, changes, ih]; rfl

/-- The marks do not matter for what is drawn. -/
theorem drawAll_marked (ws : List (Write Item × Bool)) (drawn : DrawnFor ι) :
    drawAll (ws.map fun p => (p.1, true)) drawn = drawAll ws drawn := by
  simp [drawAll, List.foldl_map]

theorem changes_marked (supply : SupplyFor ι) (ws : List (Write Item × Bool)) (drawn : DrawnFor ι) :
    changes supply (ws.map fun p => (p.1, true)) drawn =
      (changes supply ws drawn).map fun p => (p.1, true) := by
  induction ws generalizing drawn with
  | nil => rfl
  | cons p ws ih => simp only [List.map_cons, changes, ih]

end Write

namespace Change

/-- The changes that count for a collection: all of them, or, if it takes part in savepoints, those
in no block left by an exception. -/
def counting (enlisted : Bool) (changes : List (Change Item × Bool)) : List (Change Item) :=
  (changes.filter fun p => !(enlisted && p.2)).map Prod.fst

theorem counting_append (enlisted : Bool) (first second : List (Change Item × Bool)) :
    counting enlisted (first ++ second) = counting enlisted first ++ counting enlisted second := by
  simp [counting]

/-- A block left by an exception counts for nothing in the collections that take part. -/
theorem counting_marked (enlisted : Bool) (changes : List (Change Item × Bool)) :
    counting enlisted (changes.map fun p => (p.1, true)) =
      if enlisted then [] else counting enlisted changes := by
  cases enlisted <;> simp [counting, List.filter_eq_self.mpr, Function.comp_def]

end Change

variable [DecidableEq ι] [∀ c, Entity (Item c)] {supply : SupplyFor ι}

/-! ## What a run leaves -/

/-- The store after writes, with so many blocks left by an exception. -/
def after (supply : SupplyFor ι) (ws : List (Write Item × Bool)) (broken : Nat) (d : Depot Item) :
    Depot Item :=
  { d with
    shelves := fun c => Change.replay (Change.counting (d.enlisted.contains c)
      (Write.changes supply ws d.drawn)) d.shelves c
    drawn := Write.drawAll ws d.drawn
    undone := d.undone + broken }

/-- The depot after two works is the one after their writes together. -/
theorem after_append (first second : List (Write Item × Bool)) (k n : Nat) (d : Depot Item) :
    after supply second n (after supply first k d) = after supply (first ++ second) (k + n) d := by
  have shelves : ∀ c, (after supply second n (after supply first k d)).shelves c =
      (after supply (first ++ second) (k + n) d).shelves c := by
    intro c
    simp only [after, Write.changes_append, Change.counting_append, Change.replay_append]
    apply Change.replay_congr
    rfl
  refine (Depot.mk.injEq ..).mpr ⟨funext shelves, ?_, rfl, rfl, rfl, rfl, Nat.add_assoc ..⟩
  exact List.foldl_append.symm

/-- A block left by an exception keeps none of its writes where a snapshot is put back. -/
theorem undo_after (ws : List (Write Item × Bool)) (n : Nat) (d : Depot Item) :
    (after supply ws n d.setSavepoint).undo =
      after supply (ws.map fun p => (p.1, true)) (n + 1) d := by
  have shelves : ∀ c, (after supply ws n d.setSavepoint).undo.shelves c =
      (after supply (ws.map fun p => (p.1, true)) (n + 1) d).shelves c := by
    intro c
    simp only [after, undo, setSavepoint, Shelving.restore, Write.changes_marked,
      Change.counting_marked]
    by_cases enlisted : d.enlisted.contains c
    · simp only [enlisted, if_true]
      rfl
    · simp only [enlisted]
      rfl
  refine (Depot.mk.injEq ..).mpr ⟨funext shelves, ?_, rfl, rfl, rfl, rfl, rfl⟩
  exact (Write.drawAll_marked ws d.drawn).symm

/-- A write by itself. -/
theorem run_write (w : Write Item) (d : Depot Item) :
    w.run supply d = after supply [(w, false)] 0 d := by
  rw [Write.run_eq]
  refine (Depot.mk.injEq ..).mpr ⟨funext fun c => ?_, rfl, rfl, rfl, rfl, rfl, rfl⟩
  simp [Write.changes, Change.counting, Change.replay]

/-- A savepoint that is kept leaves the writes as they are. -/
theorem keepSavepoint_after (ws : List (Write Item × Bool)) (n : Nat) (d : Depot Item) :
    (after supply ws n d.setSavepoint).keepSavepoint = after supply ws n d := rfl

namespace Work

/-- Work ends as its exit says, in the depot after its writes. -/
theorem run_eq (w : Work ε Item) (d : Depot Item) :
    w.run supply d = (w.exit, after supply w.writes w.broken d) := by
  induction w generalizing d with
  | done => rfl
  | raise e => rfl
  | write w => rw [run, run_write, exit, writes, broken]
  | andThen first second ihFirst ihSecond =>
    rw [run, ihFirst]
    cases h : first.exit with
    | ok a => simp only [exit, writes, broken, h, ihSecond, after_append]
    | error e => simp only [exit, writes, broken, h]
  | savepoint body ih =>
    rw [run, ih]
    cases h : body.exit with
    | ok a => simp only [exit, writes, broken, h, keepSavepoint_after]
    | error e => simp only [exit, writes, broken, h, undo_after]
  | handled body handler ihBody ihHandler =>
    rw [run, ihBody]
    cases h : body.exit with
    | ok a => simp only [exit, writes, broken, h]
    | error e => simp only [exit, writes, broken, h, ihHandler, after_append]

/-! ## Work as a service -/

/-- The work as a service, whose exceptions are failures. -/
def service : Work Failure Collection.Item → Service Unit
  | done => pure ()
  | write (.save c item) => do
    let _ ← Service.ask (.save c item)
    pure ()
  | write (.delete c id) => do
    let _ ← Service.ask (.delete c id)
    pure ()
  | raise f => throw f
  | andThen first second => do
    first.service
    second.service
  | savepoint body => body.service.inSavepoint
  | handled body handler => do
    match ← body.service.attempt with
    | .ok () => pure ()
    | .error f => (handler f).service

/-- Services do with a store in memory what the work does. -/
theorem ends_service (supply : Supply) (w : Work Failure Collection.Item) (m : Memory) :
    (Memory.engine supply).Ends w.service m fun x m' => w.run supply m = (x, m') := by
  induction w generalizing m with
  | done => rfl
  | raise f => rfl
  | write w => cases w <;> rfl
  | andThen first second ihFirst ihSecond =>
    refine Engine.ends_bind.mpr ((ihFirst m).imp fun x m' ran => ?_)
    cases x with
    | ok a => exact (ihSecond m').imp fun y m'' ran' => by rw [run, ran, ← ran']
    | error f => simp only [run, ran]
  | savepoint body ih =>
    refine Engine.ends_bind.mpr (Engine.ends_ask.mpr ?_)
    refine Engine.ends_bind.mpr (Engine.ends_attempt.mpr ((ih m.setSavepoint).imp ?_))
    rintro (f | a) m' ran
    · refine Engine.ends_bind.mpr (Engine.ends_ask.mpr ?_)
      show run supply body.savepoint m = (.error f, Depot.undo m')
      rw [run, ran]
    · refine Engine.ends_bind.mpr (Engine.ends_ask.mpr ?_)
      show run supply body.savepoint m = (.ok (), Depot.keepSavepoint m')
      rw [run, ran]
  | handled body handler ihBody ihHandler =>
    rw [service, Engine.ends_bind, Engine.ends_attempt]
    refine (ihBody m).imp fun x m' ran => ?_
    cases x with
    | ok a =>
      show run supply (body.handled handler) m = (.ok (), m')
      rw [run, ran]
    | error f => exact (ihHandler f m').imp fun y m'' ran' => by rw [run, ran, ← ran']

end Work

/-- Savepoints undo exactly their own writes: the collections that take part in them end as the
writes outside the blocks left by an exception leave them, the others as all writes do, and what
those writes were given are the identifiers and times of their turn among all writes. Exceptions
leave a block as they are, and the blocks that they leave are counted. The second part says that
over the store of the services this is what `Service.inSavepoint` does. -/
theorem savepoints_undo_own_writes :
    (∀ (ι ε : Type) [DecidableEq ι] (Item : ι → Type) [∀ c, Entity (Item c)]
      (supply : SupplyFor ι) (w : Work ε Item) (d : Depot Item),
      let changes := Write.changes supply w.writes d.drawn
      let left := (w.run supply d).2
      (w.run supply d).1 = w.exit ∧
      (∀ c, left.shelves c =
        Change.replay (Change.counting (d.enlisted.contains c) changes) d.shelves c) ∧
      left.drawn = Write.drawAll w.writes d.drawn ∧
      left.undone = d.undone + w.broken ∧
      left.enlisted = d.enlisted ∧ left.savepoints = d.savepoints) ∧
    ∀ (supply : Supply) (w : Work Failure Collection.Item) (m : Memory),
      let ran := (Memory.engine supply).run w.service m
      (ran.result, ran.state) = w.run supply m := by
  refine ⟨?_, fun supply w m => (Work.ends_service supply w m).symm⟩
  intro ι ε _ Item _ supply w d
  rw [Work.run_eq]
  exact ⟨rfl, fun c => rfl, rfl, rfl, rfl, rfl⟩

end SchoolRegistry.Depot
