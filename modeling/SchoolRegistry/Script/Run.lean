import SchoolRegistry.Script.Basic

/-!
# Running scripts

A script runs in a workspace: a registry over a monitored store, and the
entities that were kept. What an action changes stays, even if the action fails
afterwards: assignments to a kept entity that precede a failing one last. A
failing action does not leave its block; only the abort at the end of a block
makes it fail.
-/

namespace SchoolRegistry

/-- Where a script runs. -/
structure Workspace (σ : Type) where
  backend : Backend σ
  supply : Supply
  store : Monitored σ
  registry : Registry
  /-- The entities that were kept. -/
  objects : List Held
  /-- The names of kept entities, by their places. -/
  names : List (String × Nat)
  /-- The collections that were remembered. -/
  remembered : List (String × Shelves)

namespace Workspace

/-- A workspace before any step. -/
def new {σ : Type} (backend : Backend σ) (store : σ) (registry : Registry) : Workspace σ :=
  ⟨backend, .counting Supply.usualStart, .quiet store, registry, [], [], []⟩

variable {σ α : Type}

/-- A part of a script that can fail. -/
abbrev Part (σ α : Type) := ExceptT Failure (StateM (Workspace σ)) α

/-- The engine of the monitored store. -/
def engine (w : Workspace σ) : Engine (Monitored σ) :=
  Monitored.engine (w.backend.engine w.supply)

/-- The result of a computation. -/
def lift (x : Except Failure α) : Part σ α := ExceptT.mk (pure x)

/-- Uses the store. -/
def onStore (use : Workspace σ → Monitored σ → Except Failure α × Monitored σ) : Part σ α := do
  let w ← get
  let (x, store) := use w w.store
  set { w with store := store }
  lift x

/-- Runs a service. -/
def serve (s : Service α) : Part σ α := onStore fun w store =>
  let ran := w.engine.run s store
  (ran.result, ran.state)

/-! ## Entities -/

/-- Keeps an entity. -/
def keep (h : Held) : Part σ Nat := do
  let w ← get
  set { w with objects := w.objects ++ [h] }
  pure w.objects.length

/-- Assigns to an entity that was kept. -/
def change (name : String) (changes : Fields) : Part σ (Nat × Held) := do
  let w ← get
  match (w.names.lookup name).bind fun i => (w.objects[i]?).map fun h => (i, h) with
  | none => throw (.unforeseen ("nothing is kept as " ++ name))
  | some (i, h) =>
    let (item, outcome) := (Entity.model : Model h.collection.Item).assignAll changes h.item
    set { w with objects := w.objects.set i ⟨h.collection, item⟩ }
    lift outcome
    pure (i, ⟨h.collection, item⟩)

/-- The entity for an action. -/
def take (c : Collection) (e : Given) : Part σ c.Item := do
  match e.source with
  | .kept name => do
    let (_, h) ← change name e.changes
    if same : h.collection = c then pure (same ▸ h.item) else throw .wrongType
  | .data fields => do
    let item ← lift ((Entity.model : Model c.Item).parse fields)
    let (item, outcome) := (Entity.model : Model c.Item).assignAll e.changes item
    lift outcome
    pure item

/-! ## Actions -/

/-- The items of a collection, where they can be touched directly. -/
def shelf (c : Collection) : Part σ (List c.Item) := do
  let w ← get
  match w.backend.shelves w.store.store with
  | some shelves => pure (shelves c)
  | none => throw .noAttribute

/-- Replaces the items of a collection. -/
def setShelf (c : Collection) (items : List c.Item) : Part σ Unit := do
  let w ← get
  match w.backend.shelves w.store.store with
  | some shelves =>
    let store := w.backend.setShelves (shelves.put c items) w.store.store
    set { w with store := { w.store with store := store } }
  | none => throw .noAttribute

/-- Lists collections without logging it. -/
def listings : List Collection → Part σ (List ((c : Collection) × Except Failure (List c.Item)))
  | [] => pure []
  | c :: rest => do
    let listing ← onStore fun w store =>
      let (x, store) := Monitored.pass (w.backend.engine w.supply).handler (.list c none) store
      (.ok x, store)
    let more ← listings rest
    pure (⟨c, listing⟩ :: more)

/-- Judges a replacement by each of the rules. -/
def verdicts (r : Replacement) : List (Rule Service Replacement) → Part σ (List Value)
  | [] => pure []
  | rule :: rest => do
    let v ← serve (rule.judge r)
    let vs ← verdicts r rest
    pure (v :: vs)

/-- Carries out an action. -/
def carryOut : Action → Part σ Result
  | .perform o => do
    let reply ← serve ((← get).registry.perform o)
    pure (.ofReply o reply)
  | .create c e => do
    let o := Operation.create c (← take c e)
    let reply ← serve ((← get).registry.perform o)
    pure (.ofReply o reply)
  | .judge c r e => do
    let item ← take c e
    let verdict ← serve (r.judge item)
    pure (.judged verdict (r.violation item))
  | .check r => do
    let vs ← verdicts r Replacement.rules
    let outcome ← serve (Pipeline.validate ⟨Replacement.rules.map .rule⟩ r)
    pure (.checked vs outcome)
  | .save c e => do
    let item ← take c e
    let stored : c.Item ← serve (Service.ask (.save c item))
    pure (.entity ⟨c, stored⟩)
  | .get c id => do
    let found : Option c.Item ← serve (Service.ask (.get c id))
    match found with
    | some item => pure (.entity ⟨c, item⟩)
    | none => pure .nothing
  | .delete c id => do
    let found : Bool ← serve (Service.ask (.delete c id))
    pure (.flag found)
  | .list c ids => do
    let items : List c.Item ← serve (Service.ask (.list c ids))
    pure (.entities c items)
  | .query c q => do
    let found : Counted c.Item ← serve (Service.ask (.query c q))
    pure (.counted c found)
  | .find c q => do
    let found ← onStore fun w store =>
      Monitored.find (w.backend.engine w.supply).handler c q store
    pure (.counted c found)
  | .look c e => do
    let item ← take c e
    pure (.look ⟨c, item⟩)
  | .change name changes => do
    let (_, h) ← change name changes
    pure (.entity h)
  | .dump => do
    let all ← listings Collection.all
    pure (.listings all)
  | .setClock start => do
    modify fun w =>
      { w with supply := w.supply.resetClock start (w.backend.readings w.store.store) }
    pure .nothing
  | .commit => do
    onStore fun w => w.engine.commit
    pure .nothing
  | .rollback => do
    onStore fun w => w.engine.rollback
    pure .nothing
  | .report => do
    let w ← get
    pure (.report (w.backend.report w.store.store))
  | .disturb d => do
    modify fun w => { w with
      store := { w.store with disturbances := w.store.disturbances ++ [d] } }
    pure .nothing
  | .calm => do
    modify fun w => { w with store := { w.store with disturbances := [] } }
    pure .nothing
  | .count c => do
    let items ← shelf c
    pure (.number items.length)
  | .clear c => do
    setShelf c []
    pure .nothing
  | .remember c name => do
    let items ← shelf c
    modify fun w => { w with
      remembered := (name, Shelving.put c items .empty) :: w.remembered }
    pure (.number items.length)
  | .recall c name => do
    match (← get).remembered.lookup name with
    | some kept => setShelf c (kept c)
    | none => throw (.unforeseen ("nothing is remembered as " ++ name))
    pure .nothing

/-- Where the entity that an action returns is kept: one that was kept before
stays where it is. -/
def placeOf (a : Action) (r : Result) : Part σ (Option Nat) := do
  match a, r.held? with
  | .change name _, _ => pure ((← get).names.lookup name)
  | _, some h => do
    let i ← keep h
    pure (some i)
  | _, none => pure none

/-- Gives a name to the entity that an action returns. -/
def nameResult (a : Action) (r : Result) : Option String → Part σ Unit
  | none => pure ()
  | some name => do
    match ← placeOf a r with
    | some i => modify fun w => { w with names := (name, i) :: w.names }
    | none => pure ()

/-- Carries out an action, if it could be read, and gives a name to what it
returns. -/
def act (a : Except Failure Action) (keepAs : Option String) : Part σ Result := do
  let a ← lift a
  let r ← carryOut a
  nameResult a r keepAs
  pure r

/-! ## Steps -/

/-- The outcome of a block that was left by an abort or not. -/
def exitOf (abort : Option String) : Except Failure Unit → Except Failure Unit
  | .error f => .error f
  | .ok () => match abort with
    | some m => .error (.aborted m)
    | none => .ok ()

/-- The workspace with another state of the store. -/
def withStore (w : Workspace σ) (store : Monitored σ) : Workspace σ := { w with store := store }

/-- The workspace with no calls logged. -/
def unlogged (w : Workspace σ) : Workspace σ := w.withStore { w.store with calls := [] }

mutual

/-- Takes a step. -/
def step (w : Workspace σ) : Step → Entry × Workspace σ
  | .act a keepAs =>
    let (result, w) := (ExceptT.run (act a keepAs)).run w.unlogged
    (.done result w.store.calls, w)
  | .work ds abort =>
    let (entries, w) := steps (w.withStore (w.engine.enter w.store)) ds
    let (left, store) := w.engine.leave abort.isSome w.store
    (.block entries (exitOf abort left), w.withStore store)
  | .savepoint ds abort =>
    match w.engine.handler.answer .setSavepoint w.store with
    | (.error f, store) => (.block [] (.error f), w.withStore store)
    | (.ok (), store) =>
      let (entries, w) := steps (w.withStore store) ds
      let (left, store) :=
        if abort.isSome then w.engine.handler.answer .undoSavepoint w.store
        else w.engine.handler.answer .keepSavepoint w.store
      (.block entries (exitOf abort left), w.withStore store)

/-- Takes steps in their order. -/
def steps (w : Workspace σ) : List Step → List Entry × Workspace σ
  | [] => ([], w)
  | d :: ds =>
    let (entry, w) := step w d
    let (entries, w) := steps w ds
    (entry :: entries, w)

end

end Workspace

end SchoolRegistry
