import SchoolRegistry.Store.Program

/-!
# Monitored stores

A monitored store keeps a log of the calls on its collections and can be told to
disturb some of them: a disturbed call fails or is answered with a given value,
and the store never sees it. Savepoints are no calls on a collection; they are
neither logged nor disturbed.
-/

namespace SchoolRegistry

/-! ## Calls -/

/-- The ways to call a collection. -/
inductive Access where
  | get
  | save
  | delete
  | list
  /-- To find items through a query. -/
  | find
  /-- To run a query. -/
  | query
deriving DecidableEq

namespace Access

/-- The ways to call a collection. -/
def all : List Access := [get, save, delete, list, find, query]

/-- The name of a way. -/
def name : Access → String
  | get => "get"
  | save => "save"
  | delete => "delete"
  | list => "list_all"
  | find => "find_by"
  | query => "execute_scope"

/-- The way of the given name. -/
def ofName? (s : String) : Option Access := all.find? fun a => a.name == s

end Access

/-- A call on a collection, with the identifier that it names. -/
structure Call where
  collection : Collection
  access : Access
  id : Option String
deriving DecidableEq

namespace Call

/-- The text of a call. -/
def toText (c : Call) : String :=
  c.collection.name ++ "." ++ c.access.name ++ (match c.id with
    | some id => ":" ++ id
    | none => "")

/-- The call that a request makes. -/
def ofRequest? : Request → Option Call
  | .get c id => some ⟨c, .get, some id⟩
  | .save c _ => some ⟨c, .save, none⟩
  | .delete c id => some ⟨c, .delete, some id⟩
  | .list c _ => some ⟨c, .list, none⟩
  | .query c _ => some ⟨c, .query, none⟩
  | .setSavepoint => none
  | .keepSavepoint => none
  | .undoSavepoint => none

end Call

/-! ## Disturbances -/

/-- What happens to a disturbed call. -/
inductive Interruption where
  /-- It fails. -/
  | failure (f : Failure)
  /-- It is answered with a value. -/
  | reply (v : Value)

/-- The items that values stand for. -/
def itemsOf (c : Collection) : List Value → Except Failure (List c.Item)
  | [] => .ok []
  | .record _ _ fields :: rest =>
    match (Entity.model : Model c.Item).parse fields with
    | .ok item => (itemsOf c rest).map fun items => item :: items
    | .error e => .error e
  | _ :: _ => .error .noAttribute

/-- A value as the answer to a request. -/
def replyOf : (r : Request) → Value → Except Failure r.Reply
  | .get c _, v =>
    match v with
    | .null => .ok none
    | v => (itemsOf c [v]).map List.head?
  | .save c _, v =>
    match itemsOf c [v] with
    | .ok (item :: _) => .ok item
    | .ok [] => .error .noAttribute
    | .error e => .error e
  | .delete _ _, v => .ok v.truthy
  | .list c _, v =>
    match v with
    | .list vs => itemsOf c vs
    | _ => .error .noAttribute
  | .query c _, v =>
    match v with
    | .list [.list vs, .whole total] => (itemsOf c vs).map fun items => ⟨items, total⟩
    | _ => .error .wrongType
  | .setSavepoint, _ => .ok ()
  | .keepSavepoint, _ => .ok ()
  | .undoSavepoint, _ => .ok ()

/-- The answer of a disturbed call. -/
def Interruption.answer (r : Request) : Interruption → Except Failure r.Reply
  | failure f => .error f
  | reply v => replyOf r v

/-- Lets some calls of a kind pass and disturbs some after them. -/
structure Disturbance where
  collection : Collection
  access : Access
  effect : Interruption
  /-- How many calls pass before. -/
  skip : Nat
  /-- How many calls are disturbed. -/
  times : Nat

/-- Whether the disturbance is about a call and not used up. -/
def Disturbance.concerns (d : Disturbance) (c : Call) : Bool :=
  d.collection == c.collection && d.access == c.access && d.times != 0

/-- What happens to a call: the first disturbance that concerns it counts it. -/
def interrupt (c : Call) : List Disturbance → Option Interruption × List Disturbance
  | [] => (none, [])
  | d :: rest =>
    if d.concerns c then
      match d.skip with
      | skip + 1 => (none, { d with skip := skip } :: rest)
      | 0 => (some d.effect, { d with times := d.times - 1 } :: rest)
    else
      let (effect, rest) := interrupt c rest
      (effect, d :: rest)

/-! ## Monitored stores -/

/-- A store with the log of its calls and the disturbances to come. -/
structure Monitored (σ : Type) where
  store : σ
  calls : List Call
  disturbances : List Disturbance

namespace Monitored

variable {σ : Type}

/-- A store of which no call was made and none is disturbed. -/
def quiet (store : σ) : Monitored σ := ⟨store, [], []⟩

/-- Logs a call and says what happens to it. -/
def observe (c : Call) (m : Monitored σ) : Option Interruption × Monitored σ :=
  let (effect, disturbances) := interrupt c m.disturbances
  (effect, { m with calls := m.calls ++ [c], disturbances := disturbances })

/-- Lets the store answer. -/
def pass (h : Handler σ) (r : Request) (m : Monitored σ) : Except Failure r.Reply × Monitored σ :=
  let (x, s) := h.answer r m.store
  (x, { m with store := s })

/-- Answers a request. -/
def answer (h : Handler σ) (r : Request) (m : Monitored σ) :
    Except Failure r.Reply × Monitored σ :=
  match Call.ofRequest? r with
  | none => pass h r m
  | some c =>
    match m.observe c with
    | (some effect, m) => (effect.answer r, m)
    | (none, m) => pass h r m

/-- Finds the items that a query asks for. -/
def find (h : Handler σ) (c : Collection) (q : Query) (m : Monitored σ) :
    Except Failure (Counted c.Item) × Monitored σ :=
  match m.observe ⟨c, .find, none⟩ with
  | (some effect, m) => (effect.answer (.query c q), m)
  | (none, m) => answer h (.query c q) m

/-- The monitored store as one that programs run over. -/
def handler (h : Handler σ) : Handler (Monitored σ) := ⟨answer h⟩

/-- A step of the store as one of the monitored store. -/
def within (step : σ → Except Failure Unit × σ) (m : Monitored σ) :
    Except Failure Unit × Monitored σ :=
  let (outcome, s) := step m.store
  (outcome, { m with store := s })

/-- The monitored store with the unit of work of the store. -/
def engine (e : Engine σ) : Engine (Monitored σ) where
  handler := handler e.handler
  enter m := { m with store := e.enter m.store }
  commit := within e.commit
  rollback := within e.rollback
  leave failed := within (e.leave failed)

end Monitored

end SchoolRegistry
