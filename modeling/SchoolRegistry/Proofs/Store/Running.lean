import SchoolRegistry.Registry.Creation
import SchoolRegistry.Store.Program

/-!
# Runs of services

`Engine.Ends` says how a run of a service ends: with a result and a state that meet a condition.
Each way to build a service has one law, so that a run is followed clause by clause and no proof
opens `Program.run`. `Engine.Answers` is the case of a service that only reads, and `Engine.Keeps`
that of a condition that every run of a service keeps.

`Program.Asks` is a property of the program alone: whatever is answered, it makes requests of one
kind only. What every such request keeps, the whole program keeps (`Program.Asks.keeps`). It is
how most services are shown to leave most of a store alone without following their clauses.
-/

namespace SchoolRegistry

variable {σ α β : Type}

/-! ## Programs as a monad -/

namespace Program

/-- To go on by returning is not to go on. -/
theorem bind_done (p : Program α) : p.bind done = p := by
  induction p with
  | done a => rfl
  | note r p ih => exact congrArg (note r) ih
  | ask r k ih => exact congrArg (ask r) (funext ih)

/-- It does not matter how parts of a program are bracketed. -/
theorem bind_assoc {γ : Type} (p : Program α) (f : α → Program β) (g : β → Program γ) :
    (p.bind f).bind g = p.bind fun a => (f a).bind g := by
  induction p with
  | done a => rfl
  | note r p ih => exact congrArg (note r) ih
  | ask r k ih => exact congrArg (ask r) (funext ih)

instance : LawfulMonad Program :=
  LawfulMonad.mk' Program bind_done (fun _ _ => rfl) bind_assoc

end Program

/-! ## How a run ends -/

/-- A run of one program after another is a run of the first, then of the second. -/
theorem Program.run_bind (h : Handler σ) (p : Program α) (f : α → Program β) (s : σ) :
    (p.bind f).run h s =
      let first := p.run h s
      let second := (f first.result).run h first.state
      { second with records := first.records ++ second.records } := by
  induction p generalizing s with
  | done a => rfl
  | note r p ih => simp only [bind, run, ih, List.cons_append]
  | ask r k ih => simp only [bind, run, ih]

namespace Engine

/-- Running the service ends with a result and a state that meet the condition. -/
def Ends (e : Engine σ) (s : Service α) (m : σ) (Q : Except Failure α → σ → Prop) : Prop :=
  Q (e.run s m).result (e.run s m).state

variable {e : Engine σ} {m : σ}

/-- A condition may be weakened. -/
theorem Ends.imp {s : Service α} {Q R : Except Failure α → σ → Prop} (h : e.Ends s m Q)
    (weaker : ∀ x m', Q x m' → R x m') : e.Ends s m R := weaker _ _ h

/-- Two conditions may be shown one by one. -/
theorem Ends.and {s : Service α} {Q R : Except Failure α → σ → Prop} (h : e.Ends s m Q)
    (h' : e.Ends s m R) : e.Ends s m fun x m' => Q x m' ∧ R x m' := ⟨h, h'⟩

theorem ends_pure {a : α} {Q : Except Failure α → σ → Prop} :
    e.Ends (pure a) m Q ↔ Q (.ok a) m := Iff.rfl

theorem ends_throw {f : Failure} {Q : Except Failure α → σ → Prop} :
    e.Ends (throw f) m Q ↔ Q (.error f) m := Iff.rfl

/-- A request ends with the answer of the store. -/
theorem ends_ask {r : Request} {Q : Except Failure r.Reply → σ → Prop} :
    e.Ends (Service.ask r) m Q ↔
      Q (e.handler.answer r m).1 (e.handler.answer r m).2 := Iff.rfl

/-- A log record changes nothing that can be asked for. -/
theorem ends_note {r : LogRecord} {Q : Except Failure Unit → σ → Prop} :
    e.Ends (Journal.note r) m Q ↔ Q (.ok ()) m := Iff.rfl

/-- A failure of the first part is the failure of the whole. -/
theorem ends_bind {s : Service α} {f : α → Service β} {Q : Except Failure β → σ → Prop} :
    e.Ends (s >>= f) m Q ↔ e.Ends s m fun x m' =>
      match x with
      | .ok a => e.Ends (f a) m' Q
      | .error err => Q (.error err) m' := by
  have split := Program.run_bind e.handler (ExceptT.run s) (ExceptT.bindCont f) m
  unfold Ends Engine.run
  change Q (Program.run e.handler (Program.bind (ExceptT.run s) (ExceptT.bindCont f)) m).result
    (Program.run e.handler (Program.bind (ExceptT.run s) (ExceptT.bindCont f)) m).state ↔ _
  rw [split]
  dsimp only
  cases (Program.run e.handler (ExceptT.run s) m).result <;> rfl

/-- An attempt makes a result of every failure. -/
theorem ends_attempt {s : Service α} {Q : Except Failure (Except Failure α) → σ → Prop} :
    e.Ends s.attempt m Q ↔ e.Ends s m fun x m' => Q (.ok x) m' := by
  unfold Ends Engine.run Service.attempt
  rw [ExceptT.run_mk, Program.run_bind]
  rfl

/-- Only a failure of the store is answered by the other service. -/
theorem ends_onStorageFailure {s : Service α} {f : StorageFailure → Service α}
    {Q : Except Failure α → σ → Prop} :
    e.Ends (s.onStorageFailure f) m Q ↔ e.Ends s m fun x m' =>
      match x with
      | .error (.storage err) => e.Ends (f err) m' Q
      | x => Q x m' := by
  unfold Service.onStorageFailure
  rw [ends_bind, ends_attempt]
  refine iff_of_eq (congrArg (e.Ends s m) (funext fun x => funext fun m' => ?_))
  cases x with
  | ok a => rfl
  | error err => cases err <;> rfl

/-- A failure of the store that is noted and thrown as another one is a failure as before. -/
theorem Ends.rethrown {s : Service α} {record : StorageFailure → LogRecord}
    {other : StorageFailure → Failure} {Q : Except Failure α → σ → Prop} (h : e.Ends s m Q)
    (any : ∀ f f' m', Q (.error f) m' → Q (.error f') m') :
    e.Ends (s.onStorageFailure fun err => do
      Journal.note (record err)
      throw (other err)) m Q := by
  rw [ends_onStorageFailure]
  refine h.imp fun x m' hx => ?_
  cases x with
  | ok a => exact hx
  | error f => cases f with
    | storage err => exact any _ _ _ hx
    | _ => exact hx

/-- Two runs in a row, each with what it is known to end with. -/
theorem Ends.bind {s : Service α} {f : α → Service β} {Q : Except Failure α → σ → Prop}
    {R : Except Failure β → σ → Prop} (h : e.Ends s m Q)
    (onOk : ∀ a m', Q (.ok a) m' → e.Ends (f a) m' R)
    (onError : ∀ err m', Q (.error err) m' → R (.error err) m') : e.Ends (s >>= f) m R := by
  rw [ends_bind]
  refine h.imp fun x m' hx => ?_
  cases x with
  | ok a => exact onOk a m' hx
  | error err => exact onError err m' hx

/-! ## Services that only read -/

/-- The service answers with the value and leaves the state as it is. -/
def Answers (e : Engine σ) (s : Service α) (m : σ) (a : α) : Prop :=
  e.Ends s m fun x m' => x = .ok a ∧ m' = m

theorem answers_pure (a : α) : e.Answers (pure a) m a := ⟨rfl, rfl⟩

/-- What follows an answer goes on with it in the same state. -/
theorem Answers.ends_bind {s : Service α} {f : α → Service β} {a : α}
    {Q : Except Failure β → σ → Prop} (h : e.Answers s m a) :
    e.Ends (s >>= f) m Q ↔ e.Ends (f a) m Q := by
  obtain ⟨result, state⟩ := h
  rw [Engine.ends_bind]
  change (match (e.run s m).result with
    | .ok a => e.Ends (f a) (e.run s m).state Q
    | .error err => Q (.error err) (e.run s m).state) ↔ _
  rw [result, state]

/-- Services that only read can be run one after the other. -/
theorem Answers.bind {s : Service α} {f : α → Service β} {a : α} {b : β} (h : e.Answers s m a)
    (h' : e.Answers (f a) m b) : e.Answers (s >>= f) m b := h.ends_bind.mpr h'

/-! ## Conditions that services keep -/

/-- Every run of the service keeps the condition. -/
def Keeps (e : Engine σ) (I : σ → Prop) (s : Service α) : Prop :=
  ∀ m, I m → e.Ends s m fun _ m' => I m'

variable {I : σ → Prop}

theorem keeps_pure (a : α) : e.Keeps I (pure a) := fun _ hm => hm

theorem keeps_throw (f : Failure) : e.Keeps I (throw f : Service α) := fun _ hm => hm

theorem keeps_note (r : LogRecord) : e.Keeps I (Journal.note r) := fun _ hm => hm

/-- A condition that both parts keep is kept. -/
theorem Keeps.bind {s : Service α} {f : α → Service β} (hs : e.Keeps I s)
    (hf : ∀ a, e.Keeps I (f a)) : e.Keeps I (s >>= f) := by
  intro m hm
  exact (hs m hm).bind (fun a m' hm' => hf a m' hm') fun _ _ hm' => hm'

/-- An attempt keeps what is attempted. -/
theorem Keeps.attempt {s : Service α} (hs : e.Keeps I s) : e.Keeps I s.attempt := by
  intro m hm
  rw [ends_attempt]
  exact hs m hm

/-- A handler of failures keeps what it and the service keep. -/
theorem Keeps.onStorageFailure {s : Service α} {f : StorageFailure → Service α}
    (hs : e.Keeps I s) (hf : ∀ err, e.Keeps I (f err)) : e.Keeps I (s.onStorageFailure f) := by
  refine hs.attempt.bind fun x => ?_
  cases x with
  | ok a => exact keeps_pure a
  | error err => cases err with
    | storage err => exact hf err
    | _ => exact keeps_throw _

end Engine

/-! ## What a program asks -/

/-- Whatever is answered, every request of the program is of a kind. -/
def Program.Asks (P : Request → Prop) : Program α → Prop
  | .done _ => True
  | .note _ p => p.Asks P
  | .ask r k => P r ∧ ∀ x, (k x).Asks P

/-- Whatever is answered, every request of the service is of a kind. -/
def Service.Asks (P : Request → Prop) (s : Service α) : Prop := Program.Asks P (ExceptT.run s)

namespace Program

variable {P : Request → Prop}

/-- A program asks what its parts ask. -/
theorem Asks.bind {p : Program α} {f : α → Program β} (hp : p.Asks P) (hf : ∀ a, (f a).Asks P) :
    (p.bind f).Asks P := by
  induction p with
  | done a => exact hf a
  | note r p ih => exact ih hp
  | ask r k ih => exact ⟨hp.1, fun x => ih x (hp.2 x)⟩

/-- The kind of requests may be weakened. -/
theorem Asks.imp {Q : Request → Prop} (weaker : ∀ r, P r → Q r) {p : Program α}
    (hp : p.Asks P) : p.Asks Q := by
  induction p with
  | done a => trivial
  | note r p ih => exact ih hp
  | ask r k ih => exact ⟨weaker r hp.1, fun x => ih x (hp.2 x)⟩

/-- What the requests of a program keep, a run of it keeps. -/
theorem Asks.keeps {h : Handler σ} {I : σ → Prop}
    (step : ∀ r s, P r → I s → I (h.answer r s).2) {p : Program α} (hp : p.Asks P) {s : σ}
    (hs : I s) : I (p.run h s).state := by
  induction p generalizing s with
  | done a => exact hs
  | note r p ih => exact ih hp hs
  | ask r k ih => exact ih _ (hp.2 _) (step r s hp.1 hs)

/-- Nothing is demanded of requests by the condition that is always met. -/
theorem asks_any (p : Program α) : p.Asks fun _ => True := by
  induction p with
  | done a => trivial
  | note r p ih => exact ih
  | ask r k ih => exact ⟨trivial, ih⟩

/-- What every request keeps, every run keeps. -/
theorem run_keeps {h : Handler σ} {I : σ → Prop} (step : ∀ r s, I s → I (h.answer r s).2)
    (p : Program α) {s : σ} (hs : I s) : I (p.run h s).state :=
  p.asks_any.keeps (fun r s _ => step r s) hs

end Program

namespace Service

variable {P : Request → Prop}

theorem asks_pure (a : α) : Asks P (pure a : Service α) := trivial

theorem asks_throw (f : Failure) : Asks P (throw f : Service α) := trivial

theorem asks_note (r : LogRecord) : Asks P (Journal.note r : Service Unit) := trivial

theorem asks_ask {r : Request} (h : P r) : Asks P (ask r) := ⟨h, fun _ => trivial⟩

/-- A service asks what its parts ask. -/
theorem Asks.bind {s : Service α} {f : α → Service β} (hs : s.Asks P) (hf : ∀ a, (f a).Asks P) :
    Asks P (s >>= f) := by
  refine Program.Asks.bind hs fun x => ?_
  cases x with
  | ok a => exact hf a
  | error err => trivial

theorem Asks.imp {Q : Request → Prop} (weaker : ∀ r, P r → Q r) {s : Service α}
    (hs : s.Asks P) : s.Asks Q := Program.Asks.imp weaker hs

/-- An attempt asks what is attempted. -/
theorem Asks.attempt {s : Service α} (hs : s.Asks P) : s.attempt.Asks P :=
  Program.Asks.bind hs fun _ => trivial

theorem Asks.onStorageFailure {s : Service α} {f : StorageFailure → Service α} (hs : s.Asks P)
    (hf : ∀ err, (f err).Asks P) : (s.onStorageFailure f).Asks P := by
  refine hs.attempt.bind fun x => ?_
  cases x with
  | ok a => exact asks_pure a
  | error err => cases err with
    | storage err => exact hf err
    | _ => exact asks_throw _

/-- A savepoint adds the requests that set it, keep it and undo it. -/
theorem Asks.inSavepoint {s : Service α} (hs : s.Asks P) (marks : P .setSavepoint)
    (keeps : P .keepSavepoint) (undoes : P .undoSavepoint) : s.inSavepoint.Asks P := by
  refine (asks_ask marks).bind fun _ => hs.attempt.bind fun x => ?_
  cases x with
  | ok a => exact (asks_ask keeps).bind fun _ => asks_pure _
  | error err => exact (asks_ask undoes).bind fun _ => asks_throw _

/-- What the requests of a service keep, the service keeps. -/
theorem Asks.keeps {e : Engine σ} {I : σ → Prop}
    (step : ∀ r m, P r → I m → I (e.handler.answer r m).2) {s : Service α} (hs : s.Asks P) :
    e.Keeps I s :=
  fun _ hm => Program.Asks.keeps step hs hm

end Service

/-! ## Checking rules -/

section Rules

variable {P : Request → Prop} [Candidate β]

/-- A pipeline asks what its rules ask. -/
theorem Pipeline.asks_validateBy {rules : List (Rule Service β)} {c : β}
    (h : ∀ r ∈ rules, (r.judge c).Asks P) :
    Service.Asks P (Pipeline.validateBy c (rules.map Spec.rule)) := by
  induction rules with
  | nil => exact Service.asks_pure _
  | cons r rest ih =>
    refine Service.Asks.bind (h r List.mem_cons_self) fun v => ?_
    split
    · exact ih fun r' hr' => h r' (List.mem_cons_of_mem _ hr')
    · exact (Service.asks_note _).bind fun _ => Service.asks_pure _

/-- Checking rules asks what the rules and the rest ask. -/
theorem Creation.asks_checkRules {rules : List (Rule Service β)} {c : β}
    {next : Service (Outcome α)} (h : ∀ r ∈ rules, (r.judge c).Asks P) (hnext : next.Asks P) :
    (Creation.checkRules rules c next).Asks P := by
  refine (Pipeline.asks_validateBy h).bind fun x => ?_
  cases x with
  | ok _ => exact hnext
  | error r => exact Service.asks_pure _

variable {c : β} {next : Service (Outcome α)}

/-- Without rules nothing is checked. -/
theorem Creation.checkRules_nil : checkRules [] c next = next := rfl

/-- A rule that only looks at the candidate lets it pass or refuses it, which is recorded. -/
theorem Creation.checkRules_cons {r : Rule Service β} {rest : List (Rule Service β)} {v : Value}
    (h : r.judge c = pure v) :
    checkRules (r :: rest) c next =
      if v.truthy then checkRules rest c next
      else (do
        Journal.note (Pipeline.unsatisfied r.name (r.violation c))
        pure (.error (r.violation c))) := by
  unfold checkRules Pipeline.validate
  rw [List.map_cons, Pipeline.validateBy, Spec.judge, h, pure_bind]
  split
  · rfl
  · rfl

variable {e : Engine σ} {m : σ} {Q : Except Failure (Outcome α) → σ → Prop}

theorem Creation.ends_checkRules_nil :
    e.Ends (Creation.checkRules [] c next) m Q ↔ e.Ends next m Q := Iff.rfl

/-- A rule that answers lets the candidate pass or refuses it. -/
theorem Creation.ends_checkRules_answered {r : Rule Service β} {rest : List (Rule Service β)}
    {v : Value} (h : e.Answers (r.judge c) m v) :
    e.Ends (Creation.checkRules (r :: rest) c next) m Q ↔
      if v.truthy then e.Ends (Creation.checkRules rest c next) m Q
      else Q (.ok (.error (r.violation c))) m := by
  unfold Creation.checkRules Pipeline.validate
  rw [List.map_cons, Pipeline.validateBy, Spec.judge, bind_assoc, h.ends_bind]
  split
  · rfl
  · rfl

/-- A rule that only looks at the candidate lets it pass or refuses it; the store is not asked. -/
theorem Creation.ends_checkRules_cons {r : Rule Service β} {rest : List (Rule Service β)}
    {v : Value} (h : r.judge c = pure v) :
    e.Ends (Creation.checkRules (r :: rest) c next) m Q ↔
      if v.truthy then e.Ends (Creation.checkRules rest c next) m Q
      else Q (.ok (.error (r.violation c))) m :=
  ends_checkRules_answered (h ▸ Engine.answers_pure v)

/-- A rule that looks things up lets the candidate pass, refuses it or fails. -/
theorem Creation.Ends.checkRules_cons {r : Rule Service β} {rest : List (Rule Service β)}
    {R : Except Failure Value → σ → Prop} (h : e.Ends (r.judge c) m R)
    (onOk : ∀ v m', R (.ok v) m' → if v.truthy then e.Ends (Creation.checkRules rest c next) m' Q
      else Q (.ok (.error (r.violation c))) m')
    (onError : ∀ f m', R (.error f) m' → Q (.error f) m') :
    e.Ends (Creation.checkRules (r :: rest) c next) m Q := by
  unfold Creation.checkRules Pipeline.validate
  rw [List.map_cons, Pipeline.validateBy, bind_assoc]
  refine Engine.Ends.bind h (fun v m' hv => ?_) onError
  have passed := onOk v m' hv
  by_cases yes : v.truthy
  · rw [if_pos yes] at passed ⊢
    exact passed
  · rw [if_neg yes] at passed ⊢
    exact passed

/-- A failure of the store becomes a refusal, and the store stays as the failure left it. -/
theorem Creation.Ends.orNotCreated {s : Service (Outcome α)} {logger text entity : String}
    (h : e.Ends s m Q) (refused : ∀ err m', Q (.error (.storage err)) m' →
      Q (.ok (.error (.notCreated entity (some err.message)))) m') :
    e.Ends (Creation.orNotCreated logger text entity s) m Q := by
  rw [Creation.orNotCreated, Engine.ends_onStorageFailure]
  refine h.imp fun x m' hx => ?_
  cases x with
  | ok a => exact hx
  | error f => cases f with
    | storage err => exact refused err m' hx
    | _ => exact hx

end Rules

end SchoolRegistry
