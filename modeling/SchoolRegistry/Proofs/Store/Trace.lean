import SchoolRegistry.Proofs.Store.Running

/-!
# Traces of runs

A run of a service leaves a trace: the requests that it makes, each with the answer that it gets,
and the log records that it writes, in their order. `Engine.Shows` is `Engine.Ends` with the trace
among what the condition is about, and has the same laws, one for each way to build a service. The
store may answer in any way, so a fact about all traces is a fact about every pattern of failures.

`Service.Passes` says that a service makes up no failures: those that it ends with are refusals or
were answers to its requests. `Service.Parallel` says that two services do the same, request by
request and record by record, and differ at most in what they return. Both are properties of the
services alone.
-/

namespace SchoolRegistry

variable {σ α β : Type}

/-- What a run does, as far as it can be seen. -/
inductive Event where
  /-- A request is made and gets an answer. -/
  | asked (r : Request) (answer : Except Failure r.Reply)
  /-- A log record is written. -/
  | noted (r : LogRecord)

/-- The log record that is written, if one is. -/
def Event.record? : Event → Option LogRecord
  | asked .. => none
  | noted r => some r

/-- What a run of the program does, in its order. -/
def Program.trace (h : Handler σ) : Program α → σ → List Event
  | done _, _ => []
  | note r p, s => .noted r :: p.trace h s
  | ask r k, s =>
    let x := h.answer r s
    .asked r x.1 :: (k x.1).trace h x.2

/-- The trace of a program is that of its first part and then that of its second. -/
theorem Program.trace_bind (h : Handler σ) (p : Program α) (f : α → Program β) (s : σ) :
    (p.bind f).trace h s =
      p.trace h s ++ (f (p.run h s).result).trace h (p.run h s).state := by
  induction p generalizing s with
  | done a => rfl
  | note r p ih => simp only [bind, trace, run, ih, List.cons_append]
  | ask r k ih => simp only [bind, trace, run, ih, List.cons_append]

/-- The log of a run is what its trace says of it. -/
theorem Program.records_run (h : Handler σ) (p : Program α) (s : σ) :
    (p.run h s).records = (p.trace h s).filterMap Event.record? := by
  induction p generalizing s with
  | done a => rfl
  | note r p ih => exact congrArg (r :: ·) (ih s)
  | ask r k ih => exact ih _ _

/-! ## What a run shows -/

namespace Engine

/-- What a run of the service does, in its order. -/
def trace (e : Engine σ) (s : Service α) (m : σ) : List Event :=
  Program.trace e.handler (ExceptT.run s) m

/-- Running the service leaves a trace, a result and a state that meet the condition. -/
def Shows (e : Engine σ) (s : Service α) (m : σ)
    (Q : List Event → Except Failure α → σ → Prop) : Prop :=
  Q (e.trace s m) (e.run s m).result (e.run s m).state

variable {e : Engine σ} {m : σ}

/-- A condition may be weakened. -/
theorem Shows.imp {s : Service α} {Q R : List Event → Except Failure α → σ → Prop}
    (h : e.Shows s m Q) (weaker : ∀ es x m', Q es x m' → R es x m') : e.Shows s m R :=
  weaker _ _ _ h

/-- A request shows itself and its answer. -/
theorem shows_ask {r : Request} {Q : List Event → Except Failure r.Reply → σ → Prop} :
    e.Shows (Service.ask r) m Q ↔ Q [.asked r (e.handler.answer r m).1]
      (e.handler.answer r m).1 (e.handler.answer r m).2 := Iff.rfl

/-- A log record shows itself. -/
theorem shows_note {r : LogRecord} {Q : List Event → Except Failure Unit → σ → Prop} :
    e.Shows (Journal.note r) m Q ↔ Q [.noted r] (.ok ()) m := Iff.rfl

/-- A failure of the first part ends the trace. -/
theorem shows_bind {s : Service α} {f : α → Service β}
    {Q : List Event → Except Failure β → σ → Prop} :
    e.Shows (s >>= f) m Q ↔ e.Shows s m fun es x m' =>
      match x with
      | .ok a => e.Shows (f a) m' fun es' => Q (es ++ es')
      | .error err => Q es (.error err) m' := by
  have split := Program.run_bind e.handler (ExceptT.run s) (ExceptT.bindCont f) m
  have after := Program.trace_bind e.handler (ExceptT.run s) (ExceptT.bindCont f) m
  unfold Shows Engine.run trace
  change Q (Program.trace e.handler (Program.bind (ExceptT.run s) (ExceptT.bindCont f)) m)
    (Program.run e.handler (Program.bind (ExceptT.run s) (ExceptT.bindCont f)) m).result
    (Program.run e.handler (Program.bind (ExceptT.run s) (ExceptT.bindCont f)) m).state ↔ _
  rw [split, after]
  dsimp only
  cases (Program.run e.handler (ExceptT.run s) m).result with
  | ok a => rfl
  | error err => exact iff_of_eq (congrArg (Q · _ _) (List.append_nil _))

/-- An attempt shows what is attempted. -/
theorem shows_attempt {s : Service α}
    {Q : List Event → Except Failure (Except Failure α) → σ → Prop} :
    e.Shows s.attempt m Q ↔ e.Shows s m fun es x m' => Q es (.ok x) m' := by
  unfold Shows Engine.run trace Service.attempt
  rw [ExceptT.run_mk, Program.run_bind, Program.trace_bind, Program.trace, List.append_nil]
  rfl

/-- Two runs in a row, each with what it is known to show. -/
theorem Shows.bind {s : Service α} {f : α → Service β}
    {Q : List Event → Except Failure α → σ → Prop}
    {R : List Event → Except Failure β → σ → Prop} (h : e.Shows s m Q)
    (onOk : ∀ es a m', Q es (.ok a) m' → e.Shows (f a) m' fun es' => R (es ++ es'))
    (onError : ∀ es err m', Q es (.error err) m' → R es (.error err) m') :
    e.Shows (s >>= f) m R := by
  rw [shows_bind]
  refine h.imp fun es x m' hx => ?_
  cases x with
  | ok a => exact onOk es a m' hx
  | error err => exact onError es err m' hx

/-- A failure of the store is answered by the other service, which adds to the trace. -/
theorem shows_onStorageFailure {s : Service α} {f : StorageFailure → Service α}
    {Q : List Event → Except Failure α → σ → Prop} :
    e.Shows (s.onStorageFailure f) m Q ↔ e.Shows s m fun es x m' =>
      match x with
      | .error (.storage err) => e.Shows (f err) m' fun es' => Q (es ++ es')
      | x => Q es x m' := by
  unfold Service.onStorageFailure
  rw [shows_bind, shows_attempt]
  refine iff_of_eq (congrArg (e.Shows s m) (funext fun es => funext fun x => funext fun m' => ?_))
  have same : ∀ x, Q (es ++ []) x m' = Q es x m' := fun x => by rw [List.append_nil]
  cases x with
  | ok a => exact same _
  | error err => cases err with
    | storage err => rfl
    | _ => exact same _

/-- A savepoint is set before what is done in it, and kept or undone after it. -/
theorem Shows.inSavepoint {s : Service α} {P Q : List Event → Except Failure α → σ → Prop}
    (h : ∀ m', e.Shows s m' P)
    (unset : ∀ f m', Q [.asked .setSavepoint (.error f)] (.error f) m')
    (kept : ∀ es a m' y m'', P es (.ok a) m' →
      Q (.asked .setSavepoint (.ok ()) :: es ++ [.asked .keepSavepoint y]) (y.map fun _ => a) m'')
    (undone : ∀ es f m' y m'', P es (.error f) m' →
      Q (.asked .setSavepoint (.ok ()) :: es ++ [.asked .undoSavepoint y])
        (y.bind fun _ => .error f) m'') :
    e.Shows s.inSavepoint m Q := by
  rw [Service.inSavepoint, shows_bind, shows_ask]
  cases (e.handler.answer .setSavepoint m).1 with
  | error f => exact unset f _
  | ok _ =>
    dsimp only
    rw [shows_bind, shows_attempt]
    refine (h _).imp fun es x m' hx => ?_
    cases x with
    | ok a =>
      dsimp only
      rw [shows_bind, shows_ask]
      cases (e.handler.answer .keepSavepoint m').1 with
      | ok _ => exact kept es a m' (.ok ()) _ hx
      | error f => exact kept es a m' (.error f) _ hx
    | error f =>
      dsimp only
      rw [shows_bind, shows_ask]
      cases (e.handler.answer .undoSavepoint m').1 with
      | ok _ => exact undone es f m' (.ok ()) _ hx
      | error f' => exact undone es f m' (.error f') _ hx

end Engine

/-! ## Failures that are passed on -/

/-- Over any store, and from any state of it, the service fails with a refusal or with what the
store answered a request. -/
def Service.Passes (s : Service α) : Prop :=
  ∀ (σ : Type) (e : Engine σ) (m : σ), e.Shows s m fun es x _ => ∀ f, x = .error f →
    (∃ refusal, f = .refused refusal) ∨ ∃ r, .asked r (.error f) ∈ es

namespace Service

theorem passes_pure (a : α) : (pure a : Service α).Passes := by
  rintro σ e m f ⟨⟩

theorem passes_note (r : LogRecord) : (Journal.note r : Service Unit).Passes := by
  rintro σ e m f ⟨⟩

theorem passes_refuse (refusal : Refusal) : (throw (.refused refusal) : Service α).Passes := by
  rintro σ e m f ⟨⟩
  exact .inl ⟨refusal, rfl⟩

theorem passes_ask (r : Request) : (ask r).Passes := by
  intro σ e m
  rw [Engine.shows_ask]
  intro f failed
  rw [failed]
  exact .inr ⟨r, List.mem_singleton_self _⟩

/-- Services that pass failures on do so one after the other. -/
theorem Passes.bind {s : Service α} {f : α → Service β} (hs : s.Passes)
    (hf : ∀ a, (f a).Passes) : (s >>= f).Passes := by
  intro σ e m
  refine (hs σ e m).bind (fun es a m' _ => ?_) fun es err m' passed f failed => ?_
  · refine (hf a σ e m').imp fun es' x _ passed f failed => (passed f failed).imp_right ?_
    rintro ⟨r, asked⟩
    exact ⟨r, List.mem_append_right _ asked⟩
  · cases failed
    exact passed err rfl

/-- A handler of failures passes on what it and the service pass on. -/
theorem Passes.onStorageFailure {s : Service α} {f : StorageFailure → Service α} (hs : s.Passes)
    (hf : ∀ err, (f err).Passes) : (s.onStorageFailure f).Passes := by
  intro σ e m
  rw [Engine.shows_onStorageFailure]
  refine (hs σ e m).imp fun es x m' passed => ?_
  cases x with
  | ok a => exact passed
  | error err => cases err with
    | storage err =>
      refine (hf err σ e m').imp fun es' x _ passed f failed => (passed f failed).imp_right ?_
      rintro ⟨r, asked⟩
      exact ⟨r, List.mem_append_right _ asked⟩
    | _ => exact passed

/-- The failure of the service is passed on, or one of the savepoint. -/
theorem Passes.inSavepoint {s : Service α} (hs : s.Passes) : s.inSavepoint.Passes := by
  intro σ e m
  refine Engine.Shows.inSavepoint (hs σ e) ?_ ?_ ?_
  · rintro f m' _ ⟨⟩
    exact .inr ⟨_, List.mem_singleton_self _⟩
  · intro es a m' y m'' _ f failed
    cases y with
    | ok _ => cases failed
    | error f' =>
      cases failed
      exact .inr ⟨_, List.mem_append_right _ (List.mem_singleton_self _)⟩
  · intro es f m' y m'' passed f' failed
    cases y with
    | ok _ =>
      cases failed
      refine (passed f rfl).imp_right ?_
      rintro ⟨r, asked⟩
      exact ⟨r, List.mem_append_left _ (List.mem_cons_of_mem _ asked)⟩
    | error f' =>
      cases failed
      exact .inr ⟨_, List.mem_append_right _ (List.mem_singleton_self _)⟩

end Service

/-! ## Services that do the same -/

/-- Two programs that make the same requests and write the same records whatever is answered, and
return what is related. -/
inductive Program.Parallel (R : α → α → Prop) : Program α → Program α → Prop
  | done {a b : α} (related : R a b) : Parallel R (done a) (done b)
  | note {r : LogRecord} {p q : Program α} (next : Parallel R p q) :
    Parallel R (note r p) (note r q)
  | ask {r : Request} {k k' : Except Failure r.Reply → Program α}
    (next : ∀ x, Parallel R (k x) (k' x)) : Parallel R (ask r k) (ask r k')

namespace Program.Parallel

variable {R : α → α → Prop} {p q : Program α}

/-- Every program is parallel to itself. -/
theorem refl (same : ∀ a, R a a) (p : Program α) : Parallel R p p := by
  induction p with
  | done a => exact .done (same a)
  | note r p ih => exact .note ih
  | ask r k ih => exact .ask ih

/-- Parallel programs stay parallel when parallel parts follow them. -/
theorem bind {S : β → β → Prop} {f g : α → Program β} (h : Parallel R p q)
    (next : ∀ a b, R a b → Parallel S (f a) (g b)) : Parallel S (p.bind f) (q.bind g) := by
  induction h with
  | done related => exact next _ _ related
  | note _ ih => exact .note ih
  | ask _ ih => exact .ask ih

/-- Both leave the same trace and the same store. -/
theorem run {h : Handler σ} (parallel : Parallel R p q) (s : σ) :
    p.trace h s = q.trace h s ∧ (p.run h s).state = (q.run h s).state ∧
      R (p.run h s).result (q.run h s).result := by
  induction parallel generalizing s with
  | done related => exact ⟨rfl, rfl, related⟩
  | note _ ih =>
    obtain ⟨trace, state, related⟩ := ih s
    exact ⟨congrArg (_ :: ·) trace, state, related⟩
  | @ask r k k' _ ih =>
    obtain ⟨trace, state, related⟩ := ih (h.answer r s).1 (h.answer r s).2
    exact ⟨congrArg (_ :: ·) trace, state, related⟩

end Program.Parallel

namespace Service

variable {R : Except Failure α → Except Failure α → Prop}
  {S : Except Failure β → Except Failure β → Prop} {s t : Service α}

/-- Two services that make the same requests and write the same records whatever is answered, and
end with what is related. -/
def Parallel (R : Except Failure α → Except Failure α → Prop) (s t : Service α) : Prop :=
  Program.Parallel R (ExceptT.run s) (ExceptT.run t)

theorem parallel_refl (same : ∀ x, R x x) (s : Service α) : s.Parallel R s := .refl same _

theorem parallel_pure {a b : α} (related : R (.ok a) (.ok b)) :
    (pure a : Service α).Parallel R (pure b) := .done related

theorem Parallel.note (r : LogRecord) (next : s.Parallel R t) :
    (Journal.note r >>= fun _ => s).Parallel R (Journal.note r >>= fun _ => t) :=
  Program.Parallel.note next

/-- What two services do after the same first part. -/
theorem parallel_bind {f g : α → Service β} (s : Service α)
    (onOk : ∀ a, (f a).Parallel S (g a)) (onError : ∀ err, S (.error err) (.error err)) :
    (s >>= f).Parallel S (s >>= g) := by
  refine Program.Parallel.bind (.refl (fun _ => rfl) (ExceptT.run s)) ?_
  rintro x _ rfl
  cases x with
  | ok a => exact onOk a
  | error err => exact .done (onError err)

/-- Parallel attempts stay parallel if what follows a failure is, too. -/
theorem Parallel.bind_attempt {f g : Except Failure α → Service β} (h : s.Parallel R t)
    (next : ∀ x y, R x y → (f x).Parallel S (g y)) :
    (s.attempt >>= f).Parallel S (t.attempt >>= g) := by
  refine Program.Parallel.bind (R := fun x y => ∃ x' y', x = .ok x' ∧ y = .ok y' ∧ R x' y')
    (Program.Parallel.bind h fun x y related => .done ⟨x, y, rfl, rfl, related⟩) ?_
  rintro _ _ ⟨x, y, rfl, rfl, related⟩
  exact next x y related

/-- Runs of both over any store. -/
theorem Parallel.run {e : Engine σ} (h : s.Parallel R t) (m : σ) :
    e.trace s m = e.trace t m ∧ (e.run s m).state = (e.run t m).state ∧
      R (e.run s m).result (e.run t m).result := Program.Parallel.run h m

end Service

end SchoolRegistry
