import SchoolRegistry.Proofs.Store.Monitor

/-!
# Outages

An outage is a disturbance by which a call fails with a failure of the store. `Engine.raises` says
whether any request of a run fails.

`Service.Leads` follows all runs of a service at once: whatever is answered and whichever requests
meet an outage, the service ends with a result that meets a condition, and the condition is told
whether a request met one. It is a property of the service alone, with a law for each way to build
one, and `Service.Leads.ends` carries it over to runs over the store in memory, where a request
that the store can answer fails by an outage only. Two conditions do for most services:
`Service.Relays` (it fails exactly if a request failed) and `Service.Stops` (if a request failed,
so does the service, with a failure of a given kind).

What a service does when no request fails is not followed here. Such a run ends as one over a store
that nothing disturbs (`Monitored.OutagesOnly.ends`).
-/

namespace SchoolRegistry

variable {σ α β : Type}

/-! ## Requests that fail -/

/-- Whether a request of the run fails. -/
def Program.raises (h : Handler σ) : Program α → σ → Bool
  | done _, _ => false
  | note _ p, s => p.raises h s
  | ask r k, s =>
    let x := h.answer r s
    !x.1.isOk || (k x.1).raises h x.2

def Engine.raises (e : Engine σ) (s : Service α) (m : σ) : Bool :=
  Program.raises e.handler (ExceptT.run s) m

/-- Disturbed calls fail, and with a failure of the store. -/
def Disturbance.IsOutage (d : Disturbance) : Prop := ∃ f, d.effect = .failure (.storage f)

theorem Disturbance.IsOutage.of_kind {d d' : Disturbance} (same : d.kind = d'.kind)
    (h : d.IsOutage) : d'.IsOutage := by
  obtain ⟨f, effect⟩ := h
  exact ⟨f, (congrArg (·.2.2) same).symm.trans effect⟩

theorem Disturbance.IsOutage.isFault {d : Disturbance} (h : d.IsOutage) : d.IsFault := by
  obtain ⟨f, effect⟩ := h
  simp only [IsFault, effect]

/-- The store in memory answers the request in any state. -/
def Request.Succeeds (r : Request) : Prop :=
  ∀ supply m, ∃ v, (Memory.answer supply r m).1 = .ok v

/-! ## All runs of a program -/

namespace Program

variable {P : Bool → α → Prop} {met : Bool}

/-- However requests are answered, and whichever of them meet an outage, the program ends in the
condition. The condition is told whether one did, now or already before. -/
def Leads (P : Bool → α → Prop) : Bool → Program α → Prop
  | met, done a => P met a
  | met, note _ p => p.Leads P met
  | met, ask _ k => (∀ v, (k (.ok v)).Leads P met) ∧ ∀ f, (k (.error (.storage f))).Leads P true

/-- What a program leads to is what its second part does from where the first one ends. -/
theorem Leads.bind {Q : Bool → β → Prop} {p : Program α} {f : α → Program β}
    (hp : p.Leads P met) (hf : ∀ met a, P met a → (f a).Leads Q met) :
    (p.bind f).Leads Q met := by
  induction p generalizing met with
  | done a => exact hf met a hp
  | note r p ih => exact ih hp
  | ask r k ih => exact ⟨fun v => ih _ (hp.1 v), fun err => ih _ (hp.2 err)⟩

/-- A condition may be weakened. -/
theorem Leads.imp {Q : Bool → α → Prop} (weaker : ∀ met a, P met a → Q met a) {p : Program α}
    (hp : p.Leads P met) : p.Leads Q met := by
  induction p generalizing met with
  | done a => exact weaker met a hp
  | note r p ih => exact ih hp
  | ask r k ih => exact ⟨fun v => ih _ (hp.1 v), fun err => ih _ (hp.2 err)⟩

/-- A run in which requests fail by outages only ends in the condition. -/
theorem Leads.run {h : Handler σ} {I : σ → Prop} {A : Request → Prop}
    (step : ∀ r s, A r → I s → I (h.answer r s).2 ∧
      ((∃ v, (h.answer r s).1 = .ok v) ∨ ∃ f, (h.answer r s).1 = .error (.storage f)))
    {p : Program α} (hp : p.Leads P met) (asks : p.Asks A) {s : σ} (hs : I s) :
    P (met || p.raises h s) (p.run h s).result := by
  induction p generalizing met s with
  | done a =>
    rw [raises, Bool.or_false]
    exact hp
  | note r p ih => exact ih hp asks hs
  | ask r k ih =>
    rw [raises, Program.run]
    obtain ⟨kept, ⟨v, answered⟩ | ⟨f, failed⟩⟩ := step r s asks.1 hs
    · rw [answered]
      exact ih _ (hp.1 v) (asks.2 _) kept
    · -- From here on it is known that a request failed, whatever follows.
      have rest := ih _ (hp.2 f) (asks.2 _) kept
      rw [Bool.true_or] at rest
      rw [failed, Except.isOk, Except.toBool, Bool.not_false, Bool.true_or, Bool.or_true]
      exact rest

end Program

/-! ## All runs of a service -/

namespace Service

variable {P : Bool → Except Failure α → Prop} {Q : Bool → Except Failure β → Prop} {met : Bool}

/-- However requests are answered, and whichever of them meet an outage, the service ends in the
condition. -/
def Leads (P : Bool → Except Failure α → Prop) (met : Bool) (s : Service α) : Prop :=
  Program.Leads P met (ExceptT.run s)

theorem leads_pure {a : α} (h : P met (.ok a)) : (pure a : Service α).Leads P met := h

theorem leads_throw {f : Failure} (h : P met (.error f)) : (throw f : Service α).Leads P met := h

theorem leads_ask {r : Request} {P : Bool → Except Failure r.Reply → Prop}
    (answered : ∀ v, P met (.ok v)) (failed : ∀ f, P true (.error (.storage f))) :
    (ask r).Leads P met := ⟨answered, failed⟩

/-- The second part of a service is run only on the results of the first. -/
theorem Leads.bind {s : Service α} {f : α → Service β} (hs : s.Leads P met)
    (onOk : ∀ met a, P met (.ok a) → (f a).Leads Q met)
    (onError : ∀ met err, P met (.error err) → Q met (.error err)) : (s >>= f).Leads Q met := by
  refine Program.Leads.bind hs fun met x hx => ?_
  cases x with
  | ok a => exact onOk met a hx
  | error err => exact onError met err hx

theorem Leads.imp {s : Service α} {R : Bool → Except Failure α → Prop} (hs : s.Leads P met)
    (weaker : ∀ met x, P met x → R met x) : s.Leads R met :=
  Program.Leads.imp weaker hs

/-- What a service ends with can be followed even if it is a failure. -/
theorem Leads.bind_attempt {s : Service α} {f : Except Failure α → Service β}
    (hs : s.Leads P met) (hf : ∀ met x, P met x → (f x).Leads Q met) :
    (s.attempt >>= f).Leads Q met := by
  have caught : s.attempt.Leads (fun met y => ∃ x, y = .ok x ∧ P met x) met :=
    Program.Leads.bind hs fun met x hx => ⟨x, rfl, hx⟩
  apply caught.bind
  · rintro met x ⟨_, ⟨⟩, hx⟩
    exact hf met x hx
  · rintro met err ⟨x, ⟨⟩, -⟩

/-! ### Services that relay outages -/

/-- A result, if no request failed, and a failure of the store, if one did. -/
def Relayed (N : α → Prop) (met : Bool) : Except Failure α → Prop
  | .ok a => met = false ∧ N a
  | .error err => met = true ∧ ∃ f, err = .storage f

/-- The service fails exactly if a request fails, and with a failure of the store. -/
def Relays (N : α → Prop) (s : Service α) : Prop := s.Leads (Relayed N) false

variable {N : α → Prop}

theorem relays_pure {a : α} (h : N a) : (pure a : Service α).Relays N := ⟨rfl, h⟩

theorem relays_note (r : LogRecord) : (Journal.note r : Service Unit).Relays fun _ => True :=
  ⟨rfl, trivial⟩

/-- A request relays outages. -/
theorem relays_ask (r : Request) : (ask r).Relays fun _ => True :=
  leads_ask (fun _ => ⟨rfl, trivial⟩) fun f => ⟨rfl, f, rfl⟩

/-- Services that relay outages do so one after the other. -/
theorem Relays.bind {M : β → Prop} {s : Service α} {f : α → Service β} (hs : s.Relays N)
    (hf : ∀ a, N a → (f a).Relays M) : (s >>= f).Relays M := by
  refine Leads.bind hs ?_ fun _ _ failed => failed
  rintro _ a ⟨rfl, ha⟩
  exact hf a ha

/-- A failure that a service relays is answered by the other one. -/
theorem Relays.onStorageFailure {s : Service α} {f : StorageFailure → Service α} (hs : s.Relays N)
    (onOk : ∀ a, N a → P false (.ok a)) (onFailure : ∀ err, (f err).Leads P true) :
    (s.onStorageFailure f).Leads P false := by
  refine hs.bind_attempt fun met x hx => ?_
  cases x with
  | ok a =>
    obtain ⟨rfl, ha⟩ := hx
    exact leads_pure (onOk a ha)
  | error err =>
    obtain ⟨rfl, f, rfl⟩ := hx
    exact onFailure f

/-! ### Services that stop at outages -/

/-- If a request failed, a failure of the given kind. -/
def Stopped (G : Failure → Prop) (met : Bool) (x : Except Failure α) : Prop :=
  met = true → ∃ f, x = .error f ∧ G f

/-- If a request fails, the service does, with a failure of the given kind. -/
def Stops (G : Failure → Prop) (s : Service α) : Prop := s.Leads (Stopped G) false

variable {G : Failure → Prop}

theorem stops_pure (a : α) : (pure a : Service α).Stops G := nofun

theorem stops_throw (f : Failure) : (throw f : Service α).Stops G := nofun

theorem stops_note (r : LogRecord) : (Journal.note r : Service Unit).Stops G := nofun

/-- Services that stop at outages do so one after the other. -/
theorem Stops.bind {s : Service α} {f : α → Service β} (hs : s.Stops G)
    (hf : ∀ a, (f a).Stops G) : (s >>= f).Stops G := by
  apply Leads.bind hs
  · intro met a ha
    cases met with
    | false => exact hf a
    | true => obtain ⟨_, ⟨⟩, -⟩ := ha rfl
  · intro met err herr hmet
    obtain ⟨_, ⟨⟩, grave⟩ := herr hmet
    exact ⟨err, rfl, grave⟩

section Storage

variable (storage : ∀ f, G (.storage f))
include storage

/-- A service that relays outages stops at them. -/
theorem Relays.stops {s : Service α} (hs : s.Relays N) : s.Stops G := by
  refine hs.imp fun met x hx hmet => ?_
  cases x with
  | ok a => cases hmet.symm.trans hx.1
  | error err =>
    obtain ⟨-, f, rfl⟩ := hx
    exact ⟨_, rfl, storage f⟩

/-- A savepoint lets outages through. -/
theorem Stops.inSavepoint {s : Service α} (hs : s.Stops G) : s.inSavepoint.Stops G := by
  have ask (r : Request) : (ask r).Stops G := (relays_ask r).stops storage
  refine (ask .setSavepoint).bind fun _ => hs.bind_attempt fun met x hx => ?_
  cases x with
  | ok a => cases met with
    | false => exact (ask .keepSavepoint).bind fun _ => stops_pure a
    | true => obtain ⟨_, ⟨⟩, -⟩ := hx rfl
  | error err =>
    -- The savepoint may fail to be undone; then that is what the service fails with.
    refine ⟨fun _ hmet => ?_, fun f _ => ⟨_, rfl, storage f⟩⟩
    obtain ⟨_, ⟨⟩, grave⟩ := hx hmet
    exact ⟨err, rfl, grave⟩

end Storage

end Service

/-! ## Runs over a store with outages -/

namespace Monitored

variable {m m' : Monitored σ}

/-- Every disturbance to come is an outage. -/
def OutagesOnly (m : Monitored σ) : Prop := ∀ d ∈ m.disturbances, d.IsOutage

/-- Outages stay outages whatever calls are made. -/
theorem Made.outagesOnly {made : List Call} (h : m.Made made m') (outages : m.OutagesOnly) :
    m'.OutagesOnly := by
  intro d hd
  obtain ⟨d', hd', same⟩ := h.exists_kind hd
  exact (outages d' hd').of_kind same

/-- A request is answered by the store, or it meets an outage. -/
theorem OutagesOnly.answer_cases (outages : m.OutagesOnly) (h : Handler σ) (r : Request) :
    (answer h r m).2.OutagesOnly ∧
      ((answer h r m).1 = (h.answer r m.store).1 ∧
          (answer h r m).2.store = (h.answer r m.store).2 ∨
        ∃ f, (answer h r m).1 = .error (.storage f)) := by
  obtain ⟨made, passed | ⟨d, hd, -, answered, -⟩⟩ := Monitored.answer_cases h r m
  · exact ⟨made.outagesOnly outages, .inl passed⟩
  · obtain ⟨f, effect⟩ := outages d hd
    rw [effect] at answered
    exact ⟨made.outagesOnly outages, .inr ⟨f, answered⟩⟩

/-- If no request fails, the program runs as over the store itself. -/
theorem OutagesOnly.run_eq (outages : m.OutagesOnly) (h : Handler σ) {p : Program α}
    (fine : p.raises (handler h) m = false) :
    (p.run (handler h) m).result = (p.run h m.store).result := by
  induction p generalizing m with
  | done a => rfl
  | note r p ih => exact ih outages fine
  | ask r k ih =>
    obtain ⟨answers, later⟩ := Bool.or_eq_false_iff.mp fine
    obtain ⟨still, ⟨answered, stored⟩ | ⟨f, failed⟩⟩ := outages.answer_cases h r
    · refine (ih _ still later).trans ?_
      change ((k (answer h r m).1).run h (answer h r m).2.store).result = _
      rw [answered, stored]
      rfl
    · change (!(answer h r m).1.isOk) = false at answers
      rw [failed] at answers
      cases answers

/-- A run in which no request fails ends as it does over the store itself. -/
theorem OutagesOnly.ends {e : Engine σ} {s : Service α} (outages : m.OutagesOnly)
    (fine : (engine e).raises s m = false) {Q : Except Failure α → Prop}
    (h : e.Ends s m.store fun x _ => Q x) : (engine e).Ends s m fun x _ => Q x := by
  have same := outages.run_eq e.handler fine
  change Q (Program.run (handler e.handler) (ExceptT.run s) m).result
  rw [same]
  exact h

end Monitored

/-- Over the store in memory a service ends as it does in all runs. -/
theorem Service.Leads.ends {P : Bool → Except Failure α → Prop} {s : Service α}
    (leads : s.Leads P false) (asks : s.Asks Request.Succeeds) {supply : Supply}
    {m : Monitored Memory} (outages : m.OutagesOnly) :
    (Memory.monitored supply).Ends s m fun x _ =>
      P ((Memory.monitored supply).raises s m) x := by
  refine Program.Leads.run (I := Monitored.OutagesOnly) ?_ leads asks outages
  intro r m succeeds outages
  obtain ⟨still, ⟨answered, -⟩ | failed⟩ := outages.answer_cases (Memory.handler supply) r
  · obtain ⟨v, hv⟩ := succeeds supply m.store
    exact ⟨still, .inl ⟨v, answered.trans hv⟩⟩
  · exact ⟨still, .inr failed⟩

end SchoolRegistry
