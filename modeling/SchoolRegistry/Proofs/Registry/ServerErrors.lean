import SchoolRegistry.Proofs.Client.Refusals
import SchoolRegistry.Proofs.Query.Persons
import SchoolRegistry.Proofs.Registry.AllOrNothing
import SchoolRegistry.Proofs.Registry.Organisations
import SchoolRegistry.Proofs.Store.Outages
import SchoolRegistry.Script.Basic

/-!
# Server errors

Clients are told of a server error exactly if the store failed. `server_error_iff_raises` says so
of every operation that writes, over every reachable store and under any outages.

Creations relay what happens when they look things up or save, up to the place where a failure of
the store becomes a refusal (`Creation.answered_orNotCreated`). A replacement turns some failures
into refusals earlier, and it would also refuse a removal that finds nothing. That does not happen
in a reachable store, but a program does not show it: if no request fails, the run is one over a
store that nothing disturbs, and there a replacement refuses by its rules only
(`Replacement.ends_quiet`).
-/

namespace SchoolRegistry

variable {α β : Type}

open Service (Relays relays_pure relays_note relays_ask)

/-! ## Answers -/

/-- The refusal is a server error exactly if a request failed, and a violated rule is noticed. -/
structure Refusal.Suits (met : Bool) (r : Refusal) : Prop where
  blame : r.IsServerError ↔ met = true
  noticed : r.IsNoticed

/-- The outcome suits what happened: nothing is accepted if a request failed. -/
def Told (met : Bool) : Outcome α → Prop
  | .ok _ => met = false
  | .error r => r.Suits met

/-- The service returns an outcome, and it suits what happened. -/
def Answered (met : Bool) (x : Except Failure (Outcome α)) : Prop :=
  ∃ outcome, x = .ok outcome ∧ Told met outcome

/-- A server error suits a failed request. -/
theorem Refusal.suits_failed {r : Refusal} (server : r.IsServerError) (noRule : r.rule? = none) :
    r.Suits true :=
  ⟨iff_of_true server rfl, isNoticed_of_rule?_eq_none noRule⟩

/-- Other kinds of refusals suit a run in which no request failed. -/
theorem Refusal.suits_plain {r : Refusal} (h : r.kind ∉ [.notCreated, .notUpdated, .notDeleted])
    (noRule : r.rule? = none) : r.Suits false :=
  ⟨iff_of_false (fun server => h (isServerError_iff.mp server)) Bool.false_ne_true,
    isNoticed_of_rule?_eq_none noRule⟩

/-- So does a violated rule that clients have a notice for. -/
theorem Refusal.suits_ruleViolated {rule entity : String} {id : Option String} {details : Fields}
    (known : rule ∈ RuleNotice.known.map (·.1)) :
    (ruleViolated rule entity id details).Suits false :=
  ⟨iff_of_false (fun server => by simpa [kind] using isServerError_iff.mp server)
    Bool.false_ne_true, isNoticed_ruleViolated known⟩

/-- What an answer that suits looks like to a client. -/
theorem Answered.refused {met : Bool} {x : Except Failure (Outcome α)} (h : Answered met x)
    (shown : α → Result) : ∃ outcome, x = .ok outcome ∧
      ((∃ r, Result.ofOutcome shown outcome = .refused r ∧ r.IsServerError) ↔ met = true) ∧
      ∀ r, Result.ofOutcome shown outcome = .refused r → r.IsNoticed := by
  obtain ⟨outcome, returned, told⟩ := h
  refine ⟨outcome, returned, ?_⟩
  cases outcome with
  | ok a =>
    refine ⟨iff_of_false ?_ (told ▸ Bool.false_ne_true), nofun⟩
    rintro ⟨_, ⟨⟩, -⟩
  | error r =>
    constructor
    · rw [← told.blame]
      constructor
      · rintro ⟨_, ⟨⟩, server⟩
        exact server
      · exact fun server => ⟨r, rfl, server⟩
    · rintro _ ⟨⟩
      exact told.noticed

/-! ## Creations -/

namespace Creation

variable [Candidate β] {rules : List (Rule Service β)} {c : β} {next : Service (Outcome α)}

/-- The first rule that is violated leads to its refusal, and one that fails to its failure. -/
theorem leads_checkRules {J : Bool → Except Failure Value → Prop}
    {P : Bool → Except Failure (Outcome α) → Prop}
    (judges : ∀ r ∈ rules, (r.judge c).Leads J false)
    (clear : ∀ met v, J met (.ok v) → met = false)
    (failed : ∀ met err, J met (.error err) → P met (.error err))
    (violated : ∀ r ∈ rules, P false (.ok (.error (r.violation c)))) (hnext : next.Leads P false) :
    (checkRules rules c next).Leads P false := by
  induction rules with
  | nil => exact hnext
  | cons r rest ih =>
    have passed : (checkRules rest c next).Leads P false :=
      ih (fun r' hr' => judges r' (List.mem_cons_of_mem _ hr'))
        fun r' hr' => violated r' (List.mem_cons_of_mem _ hr')
    unfold checkRules Pipeline.validate
    rw [List.map_cons, Pipeline.validateBy, bind_assoc]
    apply (judges r List.mem_cons_self).bind
    · intro met v hv
      cases clear met v hv
      by_cases yes : v.truthy
      · rw [if_pos yes]
        exact passed
      · rw [if_neg yes]
        exact violated r List.mem_cons_self
    · exact failed

/-- Checking rules relays outages if judging them does. -/
theorem relays_checkRules {N : Outcome α → Prop}
    (judges : ∀ r ∈ rules, (r.judge c).Relays fun _ => True)
    (violated : ∀ r ∈ rules, N (.error (r.violation c))) (hnext : next.Relays N) :
    (checkRules rules c next).Relays N :=
  leads_checkRules judges (fun _ _ h => h.1) (fun _ _ h => h)
    (fun r hr => ⟨rfl, violated r hr⟩) hnext

/-- Rules that only look at the candidate do not fail. -/
theorem leads_checkRules_of_pure {P : Bool → Except Failure (Outcome α) → Prop}
    (judges : ∀ r ∈ rules, ∃ v, r.judge c = pure v)
    (violated : ∀ r ∈ rules, P false (.ok (.error (r.violation c)))) (hnext : next.Leads P false) :
    (checkRules rules c next).Leads P false := by
  refine leads_checkRules (J := fun met x => met = false ∧ ∃ v, x = .ok v) (fun r hr => ?_)
    (fun _ _ h => h.1) ?_ violated hnext
  · obtain ⟨v, judged⟩ := judges r hr
    rw [judged]
    exact Service.leads_pure ⟨rfl, v, rfl⟩
  · rintro met err ⟨-, v, ⟨⟩⟩

/-- Checking fields needs no store, and refuses by a rule. -/
theorem answered_checkFields {σ : Type} [Entity σ] {fields : List FieldRule} {item : σ}
    (answered : ∀ f ∈ fields, ∃ yes, f.check ((Entity.toValue item).resolve f.path) = .ok yes)
    (hnext : next.Leads Answered false) :
    (checkFields fields item next).Leads Answered false := by
  rcases checkFields_cases answered next with ⟨goes, -⟩ | ⟨path, constraint, refused⟩
  · rw [goes]
    exact hnext
  · rw [refused]
    exact Service.leads_pure ⟨_, rfl, Refusal.suits_plain (by simp [Refusal.kind]) rfl⟩

/-- A creation that relays what happens refuses if a request failed. -/
theorem answered_orNotCreated {logger text entity : String} {s : Service (Outcome α)}
    (hs : s.Relays (Told false)) : (orNotCreated logger text entity s).Leads Answered false := by
  refine hs.onStorageFailure (fun outcome told => ⟨outcome, rfl, told⟩) fun err => ?_
  exact ⟨_, rfl, Refusal.suits_failed rfl rfl⟩

end Creation

/-! ## Organisations -/

namespace OrganisationRules

/-- A rule of organisations relays outages if its check does. -/
theorem relays_rule {label name : String} {check : Organisation → Service Bool} {o : Organisation}
    (h : (check o).Relays fun _ => True) :
    ((rule label name check).judge o).Relays fun _ => True :=
  h.bind fun _ _ => relays_pure trivial

theorem relays_administeredBySchool (o : Organisation) :
    (administeredBySchool o).Relays fun _ => True := by
  unfold administeredBySchool
  split
  · split
    · exact relays_pure trivial
    · exact (relays_ask _).bind fun _ _ => relays_pure trivial
  · exact relays_pure trivial

theorem relays_nameUniqueAtSchool (o : Organisation) :
    (nameUniqueAtSchool o).Relays fun _ => True := by
  unfold nameUniqueAtSchool
  split
  · split
    · exact (relays_ask _).bind fun _ _ => relays_pure trivial
    · exact relays_pure trivial
  · exact relays_pure trivial

/-- Judging the rules of organisations relays outages. -/
theorem relays_judge (o : Organisation) : ∀ r ∈ all, (r.judge o).Relays fun _ => True := by
  simp only [all, List.forall_mem_cons, Presence.judge_identifierRequiredForSchool,
    Presence.judge_nameRequiredForClass]
  exact ⟨relays_pure trivial, relays_pure trivial, relays_rule (relays_administeredBySchool o),
    relays_rule (relays_nameUniqueAtSchool o), List.forall_mem_nil _⟩

/-- A violated rule of organisations has a notice. -/
theorem suits_violation (o : Organisation) : ∀ r ∈ all, (r.violation o).Suits false := by
  simp only [all, List.forall_mem_cons]
  exact ⟨Refusal.suits_ruleViolated (by decide), Refusal.suits_ruleViolated (by decide),
    Refusal.suits_ruleViolated (by decide), Refusal.suits_ruleViolated (by decide),
    List.forall_mem_nil _⟩

end OrganisationRules

/-- The creation of an organisation is answered by what suits it. -/
theorem Organisations.answered_create (o : Organisation) :
    (create o).Leads Answered false := by
  refine Creation.answered_checkFields (Organisation.answered_fieldRules o)
    (Creation.answered_orNotCreated (Creation.relays_checkRules (OrganisationRules.relays_judge o)
      (OrganisationRules.suits_violation o) ?_))
  exact (relays_ask _).bind fun _ _ => (relays_note _).bind fun _ _ => relays_pure rfl

/-! ## Persons -/

namespace Person

open FieldRule (answered_atMost answered_of check_isDate) in
/-- Every field rule for persons has an answer. -/
theorem answered_fieldRules (p : Person) : ∀ f ∈ personFieldRules,
    ∃ yes, f.check ((Entity.toValue p).resolve f.path) = .ok yes := by
  simp only [personFieldRules, List.forall_mem_cons]
  exact ⟨answered_of (by decide) (resolve_firstName p),
    answered_of (by decide) (resolve_firstName p), answered_atMost (resolve_firstName p),
    answered_of (by decide) (resolve_firstName p), answered_of (by decide) (resolve_familyName p),
    answered_of (by decide) (resolve_familyName p), answered_atMost (resolve_familyName p),
    answered_of (by decide) (resolve_familyName p), answered_atMost (resolve_referrer p),
    ⟨_, check_isDate _ _⟩, List.forall_mem_nil _⟩

end Person

/-- The look-up of a referrer relays outages. -/
theorem Persons.relays_referrerTaken (referrer : Option String) :
    (referrerTaken referrer).Relays fun _ => True := by
  cases referrer with
  | none => exact relays_pure trivial
  | some r => exact (relays_ask _).bind fun _ _ => relays_pure trivial

/-- The creation of a person is answered by what suits it. -/
theorem Persons.answered_create (p : Person) : (create p).Leads Answered false := by
  refine Creation.answered_checkFields (Person.answered_fieldRules p)
    (Creation.answered_orNotCreated ((relays_referrerTaken p.referrer).bind fun taken _ => ?_))
  split
  · refine (relays_note _).bind fun _ _ => relays_pure ?_
    exact Refusal.suits_plain (by simp [Refusal.kind]) rfl
  · exact (relays_ask _).bind fun _ _ => (relays_note _).bind fun _ _ => relays_pure rfl

/-! ## Roles -/

/-- The look-up of a role's administration relays outages. -/
theorem Roles.relays_isAdministered (r : Role) : (isAdministered r).Relays fun _ => True := by
  unfold isAdministered
  split
  · exact relays_pure trivial
  · exact (relays_ask _).bind fun _ _ => relays_pure trivial

/-- The creation of a role is answered by what suits it. -/
theorem Roles.answered_create (r : Role) : (create r).Leads Answered false := by
  refine Creation.leads_checkRules_of_pure ?_ ?_ (Creation.answered_orNotCreated ?_)
  · intro rule hrule
    cases List.mem_singleton.mp hrule
    exact ⟨_, Presence.judge_nameWithoutBlanks r⟩
  · intro rule hrule
    cases List.mem_singleton.mp hrule
    exact ⟨_, rfl, Refusal.suits_ruleViolated (by decide)⟩
  · refine (relays_isAdministered r).bind fun found _ => ?_
    split
    · exact (relays_ask _).bind fun _ _ => relays_pure rfl
    · exact relays_pure (Refusal.suits_plain (by simp [Refusal.kind]) rfl)

/-! ## Assignments -/

namespace AssignmentRules

/-- Loading the assignments of a person relays outages. -/
theorem relays_ofPerson (personId : String) : (ofPerson personId).Relays fun _ => True :=
  (relays_ask _).bind fun _ _ => relays_pure trivial

theorem relays_teachesOrLearnsAtClass (a : Assignment) :
    (teachesOrLearnsAtClass a).Relays fun _ => True := by
  refine (relays_ask _).bind fun found _ => ?_
  cases found with
  | none => exact relays_pure trivial
  | some o =>
    dsimp only
    split
    · exact (relays_ask _).bind fun _ _ => relays_pure trivial
    · exact relays_pure trivial

/-- The search for an assignment at a school relays outages. -/
theorem relays_hasRoleAt (school : Option String) (roleId : String) (held : List Assignment) :
    (hasRoleAt school roleId held).Relays fun _ => True := by
  induction held with
  | nil => exact relays_pure trivial
  | cons a rest ih =>
    unfold hasRoleAt
    split
    · refine (relays_ask _).bind fun found _ => ?_
      cases found with
      | none => exact relays_pure trivial
      | some r =>
        dsimp only
        split
        · exact relays_pure trivial
        · exact ih
    · exact ih

theorem relays_sameRoleAtSchool (a : Assignment) :
    (sameRoleAtSchool a).Relays fun _ => True := by
  refine (relays_ask _).bind fun found _ => ?_
  cases found with
  | none => exact relays_pure trivial
  | some o =>
    dsimp only
    split
    · split
      · exact relays_pure trivial
      · refine (relays_ask _).bind fun parent _ => ?_
        cases parent with
        | none => exact relays_pure trivial
        | some school => exact (relays_ofPerson _).bind fun held _ => relays_hasRoleAt _ _ held
    · exact relays_pure trivial

/-- Judging the rules about assignments relays outages. -/
theorem relays_judge (a : Assignment) : ∀ r ∈ all, (r.judge a).Relays fun _ => True := by
  simp only [all, List.forall_mem_cons]
  exact ⟨(relays_teachesOrLearnsAtClass a).bind fun _ _ => relays_pure trivial,
    (relays_sameRoleAtSchool a).bind fun _ _ => relays_pure trivial,
    List.forall_mem_nil _⟩

/-- A violated rule about assignments has a notice. -/
theorem suits_violation (a : Assignment) : ∀ r ∈ all, (r.violation a).Suits false := by
  simp only [all, List.forall_mem_cons]
  exact ⟨Refusal.suits_ruleViolated (by decide), Refusal.suits_ruleViolated (by decide),
    List.forall_mem_nil _⟩

end AssignmentRules

namespace Assignments

/-- The creation of an assignment is answered by what suits it. -/
theorem answered_create (a : Assignment) : (create a).Leads Answered false := by
  refine Creation.answered_orNotCreated ((relays_ask _).bind fun person _ => ?_)
  split
  · refine Creation.relays_checkRules (AssignmentRules.relays_judge a)
      (AssignmentRules.suits_violation a) ?_
    have stored : (isStored a.key).Relays fun _ => True :=
      (relays_ask _).bind fun _ _ => relays_pure trivial
    refine stored.bind fun stored _ => ?_
    split
    · exact relays_pure (Refusal.suits_plain (by simp [Refusal.kind]) rfl)
    · exact (relays_ask _).bind fun _ _ => relays_pure rfl
  · exact relays_pure (Refusal.suits_plain (by simp [Refusal.kind]) rfl)

/-- The deletion of an assignment is answered by what suits it. -/
theorem answered_delete (id : String) : (delete id).Leads Answered false := by
  have removal : (do
      let deleted : Bool ← Service.ask (.delete .assignments id)
      if deleted then pure (.ok ()) else pure (.error (.notFound entity (some id)))
      : Service (Outcome Unit)).Relays (Told false) := by
    refine (relays_ask _).bind fun deleted _ => ?_
    split
    · exact relays_pure rfl
    · exact relays_pure (Refusal.suits_plain (by simp [Refusal.kind]) rfl)
  refine removal.onStorageFailure (fun outcome told => ⟨outcome, rfl, told⟩) fun err => ?_
  exact ⟨_, rfl, Refusal.suits_failed rfl rfl⟩

end Assignments

/-! ## Replacements -/

namespace Replacement

open Service (Stops Stopped stops_pure stops_throw stops_note)

variable {supply : Supply} {inUnitOfWork : Bool} {r : Replacement}

/-- What the service makes a refusal of that suits a failed request. -/
def Grave : Failure → Prop
  | .storage _ => True
  | .refused refusal => refusal.Suits true
  | _ => False

/-- A failed write ends in a grave refusal. -/
theorem stops_perform (personId : String) (w : Write) : (w.perform personId).Stops Grave := by
  cases w with
  | drop a =>
    refine (stops_note _).bind fun _ => Stops.bind ?_ fun deleted => ?_
    · refine (relays_ask _).onStorageFailure (fun _ _ => nofun) fun err _ => ?_
      exact ⟨_, rfl, Refusal.suits_failed rfl rfl⟩
    · split
      · exact stops_pure _
      · exact stops_throw _
  | add k =>
    refine (stops_note _).bind fun _ => Stops.bind ?_ fun _ => stops_pure _
    refine (relays_ask _).onStorageFailure (fun _ _ => nofun) fun err _ => ?_
    exact ⟨_, rfl, Refusal.suits_failed rfl rfl⟩

/-- The writes of a replacement stop at the one that fails. -/
theorem stops_write (r : Replacement) : r.write.Stops Grave := by
  rw [write_eq]
  induction r.writes with
  | nil => exact stops_pure _
  | cons w ws ih => exact (stops_perform _ w).bind fun _ => ih

/-- Carrying out a replacement stops at a failed request. -/
theorem stops_carryOut (inUnitOfWork : Bool) (r : Replacement) :
    (r.carryOut inUnitOfWork).Stops Grave := by
  have load (personId : String) : (AssignmentRules.ofPerson personId).Stops Grave :=
    (AssignmentRules.relays_ofPerson personId).stops fun _ => trivial
  rw [carryOut_eq]
  refine (load _).bind fun existing => Creation.leads_checkRules_of_pure ?_ (fun _ _ => nofun) ?_
  · simp only [rules, List.forall_mem_cons]
    exact ⟨⟨_, rfl⟩, ⟨_, rfl⟩, ⟨_, rfl⟩, List.forall_mem_nil _⟩
  · refine Stops.bind ?_ fun _ => (load _).bind fun _ => stops_pure _
    split
    · exact (stops_write _).inSavepoint fun _ => trivial
    · exact stops_write _

/-- If a request failed, the service refuses, and the refusal suits. -/
theorem leads_apply (inUnitOfWork : Bool) (r : Replacement) :
    (r.apply inUnitOfWork).Leads (fun met x => met = true → Answered met x) false := by
  refine (stops_carryOut inUnitOfWork r).bind_attempt fun met x stopped => ?_
  cases x with
  | ok outcome =>
    refine Service.leads_pure fun failed => ?_
    obtain ⟨_, ⟨⟩, -⟩ := stopped failed
  | error f => cases f with
    | refused refusal =>
      refine Service.leads_pure fun failed => ?_
      obtain ⟨_, ⟨⟩, grave⟩ := stopped failed
      subst failed
      exact ⟨_, rfl, grave⟩
    | storage e =>
      rintro rfl
      exact ⟨_, rfl, Refusal.suits_failed rfl rfl⟩
    | _ =>
      refine Service.leads_throw fun failed => ?_
      obtain ⟨_, ⟨⟩, grave⟩ := stopped failed
      exact grave.elim

/-- The refusal by a rule suits a run in which no request failed. -/
theorem suits_violation? {refusal : Refusal} (violated : r.violation? = some refusal) :
    refusal.Suits false := by
  unfold violation? at violated
  split at violated
  · cases violated
    exact Refusal.suits_ruleViolated (by decide)
  · split at violated
    · cases violated
      exact Refusal.suits_ruleViolated (by decide)
    · split at violated
      · cases violated
        exact Refusal.suits_plain (by simp [Refusal.kind]) rfl
      · cases violated

/-- A replacement looks things up, writes assignments and uses savepoints. -/
theorem asks_apply {P : Request → Prop} (looks : ∀ r : Request, r.IsLookUp → P r)
    (deletes : ∀ id, P (.delete .assignments id))
    (saves : ∀ a : Assignment, P (.save .assignments a)) (marks : P .setSavepoint)
    (keeps : P .keepSavepoint) (undoes : P .undoSavepoint) (r : Replacement) :
    (r.apply inUnitOfWork).Asks P := by
  have load (personId : String) : (AssignmentRules.ofPerson personId).Asks P :=
    (AssignmentRules.looksUp_ofPerson personId).imp looks
  have carried : (r.carryOut inUnitOfWork).Asks P := by
    rw [carryOut_eq]
    refine (load _).bind fun existing => Creation.asks_checkRules ?_ ?_
    · simp only [rules, List.forall_mem_cons]
      exact ⟨Service.asks_pure _, Service.asks_pure _, Service.asks_pure _,
        List.forall_mem_nil _⟩
    · refine Service.Asks.bind ?_ fun _ => (load _).bind fun _ => Service.asks_pure _
      split
      · exact (asks_write_of deletes saves _).inSavepoint marks keeps undoes
      · exact asks_write_of deletes saves _
  refine carried.attempt.bind fun x => ?_
  cases x with
  | ok outcome => exact Service.asks_pure _
  | error f => cases f with
    | refused refusal => exact Service.asks_pure _
    | storage e => exact (Service.asks_note _).bind fun _ => Service.asks_pure _
    | _ => exact Service.asks_throw _

end Replacement

/-! ## All writes -/

/-- Look-ups succeed over the store in memory. -/
theorem Request.IsLookUp.succeeds {r : Request} (h : r.IsLookUp) : r.Succeeds := by
  cases r with
  | get c id => exact fun _ _ => ⟨_, rfl⟩
  | query c q =>
    intro supply m
    obtain ⟨-, page, -, -, -, evaluated, -⟩ := h.1.refined h.2 (m.shelves c)
    exact ⟨page, evaluated⟩
  | _ => exact h.elim

/-- The operation writes. -/
def Operation.IsWrite : Operation → Prop
  | createOrganisation _ => True
  | createPerson _ => True
  | createRole _ => True
  | createAssignment _ => True
  | deleteAssignment _ => True
  | replaceAssignments .. => True
  | _ => False

/-- A replacement is answered as it suits. -/
theorem Replacement.ends_answered {supply : Supply} {m : Monitored Memory}
    (keyed : Memory.Keyed (m.store.shelves .assignments)) (outages : m.OutagesOnly)
    (inUnitOfWork : Bool) (r : Replacement) :
    (Memory.monitored supply).Ends (r.apply inUnitOfWork) m fun x _ =>
      Answered ((Memory.monitored supply).raises (r.apply inUnitOfWork) m) x := by
  cases raised : (Memory.monitored supply).raises (r.apply inUnitOfWork) m with
  | false =>
    refine outages.ends raised ((ends_quiet inUnitOfWork r keyed).imp fun x m' ended => ?_)
    split at ended
    · next refusal violated => exact ⟨_, ended.1, suits_violation? violated⟩
    · exact ⟨_, ended.1, rfl⟩
  | true =>
    have asks : (r.apply inUnitOfWork).Asks Request.Succeeds :=
      asks_apply (fun _ => Request.IsLookUp.succeeds) (fun _ _ _ => ⟨_, rfl⟩)
        (fun _ _ _ => ⟨_, rfl⟩) (fun _ _ => ⟨_, rfl⟩) (fun _ _ => ⟨_, rfl⟩)
        (fun _ _ => ⟨_, rfl⟩) r
    refine ((leads_apply inUnitOfWork r).ends asks outages).imp fun x _ answered => ?_
    exact raised ▸ answered raised

/-- Server errors mean that the store failed: an operation that writes returns an answer, under
any outages, and it is a refusal of which clients are told as a server error exactly if a request
failed meanwhile. If it names a violated rule, then there is an entry for the rule, by which
clients are told of an error of theirs. -/
theorem server_error_iff_raises {supply : Supply} {m : Memory} {outages : List Disturbance}
    (g : Registry) (o : Operation) (writes : o.IsWrite) (reachable : m.Reachable supply)
    (only : ∀ d ∈ outages, d.IsOutage) :
    (Memory.monitored supply).Ends (g.perform o) (.under outages m) fun x _ =>
      ∃ reply, x = .ok reply ∧
        ((∃ r, Result.ofReply o reply = .refused r ∧ r.IsServerError) ↔
          (Memory.monitored supply).raises (g.perform o) (.under outages m) = true) ∧
        ∀ r, Result.ofReply o reply = .refused r → r.IsNoticed := by
  have only : (Monitored.under outages m).OutagesOnly := only
  have looks : ∀ r : Request, r.IsLookUp → r.Succeeds := fun _ => Request.IsLookUp.succeeds
  have saves (c : Collection) (item : c.Item) : (Request.save c item).Succeeds :=
    fun _ _ => ⟨_, rfl⟩
  cases o with
  | createOrganisation o =>
    have asks := Organisations.asks_create_of looks (saves .organisations o)
    exact ((Organisations.answered_create o).ends asks only).imp fun x _ h => h.refused _
  | createPerson p =>
    have asks := Persons.asks_create_of looks (saves .persons p)
    exact ((Persons.answered_create p).ends asks only).imp fun x _ h => h.refused _
  | createRole r =>
    have asks := Roles.asks_create_of looks (saves .roles r)
    exact ((Roles.answered_create r).ends asks only).imp fun x _ h => h.refused _
  | createAssignment a =>
    have asks := Assignments.asks_create_of looks (saves .assignments a)
    exact ((Assignments.answered_create a).ends asks only).imp fun x _ h => h.refused _
  | deleteAssignment id =>
    have asks : (Assignments.delete id).Asks Request.Succeeds :=
      Assignments.asks_delete_of fun _ _ => ⟨_, rfl⟩
    exact ((Assignments.answered_delete id).ends asks only).imp fun x _ h => h.refused _
  | replaceAssignments personId lastModified count sent =>
    exact (Replacement.ends_answered (reachable.keyed .assignments) only _ _).imp
      fun x _ h => h.refused _
  | _ => exact writes.elim

/-- The removal of the one assignment, after which the load of what is left fails. -/
def Operation.removal : Operation := .replaceAssignments "person-1" (.fixed Supply.usualStart) 1 []

/-- The client is told of a server error although the removal was made. -/
theorem server_error_iff_raises_removal :
    (Memory.monitored (.counting Supply.usualStart)).raises (Registry.perform ⟨none, true⟩ .removal)
        (.under [Replacement.secondLoadFails] Replacement.oneAssignment) = true ∧
      (Memory.monitored (.counting Supply.usualStart)).Ends
        (Registry.perform ⟨none, true⟩ .removal)
        (.under [Replacement.secondLoadFails] Replacement.oneAssignment) fun x _ =>
          ∃ reply r, x = .ok reply ∧ Result.ofReply .removal reply = .refused r ∧
            r.IsServerError := by
  have raised : (Memory.monitored (.counting Supply.usualStart)).raises
      (Registry.perform ⟨none, true⟩ .removal)
      (.under [Replacement.secondLoadFails] Replacement.oneAssignment) = true := by
    decide +kernel
  have only : ∀ d ∈ [Replacement.secondLoadFails], d.IsOutage := by
    intro d hd
    cases List.mem_singleton.mp hd
    exact ⟨_, rfl⟩
  refine ⟨raised, (server_error_iff_raises ⟨none, true⟩ .removal trivial
    Replacement.reachable_oneAssignment only).imp ?_⟩
  rintro x _ ⟨reply, returned, iff, -⟩
  obtain ⟨r, refused, server⟩ := iff.mpr raised
  exact ⟨reply, r, returned, refused, server⟩

end SchoolRegistry
