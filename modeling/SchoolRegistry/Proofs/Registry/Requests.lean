import SchoolRegistry.Proofs.Registry.LookUps
import SchoolRegistry.Proofs.Store.Monitor

/-!
# What the services ask of the store

Rules and creations look things up and do nothing else before they write. The services for
organisations, persons and roles write in their own collections and spare the assignments. The
creation and the deletion of an assignment are made of calls, and set no savepoint. None of this
depends on what the store answers.
-/

namespace SchoolRegistry

variable {α : Type} {c : Collection}

open Service (Asks asks_pure asks_throw asks_note asks_ask)

/-- To look something up is to read. -/
theorem Request.IsLookUp.isRead {r : Request} (h : r.IsLookUp) : r.IsRead := by
  cases r <;> trivial

/-- A service that looks things up reads. -/
theorem Service.Asks.reading {s : Service α} (h : s.Asks Request.IsLookUp) :
    s.Asks Request.IsRead := h.imp fun _ => Request.IsLookUp.isRead

/-- A service that reads spares every collection. -/
theorem Service.Asks.spares {s : Service α} (h : s.Asks Request.IsRead) :
    s.Asks (Request.Spares c) := h.imp fun _ => Request.IsRead.spares

theorem Service.Asks.reads {s : Service α} (h : s.Asks Request.IsRead) :
    s.Asks Request.IsCall := h.imp fun _ => Request.IsRead.isCall

theorem Service.Asks.calls {s : Service α} (h : s.Asks (Request.Spares c)) :
    s.Asks Request.IsCall := h.imp fun _ => Request.Spares.isCall

/-! ## Creations and listings -/

section Shared

variable {P : Request → Prop}

/-- Telling of a failure asks nothing more. -/
theorem Creation.asks_orNotCreated {logger text entity : String} {s : Service (Outcome α)}
    (h : s.Asks P) : (Creation.orNotCreated logger text entity s).Asks P :=
  h.onStorageFailure fun _ => (asks_note _).bind fun _ => asks_pure _

/-- Checking fields asks nothing. -/
theorem Creation.asks_checkFields {σ : Type} [Entity σ] {rules : List FieldRule} {item : σ}
    {next : Service (Outcome α)} (h : next.Asks P) :
    (Creation.checkFields rules item next).Asks P := by
  unfold Creation.checkFields
  split
  · exact asks_throw _
  · split
    · exact h
    · split
      · exact asks_pure _
      · exact asks_throw _

end Shared

namespace Listing

/-- Pages are read. -/
theorem asks_page (limits : Option PageLimits) (criteria : Fields) (order : List String)
    (w : Window) : (page c limits criteria order w).Asks Request.IsRead := by
  unfold page
  dsimp only
  split
  · exact asks_throw _
  · exact Asks.bind (asks_ask trivial) fun _ => asks_pure _

/-- The item under an identifier is looked up. -/
theorem looksUp_byId (id : String) : (byId c id).Asks Request.IsLookUp := by
  refine Asks.bind (asks_ask trivial) fun found => ?_
  cases found <;> exact asks_pure _

theorem asks_byId (id : String) : (byId c id).Asks Request.IsRead := (looksUp_byId id).reading

end Listing

/-! ## Organisations -/

namespace OrganisationRules

/-- A rule of organisations looks up what its check looks up. -/
theorem looksUp_rule {label name : String} {check : Organisation → Service Bool} {o : Organisation}
    (h : (check o).Asks Request.IsLookUp) :
    ((rule label name check).judge o).Asks Request.IsLookUp :=
  h.bind fun _ => asks_pure _

theorem looksUp_administeredBySchool (o : Organisation) :
    (administeredBySchool o).Asks Request.IsLookUp := by
  unfold administeredBySchool
  split
  · split
    · exact asks_pure _
    · exact Asks.bind (asks_ask trivial) fun _ => asks_pure _
  · exact asks_pure _

theorem looksUp_nameUniqueAtSchool (o : Organisation) :
    (nameUniqueAtSchool o).Asks Request.IsLookUp := by
  unfold nameUniqueAtSchool
  split
  · split
    · exact Asks.bind (asks_ask (isLookUp_sameName _ _)) fun _ => asks_pure _
    · exact asks_pure _
  · exact asks_pure _

/-- The rules for organisations only look things up. -/
theorem looksUp_judge (o : Organisation) : ∀ r ∈ all, (r.judge o).Asks Request.IsLookUp := by
  simp only [all, List.forall_mem_cons, Presence.judge_identifierRequiredForSchool,
    Presence.judge_nameRequiredForClass]
  exact ⟨asks_pure _, asks_pure _, looksUp_rule (looksUp_administeredBySchool o),
    looksUp_rule (looksUp_nameUniqueAtSchool o), List.forall_mem_nil _⟩

end OrganisationRules

/-- A creation looks things up and saves what is created, nothing else. -/
theorem Organisations.asks_create_of {P : Request → Prop} {o : Organisation}
    (looks : ∀ r : Request, r.IsLookUp → P r) (saves : P (.save .organisations o)) :
    (create o).Asks P := by
  refine Creation.asks_checkFields (Creation.asks_orNotCreated (Creation.asks_checkRules
    (fun r hr => (OrganisationRules.looksUp_judge o r hr).imp looks) ?_))
  exact Asks.bind (asks_ask saves) fun _ => (asks_note _).bind fun _ => asks_pure _

/-- Creating an organisation does not touch the assignments. -/
theorem Organisations.asks_create (o : Organisation) :
    (create o).Asks (Request.Spares .assignments) :=
  asks_create_of (fun _ looksUp => looksUp.isRead.spares) Collection.noConfusion

/-- The administered organisations are read. -/
theorem Organisations.asks_administeredBy (limits : Option PageLimits) (id : String)
    (w : Window) : (administeredBy limits id w).Asks Request.IsRead := by
  refine (Listing.asks_byId id).bind fun found => ?_
  cases found with
  | error r => exact asks_pure _
  | ok o => exact (Listing.asks_page limits _ _ w).bind fun _ => asks_pure _

/-! ## Persons -/

/-- Whether a referrer is taken is looked up. -/
theorem Persons.looksUp_referrerTaken (referrer : Option String) :
    (referrerTaken referrer).Asks Request.IsLookUp := by
  cases referrer with
  | none => exact asks_pure _
  | some r => exact Asks.bind (asks_ask (isLookUp_referrer r)) fun _ => asks_pure _

/-- Creating a person looks things up and saves that person. -/
theorem Persons.asks_create_of {P : Request → Prop} {p : Person}
    (looks : ∀ r : Request, r.IsLookUp → P r) (saves : P (.save .persons p)) :
    (create p).Asks P := by
  refine Creation.asks_checkFields (Creation.asks_orNotCreated
    (((looksUp_referrerTaken p.referrer).imp looks).bind fun taken => ?_))
  split
  · exact (asks_note _).bind fun _ => asks_pure _
  · exact Asks.bind (asks_ask saves) fun _ => (asks_note _).bind fun _ => asks_pure _

/-- Creating a person does not touch the assignments. -/
theorem Persons.asks_create (p : Person) : (create p).Asks (Request.Spares .assignments) :=
  asks_create_of (fun _ looksUp => looksUp.isRead.spares) Collection.noConfusion

/-! ## Roles -/

/-- Whether a role is administered is looked up. -/
theorem Roles.looksUp_isAdministered (r : Role) : (isAdministered r).Asks Request.IsLookUp := by
  unfold isAdministered
  split
  · exact asks_pure _
  · exact Asks.bind (asks_ask trivial) fun _ => asks_pure _

/-- Creating a role looks things up and saves that role. -/
theorem Roles.asks_create_of {P : Request → Prop} {r : Role}
    (looks : ∀ r : Request, r.IsLookUp → P r) (saves : P (.save .roles r)) :
    (create r).Asks P := by
  refine Creation.asks_checkRules (fun rule hrule => ?_) (Creation.asks_orNotCreated ?_)
  · cases List.mem_singleton.mp hrule
    rw [Presence.judge_nameWithoutBlanks]
    exact asks_pure _
  · refine ((looksUp_isAdministered r).imp looks).bind fun found => ?_
    split
    · exact Asks.bind (asks_ask saves) fun _ => asks_pure _
    · exact asks_pure _

/-- Creating a role does not touch the assignments. -/
theorem Roles.asks_create (r : Role) : (create r).Asks (Request.Spares .assignments) :=
  asks_create_of (fun _ looksUp => looksUp.isRead.spares) Collection.noConfusion

/-! ## Assignments -/

namespace AssignmentRules

/-- The assignments of a person are looked up. -/
theorem looksUp_ofPerson (personId : String) : (ofPerson personId).Asks Request.IsLookUp :=
  Asks.bind (asks_ask (Assignments.isLookUp_ofPerson personId)) fun _ => asks_pure _

theorem asks_ofPerson (personId : String) : (ofPerson personId).Asks Request.IsRead :=
  (looksUp_ofPerson personId).reading

/-- The rule about classes looks things up. -/
theorem looksUp_teachesOrLearnsAtClass (a : Assignment) :
    (teachesOrLearnsAtClass a).Asks Request.IsLookUp := by
  refine Asks.bind (asks_ask trivial) fun found => ?_
  cases found with
  | none => exact asks_pure _
  | some o =>
    dsimp only
    split
    · exact Asks.bind (asks_ask trivial) fun _ => asks_pure _
    · exact asks_pure _

/-- The search for an assignment at a school looks things up. -/
theorem looksUp_hasRoleAt (school : Option String) (roleId : String) (held : List Assignment) :
    (hasRoleAt school roleId held).Asks Request.IsLookUp := by
  induction held with
  | nil => exact asks_pure _
  | cons a rest ih =>
    unfold hasRoleAt
    split
    · refine Asks.bind (asks_ask trivial) fun found => ?_
      cases found with
      | none => exact asks_pure _
      | some r =>
        dsimp only
        split
        · exact asks_pure _
        · exact ih
    · exact ih

/-- The rule about schools looks things up. -/
theorem looksUp_sameRoleAtSchool (a : Assignment) : (sameRoleAtSchool a).Asks Request.IsLookUp := by
  refine Asks.bind (asks_ask trivial) fun found => ?_
  cases found with
  | none => exact asks_pure _
  | some o =>
    dsimp only
    split
    · split
      · exact asks_pure _
      · refine Asks.bind (asks_ask trivial) fun parent => ?_
        cases parent with
        | none => exact asks_pure _
        | some school =>
          exact (looksUp_ofPerson _).bind fun held => looksUp_hasRoleAt _ _ held
    · exact asks_pure _

/-- The rules for assignments only look things up. -/
theorem looksUp_judge (a : Assignment) : ∀ r ∈ all, (r.judge a).Asks Request.IsLookUp := by
  simp only [all, List.forall_mem_cons]
  refine ⟨(looksUp_teachesOrLearnsAtClass a).bind fun _ => asks_pure _,
    (looksUp_sameRoleAtSchool a).bind fun _ => asks_pure _, ?_⟩
  exact fun _ h => absurd h List.not_mem_nil

/-- All rules about assignments only read. -/
theorem asks_judge (a : Assignment) : ∀ r ∈ all, (r.judge a).Asks Request.IsRead :=
  fun r hr => (looksUp_judge a r hr).reading

end AssignmentRules

namespace Assignments

/-- Whether a key is stored is looked up. -/
theorem looksUp_isStored (k : Assignment.Key) : (isStored k).Asks Request.IsLookUp :=
  Asks.bind (asks_ask (isLookUp_key k)) fun _ => asks_pure _

theorem looksUp_byPerson (personId : String) : (byPerson personId).Asks Request.IsLookUp :=
  Asks.bind (asks_ask (isLookUp_byPerson personId)) fun _ => asks_pure _

theorem asks_byPerson (personId : String) : (byPerson personId).Asks Request.IsRead :=
  (looksUp_byPerson personId).reading

/-- Creating an assignment looks things up and saves that assignment. -/
theorem asks_create_of {P : Request → Prop} {a : Assignment}
    (looks : ∀ r : Request, r.IsLookUp → P r) (saves : P (.save .assignments a)) :
    (create a).Asks P := by
  refine Creation.asks_orNotCreated (Asks.bind (asks_ask (looks _ trivial)) fun person => ?_)
  split
  · refine Creation.asks_checkRules
      (fun r hr => (AssignmentRules.looksUp_judge a r hr).imp looks) ?_
    refine ((looksUp_isStored a.key).imp looks).bind fun stored => ?_
    split
    · exact asks_pure _
    · exact Asks.bind (asks_ask saves) fun _ => asks_pure _
  · exact asks_pure _

theorem asks_create (a : Assignment) : (create a).Asks Request.IsCall :=
  asks_create_of (fun _ looksUp => looksUp.isRead.isCall) rfl

/-- Deleting an assignment asks for that and nothing else. -/
theorem asks_delete_of {P : Request → Prop} {id : String} (h : P (.delete .assignments id)) :
    (delete id).Asks P := by
  refine Asks.onStorageFailure (Asks.bind (asks_ask h) fun deleted => ?_) fun _ =>
    (asks_note _).bind fun _ => asks_pure _
  split <;> exact asks_pure _

theorem asks_delete (id : String) : (delete id).Asks Request.IsCall := asks_delete_of rfl

end Assignments

end SchoolRegistry
