import SchoolRegistry.Proofs.Query.Persons
import SchoolRegistry.Proofs.Registry.Replaced
import SchoolRegistry.Proofs.Registry.Requests
import SchoolRegistry.Proofs.Store.InStep
import SchoolRegistry.Proofs.Store.Twins

/-!
# The services cannot tell the stores apart

A store in memory and a database, run side by side on the same operations, answer every request
alike and stay in step (`Aligned`), as long as created items were never saved before, identifiers
ascend and windows are narrow. So every operation has the same outcome over both, with the same
items in the same order (`outcomes_alike`).

Most services make requests that fit whatever is stored. Three do not: the creation of a person or
of an assignment must not save a value that is unique in the database, and the writes of a
replacement must not fail, since the stores undo savepoints differently. Each of them has looked up
before what it then relies on.

A window that needs more than sixty-four bits sets the stores apart
(`listOrganisations_apart_of_wide_offset`).
-/

namespace SchoolRegistry

variable {supply : Supply} {α : Type} {w : Twins Memory Database} {c : Collection}

/-- A store in memory and a database side by side. -/
def sideBySide (supply : Supply) : Engine (Twins Memory Database) :=
  Twins.engine (Memory.engine supply) (Database.engine supply)

/-- The stores have answered alike so far and are in step. -/
structure Aligned (supply : Supply) (w : Twins Memory Database) : Prop where
  alike : w.alike
  inStep : InStep supply w.left w.right

/-- A look-up fits every store. -/
theorem Request.IsLookUp.fits {r : Request} (h : r.IsLookUp) (m : Memory) : r.Fits m := by
  cases r with
  | get | query => exact h
  | _ => cases h

namespace Aligned

/-- A fitting request is answered as in memory and leaves the stores aligned. -/
theorem ends_ask (h : Aligned supply w) (orderly : supply.Orderly) {r : Request}
    (fits : r.Fits w.left) : (sideBySide supply).Ends (Service.ask r) w fun x w' =>
      Aligned supply w' ∧ x = (Memory.answer supply r w.left).1 ∧
        w'.left = (Memory.answer supply r w.left).2 := by
  obtain ⟨same, inStep⟩ := h.inStep.answer orderly fits
  exact Engine.ends_ask.mpr ⟨⟨⟨h.alike, same⟩, inStep⟩, rfl, rfl⟩

/-- A query for something plain answers the same in both stores. -/
theorem ends_query (h : Aligned supply w) (orderly : supply.Orderly) {q : Query}
    (looksUp : (Request.query c q).IsLookUp) :
    (sideBySide supply).Ends (Service.ask (.query c q)) w fun x w' => Aligned supply w' ∧
      x = q.evaluate Entity.toValue (w.left.shelves c) ∧ w'.left = w.left :=
  h.ends_ask orderly (looksUp.fits w.left)

/-- Services whose requests fit whatever is stored keep the stores aligned. -/
theorem keeps_of_fits (orderly : supply.Orderly) {s : Service α}
    (hs : s.Asks fun r => ∀ m, r.Fits m) : (sideBySide supply).Keeps (Aligned supply) s :=
  hs.keeps fun _ w fits h => (h.ends_ask orderly (fits w.left)).1

/-- Looking things up changes nothing in memory. -/
theorem ends_lookUps (h : Aligned supply w) (orderly : supply.Orderly) {s : Service α}
    (hs : s.Asks Request.IsLookUp) : (sideBySide supply).Ends s w fun _ w' =>
      Aligned supply w' ∧ w'.left = w.left := by
  refine hs.keeps (e := sideBySide supply) (I := fun w' => Aligned supply w' ∧ w'.left = w.left)
    (fun r w' looksUp ⟨h', same⟩ => ?_) w ⟨h, rfl⟩
  obtain ⟨aligned, -, left⟩ := h'.ends_ask orderly (looksUp.fits w'.left)
  refine ⟨aligned, left.trans ?_⟩
  rw [← same]
  cases r with
  | get | query => rfl
  | _ => cases looksUp

/-- A service in a savepoint that does not fail there keeps the stores aligned. -/
theorem ends_inSavepoint (h : Aligned supply w) (orderly : supply.Orderly) {s : Service α}
    (body : ∀ w', Aligned supply w' → w'.left = w.left.mark →
      (sideBySide supply).Ends s w' fun x w'' => Aligned supply w'' ∧ ∃ a, x = .ok a) :
    (sideBySide supply).Ends s.inSavepoint w fun x w' => Aligned supply w' ∧ ∃ a, x = .ok a := by
  refine (h.ends_ask orderly (r := .setSavepoint) trivial).bind ?_ ?_
  · rintro _ w' ⟨h', -, left⟩
    rw [Engine.ends_bind, Engine.ends_attempt]
    refine (body w' h' left).imp ?_
    rintro _ w'' ⟨h'', a, rfl⟩
    refine (h''.ends_ask orderly (r := .keepSavepoint) trivial).bind ?_ ?_
    · rintro _ w₃ ⟨h₃, -, -⟩
      exact ⟨h₃, a, rfl⟩
    · rintro f w₃ ⟨-, ⟨⟩, -⟩
  · rintro f w' ⟨-, ⟨⟩, -⟩

end Aligned

/-! ## Creations -/

/-- Turning a failure of the store into a refusal keeps what the operation keeps. -/
theorem Creation.keeps_orNotCreated {σ : Type} {e : Engine σ} {I : σ → Prop}
    {logger text entity : String} {s : Service (Outcome α)} (hs : e.Keeps I s) :
    e.Keeps I (orNotCreated logger text entity s) :=
  hs.onStorageFailure fun _ => (Engine.keeps_note _).bind fun _ => Engine.keeps_pure _

/-- Checking field rules keeps what follows them keeps. -/
theorem Creation.keeps_checkFields {σ τ : Type} [Entity τ] {e : Engine σ} {I : σ → Prop}
    {rules : List FieldRule} {item : τ} {next : Service (Outcome α)} (hs : e.Keeps I next) :
    e.Keeps I (checkFields rules item next) := by
  unfold checkFields
  split
  · exact Engine.keeps_throw _
  · split
    · exact hs
    · split
      · exact Engine.keeps_pure _
      · exact Engine.keeps_throw _

namespace Persons

/-- A person whose referrer is not found taken can be saved. -/
theorem ends_referrerTaken (h : Aligned supply w) (orderly : supply.Orderly) (p : Person) :
    (sideBySide supply).Ends (referrerTaken p.referrer) w fun x w' => Aligned supply w' ∧
      (x = .ok false → ∀ y ∈ w'.left.shelves .persons, Collection.clash .persons p y = false) := by
  cases given : p.referrer with
  | none =>
    refine Engine.ends_pure.mpr ⟨h, fun _ y _ => Bool.eq_false_iff.mpr fun clash => ?_⟩
    obtain ⟨referrer, same, -⟩ := Collection.clash_persons.mp clash
    rw [given] at same
    cases same
  | some referrer =>
    refine (h.ends_query orderly (isLookUp_referrer referrer)).bind ?_ ?_
    · rintro found w' ⟨h', evaluated, left⟩
      refine Engine.ends_pure.mpr ⟨h', fun untaken y hy => Bool.eq_false_iff.mpr fun clash => ?_⟩
      obtain ⟨referrer', mine, its⟩ := Collection.clash_persons.mp clash
      obtain rfl := Option.some.inj (given.symm.trans mine)
      rw [left] at hy
      obtain ⟨counted, answer, total⟩ :=
        evaluate_referrerQuery referrer (w.left.shelves .persons)
      cases evaluated.trans answer
      have nobody := of_decide_eq_false (Except.ok.inj untaken)
      exact nobody (total.mpr ⟨y, hy, its⟩)
    · rintro f w' ⟨h', -, -⟩
      exact ⟨h', nofun⟩

/-- Creating a person keeps the stores aligned. -/
theorem keeps_create (orderly : supply.Orderly) {p : Person} (unsaved : Entity.Unsaved p) :
    (sideBySide supply).Keeps (Aligned supply) (create p) := by
  refine Creation.keeps_checkFields (Creation.keeps_orNotCreated fun w h => ?_)
  refine (ends_referrerTaken h orderly p).bind ?_ fun _ _ h' => h'.1
  rintro taken w' ⟨h', apart⟩
  cases taken with
  | true => exact h'
  | false =>
    have saving := h'.ends_ask orderly (r := .save .persons p) ⟨unsaved, apart rfl⟩
    exact saving.bind (fun _ _ saved => saved.1) fun _ _ saved => saved.1

end Persons

namespace Assignments

/-- An assignment whose key is not found stored can be saved. -/
theorem ends_isStored_aligned (h : Aligned supply w) (orderly : supply.Orderly)
    (a : Assignment) : (sideBySide supply).Ends (isStored a.key) w fun x w' =>
      Aligned supply w' ∧ (x = .ok false →
        ∀ y ∈ w'.left.shelves .assignments, Collection.clash .assignments a y = false) := by
  refine (h.ends_query orderly (isLookUp_key a.key)).bind ?_ ?_
  · rintro found w' ⟨h', evaluated, left⟩
    refine Engine.ends_pure.mpr ⟨h', fun absent y hy => Bool.eq_false_iff.mpr fun clash => ?_⟩
    have none : found.items.isEmpty = true := (Bool.not_eq_false' ..).mp (Except.ok.inj absent)
    rw [left] at hy
    refine Assignment.not_mem_of_keyQuery evaluated.symm none ?_
    rw [Collection.clash_assignments.mp clash]
    exact List.mem_map_of_mem hy
  · rintro f w' ⟨h', -, -⟩
    exact ⟨h', nofun⟩

/-- Creating an assignment keeps the stores aligned. -/
theorem keeps_create_aligned (orderly : supply.Orderly) {a : Assignment}
    (unsaved : Entity.Unsaved a) : (sideBySide supply).Keeps (Aligned supply) (create a) := by
  refine Creation.keeps_orNotCreated fun w h => ?_
  have person := h.ends_ask orderly (r := .get .persons a.personId) trivial
  refine person.bind ?_ fun _ _ h' => h'.1
  rintro found w₁ ⟨h₁, -, -⟩
  split
  · refine (h₁.ends_lookUps orderly (Pipeline.asks_validateBy
      (AssignmentRules.looksUp_judge a))).bind ?_ fun _ _ h' => h'.1
    rintro verdict w₂ ⟨h₂, -⟩
    cases verdict with
    | error refusal => exact h₂
    | ok _ =>
      refine (ends_isStored_aligned h₂ orderly a).bind ?_ fun _ _ h' => h'.1
      rintro stored w₃ ⟨h₃, apart⟩
      cases stored with
      | true => exact h₃
      | false =>
        have saving := h₃.ends_ask orderly (r := .save .assignments a) ⟨unsaved, apart rfl⟩
        exact saving.bind (fun _ _ saved => saved.1) fun _ _ saved => saved.1
  · exact h₁

/-- Deleting an assignment keeps the stores aligned. -/
theorem keeps_delete_aligned (orderly : supply.Orderly) (id : String) :
    (sideBySide supply).Keeps (Aligned supply) (delete id) := by
  refine Aligned.keeps_of_fits orderly (Service.Asks.onStorageFailure ?_ fun _ =>
    (Service.asks_note _).bind fun _ => Service.asks_pure _)
  refine Service.Asks.bind (Service.asks_ask fun _ => trivial) fun deleted => ?_
  split <;> exact Service.asks_pure _

end Assignments

/-! ## Replacements -/

namespace Replacement

variable {r : Replacement} {m : Memory}

/-- A write of a replacement adds a key that is not there when it is made. -/
theorem key_new {done rest : List Write} {v : Write} {k : Assignment.Key}
    (own : ∀ a ∈ r.sent, a.personId = r.personId)
    (split : (r.against (m.shelves .assignments)).writes = done ++ v :: rest)
    (adds : v.key? = some k) :
    k ∉ ((afterAll supply done m).shelves .assignments).map Assignment.key := by
  have keys : done.filterMap Write.key? ++ k :: rest.filterMap Write.key? =
      (r.against (m.shelves .assignments)).missing := by
    rw [← added_writes, split, List.filterMap_append, List.filterMap_cons_some adds]
  have once := nodup_missing (r.against (m.shelves .assignments))
  rw [← keys] at once
  intro stored
  obtain ⟨x, hx, same⟩ := List.mem_map.mp stored
  rcases mem_afterAll hx with ⟨before, -⟩ | added
  · have missing : k ∈ (r.against (m.shelves .assignments)).missing := keys ▸ by simp
    exact missing_not_stored own missing (same ▸ List.mem_map_of_mem before)
  · exact (List.nodup_append.mp once).2.2 k (same ▸ added) k List.mem_cons_self rfl

/-- A write that finds what it removes and adds a key that is not there is made. -/
theorem ends_perform_aligned (h : Aligned supply w) (orderly : supply.Orderly) (personId : String)
    {v : Write} (possible : ¬v.IsVoid w.left)
    (new : ∀ k, v.key? = some k → k ∉ (w.left.shelves .assignments).map Assignment.key) :
    (sideBySide supply).Ends (v.perform personId) w fun x w' =>
      Aligned supply w' ∧ x = .ok () ∧ w'.left = v.result supply w.left := by
  cases v with
  | drop a =>
    refine Engine.ends_bind.mpr (Engine.ends_note.mpr ?_)
    rw [Engine.ends_bind, Engine.ends_onStorageFailure]
    have removal := h.ends_ask orderly (r := .delete .assignments (a.id.getD "")) trivial
    refine removal.imp ?_
    rintro _ w' ⟨h', rfl, left⟩
    have found : (Memory.find? (a.id.getD "") (w.left.shelves .assignments)).isSome = true :=
      Option.isSome_iff_ne_none.mpr possible
    simp only [Memory.answer, Depot.delete, found]
    exact Engine.ends_pure.mpr ⟨h', rfl, left⟩
  | add k =>
    refine Engine.ends_bind.mpr (Engine.ends_note.mpr ?_)
    rw [Engine.ends_bind, Engine.ends_onStorageFailure]
    have apart : ∀ x ∈ w.left.shelves .assignments,
        Collection.clash .assignments (Assignment.ofKey k) x = false := by
      refine fun x hx => Bool.eq_false_iff.mpr fun clash => new k rfl ?_
      rw [show k = (Assignment.ofKey k).key from rfl, Collection.clash_assignments.mp clash]
      exact List.mem_map_of_mem hx
    have addition := h.ends_ask orderly (r := .save .assignments (Assignment.ofKey k))
      ⟨⟨rfl, rfl, rfl⟩, apart⟩
    refine addition.imp ?_
    rintro _ w' ⟨h', rfl, left⟩
    exact Engine.ends_pure.mpr ⟨h', rfl, left⟩

/-- Writes that are possible in memory succeed in both stores and keep them aligned. -/
theorem ends_each_aligned (orderly : supply.Orderly) (personId : String) {ws : List Write}
    (h : Aligned supply w)
    (possible : ∀ done v rest, ws = done ++ v :: rest → ¬v.IsVoid (afterAll supply done w.left) ∧
      ∀ k, v.key? = some k →
        k ∉ ((afterAll supply done w.left).shelves .assignments).map Assignment.key) :
    (sideBySide supply).Ends (each (Write.perform personId) ws) w fun x w' =>
      Aligned supply w' ∧ ∃ a, x = .ok a := by
  induction ws generalizing w with
  | nil => exact Engine.ends_pure.mpr ⟨h, (), rfl⟩
  | cons v ws ih =>
    obtain ⟨here, new⟩ := possible [] v ws rfl
    refine (ends_perform_aligned h orderly personId here new).bind ?_ ?_
    · rintro _ w' ⟨h', -, left⟩
      refine ih h' fun done u rest split => ?_
      rw [left, ← afterAll_cons]
      exact possible (v :: done) u rest (congrArg (v :: ·) split)
    · rintro f w' ⟨-, ⟨⟩, -⟩

/-- All writes of a replacement of the person's own assignments are made. -/
theorem ends_write_aligned (h : Aligned supply w) (orderly : supply.Orderly)
    (own : ∀ a ∈ r.sent, a.personId = r.personId) :
    (sideBySide supply).Ends (r.against (w.left.shelves .assignments)).write w fun x w' =>
      Aligned supply w' ∧ ∃ a, x = .ok a := by
  rw [write_eq]
  refine ends_each_aligned orderly _ h fun done v rest split => ⟨?_, fun k adds => ?_⟩
  · exact not_isVoid (h.inStep.mirrors.keyed .assignments) split
  · exact key_new own split adds

/-- The assignments of a person are read as memory holds them. -/
theorem ends_ofPerson_aligned (h : Aligned supply w) (orderly : supply.Orderly)
    (personId : String) :
    (sideBySide supply).Ends (AssignmentRules.ofPerson personId) w fun x w' =>
      Aligned supply w' ∧ w'.left = w.left ∧
        x = .ok (Assignment.heldBy personId (w.left.shelves .assignments)) := by
  refine (h.ends_query orderly (Assignments.isLookUp_ofPerson personId)).bind ?_ ?_
  · rintro found w' ⟨h', evaluated, left⟩
    rw [Assignment.evaluate_ofPersonQuery] at evaluated
    cases evaluated
    exact Engine.ends_pure.mpr ⟨h', left, rfl⟩
  · rintro f w' ⟨-, evaluated, -⟩
    rw [Assignment.evaluate_ofPersonQuery] at evaluated
    cases evaluated

/-- The writes of a replacement keep the stores aligned. -/
theorem keeps_carryOut_aligned (orderly : supply.Orderly) (inUnitOfWork : Bool) (r : Replacement) :
    (sideBySide supply).Keeps (Aligned supply) (r.carryOut inUnitOfWork) := by
  intro w h
  rw [carryOut_eq]
  refine (ends_ofPerson_aligned h orderly r.personId).bind ?_ fun _ _ h' => h'.1
  rintro existing w₁ ⟨h₁, same, ⟨⟩⟩
  change (sideBySide supply).Ends (Creation.checkRules rules (r.against _) _) w₁ _
  rw [ends_checkRules]
  cases satisfied : (r.against (w.left.shelves .assignments)).violation? with
  | some refusal => exact h₁
  | none =>
    have own : ∀ a ∈ r.sent, a.personId = r.personId := (violation?_eq_none.mp satisfied).1
    have writes : (sideBySide supply).Ends (if inUnitOfWork then
        (r.against (w.left.shelves .assignments)).write.inSavepoint
        else (r.against (w.left.shelves .assignments)).write) w₁ fun x w' =>
          Aligned supply w' ∧ ∃ a, x = .ok a := by
      rw [← same]
      cases inUnitOfWork with
      | false => exact ends_write_aligned h₁ orderly own
      | true =>
        refine h₁.ends_inSavepoint orderly fun w' h' left => ?_
        have shelves : w'.left.shelves = w₁.left.shelves := by rw [left]; rfl
        rw [← shelves]
        exact ends_write_aligned h' orderly own
    refine writes.bind ?_ fun _ _ h' => h'.1
    rintro _ w₂ ⟨h₂, -⟩
    exact (ends_ofPerson_aligned h₂ orderly r.personId).bind (fun _ _ h' => h'.1)
      fun _ _ h' => h'.1

/-- A replacement keeps the stores aligned. -/
theorem keeps_apply_aligned (orderly : supply.Orderly) (inUnitOfWork : Bool) (r : Replacement) :
    (sideBySide supply).Keeps (Aligned supply) (r.apply inUnitOfWork) := by
  refine (keeps_carryOut_aligned orderly inUnitOfWork r).attempt.bind fun x => ?_
  cases x with
  | ok outcome => exact Engine.keeps_pure _
  | error f => cases f with
    | refused refusal => exact Engine.keeps_pure _
    | storage e => exact (Engine.keeps_note _).bind fun _ => Engine.keeps_pure _
    | _ => exact Engine.keeps_throw _

end Replacement

/-! ## Operations -/

/-- The window needs no more than sixty-four bits, within the limits of pages. -/
def Window.IsNarrow (limits : Option PageLimits) (w : Window) : Prop :=
  (∀ n ∈ w.offset, n < 9223372036854775808) ∧
    ∀ n ∈ PageLimits.effective limits w.limit, n < 9223372036854775808

/-- The criteria are values that the fields take, or missing. -/
def Collection.TakesAll (c : Collection) (criteria : Fields) : Prop :=
  ∀ f ∈ criteria, c.Takes f.1 f.2

/-- What is created was never saved, and listings have criteria of the types of the fields and
narrow windows. -/
def Operation.IsAdmissible (limits : Option PageLimits) : Operation → Prop
  | createOrganisation o => Entity.Unsaved o
  | createPerson p => Entity.Unsaved p
  | createRole r => Entity.Unsaved r
  | createAssignment a => Entity.Unsaved a
  | listOrganisations f w => Collection.organisations.TakesAll f.criteria ∧ w.IsNarrow limits
  | listAdministered _ w => w.IsNarrow limits
  | listPersons f w => Collection.persons.TakesAll f.criteria ∧ w.IsNarrow limits
  | listRoles f w => Collection.roles.TakesAll f.criteria ∧ w.IsNarrow limits
  | findOrganisation _ | findPerson _ | deleteAssignment _ | listAssignments _
  | replaceAssignments .. => True

/-- A listing of plain fields in a narrow window looks things up. -/
theorem Listing.looksUp_page {limits : Option PageLimits} {criteria : Fields}
    {order : List String} {window : Window}
    (plain : ∀ f ∈ criteria, c.IsPlain f.1 ∧ c.Takes f.1 f.2)
    (sorts : ∀ field ∈ order, c.IsPlain field) (narrow : window.IsNarrow limits) :
    (page c limits criteria order window).Asks Request.IsLookUp := by
  unfold page
  dsimp only
  split
  · exact Service.asks_throw _
  · next q paged =>
    have plain := isPlain_query plain sorts
    refine Service.Asks.bind (Service.asks_ask ⟨plain.paged paged, ?_⟩) fun _ => Service.asks_pure _
    obtain ⟨rfl, -⟩ := Query.paged_eq_ok paged
    exact narrow

/-- Every admissible operation keeps the stores aligned. -/
theorem Registry.keeps_aligned (orderly : supply.Orderly) (g : Registry) {o : Operation}
    (admissible : o.IsAdmissible g.limits) :
    (sideBySide supply).Keeps (Aligned supply) (g.perform o) := by
  have lookUps {α : Type} {s : Service α} (hs : s.Asks Request.IsLookUp) :
      (sideBySide supply).Keeps (Aligned supply) s :=
    Aligned.keeps_of_fits orderly (hs.imp fun _ => Request.IsLookUp.fits)
  cases o with
  | createOrganisation o =>
    exact Aligned.keeps_of_fits orderly (Organisations.asks_create_of
      (fun _ => Request.IsLookUp.fits) fun m =>
        ⟨admissible, fun _ _ => Collection.clash_organisations _ _⟩)
  | createPerson p => exact Persons.keeps_create orderly admissible
  | createRole r =>
    exact Aligned.keeps_of_fits orderly (Roles.asks_create_of
      (fun _ => Request.IsLookUp.fits) fun m => ⟨admissible, fun _ _ => Collection.clash_roles _ _⟩)
  | createAssignment a => exact Assignments.keeps_create_aligned orderly admissible
  | findOrganisation id => exact lookUps (Listing.looksUp_byId id)
  | findPerson id => exact lookUps (Listing.looksUp_byId id)
  | listOrganisations f window =>
    exact lookUps (Listing.looksUp_page
      (fun k hk => ⟨Organisations.plain_criteria f k hk, admissible.1 k hk⟩)
      (fun field hf => Organisations.isPlain_field field (by simp_all)) admissible.2)
  | listAdministered id window =>
    refine lookUps (Service.Asks.bind (Listing.looksUp_byId id) fun found => ?_)
    cases found with
    | error refusal => exact Service.asks_pure _
    | ok o =>
      exact Service.Asks.bind (Listing.looksUp_page (Organisations.plain_administered id)
        (fun field hf => Organisations.isPlain_field field (by simp_all)) admissible)
        fun _ => Service.asks_pure _
  | listPersons f window =>
    exact lookUps (Listing.looksUp_page
      (fun k hk => ⟨Persons.plain_criteria f k hk, admissible.1 k hk⟩)
      (fun field hf => Persons.isPlain_field field (by simp_all; tauto)) admissible.2)
  | listRoles f window =>
    exact lookUps (Listing.looksUp_page
      (fun k hk => ⟨Roles.plain_criteria f k hk, admissible.1 k hk⟩)
      (fun field hf => Roles.isPlain_field field (by simp_all)) admissible.2)
  | deleteAssignment id => exact Assignments.keeps_delete_aligned orderly id
  | listAssignments personId => exact lookUps (Assignments.looksUp_byPerson personId)
  | replaceAssignments personId lastModified count sent =>
    exact Replacement.keeps_apply_aligned orderly _ _

/-! ## Runs -/

/-- What operations are answered with, one after the other. -/
def Engine.outcomes {σ : Type} (e : Engine σ) (g : Registry) :
    List Operation → σ → List ((o : Operation) × Except Failure o.Reply)
  | [], _ => []
  | o :: os, s =>
    ⟨o, (e.run (g.perform o) s).result⟩ :: e.outcomes g os (e.run (g.perform o) s).state

/-- Stores in step answer admissible operations alike. -/
theorem InStep.outcomes_eq {m : Memory} {db : Database} (h : InStep supply m db)
    (orderly : supply.Orderly) (g : Registry) {os : List Operation}
    (admissible : ∀ o ∈ os, o.IsAdmissible g.limits) :
    (Database.engine supply).outcomes g os db = (Memory.engine supply).outcomes g os m := by
  induction os generalizing m db with
  | nil => rfl
  | cons o os ih =>
    have kept := g.keeps_aligned orderly (admissible o List.mem_cons_self) ⟨m, db, True⟩
      ⟨trivial, h⟩
    obtain ⟨same, after⟩ := Twins.run_alike (I := fun w => InStep supply w.left w.right)
      (kept.imp fun _ _ h => ⟨h.alike, h.inStep⟩)
    rw [Engine.outcomes, Engine.outcomes, same,
      ih after fun o ho => admissible o (List.mem_cons_of_mem _ ho)]

/-- Whatever admissible operations are carried out, over a store in memory and over a database in
one block, with the same clock and the same ascending identifiers, each of them has the same
outcome over both. -/
theorem outcomes_alike (orderly : supply.Orderly) (g : Registry) (enlisted : List Collection)
    (source : SessionSource) (os : List Operation)
    (admissible : ∀ o ∈ os, o.IsAdmissible g.limits) :
    (Database.engine supply).outcomes g os
        ((Database.engine supply).enter (Database.empty source)) =
      (Memory.engine supply).outcomes g os
        ((Memory.engine supply).enter (Memory.empty enlisted)) :=
  (InStep.empty supply enlisted source).outcomes_eq orderly g admissible

/-- A school, a role and a person are created, the person a second time in vain; an assignment is
created, replaced by another one and removed, and persons are listed. -/
theorem outcomes_alike_replaced_assignment :
    let supply := Supply.tallying Supply.usualStart
    let g : Registry := ⟨some ⟨some 10, 100⟩, true⟩
    let school : Organisation := { Organisation.blank with
      kind := some .school, identifier := some "s-1", name := some "Gymnasium" }
    let role : Role := { Role.blank with
      name := some "Lehrkraft", administeredBy := some "org-1", kind := some .teacher }
    let person : Person := { Person.blank with
      referrer := some "r-1", firstName := some "Ada", familyName := some "Meier" }
    let os : List Operation := [.createOrganisation school, .createRole role, .createPerson person,
      .createPerson person, .createAssignment (.ofKey ⟨"person-1", "org-1", "rolle-1"⟩),
      .replaceAssignments "person-1" (.fixed Supply.usualStart) 1
        [.ofKey ⟨"person-1", "org-2", "rolle-1"⟩],
      .deleteAssignment "pk-11", .listAdministered "org-1" ⟨some 0, some 5⟩,
      .listPersons ⟨.text "r-1", .null, .null, .flag false⟩ ⟨none, none⟩]
    supply.Orderly ∧ (∀ o ∈ os, o.IsAdmissible g.limits) ∧
      (Database.engine supply).outcomes g os
          ((Database.engine supply).enter (Database.empty .opened)) =
        (Memory.engine supply).outcomes g os
          ((Memory.engine supply).enter (Memory.empty [.assignments])) := by
  intro supply g school role person os
  have orderly : supply.Orderly := Supply.orderly_tallying _
  have takes : Collection.persons.TakesAll
      [("referrer", .text "r-1"), ("vorname", .null), ("familienname", .null),
        ("is_information_blocked", .flag false)] := by
    simp only [Collection.TakesAll, List.forall_mem_cons]
    refine ⟨?_, .inl rfl, .inl rfl, ?_, fun _ h => absurd h List.not_mem_nil⟩
    · exact ((Persons.isPlain_field _ (by simp)).taken person rfl).2
    · exact ((Persons.isPlain_field _ (by simp)).taken person rfl).2
  have admissible : ∀ o ∈ os, o.IsAdmissible g.limits := by
    simp only [os, List.forall_mem_cons]
    refine ⟨⟨rfl, rfl, rfl⟩, ⟨rfl, rfl, rfl⟩, ⟨rfl, rfl, rfl⟩, ⟨rfl, rfl, rfl⟩, ⟨rfl, rfl, rfl⟩,
      trivial, trivial, ⟨?_, ?_⟩, ⟨takes, ?_, ?_⟩, fun _ h => absurd h List.not_mem_nil⟩ <;>
      rintro n ⟨⟩ <;> decide
  exact ⟨orderly, admissible, outcomes_alike orderly g [.assignments] .opened os admissible⟩

/-- Over memory an offset of more than sixty-four bits finds nothing; over a database the listing
fails. -/
theorem listOrganisations_apart_of_wide_offset :
    let supply := Supply.tallying Supply.usualStart
    let g : Registry := ⟨none, true⟩
    let o : Operation := .listOrganisations ⟨.null, .null, .null⟩ ⟨some 9223372036854775808, none⟩
    (Memory.engine supply).outcomes g [o] ((Memory.engine supply).enter (Memory.empty [])) =
        [⟨o, .ok ⟨[], 0, 9223372036854775808, 0⟩⟩] ∧
      (Database.engine supply).outcomes g [o]
          ((Database.engine supply).enter (Database.empty .opened)) =
        [⟨o, .error .tooLarge⟩] := by
  intro supply g o
  let q := (Listing.query [("kennung", .null), ("name", .null), ("typ", .null)]
    ["kennung"]).windowed (some 9223372036854775808) none
  have evaluated : q.evaluate Entity.toValue ([] : List Organisation) = .ok ⟨[], 0⟩ := by
    have matches_none : q.matching Entity.toValue ([] : List Organisation) = [] := rfl
    have key : q.sort = [⟨"kennung", .ascending⟩] := rfl
    simp [Query.evaluate, matches_none, key, Query.arranged, Query.sortedByKey, Value.sortable,
      Query.window, Except.map]
  have listed : (Memory.engine supply).Ends (g.perform o) (Memory.empty []) fun x _ =>
      x = .ok ⟨[], 0, 9223372036854775808, 0⟩ := by
    have asked : (Memory.engine supply).Ends (Service.ask (.query .organisations q))
      (Memory.empty []) fun x _ => x = .ok ⟨[], 0⟩ := evaluated
    refine asked.bind ?_ ?_
    · rintro _ _ ⟨⟩
      exact rfl
    · rintro _ _ ⟨⟩
  exact ⟨congrArg (fun r => [Sigma.mk o r]) listed, rfl⟩

end SchoolRegistry
