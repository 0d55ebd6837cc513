import SchoolRegistry.Proofs.Registry.ServerErrors

/-!
# Stored persons

A person with a referrer is created only if no stored person carries it, and nothing changes a
person afterwards except another creation, which may put a person in the place of the one with its
identifier. `referrers_unique` says what follows for any creations one after the other, whichever
calls fail meanwhile: no two stored persons share a referrer, all of them meet the field rules, and
a person that meets them is refused as already there exactly if a stored one carries its referrer.

An empty referrer is a referrer like any other; only a missing one is shared by anybody.
-/

namespace SchoolRegistry

variable {supply : Supply}

namespace Person

variable {p q : Person}

/-! ## Field rules -/

/-- The person meets every field rule for persons. -/
def MeetsFieldRules (p : Person) : Prop :=
  ∀ f ∈ personFieldRules, f.check ((Entity.toValue p).resolve f.path) = .ok true

/-- No field rule looks at the header. -/
theorem MeetsFieldRules.setHeader (h : p.MeetsFieldRules) (header : Header) :
    (Entity.setHeader header p).MeetsFieldRules := by
  have looksAt : ∀ f ∈ personFieldRules,
      f.path ∈ ["vorname", "familienname", "referrer", "geburtsdatum"] := by
    simp [personFieldRules, FieldRule.of, FieldRule.atMost]
  have kept : ∀ path ∈ ["vorname", "familienname", "referrer", "geburtsdatum"],
      (Entity.toValue (Entity.setHeader header p)).resolve path =
        (Entity.toValue p).resolve path := by
    simp only [List.forall_mem_cons]
    exact ⟨(resolve_firstName _).trans (resolve_firstName p).symm,
      (resolve_familyName _).trans (resolve_familyName p).symm,
      (resolve_referrer _).trans (resolve_referrer p).symm,
      (resolve_birthDate _).trans (resolve_birthDate p).symm, List.forall_mem_nil _⟩
  intro f hf
  rw [kept f.path (looksAt f hf)]
  exact h f hf

/-! ## Referrers -/

/-- The persons carry the same referrer. -/
def SharesReferrer (p q : Person) : Prop := p.referrer ≠ none ∧ q.referrer = p.referrer

/-- To share a referrer is mutual. -/
theorem SharesReferrer.symm (h : p.SharesReferrer q) : q.SharesReferrer p :=
  ⟨h.2.symm ▸ h.1, h.2.symm⟩

end Person

namespace Persons

open Person (SharesReferrer)

/-- Whether a referrer is taken is answered truly, or the look-up fails by a fault. -/
theorem ends_referrerTaken_iff {m : Monitored Memory} (faults : m.Faulty) (p : Person) :
    (Memory.monitored supply).Ends (referrerTaken p.referrer) m fun x m' =>
      (∃ made, m.Made made m') ∧ m'.store = m.store ∧
        ((∃ taken, x = .ok taken ∧
          (taken = true ↔ ∃ q ∈ m.store.shelves .persons, p.SharesReferrer q)) ∨
        ∃ f, x = .error f ∧ m.disturbances ≠ []) := by
  unfold SharesReferrer
  cases p.referrer with
  | none => exact Engine.ends_pure.mpr ⟨⟨_, .refl m⟩, rfl, .inl ⟨false, rfl, by simp⟩⟩
  | some referrer =>
    obtain ⟨found, evaluated, total⟩ := evaluate_referrerQuery referrer (m.store.shelves .persons)
    refine (Memory.ends_query (c := .persons) faults (referrerQuery referrer)).bind ?_ ?_
    · rintro x m' ⟨made, store, answered | ⟨_, ⟨⟩, -⟩⟩
      cases answered.trans evaluated
      refine Engine.ends_pure.mpr ⟨⟨_, made⟩, store, .inl ⟨_, rfl, ?_⟩⟩
      rw [decide_eq_true_iff, total]
      simp
    · rintro f m' ⟨made, store, answered | ⟨_, -, disturbed⟩⟩
      · cases answered.trans evaluated
      · exact ⟨⟨_, made⟩, store, .inr ⟨f, rfl, disturbed⟩⟩

/-- How the creation of a person ends, why, and what it leaves. -/
inductive Course (supply : Supply) (p : Person) (m : Monitored Memory) :
    Except Failure (Outcome Person) → Memory → Prop
  /-- A field rule is not met. -/
  | invalid {r : Refusal} (unmet : ¬p.MeetsFieldRules) : Course supply p m (.ok (.error r)) m.store
  /-- A stored person carries the referrer. -/
  | taken {r : Refusal} (taken : ∃ q ∈ m.store.shelves .persons, p.SharesReferrer q)
    (kind : r.kind = .alreadyExists) : Course supply p m (.ok (.error r)) m.store
  /-- A call fails. -/
  | cutOff {x : Except Failure (Outcome Person)} (disturbed : m.disturbances ≠ []) :
    Course supply p m x m.store
  | stored (met : p.MeetsFieldRules)
    (free : ¬∃ q ∈ m.store.shelves .persons, p.SharesReferrer q) :
    Course supply p m (.ok (.ok (Memory.storedAs supply .persons p m.store)))
      (m.store.save supply .persons p).2

/-- What was read before does not matter. -/
theorem Course.earlier {p : Person} {m m₁ : Monitored Memory} {made : List Call}
    {x : Except Failure (Outcome Person)} {after : Memory} (course : Course supply p m₁ x after)
    (calls : m.Made made m₁) (same : m₁.store = m.store) : Course supply p m x after := by
  cases course with
  | invalid unmet => exact same ▸ .invalid unmet
  | taken taken kind => exact same ▸ .taken (same ▸ taken) kind
  | cutOff disturbed => exact same ▸ .cutOff fun quiet => disturbed (calls.undisturbed quiet)
  | stored met free => exact same ▸ .stored met (same ▸ free)

/-- Storing a person whose referrer is free runs its course, whatever faults meet it. -/
theorem ends_store {m : Monitored Memory} (faults : m.Faulty) {p : Person}
    (met : p.MeetsFieldRules) (free : ¬∃ q ∈ m.store.shelves .persons, p.SharesReferrer q) :
    (Memory.monitored supply).Ends (store p) m fun x m' => Course supply p m x m'.store := by
  refine (Memory.ends_save (c := .persons) faults p).bind ?_ ?_
  · rintro saved m' ⟨-, ⟨⟨⟩, stored⟩ | ⟨_, ⟨⟩, -⟩⟩
    refine Engine.ends_bind.mpr (Engine.ends_note.mpr (Engine.ends_pure.mpr ?_))
    exact stored ▸ Course.stored met free
  · rintro f m' ⟨-, ⟨⟨⟩, -⟩ | ⟨_, -, kept, disturbed⟩⟩
    exact kept ▸ Course.cutOff disturbed

/-- Every creation of a person takes one of the courses. -/
theorem ends_create {m : Monitored Memory} (faults : m.Faulty) (p : Person) :
    (Memory.monitored supply).Ends (create p) m fun x m' => Course supply p m x m'.store := by
  unfold create
  by_cases met : p.MeetsFieldRules
  · rw [Creation.checkFields_of_met met]
    apply Creation.Ends.orNotCreated
    · refine (ends_referrerTaken_iff faults p).bind ?_ ?_
      · rintro b m₁ ⟨⟨_, made⟩, same, ⟨_, ⟨⟩, iff⟩ | ⟨_, ⟨⟩, -⟩⟩
        cases b with
        | true =>
          refine Engine.ends_bind.mpr (Engine.ends_note.mpr (Engine.ends_pure.mpr ?_))
          exact same ▸ Course.taken (iff.mp rfl) rfl
        | false =>
          have free : ¬∃ q ∈ m₁.store.shelves .persons, p.SharesReferrer q := by
            intro taken
            rw [same] at taken
            exact Bool.false_ne_true (iff.mpr taken)
          exact (ends_store (made.faulty faults) met free).imp fun x m' course =>
            course.earlier made same
      · rintro f m' ⟨-, same, ⟨_, ⟨⟩, -⟩ | ⟨_, -, disturbed⟩⟩
        exact same ▸ Course.cutOff disturbed
    · -- Only a call that failed ends in a failure; the refusal in its place changes nothing.
      intro err m' failed
      generalize m'.store = after at failed ⊢
      cases failed with
      | cutOff disturbed => exact Course.cutOff disturbed
  · rcases Creation.checkFields_cases (Person.answered_fieldRules p) _ with
      ⟨-, met'⟩ | ⟨path, constraint, refused⟩
    · exact absurd met' met
    · rw [refused]
      exact Engine.ends_pure.mpr (Course.invalid met)

end Persons

/-! ## All creations -/

/-- What the creations of persons keep of the stored ones. -/
structure Person.Registered (stored : List Person) : Prop where
  apart : stored.Pairwise fun p q => ¬p.SharesReferrer q
  met : ∀ p ∈ stored, p.MeetsFieldRules

/-- Persons stay registered when one is stored whose referrer is free. -/
theorem Person.Registered.store {stored : List Person} (h : Registered stored) {p : Person}
    (met : p.MeetsFieldRules) (free : ¬∃ q ∈ stored, p.SharesReferrer q) (id : String) :
    Registered (Memory.store id p stored) := by
  have apart (q : Person) (hq : q ∈ stored) : ¬p.SharesReferrer q ∧ ¬q.SharesReferrer p :=
    ⟨fun shares => free ⟨q, hq, shares⟩, fun shares => free ⟨q, hq, shares.symm⟩⟩
  refine ⟨Memory.pairwise_store h.apart apart, fun q hq => ?_⟩
  rcases Memory.mem_store hq with rfl | hq
  · exact met
  · exact h.met q hq

/-- Persons stay registered in the course of a creation. -/
theorem Persons.Course.registered {p : Person} {m : Monitored Memory}
    {x : Except Failure (Outcome Person)} {m' : Memory} (course : Course supply p m x m')
    (h : Person.Registered (m.store.shelves .persons)) :
    Person.Registered (m'.shelves .persons) := by
  cases course with
  | invalid | taken | cutOff => exact h
  | stored met free =>
    rw [Memory.shelves_save]
    -- The person is stored with a new header, at which neither condition looks.
    have stamped : Person.MeetsFieldRules (Memory.storedAs supply .persons p m.store) :=
      met.setHeader _
    exact h.store stamped free _

/-- Without a failure a person is refused as already there exactly if the referrer is taken. -/
theorem Persons.Course.alreadyExists_iff {p : Person} {m : Monitored Memory}
    {x : Except Failure (Outcome Person)} {m' : Memory} (course : Course supply p m x m')
    (met : p.MeetsFieldRules) (quiet : m.disturbances = []) :
    (∃ r, x = .ok (.error r) ∧ r.kind = .alreadyExists) ↔
      ∃ q ∈ m.store.shelves .persons, p.SharesReferrer q := by
  cases course with
  | invalid unmet => exact absurd met unmet
  | taken taken kind => exact iff_of_true ⟨_, rfl, kind⟩ taken
  | cutOff disturbed => exact absurd quiet disturbed
  | stored met free =>
    refine iff_of_false ?_ free
    rintro ⟨r, ⟨⟩, -⟩

/-- A creation of a person in which calls may fail. -/
def Deed.CreatesPerson (d : Deed) : Prop :=
  (∃ p, d.operation = .createPerson p) ∧ ∀ x ∈ d.disturbances, x.IsFault

/-- Referrers stay unique: whatever persons are created one after the other in an empty store, with
identifiers of their own or without, and whichever calls fail meanwhile, no two stored persons
share a referrer, and all of them meet the field rules. If no request fails, a person that meets
the field rules is refused as already there exactly if a stored person carries its referrer. -/
theorem referrers_unique (supply : Supply) (enlisted : List Collection) (ds : List Deed)
    (creations : ∀ d ∈ ds, d.CreatesPerson) :
    let m := Memory.afterDeeds supply (Memory.empty enlisted) ds
    ((m.shelves .persons).Pairwise fun p q => ¬p.SharesReferrer q) ∧
      (∀ p ∈ m.shelves .persons, p.MeetsFieldRules) ∧
      ∀ p : Person, p.MeetsFieldRules → ∀ outages : List Disturbance,
        (∀ d ∈ outages, d.IsOutage) →
        (Memory.monitored supply).raises (Persons.create p) (.under outages m) = false →
        (Memory.monitored supply).Ends (Persons.create p) (.under outages m) fun x _ =>
          (∃ r, x = .ok (.error r) ∧ r.kind = .alreadyExists) ↔
            ∃ q ∈ m.shelves .persons, p.SharesReferrer q := by
  intro m
  have start : Person.Registered ((Memory.empty enlisted).shelves .persons) :=
    ⟨List.Pairwise.nil, fun _ h => absurd h List.not_mem_nil⟩
  have registered : Person.Registered (m.shelves .persons) := by
    refine Memory.afterDeeds_keeps (I := fun m => Person.Registered (m.shelves .persons)) ?_ start
    intro m d hd h
    obtain ⟨⟨p, operation⟩, faults⟩ := creations d hd
    rw [Memory.afterDeed, operation]
    exact (Persons.ends_create (m := .under d.disturbances m) faults p).registered h
  refine ⟨registered.apart, registered.met, ?_⟩
  intro p met outages only fine
  -- A run in which no request fails ends as one that nothing disturbs.
  have only : (Monitored.under outages m).OutagesOnly := only
  refine only.ends fine ((Monitored.ends_undisturbed (m := .under [] m) rfl).mp ?_)
  refine (Persons.ends_create (fun _ h => absurd h List.not_mem_nil) p).imp fun x m' course => ?_
  exact course.alreadyExists_iff met rfl

/-- A person with an identifier and a referrer, or without. -/
def Person.erika (id referrer : Option String) : Person :=
  { Person.blank with
    id := id, referrer := referrer, firstName := some "Erika", familyName := some "Meier" }

/-- One call on persons fails. -/
def personsFail (access : Access) : Disturbance :=
  ⟨.persons, access, .failure (.storage (.reported .store "db down")), 0, 1⟩

/-- A failing store of persons is an outage. -/
theorem isOutage_personsFail (access : Access) : ∀ d ∈ [personsFail access], d.IsOutage := by
  intro d hd
  cases List.mem_singleton.mp hd
  exact ⟨_, rfl⟩

/-- A person whose first creation is cut off, and who is replaced in the end by one without a
referrer; another one with the same referrer, and two with the empty one. -/
def creationsWithReferrers : List Deed :=
  let created (id referrer : Option String) (disturbances : List Disturbance) : Deed :=
    ⟨⟨none, false⟩, .createPerson (.erika id referrer), disturbances⟩
  [created none (some "R-1") [personsFail .query], created none (some "R-1") [],
    created (some "p-9") (some "R-1") [], created none (some "") [],
    created (some "p-9") (some "") [], created (some "person-1") none []]

theorem referrers_unique_creationsWithReferrers :
    let supply := Supply.counting Supply.usualStart
    let m := (Memory.empty []).afterDeeds supply creationsWithReferrers
    (m.shelves .persons).map (fun p : Person => (p.id, p.referrer)) =
        [(some "person-1", none), (some "person-2", some "")] ∧
      ((m.shelves .persons).Pairwise fun p q => ¬p.SharesReferrer q) ∧
      (Memory.monitored supply).Ends (Persons.create (.erika none (some "")))
        (.under [personsFail .save] m) fun x _ =>
          ∃ r, x = .ok (.error r) ∧ r.kind = .alreadyExists := by
  intro supply m
  have creations : ∀ d ∈ creationsWithReferrers, d.CreatesPerson := by
    simp [creationsWithReferrers, Deed.CreatesPerson, personsFail, Disturbance.IsFault]
  have stored : (m.shelves .persons).map (fun p : Person => (p.id, p.referrer)) =
      [(some "person-1", none), (some "person-2", some "")] := by decide +kernel
  obtain ⟨apart, -, refused⟩ := referrers_unique supply [] creationsWithReferrers creations
  refine ⟨stored, apart, ?_⟩
  have met : (Person.erika none (some "")).MeetsFieldRules := by
    simp only [Person.MeetsFieldRules, personFieldRules, List.forall_mem_cons]
    exact ⟨rfl, rfl, rfl, rfl, rfl, rfl, rfl, rfl, rfl, rfl, List.forall_mem_nil _⟩
  have refused := refused _ met [personsFail .save] (isOutage_personsFail .save) (by decide +kernel)
  refine refused.imp fun x _ iff => iff.mpr ?_
  have carried : (some "person-2", some "") ∈
      (m.shelves .persons).map (fun p : Person => (p.id, p.referrer)) := by simp [stored]
  obtain ⟨q, hq, same⟩ := List.mem_map.mp carried
  exact ⟨q, hq, Option.some_ne_none _, (Prod.mk.inj same).2⟩

end SchoolRegistry
