import SchoolRegistry.Proofs.Registry.Replacement
import SchoolRegistry.Proofs.Registry.Requests

/-!
# Deeds

A deed is an operation carried out on the store in memory while some calls are disturbed. Deeds
are done one after the other (`Memory.afterDeeds`), each with its own disturbances, so that a list
of them is any history of the registry with any failures in it.

`Memory.Lasting` names the conditions that calls and savepoints keep. Every operation keeps such a
condition whatever is disturbed (`Memory.Lasting.perform`), and so does every list of deeds
(`Memory.Lasting.afterDeeds`): a condition on all histories is proved of one call at a time.
-/

namespace SchoolRegistry

/-- An operation that is carried out while some calls are disturbed. -/
structure Deed where
  registry : Registry
  operation : Operation
  disturbances : List Disturbance

namespace Memory

variable {α : Type} {supply : Supply} {I : Memory → Prop}

/-- The store after a deed. -/
def afterDeed (supply : Supply) (m : Memory) (d : Deed) : Memory :=
  ((monitored supply).run (d.registry.perform d.operation) (.under d.disturbances m)).state.store

/-- The store after deeds, one after the other. -/
def afterDeeds (supply : Supply) (m : Memory) (ds : List Deed) : Memory :=
  ds.foldl (afterDeed supply) m

/-- What every deed of a list keeps, the list keeps. -/
theorem afterDeeds_keeps {ds : List Deed}
    (step : ∀ m, ∀ d ∈ ds, I m → I (afterDeed supply m d)) {m : Memory} (hm : I m) :
    I (afterDeeds supply m ds) := by
  induction ds generalizing m with
  | nil => exact hm
  | cons d ds ih =>
    refine ih (fun m d hd => step m d (List.mem_cons_of_mem _ hd)) ?_
    exact step m d List.mem_cons_self hm

/-! ## Conditions that last -/

/-- A condition that calls keep and savepoints keep. The clock helps when a savepoint is undone:
it does not go back. -/
structure Lasting (supply : Supply) (I : Memory → Prop) : Prop where
  call : ∀ r m, r.IsCall → I m → I (answer supply r m).2
  mark : ∀ m : Memory, I m → I m.mark
  keptFrom : ∀ m m' : Memory, I m' → I (m.keptFrom m')
  undoneTo : ∀ m m' : Memory, I m → I m' → m.drawn.times ≤ m'.drawn.times → I (m.undoneTo m')

namespace Lasting

variable (lasting : Lasting supply I)
include lasting

/-- What every call keeps is kept by a service that makes calls only. -/
theorem keeps_asks {s : Service α} (hs : s.Asks Request.IsCall) :
    (monitored supply).Keeps (fun m => I m.store) s := keeps_of_asks lasting.call hs

/-- It is kept also where a failure is undone. -/
theorem keeps_inSavepoint {s : Service α} (hs : s.Asks Request.IsCall) :
    (monitored supply).Keeps (fun m => I m.store) s.inSavepoint := by
  intro m hm
  have body : (monitored supply).Ends s { m with store := m.store.mark } fun _ m' =>
      I m'.store ∧ m.store.drawn.times ≤ m'.store.drawn.times :=
    keeps_of_asks (I := fun m' => I m' ∧ m.store.drawn.times ≤ m'.drawn.times)
      (fun r m' hr hm' =>
        ⟨lasting.call r m' hr hm'.1, Nat.le_trans hm'.2 (times_le_answer r)⟩) hs _
      ⟨lasting.mark m.store hm, Nat.le_refl _⟩
  refine Ends.inSavepoint hs body ?_ ?_
  · exact fun _ m' hm' => lasting.keptFrom m.store m'.store hm'.1
  · exact fun _ m' hm' => lasting.undoneTo m.store m'.store hm hm'.1 hm'.2

/-- It is kept by the writes of a replacement. -/
theorem keeps_carryOut (inUnitOfWork : Bool) (r : Replacement) :
    (monitored supply).Keeps (fun m => I m.store) (r.carryOut inUnitOfWork) := by
  have load (personId : String) :
      (monitored supply).Keeps (fun m => I m.store) (AssignmentRules.ofPerson personId) :=
    lasting.keeps_asks (AssignmentRules.asks_ofPerson personId).reads
  have writing (r : Replacement) :
      (monitored supply).Keeps (fun m => I m.store)
        (if inUnitOfWork then r.write.inSavepoint else r.write) := by
    split
    · exact lasting.keeps_inSavepoint (Replacement.asks_write r)
    · exact lasting.keeps_asks (Replacement.asks_write r)
  rw [Replacement.carryOut_eq]
  refine (load r.personId).bind fun existing m hm => Replacement.ends_checkRules.mpr ?_
  split
  · exact hm
  · exact ((writing _).bind fun _ => (load _).bind fun now => Engine.keeps_pure _) m hm

/-- It is kept by a replacement. -/
theorem keeps_apply (inUnitOfWork : Bool) (r : Replacement) :
    (monitored supply).Keeps (fun m => I m.store) (r.apply inUnitOfWork) := by
  refine (lasting.keeps_carryOut inUnitOfWork r).attempt.bind fun x => ?_
  cases x with
  | ok outcome => exact Engine.keeps_pure _
  | error f => cases f with
    | refused refusal => exact Engine.keeps_pure _
    | storage e => exact (Engine.keeps_note _).bind fun _ => Engine.keeps_pure _
    | _ => exact Engine.keeps_throw _

/-- Every operation keeps a lasting condition, whatever is disturbed. -/
theorem perform (g : Registry) (o : Operation) :
    (monitored supply).Keeps (fun m => I m.store) (g.perform o) := by
  cases o with
  | createOrganisation o => exact lasting.keeps_asks (Organisations.asks_create o).calls
  | createPerson p => exact lasting.keeps_asks (Persons.asks_create p).calls
  | createRole r => exact lasting.keeps_asks (Roles.asks_create r).calls
  | createAssignment a => exact lasting.keeps_asks (Assignments.asks_create a)
  | deleteAssignment id => exact lasting.keeps_asks (Assignments.asks_delete id)
  | replaceAssignments personId lastModified count sent => exact lasting.keeps_apply _ _
  | findOrganisation id => exact lasting.keeps_asks (Listing.asks_byId id).reads
  | findPerson id => exact lasting.keeps_asks (Listing.asks_byId id).reads
  | listOrganisations f w => exact lasting.keeps_asks (Listing.asks_page _ _ _ w).reads
  | listAdministered id w =>
    exact lasting.keeps_asks (Organisations.asks_administeredBy _ id w).reads
  | listPersons f w => exact lasting.keeps_asks (Listing.asks_page _ _ _ w).reads
  | listRoles f w => exact lasting.keeps_asks (Listing.asks_page _ _ _ w).reads
  | listAssignments personId => exact lasting.keeps_asks (Assignments.asks_byPerson personId).reads

/-- Every history keeps a lasting condition. -/
theorem afterDeeds {m : Memory} (hm : I m) (ds : List Deed) : I (afterDeeds supply m ds) :=
  afterDeeds_keeps (fun _ d _ hm => lasting.perform d.registry d.operation _ hm) hm

end Lasting

end Memory

end SchoolRegistry
