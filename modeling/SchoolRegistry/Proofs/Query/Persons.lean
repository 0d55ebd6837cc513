import SchoolRegistry.Proofs.Query.Assignments
import SchoolRegistry.Registry.Persons

/-!
# What queries for persons find

Before a person is created, its referrer is looked up by a query that shows one person at most.
The service reads the number of all matches, which does not depend on that: evaluated in memory it
is positive exactly if a person carries the referrer (`Persons.evaluate_referrerQuery`).
-/

namespace SchoolRegistry

namespace Person

/-- The path `referrer` shows the referrer of a person, or nothing. -/
theorem resolve_referrer (p : Person) :
    (Entity.toValue p).resolve "referrer" = .ofText? p.referrer :=
  (Value.resolve_single (by decide) _).trans (Codec.write_text? p.referrer)

theorem resolve_firstName (p : Person) :
    (Entity.toValue p).resolve "vorname" = .ofText? p.firstName :=
  (Value.resolve_single (by decide) _).trans (Codec.write_text? p.firstName)

theorem resolve_familyName (p : Person) :
    (Entity.toValue p).resolve "familienname" = .ofText? p.familyName :=
  (Value.resolve_single (by decide) _).trans (Codec.write_text? p.familyName)

/-- The path `geburtsdatum` shows the day of birth, or nothing. -/
theorem resolve_birthDate (p : Person) :
    (Entity.toValue p).resolve "geburtsdatum" = Codec.day?.write p.birthDate :=
  Value.resolve_single (by decide) _

end Person

namespace Persons

/-- The query for a referrer matches the persons with this referrer. -/
theorem holds_referrerQuery (referrer : String) (q : Person) :
    (referrerQuery referrer).holds (Entity.toValue q) = (q.referrer == some referrer) := by
  change ((((Entity.toValue q).resolve "referrer").same (.text referrer) && true) && true) = _
  rw [Person.resolve_referrer, Value.same_ofText?, Bool.and_true, Bool.and_true]

/-- The query for a referrer counts the persons that carry it, although it shows one at most. -/
theorem evaluate_referrerQuery (referrer : String) (stored : List Person) :
    ∃ found : Counted Person,
      (referrerQuery referrer).evaluate Entity.toValue stored = .ok found ∧
        (0 < found.total ↔ ∃ q ∈ stored, q.referrer = some referrer) := by
  refine ⟨_, Query.evaluate_unsorted rfl, ?_⟩
  simp only [holds_referrerQuery]
  rw [Int.natCast_pos, List.length_pos_iff_exists_mem]
  simp

end Persons

end SchoolRegistry
