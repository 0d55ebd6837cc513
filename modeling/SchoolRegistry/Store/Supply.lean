import SchoolRegistry.Store.Collection
import SchoolRegistry.Text.Digit
import SchoolRegistry.Time.Moment

/-!
# Identifiers and times

Where a store takes new identifiers and the time from. A supply is a pair of
sequences, of which that of the identifiers is apart for each collection; how
far a store has advanced in them is part of its state. What the collections are
does not matter for that.
-/

namespace SchoolRegistry

/-- Where identifiers for any collections and times come from. -/
structure SupplyFor (ι : Type) where
  /-- The identifier that a collection issues as its `n`-th. -/
  id : ι → Nat → String
  /-- The time at the `n`-th reading of the clock. -/
  time : Nat → Stamp

/-- Where identifiers and times come from. -/
abbrev Supply := SupplyFor Collection

namespace Supply

/-- The instant of a stamp some seconds later, as universal time. -/
def later (start : Stamp) (seconds : Nat) : Stamp :=
  match Wall.ofMicros? (start.instant + 1000000 * seconds) with
  | some w => .utc w
  | none => start

/-- Numbered identifiers, counting from one, and a clock that advances by one
second at each reading. -/
def counting (start : Stamp) : Supply where
  id c n := c.idStart ++ toString (n + 1)
  time n := later start n

/-- The supply with its clock set when it was read so many times. -/
def resetClock (start : Stamp) (reading : Nat) (s : Supply) : Supply :=
  { s with time := fun n => later start (n - reading) }

/-- The start of 2024. -/
def usualStart : Stamp :=
  .utc ⟨⟨2024, 1, 1, by decide⟩, .midnight⟩

end Supply

/-- How far the sequences of a supply for any collections are used up. -/
structure DrawnFor (ι : Type) where
  ids : ι → Nat
  times : Nat

/-- How far the sequences of a supply are used up. -/
abbrev Drawn := DrawnFor Collection

namespace DrawnFor

variable {ι : Type}

/-- Nothing is drawn yet. -/
def nothing : DrawnFor ι := ⟨fun _ => 0, 0⟩

/-- One identifier of a collection is drawn. -/
def drawId [DecidableEq ι] (c : ι) (d : DrawnFor ι) : DrawnFor ι :=
  { d with ids := fun c' => if c' = c then d.ids c + 1 else d.ids c' }

/-- The clock is read. -/
def drawTime (d : DrawnFor ι) : DrawnFor ι := { d with times := d.times + 1 }

end DrawnFor

/-! ## Random identifiers -/

/-- The text of an identifier of 128 random bits, of which six are fixed to
mark its version and variant. -/
def randomId (bits : Nat) : String :=
  let digits := Text.paddedHex 32 bits
  let variant := Text.hexDigit (8 + bits / Nat.pow 16 15 % 4)
  String.ofList (digits.take 8 ++ ['-'] ++ (digits.drop 8).take 4 ++ ['-']
    ++ '4' :: (digits.drop 13).take 3 ++ ['-'] ++ variant :: (digits.drop 17).take 3 ++ ['-']
    ++ digits.drop 20)

/-- Random identifiers from the given bits, and a clock that advances by one
second at each reading. -/
def Supply.random (bits : Nat → Nat) (start : Stamp) : Supply where
  id _ n := randomId (bits n)
  time n := later start n

end SchoolRegistry
