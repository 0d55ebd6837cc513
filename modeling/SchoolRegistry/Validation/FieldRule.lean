import SchoolRegistry.Text.CharClass
import SchoolRegistry.Text.Pattern.Reader
import SchoolRegistry.Time.Iso
import SchoolRegistry.Validation.Report
import SchoolRegistry.Value.Path

/-!
# Field rules

A field rule demands something of the value at a path. A missing value breaks
only the rule that demands one; every other rule speaks of values that are
there. `Report.of` checks rules in their order and reports the failures.
-/

namespace SchoolRegistry

/-- A rule for the value at a path. -/
structure FieldRule where
  path : String
  /-- The constraint, or the name of one that does not exist. -/
  constraint : Except String Constraint
  argument : Value

namespace FieldRule

/-- A rule without an argument. -/
def of (path : String) (c : Constraint) : FieldRule := ⟨path, .ok c, .null⟩

/-- A rule for the greatest length of a value. -/
def atMost (path : String) (length : Nat) : FieldRule := ⟨path, .ok .maxLength, .whole length⟩

/-- The name of the constraint. -/
def constraintName (r : FieldRule) : String :=
  match r.constraint with
  | .ok c => c.text
  | .error name => name

/-! ## Arguments -/

/-- The number of characters or members of a value. -/
def lengthOf (v : Value) : Except Failure Nat :=
  match v.length? with
  | some n => .ok n
  | none => .error .wrongType

/-- A value as a whole number: a fraction is cut off, and a text is read. -/
def wholeOf (v : Value) : Except Failure Int :=
  match v with
  | .whole n => .ok n
  | .flag yes => .ok (if yes then 1 else 0)
  | .real x =>
    match x.truncate? with
    | some n => .ok n
    | none => .error .tooLarge
  | v =>
    match v.text? with
    | some s =>
      match Text.integer? (Text.trimChars s.toList) with
      | some n => .ok n
      | none => .error (.argument (.notWhole s))
    | none => .error .wrongType

/-- A value as a pattern. -/
def patternOf (v : Value) : Except Failure Text.Pattern :=
  match v.text? with
  | some s =>
    match Text.Pattern.ofString? s with
    | some p => .ok p
    | none => .error .badPattern
  | none => .error .wrongType

/-! ## Checks -/

/-- Whether a value is a day or a moment, or the text of one. -/
def isDate : Value → Bool
  | .day _ => true
  | .moment _ => true
  | v => v.text?.any fun s => (Iso.date? s).isSome || (Iso.moment? s).isSome

/-- Whether a value that is there meets the rule. -/
def checkPresent (r : FieldRule) (v : Value) : Except Failure Bool :=
  match r.constraint with
  | .ok .required => .ok true
  | .ok .notEmpty => (lengthOf v).map fun n => decide (0 < n)
  | .ok .maxLength => do
    let n ← lengthOf v
    let most ← wholeOf r.argument
    .ok (decide ((n : Int) ≤ most))
  | .ok .pattern => do
    let p ← patternOf r.argument
    .ok (p.matchesAll v.plain)
  | .ok .isDate => .ok (isDate v)
  | .ok .noSurroundingBlanks => .ok (Text.isTrimmed v.plain)
  | .error name => .error (.argument (.unknownConstraint name))

/-- Whether a value meets the rule. -/
def check (r : FieldRule) (v : Value) : Except Failure Bool :=
  if v.isNull then
    match r.constraint with
    | .ok .required => .ok false
    | _ => .ok true
  else r.checkPresent v

end FieldRule

/-- The failures of the rules in a candidate. -/
def Report.of (candidate : Value) : List FieldRule → Report → Except Failure Report
  | [], report => .ok report
  | r :: rules, report =>
    match r.check (candidate.resolve r.path) with
    | .error e => .error e
    | .ok true => Report.of candidate rules report
    | .ok false => Report.of candidate rules (report.add r.path r.constraintName)

/-- The report on a candidate. -/
def validateFields (candidate : Value) (rules : List FieldRule) : Except Failure Report :=
  Report.of candidate rules .success

/-! ## The rules of the registry -/

/-- The rules for organisations. -/
def organisationFieldRules : List FieldRule := [
  .atMost "kennung" 64,
  .of "kennung" .noSurroundingBlanks,
  .atMost "name" 255,
  .of "name" .noSurroundingBlanks,
  .atMost "namensergaenzung" 255,
  .atMost "kuerzel" 64]

/-- The rules for persons. -/
def personFieldRules : List FieldRule := [
  .of "vorname" .required,
  .of "vorname" .notEmpty,
  .atMost "vorname" 64,
  .of "vorname" .noSurroundingBlanks,
  .of "familienname" .required,
  .of "familienname" .notEmpty,
  .atMost "familienname" 64,
  .of "familienname" .noSurroundingBlanks,
  .atMost "referrer" 255,
  .of "geburtsdatum" .isDate]

end SchoolRegistry
