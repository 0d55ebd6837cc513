import SchoolRegistry.Failure.Refusal
import SchoolRegistry.Failure.Storage
import SchoolRegistry.Failure.UnknownField
import SchoolRegistry.Record.Fault

/-!
# Failures

Whatever ends a computation of the library before its result. Refusals that an
operation returns are results; here a refusal is a failure only where a caller
insists on the value it does not have.
-/

namespace SchoolRegistry

/-- What is wrong with an argument. -/
inductive ArgumentFault where
  /-- A value is no term of the vocabulary of this name. -/
  | unknownTerm (value : Value) (family : String)
  /-- A text is no whole number. -/
  | notWhole (text : String)
  /-- A number that is not finite was to be a whole number. -/
  | notFinite
  /-- A field rule has a constraint that does not exist. -/
  | unknownConstraint (name : String)
  /-- A report without failures was asked for the first one. -/
  | emptyReport
  /-- A combination of rules has no operand; its name is given. -/
  | noOperand (combination : String)
  /-- A likeness lies outside the range from 0 to 1. -/
  | likenessRange (value : Value)
  /-- A logger has a level that does not exist. -/
  | unknownLevel (logger : String)

/-- The message of an argument fault. -/
def ArgumentFault.message : ArgumentFault → String
  | unknownTerm v family => v.printed ++ " is not a valid " ++ family
  | notWhole s => "invalid literal for int() with base 10: " ++ Text.quoted s
  | notFinite => "cannot convert float infinity to integer"
  | unknownConstraint name => "Unsupported constraint: " ++ Text.quoted name
  | emptyReport => "ValidationResult holds no errors"
  | noOperand combination => combination ++ " needs at least one operand"
  | likenessRange v => "cutoff must be in [0.0, 1.0]: " ++ v.printed
  | unknownLevel logger => "Unable to configure logger " ++ Text.quoted logger

/-- What ended a computation. -/
inductive Failure where
  /-- A client's data are faulty. -/
  | invalid (faults : List Fault)
  /-- The operation was refused. -/
  | refused (cause : Refusal)
  /-- A query names a field that does not exist. -/
  | unknownField (cause : UnknownField)
  /-- The bound of a page is negative. -/
  | invalidPaging (bound : String) (value : Value)
  /-- The store failed. -/
  | storage (cause : StorageFailure)
  /-- An argument is of the right type but has a wrong value. -/
  | argument (cause : ArgumentFault)
  /-- A setting has a text that cannot be read. -/
  | unreadableSetting (name : String)
  /-- Something unforeseen happened during the computation. -/
  | unforeseen (message : String)
  /-- A block was left on purpose. -/
  | aborted (message : String)
  /-- A value is of a type that the operation does not work on. -/
  | wrongType
  /-- A value has no attribute of the name asked for. -/
  | noAttribute
  /-- A text is no pattern. -/
  | badPattern
  /-- A number is too large for the store. -/
  | tooLarge

namespace Failure

/-- The message about a negative bound of a page. -/
def pagingMessage (bound : String) (value : Value) : String :=
  bound ++ " must be a non-negative integer, got " ++ value.printed

/-- A negative bound of a page as named values. -/
def pagingPayload (bound : String) (value : Value) : Fields :=
  [("error", .text "INVALID_PAGING"), ("parameter", .text bound), ("value", value)]

/-- The message of the failure, if it has one. -/
def message? : Failure → Option String
  | invalid _ => none
  | refused r => some r.message
  | unknownField u => some u.message
  | invalidPaging bound value => some (pagingMessage bound value)
  | storage f => some f.message
  | argument a => some a.message
  | unreadableSetting name =>
    some ("error parsing value for field \"" ++ name ++ "\" from source \"EnvSettingsSource\"")
  | unforeseen m => some m
  | aborted m => some m
  | wrongType => none
  | noAttribute => none
  | badPattern => none
  | tooLarge => none

end Failure

/-! ## Suggestions from a given likeness -/

namespace UnknownField

/-- Whether a number lies in the range of likenesses. -/
def isLikeness (s : Scalar) : Bool :=
  (Scalar.compare? (.whole 0) s).any (· != .gt) && (s.compare? (.whole 1)).any (· != .gt)

/-- The failure with suggestions of at least the given likeness. -/
def withLikeness (least : Value) (field model : String) (available : List String) :
    Except Failure UnknownField :=
  match least.scalar? with
  | some s =>
    if isLikeness s then
      .ok (suggesting (fun d => ((Scalar.real d).compare? s).any (· != .lt)) field model available)
    else .error (.argument (.likenessRange least))
  | none => .error .wrongType

end UnknownField

end SchoolRegistry
