import SchoolRegistry.Settings
import SchoolRegistry.Value.Document.Reader

/-!
# Settings from the environment

Every setting can be given by a variable of the environment; case does not
matter in its name. The variable with the levels of single loggers holds a
document, the others hold plain texts. What the program itself gives wins over
the environment, and tables given by both are merged.
-/

namespace SchoolRegistry

/-- Variables of an environment. -/
abbrev Environment := List (String × String)

namespace Settings

/-- What the names of the variables start with. -/
def variableStart : String := "dbiam_"

/-- The text of the variable for a setting; the last one of that name counts. -/
def variableText (env : Environment) (setting : String) : Option String :=
  ((env.map fun v => (Text.lowerPlain v.1, v.2)).reverse).lookup (variableStart ++ setting)

/-- The value that the environment gives for a setting, if it gives one. -/
def given (env : Environment) (setting : String) : Except Failure (Option Value) :=
  match variableText env setting with
  | none => .ok none
  | some s =>
    if setting = moduleLevelsName then
      match Value.Document.read? s with
      | some v => .ok (if v.isNull then none else some v)
      | none => .error (.unreadableSetting setting)
    else .ok (some (.text s))

/-- The values that the environment gives for settings. -/
def fromEnvironment (env : Environment) : List String → Except Failure Fields
  | [] => .ok []
  | setting :: rest =>
    match given env setting with
    | .error e => .error e
    | .ok none => fromEnvironment env rest
    | .ok (some v) => (fromEnvironment env rest).map fun fs => (setting, v) :: fs

/-- A value over another: tables are merged, anything else is replaced. -/
def laidOver : Value → Value → Value
  | .table new, .table old => .table (new.foldl (fun kept e => Fields.insert e.1 e.2 kept) old)
  | v, _ => v

/-- Named values over others. -/
def merge (new old : Fields) : Fields :=
  new.foldl (fun kept e =>
    Fields.insert e.1 (match kept.lookup e.1 with
      | some v => laidOver e.2 v
      | none => e.2) kept) old

/-- The settings from what the program gives and from the environment. -/
def load (env : Environment) (own : Fields) : Except Failure Settings :=
  match fromEnvironment env shape.names with
  | .ok outer => parse (merge own outer)
  | .error e => .error e

/-- The settings from the environment, read once: the first success is kept. -/
def loadOnce (env : Environment) (kept : Option Settings) :
    Option Settings × Except Failure Settings :=
  match kept with
  | some s => (kept, .ok s)
  | none =>
    match load env [] with
    | .ok s => (some s, .ok s)
    | .error e => (none, .error e)

end Settings

end SchoolRegistry
