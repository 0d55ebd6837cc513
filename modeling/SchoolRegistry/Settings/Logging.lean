import SchoolRegistry.Settings

/-!
# The layout of logging

Which loggers write at which level, as the settings say. The layout is data for
whatever configures logging; `levelOf` says which level a logger then has. The
level of the root is fixed.
-/

namespace SchoolRegistry.Logging

/-- The form of a line of the log. -/
def lineFormat : String := "%(asctime)s %(levelname)s [%(name)s] %(message)s"

/-- The logger of the whole program. -/
def mainLogger : String := "dbiam"

/-- The level of the root. -/
def rootLevel : String := "WARNING"

/-- The loggers with their levels: the main one first, then those of the
settings, which may set the main one anew. -/
def loggers (s : Settings) : Fields :=
  s.moduleLevels.foldl (fun kept e => Fields.insert e.1 (.text (Text.upper e.2)) kept)
    [(mainLogger, .text s.logLevel)]

/-- The layout as a document. -/
def layout (s : Settings) : Value := .table [
  ("version", .whole 1),
  ("disable_existing_loggers", .flag false),
  ("formatters", .table [("default", .table [("format", .text lineFormat)])]),
  ("handlers", .table [("console", .table [
    ("class", .text "logging.StreamHandler"), ("formatter", .text "default")])]),
  ("loggers", .table ((loggers s).map fun l =>
    (l.1, .table [("level", l.2), ("propagate", .flag true)]))),
  ("root", .table [("level", .text rootLevel), ("handlers", .list [.text "console"])])]

/-! ## Levels -/

/-- The levels: the name by which one is set and the one by which it is shown. -/
def levels : List (String × String) := [
  ("CRITICAL", "CRITICAL"), ("FATAL", "CRITICAL"), ("ERROR", "ERROR"), ("WARN", "WARNING"),
  ("WARNING", "WARNING"), ("INFO", "INFO"), ("DEBUG", "DEBUG"), ("NOTSET", "NOTSET")]

/-- The level of a name by which levels are set, as it is shown. -/
def shownLevel? (level : Value) : Option String := level.text?.bind fun name => levels.lookup name

/-- Whether a name means the root of all loggers. -/
def isRoot (name : String) : Bool := name == "" || name == "root"

/-- Every logger must have a level that exists. -/
def check : Fields → Except Failure Unit
  | [] => .ok ()
  | (name, level) :: rest =>
    if (shownLevel? level).isSome then check rest
    else .error (.argument (.unknownLevel name))

/-- The level that a logger has of its own once logging is configured. -/
def levelOf (s : Settings) (name : String) : String :=
  if isRoot name then rootLevel
  else (((loggers s).lookup name).bind shownLevel?).getD "NOTSET"

/-- The levels of loggers once logging is configured. -/
def levelsOf (s : Settings) (names : List String) : Except Failure (List (String × String)) :=
  (check (loggers s)).map fun _ => names.map fun name => (name, levelOf s name)

end SchoolRegistry.Logging
