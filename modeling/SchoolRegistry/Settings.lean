import SchoolRegistry.Query.Page
import SchoolRegistry.Record.Model
import SchoolRegistry.Text.Case

/-!
# Settings

What is set once for the whole program: where it runs, which database it uses,
what it logs and how large pages are. The greatest size of a page is positive;
this is part of its type.
-/

namespace SchoolRegistry

/-- Whole numbers above zero. -/
def Codec.positive : Codec { n : Int // 0 < n } where
  read v :=
    match Codec.whole.read v with
    | .ok n => if h : 0 < n then .ok ⟨n, h⟩ else .error [.here .greaterThan]
    | .error e => .error e
  write n := .whole n.val
  read_write n := by simp [Codec.whole, n.property]

/-- The settings of the program. -/
structure Settings where
  stage : DeployStage
  databaseUrl : String
  echoesStatements : Bool
  logLevel : String
  /-- The levels of single loggers. -/
  moduleLevels : List (String × String)
  usualPage : Option Int
  greatestPage : { n : Int // 0 < n }
deriving DecidableEq

namespace Settings

/-- The settings unless said otherwise. -/
def standard : Settings where
  stage := .development
  databaseUrl := "sqlite+aiosqlite:///:memory:"
  echoesStatements := false
  logLevel := "INFO"
  moduleLevels := []
  usualPage := none
  greatestPage := ⟨1000, by decide⟩

/-- The name of the setting with the levels of single loggers, the only one
that is a table. -/
def moduleLevelsName : String := "module_log_levels"

/-- The fields of the settings. -/
def shape : Shape Settings where
  blank := standard
  fields := [
    .plain "deploy_stage" (.term DeployStage) (·.stage)
      (fun a s => { s with stage := a }) fun _ => rfl,
    .plain "database_url" .text (·.databaseUrl)
      (fun a s => { s with databaseUrl := a }) fun _ => rfl,
    .plain "database_echo" .flag (·.echoesStatements)
      (fun a s => { s with echoesStatements := a }) fun _ => rfl,
    .plain "log_level" .text (·.logLevel) (fun a s => { s with logLevel := a }) fun _ => rfl,
    .plain moduleLevelsName (.table .text) (·.moduleLevels)
      (fun a s => { s with moduleLevels := a }) fun _ => rfl,
    .plain "default_page_limit" .whole? (·.usualPage)
      (fun a s => { s with usualPage := a }) fun _ => rfl,
    .plain "max_page_limit" .positive (·.greatestPage)
      (fun a s => { s with greatestPage := a }) fun _ => rfl]

/-- The settings that named values describe. The level is kept in capitals. -/
def parse (data : Fields) : Except Failure Settings :=
  match shape.read data with
  | .ok s => .ok { s with logLevel := Text.upper s.logLevel }
  | .error faults => .error (.invalid faults)

/-- How large pages are. -/
def pageLimits (s : Settings) : PageLimits := ⟨s.usualPage, s.greatestPage.val⟩

end Settings

end SchoolRegistry
