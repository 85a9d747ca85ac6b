import BrickFormula.CommandLine.Arguments
import BrickFormula.Evaluation
import BrickFormula.Formula.Document
import BrickFormula.Formula.Names
import BrickFormula.Formula.Token
import BrickFormula.RandomSource
import BrickFormula.Scenario.Document
import BrickFormula.Settings.Document
import BrickFormula.Text.Markup
import BrickFormula.Text.TerminalCode

/-!
# Command line

Four commands on the document of a formula: its value, its tokens, the resources it needs, and the
names it refers to.  All documents are loaded before anything is put out; the first one that fails,
in the order settings, formula, scenario, is the only one reported.  The output goes to no terminal, so
values are shown without terminal codes.

    CommandLine.run files env fresh characters args   the outcome of a whole run
-/

namespace BrickFormula.CommandLine

/-- What a run puts out: text, or the rows of a table. -/
inductive Output where
  | text (s : String)
  | rows (cells : List (List String))
  deriving DecidableEq, Repr

/-- How a run ends. -/
structure Outcome where
  exitCode : Nat
  /-- The level of logging, if the run came to set it. -/
  logLevel : Option LogLevel := none
  output : Output := .text ""
  error : Option LoadError := none
  deriving DecidableEq

/-! ## Documents -/

/-- The formula in a file. -/
def loadFormula (files : String → Option String) (file : String) : Except LoadError Formula :=
  match files file with
  | none => .error (.failure (.ofFile .scenario "Formula file not found" (some file)))
  | some text =>
    (Formula.ofText? text).mapError fun ps =>
      .failure (.ofFile .scenario "Invalid formula tree" (some file) (some (.problems ps)))

/-- The scenario in a file. -/
def loadScenario (files : String → Option String) (file : String) : Except LoadError Scenario :=
  let invalid (refusal : Refusal) : LoadError :=
    .failure (.ofFile .scenario "Invalid scenario" (some file) (some refusal))
  match files file with
  | none => .error (.failure (.ofFile .scenario "Scenario file not found" (some file)))
  | some text =>
    (Scenario.ofText? text).mapError fun
      | .notJson .malformed => invalid .notJson
      | .notJson (.integerTooLong digits) => .fault (.numeralTooLong digits)
      | .invalid ps => invalid (.problems ps)

/-- The files that a request may read. -/
def Request.files (request : Request) : List String :=
  request.tree :: request.config.getD Settings.defaultFile :: request.scenario.toList

/-! ## Commands -/

/-- The random numbers of a run; `fresh` holds them where the settings give no seed. -/
def drawOf (settings : Settings) (fresh : Nat → Binary64) : Nat → Binary64 :=
  settings.randomSeed.elim fresh RandomSource.draw

/-- The environment of an evaluation. -/
def environmentOf (settings : Settings) (scenario : Option Scenario) (fresh : Nat → Binary64)
    (characters : CharacterNames) : Environment :=
  let draw := drawOf settings fresh
  scenario.elim (.bare settings draw characters) fun s => s.environment settings draw characters

/-- The lines of so many evaluations, the first of which starts after `drawn` random numbers.  A
fault ends them. -/
def evaluateLines (env : Environment) (t : Formula) : (times drawn : Nat) → String × Option Fault
  | 0, _ => ("", none)
  | times + 1, drawn =>
    match (t.evaluate env).run drawn with
    | (.error fault, _) => ("", some fault)
    | (.ok value, drawn) =>
      let (lines, fault) := evaluateLines env t times drawn
      (Value.display (some value) ++ "\n" ++ lines, fault)

/-- A number before each row. -/
def numberRows (first : Nat) : List (List String) → List (List String)
  | [] => []
  | row :: rest => (toString first :: row) :: numberRows (first + 1) rest

def tokenRows (t : Formula) : List (List String) :=
  numberRows 1 (t.tokens.map fun token => [token.kind.name, token.text])

def nameRows (t : Formula) : List (List String) :=
  t.variableNames.map (fun name => ["variable", name]) ++ t.listNames.map fun name => ["list", name]

def resourceLines (t : Formula) : String :=
  match Resource.sortedNames t.resources with
  | [] => "No resources required\n"
  | names => String.join (names.map (· ++ "\n"))

/-- A table with a title and cells of markup; one that cannot be shown ends the run. -/
def tableOutcome (level : LogLevel) (title : String) (rows : List (List String)) : Outcome :=
  match Markup.plain? title, rows.mapM fun row => row.mapM Markup.plain? with
  | some _, some rows => { exitCode := 0, logLevel := some level, output := .rows rows }
  | _, _ => { exitCode := 1, logLevel := some level }

/-- A run that fails. -/
def failed (level : Option LogLevel) (error : LoadError) : Outcome :=
  { exitCode := 1, logLevel := level, error := some error }

/-- The value of a formula, line by line and without terminal codes. -/
def runEval (files : String → Option String) (fresh : Nat → Binary64) (characters : CharacterNames)
    (request : Request) (settings : Settings) (level : LogLevel) (t : Formula) : Outcome :=
  let loaded : Except LoadError (Option Scenario) := match request.scenario with
    | none => .ok none
    | some file => (loadScenario files file).map some
  match loaded with
  | .error error => failed (some level) error
  | .ok scenario =>
    let (lines, fault) :=
      evaluateLines (environmentOf settings scenario fresh characters) t request.repetitions 0
    { exitCode := if fault.isSome then 1 else 0, logLevel := some level,
      output := .text (TerminalCode.strip lines), error := fault.map .fault }

/-- The outcome of a request. -/
def runRequest (files : String → Option String) (env : Option String) (fresh : Nat → Binary64)
    (characters : CharacterNames) (request : Request) : Outcome :=
  match Settings.load files request.config env with
  | .error error => failed none error
  | .ok settings =>
    let level := if request.verbose then .debug else settings.logLevel
    match loadFormula files request.tree with
    | .error error => failed (some level) error
    | .ok t =>
      match request.command with
      | .eval => runEval files fresh characters request settings level t
      | .tokens => tableOutcome level t.display (tokenRows t)
      | .names => tableOutcome level "" (nameRows t)
      | .resources =>
        { exitCode := 0, logLevel := some level, output := .text (resourceLines t) }

/-- The outcome of a run.  `files` holds the texts of the files that exist, `env` the environment
variable for the log level. -/
def run (files : String → Option String) (env : Option String) (fresh : Nat → Binary64)
    (characters : CharacterNames) (arguments : List String) : Outcome :=
  match Request.ofArguments arguments with
  | .error .usage => { exitCode := 2 }
  | .error _ => { exitCode := 0 }
  | .ok request => runRequest files env fresh characters request

end BrickFormula.CommandLine
