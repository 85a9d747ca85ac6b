import BrickFormula.Binary64

/-!
# Settings

The choices of an evaluation: how many stage layers lie below the first sprite, how near to a whole
number counts as whole, where random numbers start, and how much is logged.
-/

namespace BrickFormula

/-- How serious a message has to be to be logged. -/
inductive LogLevel where
  | debug | info | warning | error | critical
  deriving DecidableEq, Repr

namespace LogLevel

/-- From the least serious on. -/
def all : List LogLevel := [.debug, .info, .warning, .error, .critical]

/-- The name that documents use. -/
def name : LogLevel → String
  | .debug => "DEBUG"
  | .info => "INFO"
  | .warning => "WARNING"
  | .error => "ERROR"
  | .critical => "CRITICAL"

def ofName? (text : String) : Option LogLevel := all.find? fun x => x.name = text

/-- The rank of a level. -/
def number : LogLevel → Nat
  | .debug => 10
  | .info => 20
  | .warning => 30
  | .error => 40
  | .critical => 50

end LogLevel

structure Settings where
  /-- Stage layers below the first sprite. -/
  virtualLayers : Int := 2
  /-- Numbers nearer to a whole number than this count as whole. -/
  integerEpsilon : Binary64 := .ofRatio 1 1000000000000
  /-- Where the random numbers start; without a seed they differ from run to run. -/
  randomSeed : Option Int := none
  logLevel : LogLevel := .warning

end BrickFormula
