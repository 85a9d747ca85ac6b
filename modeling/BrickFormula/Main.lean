import BrickFormula.CommandLine

/-!
# Program

Reads the files that the arguments name, runs the command and puts out what it answers.
-/

namespace BrickFormula.CommandLine

def usage : String :=
  "Usage: brickformula [-v] eval|tokens|resources|names TREE [-c CONFIG] [-s SCENARIO] [-n TIMES]"

/-- The text of a file, if there is one. -/
def readFile? (name : String) : IO (Option String) := do
  try return some (← IO.FS.readFile name)
  catch _ => return none

/-- The texts of the files that a request may need. -/
def readFiles (request : Request) : IO (List (String × String)) :=
  request.files.filterMapM fun name => do
    return (← readFile? name).map fun text => (name, text)

def printOutput : Output → IO Unit
  | .text s => IO.print s
  | .rows cells => cells.forM fun row => IO.println ("  ".intercalate row)

/-- Answers a request and gives the exit code. -/
def serve (request : Request) : IO UInt32 := do
  let files ← readFiles request
  let env ← IO.getEnv Settings.levelVariable
  let seed ← IO.rand 0 1000000000000
  let outcome := runRequest (files.lookup ·) env (RandomSource.draw seed) CharacterNames.common request
  printOutput outcome.output
  if let some error := outcome.error then IO.eprintln ("Error: " ++ error.text)
  return outcome.exitCode.toUInt32

end BrickFormula.CommandLine

def main (arguments : List String) : IO UInt32 :=
  match BrickFormula.CommandLine.Request.ofArguments arguments with
  | .ok request => BrickFormula.CommandLine.serve request
  | .error .usage => do
    IO.eprintln BrickFormula.CommandLine.usage
    return 2
  | .error _ => do
    IO.println BrickFormula.CommandLine.usage
    return 0
