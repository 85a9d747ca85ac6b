import BrickFormula.Text.LooseNumber

/-!
# Command line arguments

Options of the whole program come before the command, options of the command stand anywhere after
it.  An option is written with two dashes, or with one dash and a letter; letters without values can
be put together.  A value follows as the next argument, behind an equals sign, or directly behind
its letter.  After two dashes alone everything is an argument.

    Request.ofArguments args   what the arguments ask for, or the reason to stop
-/

namespace BrickFormula.CommandLine

/-- The options that have a value. -/
inductive ValueOption where
  | config | scenario | repetitions
  deriving DecidableEq, Repr

/-- The options without a value. -/
inductive FlagOption where
  | help | version | verbose
  deriving DecidableEq, Repr

inductive Command where
  | eval | tokens | resources | names
  deriving DecidableEq, Repr

/-- The reason to stop before doing anything: a mistake, or a question about the program itself. -/
inductive Stop where
  | usage
  | help
  | version
  deriving DecidableEq, Repr

/-- An option by its name or letter. -/
structure OptionTable where
  values : List (String × Char × ValueOption)
  flags : List (String × Option Char × FlagOption)

/-- What has been read: the options in their order, and the other arguments. -/
structure Parsed where
  values : List (ValueOption × String) := []
  flags : List FlagOption := []
  arguments : List String := []
  deriving DecidableEq, Repr

namespace OptionTable

def valueOf? (table : OptionTable) (name : String) : Option ValueOption :=
  (table.values.find? (·.1 = name)).map fun x => x.2.2

def flagOf? (table : OptionTable) (name : String) : Option FlagOption :=
  (table.flags.find? (·.1 = name)).map fun x => x.2.2

def letterValue? (table : OptionTable) (c : Char) : Option ValueOption :=
  (table.values.find? (·.2.1 = c)).map fun x => x.2.2

def letterFlag? (table : OptionTable) (c : Char) : Option FlagOption :=
  (table.flags.find? (·.2.1 = some c)).map fun x => x.2.2

end OptionTable

/-- The name of an option and the value behind an equals sign. -/
def splitEquals (text : List Char) : String × Option String :=
  match text.span (· ≠ '=') with
  | (name, '=' :: value) => (String.ofList name, some (String.ofList value))
  | (name, _) => (String.ofList name, none)

/-- Reads the letters after a single dash; the rest is what remains of the arguments. -/
def readLetters (table : OptionTable) (parsed : Parsed) (rest : List String) :
    List Char → Except Stop (Parsed × List String)
  | [] => .ok (parsed, rest)
  | c :: more =>
    match table.letterFlag? c, table.letterValue? c with
    | some flag, _ => readLetters table { parsed with flags := parsed.flags ++ [flag] } rest more
    | none, some option =>
      let add (value : String) : Parsed :=
        { parsed with values := parsed.values ++ [(option, value)] }
      match more, rest with
      | [], [] => .error .usage
      | [], value :: rest => .ok (add value, rest)
      | more, rest => .ok (add (String.ofList more), rest)
    | none, none => .error .usage

/-- Reads an option with two dashes. -/
def readLong (table : OptionTable) (parsed : Parsed) (name : String) (value : Option String)
    (rest : List String) : Except Stop (Parsed × List String) :=
  match table.valueOf? name, table.flagOf? name, value, rest with
  | some option, _, some value, rest =>
    .ok ({ parsed with values := parsed.values ++ [(option, value)] }, rest)
  | some option, _, none, value :: rest =>
    .ok ({ parsed with values := parsed.values ++ [(option, value)] }, rest)
  | none, some flag, none, rest => .ok ({ parsed with flags := parsed.flags ++ [flag] }, rest)
  | _, _, _, _ => .error .usage

/-- Reads arguments; with `mixed`, options may follow other arguments. -/
def readAll (table : OptionTable) (mixed : Bool) :
    (fuel : Nat) → Parsed → List String → Except Stop Parsed
  | 0, _, _ => .error .usage
  | _ + 1, parsed, [] => .ok parsed
  | fuel + 1, parsed, argument :: rest =>
    match argument.toList with
    | ['-', '-'] => .ok { parsed with arguments := parsed.arguments ++ rest }
    | '-' :: '-' :: name => do
      let (name, value) := splitEquals name
      let (parsed, rest) ← readLong table parsed name value rest
      readAll table mixed fuel parsed rest
    | '-' :: c :: letters => do
      let (parsed, rest) ← readLetters table parsed rest (c :: letters)
      readAll table mixed fuel parsed rest
    | _ =>
      let parsed := { parsed with arguments := parsed.arguments ++ [argument] }
      if mixed then readAll table mixed fuel parsed rest
      else .ok { parsed with arguments := parsed.arguments ++ rest }

/-- Reads a list of arguments; help goes before version. -/
def read (table : OptionTable) (mixed : Bool) (arguments : List String) : Except Stop Parsed := do
  let parsed ← readAll table mixed (arguments.length + 1) {} arguments
  match parsed.flags.find? (· ≠ .verbose) with
  | some .help => .error .help
  | some .version => .error .version
  | _ => return parsed

/-! ## Requests -/

/-- What the arguments ask for. -/
structure Request where
  verbose : Bool := false
  command : Command
  tree : String
  config : Option String := none
  scenario : Option String := none
  repetitions : Nat := 1
  deriving DecidableEq, Repr

/-- The options of the whole program. -/
def programOptions : OptionTable :=
  ⟨[], [("help", none, .help), ("version", some 'V', .version), ("verbose", some 'v', .verbose)]⟩

/-- The options of a command. -/
def commandOptions (command : Command) : OptionTable :=
  let config := ("config", 'c', ValueOption.config)
  let own := match command with
    | .eval => [("scenario", 's', .scenario), ("repeat", 'n', .repetitions)]
    | _ => []
  ⟨config :: own, [("help", none, .help)]⟩

def Command.ofName? : String → Option Command
  | "eval" => some .eval
  | "tokens" => some .tokens
  | "resources" => some .resources
  | "names" => some .names
  | _ => none

/-- The last value of an option. -/
def Parsed.value? (parsed : Parsed) (option : ValueOption) : Option String :=
  parsed.values.reverse.lookup option

/-- A number of repetitions, which is one or more. -/
def repetitionsOf : Option String → Except Stop Nat
  | none => .ok 1
  | some text =>
    match LooseNumber.parse? text.toList with
    | some (n + 1) => .ok (n + 1)
    | _ => .error .usage

def Request.ofArguments (arguments : List String) : Except Stop Request := do
  let program ← read programOptions false arguments
  match program.arguments with
  | [] => .error .usage
  | name :: rest =>
    match Command.ofName? name with
    | none => .error .usage
    | some command =>
      let parsed ← read (commandOptions command) true rest
      let repetitions ← repetitionsOf (parsed.value? .repetitions)
      match parsed.arguments with
      | [tree] => return ⟨program.flags.contains .verbose, command, tree,
          parsed.value? .config, parsed.value? .scenario, repetitions⟩
      | _ => .error .usage

end BrickFormula.CommandLine
