import BrickFormula.Failure
import BrickFormula.Settings
import BrickFormula.Toml.Display

/-!
# Settings documents

Settings stand in the table `formula` of a TOML document, under the names of `Settings`; an
environment variable replaces the log level.  Values are checked in the order of the settings and
the first bad one is reported.
-/

namespace BrickFormula

/-- The level that a text names in any mixture of cases; a dotless `ı` is a lower-case `I`. -/
def LogLevel.ofText? (text : String) : Option LogLevel :=
  let capital (c : Char) : Char := if c = 'ı' then 'I' else c.toUpper
  LogLevel.ofName? (String.ofList (text.toList.map capital))

/-- What is wrong with a setting. -/
inductive SettingsFlaw where
  | notTable
  | notInteger (key : String) (value : Toml)
  | notNumber (key : String) (value : Toml)
  | notPositive (key : String) (value : Toml)
  | unknownLevel (value : Toml)

/-- A value as it stands in the message of a flaw. -/
def Toml.shown (value : Toml) : Except Fault String := value.display?.elim (.error .integerTooLong) .ok

/-- The message of a flaw, which shows the value. -/
def SettingsFlaw.message : SettingsFlaw → Except Fault String
  | .notTable => .ok "[formula] must be a table"
  | .notInteger key value => value.shown.map ("'" ++ key ++ "' must be an integer, got " ++ ·)
  | .notNumber key value => value.shown.map ("'" ++ key ++ "' must be a number, got " ++ ·)
  | .notPositive key value => value.shown.map ("'" ++ key ++ "' must be positive, got " ++ ·)
  | .unknownLevel value => value.shown.map fun text =>
    "Unknown log level " ++ text ++ " (expected one of " ++
      ", ".intercalate (LogLevel.all.map LogLevel.name) ++ ")"

namespace Settings

/-- Why settings were not read. -/
inductive ReadError where
  | flaw (flaw : SettingsFlaw)
  /-- A number beyond the range of binary64. -/
  | tooLarge

/-! ## Values -/

def integer (key : String) : Toml → Except ReadError Int
  | .integer n => .ok n
  | value => .error (.flaw (.notInteger key value))

/-- A number above zero; not-a-number is accepted. -/
def positive (key : String) : Toml → Except ReadError Binary64
  | .integer n =>
    if n ≤ 0 then .error (.flaw (.notPositive key (.integer n)))
    else if (Binary64.ofInt n).isFinite then .ok (.ofInt n)
    else .error .tooLarge
  | .real x => if x.le .zero then .error (.flaw (.notPositive key (.real x))) else .ok x
  | value => .error (.flaw (.notNumber key value))

def level : Toml → Except ReadError LogLevel
  | .text s => (LogLevel.ofText? s).elim (.error (.flaw (.unknownLevel (.text s)))) .ok
  | value => .error (.flaw (.unknownLevel value))

/-- The value of a key, or its default. -/
def valueOf {α : Type} (entries : Toml.Entries) (key : String) (default : α)
    (read : Toml → Except ReadError α) : Except ReadError α :=
  (entries.lookup key).elim (.ok default) read

/-! ## Documents -/

/-- The settings in a table. -/
def ofTable (entries : Toml.Entries) : Except ReadError Settings := do
  let base : Settings := {}
  let layers ← valueOf entries "virtual_layers" base.virtualLayers (integer "virtual_layers")
  let epsilon ← valueOf entries "integer_epsilon" base.integerEpsilon (positive "integer_epsilon")
  let seed ← valueOf entries "random_seed" none fun v => (integer "random_seed" v).map some
  let logLevel ← valueOf entries "log_level" base.logLevel level
  return ⟨layers, epsilon, seed, logLevel⟩

/-- The settings of a document. -/
def ofDocument (entries : Toml.Entries) : Except ReadError Settings :=
  match entries.lookup "formula" with
  | none => ofTable []
  | some (.table table) => ofTable table
  | some _ => .error (.flaw .notTable)

/-- The settings with the level of the environment variable, unless it is unset or empty. -/
def withLevel (settings : Settings) : Option String → Except ReadError Settings
  | none | some "" => .ok settings
  | some text => (level (.text text)).map fun l => { settings with logLevel := l }

/-! ## Files -/

/-- A flaw is a failure if there is a message for it. -/
def liftError (file : Option String) : ReadError → LoadError
  | .flaw flaw =>
    match flaw.message with
    | .ok message => .failure (.ofFile .settings message file)
    | .error fault => .fault fault
  | .tooLarge => .fault .integerTooLarge

/-- The settings in the text of a file. -/
def ofText? (file text : String) : Except LoadError Settings :=
  match Toml.ofText? text with
  | .ok entries => (ofDocument entries).mapError (liftError (some file))
  | .error .malformed =>
    .error (.failure (.ofFile .settings "Invalid TOML" (some file) (some .notToml)))
  | .error (.integerTooLong digits) => .error (.fault (.numeralTooLong digits))

/-- The file that is read when none is given, if it exists. -/
def defaultFile : String := "formulakit.toml"

/-- The environment variable for the log level. -/
def levelVariable : String := "FORMULAKIT_LOG_LEVEL"

/-- The settings in a file, or else in the default file, or else the default settings. -/
def ofFile (files : String → Option String) : Option String → Except LoadError Settings
  | some file =>
    match files file with
    | some text => ofText? file text
    | none => .error (.failure (.ofFile .settings "Config file not found" (some file)))
  | none =>
    match files defaultFile with
    | some text => ofText? defaultFile text
    | none => .ok {}

/-- The settings of a run: those of the file with the level of the environment variable. -/
def load (files : String → Option String) (file env : Option String) : Except LoadError Settings := do
  (← ofFile files file).withLevel env |>.mapError (liftError none)

end Settings

end BrickFormula
