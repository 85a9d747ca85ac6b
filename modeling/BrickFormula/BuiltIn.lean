/-!
# Built-in functions

The closed set of functions that a formula can call.
-/

namespace BrickFormula

/-- The built-in functions. -/
inductive BuiltIn where
  -- Mathematics
  | sin | cos | tan | ln | log | sqrt | rand | abs | round | pi | mod | arcsin | arccos | arctan
  | arctan2 | exp | power | floor | ceil | max | min
  -- Truth values
  | trueValue | falseValue
  -- Text
  | letter | length | join | regex
  -- Devices and touch
  | arduinoDigital | arduinoAnalog | raspiDigital | multiFingerTouched | multiFingerX
  | multiFingerY
  -- Lists
  | listItem | contains | numberOfItems
  deriving DecidableEq, Repr

namespace BuiltIn

/-- In the order of their declaration. -/
def all : List BuiltIn :=
  [.sin, .cos, .tan, .ln, .log, .sqrt, .rand, .abs, .round, .pi, .mod, .arcsin, .arccos, .arctan,
   .arctan2, .exp, .power, .floor, .ceil, .max, .min, .trueValue, .falseValue, .letter, .length,
   .join, .regex, .arduinoDigital, .arduinoAnalog, .raspiDigital, .multiFingerTouched,
   .multiFingerX, .multiFingerY, .listItem, .contains, .numberOfItems]

/-- The name that documents use. -/
def name : BuiltIn → String
  | .sin => "SIN"
  | .cos => "COS"
  | .tan => "TAN"
  | .ln => "LN"
  | .log => "LOG"
  | .sqrt => "SQRT"
  | .rand => "RAND"
  | .abs => "ABS"
  | .round => "ROUND"
  | .pi => "PI"
  | .mod => "MOD"
  | .arcsin => "ARCSIN"
  | .arccos => "ARCCOS"
  | .arctan => "ARCTAN"
  | .arctan2 => "ARCTAN2"
  | .exp => "EXP"
  | .power => "POWER"
  | .floor => "FLOOR"
  | .ceil => "CEIL"
  | .max => "MAX"
  | .min => "MIN"
  | .trueValue => "TRUE"
  | .falseValue => "FALSE"
  | .letter => "LETTER"
  | .length => "LENGTH"
  | .join => "JOIN"
  | .regex => "REGEX"
  | .arduinoDigital => "ARDUINODIGITAL"
  | .arduinoAnalog => "ARDUINOANALOG"
  | .raspiDigital => "RASPIDIGITAL"
  | .multiFingerTouched => "MULTI_FINGER_TOUCHED"
  | .multiFingerX => "MULTI_FINGER_X"
  | .multiFingerY => "MULTI_FINGER_Y"
  | .listItem => "LIST_ITEM"
  | .contains => "CONTAINS"
  | .numberOfItems => "NUMBER_OF_ITEMS"

def ofName? (text : String) : Option BuiltIn := all.find? fun x => x.name = text

/-- The number of arguments. -/
def arity : BuiltIn → Nat
  | .pi | .trueValue | .falseValue => 0
  | .rand | .mod | .arctan2 | .power | .max | .min | .letter | .join | .regex | .listItem
  | .contains => 2
  | _ => 1

end BuiltIn

end BrickFormula
