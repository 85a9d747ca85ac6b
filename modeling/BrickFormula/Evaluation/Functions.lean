import BrickFormula.BuiltIn
import BrickFormula.Evaluation.Readings
import BrickFormula.MathFunction
import BrickFormula.Pattern.Parser

/-!
# Built-in functions

What a function makes of its arguments.  An argument is a formula together with its value: some
functions look at the formula itself, to read a list or a variable by name or to tell a literal from
a computed number.

An evaluation counts the random numbers it has drawn, and keeps the count when it stops with a
fault.
-/

namespace BrickFormula

/-- A computation that draws random numbers by counting up, and may stop with a fault. -/
abbrev Evaluation := ExceptT Fault (StateM Nat)

namespace Evaluation

/-- A computation that draws nothing. -/
def ofExcept {α : Type} (result : Except Fault α) : Evaluation α := ExceptT.mk (pure result)

/-- The next random number. -/
def draw (env : Environment) : Evaluation Binary64 :=
  ExceptT.mk fun n => (.ok (env.draw n), n + 1)

end Evaluation

/-- An argument: its formula, which may be empty, and its value, which is then absent. -/
structure Argument where
  formula : Formula
  value : Option Value

namespace Argument

/-- The number of an argument. -/
def number? (a : Argument) : Option Binary64 := Value.toNumber? a.value

/-- The list that an argument names, if it is one. -/
def list? (a : Argument) (env : Environment) : Option (List Datum) :=
  if a.formula.kind? = some .userList then env.getList? a.formula.name else none

/-- The place that an argument asks for, counted from zero; texts that are no numerals count as
zero. -/
def index? (a : Argument) : Option Int :=
  match a.value with
  | none => none
  | some (.number x) => some (x.toInt32 - 1)
  | some (.text s) => some (((Numeral.parse? s).map Binary64.toInt32).getD 0 - 1)

/-- The number near a whole one is written as that one. -/
def wholeOrNumeral (env : Environment) (x : Binary64) : String :=
  if x.isNearInteger env.settings.integerEpsilon then toString x.toInt32 else Numeral.write x

/-- The text of a number literal. -/
def literalText (env : Environment) (value : Option Value) : String :=
  match Numeral.parse? (Value.toText value) with
  | none => ""
  | some x => if x.isNaN then "" else wholeOrNumeral env x

/-- The text of an argument that is joined or searched. -/
def text (a : Argument) (env : Environment) : String :=
  Numeral.stripTrailingZero <|
    match a.formula.kind? with
    | none => ""
    | some .number => literalText env a.value
    | some .string => a.formula.name
    | some _ => Value.toText a.value

end Argument

namespace Call

/-! ## Mathematics -/

open MathFunction in
/-- The functions of one number. -/
def unary? : BuiltIn → Option (Binary64 → Binary64)
  | .sin => some fun x => (toRadians x).sin
  | .cos => some fun x => (toRadians x).cos
  | .tan => some fun x => (toRadians x).tan
  | .ln => some Binary64.ln
  | .log => some Binary64.log10
  | .sqrt => some Binary64.sqrt
  | .abs => some Binary64.abs
  | .round => some roundHalfUp
  | .arcsin => some fun x => toDegrees x.asin
  | .arccos => some fun x => toDegrees x.acos
  | .arctan => some fun x => toDegrees x.atan
  | .exp => some Binary64.exp
  | .floor => some floor
  | .ceil => some ceil
  | _ => none

/-- The functions of two numbers. -/
def binary? : BuiltIn → Option (Binary64 → Binary64 → Binary64)
  | .mod => some MathFunction.modulo
  | .power => some MathFunction.power
  | .max => some MathFunction.maximum
  | .min => some MathFunction.minimum
  | _ => none

/-! ## Random numbers -/

/-- The whole part of a number, toward minus infinity. -/
def wholePart : Binary64 → Except Fault Int
  | .nan => .error .wholePartOfNaN
  | .infinity _ => .error .wholePartOfInfinity
  | x => .ok x.floorInt

/-- A random number between two bounds, which may come in either order.  It is whole when both
bounds are, unless one of them is written with a decimal point. -/
def random (env : Environment) (left right : Argument) (x y : Binary64) : Evaluation Binary64 := do
  let (low, high) := if x.le y then (x, y) else (y, x)
  if low.eq high then return low
  else
    let epsilon := env.settings.integerEpsilon
    let r ← Evaluation.draw env
    if low.isNearInteger epsilon && high.isNearInteger epsilon &&
        !left.formula.isDecimalLiteral && !right.formula.isDecimalLiteral then
      let steps ← Evaluation.ofExcept (wholePart (r * ((high + .one) - low)))
      return low + .ofInt steps
    else return r * (high - low) + low

/-- The direction of a point in degrees; any direction will do for the origin. -/
def direction (env : Environment) (x y : Binary64) : Evaluation Binary64 := do
  if x.isZero && y.isZero then
    return MathFunction.straightAngle - (← Evaluation.draw env) * .ofInt 360
  else return MathFunction.toDegrees (x.atan2 y)

/-! ## Text -/

/-- The character of a text at a place. -/
def letter (left right : Argument) : String :=
  match left.index?, right.value with
  | some (.ofNat n), some value => ((Value.toText value).toList[n]?).elim "" Char.toString
  | _, _ => ""

/-- The length of the text of a variable. -/
def variableLength (env : Environment) (name : String) : Except Fault Nat :=
  (env.get name).toValue?.map fun
    | none => 0
    | some (.text s) => s.length
    | some (.number x) => (Argument.wholeOrNumeral env x).length

/-- The length of a text or of the numeral of a number; not-a-number has none. -/
def valueLength : Option Value → Nat
  | none => 0
  | some (.text s) => s.length
  | some (.number x) => if x.isNaN then 0 else (Numeral.write x).length

/-- The length of what a list shows. -/
def listLength (items : Option (List Datum)) (value : Option Value) : Nat :=
  match items, value with
  | none, _ | some [], _ | _, none => 0
  | _, some (.text s) => s.length
  | _, some (.number x) => if x.isFinite then (toString x.toInt32).length else 0

/-- The length of an argument: of a literal as it is written, and of a variable as it is stored. -/
def length (env : Environment) (a : Argument) : Except Fault Nat :=
  match a.formula.kind? with
  | none => .ok 0
  | some .number | some .string => .ok a.formula.name.length
  | some .userVariable => variableLength env a.formula.name
  | some .userList => .ok (listLength (a.list? env) a.value)
  | some _ => .ok (valueLength a.value)

/-- The piece of a text that a pattern finds: the first group, or all of the match if there are no
groups.  A flaw of the pattern is its own result. -/
def regex (characters : CharacterNames) (pattern text : String) : Except Fault Datum :=
  match SearchPattern.ofText? characters pattern.toList with
  | .error (.fault fault) => .error fault
  | .error (.flaw flaw position) => .ok (.text (flaw.report pattern.toList position))
  | .ok p =>
    match p.search text.toList with
    | .noMatch => .ok (.text "")
    | .noGroup => .ok .absent
    | .found piece => .ok (.text (String.ofList piece))

/-! ## Lists -/

/-- The item of a list at a place. -/
def listItem (env : Environment) (left right : Argument) : Datum :=
  match right.list? env, left.index? with
  | some items, some (.ofNat n) => (items[n]?).getD (.text "")
  | _, _ => .text ""

/-- One of the items equals a value. -/
def holdsItem (value : Option Value) : List Datum → Except Fault Bool
  | [] => .ok false
  | item :: rest => do
    if Value.equals (← item.toValue?) value then return true else holdsItem value rest

/-- The number of items of a list, or the length of any other argument. -/
def itemCount (env : Environment) (a : Argument) : Except Fault Nat :=
  if a.formula.kind? = some .userList then .ok ((a.list? env).elim 0 List.length)
  else length env a

/-! ## Devices -/

/-- The reading of a pin between zero and the last one; not-a-number reads pin zero. -/
def pin (read : Int → Except Fault Binary64) (last : Int) (x : Binary64) : Except Fault Binary64 :=
  if x.lt .zero || (Binary64.ofInt last).lt x then .ok .zero else read x.toInt32

def lastDigitalPin : Int := 13

def lastAnalogPin : Int := 5

/-- The pin of a Raspberry Pi; a failure counts as a low pin. -/
def raspberryPin (board : RaspberryPi) (x : Binary64) : Value :=
  match board.pin x.toInt32 with
  | .ok b => .ofBool b
  | .error _ => .zero

/-- The functions that read a device with a number. -/
def device (env : Environment) (f : BuiltIn) (x : Binary64) : Except Fault Value :=
  match f with
  | .arduinoDigital => (env.arduino.elim (.ok .zero) fun board =>
    pin board.digitalPin lastDigitalPin x).map .number
  | .arduinoAnalog => (env.arduino.elim (.ok .zero) fun board =>
    pin board.analogPin lastAnalogPin x).map .number
  | .raspiDigital => .ok (env.raspberryPi.elim .zero fun board => raspberryPin board x)
  | .multiFingerTouched => .ok (.ofBool (env.touch.isTouching x.toInt32))
  | .multiFingerX => .ok (.number (env.touch.x x.toInt32))
  | .multiFingerY => .ok (.number (env.touch.y x.toInt32))
  | _ => .ok .zero

/-! ## All functions -/

/-- The result of a function of text or lists. -/
def applyText (env : Environment) (f : BuiltIn) (left right : Argument) : Except Fault Datum :=
  let count (n : Except Fault Nat) : Except Fault Datum := n.map fun n => .number (.ofInt n)
  match f with
  | .letter => .ok (.text (letter left right))
  | .length => count (length env left)
  | .join => .ok (.text (left.text env ++ right.text env))
  | .regex => regex env.characters (left.text env) (right.text env)
  | .listItem => .ok (listItem env left right)
  | .contains =>
    (holdsItem right.value ((left.list? env).getD [])).map fun b => .ofValue (.ofBool b)
  | .numberOfItems => count (itemCount env left)
  | _ => .ok (.number .zero)

/-- The result of a function of numbers; zero when an argument is none. -/
def applyNumbers (env : Environment) (f : BuiltIn) (left right : Argument) :
    Evaluation Binary64 :=
  match f, unary? f, binary? f, left.number?, right.number? with
  | .rand, _, _, some x, some y => random env left right x y
  | .arctan2, _, _, some x, some y => direction env x y
  | _, some g, _, some x, _ => return g x
  | _, _, some g, some x, some y => return g x y
  | _, _, _, _, _ => return .zero

/-- The result of a function. -/
def apply (env : Environment) (f : BuiltIn) (left right : Argument) : Evaluation Datum :=
  match f with
  | .pi => return .number MathFunction.pi
  | .trueValue => return .number .one
  | .falseValue => return .number .zero
  | .letter | .length | .join | .regex | .listItem | .contains | .numberOfItems =>
    .ofExcept (applyText env f left right)
  | .arduinoDigital | .arduinoAnalog | .raspiDigital | .multiFingerTouched | .multiFingerX
  | .multiFingerY =>
    .ofExcept ((left.number?.elim (.ok .zero) (device env f)).map .ofValue)
  | f => return .number (← applyNumbers env f left right)

end Call

end BrickFormula
