import BrickFormula.Binary64.Arithmetic
import BrickFormula.Numeral

/-!
# Values

What formulas compute: a text or a number, with `1.0` and `0.0` for true and false.  An operand
may also be absent.  A text that is a numeral counts as its number wherever a number is asked for,
and two values are equal when they are numerically equal, or else when their texts are the same.

A collaborator outside the formula may hand back more than a value (a whole number of any size, a
truth value, or nothing): that is a `Datum`, and `Datum.normalize` turns it into the final value.
-/

namespace BrickFormula

inductive Value where
  | text (s : String)
  | number (x : Binary64)
  deriving DecidableEq

namespace Value

def zero : Value := .number .zero

/-- True as `1.0` and false as `0.0`. -/
def ofBool (b : Bool) : Value := .number (if b then .one else .zero)

/-! ## Coercions of operands -/

/-- The number of an operand; not-a-number when it is absent or a text that is no numeral. -/
def toNumber : Option Value → Binary64
  | some (.text s) => (Numeral.parse? s).getD .nan
  | some (.number x) => x
  | none => .nan

/-- The number of a function's argument; none when it is absent or a text that is no numeral. -/
def toNumber? : Option Value → Option Binary64
  | some (.text s) => Numeral.parse? s
  | some (.number x) => some x
  | none => none

/-- The text of an operand; empty when it is absent. -/
def toText : Option Value → String
  | some (.text s) => s
  | some (.number x) => Numeral.write x
  | none => ""

/-- The text shown to the user. -/
def display (value : Option Value) : String := Numeral.stripTrailingZero (toText value)

/-! ## Equality -/

/-- Equality of two numbers that texts were read as; the sign of zero does not count. -/
def sameNumber (a b : Binary64) : Bool :=
  if a.isZero || b.isZero then a.abs.order b.abs == .eq else a.order b == .eq

/-- Numeric equality when both operands are numerals, equality of texts otherwise. -/
def equals (a b : Option Value) : Bool :=
  match Numeral.parse? (toText a), Numeral.parse? (toText b) with
  | some x, some y => sameNumber x y
  | _, _ => toText a = toText b

end Value

namespace Binary64

/-! ## Whole numbers of 32 bits -/

def greatestInt32 : Int := 2147483647

def leastInt32 : Int := -2147483648

/-- Cut toward zero, limited to the 32-bit range; zero for not-a-number. -/
def toInt32 : Binary64 → Int
  | .nan => 0
  | .infinity negative => if negative then leastInt32 else greatestInt32
  | x => max leastInt32 (min greatestInt32 x.truncate)

/-- Within `tolerance` of a whole number.  Magnitudes beyond the 32-bit range never are. -/
def isNearInteger (x tolerance : Binary64) : Bool :=
  (x.abs - ofInt x.abs.toInt32).lt tolerance

end Binary64

/-- The reason why an evaluation stops without a value. -/
inductive Fault where
  /-- A whole number beyond the range of binary64. -/
  | integerTooLarge
  /-- The whole part of an infinity was asked for. -/
  | wholePartOfInfinity
  /-- The whole part of not-a-number was asked for. -/
  | wholePartOfNaN
  /-- A pattern repeats more often than patterns can. -/
  | repetitionTooLarge
  /-- A pattern writes a number with too many digits. -/
  | numeralTooLong (digits : Nat)
  /-- A message would show an integer with too many digits. -/
  | integerTooLong
  /-- A pattern writes a code point of more than 31 bits. -/
  | codePointTooLarge
  /-- A pattern asks both for ASCII and for Unicode matching. -/
  | conflictingPatternFlags
  /-- A collaborator failed. -/
  | collaborator (message : String)
  deriving DecidableEq

def Fault.message : Fault → String
  | .integerTooLarge => "int too large to convert to float"
  | .wholePartOfInfinity => "cannot convert float infinity to integer"
  | .wholePartOfNaN => "cannot convert float NaN to integer"
  | .repetitionTooLarge => "the repetition number is too large"
  | .numeralTooLong digits => "a number of " ++ toString digits ++ " digits is too long"
  | .integerTooLong => "an integer has too many digits for a message"
  | .codePointTooLarge => "a code point is too large"
  | .conflictingPatternFlags => "ASCII and UNICODE flags are incompatible"
  | .collaborator message => message

/-- What a collaborator may hand back. -/
inductive Datum where
  | absent
  | text (s : String)
  | number (x : Binary64)
  | integer (n : Int)
  | truth (b : Bool)
  deriving DecidableEq

namespace Datum

def ofValue : Value → Datum
  | .text s => .text s
  | .number x => .number x

def ofOption : Option Value → Datum
  | some v => ofValue v
  | none => .absent

/-- The value of a datum, if it is not absent. -/
def toValue? : Datum → Except Fault (Option Value)
  | .absent => .ok none
  | .text s => .ok (some (.text s))
  | .number x => .ok (some (.number x))
  | .truth b => .ok (some (.ofBool b))
  | .integer n =>
    if (Binary64.ofInt n).isFinite then .ok (some (.number (.ofInt n)))
    else .error .integerTooLarge

/-- A number with infinities replaced by the greatest finite numbers. -/
def clamp : Binary64 → Binary64
  | .infinity negative => if negative then Binary64.greatest.neg else Binary64.greatest
  | x => x

/-- The last step of every evaluation: nothing counts as zero and infinities are clamped. -/
def normalize (datum : Datum) : Except Fault Value :=
  datum.toValue?.map fun
    | none => .zero
    | some (.text s) => .text s
    | some (.number x) => .number (clamp x)

end Datum

end BrickFormula
