import BrickFormula.Binary64.Elementary

/-!
# Mathematical functions

The arithmetic that formulas use beyond the four operations.  Every function is total: division by
zero, a bad argument or an overflow gives an infinity or not-a-number.
-/

namespace BrickFormula.MathFunction

open Binary64

/-! ## Powers -/

/-- As `Binary64.pow`, except that a power with a not-a-number exponent, or of plus or minus one to
an infinity, is not-a-number. -/
def power (base exponent : Binary64) : Binary64 :=
  if exponent.isZero then one
  else if exponent.isNaN || (base.abs = one && exponent.isInfinite) then .nan
  else pow base exponent

/-! ## Rounding -/

/-- The greatest whole number not above; zero is positive. -/
def floor (x : Binary64) : Binary64 := if x.isFinite then ofInt x.floorInt else x

/-- The least whole number not below; zero is positive. -/
def ceil (x : Binary64) : Binary64 := if x.isFinite then ofInt x.ceilInt else x

def half : Binary64 := ofRatio 1 2

/-- The ends of the 64-bit range: two to the 63rd, and its negation. -/
def longLimit : Binary64 := ofInt 9223372036854775808

/-- The whole number at or below `x + 0.5`, within the 64-bit range; zero for not-a-number. -/
def roundHalfUp (x : Binary64) : Binary64 :=
  if x.isNaN then zero
  else if longLimit.le x then longLimit
  else if x.le longLimit.neg then longLimit.neg
  else ofInt (x + half).floorInt

/-! ## Greater and lesser -/

/-- The greater of two numbers, the positive one of two zeros. -/
def maximum (a b : Binary64) : Binary64 :=
  if a.isNaN || b.isNaN then .nan
  else if a.eq b then (if a.isNegative then b else a)
  else if b.lt a then a else b

/-- The lesser of two numbers, the negative one of two zeros. -/
def minimum (a b : Binary64) : Binary64 :=
  if a.isNaN || b.isNaN then .nan
  else if a.eq b then (if a.isNegative then a else b)
  else if a.lt b then a else b

/-! ## Remainders -/

/-- The remainder of the formula language.  A zero operand gives back the dividend.  A positive
divisor gives a remainder that is not negative; a negative divisor below a positive dividend gives
the remainder shifted down by the divisor, and otherwise the plain remainder. -/
def modulo (dividend divisor : Binary64) : Binary64 :=
  if dividend.isZero || divisor.isZero then dividend
  else if zero.lt divisor then
    let r := dividend.remainder divisor
    (if r.lt zero then r + divisor else r) + zero
  else if zero.lt dividend then dividend.remainder divisor + divisor
  else dividend.remainder divisor

/-! ## Degrees -/

/-- The number nearest to a half turn. -/
def pi : Binary64 := ofRatio 884279719003555 (1 <<< 48)

def straightAngle : Binary64 := ofInt 180

def toRadians (degrees : Binary64) : Binary64 := degrees * (pi / straightAngle)

def toDegrees (radians : Binary64) : Binary64 := radians * (straightAngle / pi)

end BrickFormula.MathFunction
