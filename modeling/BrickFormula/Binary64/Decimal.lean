import BrickFormula.Binary64

/-!
# Decimal forms of binary64 numbers

A decimal is a whole coefficient times a power of ten.  Reading one rounds it once to the nearest
number.  Writing a number takes the fewest digits that read back to it, and of those the decimal
nearest to its exact value; a half goes to the even digit:

    ofDecimal neg c e         the number nearest to c * 10 ^ e
    shortestDecimal neg u h   coefficient and exponent of the shortest decimal

The exact value of `u` units is `u * 5 ^ 1074` times `10 ^ -1074`, so its decimal expansion is the
digits of one natural number, and a shorter decimal is a prefix of it or the next one above.
-/

namespace BrickFormula.Binary64

/-! ## Reading -/

/-- The number nearest to `coefficient * 10 ^ exponent`.  Exponents far outside the range are
settled without building the power. -/
def ofDecimal (negative : Bool) (coefficient : Nat) (exponent : Int) : Binary64 :=
  if coefficient = 0 then signedZero negative
  else if 400 < exponent then .infinity negative
  else if exponent + coefficient.log2 < -400 then signedZero negative
  else if 0 ≤ exponent then
    nearest negative (coefficient * Nat.pow 10 exponent.toNat * unitsPerOne) 1
  else nearest negative (coefficient * unitsPerOne) (Nat.pow 10 (-exponent).toNat)

/-! ## Writing -/

/-- A decimal `coefficient * 10 ^ exponent`. -/
structure Decimal where
  coefficient : Nat
  exponent : Int
  deriving DecidableEq, Repr

/-- The number of decimal digits; none for zero. -/
def digitCount (n : Nat) : Nat :=
  let low := n.log2 * 30103 / 100000
  if n < Nat.pow 10 low then low
  else if n < Nat.pow 10 (low + 1) then low + 1
  else low + 2

/-- Moves trailing zeros of the coefficient into the exponent. -/
def stripZeros : (fuel : Nat) → Decimal → Decimal
  | 0, d => d
  | fuel + 1, d =>
    if d.coefficient ≠ 0 ∧ d.coefficient % 10 = 0 then
      stripZeros fuel ⟨d.coefficient / 10, d.exponent + 1⟩
    else d

/-- The exact decimal expansion of a unit count. -/
def exactDecimal (units : Nat) : Decimal := ⟨units * Nat.pow 5 1074, -1074⟩

/-- The decimals with `digits` digits just below and just above the exact value, the nearer one
first, or the even one if they are equally near. -/
def neighbours (exact : Decimal) (digits : Nat) : List Decimal :=
  let dropped := digitCount exact.coefficient - digits
  let power := Nat.pow 10 dropped
  let below := exact.coefficient / power
  let exponent := exact.exponent + dropped
  let twice := 2 * (exact.coefficient % power)
  if twice < power ∨ twice = power ∧ below % 2 = 0 then
    [⟨below, exponent⟩, ⟨below + 1, exponent⟩]
  else [⟨below + 1, exponent⟩, ⟨below, exponent⟩]

/-- The decimal reads as the given number. -/
def readsAs (negative : Bool) (x : Binary64) (d : Decimal) : Bool :=
  ofDecimal negative d.coefficient d.exponent = x

/-- The first of the neighbours with `digits`, `digits + 1`, … digits that reads as `x`; the exact
expansion when none of the `fuel` lengths has one. -/
def searchShortest (negative : Bool) (x : Binary64) (exact : Decimal) :
    (fuel digits : Nat) → Decimal
  | 0, _ => exact
  | fuel + 1, digits =>
    match (neighbours exact digits).find? (readsAs negative x) with
    | some d => d
    | none => searchShortest negative x exact fuel (digits + 1)

/-- The shortest decimal that reads as the finite number with this sign and unit count; of the
shortest ones the nearest.  Seventeen digits always suffice. -/
def shortestDecimal (negative : Bool) (units : Nat) (h : Representable units) : Decimal :=
  stripZeros 20 (searchShortest negative (.finite negative units h) (exactDecimal units) 17 1)

end BrickFormula.Binary64
