import BrickFormula.Binary64

/-!
# Arithmetic on binary64 numbers

Sum, product, quotient, square root and remainder, each the exact result rounded once, and the
integral parts of a number.  Not-a-number absorbs every operation; an invalid one (infinity minus
infinity, zero times infinity, the root of a negative number) gives it.
-/

namespace BrickFormula.Binary64

/-! ## Signs -/

def neg : Binary64 → Binary64
  | .nan => .nan
  | .infinity negative => .infinity (!negative)
  | .finite negative units h => .finite (!negative) units h

def abs : Binary64 → Binary64
  | .nan => .nan
  | .infinity _ => .infinity false
  | .finite _ units h => .finite false units h

/-! ## Ring operations -/

/-- A sum of exactly zero is positive, except that two negative zeros give the negative one. -/
def add : Binary64 → Binary64 → Binary64
  | .nan, _ | _, .nan => .nan
  | .infinity s, .infinity t => if s = t then .infinity s else .nan
  | .infinity s, .finite .. | .finite .., .infinity s => .infinity s
  | .finite s a _, .finite t b _ =>
    let sum := signed s a + signed t b
    if sum = 0 then signedZero (s && t) else nearest (sum < 0) sum.natAbs 1

def sub (a b : Binary64) : Binary64 := add a b.neg

def mul : Binary64 → Binary64 → Binary64
  | .nan, _ | _, .nan => .nan
  | .infinity s, .infinity t => .infinity (s != t)
  | .infinity s, .finite t b _ | .finite t b _, .infinity s =>
    if b = 0 then .nan else .infinity (s != t)
  | .finite s a _, .finite t b _ => nearest (s != t) (a * b) unitsPerOne

/-- Division by zero gives a signed infinity, and not-a-number for zero over zero. -/
def div : Binary64 → Binary64 → Binary64
  | .nan, _ | _, .nan => .nan
  | .infinity _, .infinity _ => .nan
  | .infinity s, .finite t _ _ => .infinity (s != t)
  | .finite s _ _, .infinity t => signedZero (s != t)
  | .finite s a _, .finite t b _ =>
    if b = 0 then (if a = 0 then .nan else .infinity (s != t))
    else nearest (s != t) (a * unitsPerOne) b

/-! ## Remainder -/

/-- The exact remainder of truncated division; it has the sign of the dividend. -/
def remainder : Binary64 → Binary64 → Binary64
  | .nan, _ | _, .nan => .nan
  | .infinity _, _ => .nan
  | .finite s a h, .infinity _ => .finite s a h
  | .finite s a _, .finite _ b _ => if b = 0 then .nan else nearest s (a % b) 1

/-! ## Square root -/

/-- One step of the integer square root: the larger neighbour whose square still fits. -/
def squareRootStep (n root : Nat) : Nat :=
  if (2 * root + 1) * (2 * root + 1) ≤ n then 2 * root + 1 else 2 * root

/-- The whole part of the square root of `n`, where `n < 4 ^ pairs`. -/
def squareRootOf : (pairs : Nat) → (n : Nat) → Nat
  | 0, _ => 0
  | pairs + 1, n => squareRootStep n (squareRootOf pairs (n / 4))

/-- The whole part of the square root. -/
def squareRoot (n : Nat) : Nat := squareRootOf (n.log2 / 2 + 1) n

/-- The square root rounded once: a half unit below the whole part plus one stands for any
fractional part, which is never exactly a half. -/
def sqrt : Binary64 → Binary64
  | .nan => .nan
  | .infinity false => .infinity false
  | .infinity true => .nan
  | .finite s a h =>
    if a = 0 then .finite s a h
    else if s then .nan
    else
      let square := a * unitsPerOne
      let root := squareRoot square
      if root * root = square then nearest false root 1 else nearest false (2 * root + 1) 2

/-! ## Integral parts -/

/-- The whole part of a finite number, cut toward zero. -/
def truncate : Binary64 → Int
  | .finite negative units _ => signed negative (units / unitsPerOne)
  | _ => 0

/-- The greatest integer not above a finite number. -/
def floorInt : Binary64 → Int
  | .finite negative units _ => (signed negative units).fdiv unitsPerOne
  | _ => 0

/-- The least integer not below a finite number. -/
def ceilInt (x : Binary64) : Int := -(floorInt x.neg)

/-- The fractional part is zero. -/
def isWhole : Binary64 → Bool
  | .finite _ units _ => units % unitsPerOne == 0
  | _ => false

instance : Neg Binary64 := ⟨neg⟩
instance : Add Binary64 := ⟨add⟩
instance : Sub Binary64 := ⟨sub⟩
instance : Mul Binary64 := ⟨mul⟩
instance : Div Binary64 := ⟨div⟩

end BrickFormula.Binary64
