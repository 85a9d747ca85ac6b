import BrickFormula.Binary64.Enclosure

/-!
# Elementary functions

Trigonometric, exponential and logarithmic functions of binary64 numbers, each the real value
rounded once.  The arguments at which the value is itself a number, or half way between two, are
answered exactly; everywhere else an enclosure settles the rounding.  An argument outside a
function's domain gives not-a-number.
-/

namespace BrickFormula.Binary64

/-! ## Settling a rounding -/

/-- The bits that a magnitude far below one takes before its first significant one. -/
def leadingZeros (units : Nat) : Nat := 1074 - units.log2

/-- Rounds the value enclosed by `enclose`, starting from 256 bits and `extra` more. -/
def settle (extra : Nat) (enclose : Nat → Option Enclosure) : Binary64 :=
  Enclosure.refine enclose 6 (256 + extra)

/-- Rounds a fixed-point value with the usual slack, negated if asked. -/
def settleFixed (extra : Nat) (negative : Bool) (value : Nat → Int) : Binary64 :=
  settle extra fun p =>
    let v := value p
    Enclosure.around (if negative then -v else v) Fixed.slack p

/-! ## Angles -/

def sin : Binary64 → Binary64
  | .finite negative units h =>
    if units = 0 then .finite negative units h
    else settleFixed (leadingZeros units) negative fun p => (Fixed.sineCosineOf p units).1
  | _ => .nan

def cos : Binary64 → Binary64
  | .finite _ units _ =>
    if units = 0 then one
    else settleFixed 0 false fun p => (Fixed.sineCosineOf p units).2
  | _ => .nan

/-- The quotient of two values known to within `slack`; none while either sign is open. -/
def encloseQuotient (p slack : Nat) (num den : Int) : Option Enclosure :=
  if slack < num.natAbs ∧ slack < den.natAbs then
    some ⟨(num < 0) != (den < 0),
      (num.natAbs - slack) <<< p / (den.natAbs + slack),
      (num.natAbs + slack) <<< p / (den.natAbs - slack) + 1, p⟩
  else none

def tan : Binary64 → Binary64
  | .finite negative units h =>
    if units = 0 then .finite negative units h
    else settle (leadingZeros units) fun p =>
      let (s, c) := Fixed.sineCosineOf p units
      encloseQuotient p Fixed.slack (if negative then -s else s) c
  | _ => .nan

/-! ## Inverse functions -/

/-- `turns` quarter turns, with the given sign. -/
def quarters (negative : Bool) (turns den : Nat) : Binary64 :=
  settleFixed 0 negative fun p => (turns * Fixed.halfPi p : Nat) / (den : Int)

/-- The inverse tangent of the square root of `num / den`. -/
def arctanRoot (p num den : Nat) : Int :=
  if den = 0 then Fixed.halfPi p
  else Fixed.arctan p (squareRoot (num <<< (2 * p) / den)) (1 <<< p)

def atan : Binary64 → Binary64
  | .nan => .nan
  | .infinity negative => quarters negative 1 1
  | .finite negative units h =>
    if units = 0 then .finite negative units h
    else settleFixed (leadingZeros units) negative fun p => Fixed.arctan p units unitsPerOne

/-- The inverse sine of `x` is the inverse tangent of `x / √(1 - x²)`. -/
def asin : Binary64 → Binary64
  | .finite negative units h =>
    if units = 0 then .finite negative units h
    else if unitsPerOne < units then .nan
    else settleFixed (leadingZeros units) negative fun p =>
      arctanRoot p (units * units) (unitsPerOne * unitsPerOne - units * units)
  | _ => .nan

/-- The inverse cosine of `x` is the inverse tangent of `√(1 - x²) / x`, or a half turn less that of
`-x`. -/
def acos : Binary64 → Binary64
  | .finite negative units _ =>
    if unitsPerOne < units then .nan
    else if units = unitsPerOne then (if negative then quarters false 2 1 else zero)
    else settleFixed 0 false fun p =>
      let angle := arctanRoot p (unitsPerOne * unitsPerOne - units * units) (units * units)
      if negative then 2 * Fixed.halfPi p - angle else angle
  | _ => .nan

/-- The angle of the point `(x, y)`, from minus to plus a half turn. -/
def atan2 : (y x : Binary64) → Binary64
  | .nan, _ | _, .nan => .nan
  | .infinity s, .infinity t => quarters s (if t then 3 else 1) 2
  | .infinity s, .finite .. => quarters s 1 1
  | .finite s _ _, .infinity t => if t then quarters s 2 1 else signedZero s
  | .finite s a _, .finite t b _ =>
    if a = 0 then (if t then quarters s 2 1 else signedZero s)
    else if b = 0 then quarters s 1 1
    else if t then settleFixed 0 s fun p => 2 * Fixed.halfPi p - Fixed.arctan p a b
    else if a.log2 + 1100 < b.log2 then signedZero s
    else settleFixed (b.log2 - a.log2) s fun p => Fixed.arctan p a b

/-! ## Exponential and logarithm -/

/-- The exponential of `z / 2 ^ p`, where `z` is known to within `slack`. -/
def encloseExponential (p slack : Nat) (z : Int) : Option Enclosure :=
  let (mantissa, k) := Fixed.exponential p z
  Enclosure.around mantissa (8 * slack) (p - k)

/-- Beyond these arguments every exponential overflows or vanishes. -/
def exponentialLimit : Nat := 800

def exp : Binary64 → Binary64
  | .nan => .nan
  | .infinity negative => if negative then zero else .infinity false
  | .finite negative units _ =>
    if units = 0 then one
    else if exponentialLimit * unitsPerOne < units then
      (if negative then zero else .infinity false)
    else settle 0 fun p =>
      encloseExponential p Fixed.slack (signed negative (units <<< p / unitsPerOne))

def ln : Binary64 → Binary64
  | .nan => .nan
  | .infinity negative => if negative then .nan else .infinity false
  | .finite negative units _ =>
    if units = 0 then .infinity true
    else if negative then .nan
    else if units = unitsPerOne then zero
    else settleFixed 0 false fun p => Fixed.ln p units

/-- The exponent of a unit count that is a power of ten times one, from ten to the zeroth up. -/
def powerOfTen? (units : Nat) : Option Nat :=
  (List.range 23).find? fun n => units = Nat.pow 10 n * unitsPerOne

def log10 : Binary64 → Binary64
  | .nan => .nan
  | .infinity negative => if negative then .nan else .infinity false
  | .finite negative units _ =>
    if units = 0 then .infinity true
    else if negative then .nan
    else match powerOfTen? units with
      | some n => ofInt n
      | none => settle 0 fun p =>
        encloseQuotient p (1 <<< 32) (Fixed.ln p units) (Fixed.ln p (10 * unitsPerOne))

/-! ## Powers -/

/-- An odd number times a power of two. -/
structure Dyadic where
  odd : Nat
  exponent : Int

/-- A unit count that is not zero, written as an odd number times a power of two. -/
def Dyadic.ofUnits (units : Nat) : Dyadic :=
  let rec strip : (fuel n : Nat) → Int → Dyadic
    | 0, n, e => ⟨n, e⟩
    | fuel + 1, n, e => if n % 2 = 0 then strip fuel (n / 2) (e + 1) else ⟨n, e⟩
  strip (units.log2 + 1) units (-1074)

/-- The square root, if it is again an odd number times a power of two. -/
def Dyadic.root? (x : Dyadic) : Option Dyadic :=
  let root := squareRoot x.odd
  if root * root = x.odd ∧ x.exponent % 2 = 0 then some ⟨root, x.exponent / 2⟩ else none

/-- The root of order `2 ^ times`. -/
def Dyadic.roots? : (times : Nat) → Dyadic → Option Dyadic
  | 0, x => some x
  | times + 1, x => x.root?.bind (roots? times)

/-- The number nearest to `n * 2 ^ exponent`. -/
def scaleByTwo (n : Nat) (exponent : Int) : Binary64 :=
  if 2100 < exponent then .infinity false
  else if exponent < -4000 - n.log2 then zero
  else Enclosure.roundEnd false n (-exponent)

/-- `base ^ exponent` where the power is an odd number times a power of two: a power of two to an
exponent that makes it whole, or a root that exists raised to a small positive whole number. -/
def exactPower? (base : Dyadic) (negative : Bool) (exponent : Dyadic) : Option Binary64 :=
  if base.odd = 1 then
    let product := base.exponent * (if negative then -(exponent.odd : Int) else exponent.odd)
    if 0 ≤ exponent.exponent then
      some (scaleByTwo 1 (product * (1 <<< exponent.exponent.toNat : Nat)))
    else if product % (1 <<< (-exponent.exponent).toNat : Nat) = 0 then
      some (scaleByTwo 1 (product / (1 <<< (-exponent.exponent).toNat : Nat)))
    else none
  else if negative then none
  else if 0 ≤ exponent.exponent then
    if exponent.exponent ≤ 6 ∧ exponent.odd <<< exponent.exponent.toNat ≤ 64 then
      let n := exponent.odd <<< exponent.exponent.toNat
      some (scaleByTwo (Nat.pow base.odd n) (base.exponent * n))
    else none
  else if exponent.exponent < -6 ∨ 64 < exponent.odd then none
  else (Dyadic.roots? (-exponent.exponent).toNat base).map fun root =>
    scaleByTwo (Nat.pow root.odd exponent.odd) (root.exponent * exponent.odd)

/-- `a ^ ± b` for positive unit counts `a`, which is not one, and `b`. -/
def powPositive (a : Nat) (negative : Bool) (b : Nat) : Binary64 :=
  match exactPower? (.ofUnits a) negative (.ofUnits b) with
  | some x => x
  | none =>
    let large := (unitsPerOne < a) != negative
    if 1074 + 80 < b.log2 then (if large then .infinity false else zero)
    else
      let extra := b.log2 - 1074 + 32
      let z := fun p => signed negative b * Fixed.ln (p + extra) a / (unitsPerOne <<< extra : Nat)
      if exponentialLimit <<< 64 < (z 64).natAbs then (if large then .infinity false else zero)
      else settle 0 fun p => encloseExponential p Fixed.slack (z p)

/-- A whole number that is odd. -/
def isOddInteger : Binary64 → Bool
  | .finite _ units _ => units % unitsPerOne == 0 && units / unitsPerOne % 2 == 1
  | _ => false

/-- `base ^ exponent`: one to any power and any number to the power zero are one, and a negative
base takes whole exponents only. -/
def pow (base exponent : Binary64) : Binary64 :=
  if exponent.isZero || base = one then one
  else match base, exponent with
    | .nan, _ | _, .nan => .nan
    | base, .infinity negative =>
      if base.abs = one then one
      else if base.abs.lt one == negative then .infinity false else zero
    | .infinity s, y =>
      let negative := s && y.isOddInteger
      if y.isNegative then signedZero negative else .infinity negative
    | .finite s a _, .finite t b _ =>
      let negative := s && exponent.isOddInteger
      if a = 0 then (if t then .infinity negative else signedZero negative)
      else if s && b % unitsPerOne ≠ 0 then .nan
      else if a = unitsPerOne then (if negative then one.neg else one)
      else
        let magnitude := powPositive a t b
        if negative then magnitude.neg else magnitude

end BrickFormula.Binary64
