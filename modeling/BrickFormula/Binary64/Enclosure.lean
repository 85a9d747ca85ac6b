import BrickFormula.Binary64.Arithmetic

/-!
# Enclosures of real values

A correctly rounded elementary function is found by enclosing the real result between two integers
over a power of two, and rounding both ends: when they round alike, that is the answer, and
otherwise the enclosure is taken again at twice the precision.

Fixed-point values below are integers at a stated precision `p`, standing for `value / 2 ^ p`.
-/

namespace BrickFormula.Binary64

/-! ## Rounding an enclosure -/

/-- A real value whose magnitude times `2 ^ scale` lies between `low` and `high`. -/
structure Enclosure where
  negative : Bool
  low : Nat
  high : Nat
  scale : Int

namespace Enclosure

/-- The number nearest to `n / 2 ^ scale`. -/
def roundEnd (negative : Bool) (n : Nat) (scale : Int) : Binary64 :=
  if 0 ≤ scale then nearest negative (n * unitsPerOne) (1 <<< scale.toNat)
  else nearest negative (n <<< (-scale).toNat * unitsPerOne) 1

/-- The common rounding of both ends, if they have one. -/
def round? (e : Enclosure) : Option Binary64 :=
  let x := roundEnd e.negative e.low e.scale
  if x = roundEnd e.negative e.high e.scale then some x else none

/-- A value known to within `slack`; none while its sign is not settled. -/
def around (value : Int) (slack : Nat) (scale : Int) : Option Enclosure :=
  if slack < value.natAbs then
    some ⟨value < 0, value.natAbs - slack, value.natAbs + slack, scale⟩
  else none

/-- Takes enclosures at precisions `p`, `2 * p`, `4 * p`, … until one rounds. -/
def refine (enclose : Nat → Option Enclosure) : (fuel p : Nat) → Binary64
  | 0, _ => .nan
  | fuel + 1, p =>
    match (enclose p).bind round? with
    | some x => x
    | none => refine enclose fuel (2 * p)

end Enclosure

namespace Fixed

/-! ## Series -/

/-- The error allowed to one series, in last places. -/
def slack : Nat := 1 <<< 24

/-- `w / i ± w' / (i + 2) ± …`, where each power is the one before it, shrunk. -/
def oddSeries (alternating : Bool) (shrink : Nat → Nat) : (fuel index power : Nat) → Int
  | 0, _, _ => 0
  | fuel + 1, index, power =>
    if power = 0 then 0
    else
      let rest := oddSeries alternating shrink fuel (index + 2) (shrink power)
      if alternating then (power / index : Nat) - rest else (power / index : Nat) + rest

/-- `term - term * square / ((n + 1) * (n + 2)) + …`, the tail of a sine or cosine series. -/
def alternatingTaylor (p square : Nat) : (fuel n term : Nat) → Int
  | 0, _, _ => 0
  | fuel + 1, n, term =>
    if term = 0 then 0
    else term - alternatingTaylor p square fuel (n + 2)
      ((term * square) >>> p / ((n + 1) * (n + 2)))

/-- `term + term * r / n + …`, the tail of an exponential series. -/
def exponentialTaylor (p r : Nat) : (fuel n term : Nat) → Nat
  | 0, _, _ => 0
  | fuel + 1, n, term =>
    if term = 0 then 0
    else term + exponentialTaylor p r fuel (n + 1) ((term * r) >>> p / n)

/-! ## Constants -/

/-- The inverse tangent, or inverse hyperbolic tangent, of `1 / n`. -/
def inverseSeries (alternating : Bool) (p n : Nat) : Int :=
  oddSeries alternating (· / (n * n)) p 1 (1 <<< p / n)

/-- `π / 2`. -/
def halfPi (p : Nat) : Nat :=
  let q := p + 24
  (8 * inverseSeries true q 5 - 2 * inverseSeries true q 239).toNat >>> 24

/-- The natural logarithm of two. -/
def lnTwo (p : Nat) : Nat :=
  let q := p + 24
  (18 * inverseSeries false q 26 - 2 * inverseSeries false q 4801 +
    8 * inverseSeries false q 8749).toNat >>> 24

/-! ## Elementary functions -/

/-- The inverse tangent of `num / den`, at most `3 / 7`. -/
def arctanSmall (p num den : Nat) : Int :=
  let t := num <<< p / den
  let square := (t * t) >>> p
  oddSeries true (fun power => (power * square) >>> p) p 1 t

/-- The inverse tangent of `num / den`, which is at most one. -/
def arctanUnit (p num den : Nat) : Int :=
  if 5 * num ≤ 2 * den then arctanSmall p num den
  else (halfPi p : Int) / 2 - arctanSmall p (den - num) (den + num)

/-- The inverse tangent of `num / den`. -/
def arctan (p num den : Nat) : Int :=
  if num ≤ den then arctanUnit p num den else halfPi p - arctanUnit p den num

/-- The natural logarithm of `units` units, which is not zero: the power of two nearest in ratio is
split off, and the rest is a hyperbolic series. -/
def ln (p units : Nat) : Int :=
  let bits := units.log2
  let exponent := if 1 <<< (2 * bits + 1) < units * units then bits + 1 else bits
  let power := 1 <<< exponent
  let distance := if units < power then power - units else units - power
  let y := distance <<< p / (units + power)
  let square := (y * y) >>> p
  let series := 2 * oddSeries false (fun w => (w * square) >>> p) p 1 y
  (if units < power then -series else series) + ((exponent : Int) - 1074) * lnTwo p

/-- The exponential of `z / 2 ^ p` as a value from one to two and a power of two. -/
def exponential (p : Nat) (z : Int) : Nat × Int :=
  let two := lnTwo p
  let k := z.fdiv two
  (exponentialTaylor p (z - k * two).toNat p 1 (1 <<< p), k)

/-- The quarter turns in an angle of `units` units and the angle left over. -/
def quarterTurns (p units : Nat) : Nat × Nat :=
  let extra := units.log2 - 1074 + 8
  let turn := halfPi (p + extra)
  let angle := units <<< (p + extra) / unitsPerOne
  (angle / turn % 4, (angle % turn) >>> extra)

/-- Sine and cosine of an angle below a quarter turn. -/
def sineCosine (p angle : Nat) : Int × Int :=
  let square := (angle * angle) >>> p
  (alternatingTaylor p square p 1 angle, alternatingTaylor p square p 0 (1 <<< p))

/-- Sine and cosine of `units` units. -/
def sineCosineOf (p units : Nat) : Int × Int :=
  let (turns, angle) := quarterTurns p units
  let (s, c) := sineCosine p angle
  match turns with
  | 0 => (s, c)
  | 1 => (c, -s)
  | 2 => (-s, -c)
  | _ => (-c, s)

end Fixed

end BrickFormula.Binary64
