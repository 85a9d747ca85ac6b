/-!
# Binary64 numbers

A binary64 number is not-a-number, a signed infinity, or a sign with a whole number of
*units*, a unit being the smallest positive magnitude `2 ^ -1074`.  Every finite number is an
integer multiple of the unit, so exact arithmetic is integer arithmetic and each operation is
"compute exactly, then round once":

    roundUnits num den   the representable unit count nearest to num / den, ties to even
    nearest neg num den  the number with that many units, or the infinity when none is that large
-/

namespace BrickFormula

/-! ## Representable magnitudes -/

/-- The unit count of one. -/
def unitsPerOne : Nat := Nat.pow 2 1074

/-- Every unit count from here on is too large for a finite number. -/
def unitBound : Nat := Nat.pow 2 2098

/-- A unit count is representable when it is below the bound and fits in 53 significant bits. -/
def Representable (units : Nat) : Prop :=
  units < unitBound ∧ units % Nat.pow 2 (units.log2 - 52) = 0

instance (units : Nat) : Decidable (Representable units) :=
  inferInstanceAs (Decidable (_ ∧ _))

/-- A binary64 number; the two zeros differ in sign, and there is one not-a-number. -/
inductive Binary64 where
  | nan
  | infinity (negative : Bool)
  | finite (negative : Bool) (units : Nat) (representable : Representable units)
  deriving DecidableEq

namespace Binary64

/-! ## Rounding -/

/-- `num / den` to the nearest whole number, a half going to the even neighbour. -/
def roundHalfEven (num den : Nat) : Nat :=
  let quotient := num / den
  let remainder := num % den
  if 2 * remainder < den then quotient
  else if den < 2 * remainder then quotient + 1
  else quotient + quotient % 2

/-- The distance between neighbouring representable unit counts around `num / den`. -/
def spacing (num den : Nat) : Nat := Nat.pow 2 ((num / den).log2 - 52)

/-- The unit count with 53 significant bits nearest to `num / den`, ties to even. -/
def roundUnits (num den : Nat) : Nat :=
  roundHalfEven num (den * spacing num den) * spacing num den

/-- The number nearest to `num / den` units, with the given sign. -/
def nearest (negative : Bool) (num den : Nat) : Binary64 :=
  if h : Representable (roundUnits num den) then .finite negative (roundUnits num den) h
  else .infinity negative

/-- The number nearest to the ratio `num / den`. -/
def ofRatio (num : Int) (den : Nat) : Binary64 :=
  nearest (num < 0) (num.natAbs * unitsPerOne) den

/-- The number nearest to an integer. -/
def ofInt (n : Int) : Binary64 := ofRatio n 1

/-! ## Constants -/

theorem representable_zero : Representable 0 := by decide +kernel

/-- The zero with the given sign. -/
def signedZero (negative : Bool) : Binary64 := .finite negative 0 representable_zero

def zero : Binary64 := signedZero false

def one : Binary64 := ofInt 1

/-- The largest finite number, `(2 ^ 53 - 1) * 2 ^ 971`. -/
def greatest : Binary64 := ofInt ((Nat.pow 2 53 - 1) * Nat.pow 2 971 : Nat)

/-! ## Classification -/

def isNaN : Binary64 → Bool
  | .nan => true
  | _ => false

def isInfinite : Binary64 → Bool
  | .infinity _ => true
  | _ => false

def isFinite : Binary64 → Bool
  | .finite .. => true
  | _ => false

/-- True of both zeros. -/
def isZero : Binary64 → Bool
  | .finite _ units _ => units == 0
  | _ => false

/-- The sign, set for the negative zero and unset for not-a-number. -/
def isNegative : Binary64 → Bool
  | .nan => false
  | .infinity negative => negative
  | .finite negative _ _ => negative

/-! ## Order -/

/-- A finite number as a signed count of units. -/
def signed (negative : Bool) (units : Nat) : Int :=
  if negative then -(units : Int) else units

/-- The place of a number on the line of signed units: infinities lie just past the greatest
finite numbers, the two zeros share a place, and not-a-number has none. -/
def position : Binary64 → Option Int
  | .nan => none
  | .infinity negative => some (signed negative unitBound)
  | .finite negative units _ => some (signed negative units)

/-- Numeric comparison; false when either side is not-a-number. -/
def lt (a b : Binary64) : Bool :=
  match a.position, b.position with
  | some x, some y => x < y
  | _, _ => false

/-- Numeric comparison; false when either side is not-a-number. -/
def le (a b : Binary64) : Bool :=
  match a.position, b.position with
  | some x, some y => x ≤ y
  | _, _ => false

/-- Numeric equality: the zeros are equal and not-a-number equals nothing. -/
def eq (a b : Binary64) : Bool :=
  match a.position, b.position with
  | some x, some y => x == y
  | _, _ => false

/-- A total order: `-0.0` lies below `0.0`, and not-a-number above everything. -/
def order (a b : Binary64) : Ordering :=
  match a.position, b.position with
  | none, none => .eq
  | none, some _ => .gt
  | some _, none => .lt
  | some x, some y =>
    if x < y then .lt
    else if y < x then .gt
    else match a.isNegative, b.isNegative with
      | true, false => .lt
      | false, true => .gt
      | _, _ => .eq

end Binary64

end BrickFormula
