import BrickFormula.Binary64.Decimal
import BrickFormula.Proofs.Binary64.Rounding

/-!
# Decimals read back

Reading a decimal gives the number nearest to its exact value, however large or small its exponent
is, so two decimals of one value read as the same number.  Every finite number has a decimal that
reads back to it, the exact one if no shorter one does, and this is the one that is written.

    roundUnits_mul_right         rounding depends on the ratio only
    nearest_units                a representable number of units is nearest to itself
    ofDecimal_eq_nearest         the number that a decimal reads as
    ofDecimal_mul_pow            zeros at the end of the coefficient count as in the exponent
    number_shortestDecimal       the decimal that is written reads back
    ofInt_whole                  whole numbers of 53 bits are exact
-/

namespace BrickFormula.Binary64

/-! ## Ratios -/

section
variable {num den num' den' k : Nat}

theorem roundHalfEven_mul_right (hk : 0 < k) :
    roundHalfEven (num * k) (den * k) = roundHalfEven num den := by
  have hleft : 2 * (num % den * k) < den * k ↔ 2 * (num % den) < den := by
    rw [← Nat.mul_assoc]
    exact Nat.mul_lt_mul_right hk
  have hright : den * k < 2 * (num % den * k) ↔ den < 2 * (num % den) := by
    rw [← Nat.mul_assoc]
    exact Nat.mul_lt_mul_right hk
  unfold roundHalfEven
  simp only [Nat.mul_div_mul_right num den hk, Nat.mul_mod_mul_right, hleft, hright]

theorem spacing_mul_right (hk : 0 < k) : spacing (num * k) (den * k) = spacing num den := by
  unfold spacing
  rw [Nat.mul_div_mul_right num den hk]

theorem roundUnits_mul_right (hk : 0 < k) :
    roundUnits (num * k) (den * k) = roundUnits num den := by
  unfold roundUnits
  rw [spacing_mul_right hk, Nat.mul_right_comm den k, roundHalfEven_mul_right hk]

theorem nearest_mul_right (negative : Bool) (hk : 0 < k) :
    nearest negative (num * k) (den * k) = nearest negative num den := by
  unfold nearest
  simp only [roundUnits_mul_right hk]

/-- Equal ratios have the same nearest number. -/
theorem nearest_congr (negative : Bool) (hden : 0 < den) (hden' : 0 < den')
    (h : num * den' = num' * den) : nearest negative num den = nearest negative num' den' :=
  calc nearest negative num den = nearest negative (num * den') (den * den') :=
        (nearest_mul_right negative hden').symm
    _ = nearest negative (num' * den) (den' * den) := by rw [h, Nat.mul_comm den den']
    _ = nearest negative num' den' := nearest_mul_right negative hden

end

/-! ## Exact results -/

theorem roundHalfEven_mul_self {q den : Nat} (hden : 0 < den) : roundHalfEven (q * den) den = q := by
  unfold roundHalfEven
  simp only [Nat.mul_mod_left, Nat.mul_div_cancel q hden, Nat.mul_zero, if_pos hden]

/-- A representable number of units is a multiple of the spacing around it. -/
theorem roundUnits_one {units : Nat} (h : Representable units) : roundUnits units 1 = units := by
  have hspacing : spacing units 1 = Nat.pow 2 (units.log2 - 52) := by
    unfold spacing
    rw [Nat.div_one]
  obtain ⟨q, hq⟩ := Nat.dvd_of_mod_eq_zero h.2
  unfold roundUnits
  rw [hspacing, Nat.one_mul]
  generalize Nat.pow 2 (units.log2 - 52) = s at hq
  subst hq
  rcases Nat.eq_zero_or_pos s with rfl | hs
  · rw [Nat.mul_zero, Nat.zero_mul]
  · rw [Nat.mul_comm s q, roundHalfEven_mul_self hs]

theorem nearest_units (negative : Bool) {units k : Nat} (h : Representable units) (hk : 0 < k) :
    nearest negative (units * k) k = .finite negative units h := by
  have hone : nearest negative (units * k) (1 * k) = nearest negative units 1 :=
    nearest_mul_right negative hk
  rw [Nat.one_mul] at hone
  rw [hone]
  unfold nearest
  simp only [roundUnits_one h, h, dif_pos]

/-! ## Results out of range -/

/-- Less than half a unit is rounded to zero. -/
theorem nearest_eq_signedZero (negative : Bool) {num den : Nat} (h : 2 * num < den) :
    nearest negative num den = signedZero negative := by
  have hquotient : num / den = 0 := Nat.div_eq_of_lt (by omega)
  have hspacing : spacing num den = 1 := by
    unfold spacing
    rw [hquotient]
    rfl
  have hround : roundUnits num den = 0 := by
    unfold roundUnits roundHalfEven
    simp only [hspacing, Nat.mul_one, Nat.mod_eq_of_lt (show num < den by omega), if_pos h,
      hquotient]
  unfold nearest signedZero
  simp only [hround, representable_zero, dif_pos]

theorem nearest_zero (negative : Bool) {den : Nat} (hden : 0 < den) :
    nearest negative 0 den = signedZero negative :=
  nearest_eq_signedZero negative (by omega)

/-- From the bound on, numbers are rounded to the infinity. -/
theorem nearest_eq_infinity (negative : Bool) {num den : Nat} (hden : 0 < den)
    (h : den * unitBound ≤ num) : nearest negative num den = .infinity negative := by
  have hround : unitBound ≤ roundUnits num den := by
    unfold unitBound at *
    generalize 2098 = m at *
    exact le_roundUnits hden h
  unfold nearest
  rw [dif_neg fun hr => Nat.not_lt.mpr hround hr.1]

/-! ## Reading -/

/-- A power of ten is at least three binary digits. -/
theorem pow_eight_le (k : Nat) : 2 ^ (3 * k) ≤ 10 ^ k := by
  rw [Nat.pow_mul]
  exact Nat.pow_le_pow_left (by decide) k

/-- Coefficients are not too small for large exponents. -/
theorem unitBound_le_of_exponent {c e : Nat} (hc : c ≠ 0) (he : 400 < e) :
    unitBound ≤ c * 10 ^ e * unitsPerOne := by
  unfold unitBound
  generalize hm : 2098 = m
  calc 2 ^ m ≤ 2 ^ (1074 + 3 * e) := Nat.pow_le_pow_right Nat.two_pos (by omega)
    _ = 2 ^ (3 * e) * unitsPerOne := by rw [← unitsPerOne_mul_pow, Nat.mul_comm]
    _ ≤ 10 ^ e * unitsPerOne := Nat.mul_le_mul_right _ (pow_eight_le e)
    _ ≤ c * 10 ^ e * unitsPerOne :=
        Nat.mul_le_mul_right _ (Nat.le_mul_of_pos_left _ (Nat.pos_of_ne_zero hc))

/-- Coefficients are not too large for small exponents. -/
theorem lt_of_exponent {c m : Nat} (hm : 400 + c.log2 < m) :
    2 * (c * unitsPerOne) < 10 ^ m := by
  have hc : c < 2 ^ (c.log2 + 1) := Nat.lt_log2_self
  calc 2 * (c * unitsPerOne) < 2 * (2 ^ (c.log2 + 1) * unitsPerOne) :=
        Nat.mul_lt_mul_of_pos_left (Nat.mul_lt_mul_of_pos_right hc unitsPerOne_pos) Nat.two_pos
    _ = 2 ^ (1074 + (c.log2 + 1) + 1) := by
        rw [Nat.mul_comm _ unitsPerOne, unitsPerOne_mul_pow, Nat.mul_comm, ← Nat.pow_succ]
    _ ≤ 2 ^ (3 * m) := Nat.pow_le_pow_right Nat.two_pos (by omega)
    _ ≤ 10 ^ m := pow_eight_le m

/-- **A decimal reads as the number nearest to its value.**  The shortcuts for exponents far out of
range do not change the result. -/
theorem ofDecimal_eq_nearest (negative : Bool) (c : Nat) (e : Int) :
    ofDecimal negative c e =
      nearest negative (c * 10 ^ e.toNat * unitsPerOne) (10 ^ (-e).toNat) := by
  unfold ofDecimal
  by_cases hc : c = 0
  · rw [if_pos hc, hc, Nat.zero_mul, Nat.zero_mul, nearest_zero _ (Nat.pow_pos (by decide))]
  rw [if_neg hc]
  by_cases hlarge : 400 < e
  · have hneg : (-e).toNat = 0 := by omega
    rw [if_pos hlarge, hneg, Nat.pow_zero, nearest_eq_infinity _ Nat.one_pos]
    rw [Nat.one_mul]
    exact unitBound_le_of_exponent hc (by omega)
  rw [if_neg hlarge]
  by_cases hsmall : e + c.log2 < -400
  · have hpos : e.toNat = 0 := by omega
    rw [if_pos hsmall, hpos, Nat.pow_zero, Nat.mul_one, nearest_eq_signedZero]
    exact lt_of_exponent (by omega)
  rw [if_neg hsmall]
  by_cases hsign : 0 ≤ e
  · have hneg : (-e).toNat = 0 := by omega
    rw [if_pos hsign, hneg]
    rfl
  · have hpos : e.toNat = 0 := by omega
    rw [if_neg hsign, hpos, Nat.pow_zero, Nat.mul_one]
    rfl

/-- Two decimals of one value read alike. -/
theorem ofDecimal_mul_pow (negative : Bool) (c k : Nat) (e : Int) :
    ofDecimal negative (c * 10 ^ k) e = ofDecimal negative c (e + k) := by
  rw [ofDecimal_eq_nearest, ofDecimal_eq_nearest]
  apply nearest_congr negative (Nat.pow_pos (by decide)) (Nat.pow_pos (by decide))
  have hexponents : k + e.toNat + (-(e + k)).toNat = (e + k).toNat + (-e).toNat := by omega
  generalize unitsPerOne = u
  calc c * 10 ^ k * 10 ^ e.toNat * u * 10 ^ (-(e + k)).toNat
      = c * u * (10 ^ k * 10 ^ e.toNat * 10 ^ (-(e + k)).toNat) := by ac_rfl
    _ = c * u * (10 ^ (e + k).toNat * 10 ^ (-e).toNat) := by
        rw [← Nat.pow_add, ← Nat.pow_add, hexponents, Nat.pow_add]
    _ = c * 10 ^ (e + k).toNat * u * 10 ^ (-e).toNat := by ac_rfl

/-! ## Writing -/

/-- The number that a decimal reads as. -/
def Decimal.number (negative : Bool) (d : Decimal) : Binary64 :=
  ofDecimal negative d.coefficient d.exponent

theorem number_exactDecimal (negative : Bool) {units : Nat} (h : Representable units) :
    (exactDecimal units).number negative = .finite negative units h := by
  unfold Decimal.number exactDecimal
  rw [ofDecimal_eq_nearest]
  have hvalue : units * Nat.pow 5 1074 * 10 ^ (-1074 : Int).toNat * unitsPerOne =
      units * 10 ^ (-(-1074) : Int).toNat := by
    have hexponent : (-1074 : Int).toNat = 0 ∧ (-(-1074) : Int).toNat = 1074 := ⟨rfl, rfl⟩
    rw [hexponent.1, hexponent.2, Nat.pow_zero, Nat.mul_one]
    unfold unitsPerOne
    generalize 1074 = m
    calc units * 5 ^ m * 2 ^ m = units * (5 * 2) ^ m := by rw [Nat.mul_assoc, ← Nat.mul_pow]
      _ = units * 10 ^ m := rfl
  rw [hvalue]
  exact nearest_units negative h (Nat.pow_pos (by decide))

theorem number_stripZeros (negative : Bool) (fuel : Nat) (d : Decimal) :
    (stripZeros fuel d).number negative = d.number negative := by
  induction fuel generalizing d with
  | zero => rfl
  | succ fuel ih =>
    unfold stripZeros
    split
    · next hzero =>
      rw [ih]
      have hcoefficient : d.coefficient / 10 * 10 ^ 1 = d.coefficient :=
        Nat.div_mul_cancel (Nat.dvd_of_mod_eq_zero hzero.2)
      have hmove := ofDecimal_mul_pow negative (d.coefficient / 10) 1 d.exponent
      rw [hcoefficient] at hmove
      exact hmove.symm
    · rfl

/-- What the search finds reads back, since the exact expansion does. -/
theorem number_searchShortest {negative : Bool} {x : Binary64} {exact : Decimal}
    (h : exact.number negative = x) (fuel digits : Nat) :
    (searchShortest negative x exact fuel digits).number negative = x := by
  induction fuel generalizing digits with
  | zero => exact h
  | succ fuel ih =>
    unfold searchShortest
    split
    · next d hd =>
      have hreads : readsAs negative x d = true := List.find?_some hd
      exact of_decide_eq_true hreads
    · exact ih (digits + 1)

/-- **The decimal that is written reads back.** -/
theorem number_shortestDecimal (negative : Bool) {units : Nat} (h : Representable units) :
    (shortestDecimal negative units h).number negative = .finite negative units h := by
  unfold shortestDecimal
  rw [number_stripZeros]
  exact number_searchShortest (number_exactDecimal negative h) 17 1

/-! ## Whole numbers -/

section
variable {n : Nat}

theorem representable_whole (h : n < 2 ^ 53) : Representable (n * unitsPerOne) := by
  have hlt : n * unitsPerOne < 2 ^ (1074 + 53) := by
    rw [← unitsPerOne_mul_pow, Nat.mul_comm]
    exact Nat.mul_lt_mul_of_pos_left h unitsPerOne_pos
  refine ⟨Nat.lt_of_lt_of_le hlt (Nat.le_of_lt (pow_lt_unitBound (by omega))),
    Nat.mod_eq_zero_of_dvd ?_⟩
  have hlog : (n * unitsPerOne).log2 - 52 ≤ 1074 + 0 := by
    by_cases hzero : n * unitsPerOne = 0
    · rw [hzero]
      exact Nat.zero_le _
    · have hbits := (Nat.log2_lt hzero).mpr hlt
      omega
  have hspacing : 2 ^ ((n * unitsPerOne).log2 - 52) ∣ unitsPerOne * 2 ^ 0 := by
    rw [unitsPerOne_mul_pow]
    generalize 1074 + 0 = m at hlog ⊢
    exact Nat.pow_dvd_pow 2 hlog
  rw [unitsPerOne_mul_pow_zero] at hspacing
  exact Nat.dvd_mul_left_of_dvd hspacing n

/-- The whole number, exactly. -/
def whole (n : Nat) (h : n < 2 ^ 53) : Binary64 :=
  .finite false (n * unitsPerOne) (representable_whole h)

/-- **Whole numbers are exact.** -/
theorem ofInt_whole (h : n < 2 ^ 53) : ofInt n = whole n h := by
  have hexact := nearest_units false (representable_whole h) Nat.one_pos
  rw [Nat.mul_one] at hexact
  exact hexact

theorem one_eq_whole : one = whole 1 (by decide) := ofInt_whole (by decide)

theorem isFinite_one : one.isFinite = true := by
  rw [one_eq_whole]
  rfl

theorem isZero_one : one.isZero = false := by
  rw [one_eq_whole]
  exact beq_false_of_ne (Nat.mul_ne_zero Nat.one_ne_zero (Nat.ne_of_gt unitsPerOne_pos))

theorem zero_ne_one : zero ≠ one := by
  intro heq
  have hzero : zero.isZero = false := heq ▸ isZero_one
  cases hzero

theorem ofDecimal_whole (h : n < 2 ^ 53) : ofDecimal false n 0 = whole n h := by
  have hexact := nearest_units false (representable_whole h) Nat.one_pos
  rw [ofDecimal_eq_nearest]
  change nearest false (n * 1 * unitsPerOne) 1 = _
  rw [Nat.mul_one] at hexact ⊢
  exact hexact

/-- Whole numbers within the 32-bit range stay what they are. -/
theorem toInt32_whole (h : n < 2 ^ 31) :
    (whole n (Nat.lt_trans h (by decide))).toInt32 = n := by
  have htruncate : (whole n (Nat.lt_trans h (by decide))).truncate = n :=
    congrArg Nat.cast (Nat.mul_div_cancel n unitsPerOne_pos)
  have hgreatest : greatestInt32 = 2147483647 := rfl
  have hleast : leastInt32 = -2147483648 := rfl
  show max leastInt32 (min greatestInt32 (whole n _).truncate) = n
  rw [htruncate]
  omega

end

end BrickFormula.Binary64
