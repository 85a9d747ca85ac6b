import BrickFormula.Proofs.Binary64.WholeParts
import BrickFormula.MathFunction

/-!
# Remainders

The remainder of truncated division is a number for all numbers, so nothing is rounded.  The remainder
of the formula language adds the divisor to it in two cases, which makes no error either where whole
numbers of 53 bits are concerned.  It is the one of the sign of the divisor, except that a negative
divisor gives itself, and not zero, for its positive multiples.

    LiesAt.remainder       the truncated remainder is exact
    IsModulo a b m         `m` is the remainder of `a` and `b` in the formula language
    modulo_eq              the cases of the function, by the signs of whole numbers
    modulo_exact           it gives this remainder
-/

namespace BrickFormula

namespace Binary64

section
variable {x y : Binary64} {p q : Int}

theorem signed_tmod (s t : Bool) (a b : Nat) :
    (signed s a).tmod (signed t b) = signed s (a % b) := by
  have hmod : (a : Int).tmod b = (a % b : Nat) := rfl
  cases s <;> cases t <;>
    simp only [signed, Int.neg_tmod, Int.tmod_neg, hmod, if_true, if_false, Bool.false_eq_true]

theorem finite_remainder_finite (s t : Bool) {a b : Nat} (ha : Representable a)
    (hb : Representable b) :
    (finite s a ha).remainder (finite t b hb) = if b = 0 then nan else nearest s (a % b) 1 := by
  rw [Binary64.remainder]

/-- **The remainder of truncated division is exact.** -/
theorem LiesAt.remainder (hx : x.LiesAt p) (hy : y.LiesAt q) (hq : q ≠ 0) :
    (x.remainder y).LiesAt (p.tmod q) := by
  obtain ⟨s, a, ha, rfl, rfl⟩ := hx.exists_finite
  obtain ⟨t, b, hb, rfl, rfl⟩ := hy.exists_finite
  have hne : b ≠ 0 := by
    rintro rfl
    exact hq (by cases t <;> rfl)
  have hround : roundUnits (a % b) 1 = a % b := roundUnits_of_onGrid (onGrid_mod ha.2 hb.2)
  have hsmall : roundUnits (a % b) 1 < unitBound :=
    hround.symm ▸ Nat.lt_of_le_of_lt (Nat.mod_le a b) ha.1
  have hlies := liesAt_nearest s Nat.one_pos hsmall
  rw [hround] at hlies
  rwa [finite_remainder_finite, if_neg hne, signed_tmod]

theorem LiesAt.isZero_iff (hx : x.LiesAt p) : x.isZero = true ↔ p = 0 := by
  rw [← position_eq_zero_iff, hx.1, Option.some_inj]

end

/-! ## Whole numbers -/

section
variable {x y : Binary64} {a b : Int}

theorem LiesAt.remainder_whole (hx : x.LiesAt (a * unitsPerOne)) (hy : y.LiesAt (b * unitsPerOne))
    (hb : b ≠ 0) : (x.remainder y).LiesAt (a.tmod b * unitsPerOne) := by
  have hpos : (0 : Int) < unitsPerOne := Int.natCast_pos.mpr unitsPerOne_pos
  have hlies := hx.remainder hy (Int.mul_ne_zero hb (Int.ne_of_gt hpos))
  rwa [Int.mul_comm a, Int.mul_comm b, Int.mul_tmod_mul_of_pos _ _ hpos, Int.mul_comm] at hlies

/-- A sum of whole numbers that stays within 53 bits is exact. -/
theorem LiesAt.add_whole (hx : x.LiesAt (a * unitsPerOne)) (hy : y.LiesAt (b * unitsPerOne))
    (h : (a + b).natAbs ≤ 2 ^ 53) : (x + y).LiesAt ((a + b) * unitsPerOne) := by
  have hsum := liesAt_ofInt h
  rw [Int.add_mul] at hsum ⊢
  exact hx.add_exact hy hsum

end

end Binary64

/-! ## The remainder of the formula language -/

namespace MathFunction
open Binary64

/-- The remainder of `a` and `b` that has the sign of `b` or is zero, where a negative `b` stands in for
zero if `a` is positive. -/
structure IsModulo (a b m : Int) : Prop where
  dvd_sub : b ∣ a - m
  positive : 0 < b → 0 ≤ m ∧ m < b
  negative : b < 0 → b ≤ m ∧ m ≤ 0
  eq_divisor_iff : m = b ↔ b < 0 ∧ 0 < a ∧ b ∣ a

section
variable {a b : Int}

/-- The size of a truncated remainder, its sign, and when it is zero. -/
theorem tmod_bounds (a : Int) (hb : b ≠ 0) :
    b ∣ a - a.tmod b ∧ (a.tmod b).natAbs < b.natAbs ∧ (0 ≤ a → 0 ≤ a.tmod b) ∧
      (a ≤ 0 → a.tmod b ≤ 0) ∧ (a.tmod b = 0 ↔ b ∣ a) := by
  refine ⟨Int.dvd_self_sub_tmod, ?_, fun h => Int.tmod_nonneg b h, fun h => ?_,
    Int.dvd_iff_tmod_eq_zero.symm⟩
  · rw [Int.natAbs_tmod]
    exact Nat.mod_lt _ (Int.natAbs_pos.mpr hb)
  · have hneg := Int.tmod_nonneg b (Int.neg_nonneg_of_nonpos h)
    rw [Int.neg_tmod] at hneg
    omega

theorem isModulo_zero (hb : b ≠ 0) : IsModulo 0 b 0 :=
  ⟨⟨0, by omega⟩, fun _ => by omega, fun _ => by omega, by omega⟩

/-- Where the truncated remainder has the right sign, it is left alone. -/
theorem isModulo_tmod (h : 0 < b ∧ 0 ≤ a.tmod b ∨ b < 0 ∧ a < 0) : IsModulo a b (a.tmod b) := by
  obtain ⟨hdvd, hsize, hnonneg, hnonpos, -⟩ := tmod_bounds a (b := b) (by omega)
  exact ⟨hdvd, by omega, by omega, by omega⟩

/-- Elsewhere it is shifted by the divisor, also from zero if the divisor is negative. -/
theorem isModulo_tmod_add (h : 0 < b ∧ a.tmod b < 0 ∨ b < 0 ∧ 0 < a) :
    IsModulo a b (a.tmod b + b) := by
  obtain ⟨hdvd, hsize, hnonneg, hnonpos, hzero⟩ := tmod_bounds a (b := b) (by omega)
  refine ⟨?_, by omega, by omega, ?_⟩
  · rw [← Int.sub_sub]
    exact Int.dvd_sub hdvd (Int.dvd_refl b)
  · rw [← hzero]
    omega

end

section
variable {x y : Binary64} {a b : Int}

/-- The cases of the function, which ask for signs and zeros only. -/
theorem modulo_eq (hx : x.LiesAt (a * unitsPerOne)) (hy : y.LiesAt (b * unitsPerOne)) (hb : b ≠ 0) :
    modulo x y =
      if a = 0 then x
      else if 0 < b then (if a.tmod b < 0 then x.remainder y + y else x.remainder y) + zero
      else if 0 < a then x.remainder y + y
      else x.remainder y := by
  have hzero (n : Int) : n * unitsPerOne = 0 ↔ n = 0 := by
    rw [Int.mul_eq_zero, or_iff_left (Int.ne_of_gt (Int.natCast_pos.mpr unitsPerOne_pos))]
  have hpos (n : Int) : 0 < n * unitsPerOne ↔ 0 < n := by
    have hlt := whole_lt_iff 0 n
    rwa [Int.zero_mul] at hlt
  have hneg (n : Int) : n * unitsPerOne < 0 ↔ n < 0 := by
    have hlt := whole_lt_iff n 0
    rwa [Int.zero_mul] at hlt
  unfold modulo
  simp only [Bool.or_eq_true, hx.isZero_iff, hy.isZero_iff, liesAt_zero.lt_iff hx,
    liesAt_zero.lt_iff hy, (hx.remainder_whole hy hb).lt_iff liesAt_zero, hzero, hpos, hneg,
    or_iff_left hb]

/-- The result lies at the place of a remainder: no sum leaves the whole numbers of 53 bits. -/
theorem exists_isModulo (hx : x.LiesAt (a * unitsPerOne)) (hy : y.LiesAt (b * unitsPerOne))
    (hsmall : b.natAbs ≤ 2 ^ 53) (hb : b ≠ 0) :
    ∃ m, (modulo x y).LiesAt (m * unitsPerOne) ∧ IsModulo a b m := by
  have hrest := hx.remainder_whole hy hb
  obtain ⟨-, hsize, hnonneg, hnonpos, -⟩ := tmod_bounds a hb
  have hzero : zero.LiesAt (0 * unitsPerOne) := by
    rw [Int.zero_mul]
    exact liesAt_zero
  rw [modulo_eq hx hy hb]
  split_ifs with hdividend hdivisor hnegative hpositive
  · exact ⟨a, hx, hdividend ▸ isModulo_zero hb⟩
  · have hsum := (hrest.add_whole hy (by omega)).add_whole hzero (by omega)
    rw [Int.add_zero] at hsum
    exact ⟨_, hsum, isModulo_tmod_add (.inl ⟨hdivisor, hnegative⟩)⟩
  · have hsum := hrest.add_whole hzero (by omega)
    rw [Int.add_zero] at hsum
    exact ⟨_, hsum, isModulo_tmod (.inl ⟨hdivisor, by omega⟩)⟩
  · exact ⟨_, hrest.add_whole hy (by omega), isModulo_tmod_add (.inr ⟨by omega, hpositive⟩)⟩
  · exact ⟨_, hrest, isModulo_tmod (.inr ⟨by omega, by omega⟩)⟩

/-- **The remainder of whole numbers is exact**, for every divisor of up to 53 bits: it is a whole
number that differs from the dividend by a multiple of the divisor and lies between zero and the
divisor, where it is zero only if that is positive or the dividend is not. -/
theorem modulo_exact (hx : x.Denotes a) (hy : y.Denotes b) (hsmall : b.natAbs ≤ 2 ^ 53)
    (hb : b ≠ 0) : ∃ m : Int, (modulo x y).Denotes m ∧ b ∣ a - m ∧
      (0 < b → 0 ≤ m ∧ m < b) ∧ (b < 0 → b ≤ m ∧ m ≤ 0) ∧
      (m = b ↔ b < 0 ∧ 0 < a ∧ b ∣ a) := by
  obtain ⟨p, hp, ha⟩ := hx
  obtain ⟨q, hq, hb'⟩ := hy
  rw [(eq_whole_iff_place ha a).mp rfl] at hp
  rw [(eq_whole_iff_place hb' b).mp rfl] at hq
  obtain ⟨m, hm, hmodulo⟩ := exists_isModulo hp hq hsmall hb
  exact ⟨m, denotes_whole hm, hmodulo.dvd_sub, hmodulo.positive, hmodulo.negative,
    hmodulo.eq_divisor_iff⟩

/-- A positive multiple of a negative divisor gives the divisor. -/
theorem modulo_exact_multiple :
    (ofInt 6).Denotes (6 : Int) ∧ (ofInt (-3)).Denotes (-3 : Int) ∧
      (modulo (ofInt 6) (ofInt (-3))).Denotes (-3 : Int) := by
  have hx := denotes_whole (liesAt_ofInt (n := 6) (by decide))
  have hy := denotes_whole (liesAt_ofInt (n := -3) (by decide))
  obtain ⟨m, hm, -, -, -, hdivisor⟩ := modulo_exact hx hy (by decide) (by decide)
  rw [hdivisor.mpr ⟨by decide, by decide, by decide⟩] at hm
  exact ⟨hx, hy, hm⟩

end

end MathFunction

end BrickFormula
