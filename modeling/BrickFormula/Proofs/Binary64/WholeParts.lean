import BrickFormula.Proofs.Binary64.Bounds

/-!
# Whole parts

Numbers are cut toward zero, and the result is limited to 32 bits.  What is left of a number without its
whole part is a number too, so the test for nearly whole numbers, which takes the whole part away and
compares the rest with a tolerance, makes no error of rounding.

    IsWholePart v n        `n` is the value `v` cut toward zero
    exists_isWholePart     the whole part of a finite number
    LiesAt.toInt32         the whole part within 32 bits
    isNearInteger_iff      which numbers are nearly whole
-/

namespace BrickFormula.Binary64

section
variable {x y : Binary64} {p q : Int} {units : Nat}

/-! ## Cut toward zero -/

theorem truncate_finite (negative : Bool) (h : Representable units) :
    (finite negative units h).truncate = (signed negative units).tdiv unitsPerOne := by
  cases negative with
  | false => exact Int.ofNat_tdiv units unitsPerOne
  | true =>
    have hdiv : (-(units : Int)).tdiv unitsPerOne = -((units / unitsPerOne : Nat) : Int) := by
      rw [Int.neg_tdiv, Int.ofNat_tdiv]
    exact hdiv.symm

/-- The whole part within 32 bits. -/
theorem toInt32_of_isFinite (h : x.isFinite = true) :
    x.toInt32 = max leastInt32 (min greatestInt32 x.truncate) := by
  cases x with
  | finite => rfl
  | _ => cases h

theorem LiesAt.toInt32 (h : x.LiesAt p) :
    x.toInt32 = max leastInt32 (min greatestInt32 (p.tdiv unitsPerOne)) := by
  obtain ⟨negative, units, hr, rfl, rfl⟩ := h.exists_finite
  rw [toInt32_of_isFinite rfl, truncate_finite]

/-- Numbers that are not negative are cut to their whole part. -/
theorem LiesAt.toInt32_eq (h : x.LiesAt p) (hlow : 0 ≤ p) (hhigh : p / unitsPerOne ≤ greatestInt32) :
    x.toInt32 = p / unitsPerOne := by
  have hnonneg : 0 ≤ p / unitsPerOne := Int.ediv_nonneg hlow (Int.natCast_nonneg _)
  have hleast : leastInt32 = -2147483648 := rfl
  rw [h.toInt32, Int.tdiv_eq_ediv_of_nonneg hlow]
  omega

/-- The value cut toward zero. -/
def IsWholePart (v : ℚ) (n : Int) : Prop := |(n : ℚ)| ≤ |v| ∧ |v| < |(n : ℚ)| + 1 ∧ 0 ≤ n * v

theorem IsWholePart.neg {v : ℚ} {n : Int} (h : IsWholePart v n) : IsWholePart (-v) (-n) := by
  unfold IsWholePart at *
  push_cast
  rwa [abs_neg, abs_neg, neg_mul_neg]

/-- The whole part of a magnitude. -/
theorem isWholePart_magnitude (units : Nat) :
    IsWholePart (units / unitsPerOne) (units / unitsPerOne : Nat) := by
  have hlow := Nat.div_mul_le_self units unitsPerOne
  have hhigh := Nat.lt_mul_of_div_lt (Nat.lt_succ_self (units / unitsPerOne)) unitsPerOne_pos
  have hpart : (0 : ℚ) ≤ (units / unitsPerOne : Nat) := Nat.cast_nonneg _
  have hle : ((units / unitsPerOne : Nat) : ℚ) ≤ units / unitsPerOne := by
    rw [le_div_iff₀ unitsPerOne_cast_pos]
    exact_mod_cast hlow
  have hlt : (units / unitsPerOne : ℚ) < (units / unitsPerOne : Nat) + 1 := by
    rw [div_lt_iff₀ unitsPerOne_cast_pos]
    exact_mod_cast hhigh
  unfold IsWholePart
  rw [Int.cast_natCast, abs_of_nonneg hpart, abs_of_nonneg (hpart.trans hle)]
  exact ⟨hle, hlt, mul_nonneg hpart (hpart.trans hle)⟩

/-- The whole part of a finite number. -/
theorem exists_isWholePart (h : x.isFinite = true) : ∃ v, x.Denotes v ∧ IsWholePart v x.truncate := by
  obtain ⟨p, hp⟩ := exists_liesAt h
  obtain ⟨negative, units, hr, rfl, rfl⟩ := hp.exists_finite
  have hpart := isWholePart_magnitude units
  refine ⟨signed negative units / unitsPerOne,
    ⟨_, hp, div_mul_cancel₀ _ (ne_of_gt unitsPerOne_cast_pos)⟩, ?_⟩
  cases negative with
  | false => exact hpart
  | true =>
    have hvalue : ((signed true units : Int) : ℚ) / unitsPerOne = -(units / unitsPerOne) := by
      rw [← neg_div, show signed true units = -(units : Int) from rfl, Int.cast_neg, Int.cast_natCast]
    rw [hvalue]
    exact hpart.neg

/-! ## Nearly whole numbers -/

/-- A remainder of magnitudes fits in 53 significant bits too. -/
theorem onGrid_mod {a b : Nat} (ha : OnGrid a) (hb : OnGrid b) : OnGrid (a % b) := by
  rcases Nat.eq_zero_or_pos b with rfl | hpos
  · rwa [Nat.mod_zero]
  -- it is a multiple of the lesser spacing and no greater than the number with that spacing
  rcases Nat.le_total (a.log2 - 52) (b.log2 - 52) with hle | hle
  · refine onGrid_of_dvd (k := a.log2) ?_ (log2_mono (Nat.mod_le a b))
    exact (Nat.dvd_mod_iff (Nat.dvd_trans (Nat.pow_dvd_pow 2 hle) (hb.dvd (Nat.le_refl _)))).mpr
      (ha.dvd (Nat.le_refl _))
  · refine onGrid_of_dvd (k := b.log2) ?_ (log2_mono (Nat.le_of_lt (Nat.mod_lt a hpos)))
    exact (Nat.dvd_mod_iff (hb.dvd (Nat.le_refl _))).mpr
      (Nat.dvd_trans (Nat.pow_dvd_pow 2 hle) (ha.dvd (Nat.le_refl _)))

/-- Nothing is rounded when the whole part is taken away. -/
theorem LiesAt.sub_whole (h : x.LiesAt units) (hsmall : units / unitsPerOne ≤ 2 ^ 53) :
    (x - ofInt (units / unitsPerOne : Nat)).LiesAt (units % unitsPerOne : Nat) := by
  have hunits := h.2
  rw [Int.natAbs_natCast] at hunits
  have hwhole := (liesAt_ofInt (n := (units / unitsPerOne : Nat)) (by rwa [Int.natAbs_natCast])).neg
  have hplace : (units : Int) + -((units / unitsPerOne : Nat) * unitsPerOne : Int) =
      (units % unitsPerOne : Nat) := by
    have hdecomp := Nat.div_add_mod units unitsPerOne
    rw [Nat.mul_comm] at hdecomp
    omega
  have hone := liesAt_one.onGrid
  rw [Int.natAbs_natCast] at hone
  have hgrid : OnGrid (units % unitsPerOne) := onGrid_mod (by simpa using h.onGrid) hone
  have hrest : (finite false (units % unitsPerOne) ⟨Nat.lt_of_le_of_lt (Nat.mod_le _ _) hunits,
      hgrid⟩).LiesAt (units % unitsPerOne : Nat) := liesAt_finite false _
  rw [← hplace] at hrest ⊢
  exact h.add_exact hwhole hrest

/-- A magnitude beyond 32 bits is one or more above the limit. -/
theorem LiesAt.le_sub_limit (h : x.LiesAt units) (hlarge : 2 ^ 31 * unitsPerOne ≤ units) :
    ∃ r : Int, (x - ofInt greatestInt32).LiesAt r ∧ unitsPerOne ≤ r := by
  have hwhole := (liesAt_ofInt (n := greatestInt32) (by decide)).neg
  rw [show greatestInt32 * unitsPerOne = 2147483647 * (unitsPerOne : Int) from rfl] at hwhole
  obtain ⟨hr, hle, -⟩ := h.add_between hwhole liesAt_one h (by omega) (by omega)
  exact ⟨_, hr, hle⟩

/-- The test for nearly whole numbers, on places. -/
theorem isNearInteger_iff_place (hx : x.LiesAt p) (hy : y.LiesAt q) (hone : q ≤ unitsPerOne) :
    x.isNearInteger y = true ↔
      p.natAbs < 2 ^ 31 * unitsPerOne ∧ (p.natAbs % unitsPerOne : Nat) < q := by
  have habs := hx.abs
  generalize p.natAbs = units at *
  have hpos : (0 : Int) < unitsPerOne := Int.natCast_pos.mpr unitsPerOne_pos
  have hgreatest : greatestInt32 = 2147483647 := rfl
  unfold isNearInteger
  by_cases hlarge : 2 ^ 31 * unitsPerOne ≤ units
  · have hcut : x.abs.toInt32 = greatestInt32 := by
      have hquotient : (2 ^ 31 : Int) ≤ units / unitsPerOne :=
        (Int.le_ediv_iff_mul_le hpos).mpr (by exact_mod_cast hlarge)
      have hleast : leastInt32 = -2147483648 := rfl
      rw [habs.toInt32, Int.tdiv_eq_ediv_of_nonneg (Int.natCast_nonneg _)]
      omega
    obtain ⟨r, hr, hle⟩ := habs.le_sub_limit hlarge
    rw [hcut, hr.lt_iff hy]
    omega
  · have hquotient : units / unitsPerOne < 2 ^ 31 :=
      (Nat.div_lt_iff_lt_mul unitsPerOne_pos).mpr (Nat.lt_of_not_le hlarge)
    have hcast : ((units / unitsPerOne : Nat) : Int) = units / unitsPerOne := Int.natCast_ediv _ _
    rw [habs.toInt32_eq (Int.natCast_nonneg _) (by omega), ← hcast,
      (habs.sub_whole (by omega)).lt_iff hy]
    exact ⟨fun hless => ⟨Nat.lt_of_not_le hlarge, hless⟩, And.right⟩

/-- **Which numbers are nearly whole**: those whose magnitude is less than the tolerance above a whole
number of 31 bits. -/
theorem isNearInteger_iff {v e : ℚ} (hx : x.Denotes v) (hy : y.Denotes e) (hone : e ≤ 1) :
    x.isNearInteger y = true ↔ ∃ m : Nat, m < 2 ^ 31 ∧ (m : ℚ) ≤ |v| ∧ |v| < m + e := by
  obtain ⟨p, hp, hv⟩ := hx
  obtain ⟨q, hq, he⟩ := hy
  have hmagnitude : |v| * unitsPerOne = p.natAbs := by
    rw [← abs_of_pos unitsPerOne_cast_pos, ← abs_mul, hv, Nat.cast_natAbs, Int.cast_abs]
  have hqone : q ≤ unitsPerOne := by
    have hle := mul_le_mul_of_nonneg_right hone (le_of_lt unitsPerOne_cast_pos)
    rw [he, one_mul] at hle
    exact_mod_cast hle
  rw [isNearInteger_iff_place hp hq hqone]
  generalize p.natAbs = units at *
  have hbetween (m : Nat) : ((m : ℚ) ≤ |v| ∧ |v| < m + e) ↔
      m * unitsPerOne ≤ units ∧ (units : Int) < m * unitsPerOne + q := by
    rw [← mul_le_mul_iff_of_pos_right unitsPerOne_cast_pos,
      ← mul_lt_mul_iff_of_pos_right unitsPerOne_cast_pos, add_mul, hmagnitude, he]
    norm_cast
  have hpos := unitsPerOne_pos
  have hdecomp := Nat.div_add_mod' units unitsPerOne
  simp only [hbetween]
  constructor
  · rintro ⟨hlt, hrest⟩
    exact ⟨units / unitsPerOne, (Nat.div_lt_iff_lt_mul hpos).mpr hlt, by omega, by omega⟩
  · rintro ⟨m, hm, hle, hlt⟩
    have hnext : (m + 1) * unitsPerOne ≤ 2 ^ 31 * unitsPerOne := Nat.mul_le_mul_right _ hm
    rw [Nat.add_mul, Nat.one_mul] at hnext
    have hquotient : units / unitsPerOne = m := Nat.div_eq_of_lt_le hle (by
      rw [Nat.add_mul]
      omega)
    rw [hquotient] at hdecomp
    omega

end

end BrickFormula.Binary64
