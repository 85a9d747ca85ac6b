import BrickFormula.Proofs.Binary64.Rounding

/-!
# Zero products

A product can be zero without a zero among its factors, when its exact magnitude is at most half of
the smallest positive one; and it is not zero, but not-a-number, when only one factor is zero and the
other one is an infinity or not-a-number.

    isZero_nearest_iff     what is rounded to zero
    conjoinable x y        neither of the two happens
    isZero_mul_iff         then a product is zero just when one of its factors is, and only then
-/

namespace BrickFormula.Binary64

/-! ## Rounding to zero -/

section
variable {num den : Nat}

theorem roundHalfEven_eq_zero_iff (hden : 0 < den) : roundHalfEven num den = 0 ↔ 2 * num ≤ den := by
  have hdecomp := Nat.div_add_mod num den
  have hlt := Nat.mod_lt num hden
  unfold roundHalfEven
  simp only
  rcases Nat.eq_zero_or_pos (num / den) with hzero | hpos
  · rw [hzero, Nat.mul_zero, Nat.zero_add] at hdecomp
    rw [hzero, hdecomp]
    split
    · omega
    · split <;> omega
  · -- a whole part is not rounded away
    have hle : den ≤ num := (Nat.div_pos_iff.mp hpos).2
    split
    · omega
    · split <;> omega

theorem roundUnits_eq_zero_iff (hden : 0 < den) : roundUnits num den = 0 ↔ 2 * num ≤ den := by
  have hspacing := spacing_pos num den
  unfold roundUnits
  rw [Nat.mul_eq_zero, or_iff_left (Nat.ne_of_gt hspacing),
    roundHalfEven_eq_zero_iff (Nat.mul_pos hden hspacing)]
  by_cases hzero : num / den = 0
  · have hone : spacing num den = 1 := by
      unfold spacing
      rw [hzero]
      rfl
    rw [hone, Nat.mul_one]
  · -- the whole part is a spacing at least, so that neither side holds
    have hle : spacing num den ≤ num / den := calc
      spacing num den ≤ 2 ^ (num / den).log2 := Nat.pow_le_pow_right Nat.two_pos (Nat.sub_le _ _)
      _ ≤ num / den := Nat.log2_self_le hzero
    have hnum : den * spacing num den ≤ num :=
      Nat.le_trans (Nat.mul_le_mul_left den hle) (Nat.mul_div_le num den)
    have hden' : den ≤ den * spacing num den := Nat.le_mul_of_pos_right den hspacing
    omega

/-- **A ratio is rounded to zero up to half a unit.** -/
theorem isZero_nearest_iff (negative : Bool) (hden : 0 < den) :
    (nearest negative num den).isZero = true ↔ 2 * num ≤ den := by
  rw [← roundUnits_eq_zero_iff hden]
  unfold nearest
  split
  · exact beq_iff_eq
  · next hlarge =>
    refine iff_of_false Bool.false_ne_true fun hzero => hlarge ?_
    rw [hzero]
    exact representable_zero

end

/-! ## Products -/

/-- Nonzero factors have a product of more than half a unit, and a zero one stands beside a finite
number. -/
def conjoinable : Binary64 → Binary64 → Bool
  | .finite _ a _, .finite _ b _ => a = 0 || b = 0 || unitsPerOne < 2 * (a * b)
  | x, y => !x.isZero && !y.isZero

theorem conjoinable_of_not_finite {x y : Binary64} (h : (x.isFinite && y.isFinite) = false) :
    x.conjoinable y = (!x.isZero && !y.isZero) := by
  cases x <;> cases y <;> first | rfl | cases h

/-- A product with a number that is not finite is not finite. -/
theorem isZero_mul_of_not_finite {x y : Binary64} (h : (x.isFinite && y.isFinite) = false) :
    (x * y).isZero = false := by
  cases x with
  | nan => rfl
  | infinity s =>
    cases y with
    | nan => rfl
    | infinity t => rfl
    | finite t b hb =>
      show (if b = 0 then nan else infinity (s != t)).isZero = false
      split <;> rfl
  | finite s a ha =>
    cases y with
    | nan => rfl
    | infinity t =>
      show (if a = 0 then nan else infinity (t != s)).isZero = false
      split <;> rfl
    | finite t b hb => cases h

theorem isZero_mul_finite (s t : Bool) {a b : Nat} (ha : Representable a) (hb : Representable b) :
    (finite s a ha * finite t b hb).isZero = true ↔ 2 * (a * b) ≤ unitsPerOne := by
  rw [finite_mul_finite]
  exact isZero_nearest_iff _ unitsPerOne_pos

/-- **A product is zero for its factors** if and only if these are conjoinable. -/
theorem isZero_mul_iff (x y : Binary64) :
    (x * y).isZero = (x.isZero || y.isZero) ↔ x.conjoinable y = true := by
  cases hfinite : x.isFinite && y.isFinite with
  | false =>
    rw [isZero_mul_of_not_finite hfinite, conjoinable_of_not_finite hfinite, ← Bool.not_or,
      Bool.not_eq_true', eq_comm]
  | true =>
    obtain ⟨s, a, ha, rfl⟩ : ∃ s a ha, x = finite s a ha := by
      cases x with
      | finite s a ha => exact ⟨s, a, ha, rfl⟩
      | _ => cases hfinite
    obtain ⟨t, b, hb, rfl⟩ : ∃ t b hb, y = finite t b hb := by
      cases y with
      | finite t b hb => exact ⟨t, b, hb, rfl⟩
      | _ => cases hfinite
    have hproduct : a = 0 ∨ b = 0 → a * b = 0 := Nat.mul_eq_zero.mpr
    rw [Bool.eq_iff_iff, isZero_mul_finite]
    simp only [isZero, conjoinable, Bool.or_eq_true, beq_iff_eq, decide_eq_true_eq]
    by_cases hzero : a = 0 ∨ b = 0
    · rw [hproduct hzero]
      exact iff_of_true (iff_of_true (Nat.zero_le _) hzero) (.inl hzero)
    · rw [iff_false_right hzero, or_iff_right hzero, Nat.not_le]

end BrickFormula.Binary64
