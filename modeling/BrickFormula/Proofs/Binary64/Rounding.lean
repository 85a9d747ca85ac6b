import BrickFormula.Value
import Mathlib.Algebra.Group.Nat.Defs

/-!
# Bounds of rounded results

Rounding does not cross a power of two, since powers of two are representable.  So a result that is
exactly below a power of two stays below it when it is rounded, and is finite if the power is not
too large.

    roundUnits_le, le_roundUnits    powers of two bound the rounded unit count
    representable_roundUnits        what is rounded is representable
    Within x k                      `x` is finite and its magnitude is at most two to the `k`
    within_nearest                  so is the number nearest to a ratio
    Within.of_isNearInteger         and so is a number near a whole one
-/

namespace BrickFormula.Binary64

/-! ## Whole numbers -/

section
variable {num den q : Nat}

theorem roundHalfEven_le (hden : 0 < den) (h : num ≤ den * q) : roundHalfEven num den ≤ q := by
  have hquotient : num / den ≤ q := Nat.div_le_of_le_mul h
  have hdecomp := Nat.div_add_mod num den
  unfold roundHalfEven
  simp only
  rcases Nat.eq_or_lt_of_le hquotient with heq | hlt
  · -- nothing remains, so nothing is rounded up
    have hzero : num % den = 0 := by
      rw [heq] at hdecomp
      omega
    rw [hzero, if_pos (by omega)]
    exact hquotient
  · split
    · exact hquotient
    · split <;> omega

theorem le_roundHalfEven (hden : 0 < den) (h : den * q ≤ num) : q ≤ roundHalfEven num den := by
  have hquotient : q ≤ num / den := (Nat.le_div_iff_mul_le hden).mpr (Nat.mul_comm q den ▸ h)
  unfold roundHalfEven
  simp only
  split
  · exact hquotient
  · split <;> omega

end

/-! ## Unit counts -/

section
variable {num den k : Nat}

theorem pow_lt_unitBound (hk : k < 2098) : 2 ^ k < unitBound := by
  unfold unitBound
  generalize 2098 = m at *
  exact Nat.pow_lt_pow_right Nat.one_lt_two hk

theorem spacing_pos (num den : Nat) : 0 < spacing num den := Nat.two_pow_pos _

theorem spacing_dvd (h : (num / den).log2 ≤ k) : spacing num den ∣ 2 ^ k :=
  Nat.pow_dvd_pow 2 (Nat.le_trans (Nat.sub_le _ _) h)

theorem roundUnits_le (hden : 0 < den) (h : num ≤ den * 2 ^ k) : roundUnits num den ≤ 2 ^ k := by
  have hquotient : num / den ≤ 2 ^ k := Nat.div_le_of_le_mul h
  have hlog : (num / den).log2 ≤ k := by
    by_cases hzero : num / den = 0
    · rw [hzero]
      exact Nat.zero_le k
    · exact (Nat.pow_le_pow_iff_right Nat.one_lt_two).mp
        (Nat.le_trans (Nat.log2_self_le hzero) hquotient)
  obtain ⟨c, hc⟩ := spacing_dvd hlog
  have hround : roundHalfEven num (den * spacing num den) ≤ c := by
    apply roundHalfEven_le (Nat.mul_pos hden (spacing_pos num den))
    rwa [Nat.mul_assoc, ← hc]
  calc roundUnits num den ≤ c * spacing num den := Nat.mul_le_mul_right _ hround
    _ = 2 ^ k := by rw [hc, Nat.mul_comm]

theorem le_roundUnits (hden : 0 < den) (h : den * 2 ^ k ≤ num) : 2 ^ k ≤ roundUnits num den := by
  have hquotient : 2 ^ k ≤ num / den := (Nat.le_div_iff_mul_le hden).mpr (Nat.mul_comm _ den ▸ h)
  have hne : num / den ≠ 0 := Nat.ne_of_gt (Nat.lt_of_lt_of_le (Nat.two_pow_pos k) hquotient)
  have hlog : k ≤ (num / den).log2 := (Nat.le_log2 hne).mpr hquotient
  obtain ⟨c, hc⟩ := spacing_dvd (Nat.le_refl (num / den).log2)
  have hround : c ≤ roundHalfEven num (den * spacing num den) := by
    apply le_roundHalfEven (Nat.mul_pos hden (spacing_pos num den))
    rw [Nat.mul_assoc, ← hc]
    exact Nat.le_trans (Nat.mul_le_mul_left den (Nat.log2_self_le hne)) (Nat.mul_div_le num den)
  calc 2 ^ k ≤ 2 ^ (num / den).log2 := Nat.pow_le_pow_right Nat.two_pos hlog
    _ = c * spacing num den := by rw [hc, Nat.mul_comm]
    _ ≤ roundUnits num den := Nat.mul_le_mul_right _ hround

/-- What is rounded fits in 53 significant bits: it has the spacing of the power of two below it, or is
the next power itself. -/
theorem roundUnits_mod (hden : 0 < den) :
    roundUnits num den % 2 ^ ((roundUnits num den).log2 - 52) = 0 := by
  apply Nat.mod_eq_zero_of_dvd
  have hnext : num ≤ den * 2 ^ ((num / den).log2 + 1) :=
    Nat.le_of_lt (Nat.mul_comm _ den ▸ (Nat.div_lt_iff_lt_mul hden).mp Nat.lt_log2_self)
  rcases Nat.eq_or_lt_of_le (roundUnits_le hden hnext) with heq | hlt
  · rw [heq, Nat.log2_two_pow]
    exact Nat.pow_dvd_pow 2 (Nat.sub_le _ _)
  · have hlog : (roundUnits num den).log2 ≤ (num / den).log2 := by
      by_cases hzero : roundUnits num den = 0
      · rw [hzero]
        exact Nat.zero_le _
      · exact Nat.le_of_lt_succ ((Nat.log2_lt hzero).mpr hlt)
    exact Nat.dvd_trans (Nat.pow_dvd_pow 2 (Nat.sub_le_sub_right hlog 52)) (Nat.dvd_mul_left _ _)

/-- **What is rounded is representable**, if it is not too large. -/
theorem representable_roundUnits (hden : 0 < den) (h : num ≤ den * 2 ^ k) (hk : k < 2098) :
    Representable (roundUnits num den) :=
  ⟨Nat.lt_of_le_of_lt (roundUnits_le hden h) (pow_lt_unitBound hk), roundUnits_mod hden⟩

end

/-! ## Numbers below a power of two -/

theorem unitsPerOne_mul_pow (k : Nat) : unitsPerOne * 2 ^ k = 2 ^ (1074 + k) := by
  unfold unitsPerOne
  generalize 1074 = m
  exact (Nat.pow_add 2 m k).symm

theorem unitsPerOne_pos : 0 < unitsPerOne := by
  unfold unitsPerOne
  generalize 1074 = m
  exact Nat.two_pow_pos m

theorem unitsPerOne_mul_pow_zero : unitsPerOne * 2 ^ 0 = unitsPerOne := by
  rw [Nat.pow_zero, Nat.mul_one]

/-- The number is finite and its magnitude is at most `2 ^ k`. -/
def Within (x : Binary64) (k : Nat) : Prop :=
  ∃ negative units h, x = .finite negative units h ∧ units ≤ unitsPerOne * 2 ^ k

theorem natAbs_signed (negative : Bool) (units : Nat) : (signed negative units).natAbs = units := by
  cases negative <;> simp [signed]

section
variable {x y : Binary64} {k : Nat}

/-- The number nearest to a ratio of units. -/
theorem within_nearest (negative : Bool) {num den : Nat} (hden : 0 < den)
    (h : num ≤ den * (unitsPerOne * 2 ^ k)) (hk : k < 1024) :
    (nearest negative num den).Within k := by
  rw [unitsPerOne_mul_pow] at h
  have hr := representable_roundUnits hden h (by omega)
  refine ⟨negative, roundUnits num den, hr, ?_, ?_⟩
  · unfold nearest
    rw [dif_pos hr]
  · rw [unitsPerOne_mul_pow]
    exact roundUnits_le hden h

theorem within_signedZero (negative : Bool) : (signedZero negative).Within k := by
  refine ⟨negative, 0, representable_zero, rfl, ?_⟩
  exact Nat.zero_le _

theorem within_ofInt {n : Int} (hn : n.natAbs ≤ 2 ^ k) (hk : k < 1024) : (ofInt n).Within k := by
  unfold ofInt ofRatio
  apply within_nearest _ Nat.one_pos _ hk
  calc n.natAbs * unitsPerOne ≤ 2 ^ k * unitsPerOne := Nat.mul_le_mul_right _ hn
    _ = 1 * (unitsPerOne * 2 ^ k) := by rw [Nat.one_mul, Nat.mul_comm]

theorem within_one : one.Within 0 := within_ofInt (Nat.le_refl _) (by omega)

theorem Within.neg (h : x.Within k) : (-x).Within k := by
  obtain ⟨negative, units, hr, rfl, hu⟩ := h
  exact ⟨!negative, units, hr, rfl, hu⟩

theorem Within.mono {j : Nat} (h : x.Within j) (hjk : j ≤ k) : x.Within k := by
  obtain ⟨negative, units, hr, rfl, hu⟩ := h
  exact ⟨negative, units, hr, rfl,
    Nat.le_trans hu (Nat.mul_le_mul_left _ (Nat.pow_le_pow_right Nat.two_pos hjk))⟩

theorem Within.add (hx : x.Within k) (hy : y.Within k) (hk : k + 1 < 1024) :
    (x + y).Within (k + 1) := by
  obtain ⟨s, a, hr, rfl, ha⟩ := hx
  obtain ⟨t, b, hr', rfl, hb⟩ := hy
  have hsum : (signed s a + signed t b).natAbs ≤ a + b := by
    have := Int.natAbs_add_le (signed s a) (signed t b)
    rwa [natAbs_signed, natAbs_signed] at this
  show (if signed s a + signed t b = 0 then _ else nearest _ _ 1).Within (k + 1)
  split
  · exact within_signedZero _
  · apply within_nearest _ Nat.one_pos _ hk
    rw [Nat.one_mul, Nat.pow_succ, ← Nat.mul_assoc]
    omega

theorem Within.sub (hx : x.Within k) (hy : y.Within k) (hk : k + 1 < 1024) :
    (x - y).Within (k + 1) := hx.add hy.neg hk

theorem finite_mul_finite (s t : Bool) {a b : Nat} (ha : Representable a) (hb : Representable b) :
    finite s a ha * finite t b hb = nearest (s != t) (a * b) unitsPerOne := by
  show mul _ _ = _
  rw [mul]

/-- The product with a number between minus one and one. -/
theorem Within.mul (hx : x.Within 0) (hy : y.Within k) (hk : k < 1024) : (x * y).Within k := by
  obtain ⟨s, a, hr, rfl, ha⟩ := hx
  obtain ⟨t, b, hr', rfl, hb⟩ := hy
  rw [unitsPerOne_mul_pow_zero] at ha
  rw [finite_mul_finite]
  exact within_nearest _ unitsPerOne_pos (Nat.mul_le_mul ha hb) hk

end

/-! ## Numbers near whole ones -/

theorem toInt32_natAbs_le (x : Binary64) : x.toInt32.natAbs ≤ 2 ^ 31 := by
  have hrange (n : Int) : (max leastInt32 (min greatestInt32 n)).natAbs ≤ 2 ^ 31 := by
    unfold leastInt32 greatestInt32
    omega
  cases x with
  | nan => exact Nat.zero_le _
  | infinity negative => cases negative <;> decide
  | finite negative units h => exact hrange _

theorem lt_of_lt_le {x y z : Binary64} (hxy : x.lt y = true) (hyz : y.le z = true) :
    x.lt z = true := by
  unfold lt le at *
  cases hx : x.position <;> cases hy : y.position <;> cases hz : z.position <;> simp_all
  omega

theorem position_one : one.position = some (unitsPerOne : Int) := by decide +kernel

/-- Rounding does not get below a power of two, not even where it overflows. -/
theorem le_position_nearest {num k : Nat} (h : unitsPerOne * 2 ^ k ≤ num) (hk : k < 1024) :
    ∃ p, (nearest false num 1).position = some p ∧ (unitsPerOne * 2 ^ k : Nat) ≤ p := by
  rw [unitsPerOne_mul_pow] at h ⊢
  unfold nearest
  split
  · refine ⟨roundUnits num 1, rfl, Int.ofNat_le.mpr (le_roundUnits Nat.one_pos ?_)⟩
    rwa [Nat.one_mul]
  · exact ⟨unitBound, rfl, Int.ofNat_le.mpr (Nat.le_of_lt (pow_lt_unitBound (by omega)))⟩

theorem nearest_not_lt_one {num : Nat} (h : unitsPerOne ≤ num) :
    (nearest false num 1).lt one = false := by
  rw [← unitsPerOne_mul_pow_zero] at h
  obtain ⟨p, hp, hle⟩ := le_position_nearest h (by omega)
  rw [unitsPerOne_mul_pow_zero] at hle
  unfold lt
  rw [hp, position_one]
  exact decide_eq_false (Int.not_lt.mpr hle)

theorem infinity_not_lt_one : (infinity false).lt one = false := by
  have hle : unitsPerOne ≤ unitBound := by
    rw [← unitsPerOne_mul_pow_zero, unitsPerOne_mul_pow]
    exact Nat.le_of_lt (pow_lt_unitBound (by omega))
  unfold lt
  rw [position_one]
  exact decide_eq_false (Int.not_lt.mpr (Int.ofNat_le.mpr hle))

theorem position_zero : zero.position = some 0 := by decide

theorem zero_not_le_infinity : zero.le (infinity true) = false := by
  have hpos : 0 < unitBound := Nat.zero_lt_of_lt (pow_lt_unitBound (k := 0) (by omega))
  have hplace : (infinity true).position = some (-(unitBound : Int)) := rfl
  unfold le
  rw [position_zero, hplace]
  exact decide_eq_false (Int.not_le.mpr (Int.neg_neg_of_pos (Int.natCast_pos.mpr hpos)))

/-- A number from zero up to one. -/
theorem within_of_lt_one {x : Binary64} (hzero : zero.le x = true) (hone : x.lt one = true) :
    x.Within 0 := by
  cases x with
  | nan => cases hone
  | infinity negative =>
    cases negative
    · exact absurd (infinity_not_lt_one.symm.trans hone) nofun
    · exact absurd (zero_not_le_infinity.symm.trans hzero) nofun
  | finite negative units h =>
    refine ⟨negative, units, h, rfl, ?_⟩
    rw [unitsPerOne_mul_pow_zero]
    unfold le lt at *
    rw [position_zero] at hzero
    rw [position_one] at hone
    have hge : 0 ≤ signed negative units := of_decide_eq_true hzero
    have hlt : signed negative units < unitsPerOne := of_decide_eq_true hone
    have habs := natAbs_signed negative units
    omega

/-- Adding a number to a positive one that is greater by one or more. -/
theorem finite_add_of_lt {s : Bool} {a b : Nat} (ha : Representable a) (hb : Representable b)
    (h : b + unitsPerOne ≤ a) :
    ∃ n, finite false a ha + finite s b hb = nearest false n 1 ∧ unitsPerOne ≤ n := by
  have hpos := unitsPerOne_pos
  have hsum : 0 < signed false a + signed s b ∧
      unitsPerOne ≤ (signed false a + signed s b).natAbs := by
    cases s <;> simp [signed] <;> omega
  refine ⟨(signed false a + signed s b).natAbs, ?_, hsum.2⟩
  show add _ _ = _
  rw [add, if_neg (Int.ne_of_gt hsum.1), decide_eq_false (Int.lt_asymm hsum.1)]

/-- **A number near a whole one is small**, since whole numbers are cut to 32 bits. -/
theorem Within.of_isNearInteger {x tolerance : Binary64} (htolerance : tolerance.le one = true)
    (h : x.isNearInteger tolerance = true) : x.Within 32 := by
  have hlt : (x.abs - ofInt x.abs.toInt32).lt one = true := lt_of_lt_le h htolerance
  obtain ⟨s, b, hr, hwhole, hb⟩ : (ofInt x.abs.toInt32).Within 31 :=
    within_ofInt (toInt32_natAbs_le _) (by omega)
  rw [hwhole] at hlt
  cases x with
  | nan => cases hlt
  | infinity negative => exact absurd (infinity_not_lt_one.symm.trans hlt) nofun
  | finite negative units hx =>
    refine ⟨negative, units, hx, rfl, Nat.le_of_not_lt fun hgt => ?_⟩
    have hfar : b + unitsPerOne ≤ units := by
      have := unitsPerOne_pos
      omega
    obtain ⟨n, hn, hone⟩ := finite_add_of_lt (s := !s) hx hr hfar
    have hlt' : (nearest false n 1).lt one = true := hn ▸ hlt
    rw [nearest_not_lt_one hone] at hlt'
    cases hlt'

end BrickFormula.Binary64
