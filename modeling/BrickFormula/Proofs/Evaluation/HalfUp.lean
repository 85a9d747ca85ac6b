import BrickFormula.Proofs.Binary64.Halves
import BrickFormula.Proofs.Evaluation.Operands

/-!
# Rounding halves up

The rounding function is meant to give the nearest whole number, and the greater one of two.  It adds
a half, and the sum is rounded before its whole part is taken.  So it misses by one for the number
below a half and for the odd whole numbers of 53 bits; everywhere else in the 64-bit range it is right.

    IsHalfUp v n         `n` is the whole number nearest to `v`, the greater one of two
    MissesHalf v         adding a half to `v` leads too far
    isHalfUp_iff         the nearest whole number is the whole part of the sum with a half
    roundHalfUp_of_liesAt    what is computed inside the 64-bit range
    round_nearest        rounding gives the nearest whole number, or the one after it
-/

namespace BrickFormula

namespace Binary64

/-- The whole number nearest to a value, the greater one of two. -/
def IsHalfUp (v : ℚ) (n : Int) : Prop := (n : ℚ) - 1 / 2 ≤ v ∧ v < n + 1 / 2

/-- The value is the one below a half, or an odd whole number of 53 bits. -/
def MissesHalf (v : ℚ) : Prop :=
  v = 1 / 2 - 1 / 2 ^ 54 ∨ ∃ n : Int, n % 2 = 1 ∧ 2 ^ 52 < n.natAbs ∧ n.natAbs < 2 ^ 53 ∧ v = n

/-- Whole numbers are their own nearest ones. -/
theorem IsHalfUp.eq_of_whole {n m : Int} (h : IsHalfUp m n) : n = m := by
  obtain ⟨hlow, hhigh⟩ := h
  have hle : n < m + 1 := by
    rw [← Int.cast_lt (R := ℚ)]
    push_cast
    linarith
  have hge : m < n + 1 := by
    rw [← Int.cast_lt (R := ℚ)]
    push_cast
    linarith
  omega

section
variable {x : Binary64} {v : ℚ} {p n : Int} {j : Nat}

/-- **The nearest whole number is the whole part of the exact sum with a half.** -/
theorem isHalfUp_iff (hunits : unitsPerOne = 2 ^ (j + 1)) (hv : v * unitsPerOne = p) (n : Int) :
    IsHalfUp v n ↔ (p + (2 ^ j : Nat)) / (2 ^ (j + 1) : Nat) = n := by
  have hpos : (0 : ℚ) < 2 ^ j := by positivity
  have hplace : v * (2 * 2 ^ j) = p := by
    rw [← hv, hunits, Nat.pow_succ']
    push_cast
    rfl
  rw [Int.ediv_eq_iff_of_pos (Int.natCast_pos.mpr (Nat.two_pow_pos _)), ← Int.cast_le (R := ℚ),
    ← Int.cast_lt (R := ℚ), Nat.pow_succ']
  push_cast
  rw [← hplace]
  clear hunits hv hplace
  generalize (2 : ℚ) ^ j = h at hpos
  have hlow : (n : ℚ) * (2 * h) ≤ v * (2 * h) + h ↔ (n - 1 / 2) * (2 * h) ≤ v * (2 * h) := by
    constructor <;> intro hle <;> linarith
  have hhigh : v * (2 * h) + h < n * (2 * h) + 2 * h ↔ v * (2 * h) < (n + 1 / 2) * (2 * h) := by
    constructor <;> intro hlt <;> linarith
  rw [hlow, hhigh, mul_le_mul_iff_of_pos_right (by linarith), mul_lt_mul_iff_of_pos_right (by linarith)]
  rfl

/-- The value below a half has the place below that of a half. -/
theorem below_half_iff (hj : 53 ≤ j) (hunits : unitsPerOne = 2 ^ (j + 1)) (hv : v * unitsPerOne = p) :
    v = 1 / 2 - 1 / 2 ^ 54 ↔ p + (2 ^ (j - 53) : Nat) = (2 ^ j : Nat) := by
  obtain ⟨i, rfl⟩ := Nat.exists_eq_add_of_le' hj
  rw [Nat.add_sub_cancel, ← Int.cast_inj (α := ℚ)]
  push_cast
  rw [← hv, ← mul_left_inj' (ne_of_gt unitsPerOne_cast_pos), hunits]
  push_cast
  have hplace : (1 / 2 - 1 / 2 ^ 54 : ℚ) * 2 ^ (i + 53 + 1) = 2 ^ (i + 53) - 2 ^ i := by
    ring
  rw [hplace, eq_sub_iff_add_eq]

/-- **Adding a half leads too far from the places of these values.** -/
theorem missesHalf_iff (hj : 53 ≤ j) (hunits : unitsPerOne = 2 ^ (j + 1)) (hx : x.LiesAt p)
    (hv : v * unitsPerOne = p) : MissesHalf v ↔ Overshoots j p := by
  refine or_congr (below_half_iff hj hunits hv) (exists_congr fun n => ?_)
  rw [eq_whole_iff_place hv, ← hunits]
  refine and_congr_right fun hodd => and_congr_right fun _ => and_iff_right_of_imp ?_
  rintro rfl
  have hgrid := hx.onGrid
  rw [Int.natAbs_mul, Int.natAbs_natCast, hunits] at hgrid
  exact lt_of_onGrid_odd hgrid (by omega)

end

end Binary64

/-! ## The function -/

namespace MathFunction
open Binary64

section
variable {x : Binary64} {p : Int} {j : Nat}

/-- A half is exact, and its place is a power of two. -/
theorem exists_half : ∃ j, 53 ≤ j ∧ unitsPerOne = 2 ^ (j + 1) ∧ half.LiesAt (2 ^ j : Nat) := by
  obtain ⟨j, hj⟩ : ∃ j, 1073 = j := ⟨_, rfl⟩
  have hunits : unitsPerOne = 2 ^ (j + 1) := hj ▸ unitsPerOne_eq_pow
  have hbound : 2 ^ j < unitBound := pow_lt_unitBound (by omega)
  have hexact := nearest_units false ⟨hbound, onGrid_two_pow j⟩ Nat.two_pos
  refine ⟨j, by omega, hunits, ?_⟩
  have hhalf : half = nearest false (2 ^ j * 2) 2 := by
    unfold half ofRatio
    rw [hunits, Nat.pow_succ, decide_eq_false (by decide), Int.natAbs_one, Nat.one_mul]
  rw [hhalf, hexact]
  exact liesAt_finite false _

theorem liesAt_longLimit : longLimit.LiesAt (2 ^ 63 * unitsPerOne) := by
  have hlies := liesAt_ofInt_two_pow (k := 63) (by omega)
  rwa [Nat.cast_pow] at hlies

theorem liesAt_neg_longLimit : longLimit.neg.LiesAt (-(2 ^ 63 * unitsPerOne)) := liesAt_longLimit.neg

/-- Inside the 64-bit range a half is added. -/
theorem roundHalfUp_of_between (h : x.LiesAt p) (hlow : -2 ^ 63 * unitsPerOne < p)
    (hhigh : p < 2 ^ 63 * unitsPerOne) : roundHalfUp x = ofInt (x + half).floorInt := by
  have hnan : ¬ x.isNaN = true := by
    obtain ⟨negative, units, hr, rfl, -⟩ := h.exists_finite
    exact Bool.false_ne_true
  have hmost : ¬ longLimit.le x = true := fun hle => by
    have := (liesAt_longLimit.le_iff h).mp hle
    omega
  have hleast : ¬ x.le longLimit.neg = true := fun hle => by
    have := (h.le_iff liesAt_neg_longLimit).mp hle
    omega
  unfold roundHalfUp
  rw [if_neg hnan, if_neg hmost, if_neg hleast]

/-- A number inside the range is finite. -/
theorem exists_liesAt_of_between (hnan : ¬ x.isNaN = true) (hmost : ¬ longLimit.le x = true)
    (hleast : ¬ x.le longLimit.neg = true) : ∃ p, x.LiesAt p := by
  cases x with
  | nan => exact absurd rfl hnan
  | infinity negative =>
    cases negative with
    | false => exact absurd (le_of_lt_true liesAt_longLimit.lt_infinity) hmost
    | true => exact absurd (le_of_lt_true liesAt_neg_longLimit.infinity_lt) hleast
  | finite negative units hr => exact ⟨_, liesAt_finite negative hr⟩

/-- **The sum with a half is rounded, and then its whole part is taken.** -/
theorem roundHalfUp_of_liesAt (hunits : unitsPerOne = 2 ^ (j + 1)) (hhalf : half.LiesAt (2 ^ j : Nat))
    (h : x.LiesAt p) (hlow : -2 ^ 63 * unitsPerOne < p) (hhigh : p < 2 ^ 63 * unitsPerOne) :
    ∃ n : Int, n = rounded (p + (2 ^ j : Nat)) / unitsPerOne ∧ roundHalfUp x = ofInt n ∧
      (ofInt n).LiesAt (n * unitsPerOne) := by
  have hpos : (0 : Int) < unitsPerOne := Int.natCast_pos.mpr unitsPerOne_pos
  have hsmall : 2 ^ j ≤ unitsPerOne := hunits ▸ Nat.pow_le_pow_right Nat.two_pos (Nat.le_succ j)
  obtain ⟨hsum, hge, hle⟩ := h.add_between hhalf liesAt_neg_longLimit
    (liesAt_ofInt_two_pow (k := 64) (by omega)) (by omega) (by omega)
  refine ⟨_, rfl, ?_, liesAt_ofInt_of_onGrid ?_ ?_⟩
  · rw [roundHalfUp_of_between h hlow hhigh, hsum.floorInt]
  · have hgrid := onGrid_ediv hsum.onGrid
    rwa [Int.natAbs_mul, Int.natAbs_natCast] at hgrid
  · have hmost := Int.ediv_le_of_le_mul hpos hle
    have hleast : -2 ^ 63 ≤ rounded (p + (2 ^ j : Nat)) / unitsPerOne :=
      Int.le_ediv_of_mul_le hpos (by omega)
    refine Nat.lt_of_le_of_lt (whole_le_pow (k := 64) ?_) (pow_lt_unitBound (by omega))
    omega

/-- All results are finite: outside of the range they are its ends, and zero for not-a-number. -/
theorem isFinite_roundHalfUp (x : Binary64) : (roundHalfUp x).isFinite = true := by
  obtain ⟨j, -, hunits, hhalf⟩ := exists_half
  by_cases hnan : x.isNaN = true
  · unfold roundHalfUp
    rw [if_pos hnan]
    exact liesAt_zero.isFinite
  by_cases hmost : longLimit.le x = true
  · unfold roundHalfUp
    rw [if_neg hnan, if_pos hmost]
    exact liesAt_longLimit.isFinite
  by_cases hleast : x.le longLimit.neg = true
  · unfold roundHalfUp
    rw [if_neg hnan, if_neg hmost, if_pos hleast]
    exact liesAt_neg_longLimit.isFinite
  obtain ⟨p, hx⟩ := exists_liesAt_of_between hnan hmost hleast
  rw [liesAt_longLimit.le_iff hx] at hmost
  rw [hx.le_iff liesAt_neg_longLimit] at hleast
  obtain ⟨n, -, hround, hlies⟩ := roundHalfUp_of_liesAt hunits hhalf hx (by omega) (by omega)
  rw [hround]
  exact hlies.isFinite

/-- **Rounding gives the nearest whole number**, and the one after it where the half leads too far. -/
theorem roundHalfUp_nearest {v : ℚ} (h : x.Denotes v) (hlow : -2 ^ 63 < v) (hhigh : v < 2 ^ 63) :
    ∃ n : Int, roundHalfUp x = ofInt n ∧ (ofInt n).Denotes n ∧
      (¬ MissesHalf v → IsHalfUp v n) ∧ (MissesHalf v → IsHalfUp v (n - 1)) := by
  obtain ⟨p, hx, hv⟩ := h
  obtain ⟨j, hj, hunits, hhalf⟩ := exists_half
  have hleast := (whole_lt_iff_place hv (-2 ^ 63)).mp (by exact_mod_cast hlow)
  have hmost := (lt_whole_iff_place hv (2 ^ 63)).mp (by exact_mod_cast hhigh)
  obtain ⟨n, hn, hround, hlies⟩ := roundHalfUp_of_liesAt hunits hhalf hx hleast hmost
  rw [hunits] at hn
  refine ⟨n, hround, denotes_whole hlies, fun hright => ?_, fun hmiss => ?_⟩
  · rw [isHalfUp_iff hunits hv, hn]
    exact (ediv_rounded_half hj hx.onGrid (mt (missesHalf_iff hj hunits hx hv).mpr hright)).symm
  · have hnext := ediv_rounded_half_of_overshoots hj hx.onGrid
      ((missesHalf_iff hj hunits hx hv).mp hmiss)
    rw [isHalfUp_iff hunits hv, hn, hnext, Int.add_sub_cancel]

end
end MathFunction

namespace Formula
open Binary64 MathFunction

/-- A rounding node rounds the number of its first operand; zero if that is none. -/
theorem evaluate_round (env : Environment) (left right : Formula) :
    (node .function (some "ROUND") left right).evaluate env = do
      let x ← left.operand env
      let _ ← right.operand env
      return .number ((Value.toNumber? x).elim .zero roundHalfUp) := by
  rw [evaluate_call env (f := .round) (by decide)]
  refine bind_congr fun x => bind_congr fun y => ?_
  have happly : Call.apply env .round ⟨left, x⟩ ⟨right, y⟩ =
      pure (.number ((Value.toNumber? x).elim .zero roundHalfUp)) := by
    unfold Call.apply Call.applyNumbers Argument.number?
    cases Value.toNumber? x <;> rfl
  have hfinite : ((Value.toNumber? x).elim .zero roundHalfUp).isFinite = true := by
    cases Value.toNumber? x with
    | none => rfl
    | some z => exact isFinite_roundHalfUp z
  rw [happly, pure_bind, Datum.normalize_number hfinite]
  rfl

/-- **Rounding gives the nearest whole number, and the greater one of two**, for every number inside
the 64-bit range but the one below a half and the odd whole numbers of 53 bits: they are led to the
next whole number.  Whole numbers are given back otherwise. -/
theorem round_nearest (env : Environment) (left right : Formula) :
    ((node .function (some "ROUND") left right).evaluate env = do
      let x ← left.operand env
      let _ ← right.operand env
      return .number ((Value.toNumber? x).elim .zero roundHalfUp)) ∧
    ∀ (x : Binary64) (v : ℚ), x.Denotes v → -2 ^ 63 < v → v < 2 ^ 63 →
      ∃ n : Int, roundHalfUp x = ofInt n ∧ (ofInt n).Denotes n ∧
        (¬ MissesHalf v → IsHalfUp v n ∧ ∀ m : Int, v = m → n = m) ∧
        (MissesHalf v → IsHalfUp v (n - 1)) := by
  refine ⟨evaluate_round env left right, fun x v h hlow hhigh => ?_⟩
  obtain ⟨n, hround, hvalue, hright, hmiss⟩ := roundHalfUp_nearest h hlow hhigh
  refine ⟨n, hround, hvalue, fun hnot => ⟨hright hnot, ?_⟩, hmiss⟩
  rintro m rfl
  exact (hright hnot).eq_of_whole

/-- A half itself goes up to one. -/
theorem round_nearest_half :
    half.Denotes (1 / 2) ∧ ¬ MissesHalf (1 / 2) ∧ roundHalfUp half = ofInt 1 := by
  obtain ⟨j, -, hunits, hhalf⟩ := exists_half
  have hvalue : half.Denotes (1 / 2) := by
    refine ⟨_, hhalf, ?_⟩
    rw [hunits, Nat.pow_succ']
    push_cast
    ring
  have hright : ¬ MissesHalf (1 / 2) := by
    rintro (hbelow | ⟨n, hodd, -, -, hwhole⟩)
    · norm_num at hbelow
    · have hdouble : ((2 * n : Int) : ℚ) = (1 : Int) := by
        push_cast
        linarith
      have := Int.cast_inj.mp hdouble
      omega
  obtain ⟨-, hnearest⟩ := round_nearest (.bare {} fun _ => .zero) .empty .empty
  obtain ⟨n, hround, -, hright', -⟩ := hnearest half (1 / 2) hvalue (by norm_num) (by norm_num)
  obtain ⟨hlow, hhigh⟩ := (hright' hright).1
  have hle : n ≤ 1 := by
    exact_mod_cast (by linarith : (n : ℚ) ≤ 1)
  have hge : 0 < n := by
    exact_mod_cast (by linarith : (0 : ℚ) < n)
  obtain rfl : n = 1 := by omega
  exact ⟨hvalue, hright, hround⟩

/-- But an odd whole number of 53 bits goes up to the next one. -/
theorem roundHalfUp_odd :
    ¬ ∀ (x : Binary64) (v : ℚ), x.Denotes v → -2 ^ 63 < v → v < 2 ^ 63 →
      ∃ n : Int, (roundHalfUp x).Denotes n ∧ IsHalfUp v n := by
  intro h
  have hvalue : (ofInt 4503599627370497).Denotes 4503599627370497 := by
    exact_mod_cast denotes_whole (liesAt_ofInt (n := 4503599627370497) (by decide))
  have hmiss : MissesHalf 4503599627370497 :=
    .inr ⟨4503599627370497, by decide, by decide, by decide, by norm_num⟩
  obtain ⟨n, hn, hnearest⟩ := h _ _ hvalue (by norm_num) (by norm_num)
  obtain ⟨m, hround, hm, -, hprevious⟩ := roundHalfUp_nearest hvalue (by norm_num) (by norm_num)
  rw [hround] at hn
  have hwanted : n = 4503599627370497 := IsHalfUp.eq_of_whole (by exact_mod_cast hnearest)
  have hfound : m - 1 = 4503599627370497 :=
    IsHalfUp.eq_of_whole (by exact_mod_cast hprevious hmiss)
  have heq := Int.cast_inj.mp (hn.unique hm)
  omega

end Formula

end BrickFormula
