import BrickFormula.Proofs.Binary64.Order
import Mathlib.Logic.Function.Basic

/-!
# The total order of numbers

Every number has a rank, a whole number: numbers rank by their places on the line, of the two zeros
the negative one ranks lower, and not-a-number ranks highest.  The total order compares ranks, and so
it has the laws of the order of whole numbers; where numbers can be compared by size, it agrees.

    order_eq_ite         the total order compares ranks
    order_swap           seen from the other side, a comparison is turned around
    order_isLE_iff       below or equal is a matter of rank, so it is transitive and total
    order_of_lt          a smaller number is below
    order_nan            every number is below not-a-number
    rank_neg             negation turns the ranks around
-/

namespace BrickFormula.Binary64

/-! ## Ranks -/

/-- The rank of a number: twice its place, and one more without a minus sign.  Not-a-number ranks
above the infinity. -/
def rank (a : Binary64) : Int :=
  match a.position with
  | none => 2 * unitBound + 2
  | some x => if a.isNegative then 2 * x else 2 * x + 1

theorem exists_position {a : Binary64} (h : a ≠ nan) : ∃ x, a.position = some x :=
  Option.ne_none_iff_exists'.mp (mt (position_eq_none_iff a).mp h)

/-- No place lies beyond the infinity. -/
theorem position_le {a : Binary64} {x : Int} (h : a.position = some x) : x ≤ unitBound := by
  have hsigned (negative : Bool) {units : Nat} (hle : units ≤ unitBound) :
      signed negative units ≤ unitBound := by
    cases negative <;> simp only [signed] <;> grind
  cases a with
  | nan => cases h
  | infinity negative =>
    cases h
    exact hsigned negative (Nat.le_refl _)
  | finite negative units hr =>
    cases h
    exact hsigned negative (Nat.le_of_lt hr.1)

theorem rank_of_position {a : Binary64} {x : Int} (h : a.position = some x) :
    a.rank = if a.isNegative then 2 * x else 2 * x + 1 := by
  unfold rank
  rw [h]

theorem rank_nan : rank nan = 2 * unitBound + 2 := rfl

theorem rank_lt_nan {a : Binary64} (h : a ≠ nan) : a.rank < rank nan := by
  obtain ⟨x, hx⟩ := exists_position h
  have hle := position_le hx
  rw [rank_of_position hx, rank_nan]
  split <;> omega

theorem rank_le_nan (a : Binary64) : a.rank ≤ rank nan := by
  by_cases h : a = nan
  · exact Int.le_of_eq (congrArg rank h)
  · exact Int.le_of_lt (rank_lt_nan h)

/-! ## The order -/

variable (a b : Binary64)

/-- **The total order compares ranks.** -/
theorem order_eq_ite :
    a.order b = if a.rank < b.rank then .lt else if b.rank < a.rank then .gt else .eq := by
  cases ha : a.position with
  | none =>
    obtain rfl := (position_eq_none_iff a).mp ha
    cases hb : b.position with
    | none =>
      obtain rfl := (position_eq_none_iff b).mp hb
      simp [order_self]
    | some y =>
      have hlt : b.rank < rank nan := rank_lt_nan (by rintro rfl; cases hb)
      rw [if_neg (Int.lt_asymm hlt), if_pos hlt]
      unfold order
      rw [ha, hb]
  | some x =>
    cases hb : b.position with
    | none =>
      obtain rfl := (position_eq_none_iff b).mp hb
      have hlt : a.rank < rank nan := rank_lt_nan (by rintro rfl; cases ha)
      rw [if_pos hlt]
      unfold order
      rw [ha, hb]
    | some y =>
      rw [rank_of_position ha, rank_of_position hb]
      unfold order
      simp only [ha, hb]
      -- at one place the signs decide, and there the ranks differ by one
      cases a.isNegative <;> cases b.isNegative <;> grind

/-- Seen from the other side, a comparison is turned around. -/
theorem order_swap : a.order b = (b.order a).swap := by
  rw [order_eq_ite a b, order_eq_ite b a]
  split
  · next hlt => rw [if_neg (Int.lt_asymm hlt)]; rfl
  · split <;> rfl

theorem order_isLE_iff : (a.order b).isLE = true ↔ a.rank ≤ b.rank := by
  rw [order_eq_ite]
  split
  · next hlt => exact iff_of_true rfl (Int.le_of_lt hlt)
  · split
    · next hgt => exact iff_of_false Bool.false_ne_true (Int.not_le.mpr hgt)
    · next hge => exact iff_of_true rfl (Int.not_lt.mp hge)

variable {a b} {c : Binary64}

theorem order_trans (hab : (a.order b).isLE = true) (hbc : (b.order c).isLE = true) :
    (a.order c).isLE = true := by
  rw [order_isLE_iff] at *
  exact Int.le_trans hab hbc

variable (a b) in
theorem order_total : (a.order b).isLE = true ∨ (b.order a).isLE = true := by
  rw [order_isLE_iff, order_isLE_iff]
  exact Int.le_total _ _

/-- The total order agrees with the comparison by size. -/
theorem order_of_lt (h : a.lt b = true) : a.order b = .lt := by
  unfold lt at h
  split at h
  · next x y ha hb =>
    unfold order
    rw [ha, hb]
    exact if_pos (of_decide_eq_true h)
  · cases h

/-- Every number is below not-a-number. -/
theorem order_nan (h : a ≠ nan) : a.order nan = .lt := by
  rw [order_eq_ite, if_pos (rank_lt_nan h)]

theorem order_signedZero : order (signedZero true) (signedZero false) = .lt := by decide

/-- A number is its rank, since the order that tells numbers apart looks at ranks only. -/
theorem rank_injective : Function.Injective rank := by
  intro a b h
  rw [← order_eq_iff, order_eq_ite, h, if_neg (Int.lt_irrefl _), if_neg (Int.lt_irrefl _)]

theorem order_eq_lt_iff (a b : Binary64) : a.order b = .lt ↔ a.rank < b.rank := by
  rw [order_eq_ite]
  split
  · next hlt => exact iff_of_true rfl hlt
  · next hge =>
    refine iff_of_false (fun h => ?_) hge
    split at h <;> cases h

/-! ## Negation -/

theorem neg_involutive : Function.Involutive neg := by
  intro a
  cases a with
  | nan => rfl
  | infinity negative => exact congrArg infinity (Bool.not_not negative)
  | finite negative units h =>
    unfold neg
    simp only [Bool.not_not]

theorem neg_eq_nan_iff : a.neg = nan ↔ a = nan := neg_involutive.injective.eq_iff' rfl

theorem isNegative_neg (h : a ≠ nan) : a.neg.isNegative = !a.isNegative := by
  cases a with
  | nan => exact absurd rfl h
  | _ => rfl

theorem position_neg {x : Int} (h : a.position = some x) : a.neg.position = some (-x) := by
  cases a with
  | nan => cases h
  | infinity negative =>
    cases h
    exact congrArg some (signed_not negative unitBound)
  | finite negative units hr =>
    cases h
    exact congrArg some (signed_not negative units)

/-- Negation turns the ranks around a half, between those of the two zeros. -/
theorem rank_neg (h : a ≠ nan) : a.neg.rank = 1 - a.rank := by
  obtain ⟨x, hx⟩ := exists_position h
  rw [rank_of_position hx, rank_of_position (position_neg hx), isNegative_neg h]
  cases a.isNegative <;> simp only [Bool.not_true, Bool.not_false, if_true, if_false,
    Bool.false_eq_true] <;> omega

end BrickFormula.Binary64
