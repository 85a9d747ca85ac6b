import BrickFormula.Proofs.Binary64.Ranking
import BrickFormula.MathFunction
import Mathlib.Tactic.SplitIfs

/-!
# The greater and the lesser of two numbers

The greater of two numbers is the one of greater rank, also where not-a-number ranks above all.  The
lesser one is the greater one of the negations, negated: there not-a-number, its own negation, ranks
above all once more.  So each function takes the maximum of a key that tells numbers apart, and its
laws are those of the maximum of whole numbers.

    rank_maximum              the rank of the greater number
    minimum_eq_neg_maximum    the lesser number by way of the negations
    IsSemilattice.of_key      the laws of a function that takes the maximum of a key
    rank_minimum              the rank of the lesser number, without not-a-number
    extremes_lattice          the laws of both, and how they fit the total order
-/

namespace BrickFormula.MathFunction

open Binary64

variable {a b : Binary64}

/-! ## The greater number -/

theorem maximum_nan_left (b : Binary64) : maximum nan b = nan := rfl

theorem maximum_nan_right (a : Binary64) : maximum a nan = nan := by
  cases a <;> rfl

section
variable {x y : Int} (ha : a.position = some x) (hb : b.position = some y)
include ha hb

theorem not_isNaN_of_position : ¬ (a.isNaN || b.isNaN) = true := by
  cases a with
  | nan => cases ha
  | _ =>
    cases b with
    | nan => cases hb
    | _ => exact Bool.false_ne_true

theorem maximum_of_position :
    maximum a b = if x = y then (if a.isNegative then b else a) else if y < x then a else b := by
  unfold maximum
  rw [if_neg (not_isNaN_of_position ha hb)]
  unfold Binary64.eq lt
  simp only [ha, hb, beq_iff_eq, decide_eq_true_eq]

theorem minimum_of_position :
    minimum a b = if x = y then (if a.isNegative then a else b) else if x < y then a else b := by
  unfold minimum
  rw [if_neg (not_isNaN_of_position ha hb)]
  unfold Binary64.eq lt
  simp only [ha, hb, beq_iff_eq, decide_eq_true_eq]

end

/-- **The greater number has the greater rank**, and not-a-number the greatest. -/
theorem rank_maximum (a b : Binary64) : (maximum a b).rank = max a.rank b.rank := by
  by_cases ha : a = nan
  · rw [ha, maximum_nan_left, Int.max_eq_left (rank_le_nan b)]
  by_cases hb : b = nan
  · rw [hb, maximum_nan_right, Int.max_eq_right (rank_le_nan a)]
  obtain ⟨x, hx⟩ := exists_position ha
  obtain ⟨y, hy⟩ := exists_position hb
  have hrank := rank_of_position hx
  have hrank' := rank_of_position hy
  rw [maximum_of_position hx hy]
  -- at one place the number without a minus sign, if there is one, has the greater rank
  split_ifs with hplace hsign hgreater
  · rw [if_pos hsign] at hrank
    split at hrank' <;> omega
  · rw [if_neg hsign] at hrank
    split at hrank' <;> omega
  · split at hrank <;> split at hrank' <;> omega
  · split at hrank <;> split at hrank' <;> omega

/-- The greater number is the one that the total order ranks higher. -/
theorem maximum_eq_ite (a b : Binary64) : maximum a b = if a.order b = .lt then b else a := by
  apply rank_injective
  rw [rank_maximum]
  split
  · next hlt => exact Int.max_eq_right (Int.le_of_lt ((order_eq_lt_iff a b).mp hlt))
  · next hge => exact Int.max_eq_left (Int.not_lt.mp (mt (order_eq_lt_iff a b).mpr hge))

theorem maximum_eq_nan_iff : maximum a b = nan ↔ a = nan ∨ b = nan := by
  constructor
  · intro h
    rw [maximum_eq_ite] at h
    split at h
    · exact .inr h
    · exact .inl h
  · rintro (rfl | rfl)
    · exact maximum_nan_left b
    · exact maximum_nan_right a

/-! ## The lesser number -/

/-- **The lesser number is the greater one of the negations**, negated. -/
theorem minimum_eq_neg_maximum (a b : Binary64) : minimum a b = (maximum a.neg b.neg).neg := by
  by_cases ha : a = nan
  · subst ha
    rfl
  by_cases hb : b = nan
  · subst hb
    cases a <;> rfl
  obtain ⟨x, hx⟩ := exists_position ha
  obtain ⟨y, hy⟩ := exists_position hb
  rw [minimum_of_position hx hy, maximum_of_position (position_neg hx) (position_neg hy),
    isNegative_neg ha]
  simp only [apply_ite neg, neg_involutive a, neg_involutive b, Int.neg_inj, Int.neg_lt_neg_iff]
  cases a.isNegative <;> rfl

theorem minimum_eq_nan_iff : minimum a b = nan ↔ a = nan ∨ b = nan := by
  rw [minimum_eq_neg_maximum, neg_eq_nan_iff, maximum_eq_nan_iff, neg_eq_nan_iff, neg_eq_nan_iff]

/-- Between numbers the lesser one has the lesser rank. -/
theorem rank_minimum (ha : a ≠ nan) (hb : b ≠ nan) : (minimum a b).rank = min a.rank b.rank := by
  have hmax : maximum a.neg b.neg ≠ nan := by
    rw [Ne, maximum_eq_nan_iff, neg_eq_nan_iff, neg_eq_nan_iff]
    exact not_or.mpr ⟨ha, hb⟩
  rw [minimum_eq_neg_maximum, rank_neg hmax, rank_maximum, rank_neg ha, rank_neg hb]
  omega

/-- Between numbers the lesser one is the one that the total order ranks lower. -/
theorem minimum_eq_ite (ha : a ≠ nan) (hb : b ≠ nan) :
    minimum a b = if a.order b = .lt then a else b := by
  apply rank_injective
  rw [rank_minimum ha hb]
  split
  · next hlt => exact Int.min_eq_left (Int.le_of_lt ((order_eq_lt_iff a b).mp hlt))
  · next hge => exact Int.min_eq_right (Int.not_lt.mp (mt (order_eq_lt_iff a b).mpr hge))

/-! ## Laws -/

/-- The order and the grouping of arguments do not count, nor does their repetition. -/
structure IsSemilattice (op : Binary64 → Binary64 → Binary64) : Prop where
  comm : ∀ a b, op a b = op b a
  assoc : ∀ a b c, op (op a b) c = op a (op b c)
  idem : ∀ a, op a a = a

/-- A function that takes the maximum of a key has the laws of the maximum, if the key tells numbers
apart. -/
theorem IsSemilattice.of_key {op : Binary64 → Binary64 → Binary64} {key : Binary64 → Int}
    (hkey : Function.Injective key) (hop : ∀ a b, key (op a b) = max (key a) (key b)) :
    IsSemilattice op where
  comm a b := hkey (by rw [hop, hop, Int.max_comm])
  assoc a b c := hkey (by rw [hop, hop, hop, hop, Int.max_assoc])
  idem a := hkey (by rw [hop, Int.max_self])

theorem isSemilattice_maximum : IsSemilattice maximum := .of_key rank_injective rank_maximum

/-- The key of the lesser number is the rank of the negation, also for not-a-number. -/
theorem isSemilattice_minimum : IsSemilattice minimum := by
  have hkey : Function.Injective fun a : Binary64 => a.neg.rank :=
    rank_injective.comp neg_involutive.injective
  refine .of_key hkey fun a b => ?_
  rw [minimum_eq_neg_maximum, neg_involutive, rank_maximum]

theorem maximum_minimum_self (ha : a ≠ nan) (hb : b ≠ nan) : maximum a (minimum a b) = a := by
  apply rank_injective
  rw [rank_maximum, rank_minimum ha hb]
  omega

theorem minimum_maximum_self (ha : a ≠ nan) (hb : b ≠ nan) : minimum a (maximum a b) = a := by
  have hmax : maximum a b ≠ nan := mt maximum_eq_nan_iff.mp (not_or.mpr ⟨ha, hb⟩)
  apply rank_injective
  rw [rank_minimum ha hmax, rank_maximum]
  omega

/-- **The greater and the lesser of two numbers are the join and the meet of the total order.**  Both
functions are commutative, associative and idempotent for all numbers, with the sign of zero, and give
not-a-number exactly when an argument is.  Of two numbers that are not, the greater one is the one
that the total order ranks higher and the lesser one the other, and each function absorbs the other. -/
theorem extremes_lattice :
    IsSemilattice maximum ∧ IsSemilattice minimum ∧
    (∀ a b : Binary64, (maximum a b = nan ↔ a = nan ∨ b = nan) ∧
      (minimum a b = nan ↔ a = nan ∨ b = nan)) ∧
    (∀ a b : Binary64, a ≠ nan → b ≠ nan →
      maximum a b = (if a.order b = .lt then b else a) ∧
      minimum a b = (if a.order b = .lt then a else b) ∧
      maximum a (minimum a b) = a ∧ minimum a (maximum a b) = a) := by
  refine ⟨isSemilattice_maximum, isSemilattice_minimum, fun a b => ?_, fun a b ha hb => ?_⟩
  · exact ⟨maximum_eq_nan_iff, minimum_eq_nan_iff⟩
  · exact ⟨maximum_eq_ite a b, minimum_eq_ite ha hb, maximum_minimum_self ha hb,
      minimum_maximum_self ha hb⟩

/-- Of the two zeros, which are equal by size, the positive one is the greater. -/
theorem extremes_lattice_zeros :
    signedZero true ≠ nan ∧ signedZero false ≠ nan ∧
    maximum (signedZero true) (signedZero false) = signedZero false ∧
    minimum (signedZero true) (signedZero false) = signedZero true ∧
    maximum (signedZero false) (minimum (signedZero false) (signedZero true)) =
      signedZero false := by
  obtain ⟨-, -, -, hnumbers⟩ := extremes_lattice
  obtain ⟨hmaximum, hminimum, -, -⟩ := hnumbers (signedZero true) (signedZero false) nofun nofun
  obtain ⟨-, -, habsorbs, -⟩ := hnumbers (signedZero false) (signedZero true) nofun nofun
  rw [if_pos order_signedZero] at hmaximum hminimum
  exact ⟨nofun, nofun, hmaximum, hminimum, habsorbs⟩

end BrickFormula.MathFunction
