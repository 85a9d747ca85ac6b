import BrickFormula.Proofs.Binary64.Rounding

/-!
# Order and equality of numbers

The total order tells all numbers apart, the two zeros included, since a number is its place on the
line together with its sign.  Numeric equality forgets the sign of zero and knows no not-a-number.

    eq_of_position    place and sign make the number
    order_eq_iff      the total order tells numbers apart
    eq_iff            numeric equality does not tell the zeros apart
-/

namespace BrickFormula.Binary64

theorem signed_inj {negative : Bool} {a b : Nat} (h : signed negative a = signed negative b) :
    a = b := by
  rw [← natAbs_signed negative a, h, natAbs_signed]

theorem signed_eq_zero_iff (negative : Bool) (units : Nat) :
    signed negative units = 0 ↔ units = 0 := by
  rw [← Int.natAbs_eq_zero, natAbs_signed]

theorem signed_not (negative : Bool) (units : Nat) :
    signed (!negative) units = -signed negative units := by
  cases negative with
  | false => rfl
  | true => exact (Int.neg_neg _).symm

/-- Away from zero the sign can be read from the place. -/
theorem signed_lt_zero_iff {negative : Bool} {units : Nat} (h : signed negative units ≠ 0) :
    negative = true ↔ signed negative units < 0 := by
  have hunits : 0 ≤ (units : Int) := Int.natCast_nonneg units
  cases negative
  · exact ⟨nofun, fun hlt => absurd hlt (Int.not_lt.mpr hunits)⟩
  · exact ⟨fun _ => Int.lt_iff_le_and_ne.mpr ⟨Int.neg_nonpos_of_nonneg hunits, h⟩, fun _ => rfl⟩

theorem unitBound_pos : 0 < unitBound := by
  unfold unitBound
  generalize 2098 = m
  exact Nat.two_pow_pos m

theorem isZero_iff (x : Binary64) : x.isZero = true ↔ ∃ negative, x = signedZero negative := by
  constructor
  · intro h
    cases x with
    | finite negative units hr =>
      obtain rfl : units = 0 := of_decide_eq_true h
      exact ⟨negative, rfl⟩
    | _ => cases h
  · rintro ⟨negative, rfl⟩
    rfl

theorem position_eq_none_iff (x : Binary64) : x.position = none ↔ x = .nan := by
  cases x <;> simp [position]

/-- An infinity stands where no finite number does. -/
theorem units_ne_unitBound {units : Nat} (h : Representable units) : units ≠ unitBound :=
  Nat.ne_of_lt h.1

/-- **A number is its place and its sign.** -/
theorem eq_of_position {a b : Binary64} (hpos : a.position = b.position)
    (hsign : a.isNegative = b.isNegative) : a = b := by
  cases a with
  | nan => exact ((position_eq_none_iff b).mp hpos.symm).symm
  | infinity s =>
    cases b with
    | nan => cases hpos
    | infinity t => exact congrArg infinity hsign
    | finite t units h =>
      obtain rfl : s = t := hsign
      exact absurd (signed_inj (Option.some.inj hpos)).symm (units_ne_unitBound h)
  | finite s units h =>
    cases b with
    | nan => cases hpos
    | infinity t =>
      obtain rfl : s = t := hsign
      exact absurd (signed_inj (Option.some.inj hpos)) (units_ne_unitBound h)
    | finite t units' h' =>
      obtain rfl : s = t := hsign
      obtain rfl : units = units' := signed_inj (Option.some.inj hpos)
      rfl

theorem order_self (a : Binary64) : a.order a = .eq := by
  unfold order
  cases a.position with
  | none => rfl
  | some x =>
    simp only [Int.lt_irrefl, if_false]
    cases a.isNegative <;> rfl

/-- **The total order tells all numbers apart.** -/
theorem order_eq_iff (a b : Binary64) : a.order b = .eq ↔ a = b := by
  constructor
  · intro h
    unfold order at h
    split at h
    · next ha hb => rw [(position_eq_none_iff a).mp ha, (position_eq_none_iff b).mp hb]
    · cases h
    · cases h
    · next x y ha hb =>
      split at h
      · cases h
      split at h
      · cases h
      have hxy : x = y := by omega
      apply eq_of_position
      · rw [ha, hb, hxy]
      · cases hsa : a.isNegative <;> cases hsb : b.isNegative <;> simp_all
  · rintro rfl
    exact order_self a

theorem isNegative_of_position {a b : Binary64} {x : Int} (ha : a.position = some x)
    (hb : b.position = some x) (hx : x ≠ 0) : a.isNegative = b.isNegative := by
  have hread : ∀ c : Binary64, c.position = some x → (c.isNegative = true ↔ x < 0) := by
    intro c hc
    cases c with
    | nan => cases hc
    | infinity negative =>
      obtain rfl := Option.some.inj hc
      exact signed_lt_zero_iff hx
    | finite negative units h =>
      obtain rfl := Option.some.inj hc
      exact signed_lt_zero_iff hx
  exact Bool.eq_iff_iff.mpr ((hread a ha).trans (hread b hb).symm)

theorem position_eq_zero_iff (x : Binary64) : x.position = some 0 ↔ x.isZero = true := by
  cases x with
  | nan => exact ⟨nofun, nofun⟩
  | infinity negative =>
    refine ⟨fun h => ?_, nofun⟩
    have hzero := (signed_eq_zero_iff negative unitBound).mp (Option.some.inj h)
    exact absurd hzero (Nat.ne_of_gt unitBound_pos)
  | finite negative units h =>
    exact ⟨fun hzero => decide_eq_true ((signed_eq_zero_iff negative units).mp (Option.some.inj hzero)),
      fun hzero => congrArg some ((signed_eq_zero_iff negative units).mpr (of_decide_eq_true hzero))⟩

/-- **Numeric equality forgets the sign of zero**, and a number that is not one equals nothing. -/
theorem eq_iff (a b : Binary64) :
    a.eq b = true ↔ a = b ∧ a ≠ .nan ∨ a.isZero = true ∧ b.isZero = true := by
  have hplace : a.eq b = true ↔ ∃ x, a.position = some x ∧ b.position = some x := by
    constructor
    · intro h
      unfold eq at h
      split at h
      · next x y ha hb => exact ⟨x, ha, by rw [hb, eq_of_beq h]⟩
      · cases h
    · rintro ⟨x, ha, hb⟩
      unfold eq
      rw [ha, hb]
      exact beq_self_eq_true x
  rw [hplace]
  constructor
  · rintro ⟨x, ha, hb⟩
    by_cases hx : x = 0
    · subst hx
      exact .inr ⟨(position_eq_zero_iff a).mp ha, (position_eq_zero_iff b).mp hb⟩
    · refine .inl ⟨eq_of_position (ha.trans hb.symm) (isNegative_of_position ha hb hx), ?_⟩
      rintro rfl
      cases ha
  · rintro (⟨rfl, hne⟩ | ⟨ha, hb⟩)
    · cases hpos : a.position with
      | none => exact absurd ((position_eq_none_iff a).mp hpos) hne
      | some x => exact ⟨x, rfl, rfl⟩
    · exact ⟨0, (position_eq_zero_iff a).mpr ha, (position_eq_zero_iff b).mpr hb⟩

end BrickFormula.Binary64
