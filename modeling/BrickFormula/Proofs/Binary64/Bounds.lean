import BrickFormula.Proofs.Binary64.Nearest

/-!
# Results between numbers

What is exactly between two numbers is rounded to a number between them.  So a sum does not leave
bounds that the exact sum keeps; and a number below one has a product with a number that is less than
the other factor, though it is rounded, unless that one is tiny.

    roundUnits_le_of_onGrid, le_roundUnits_of_onGrid    rounding does not cross a magnitude
    lt_of_lt_roundUnits     what is less than a rounded magnitude is less than the exact one
    roundUnits_lt_two_pow_iff    what is rounded to a power of two
    roundUnits_mul_lt       a product with a number below one is less than the other factor
    LiesAt x p              `x` is a finite number with the place `p`
    LiesAt.add_between      a sum between two numbers is rounded to a number between them
    LiesAt.mul_nonneg       a product of numbers that are not negative
    liesAt_ofInt            whole numbers of 53 bits are exact
    isFinite_ofInt_iff      whole numbers are finite up to a bound
    onGrid_ediv             the whole part of a number is a number
    Denotes x v             `x` is a finite number and `v` is its exact value
-/

namespace BrickFormula.Binary64

/-! ## Magnitudes -/

section
variable {num den units k : Nat}

/-- Rounding does not get above a magnitude. -/
theorem roundUnits_le_of_onGrid (hden : 0 < den) (hu : OnGrid units) (h : num ≤ den * units) :
    roundUnits num den ≤ units := by
  refine Nat.le_of_not_lt fun hlt => ?_
  have hless := Nat.mul_lt_mul_of_pos_left hlt hden
  have hround := distance_roundUnits num hden hu
  unfold distance at hround
  omega

/-- Rounding does not get below a magnitude. -/
theorem le_roundUnits_of_onGrid (hden : 0 < den) (hu : OnGrid units) (h : den * units ≤ num) :
    units ≤ roundUnits num den := by
  refine Nat.le_of_not_lt fun hlt => ?_
  have hless := Nat.mul_lt_mul_of_pos_left hlt hden
  have hround := distance_roundUnits num hden hu
  unfold distance at hround
  omega

theorem roundUnits_of_onGrid (hu : OnGrid units) : roundUnits units 1 = units := by
  have hone : 1 * units = units := Nat.one_mul units
  exact Nat.le_antisymm (roundUnits_le_of_onGrid Nat.one_pos hu (Nat.le_of_eq hone.symm))
    (le_roundUnits_of_onGrid Nat.one_pos hu (Nat.le_of_eq hone))

theorem roundUnits_zero (hden : 0 < den) : roundUnits 0 den = 0 :=
  Nat.le_zero.mp (roundUnits_le_of_onGrid hden (Nat.zero_mod _) (Nat.zero_le _))

/-- A magnitude below a rounded one is below the exact one, from which it would not be rounded up. -/
theorem lt_of_lt_roundUnits (hu : OnGrid units) (h : units < roundUnits num 1) : units < num := by
  refine Nat.lt_of_not_le fun hle => Nat.not_le.mpr h ?_
  exact roundUnits_le_of_onGrid Nat.one_pos hu (by rwa [Nat.one_mul])

theorem onGrid_of_dvd (hdvd : 2 ^ (k - 52) ∣ units) (hlog : units.log2 ≤ k) : OnGrid units :=
  Nat.mod_eq_zero_of_dvd
    (Nat.dvd_trans (Nat.pow_dvd_pow 2 (Nat.sub_le_sub_right hlog 52)) hdvd)

/-- A significand of 53 bits makes a magnitude. -/
theorem onGrid_mul_pow {q : Nat} (hq : q < 2 ^ 53) (j : Nat) : OnGrid (q * 2 ^ j) := by
  refine onGrid_of_dvd (k := 52 + j) ?_ ?_
  · rw [Nat.add_sub_cancel_left]
    exact Nat.dvd_mul_left _ _
  · by_cases hzero : q * 2 ^ j = 0
    · rw [hzero]
      exact Nat.zero_le _
    · have hlt : q * 2 ^ j < 2 ^ (53 + j) := by
        rw [Nat.pow_add]
        exact Nat.mul_lt_mul_of_pos_right hq (Nat.two_pow_pos j)
      have hlog := (Nat.log2_lt hzero).mpr hlt
      omega

theorem onGrid_of_lt (h : units < 2 ^ 53) : OnGrid units := by
  have hgrid := onGrid_mul_pow h 0
  rwa [Nat.pow_zero, Nat.mul_one] at hgrid

/-- One spacing below a magnitude is another one. -/
theorem onGrid_previous (hu : OnGrid units) : OnGrid (units - 2 ^ ((units - 1).log2 - 52)) := by
  have hspacing : 0 < 2 ^ ((units - 1).log2 - 52) := Nat.two_pow_pos _
  refine onGrid_of_dvd (k := (units - 1).log2) ?_ (log2_mono (by omega))
  exact Nat.dvd_sub (hu.dvd (log2_mono (Nat.sub_le units 1))) (Nat.dvd_refl _)

/-- Below a power of two there is room for one spacing. -/
theorem add_spacing_le_two_pow (hu : OnGrid units) (hlt : units < 2 ^ (k + 1)) :
    units + 2 ^ (k - 52) ≤ 2 ^ (k + 1) := by
  by_cases hbelow : units < 2 ^ k
  · have hspacing : 2 ^ (k - 52) ≤ 2 ^ k := Nat.pow_le_pow_right Nat.two_pos (Nat.sub_le _ _)
    rw [Nat.pow_succ]
    omega
  · have hpower : 2 ^ k ≤ units := Nat.le_of_not_lt hbelow
    have hne : units ≠ 0 := Nat.ne_of_gt (Nat.lt_of_lt_of_le (Nat.two_pow_pos k) hpower)
    obtain ⟨a, rfl⟩ := hu.dvd ((Nat.le_log2 hne).mpr hpower)
    obtain ⟨c, hc⟩ := exists_next_power k
    rw [hc] at hlt ⊢
    rw [← Nat.mul_succ]
    exact Nat.mul_le_mul_left _ (Nat.lt_of_mul_lt_mul_left hlt)

theorem log2_mul_two_pow {q : Nat} (hlow : 2 ^ 52 ≤ q) (hhigh : q < 2 ^ 53) (i : Nat) :
    (q * 2 ^ i).log2 = 52 + i := by
  have hpos : 0 < 2 ^ i := Nat.two_pow_pos i
  have hle : 2 ^ (52 + i) ≤ q * 2 ^ i := by
    rw [Nat.pow_add]
    exact Nat.mul_le_mul_right _ hlow
  have hlt : q * 2 ^ i < 2 ^ (52 + i + 1) := by
    rw [show 52 + i + 1 = 53 + i by omega, Nat.pow_add]
    exact Nat.mul_lt_mul_of_pos_right hhigh hpos
  have hne : q * 2 ^ i ≠ 0 := by
    have := Nat.two_pow_pos (52 + i)
    omega
  have hge := (Nat.le_log2 hne).mpr hle
  have hless := (Nat.log2_lt hne).mpr hlt
  omega

/-- A significand of all 53 bits that ends in one is odd. -/
theorem not_evenSignificand {q i : Nat} (hlow : 2 ^ 52 ≤ q) (hhigh : q < 2 ^ 53) (hodd : q % 2 = 1) :
    ¬ EvenSignificand (q * 2 ^ i) := by
  intro heven
  unfold EvenSignificand at heven
  rw [log2_mul_two_pow hlow hhigh, Nat.add_sub_cancel_left, Nat.mul_div_cancel _ (Nat.two_pow_pos i)]
    at heven
  omega

/-- An odd number of more than 53 bits is no significand. -/
theorem lt_of_onGrid_odd {q i : Nat} (h : OnGrid (q * 2 ^ i)) (hodd : q % 2 = 1) : q < 2 ^ 53 := by
  refine Nat.lt_of_not_le fun hle => ?_
  have hpos : 0 < 2 ^ i := Nat.two_pow_pos i
  have hpower : 2 ^ (53 + i) ≤ q * 2 ^ i := by
    rw [Nat.pow_add]
    exact Nat.mul_le_mul_right _ hle
  have hne : q * 2 ^ i ≠ 0 := by
    have := Nat.two_pow_pos (53 + i)
    omega
  have hdvd := h.dvd ((Nat.le_log2 hne).mpr hpower)
  rw [show 53 + i - 52 = 1 + i by omega, Nat.pow_add] at hdvd
  have htwo := Nat.dvd_of_mul_dvd_mul_right hpos hdvd
  omega

/-- **What is rounded to a power of two** is everything from halfway between it and the magnitude
below, which is odd. -/
theorem roundUnits_lt_two_pow_iff (num : Nat) (hk : 53 ≤ k) :
    roundUnits num 1 < 2 ^ (k + 1) ↔ num + 2 ^ (k - 53) < 2 ^ (k + 1) := by
  obtain ⟨i, rfl⟩ := Nat.exists_eq_add_of_le' hk
  rw [Nat.add_sub_cancel]
  have hpos : 0 < 2 ^ i := Nat.two_pow_pos i
  have hpower : 2 ^ (i + 53 + 1) = 2 ^ 54 * 2 ^ i := by rw [Nat.add_assoc, Nat.pow_add, Nat.mul_comm]
  have hdouble : 2 ^ (i + 1) = 2 * 2 ^ i := Nat.pow_succ'
  have hbelow : OnGrid ((2 ^ 53 - 1) * 2 ^ (i + 1)) := onGrid_mul_pow (by decide) (i + 1)
  constructor
  · intro hlt
    refine Nat.lt_of_not_le fun hge => ?_
    have hgrid : OnGrid (roundUnits num 1) := roundUnits_mod Nat.one_pos
    have hroom := add_spacing_le_two_pow hgrid hlt
    rw [show i + 53 - 52 = i + 1 by omega] at hroom
    have hdistance := distance_roundUnits num Nat.one_pos (onGrid_two_pow (i + 53 + 1))
    unfold distance at hdistance
    rcases hdistance with hnearer | ⟨htie, heq | heven⟩
    · omega
    · omega
    · have hround : roundUnits num 1 = (2 ^ 53 - 1) * 2 ^ (i + 1) := by omega
      rw [hround] at heven
      exact not_evenSignificand (by decide) (by decide) (by decide) heven
  · intro hlt
    refine Nat.lt_of_not_le fun hge => ?_
    have hdistance := distance_roundUnits num Nat.one_pos hbelow
    by_cases hle : num ≤ (2 ^ 53 - 1) * 2 ^ (i + 1)
    · have hround : roundUnits num 1 ≤ (2 ^ 53 - 1) * 2 ^ (i + 1) :=
        roundUnits_le_of_onGrid Nat.one_pos hbelow (by rwa [Nat.one_mul])
      omega
    · unfold distance at hdistance
      omega

/-- **A product with a number below one is less than the other factor**, although it is rounded: half
of the spacing below the factor is too little to reach it. -/
theorem roundUnits_mul_lt {r : Nat} (hr : OnGrid r) (hlt : r < 2 ^ (k + 1)) (hk : 52 ≤ k)
    (hu : OnGrid units) (hlarge : 2 ^ 53 ≤ units) :
    roundUnits (r * units) (2 ^ (k + 1)) < units := by
  have hden : 0 < 2 ^ (k + 1) := Nat.two_pow_pos _
  have hle : roundUnits (r * units) (2 ^ (k + 1)) ≤ units :=
    roundUnits_le_of_onGrid hden hu (Nat.mul_le_mul_right units (Nat.le_of_lt hlt))
  refine Nat.lt_of_le_of_ne hle fun heq => ?_
  -- the neighbour below, one spacing away
  have hpower : 2 ^ (units - 1).log2 ≤ units - 1 := Nat.log2_self_le (by omega)
  have hlog : 52 ≤ (units - 1).log2 := (Nat.le_log2 (by omega)).mpr (by omega)
  have hprevious := onGrid_previous hu
  have hspacing : 0 < 2 ^ ((units - 1).log2 - 52) := Nat.two_pow_pos _
  have habove : 2 ^ (k + 1) * (units - 2 ^ ((units - 1).log2 - 52)) < r * units := by
    refine Nat.lt_of_not_le fun hbelow => ?_
    have hround := roundUnits_le_of_onGrid hden hprevious hbelow
    omega
  have hround := distance_roundUnits (r * units) hden hprevious
  rw [heq] at hround
  unfold distance at hround
  rw [Nat.mul_sub] at habove hround
  -- the factor is not farther than the neighbour, but `r` is a spacing below one
  have hroom : r * units + 2 ^ (k - 52) * units ≤ 2 ^ (k + 1) * units := by
    rw [← Nat.add_mul]
    exact Nat.mul_le_mul_right units (add_spacing_le_two_pow hr hlt)
  have hnear : 2 * (2 ^ (k - 52) * units) ≤ 2 ^ (k + 1) * 2 ^ ((units - 1).log2 - 52) := by
    omega
  have hscale : 2 ^ (k + 1) * 2 ^ ((units - 1).log2 - 52) =
      2 * (2 ^ (k - 52) * 2 ^ (units - 1).log2) := by
    rw [← Nat.pow_add, ← Nat.pow_add, ← Nat.pow_succ']
    congr 1
    omega
  rw [hscale] at hnear
  have hsmall : units ≤ 2 ^ (units - 1).log2 :=
    Nat.le_of_mul_le_mul_left (Nat.le_of_mul_le_mul_left hnear Nat.two_pos) (Nat.two_pow_pos _)
  omega

end

/-! ## Places -/

/-- A finite number with a place on the line of signed units. -/
def LiesAt (x : Binary64) (p : Int) : Prop := x.position = some p ∧ p.natAbs < unitBound

/-- The place that is rounded to, if it is not too far out. -/
def rounded (p : Int) : Int := signed (p < 0) (roundUnits p.natAbs 1)

theorem natAbs_rounded (p : Int) : (rounded p).natAbs = roundUnits p.natAbs 1 := natAbs_signed _ _

theorem rounded_natCast (n : Nat) : rounded n = roundUnits n 1 := by
  unfold rounded
  rw [Int.natAbs_natCast, decide_eq_false (Int.not_lt.mpr (Int.natCast_nonneg n))]
  rfl

section
variable {x y : Binary64} {p q c : Int}

theorem liesAt_finite (negative : Bool) {units : Nat} (h : Representable units) :
    (finite negative units h).LiesAt (signed negative units) :=
  ⟨rfl, by rw [natAbs_signed]; exact h.1⟩

theorem lt_congr {z : Binary64} (h : x.position = y.position) : x.lt z = y.lt z := by
  unfold lt
  rw [h]

theorem lt_of_position (hx : x.position = some p) (hy : y.position = some q) (h : p < q) :
    x.lt y = true := by
  unfold lt
  rw [hx, hy]
  exact decide_eq_true h

theorem le_of_lt_true (h : x.lt y = true) : x.le y = true := by
  unfold lt at h
  unfold le
  split at h
  · next p q hp hq => exact decide_eq_true (Int.le_of_lt (of_decide_eq_true h))
  · cases h

theorem isNegative_abs (x : Binary64) : x.abs.isNegative = false := by
  cases x <;> rfl

theorem exists_liesAt (h : x.isFinite = true) : ∃ p, x.LiesAt p := by
  cases x with
  | finite negative units hr => exact ⟨_, liesAt_finite negative hr⟩
  | _ => cases h

namespace LiesAt

theorem exists_finite (h : x.LiesAt p) : ∃ negative units hr, x = finite negative units hr ∧
    p = signed negative units := by
  obtain ⟨hpos, hlt⟩ := h
  cases x with
  | nan => cases hpos
  | infinity negative =>
    cases hpos
    rw [natAbs_signed] at hlt
    exact absurd hlt (Nat.lt_irrefl _)
  | finite negative units hr =>
    cases hpos
    exact ⟨negative, units, hr, rfl, rfl⟩

theorem isFinite (h : x.LiesAt p) : x.isFinite = true := by
  obtain ⟨negative, units, hr, rfl, -⟩ := h.exists_finite
  rfl

theorem onGrid (h : x.LiesAt p) : OnGrid p.natAbs := by
  obtain ⟨negative, units, hr, -, rfl⟩ := h.exists_finite
  rw [natAbs_signed]
  exact hr.2

theorem unique (h : x.LiesAt p) (h' : x.LiesAt q) : p = q :=
  Option.some.inj (h.1.symm.trans h'.1)

theorem neg (h : x.LiesAt p) : (-x).LiesAt (-p) := by
  obtain ⟨negative, units, hr, rfl, rfl⟩ := h.exists_finite
  rw [← signed_not]
  exact liesAt_finite (!negative) hr

theorem abs (h : x.LiesAt p) : x.abs.LiesAt p.natAbs := by
  obtain ⟨negative, units, hr, rfl, rfl⟩ := h.exists_finite
  rw [natAbs_signed]
  exact liesAt_finite false hr

theorem le_iff (hx : x.LiesAt p) (hy : y.LiesAt q) : x.le y = true ↔ p ≤ q := by
  unfold le
  rw [hx.1, hy.1]
  exact decide_eq_true_iff

theorem lt_iff (hx : x.LiesAt p) (hy : y.LiesAt q) : x.lt y = true ↔ p < q := by
  unfold lt
  rw [hx.1, hy.1]
  exact decide_eq_true_iff

theorem eq_iff (hx : x.LiesAt p) (hy : y.LiesAt q) : x.eq y = true ↔ p = q := by
  unfold eq
  rw [hx.1, hy.1]
  exact beq_iff_eq

/-- Finite numbers lie between the infinities. -/
theorem lt_infinity (h : x.LiesAt p) : x.lt (infinity false) = true := by
  have hbound := h.2
  exact lt_of_position h.1 rfl (show p < unitBound by omega)

theorem infinity_lt (h : x.LiesAt p) : (infinity true).lt x = true := by
  have hbound := h.2
  exact lt_of_position rfl h.1 (show -(unitBound : Int) < p by omega)

/-- Equal numbers lie at one place. -/
theorem of_eq (hy : y.LiesAt q) (h : x.eq y = true) : x.LiesAt q := by
  unfold eq at h
  rw [hy.1] at h
  split at h
  · next p' q' hx hq =>
    cases hq
    rw [← eq_of_beq h]
    exact ⟨hx, eq_of_beq h ▸ hy.2⟩
  · cases h

end LiesAt

/-! ## Sums -/

theorem rounded_neg (p : Int) : rounded (-p) = -rounded p := by
  unfold rounded
  rw [Int.natAbs_neg]
  rcases Int.lt_trichotomy p 0 with hlt | rfl | hgt
  · rw [decide_eq_true hlt, decide_eq_false (by omega)]
    simp [signed]
  · rfl
  · rw [decide_eq_true (by omega), decide_eq_false (by omega)]
    rfl

/-- Rounding does not get above a place. -/
theorem rounded_le (hc : OnGrid c.natAbs) (h : p ≤ c) : rounded p ≤ c := by
  unfold rounded signed
  by_cases hneg : p < 0
  · rw [decide_eq_true hneg, if_pos rfl]
    by_cases hcneg : c < 0
    · have hround : c.natAbs ≤ roundUnits p.natAbs 1 :=
        le_roundUnits_of_onGrid Nat.one_pos hc (by omega)
      omega
    · omega
  · have hround : roundUnits p.natAbs 1 ≤ c.natAbs :=
      roundUnits_le_of_onGrid Nat.one_pos hc (by omega)
    rw [decide_eq_false hneg, if_neg Bool.false_ne_true]
    omega

/-- Rounding does not get below a place. -/
theorem le_rounded (hc : OnGrid c.natAbs) (h : c ≤ p) : c ≤ rounded p := by
  rw [← Int.natAbs_neg] at hc
  have hround := rounded_le hc (Int.neg_le_neg h)
  rw [rounded_neg] at hround
  omega

theorem rounded_of_onGrid (h : OnGrid p.natAbs) : rounded p = p :=
  Int.le_antisymm (rounded_le h (Int.le_refl p)) (le_rounded h (Int.le_refl p))

theorem liesAt_nearest (negative : Bool) {num den : Nat} (hden : 0 < den)
    (h : roundUnits num den < unitBound) :
    (nearest negative num den).LiesAt (signed negative (roundUnits num den)) := by
  refine ⟨?_, by rwa [natAbs_signed]⟩
  rw [position_nearest negative hden, Nat.min_eq_left (Nat.le_of_lt h)]

theorem isFinite_nearest_iff (negative : Bool) {num den : Nat} (hden : 0 < den) :
    (nearest negative num den).isFinite = true ↔ roundUnits num den < unitBound := by
  refine ⟨fun h => ?_, fun h => (liesAt_nearest negative hden h).isFinite⟩
  unfold nearest at h
  split at h
  · next hr => exact hr.1
  · cases h

theorem finite_add_finite (s t : Bool) {a b : Nat} (ha : Representable a) (hb : Representable b) :
    finite s a ha + finite t b hb =
      if signed s a + signed t b = 0 then signedZero (s && t)
      else nearest (signed s a + signed t b < 0) (signed s a + signed t b).natAbs 1 := by
  show add _ _ = _
  rw [add]

/-- **A sum is rounded**, unless it is too large. -/
theorem LiesAt.add (hx : x.LiesAt p) (hy : y.LiesAt q)
    (h : roundUnits (p + q).natAbs 1 < unitBound) : (x + y).LiesAt (rounded (p + q)) := by
  obtain ⟨s, a, ha, rfl, rfl⟩ := hx.exists_finite
  obtain ⟨t, b, hb, rfl, rfl⟩ := hy.exists_finite
  rw [finite_add_finite]
  split
  · next hzero =>
    rw [hzero]
    have hsigned : rounded 0 = signed (s && t) 0 := by
      cases s && t <;> rfl
    rw [hsigned]
    exact liesAt_finite _ representable_zero
  · exact liesAt_nearest _ Nat.one_pos h

/-- **A sum between two numbers is rounded to a number between them.** -/
theorem LiesAt.add_between {low high : Binary64} {a b : Int} (hx : x.LiesAt p) (hy : y.LiesAt q)
    (hlow : low.LiesAt a) (hhigh : high.LiesAt b) (hap : a ≤ p + q) (hpb : p + q ≤ b) :
    (x + y).LiesAt (rounded (p + q)) ∧ a ≤ rounded (p + q) ∧ rounded (p + q) ≤ b := by
  have hle := le_rounded hlow.onGrid hap
  have hge := rounded_le hhigh.onGrid hpb
  refine ⟨hx.add hy ?_, hle, hge⟩
  have ha := hlow.2
  have hb := hhigh.2
  rw [← natAbs_rounded]
  omega

/-- A sum that is a number is exact. -/
theorem LiesAt.add_exact {z : Binary64} (hx : x.LiesAt p) (hy : y.LiesAt q)
    (hz : z.LiesAt (p + q)) : (x + y).LiesAt (p + q) := by
  have hsum := hx.add_between hy hz hz (Int.le_refl _) (Int.le_refl _)
  rw [rounded_of_onGrid hz.onGrid] at hsum
  exact hsum.1

/-- A sum is finite when it is not rounded to a magnitude that is too large. -/
theorem isFinite_add_iff (hx : x.LiesAt p) (hy : y.LiesAt q) :
    (x + y).isFinite = true ↔ roundUnits (p + q).natAbs 1 < unitBound := by
  constructor
  · intro h
    obtain ⟨s, a, ha, rfl, rfl⟩ := hx.exists_finite
    obtain ⟨t, b, hb, rfl, rfl⟩ := hy.exists_finite
    rw [finite_add_finite] at h
    split at h
    · next hzero =>
      rw [hzero]
      exact unitBound_pos
    · exact (isFinite_nearest_iff _ Nat.one_pos).mp h
  · intro h
    exact (hx.add hy h).isFinite

theorem isFinite_sub_iff (hx : x.LiesAt p) (hy : y.LiesAt q) :
    (x - y).isFinite = true ↔ roundUnits (p - q).natAbs 1 < unitBound := isFinite_add_iff hx hy.neg

/-! ## Products -/

/-- A product of numbers that are not negative. -/
theorem LiesAt.mul_nonneg {a b : Nat} (hx : x.LiesAt a) (hy : y.LiesAt b)
    (h : roundUnits (a * b) unitsPerOne < unitBound) :
    (x * y).LiesAt (roundUnits (a * b) unitsPerOne) := by
  obtain ⟨s, a', ha, rfl, hp⟩ := hx.exists_finite
  obtain ⟨t, b', hb, rfl, hq⟩ := hy.exists_finite
  obtain rfl : a = a' := by rw [← natAbs_signed s a', ← hp, Int.natAbs_natCast]
  obtain rfl : b = b' := by rw [← natAbs_signed t b', ← hq, Int.natAbs_natCast]
  have hlies := liesAt_nearest (s != t) unitsPerOne_pos h
  rw [finite_mul_finite]
  cases hsign : s != t with
  | false => rwa [hsign] at hlies
  | true =>
    -- a minus sign stands before a zero
    have hzero : a * b = 0 := by
      cases s with
      | true =>
        change (a : Int) = -(a : Int) at hp
        rw [show a = 0 by omega, Nat.zero_mul]
      | false =>
        obtain rfl : t = true := by simpa using hsign
        change (b : Int) = -(b : Int) at hq
        rw [show b = 0 by omega, Nat.mul_zero]
    rw [hsign, hzero, roundUnits_zero unitsPerOne_pos] at hlies
    rwa [hzero, roundUnits_zero unitsPerOne_pos]

/-! ## Whole numbers -/

theorem onGrid_whole {n : Nat} (h : n ≤ 2 ^ 53) : OnGrid (n * unitsPerOne) := by
  unfold unitsPerOne
  generalize 1074 = m
  rcases Nat.lt_or_eq_of_le h with hlt | rfl
  · exact onGrid_mul_pow hlt m
  · exact Nat.pow_add 2 53 m ▸ onGrid_two_pow (53 + m)

theorem whole_lt_iff (a b : Int) : a * unitsPerOne < b * unitsPerOne ↔ a < b := by
  have hpos : (0 : Int) < unitsPerOne := Int.natCast_pos.mpr unitsPerOne_pos
  exact ⟨fun h => Int.lt_of_mul_lt_mul_right h (Int.le_of_lt hpos),
    fun h => Int.mul_lt_mul_of_pos_right h hpos⟩

theorem whole_le_iff (a b : Int) : a * unitsPerOne ≤ b * unitsPerOne ↔ a ≤ b := by
  rw [← Int.not_lt, ← Int.not_lt, whole_lt_iff]

theorem signed_natAbs_mul (n : Int) (k : Nat) : signed (n < 0) (n.natAbs * k) = n * k := by
  unfold signed
  by_cases hneg : n < 0
  · rw [decide_eq_true hneg, if_pos rfl, Int.natCast_mul, ← Int.neg_mul]
    congr 1
    omega
  · rw [decide_eq_false hneg, if_neg Bool.false_ne_true, Int.natCast_mul]
    congr 1
    omega

/-- A whole number that fits in 53 significant bits is exact. -/
theorem liesAt_ofInt_of_onGrid {n : Int} (h : OnGrid (n.natAbs * unitsPerOne))
    (hlt : n.natAbs * unitsPerOne < unitBound) : (ofInt n).LiesAt (n * unitsPerOne) := by
  have hround := roundUnits_of_onGrid h
  have hlies := liesAt_nearest (n < 0) Nat.one_pos (hround.symm ▸ hlt)
  rwa [hround, signed_natAbs_mul] at hlies

theorem liesAt_ofInt_natCast {n : Nat} (h : OnGrid (n * unitsPerOne))
    (hlt : n * unitsPerOne < unitBound) : (ofInt n).LiesAt (n * unitsPerOne) :=
  liesAt_ofInt_of_onGrid (by rwa [Int.natAbs_natCast]) (by rwa [Int.natAbs_natCast])

theorem whole_le_pow {n k : Nat} (h : n ≤ 2 ^ k) : n * unitsPerOne ≤ 2 ^ (1074 + k) := by
  rw [← unitsPerOne_mul_pow, Nat.mul_comm]
  exact Nat.mul_le_mul_left _ h

/-- Whole numbers are rounded to the nearest number. -/
theorem isNearest_ofInt (n : Int) : IsNearest (n < 0) |(n : ℚ)| (ofInt n) := by
  unfold ofInt ofRatio
  refine isNearest_nearest (n < 0) Nat.one_pos ?_
  rw [Nat.cast_one, div_one, Nat.cast_mul, Nat.cast_natAbs, Int.cast_abs]

/-- **Whole numbers of 53 bits are exact.** -/
theorem liesAt_ofInt {n : Int} (h : n.natAbs ≤ 2 ^ 53) : (ofInt n).LiesAt (n * unitsPerOne) :=
  liesAt_ofInt_of_onGrid (onGrid_whole h)
    (Nat.lt_of_le_of_lt (whole_le_pow h) (pow_lt_unitBound (by omega)))

/-- And so are powers of two. -/
theorem liesAt_ofInt_two_pow {k : Nat} (hk : k < 1024) :
    (ofInt (2 ^ k : Nat)).LiesAt ((2 ^ k : Nat) * unitsPerOne) := by
  have hpower : 2 ^ k * unitsPerOne = 2 ^ (1074 + k) := by rw [Nat.mul_comm, unitsPerOne_mul_pow]
  refine liesAt_ofInt_natCast ?_ ?_
  · rw [hpower]
    exact onGrid_two_pow (1074 + k)
  · rw [hpower]
    exact pow_lt_unitBound (by omega)

/-- **Whole numbers are finite up to halfway** between the greatest number and the power of two after
it. -/
theorem isFinite_ofInt_iff (n : Int) : (ofInt n).isFinite = true ↔ |n| < 2 ^ 1024 - 2 ^ 970 := by
  -- exponents are variables, so that no power is computed
  obtain ⟨k, hstep, hlimit, hbound⟩ :
      ∃ k, 970 = k ∧ 1024 = k + 54 ∧ 2098 = 1074 + (k + 53) + 1 := ⟨970, rfl, rfl, rfl⟩
  have hunit : unitBound = 2 ^ (1074 + (k + 53) + 1) := by
    unfold unitBound
    rw [hbound]
    rfl
  unfold ofInt ofRatio
  rw [isFinite_nearest_iff _ Nat.one_pos, hstep, hlimit, hunit,
    roundUnits_lt_two_pow_iff _ (by omega), show 1074 + (k + 53) - 53 = 1074 + k by omega,
    Nat.add_assoc, ← unitsPerOne_mul_pow, ← unitsPerOne_mul_pow, Nat.mul_comm, ← Nat.mul_add,
    Nat.mul_lt_mul_left unitsPerOne_pos, lt_sub_iff_add_lt, ← Int.natCast_natAbs]
  exact_mod_cast Iff.rfl

/-- Positive ratios that are not tiny are rounded to positive numbers. -/
theorem zero_lt_ofRatio {n : Int} {den : Nat} (hn : 0 < n) (hden : 0 < den) (h : den ≤ unitsPerOne) :
    zero.lt (ofRatio n den) = true := by
  have hunits : den * 1 ≤ n.natAbs * unitsPerOne := by
    rw [Nat.mul_one]
    exact Nat.le_trans h (Nat.le_mul_of_pos_left _ (Int.natAbs_pos.mpr (Int.ne_of_gt hn)))
  have hround : 0 < roundUnits (n.natAbs * unitsPerOne) den :=
    le_roundUnits_of_onGrid hden (onGrid_of_lt (by decide)) hunits
  have hplace : (0 : Int) < signed false (min (roundUnits (n.natAbs * unitsPerOne) den) unitBound) :=
    Int.natCast_pos.mpr (Nat.lt_min.mpr ⟨hround, unitBound_pos⟩)
  refine lt_of_position position_zero ?_ hplace
  unfold ofRatio
  rw [position_nearest _ hden, decide_eq_false (Int.not_lt.mpr (Int.le_of_lt hn))]

theorem ofInt_zero : ofInt 0 = zero := by
  unfold ofInt ofRatio
  rw [decide_eq_false (Int.lt_irrefl 0), Int.natAbs_zero, Nat.zero_mul]
  exact nearest_zero false Nat.one_pos

theorem liesAt_zero : zero.LiesAt 0 := liesAt_finite false representable_zero

theorem liesAt_one : one.LiesAt unitsPerOne := by
  have hone := liesAt_ofInt (n := 1) (by decide)
  rwa [Int.one_mul] at hone

/-- The whole part of a number. -/
theorem LiesAt.floorInt (h : x.LiesAt p) : x.floorInt = p / unitsPerOne := by
  obtain ⟨negative, units, hr, rfl, rfl⟩ := h.exists_finite
  exact Int.fdiv_eq_ediv_of_nonneg _ (Int.natCast_nonneg _)

/-- The whole part of a number that is not negative. -/
theorem LiesAt.floorInt_eq {units : Nat} (h : x.LiesAt units) :
    x.floorInt = (units / unitsPerOne : Nat) := h.floorInt

/-- The sum with a whole number is the whole number, and not the negative zero. -/
theorem LiesAt.add_ofInt {l : Int} {s : Nat} (h : x.LiesAt (l * unitsPerOne)) (hs : s < 2 ^ 53) :
    x + ofInt s = ofInt (l + s) := by
  obtain ⟨negative, units, hr, rfl, hp⟩ := h.exists_finite
  have hpos : (0 : Int) < unitsPerOne := Int.natCast_pos.mpr unitsPerOne_pos
  have hsum : signed negative units + signed false (s * unitsPerOne) =
      (l + s) * unitsPerOne := by
    rw [← hp, Int.add_mul]
    rfl
  rw [ofInt_whole hs, whole, finite_add_finite, hsum]
  split
  · next hzero =>
    rw [(Int.mul_eq_zero.mp hzero).resolve_right (Int.ne_of_gt hpos), Bool.and_false]
    exact ofInt_zero.symm
  · have hsign := whole_lt_iff (l + s) 0
    rw [Int.zero_mul] at hsign
    unfold ofInt ofRatio
    rw [Int.natAbs_mul, Int.natAbs_natCast, decide_eq_decide.mpr hsign]

/-- A number with a large whole part is large. -/
theorem mul_le_natAbs {u b : Nat} (hu : 0 < u) (h : b < (p / u).natAbs) : b * u ≤ p.natAbs := by
  have hpos : (0 : Int) < u := Int.natCast_pos.mpr hu
  have hle := Int.ediv_mul_le p (Int.ne_of_gt hpos)
  have hlt := Int.lt_ediv_add_one_mul_self p hpos
  rcases Int.lt_or_le p 0 with hneg | hnonneg
  · have hwhole : p / u < 0 := Int.ediv_neg_of_neg_of_pos hneg hpos
    have hfar := Int.mul_le_mul_of_nonneg_right (show p / u + 1 ≤ -b by omega) (Int.le_of_lt hpos)
    rw [Int.neg_mul] at hfar
    omega
  · have hwhole : 0 ≤ p / u := Int.ediv_nonneg hnonneg (Int.le_of_lt hpos)
    have hfar := Int.mul_le_mul_of_nonneg_right (show (b : Int) ≤ p / u by omega) (Int.le_of_lt hpos)
    omega

/-- The whole part of a place fits in 53 significant bits too. -/
theorem onGrid_ediv (h : OnGrid p.natAbs) : OnGrid (p / unitsPerOne * unitsPerOne).natAbs := by
  by_cases hsmall : (p / unitsPerOne).natAbs ≤ 2 ^ 53
  · rw [Int.natAbs_mul, Int.natAbs_natCast]
    exact onGrid_whole hsmall
  · -- large places are whole
    have hlarge := mul_le_natAbs unitsPerOne_pos (Nat.lt_of_not_le hsmall)
    have hdvd : unitsPerOne ∣ p.natAbs := by
      rw [Nat.mul_comm, unitsPerOne_mul_pow] at hlarge
      have hne : p.natAbs ≠ 0 := Nat.ne_of_gt (Nat.lt_of_lt_of_le (Nat.two_pow_pos _) hlarge)
      refine Nat.dvd_trans ?_ (h.dvd ((Nat.le_log2 hne).mpr hlarge))
      rw [show 1074 + 53 - 52 = 1074 + 1 from rfl, ← unitsPerOne_mul_pow]
      exact Nat.dvd_mul_right _ _
    rwa [Int.ediv_mul_cancel (Int.natCast_dvd.mpr hdvd)]

/-- And so does the whole part of a magnitude. -/
theorem onGrid_floor {units : Nat} (h : OnGrid units) : OnGrid (units / unitsPerOne * unitsPerOne) := by
  have hplace := onGrid_ediv (p := units) (by rwa [Int.natAbs_natCast])
  rwa [← Int.natCast_ediv, ← Int.natCast_mul, Int.natAbs_natCast] at hplace

theorem liesAt_whole {n : Nat} (h : n < 2 ^ 53) : (whole n h).LiesAt (n * unitsPerOne : Nat) :=
  liesAt_finite false (representable_whole h)

/-- A whole number of 32 bits is near a whole one, whatever the tolerance is. -/
theorem LiesAt.isNearInteger {n : Int} {tolerance : Binary64} (h : x.LiesAt (n * unitsPerOne))
    (hn : n.natAbs < 2 ^ 31) (htolerance : zero.lt tolerance = true) :
    x.isNearInteger tolerance = true := by
  have hlt : n.natAbs < 2 ^ 53 := Nat.lt_trans hn (by decide)
  have hplace := liesAt_whole hlt
  have hpos := h.abs.1
  rw [Int.natAbs_mul, Int.natAbs_natCast] at hpos
  have habs : x.abs = whole n.natAbs hlt :=
    eq_of_position (hpos.trans hplace.1.symm) (isNegative_abs x)
  have hdiff : (whole n.natAbs hlt - whole n.natAbs hlt).LiesAt 0 := by
    have hsum := hplace.add_exact hplace.neg (z := zero) (by
      rw [Int.add_right_neg]
      exact liesAt_zero)
    rwa [Int.add_right_neg] at hsum
  unfold Binary64.isNearInteger
  rw [habs, toInt32_whole hn, ofInt_whole hlt]
  rwa [lt_congr (hdiff.1.trans position_zero.symm)]

/-! ## Exact values -/

/-- The exact value of a finite number. -/
def Denotes (x : Binary64) (v : ℚ) : Prop := ∃ p : Int, x.LiesAt p ∧ v * unitsPerOne = p

section
variable {v : ℚ}

theorem unitsPerOne_cast_pos : (0 : ℚ) < unitsPerOne := Nat.cast_pos.mpr unitsPerOne_pos

/-- A number has one value. -/
theorem Denotes.unique {w : ℚ} (h : x.Denotes v) (h' : x.Denotes w) : v = w := by
  obtain ⟨p, hp, hv⟩ := h
  obtain ⟨q, hq, hw⟩ := h'
  rw [hp.unique hq, ← hw] at hv
  exact (mul_left_inj' (ne_of_gt unitsPerOne_cast_pos)).mp hv

/-- Whole places stand for whole numbers. -/
theorem denotes_whole {n : Int} (h : x.LiesAt (n * unitsPerOne)) : x.Denotes n :=
  ⟨_, h, by push_cast; rfl⟩

theorem eq_whole_iff_place (hv : v * unitsPerOne = p) (n : Int) : v = n ↔ p = n * unitsPerOne := by
  rw [← Int.cast_inj (α := ℚ), Int.cast_mul, Int.cast_natCast, ← hv]
  exact (mul_left_inj' (ne_of_gt unitsPerOne_cast_pos)).symm

/-- Values compare with whole numbers as their places do. -/
theorem lt_whole_iff_place (hv : v * unitsPerOne = p) (n : Int) : v < n ↔ p < n * unitsPerOne := by
  rw [← Int.cast_lt (R := ℚ), Int.cast_mul, Int.cast_natCast, ← hv]
  exact (mul_lt_mul_iff_of_pos_right unitsPerOne_cast_pos).symm

theorem whole_lt_iff_place (hv : v * unitsPerOne = p) (n : Int) : n < v ↔ n * unitsPerOne < p := by
  rw [← Int.cast_lt (R := ℚ), Int.cast_mul, Int.cast_natCast, ← hv]
  exact (mul_lt_mul_iff_of_pos_right unitsPerOne_cast_pos).symm

/-- The whole part of a value is that of its place. -/
theorem floor_iff_place (hv : v * unitsPerOne = p) (n : Int) :
    (n ≤ v ∧ v < n + 1) ↔ p / unitsPerOne = n := by
  have hnext := lt_whole_iff_place hv (n + 1)
  rw [Int.cast_add, Int.cast_one, Int.add_mul, Int.one_mul] at hnext
  rw [Int.ediv_eq_iff_of_pos (Int.natCast_pos.mpr unitsPerOne_pos), hnext, ← not_lt,
    lt_whole_iff_place hv n, Int.not_lt]

end

/-! ## Numbers below one -/

/-- A number from zero up to one. -/
theorem exists_liesAt_of_lt_one (hzero : zero.le x = true) (hone : x.lt one = true) :
    ∃ r : Nat, x.LiesAt r ∧ r < unitsPerOne := by
  obtain ⟨negative, units, hr, rfl, -⟩ := within_of_lt_one hzero hone
  have hlies := liesAt_finite negative hr
  have hge := (liesAt_zero.le_iff hlies).mp hzero
  have hlt := (hlies.lt_iff liesAt_one).mp hone
  obtain ⟨r, hr⟩ := Int.eq_ofNat_of_zero_le hge
  rw [hr] at hlies hlt
  exact ⟨r, hlies, Int.ofNat_lt.mp hlt⟩

theorem unitsPerOne_eq_pow : unitsPerOne = 2 ^ (1073 + 1) := by
  rw [← unitsPerOne_mul_pow_zero, unitsPerOne_mul_pow]

theorem pow_le_unitsPerOne : 2 ^ 53 ≤ unitsPerOne := by
  have hle : 53 ≤ 1074 := by decide
  unfold unitsPerOne
  generalize 1074 = m at hle ⊢
  exact Nat.pow_le_pow_right Nat.two_pos hle

variable {r e : Nat}

/-- A part of a rounded magnitude is less than the exact one. -/
theorem part_lt (hr : OnGrid r) (hlt : r < unitsPerOne) (he : 2 ^ 53 ≤ e) :
    roundUnits (r * roundUnits e 1) unitsPerOne < e := by
  have hlarge : 2 ^ 53 ≤ roundUnits e 1 :=
    le_roundUnits_of_onGrid Nat.one_pos (onGrid_two_pow 53) (by rwa [Nat.one_mul])
  refine lt_of_lt_roundUnits (roundUnits_mod unitsPerOne_pos) ?_
  rw [unitsPerOne_eq_pow] at hlt ⊢
  exact roundUnits_mul_lt hr hlt (by decide) (roundUnits_mod Nat.one_pos) hlarge

/-- A part of a rounded magnitude does not exceed the exact one. -/
theorem part_le (hr : OnGrid r) (hlt : r < unitsPerOne) (e : Nat) :
    roundUnits (r * roundUnits e 1) unitsPerOne ≤ e := by
  rcases Nat.lt_or_ge e (2 ^ 53) with hsmall | hlarge
  · rw [roundUnits_of_onGrid (onGrid_of_lt hsmall)]
    exact roundUnits_le_of_onGrid unitsPerOne_pos (onGrid_of_lt hsmall)
      (Nat.mul_le_mul_right e (Nat.le_of_lt hlt))
  · exact Nat.le_of_lt (part_lt hr hlt hlarge)

end

end BrickFormula.Binary64
