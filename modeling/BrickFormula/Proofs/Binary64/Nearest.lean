import BrickFormula.Proofs.Binary64.Decimals
import BrickFormula.Proofs.Binary64.Order
import Mathlib.Algebra.Order.Field.Basic
import Mathlib.Algebra.Order.Field.Rat
import Mathlib.Tactic.FieldSimp
import Mathlib.Tactic.Linarith
import Mathlib.Tactic.Ring

/-!
# The nearest number

What rounding is meant to find, without saying how: no number is nearer to the exact value, and of two
equally near ones it is the one with an even significand.  The infinities count with the magnitude that
would come after the greatest one, so that everything from halfway to it overflows.  There is one such
number, and `nearest` is it.

    IsNearest negative value x    `x` is the number with this sign nearest to the value
    IsNearest.unique              there is at most one
    isNearest_nearest             and rounding finds it
    isNearest_ofDecimal           so a decimal reads as the number nearest to its value
-/

namespace BrickFormula.Binary64

/-! ## Magnitudes -/

/-- The magnitudes of numbers in units, and the one of the infinities. -/
def IsMagnitude (units : Nat) : Prop := Representable units ∨ units = unitBound

/-- The last of the 53 significant bits is zero. -/
def EvenSignificand (units : Nat) : Prop := units / 2 ^ (units.log2 - 52) % 2 = 0

/-- The magnitude nearest to so many units, ties to even. -/
structure NearestUnits (exact : ℚ) (units : Nat) : Prop where
  isMagnitude : IsMagnitude units
  closest : ∀ other, IsMagnitude other → |exact - units| ≤ |exact - other|
  even : ∀ other, IsMagnitude other → |exact - other| = |exact - units| →
    other = units ∨ EvenSignificand units

/-- The number with the sign whose magnitude is nearest to a value. -/
def IsNearest (negative : Bool) (value : ℚ) (x : Binary64) : Prop :=
  ∃ units, NearestUnits (value * unitsPerOne) units ∧
    x.position = some (signed negative units) ∧ x.isNegative = negative

/-! ## Significands -/

/-- The magnitude fits in 53 significant bits; it may be larger than all numbers. -/
def OnGrid (units : Nat) : Prop := units % 2 ^ (units.log2 - 52) = 0

section
variable {units other : Nat}

theorem onGrid_two_pow (k : Nat) : OnGrid (2 ^ k) := by
  unfold OnGrid
  rw [Nat.log2_two_pow]
  exact Nat.mod_eq_zero_of_dvd (Nat.pow_dvd_pow 2 (Nat.sub_le _ _))

theorem onGrid_unitBound : OnGrid unitBound := by
  unfold unitBound
  generalize 2098 = m
  exact onGrid_two_pow m

theorem IsMagnitude.onGrid (h : IsMagnitude units) : OnGrid units := by
  rcases h with h | h
  · exact h.2
  · rw [h]
    exact onGrid_unitBound

theorem IsMagnitude.le_unitBound (h : IsMagnitude units) : units ≤ unitBound := by
  rcases h with h | h
  · exact Nat.le_of_lt h.1
  · rw [h]

theorem OnGrid.isMagnitude (h : OnGrid units) (hle : units ≤ unitBound) : IsMagnitude units :=
  (Nat.lt_or_eq_of_le hle).imp_left fun hlt => ⟨hlt, h⟩

/-- Large magnitudes are multiples of the spacing of smaller ones. -/
theorem OnGrid.dvd {k : Nat} (h : OnGrid units) (hk : k ≤ units.log2) : 2 ^ (k - 52) ∣ units :=
  Nat.dvd_trans (Nat.pow_dvd_pow 2 (Nat.sub_le_sub_right hk 52)) (Nat.dvd_of_mod_eq_zero h)

/-- The power of two above a magnitude is an even multiple of its spacing. -/
theorem exists_next_power (k : Nat) : ∃ c, 2 ^ (k + 1) = 2 ^ (k - 52) * (2 * c) := by
  refine ⟨2 ^ (k - (k - 52)), ?_⟩
  rw [Nat.mul_left_comm, ← Nat.pow_add, Nat.add_sub_cancel' (Nat.sub_le k 52), Nat.pow_succ,
    Nat.mul_comm]

theorem log2_mono (h : units ≤ other) : units.log2 ≤ other.log2 := by
  by_cases hzero : units = 0
  · rw [hzero]
    exact Nat.zero_le _
  · exact (Nat.le_log2 (by omega)).mpr (Nat.le_trans (Nat.log2_self_le hzero) h)

/-- One spacing above a magnitude is another one. -/
theorem onGrid_next (hu : OnGrid units) : OnGrid (units + 2 ^ (units.log2 - 52)) := by
  have hnext : units < 2 ^ (units.log2 + 1) := Nat.lt_log2_self
  have hspacing : 0 < 2 ^ (units.log2 - 52) := Nat.two_pow_pos _
  obtain ⟨c, hc⟩ := exists_next_power units.log2
  obtain ⟨a, ha⟩ := Nat.dvd_of_mod_eq_zero hu
  have hsum : units + 2 ^ (units.log2 - 52) = 2 ^ (units.log2 - 52) * (a + 1) := by
    rw [Nat.mul_succ, ← ha]
  have hle : units + 2 ^ (units.log2 - 52) ≤ 2 ^ (units.log2 + 1) := by
    rw [hsum, hc]
    refine Nat.mul_le_mul_left _ (Nat.lt_of_mul_lt_mul_left (a := 2 ^ (units.log2 - 52)) ?_)
    rwa [← ha, ← hc]
  rcases Nat.eq_or_lt_of_le hle with heq | hlt
  · rw [heq]
    exact onGrid_two_pow _
  · have hlog : (units + 2 ^ (units.log2 - 52)).log2 = units.log2 := by
      refine Nat.le_antisymm ?_ (log2_mono (Nat.le_add_right _ _))
      exact Nat.le_of_lt_succ ((Nat.log2_lt (by omega)).mpr hlt)
    unfold OnGrid
    rw [hlog, hsum]
    exact Nat.mul_mod_right _ _

/-- **Between two even significands there is another magnitude**, one spacing above the lower one. -/
theorem lt_of_even (hu : OnGrid units) (hv : OnGrid other) (hlt : units < other)
    (hueven : EvenSignificand units) (hveven : EvenSignificand other) :
    units + 2 ^ (units.log2 - 52) < other := by
  have hlog := log2_mono (Nat.le_of_lt hlt)
  have hspacing : 0 < 2 ^ (units.log2 - 52) := Nat.two_pow_pos _
  obtain ⟨c, hc⟩ := exists_next_power units.log2
  obtain ⟨a, ha⟩ := Nat.dvd_of_mod_eq_zero hu
  obtain ⟨b, hb⟩ := hv.dvd hlog
  have haeven : a % 2 = 0 := by
    rw [← Nat.div_eq_of_eq_mul_right hspacing ha]
    exact hueven
  have hab : a < b := by
    rw [ha, hb] at hlt
    exact Nat.lt_of_mul_lt_mul_left hlt
  have hsucc : a + 1 ≠ b := by
    rintro rfl
    rcases Nat.eq_or_lt_of_le hlog with heq | hless
    · have hbeven : (a + 1) % 2 = 0 := by
        rw [← Nat.div_eq_of_eq_mul_right hspacing hb, heq]
        exact hveven
      omega
    · -- the next power of two is an even multiple of the spacing, and `units` is below it
      have hpower : 2 ^ (units.log2 + 1) ≤ other := (Nat.le_log2 (by omega)).mp hless
      have hnext : units < 2 ^ (units.log2 + 1) := Nat.lt_log2_self
      rw [hc, hb] at hpower
      have hle := Nat.le_of_mul_le_mul_left hpower hspacing
      have hac : a < 2 * c := by
        refine Nat.lt_of_mul_lt_mul_left (a := 2 ^ (units.log2 - 52)) ?_
        rwa [← ha, ← hc]
      omega
  calc units + 2 ^ (units.log2 - 52) = 2 ^ (units.log2 - 52) * (a + 1) := by rw [Nat.mul_succ, ← ha]
    _ < 2 ^ (units.log2 - 52) * b := Nat.mul_lt_mul_of_pos_left (by omega) hspacing
    _ = other := hb.symm

end

/-- **There is at most one nearest magnitude.** -/
theorem NearestUnits.unique {exact : ℚ} {units other : Nat} (h : NearestUnits exact units)
    (h' : NearestUnits exact other) : units = other := by
  wlog hlt : units < other generalizing units other
  · rcases Nat.eq_or_lt_of_le (Nat.le_of_not_lt hlt) with heq | hgt
    · exact heq.symm
    · exact (this h' h hgt).symm
  exfalso
  have hdistance : |exact - units| = |exact - other| :=
    le_antisymm (h.closest other h'.isMagnitude) (h'.closest units h.isMagnitude)
  have hueven := (h.even other h'.isMagnitude hdistance.symm).resolve_left (Nat.ne_of_gt hlt)
  have hveven := (h'.even units h.isMagnitude hdistance).resolve_left (Nat.ne_of_lt hlt)
  have hbetween := lt_of_even h.isMagnitude.onGrid h'.isMagnitude.onGrid hlt hueven hveven
  have hspacing : 0 < 2 ^ (units.log2 - 52) := Nat.two_pow_pos _
  have hmiddle : IsMagnitude (units + 2 ^ (units.log2 - 52)) :=
    (onGrid_next h.isMagnitude.onGrid).isMagnitude
      (Nat.le_trans (Nat.le_of_lt hbetween) h'.isMagnitude.le_unitBound)
  have hcloser := h.closest _ hmiddle
  generalize 2 ^ (units.log2 - 52) = s at *
  -- the exact value is halfway between the two, so that what lies between is nearer
  have hu : (units : ℚ) < other := Nat.cast_lt.mpr hlt
  have hs : (0 : ℚ) < s := Nat.cast_pos.mpr hspacing
  have hm : ((units + s : Nat) : ℚ) < other := Nat.cast_lt.mpr hbetween
  rw [Nat.cast_add] at hm hcloser
  have hhalf : exact - units = other - exact := by
    rcases abs_eq_abs.mp hdistance with hsame | hopposite
    · linarith
    · linarith
  have hnearer : |exact - (units + s)| < exact - units := by
    rw [abs_lt]
    constructor <;> linarith
  rw [abs_of_pos (by linarith : 0 < exact - (units : ℚ))] at hcloser
  linarith

theorem IsNearest.unique {negative : Bool} {value : ℚ} {x y : Binary64}
    (hx : IsNearest negative value x) (hy : IsNearest negative value y) : x = y := by
  obtain ⟨units, hunits, hxpos, hxsign⟩ := hx
  obtain ⟨other, hother, hypos, hysign⟩ := hy
  obtain rfl := hunits.unique hother
  exact eq_of_position (hxpos.trans hypos.symm) (hxsign.trans hysign.symm)

/-! ## Rounding -/

/-- The distance of a magnitude from a ratio, in parts of the denominator. -/
def distance (num den units : Nat) : Nat := ((num : Int) - (den * units : Nat)).natAbs

theorem abs_sub_eq_distance {den : Nat} (hden : 0 < den) (num units : Nat) :
    |(num / den : ℚ) - units| = (distance num den units : ℚ) / den := by
  have hpos : (0 : ℚ) < den := Nat.cast_pos.mpr hden
  have hdiff : (num / den : ℚ) - units = ((num : Int) - (den * units : Nat) : Int) / den := by
    push_cast
    field_simp
  rw [hdiff, abs_div, abs_of_pos hpos, distance, Nat.cast_natAbs, Int.cast_abs]

section
variable {num den : Nat}

theorem roundHalfEven_cases (num den : Nat) :
    roundHalfEven num den = num / den ∧ 2 * (num % den) ≤ den ∧
      (2 * (num % den) = den → num / den % 2 = 0) ∨
    roundHalfEven num den = num / den + 1 ∧ den ≤ 2 * (num % den) ∧
      (2 * (num % den) = den → num / den % 2 = 1) := by
  unfold roundHalfEven
  simp only
  split
  · exact .inl ⟨rfl, by omega, by omega⟩
  · split
    · exact .inr ⟨rfl, by omega, by omega⟩
    · rcases Nat.mod_two_eq_zero_or_one (num / den) with heven | hodd
      · exact .inl ⟨by omega, by omega, fun _ => heven⟩
      · exact .inr ⟨by omega, by omega, fun _ => hodd⟩

variable (num) in
/-- **Half-even rounding finds the nearest whole number**, and an even one where two are. -/
theorem distance_roundHalfEven (hden : 0 < den) (q : Nat) :
    distance num den (roundHalfEven num den) < distance num den q ∨
    distance num den (roundHalfEven num den) = distance num den q ∧
      (q = roundHalfEven num den ∨ roundHalfEven num den % 2 = 0) := by
  have hdecomp := Nat.div_add_mod num den
  have hmod := Nat.mod_lt num hden
  have hcases := roundHalfEven_cases num den
  generalize roundHalfEven num den = k at *
  generalize num % den = r at *
  generalize num / den = a at *
  have hsucc : den * (a + 1) = den * a + den := Nat.mul_succ den a
  have hplace : den * q + den ≤ den * a ∨ q = a ∨ q = a + 1 ∨ den * a + 2 * den ≤ den * q := by
    rcases Nat.lt_trichotomy q a with hlt | heq | hgt
    · exact .inl (Nat.mul_le_mul_left den hlt)
    · exact .inr (.inl heq)
    · rcases Nat.eq_or_lt_of_le hgt with heq | hgt
      · exact .inr (.inr (.inl heq.symm))
      · refine .inr (.inr (.inr ?_))
        have hle : den * (a + 2) ≤ den * q := Nat.mul_le_mul_left den hgt
        rwa [Nat.mul_add, Nat.mul_comm den 2] at hle
  unfold distance
  rcases hcases with ⟨rfl, hhalf, htie⟩ | ⟨rfl, hhalf, htie⟩ <;>
    rcases hplace with hless | rfl | rfl | hmore <;> omega

end

theorem distance_mul (num den s q : Nat) : distance num (den * s) q = distance num den (s * q) := by
  unfold distance
  rw [Nat.mul_assoc]

theorem evenSignificand_two_pow (k : Nat) : EvenSignificand (2 ^ (k + 1)) := by
  unfold EvenSignificand
  rw [Nat.log2_two_pow, Nat.pow_div (Nat.sub_le _ _) Nat.two_pos,
    show k + 1 - (k + 1 - 52) = min k 51 + 1 by omega, Nat.pow_succ]
  exact Nat.mul_mod_left _ _

section
variable {num den : Nat}

/-- A ratio that is not below one has the power of two of its whole part below it. -/
theorem mul_pow_log2_le (hone : num / den ≠ 0) :
    den * 2 ^ (num / den).log2 ≤ num :=
  Nat.le_trans (Nat.mul_le_mul_left den (Nat.log2_self_le hone)) (Nat.mul_div_le num den)

variable (num) in
/-- What is rounded to an even multiple of the spacing has an even significand. -/
theorem evenSignificand_roundUnits (hden : 0 < den)
    (heven : roundHalfEven num (den * spacing num den) % 2 = 0) :
    EvenSignificand (roundUnits num den) := by
  have hnext : num ≤ den * 2 ^ ((num / den).log2 + 1) :=
    Nat.le_of_lt (Nat.mul_comm _ den ▸ (Nat.div_lt_iff_lt_mul hden).mp Nat.lt_log2_self)
  rcases Nat.eq_or_lt_of_le (roundUnits_le hden hnext) with heq | hlt
  · rw [heq]
    exact evenSignificand_two_pow _
  · have hlow : (num / den).log2 ≤ (roundUnits num den).log2 := by
      by_cases hzero : num / den = 0
      · rw [hzero]
        exact Nat.zero_le _
      · have hle := le_roundUnits hden (mul_pow_log2_le hzero)
        have hne : roundUnits num den ≠ 0 := Nat.ne_of_gt (Nat.lt_of_lt_of_le (Nat.two_pow_pos _) hle)
        exact (Nat.le_log2 hne).mpr hle
    have hhigh : (roundUnits num den).log2 ≤ (num / den).log2 := by
      by_cases hzero : roundUnits num den = 0
      · rw [hzero]
        exact Nat.zero_le _
      · exact Nat.le_of_lt_succ ((Nat.log2_lt hzero).mpr hlt)
    have hspacing : 2 ^ ((roundUnits num den).log2 - 52) = spacing num den := by
      rw [Nat.le_antisymm hhigh hlow]
      rfl
    unfold EvenSignificand
    rw [hspacing]
    unfold roundUnits
    rwa [Nat.mul_div_cancel _ (spacing_pos num den)]

variable (num) in
/-- **Rounding finds the nearest of all magnitudes**, also of those that are too large. -/
theorem distance_roundUnits (hden : 0 < den) {units : Nat} (h : OnGrid units) :
    distance num den (roundUnits num den) < distance num den units ∨
    distance num den (roundUnits num den) = distance num den units ∧
      (units = roundUnits num den ∨ EvenSignificand (roundUnits num den)) := by
  have hround (q : Nat) :=
    distance_roundHalfEven num (Nat.mul_pos hden (spacing_pos num den)) q
  have hk : roundUnits num den =
      spacing num den * roundHalfEven num (den * spacing num den) := Nat.mul_comm _ _
  have heven := evenSignificand_roundUnits num hden
  simp only [distance_mul] at hround
  rw [← hk] at hround
  by_cases hbelow : units < 2 ^ (num / den).log2 ∧ num / den ≠ 0
  · -- the power of two below the ratio is nearer
    obtain ⟨c, hc⟩ := spacing_dvd (Nat.le_refl (num / den).log2)
    have hpower := mul_pow_log2_le hbelow.2
    have hless : den * units < den * 2 ^ (num / den).log2 := Nat.mul_lt_mul_of_pos_left hbelow.1 hden
    have hnearer : distance num den (2 ^ (num / den).log2) < distance num den units := by
      unfold distance
      omega
    rw [hc] at hnearer
    exact .inl ((hround c).elim (Nat.lt_trans · hnearer) fun htie => htie.1 ▸ hnearer)
  · have hdvd : spacing num den ∣ units := by
      by_cases hzero : num / den = 0
      · unfold spacing
        rw [hzero]
        exact Nat.one_dvd _
      · have hle : 2 ^ (num / den).log2 ≤ units := Nat.le_of_not_lt fun hlt => hbelow ⟨hlt, hzero⟩
        have hne : units ≠ 0 := Nat.ne_of_gt (Nat.lt_of_lt_of_le (Nat.two_pow_pos _) hle)
        exact h.dvd ((Nat.le_log2 hne).mpr hle)
    obtain ⟨q, rfl⟩ := hdvd
    refine (hround q).imp_right fun ⟨heq, htie⟩ => ⟨heq, htie.imp ?_ heven⟩
    rintro rfl
    exact hk.symm

/-- Where the bound is too small, it is the nearest of the magnitudes up to it. -/
theorem distance_unitBound (hden : 0 < den) (hlarge : unitBound < roundUnits num den) {units : Nat}
    (h : units < unitBound) : distance num den unitBound < distance num den units := by
  have hround := distance_roundUnits num hden onGrid_unitBound
  have hless := Nat.mul_lt_mul_of_pos_left h hden
  have hmore := Nat.mul_lt_mul_of_pos_left hlarge hden
  unfold distance at *
  omega

/-- **Rounding gives the nearest magnitude**, which is the bound for all that is too large. -/
theorem nearestUnits_min (hden : 0 < den) :
    NearestUnits (num / den) (min (roundUnits num den) unitBound) := by
  have hpos : (0 : ℚ) < den := Nat.cast_pos.mpr hden
  have hgrid : OnGrid (roundUnits num den) := roundUnits_mod hden
  have hbest {units : Nat} (h : IsMagnitude units) :
      distance num den (min (roundUnits num den) unitBound) < distance num den units ∨
      distance num den (min (roundUnits num den) unitBound) = distance num den units ∧
        (units = min (roundUnits num den) unitBound ∨
          EvenSignificand (min (roundUnits num den) unitBound)) := by
    rcases Nat.lt_or_ge unitBound (roundUnits num den) with hlarge | hle
    · rw [Nat.min_eq_right (Nat.le_of_lt hlarge)]
      rcases Nat.eq_or_lt_of_le h.le_unitBound with heq | hlt
      · exact .inr ⟨by rw [heq], .inl heq⟩
      · exact .inl (distance_unitBound hden hlarge hlt)
    · rw [Nat.min_eq_left hle]
      exact distance_roundUnits num hden h.onGrid
  refine ⟨?_, ?_, ?_⟩
  · refine OnGrid.isMagnitude ?_ (Nat.min_le_right _ _)
    rcases Nat.le_total (roundUnits num den) unitBound with hle | hle
    · rwa [Nat.min_eq_left hle]
    · rw [Nat.min_eq_right hle]
      exact onGrid_unitBound
  · intro other hother
    rw [abs_sub_eq_distance hden, abs_sub_eq_distance hden, div_le_div_iff_of_pos_right hpos,
      Nat.cast_le]
    rcases hbest hother with hlt | ⟨heq, -⟩
    · exact Nat.le_of_lt hlt
    · exact Nat.le_of_eq heq
  · intro other hother hdistance
    rw [abs_sub_eq_distance hden, abs_sub_eq_distance hden, div_left_inj' (ne_of_gt hpos),
      Nat.cast_inj] at hdistance
    rcases hbest hother with hlt | ⟨-, htie⟩
    · exact absurd hdistance (Nat.ne_of_gt hlt)
    · exact htie

theorem position_nearest (negative : Bool) (hden : 0 < den) :
    (nearest negative num den).position =
      some (signed negative (min (roundUnits num den) unitBound)) := by
  unfold nearest
  split
  · next h =>
    rw [Nat.min_eq_left (Nat.le_of_lt h.1)]
    rfl
  · next h =>
    have hle : unitBound ≤ roundUnits num den :=
      Nat.le_of_not_lt fun hlt => h ⟨hlt, roundUnits_mod hden⟩
    rw [Nat.min_eq_right hle]
    rfl

theorem isNegative_nearest (negative : Bool) (num den : Nat) :
    (nearest negative num den).isNegative = negative := by
  unfold nearest
  split <;> rfl

/-- **Rounding gives the nearest number.** -/
theorem isNearest_nearest (negative : Bool) {value : ℚ} (hden : 0 < den)
    (hvalue : value * unitsPerOne = num / den) :
    IsNearest negative value (nearest negative num den) :=
  ⟨_, hvalue ▸ nearestUnits_min hden, position_nearest negative hden,
    isNegative_nearest negative num den⟩

end

/-! ## Decimals -/

theorem ten_zpow (e : Int) : (10 : ℚ) ^ e = 10 ^ e.toNat / 10 ^ (-e).toNat := by
  rcases Int.le_total 0 e with h | h
  · obtain ⟨n, rfl⟩ := Int.eq_ofNat_of_zero_le h
    rw [zpow_natCast, Int.toNat_natCast, Int.toNat_neg_natCast, pow_zero, div_one]
  · obtain ⟨n, hn⟩ := Int.eq_ofNat_of_zero_le (Int.neg_nonneg_of_nonpos h)
    obtain rfl : e = -n := by omega
    rw [zpow_neg, zpow_natCast, Int.neg_neg, Int.toNat_natCast, Int.toNat_neg_natCast, pow_zero,
      one_div]

/-- **A decimal reads as the number nearest to its value.** -/
theorem isNearest_ofDecimal (negative : Bool) (c : Nat) (e : Int) :
    IsNearest negative (c * 10 ^ e) (ofDecimal negative c e) := by
  rw [ofDecimal_eq_nearest]
  apply isNearest_nearest negative (Nat.pow_pos (by decide))
  rw [ten_zpow, Nat.cast_mul, Nat.cast_mul, Nat.cast_pow, Nat.cast_pow, Nat.cast_ofNat]
  ring

end BrickFormula.Binary64
