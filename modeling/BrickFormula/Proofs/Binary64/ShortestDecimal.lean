import BrickFormula.Proofs.Binary64.Bounds

/-!
# Shortest decimals

The search for the shortest decimal of a number tries one digit, two digits and so on.  The digits of a
whole number that is not too large are found at last, so nothing longer is tried: the shortest decimal of
a whole number has no digits behind the point, and that of any other number has.

    lt_digitCount, digitCount_le    how long a number may be
    searchShortest_exponent         the search stops where some neighbour reads back
    units_of_number                 a decimal without digits behind the point is read exactly
    units_le_of_number              a decimal below a power of ten is read as no more
    shortestDecimal_whole           the shortest decimal of a whole number
    shortestDecimal_fraction        the shortest decimal of any other number
    shortestDecimal_size            how large the shortest decimals are
-/

namespace BrickFormula.Binary64

/-! ## Digits -/

section
variable {n m : Nat}

/-- A number from a power of ten on has more digits, if the estimate by its bits allows them. -/
theorem lt_digitCount (h : 10 ^ m ≤ n) (hlog : m < n.log2 * 30103 / 100000 + 2) :
    m < digitCount n := by
  have hpower {k : Nat} (hk : n < Nat.pow 10 k) : m < k :=
    (Nat.pow_lt_pow_iff_right (by decide)).mp (Nat.lt_of_le_of_lt h hk)
  unfold digitCount
  simp only
  split
  · next hlow => exact hpower hlow
  · split
    · next hlow => exact hpower hlow
    · exact hlog

theorem digitCount_le (n : Nat) : digitCount n ≤ n.log2 * 30103 / 100000 + 2 := by
  unfold digitCount
  simp only
  split
  · omega
  · split <;> omega

end

/-! ## The search -/

section
variable {negative : Bool} {x : Binary64} {exact d : Decimal}

/-- The candidates of a length drop the same number of digits, and one of them is rounded up. -/
theorem bounds_of_mem_neighbours {digits : Nat} (h : d ∈ neighbours exact digits) :
    d.coefficient ≤ exact.coefficient + 1 ∧
      d.exponent = exact.exponent + (digitCount exact.coefficient - digits : Nat) := by
  have hbelow := Nat.div_le_self exact.coefficient
    (Nat.pow 10 (digitCount exact.coefficient - digits))
  unfold neighbours at h
  simp only at h
  split at h
  all_goals
    simp only [List.mem_cons, List.not_mem_nil, or_false] at h
    obtain rfl | rfl := h
  · exact ⟨Nat.le_succ_of_le hbelow, rfl⟩
  · exact ⟨Nat.succ_le_succ hbelow, rfl⟩
  · exact ⟨Nat.succ_le_succ hbelow, rfl⟩
  · exact ⟨Nat.le_succ_of_le hbelow, rfl⟩

/-- What the digits that are dropped leave is a neighbour, if they are zeros. -/
theorem mem_neighbours {n digits dropped : Nat}
    (hdropped : digitCount exact.coefficient - digits = dropped)
    (hcoefficient : exact.coefficient = n * 10 ^ dropped) :
    ⟨n, exact.exponent + dropped⟩ ∈ neighbours exact digits := by
  have hpower : 0 < Nat.pow 10 dropped := Nat.pow_pos (by decide)
  have hzeros : exact.coefficient = n * Nat.pow 10 dropped := hcoefficient
  unfold neighbours
  simp only [hdropped]
  rw [hzeros, Nat.mul_div_cancel n hpower, Nat.mul_mod_left, Nat.mul_zero, if_pos (.inl hpower)]
  exact List.mem_cons_self

/-- **The search stops where some neighbour reads back**, so that what it finds has no more digits. -/
theorem searchShortest_exponent {k : Nat} (hfound : ∃ d ∈ neighbours exact k, readsAs negative x d)
    (fuel digits : Nat) (hlow : digits ≤ k) (hhigh : k < digits + fuel) :
    exact.exponent + (digitCount exact.coefficient - k : Nat) ≤
      (searchShortest negative x exact fuel digits).exponent := by
  induction fuel generalizing digits with
  | zero => omega
  | succ fuel ih =>
    unfold searchShortest
    split
    · next d hd =>
      rw [(bounds_of_mem_neighbours (List.mem_of_find?_eq_some hd)).2]
      omega
    · next hnone =>
      refine ih (digits + 1) (Nat.lt_of_le_of_ne hlow fun heq => ?_) (by omega)
      obtain ⟨d, hd, hreads⟩ := hfound
      exact List.find?_eq_none.mp hnone d (heq ▸ hd) hreads

theorem exponent_le_stripZeros (fuel : Nat) (d : Decimal) :
    d.exponent ≤ (stripZeros fuel d).exponent := by
  induction fuel generalizing d with
  | zero => exact Int.le_refl _
  | succ fuel ih =>
    unfold stripZeros
    split
    · exact Int.le_trans (Int.le_of_lt (Int.lt_succ _)) (ih _)
    · exact Int.le_refl _

/-- Each step of fuel takes away one zero. -/
theorem coefficient_stripZeros {fuel : Nat} (hne : d.coefficient ≠ 0)
    (h : d.coefficient < 10 ^ fuel) : (stripZeros fuel d).coefficient % 10 ≠ 0 := by
  induction fuel generalizing d with
  | zero =>
    rw [Nat.pow_zero] at h
    omega
  | succ fuel ih =>
    rw [Nat.pow_succ] at h
    unfold stripZeros
    split
    · exact ih (show d.coefficient / 10 ≠ 0 by omega) (show d.coefficient / 10 < 10 ^ fuel by omega)
    · next hlast => exact fun hzero => hlast ⟨hne, hzero⟩

end

/-! ## Decimals without digits behind the point -/

section
variable {negative : Bool} {units num den : Nat} {hr : Representable units} {d : Decimal}

theorem roundUnits_of_nearest (h : nearest negative num den = .finite negative units hr) :
    roundUnits num den = units := by
  unfold nearest at h
  split at h
  · injection h
  · cases h

theorem roundUnits_of_number (h : d.number negative = .finite negative units hr) :
    roundUnits (d.coefficient * 10 ^ d.exponent.toNat * unitsPerOne) (10 ^ (-d.exponent).toNat) =
      units := by
  unfold Decimal.number at h
  rw [ofDecimal_eq_nearest] at h
  exact roundUnits_of_nearest h

/-- **A decimal without digits behind the point is read exactly**, as a number below `2 ^ 53`. -/
theorem units_of_number (h : d.number negative = .finite negative units hr) (hexp : 0 ≤ d.exponent)
    (hlt : units < 2 ^ 53 * unitsPerOne) :
    units = d.coefficient * 10 ^ d.exponent.toNat * unitsPerOne := by
  have hround := roundUnits_of_number h
  rw [show (-d.exponent).toNat = 0 by omega, Nat.pow_zero] at hround
  rw [← hround]
  generalize d.coefficient * 10 ^ d.exponent.toNat = n at *
  refine roundUnits_of_onGrid (onGrid_whole (Nat.le_of_not_lt fun hlarge => ?_))
  have hge : 2 ^ 53 * unitsPerOne ≤ roundUnits (n * unitsPerOne) 1 := by
    refine le_roundUnits_of_onGrid Nat.one_pos (onGrid_whole (Nat.le_refl _)) ?_
    rw [Nat.one_mul]
    exact Nat.mul_le_mul_right _ (Nat.le_of_lt hlarge)
  omega

/-- A whole number is read exactly. -/
theorem ofDecimal_units {n : Nat} (negative : Bool) (hr : Representable (n * unitsPerOne)) :
    ofDecimal negative n 0 = .finite negative (n * unitsPerOne) hr := by
  have hexact := nearest_units negative hr Nat.one_pos
  rw [Nat.mul_one] at hexact
  rw [ofDecimal_eq_nearest]
  show nearest negative (n * 1 * unitsPerOne) 1 = _
  rwa [Nat.mul_one]

/-- **A decimal below a power of ten is read as no more.** -/
theorem units_le_of_number (h : d.number negative = .finite negative units hr) (hexp : d.exponent ≤ 0)
    {length k : Nat} (hlength : d.coefficient < 10 ^ length) (hk : length + d.exponent ≤ k)
    (hsmall : k ≤ 15) : units ≤ 10 ^ k * unitsPerOne := by
  have hround := roundUnits_of_number h
  rw [show d.exponent.toNat = 0 by omega, Nat.pow_zero, Nat.mul_one] at hround
  have hgrid : OnGrid (10 ^ k * unitsPerOne) := onGrid_whole <|
    Nat.le_trans (Nat.pow_le_pow_right (by decide) hsmall) (by decide)
  rw [← hround]
  refine roundUnits_le_of_onGrid (Nat.pow_pos (by decide)) hgrid ?_
  rw [← Nat.mul_assoc, ← Nat.pow_add]
  refine Nat.mul_le_mul_right _ (Nat.le_trans (Nat.le_of_lt hlength) ?_)
  exact Nat.pow_le_pow_right (by decide) (by omega)

end

/-! ## Shortest decimals -/

section
variable {n : Nat}

theorem coefficient_exactDecimal (n : Nat) :
    (exactDecimal (n * unitsPerOne)).coefficient = n * 10 ^ 1074 := by
  show n * unitsPerOne * Nat.pow 5 1074 = n * 10 ^ 1074
  unfold unitsPerOne
  generalize 1074 = m
  calc n * 2 ^ m * 5 ^ m = n * (2 * 5) ^ m := by rw [Nat.mul_assoc, ← Nat.mul_pow]
    _ = n * 10 ^ m := rfl

/-- The exact digits of a whole number: 1074 of them stand behind the point. -/
theorem digitCount_whole (hpos : 0 < n) (h : n < 2 ^ 31) :
    1074 < digitCount (n * 10 ^ 1074) ∧ digitCount (n * 10 ^ 1074) ≤ 1074 + 17 := by
  have hlow : 2 ^ 3567 ≤ 10 ^ 1074 := by decide +kernel
  obtain ⟨bits, hbits, hhigh⟩ : ∃ bits, bits = 3568 ∧ 10 ^ 1074 ≤ 2 ^ bits :=
    ⟨3568, rfl, by decide +kernel⟩
  have hmany := lt_digitCount (n := n * 10 ^ 1074) (m := 1074) (Nat.le_mul_of_pos_left _ hpos)
  have hfew := digitCount_le (n * 10 ^ 1074)
  have hle : 2 ^ 3567 ≤ n * 10 ^ 1074 := Nat.le_trans hlow (Nat.le_mul_of_pos_left _ hpos)
  have hlt : n * 10 ^ 1074 < 2 ^ (31 + bits) := by
    rw [Nat.pow_add]
    exact Nat.mul_lt_mul_of_lt_of_le h hhigh (Nat.two_pow_pos _)
  generalize n * 10 ^ 1074 = digits at *
  have hne : digits ≠ 0 := Nat.ne_of_gt (Nat.lt_of_lt_of_le (Nat.two_pow_pos _) hle)
  have hge := (Nat.le_log2 hne).mpr hle
  have hless := (Nat.log2_lt hne).mpr hlt
  omega

/-- The shortest decimal of a whole number is found before digits behind the point are tried. -/
theorem searchShortest_whole (negative : Bool) (hpos : 0 < n) (h : n < 2 ^ 31)
    (hr : Representable (n * unitsPerOne)) :
    0 ≤ (searchShortest negative (.finite negative (n * unitsPerOne) hr)
      (exactDecimal (n * unitsPerOne)) 17 1).exponent := by
  obtain ⟨hmany, hfew⟩ := digitCount_whole hpos h
  have hcoefficient := coefficient_exactDecimal n
  obtain ⟨k, hk⟩ := Nat.exists_eq_add_of_le (Nat.le_of_lt hmany)
  have hdropped : digitCount (exactDecimal (n * unitsPerOne)).coefficient - k = 1074 := by
    rw [hcoefficient]
    omega
  have hmem : (⟨n, 0⟩ : Decimal) ∈ neighbours (exactDecimal (n * unitsPerOne)) k :=
    mem_neighbours hdropped hcoefficient
  have hreads : readsAs negative (.finite negative (n * unitsPerOne) hr) ⟨n, 0⟩ :=
    decide_eq_true (ofDecimal_units negative hr)
  have hexponent := searchShortest_exponent ⟨_, hmem, hreads⟩ 17 1 (by omega) (by omega)
  rw [hcoefficient] at hexponent
  refine Int.le_trans ?_ hexponent
  show (0 : Int) ≤ -1074 + (digitCount (n * 10 ^ 1074) - k : Nat)
  omega

/-- **The shortest decimal of a whole number** has no digits behind the point. -/
theorem shortestDecimal_whole (negative : Bool) (hpos : 0 < n) (h : n < 2 ^ 31)
    (hr : Representable (n * unitsPerOne)) :
    0 ≤ (shortestDecimal negative (n * unitsPerOne) hr).exponent ∧
      (shortestDecimal negative (n * unitsPerOne) hr).coefficient *
        10 ^ (shortestDecimal negative (n * unitsPerOne) hr).exponent.toNat = n ∧
      (shortestDecimal negative (n * unitsPerOne) hr).coefficient % 10 ≠ 0 := by
  have hlt : n * unitsPerOne < 2 ^ 53 * unitsPerOne :=
    Nat.mul_lt_mul_of_pos_right (Nat.lt_trans h (by decide)) unitsPerOne_pos
  have hread := number_searchShortest (number_exactDecimal negative hr) 17 1
  have hexponent := searchShortest_whole negative hpos h hr
  unfold shortestDecimal
  generalize searchShortest negative _ _ 17 1 = d at *
  have hvalue {d : Decimal} (hd : d.number negative = .finite negative (n * unitsPerOne) hr)
      (hexp : 0 ≤ d.exponent) : d.coefficient * 10 ^ d.exponent.toNat = n :=
    (Nat.mul_right_cancel unitsPerOne_pos (units_of_number hd hexp hlt)).symm
  have hstripped := Int.le_trans hexponent (exponent_le_stripZeros 20 d)
  refine ⟨hstripped, hvalue ((number_stripZeros negative 20 d).trans hread) hstripped, ?_⟩
  have hfound := hvalue hread hexponent
  have hle : d.coefficient ≤ n := hfound ▸ Nat.le_mul_of_pos_right _ (Nat.pow_pos (by decide))
  refine coefficient_stripZeros (fun hzero => ?_)
    (Nat.lt_of_le_of_lt hle (Nat.lt_trans h (by decide)))
  rw [hzero, Nat.zero_mul] at hfound
  omega

/-- **The shortest decimal of any other number** has digits behind the point. -/
theorem shortestDecimal_fraction (negative : Bool) {units : Nat} (hr : Representable units)
    (hlt : units < 2 ^ 53 * unitsPerOne) (hdvd : ¬ unitsPerOne ∣ units) :
    (shortestDecimal negative units hr).exponent < 0 := by
  refine Int.lt_of_not_ge fun hexp => hdvd ?_
  rw [units_of_number (number_shortestDecimal negative hr) hexp hlt]
  exact Nat.dvd_mul_left _ _

end

/-! ## Sizes -/

/-- What the search finds is not larger than the exact expansion allows. -/
theorem searchShortest_size (negative : Bool) (x : Binary64) (exact : Decimal) (fuel digits : Nat) :
    (searchShortest negative x exact fuel digits).coefficient ≤ exact.coefficient + 1 ∧
      exact.exponent ≤ (searchShortest negative x exact fuel digits).exponent ∧
      (searchShortest negative x exact fuel digits).exponent ≤
        exact.exponent + digitCount exact.coefficient := by
  induction fuel generalizing digits with
  | zero => exact ⟨Nat.le_succ _, Int.le_refl _, Int.le_add_of_nonneg_right (Int.natCast_nonneg _)⟩
  | succ fuel ih =>
    unfold searchShortest
    split
    · next d hd =>
      obtain ⟨hcoefficient, hexponent⟩ := bounds_of_mem_neighbours (List.mem_of_find?_eq_some hd)
      rw [hexponent]
      exact ⟨hcoefficient, by omega, by omega⟩
    · exact ih (digits + 1)

theorem stripZeros_size (fuel : Nat) (d : Decimal) :
    (stripZeros fuel d).coefficient ≤ d.coefficient ∧
      (stripZeros fuel d).exponent ≤ d.exponent + fuel := by
  induction fuel generalizing d with
  | zero => exact ⟨Nat.le_refl _, Int.le_of_eq (Int.add_zero _).symm⟩
  | succ fuel ih =>
    unfold stripZeros
    split
    · obtain ⟨hcoefficient, hexponent⟩ := ih ⟨d.coefficient / 10, d.exponent + 1⟩
      refine ⟨Nat.le_trans hcoefficient (Nat.div_le_self _ _), ?_⟩
      simp only at hexponent
      omega
    · exact ⟨Nat.le_refl _, by omega⟩

/-- **How large the shortest decimals are**, roughly. -/
theorem shortestDecimal_size (negative : Bool) {units : Nat} (hr : Representable units) :
    (Nat.toDigits 10 (shortestDecimal negative units hr).coefficient).length ≤ 1400 ∧
      (shortestDecimal negative units hr).exponent.natAbs ≤ 1400 := by
  have hsearch := searchShortest_size negative (.finite negative units hr) (exactDecimal units) 17 1
  unfold shortestDecimal
  generalize searchShortest negative _ _ 17 1 = d at *
  obtain ⟨hcoefficient, hexponent⟩ := stripZeros_size 20 d
  have hgrows := exponent_le_stripZeros 20 d
  generalize stripZeros 20 d = shortest at *
  have hexact : (exactDecimal units).exponent = -1074 := rfl
  have hbound : (exactDecimal units).coefficient < unitBound * Nat.pow 5 1074 := by
    show units * Nat.pow 5 1074 < unitBound * Nat.pow 5 1074
    generalize 1074 = m
    exact Nat.mul_lt_mul_of_pos_right hr.1 (Nat.pow_pos (by decide))
  obtain ⟨length, hlength, hten⟩ : ∃ k, k = 1400 ∧ unitBound * Nat.pow 5 1074 < 10 ^ k :=
    ⟨1400, rfl, by decide +kernel⟩
  obtain ⟨bits, hbits, htwo⟩ : ∃ bits, bits = 4600 ∧ unitBound * Nat.pow 5 1074 ≤ 2 ^ bits :=
    ⟨4600, rfl, by decide +kernel⟩
  generalize exactDecimal units = exact at *
  generalize unitBound * Nat.pow 5 1074 = bound at *
  have hcount := digitCount_le exact.coefficient
  have hlog : exact.coefficient.log2 ≤ bits := by
    by_cases hzero : exact.coefficient = 0
    · rw [hzero]
      exact Nat.zero_le _
    · exact Nat.le_of_lt ((Nat.log2_lt hzero).mpr (Nat.lt_of_lt_of_le hbound htwo))
  rw [← hlength]
  refine ⟨(Nat.length_toDigits_le_iff (by decide) (by omega)).mpr ?_, by omega⟩
  exact Nat.lt_of_le_of_lt (Nat.le_trans hcoefficient (Nat.le_trans hsearch.1 hbound)) hten

end BrickFormula.Binary64
