import BrickFormula.Proofs.Binary64.Bounds

/-!
# Adding a half

Rounding to the nearest whole number by way of a half that is added rounds twice: the sum is rounded
to a number before its whole part is taken.  This goes wrong in two ways only.  The number below a half
is brought up to one; and between two to the 52nd and two to the 53rd, where all numbers are whole, the
sum lies halfway between two of them and goes to the even one, so that an odd number is led to the next.

    Overshoots j p         the sum with a half `2 ^ j` leads too far from the place `p`
    rounded_half_ediv      below two to the 52nd the sum has the whole part of the exact one
    rounded_half_whole     above it an odd number is led to the next
    ediv_rounded_half      so the whole part is the right one unless the sum overshoots
    ediv_rounded_half_of_overshoots    and the next one then
-/

namespace BrickFormula.Binary64

/-! ## Magnitudes -/

section
variable {p c i s : Nat}

/-- **Halfway between two whole numbers of 53 bits** the even one is nearer, by the rule for ties. -/
theorem roundUnits_halfway {e : Nat} (heven : e % 2 = 0) (hgrid : OnGrid (e * 2 ^ (i + 1)))
    (hs : s + 2 ^ i = e * 2 ^ (i + 1) ∨ s = e * 2 ^ (i + 1) + 2 ^ i)
    (hlarge : 2 ^ (i + 53) ≤ s) : roundUnits s 1 = e * 2 ^ (i + 1) := by
  have hpos : 0 < 2 ^ i := Nat.two_pow_pos i
  have hdouble : 2 ^ (i + 1) = 2 * 2 ^ i := Nat.pow_succ'
  have hround : OnGrid (roundUnits s 1) := roundUnits_mod Nat.one_pos
  have hge : 2 ^ (i + 53) ≤ roundUnits s 1 :=
    le_roundUnits_of_onGrid Nat.one_pos (onGrid_two_pow (i + 53)) (Nat.one_mul _ ▸ hlarge)
  have hpower : 0 < 2 ^ (i + 53) := Nat.two_pow_pos (i + 53)
  have hne : roundUnits s 1 ≠ 0 := by omega
  have hdvd := hround.dvd ((Nat.le_log2 hne).mpr hge)
  rw [show i + 53 - 52 = i + 1 by omega] at hdvd
  obtain ⟨r, hr⟩ := hdvd
  rw [Nat.mul_comm] at hr
  have hdistance := distance_roundUnits s Nat.one_pos hgrid
  rw [hr] at hround hge hdistance ⊢
  have hplace : r = e ∨ (r + 1) * 2 ^ (i + 1) ≤ e * 2 ^ (i + 1) ∨ (e + 1) * 2 ^ (i + 1) ≤ r * 2 ^ (i + 1) := by
    rcases Nat.lt_trichotomy r e with hlt | heq | hgt
    · exact .inr (.inl (Nat.mul_le_mul_right _ hlt))
    · exact .inl heq
    · exact .inr (.inr (Nat.mul_le_mul_right _ hgt))
  rw [Nat.add_mul, Nat.add_mul] at hplace
  rcases hplace with heq | hother
  · rw [heq]
  · exfalso
    have hne : r ≠ e := by
      rintro rfl
      omega
    obtain ⟨htie, hsignificand⟩ : distance s 1 (r * 2 ^ (i + 1)) = distance s 1 (e * 2 ^ (i + 1)) ∧
        EvenSignificand (r * 2 ^ (i + 1)) := by
      rcases hdistance with hnearer | ⟨htie, heq | hsignificand⟩
      · unfold distance at hnearer
        omega
      · exact absurd (Nat.eq_of_mul_eq_mul_right (by omega) heq).symm hne
      · exact ⟨htie, hsignificand⟩
    unfold distance at htie
    -- only the neighbours of the even one are as near, and they are odd
    have hnext : (r + 1) * 2 ^ (i + 1) = e * 2 ^ (i + 1) ∨ r * 2 ^ (i + 1) = (e + 1) * 2 ^ (i + 1) := by
      rw [Nat.add_mul, Nat.add_mul]
      omega
    have hodd : r % 2 = 1 := by
      rcases hnext with hsame | hsame <;>
        have heq := Nat.eq_of_mul_eq_mul_right (by omega) hsame <;> omega
    have hlow : 2 ^ 52 ≤ r := by
      rw [show i + 53 = 52 + (i + 1) by omega, Nat.pow_add] at hge
      exact Nat.le_of_mul_le_mul_right hge (by omega)
    exact not_evenSignificand hlow (lt_of_onGrid_odd hround hodd) hodd hsignificand

/-- The whole number above a sum with a half is not reached by rounding it. -/
theorem roundUnits_add_half_lt (hp : OnGrid p) (hlow : 2 ^ i ≤ p) (hhigh : p < 2 ^ (i + 53))
    (hlt : p + 2 ^ i < c * 2 ^ (i + 1)) : roundUnits (p + 2 ^ i) 1 < c * 2 ^ (i + 1) := by
  have hpos : 0 < 2 ^ i := Nat.two_pow_pos i
  have hdouble : 2 ^ (i + 1) = 2 * 2 ^ i := Nat.pow_succ'
  have hbound : 2 ^ (i + 53) = 2 ^ 52 * 2 ^ (i + 1) := by
    rw [← Nat.pow_add]
    congr 1
    omega
  by_cases hlarge : 2 ^ (i + 53) < c * 2 ^ (i + 1)
  · have hroom := add_spacing_le_two_pow (k := i + 52) hp hhigh
    rw [Nat.add_sub_cancel] at hroom
    have hround : roundUnits (p + 2 ^ i) 1 ≤ 2 ^ (i + 53) :=
      roundUnits_le_of_onGrid Nat.one_pos (onGrid_two_pow (i + 53)) (Nat.one_mul _ ▸ hroom)
    omega
  have hc : c ≤ 2 ^ 52 := by
    rw [hbound] at hlarge
    exact Nat.le_of_mul_le_mul_right (Nat.le_of_not_lt hlarge) (by omega)
  have hgrid : OnGrid (c * 2 ^ (i + 1)) := onGrid_mul_pow (by omega) (i + 1)
  have hpower : 2 ^ (c * 2 ^ (i + 1) - 1).log2 ≤ c * 2 ^ (i + 1) - 1 := Nat.log2_self_le (by omega)
  have hlog : (c * 2 ^ (i + 1) - 1).log2 < i + 53 := (Nat.log2_lt (by omega)).mpr (by omega)
  have hhalf : 2 ^ ((c * 2 ^ (i + 1) - 1).log2 - 52) ∣ 2 ^ i := Nat.pow_dvd_pow 2 (by omega)
  have hunit : 2 ^ ((c * 2 ^ (i + 1) - 1).log2 - 52) ∣ c * 2 ^ (i + 1) :=
    Nat.dvd_mul_left_of_dvd (Nat.pow_dvd_pow 2 (by omega)) c
  -- it is enough to stay at the magnitude below the whole number
  suffices hroom : p + 2 ^ i ≤ c * 2 ^ (i + 1) - 2 ^ ((c * 2 ^ (i + 1) - 1).log2 - 52) by
    have hround : roundUnits (p + 2 ^ i) 1 ≤ c * 2 ^ (i + 1) - 2 ^ ((c * 2 ^ (i + 1) - 1).log2 - 52) :=
      roundUnits_le_of_onGrid Nat.one_pos (onGrid_previous hgrid) (Nat.one_mul _ ▸ hroom)
    have hspacing : 0 < 2 ^ ((c * 2 ^ (i + 1) - 1).log2 - 52) := Nat.two_pow_pos _
    omega
  by_cases hdeep : (c * 2 ^ (i + 1) - 1).log2 ≤ p.log2
  · -- all of them are multiples of the spacing
    have hdvd := Nat.dvd_sub hunit (Nat.dvd_add (hp.dvd hdeep) hhalf)
    have hle := Nat.le_of_dvd (by omega) hdvd
    omega
  · -- a whole power of two lies between them
    have hbetween : p < 2 ^ (c * 2 ^ (i + 1) - 1).log2 :=
      (Nat.log2_lt (by omega)).mp (by omega)
    have hwhole : 2 ^ (i + 1) ∣ c * 2 ^ (i + 1) - 2 ^ (c * 2 ^ (i + 1) - 1).log2 := by
      refine Nat.dvd_sub (Nat.dvd_mul_left _ _) (Nat.pow_dvd_pow 2 ?_)
      have := (Nat.le_log2 (by omega)).mpr hlow
      omega
    have hle := Nat.le_of_dvd (by omega) hwhole
    have hspacing := Nat.le_of_dvd hpos hhalf
    omega

/-- A magnitude less a half is exact, up to two to the 52nd. -/
theorem onGrid_sub_half (hp : OnGrid p) (hlow : 2 ^ i ≤ p) (hhigh : p ≤ 2 ^ (i + 53)) :
    OnGrid (p - 2 ^ i) := by
  have hpos : 0 < 2 ^ i := Nat.two_pow_pos i
  by_cases hzero : p - 2 ^ i = 0
  · rw [hzero]
    exact Nat.zero_mod _
  · have hlog : (p - 2 ^ i).log2 < i + 53 := (Nat.log2_lt hzero).mpr (by omega)
    exact Nat.mod_eq_zero_of_dvd (Nat.dvd_sub (hp.dvd (log2_mono (Nat.sub_le _ _)))
      (Nat.pow_dvd_pow 2 (by omega)))
end

/-! ## Places -/

section
variable {p : Int} {j : Nat}

/-- The half that is added to a number with the place leads too far: to one from the number below a
half, and halfway to the next whole number from an odd one of 53 bits. -/
def Overshoots (j : Nat) (p : Int) : Prop :=
  p + (2 ^ (j - 53) : Nat) = (2 ^ j : Nat) ∨
    ∃ n : Int, n % 2 = 1 ∧ 2 ^ 52 < n.natAbs ∧ p = n * (2 ^ (j + 1) : Nat)

theorem unit_le_mul {u m : Int} (hu : 0 < u) (h : 0 < m * u) : u ≤ m * u := by
  have hm : 0 < m := Int.pos_of_mul_pos_left h hu
  have hle := Int.mul_le_mul_of_nonneg_right (show 1 ≤ m from hm) (Int.le_of_lt hu)
  omega

/-- Rounding does not lead a sum with a half to the next whole number, if the sum is not one of the
two sorts that do. -/
theorem rounded_half_lt (hj : 53 ≤ j) (hp : OnGrid p.natAbs) (hlow : -(2 ^ (j + 53) : Nat) ≤ p)
    (hhigh : p < (2 ^ (j + 53) : Nat)) (hne : p + (2 ^ (j - 53) : Nat) ≠ (2 ^ j : Nat)) {c : Int}
    (hc : p + (2 ^ j : Nat) < c * (2 ^ (j + 1) : Nat)) :
    rounded (p + (2 ^ j : Nat)) < c * (2 ^ (j + 1) : Nat) := by
  have hpos : 0 < 2 ^ j := Nat.two_pow_pos j
  have hdouble : 2 ^ (j + 1) = 2 * 2 ^ j := Nat.pow_succ'
  have hunit (h : 0 ≤ p + (2 ^ j : Nat)) : (2 ^ (j + 1) : Nat) ≤ c * (2 ^ (j + 1) : Nat) :=
    unit_le_mul (by omega) (by omega)
  rcases Int.lt_or_le p 0 with hneg | hnonneg
  · by_cases hexact : 2 ^ j ≤ p.natAbs
    · have hgrid := onGrid_sub_half hp hexact (by omega)
      rwa [rounded_of_onGrid (by rwa [show (p + (2 ^ j : Nat)).natAbs = p.natAbs - 2 ^ j by omega])]
    · have hround : rounded (p + (2 ^ j : Nat)) ≤ (2 ^ j : Nat) :=
        rounded_le (onGrid_two_pow j) (by omega)
      have := hunit (by omega)
      omega
  · obtain ⟨n, rfl⟩ := Int.eq_ofNat_of_zero_le hnonneg
    rw [Int.natAbs_natCast] at hp
    rw [← Int.natCast_add, rounded_natCast]
    by_cases hlarge : 2 ^ j ≤ n
    · obtain ⟨c, rfl⟩ : ∃ k : Nat, c = k := by
        refine Int.eq_ofNat_of_zero_le (Int.le_of_lt (Int.pos_of_mul_pos_left (b := (2 ^ (j + 1) : Nat)) ?_ ?_))
        · omega
        · omega
      rw [← Int.natCast_mul] at hc ⊢
      exact Int.ofNat_lt.mpr (roundUnits_add_half_lt hp hlarge (by omega) (by omega))
    · have hroom := add_spacing_le_two_pow (k := j - 1) hp (by
        rw [Nat.sub_add_cancel (by omega)]
        omega)
      rw [Nat.sub_add_cancel (by omega), show j - 1 - 52 = j - 53 by omega] at hroom
      have hround := (roundUnits_lt_two_pow_iff (n + 2 ^ j) hj).mpr (by omega)
      have := hunit (by omega)
      omega

/-- **Below two to the 52nd the sum with a half has the whole part of the exact one**, if the number
is not the one below a half. -/
theorem rounded_half_ediv (hj : 53 ≤ j) (hp : OnGrid p.natAbs) (hlow : -(2 ^ (j + 53) : Nat) ≤ p)
    (hhigh : p < (2 ^ (j + 53) : Nat)) (hne : p + (2 ^ (j - 53) : Nat) ≠ (2 ^ j : Nat)) :
    rounded (p + (2 ^ j : Nat)) / (2 ^ (j + 1) : Nat) =
      (p + (2 ^ j : Nat)) / (2 ^ (j + 1) : Nat) := by
  have hpos : 0 < 2 ^ j := Nat.two_pow_pos j
  have hdouble : 2 ^ (j + 1) = 2 * 2 ^ j := Nat.pow_succ'
  have hbound : 2 ^ (j + 53) = 2 ^ 52 * 2 ^ (j + 1) := by
    rw [← Nat.pow_add]
    congr 1
    omega
  have hu : (0 : Int) < (2 ^ (j + 1) : Nat) := by omega
  have hle := Int.ediv_mul_le (p + (2 ^ j : Nat)) (Int.ne_of_gt hu)
  have hlt := Int.lt_ediv_add_one_mul_self (p + (2 ^ j : Nat)) hu
  have hround := rounded_half_lt hj hp hlow hhigh hne hlt
  generalize (p + (2 ^ j : Nat)) / (2 ^ (j + 1) : Nat) = m at *
  rw [Int.add_mul, Int.one_mul] at hround
  refine (Int.ediv_eq_iff_of_pos hu).mpr ⟨le_rounded ?_ hle, hround⟩
  have hm : m.natAbs < 2 ^ 53 := by
    have hbelow : m < 2 ^ 52 + 1 := by
      refine Int.lt_of_mul_lt_mul_right (a := (2 ^ (j + 1) : Nat)) ?_ (Int.le_of_lt hu)
      omega
    have habove : -2 ^ 52 < m + 1 := by
      refine Int.lt_of_mul_lt_mul_right (a := (2 ^ (j + 1) : Nat)) ?_ (Int.le_of_lt hu)
      omega
    omega
  rw [Int.natAbs_mul, Int.natAbs_natCast]
  exact onGrid_mul_pow hm (j + 1)

/-- The sum of a half with the number below it is one. -/
theorem rounded_half_below (hj : 53 ≤ j) (h : p + (2 ^ (j - 53) : Nat) = (2 ^ j : Nat)) :
    rounded (p + (2 ^ j : Nat)) = (2 ^ (j + 1) : Nat) := by
  have hdouble : 2 ^ (j + 1) = 2 * 2 ^ j := Nat.pow_succ'
  have hpos : 0 < 2 ^ j := Nat.two_pow_pos j
  have hle : 2 ^ (j - 53) ≤ 2 ^ j := Nat.pow_le_pow_right Nat.two_pos (Nat.sub_le _ _)
  have hless : 0 < 2 ^ (j - 53) := Nat.two_pow_pos _
  obtain ⟨n, rfl⟩ := Int.eq_ofNat_of_zero_le (a := p) (by omega)
  rw [← Int.natCast_add, rounded_natCast]
  have hround : roundUnits (n + 2 ^ j) 1 ≤ 2 ^ (j + 1) :=
    roundUnits_le_of_onGrid Nat.one_pos (onGrid_two_pow (j + 1)) (by omega)
  have hreached := mt (roundUnits_lt_two_pow_iff (n + 2 ^ j) hj).mp (by omega)
  omega

/-- The whole numbers next to one of 53 bits that is odd are magnitudes too. -/
theorem onGrid_near_odd {n e : Nat} (hn : OnGrid (n * 2 ^ (j + 1))) (hodd : n % 2 = 1)
    (he : e ≤ n + 1) : OnGrid (e * 2 ^ (j + 1)) := by
  have hlt := lt_of_onGrid_odd hn hodd
  rcases Nat.lt_or_eq_of_le (show e ≤ 2 ^ 53 by omega) with hless | rfl
  · exact onGrid_mul_pow hless (j + 1)
  · rw [← Nat.pow_add]
    exact onGrid_two_pow (53 + (j + 1))

/-- From two to the 52nd on numbers are whole, and the sum of an odd one with a half is the next. -/
theorem rounded_half_whole {n : Int} (hn : OnGrid (n.natAbs * 2 ^ (j + 1)))
    (hlarge : 2 ^ 52 ≤ n ∨ n < -2 ^ 52) :
    rounded (n * (2 ^ (j + 1) : Nat) + (2 ^ j : Nat)) = (n + n % 2) * (2 ^ (j + 1) : Nat) := by
  have hpos : 0 < 2 ^ j := Nat.two_pow_pos j
  have hdouble : 2 ^ (j + 1) = 2 * 2 ^ j := Nat.pow_succ'
  have hbound : 2 ^ (j + 53) = 2 ^ 52 * 2 ^ (j + 1) := by
    rw [← Nat.pow_add]
    congr 1
    omega
  rcases Int.lt_or_le n 0 with hneg | hnonneg
  · obtain ⟨k, hk⟩ := Int.eq_ofNat_of_zero_le (Int.neg_nonneg_of_nonpos (Int.le_of_lt hneg))
    obtain rfl : n = -k := by omega
    rw [Int.natAbs_neg, Int.natAbs_natCast] at hn
    have hmagnitude : 2 ^ 52 * 2 ^ (j + 1) + 2 ^ (j + 1) ≤ k * 2 ^ (j + 1) := by
      rw [← Nat.succ_mul]
      exact Nat.mul_le_mul_right _ (by omega)
    have hplace : -(k : Int) * (2 ^ (j + 1) : Nat) + (2 ^ j : Nat) =
        -((k * 2 ^ (j + 1) - 2 ^ j : Nat) : Int) := by
      rw [Int.neg_mul, ← Int.natCast_mul]
      omega
    rw [hplace, rounded_neg, rounded_natCast]
    rcases Nat.mod_two_eq_zero_or_one k with heven | hodd
    · rw [roundUnits_halfway heven hn (.inl (by omega)) (by omega),
        show -(k : Int) + -(k : Int) % 2 = -k by omega, Int.neg_mul, Int.natCast_mul]
    · obtain ⟨e, rfl⟩ := Nat.exists_eq_succ_of_ne_zero (show k ≠ 0 by omega)
      rw [Nat.succ_mul] at hmagnitude ⊢
      rw [roundUnits_halfway (e := e) (by omega) (onGrid_near_odd hn hodd (by omega))
        (.inr (by omega)) (by omega),
        show -((e.succ : Nat) : Int) + -((e.succ : Nat) : Int) % 2 = -e by omega, Int.neg_mul,
        Int.natCast_mul]
  · obtain ⟨k, rfl⟩ := Int.eq_ofNat_of_zero_le hnonneg
    rw [Int.natAbs_natCast] at hn
    have hmagnitude : 2 ^ 52 * 2 ^ (j + 1) ≤ k * 2 ^ (j + 1) := Nat.mul_le_mul_right _ (by omega)
    rw [← Int.natCast_mul, ← Int.natCast_add, rounded_natCast]
    rcases Nat.mod_two_eq_zero_or_one k with heven | hodd
    · rw [roundUnits_halfway heven hn (.inr rfl) (by omega),
        show (k : Int) + (k : Int) % 2 = k by omega, Int.natCast_mul]
    · rw [roundUnits_halfway (e := k + 1) (by omega) (onGrid_near_odd hn hodd (Nat.le_refl _))
        (.inl (by rw [Nat.add_mul]; omega)) (by omega),
        show (k : Int) + (k : Int) % 2 = (k + 1 : Nat) by omega, Int.natCast_mul]

theorem ediv_half (j : Nat) (n : Int) :
    (n * (2 ^ (j + 1) : Nat) + (2 ^ j : Nat)) / (2 ^ (j + 1) : Nat) = n := by
  have hpos : 0 < 2 ^ j := Nat.two_pow_pos j
  have hdouble : 2 ^ (j + 1) = 2 * 2 ^ j := Nat.pow_succ'
  exact (Int.ediv_eq_iff_of_pos (by omega)).mpr ⟨by omega, by omega⟩

/-- **The sum of a number with a half has the whole part of the exact sum**, if it does not overshoot. -/
theorem ediv_rounded_half (hj : 53 ≤ j) (hp : OnGrid p.natAbs) (h : ¬ Overshoots j p) :
    rounded (p + (2 ^ j : Nat)) / (2 ^ (j + 1) : Nat) =
      (p + (2 ^ j : Nat)) / (2 ^ (j + 1) : Nat) := by
  by_cases hmoderate : -(2 ^ (j + 53) : Nat) ≤ p ∧ p < (2 ^ (j + 53) : Nat)
  · exact rounded_half_ediv hj hp hmoderate.1 hmoderate.2 fun heq => h (.inl heq)
  · have hu : (0 : Int) < (2 ^ (j + 1) : Nat) := Int.natCast_pos.mpr (Nat.two_pow_pos _)
    have hpower : 2 ^ (j + 53) ≤ p.natAbs := by omega
    have hpos : 0 < 2 ^ (j + 53) := Nat.two_pow_pos _
    have hdvd := hp.dvd ((Nat.le_log2 (by omega)).mpr hpower)
    rw [show j + 53 - 52 = j + 1 by omega] at hdvd
    obtain ⟨n, rfl⟩ := Int.natCast_dvd.mpr hdvd
    rw [Int.mul_comm] at hp h hmoderate ⊢
    have hbound : 2 ^ (j + 53) = 2 ^ 52 * 2 ^ (j + 1) := by
      rw [← Nat.pow_add]
      congr 1
      omega
    rw [hbound, Int.natCast_mul, ← Int.neg_mul, Int.mul_le_mul_right hu, Int.mul_lt_mul_right hu]
      at hmoderate
    rw [Int.natAbs_mul, Int.natAbs_natCast] at hp
    have heven : n % 2 = 0 := by
      refine (Int.emod_two_eq_zero_or_one n).resolve_right fun hodd => h (.inr ⟨n, hodd, ?_, rfl⟩)
      omega
    rw [rounded_half_whole hp (by omega), heven, Int.add_zero, Int.mul_ediv_cancel _ (Int.ne_of_gt hu),
      ediv_half]

/-- And the next whole number if it does. -/
theorem ediv_rounded_half_of_overshoots (hj : 53 ≤ j) (hp : OnGrid p.natAbs) (h : Overshoots j p) :
    rounded (p + (2 ^ j : Nat)) / (2 ^ (j + 1) : Nat) =
      (p + (2 ^ j : Nat)) / (2 ^ (j + 1) : Nat) + 1 := by
  have hu : (0 : Int) < (2 ^ (j + 1) : Nat) := Int.natCast_pos.mpr (Nat.two_pow_pos _)
  rcases h with hbelow | ⟨n, hodd, hlarge, rfl⟩
  · have hspacing : 0 < 2 ^ (j - 53) := Nat.two_pow_pos _
    have hsmall : 2 ^ (j - 53) ≤ 2 ^ j := Nat.pow_le_pow_right Nat.two_pos (Nat.sub_le _ _)
    have hdouble : 2 ^ (j + 1) = 2 * 2 ^ j := Nat.pow_succ'
    rw [rounded_half_below hj hbelow, Int.ediv_self (Int.ne_of_gt hu),
      Int.ediv_eq_zero_of_lt (by omega) (by omega), Int.zero_add]
  · rw [Int.natAbs_mul, Int.natAbs_natCast] at hp
    rw [rounded_half_whole hp (by omega), hodd, Int.mul_ediv_cancel _ (Int.ne_of_gt hu), ediv_half]

end

end BrickFormula.Binary64
