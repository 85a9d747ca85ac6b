import BrickFormula.Proofs.Binary64.Bounds
import BrickFormula.Proofs.Evaluation.Operands

/-!
# Random numbers

A random number between two bounds is the image of a draw, a number from zero up to one.  Between
bounds that count as whole it is a whole number of steps above the lower one, and otherwise a part of
the difference.  Each operation rounds, and still the result keeps to the bounds, if the whole ones are
exactly whole; and between whole ones every whole number comes of some draw.

    Call.scale             the random number that a draw stands for
    scale_part             a part of the difference keeps to the bounds
    scale_steps            and so do whole steps between whole bounds
    random_between         a random number in a formula lies between its bounds
    random_beyond          but not if a bound is only nearly whole
    wholePick a b m        the whole number that the draw `m / 2 ^ 53` stands for
    random_whole           these are the random numbers between whole bounds, and none is left out
-/

namespace BrickFormula

open Evaluation

/-! ## Draws -/

namespace Call
variable {env : Environment} {left right : Argument} {x y low high r w : Binary64} {k : Nat}

/-- Bounds between which random numbers are whole, by the tolerance and by how they are written. -/
def countsWhole (env : Environment) (left right : Formula) (x y : Binary64) : Bool :=
  x.isNearInteger env.settings.integerEpsilon && y.isNearInteger env.settings.integerEpsilon &&
    !left.isDecimalLiteral && !right.isDecimalLiteral

/-- The random number between two bounds in order that a draw stands for. -/
def scale (whole : Bool) (low high r : Binary64) : Except Fault Binary64 :=
  if whole then (wholePart (r * ((high + .one) - low))).map fun steps => low + .ofInt steps
  else .ok (r * (high - low) + low)

theorem countsWhole_comm (env : Environment) (left right : Formula) (x y : Binary64) :
    countsWhole env left right x y = countsWhole env left right y x := by
  unfold countsWhole
  rw [Bool.and_comm (x.isNearInteger _)]

/-- Between equal bounds nothing is drawn. -/
theorem gives_random_of_eq (hbounds : (if x.le y then (x, y) else (y, x)) = (low, high))
    (heq : low.eq high = true) : (random env left right x y).Gives k low k := by
  unfold random
  rw [hbounds]
  simp only [heq, if_true]
  exact gives_pure k low

/-- Between different bounds one number is drawn. -/
theorem gives_random (hbounds : (if x.le y then (x, y) else (y, x)) = (low, high))
    (hne : low.eq high = false)
    (h : scale (countsWhole env left.formula right.formula low high) low high (env.draw k) = .ok w) :
    (random env left right x y).Gives k w (k + 1) := by
  unfold random
  rw [hbounds]
  simp only [hne, Bool.false_eq_true, if_false]
  refine Gives.bind (m := k + 1) (a := env.draw k) rfl ?_
  unfold scale countsWhole at h
  split at h
  · next hwhole =>
    rw [if_pos hwhole]
    cases hsteps : wholePart (env.draw k * ((high + .one) - low)) with
    | error fault =>
      rw [hsteps] at h
      cases h
    | ok steps =>
      rw [hsteps] at h
      cases h
      rfl
  · next hpart =>
    rw [if_neg hpart]
    cases h
    rfl

end Call

/-! ## Between the bounds -/

namespace Call
open Binary64
variable {low high r : Binary64} {a b : Int}

theorem wholePart_of_liesAt {x : Binary64} {units : Nat} (h : x.LiesAt units) :
    wholePart x = .ok (units / unitsPerOne : Nat) := by
  rw [← h.floorInt_eq]
  obtain ⟨negative, units', hr, rfl, -⟩ := h.exists_finite
  rfl

/-- A part of the difference, which is less than the exact one, does not lead out of the bounds. -/
theorem scale_part (hlow : low.LiesAt a) (hhigh : high.LiesAt b) (hab : a < b)
    (hzero : zero.le r = true) (hone : r.lt one = true) (hfinite : (high - low).isFinite = true) :
    ∃ w p, scale false low high r = .ok w ∧ w.LiesAt p ∧ a ≤ p ∧ p ≤ b := by
  obtain ⟨u, hu, hult⟩ := exists_liesAt_of_lt_one hzero hone
  obtain ⟨e, he⟩ := Int.eq_ofNat_of_zero_le (Int.sub_nonneg_of_le (Int.le_of_lt hab))
  have hbound := (isFinite_sub_iff hhigh hlow).mp hfinite
  have hdiff : (high - low).LiesAt (rounded (b - a)) := hhigh.add hlow.neg hbound
  rw [he, rounded_natCast] at hdiff
  rw [he, Int.natAbs_natCast] at hbound
  have hgrid : OnGrid u := hu.onGrid
  have hpart := part_le hgrid hult e
  have hshrink : roundUnits (u * roundUnits e 1) unitsPerOne ≤ roundUnits e 1 :=
    roundUnits_le_of_onGrid unitsPerOne_pos (roundUnits_mod Nat.one_pos)
      (Nat.mul_le_mul_right _ (Nat.le_of_lt hult))
  have hproduct := hu.mul_nonneg hdiff (Nat.lt_of_le_of_lt hshrink hbound)
  have hsum := hproduct.add_between hlow hlow hhigh (by omega) (by omega)
  exact ⟨_, _, rfl, hsum⟩

/-- The number of whole numbers between two bounds, rounded if it takes more than 53 bits. -/
theorem width_liesAt {k : Nat} (ha : a.natAbs < 2 ^ 53) (hb : b.natAbs < 2 ^ 53)
    (hk : b + 1 - a = k) (hlow : low.LiesAt (a * unitsPerOne))
    (hhigh : high.LiesAt (b * unitsPerOne)) :
    ((high + .one) - low).LiesAt (roundUnits (k * unitsPerOne) 1) := by
  have hplace : b * unitsPerOne + unitsPerOne = (b + 1) * unitsPerOne := by
    rw [Int.add_mul, Int.one_mul]
  have hnext : (high + .one).LiesAt ((b + 1) * unitsPerOne) := by
    rw [← hplace]
    refine hhigh.add_exact liesAt_one (z := ofInt (b + 1)) ?_
    rw [hplace]
    exact liesAt_ofInt (by omega)
  have hdiff : (b + 1) * (unitsPerOne : Int) + -(a * unitsPerOne) = (k * unitsPerOne : Nat) := by
    rw [← Int.sub_eq_add_neg, ← Int.sub_mul, hk, Int.natCast_mul]
  have hbound : roundUnits (k * unitsPerOne) 1 < unitBound := by
    have hle : k * unitsPerOne ≤ 1 * 2 ^ (1074 + 54) := by
      rw [Nat.one_mul]
      exact whole_le_pow (by omega)
    exact Nat.lt_of_le_of_lt (roundUnits_le Nat.one_pos hle) (pow_lt_unitBound (by omega))
  have hwidth := hnext.add hlow.neg
  rw [hdiff, Int.natAbs_natCast, rounded_natCast] at hwidth
  exact hwidth hbound

/-- Whole steps do not lead out of whole bounds: all of them together would lead to the number after the
upper bound, but a part is less. -/
theorem scale_steps (ha : a.natAbs < 2 ^ 53) (hb : b.natAbs < 2 ^ 53) (hab : a < b)
    (hlow : low.LiesAt (a * unitsPerOne)) (hhigh : high.LiesAt (b * unitsPerOne))
    (hzero : zero.le r = true) (hone : r.lt one = true) :
    ∃ w p, scale true low high r = .ok w ∧ w.LiesAt p ∧ a * unitsPerOne ≤ p ∧
      p ≤ b * unitsPerOne := by
  obtain ⟨u, hu, hult⟩ := exists_liesAt_of_lt_one hzero hone
  obtain ⟨k, hk⟩ := Int.eq_ofNat_of_zero_le (a := b + 1 - a) (by omega)
  have hwidth := width_liesAt ha hb hk hlow hhigh
  have hgrid : OnGrid u := hu.onGrid
  have hpart : roundUnits (u * roundUnits (k * unitsPerOne) 1) unitsPerOne < k * unitsPerOne :=
    part_lt hgrid hult
      (Nat.le_trans pow_le_unitsPerOne (Nat.le_mul_of_pos_left unitsPerOne (by omega)))
  have hbound : k * unitsPerOne < unitBound :=
    Nat.lt_of_le_of_lt (whole_le_pow (k := 54) (by omega)) (pow_lt_unitBound (by omega))
  have hproduct := hu.mul_nonneg hwidth (Nat.lt_trans hpart hbound)
  have hpartGrid : OnGrid (roundUnits (u * roundUnits (k * unitsPerOne) 1) unitsPerOne) :=
    roundUnits_mod unitsPerOne_pos
  generalize roundUnits (u * roundUnits (k * unitsPerOne) 1) unitsPerOne = part at *
  have hsteps : part / unitsPerOne < k := (Nat.div_lt_iff_lt_mul unitsPerOne_pos).mpr hpart
  have hwhole : (ofInt (part / unitsPerOne : Nat)).LiesAt ((part / unitsPerOne : Nat) * unitsPerOne) :=
    liesAt_ofInt_natCast (onGrid_floor hpartGrid)
      (Nat.lt_of_le_of_lt (Nat.div_mul_le_self _ _) (Nat.lt_trans hpart hbound))
  have hscale : scale true low high r = .ok (low + ofInt (part / unitsPerOne : Nat)) := by
    unfold scale
    rw [if_pos rfl, wholePart_of_liesAt hproduct]
    rfl
  generalize part / unitsPerOne = steps at *
  have hge : a * (unitsPerOne : Int) ≤ a * unitsPerOne + steps * unitsPerOne := by
    rw [← Int.add_mul, whole_le_iff]
    omega
  have hle : a * (unitsPerOne : Int) + steps * unitsPerOne ≤ b * unitsPerOne := by
    rw [← Int.add_mul, whole_le_iff]
    omega
  exact ⟨_, _, hscale, hlow.add_between hwhole hlow hhigh hge hle⟩

/-- Bounds that are kept: whole numbers of 53 bits, or numbers that are not too far apart. -/
def KeepsBounds (whole : Bool) (x y : Binary64) : Prop :=
  if whole then ∃ a b : Int, a.natAbs < 2 ^ 53 ∧ b.natAbs < 2 ^ 53 ∧
    x.eq (.ofInt a) = true ∧ y.eq (.ofInt b) = true
  else (x - y).isFinite = true

theorem KeepsBounds.symm {whole : Bool} (h : KeepsBounds whole low high) (hlow : low.LiesAt a)
    (hhigh : high.LiesAt b) : KeepsBounds whole high low := by
  unfold KeepsBounds at *
  cases whole with
  | true =>
    obtain ⟨m, n, hm, hn, hlow, hhigh⟩ := h
    exact ⟨n, m, hn, hm, hhigh, hlow⟩
  | false =>
    change (high - low).isFinite = true
    rw [isFinite_sub_iff hhigh hlow, ← Int.natAbs_neg, Int.neg_sub]
    exact (isFinite_sub_iff hlow hhigh).mp h

/-- **What a draw stands for keeps to the bounds.** -/
theorem scale_between {whole : Bool} (hlow : low.LiesAt a) (hhigh : high.LiesAt b) (hab : a < b)
    (hzero : zero.le r = true) (hone : r.lt one = true) (hkeeps : KeepsBounds whole high low) :
    ∃ w p, scale whole low high r = .ok w ∧ w.LiesAt p ∧ a ≤ p ∧ p ≤ b := by
  cases whole with
  | false => exact scale_part hlow hhigh hab hzero hone hkeeps
  | true =>
    obtain ⟨n, m, hn, hm, hhigh', hlow'⟩ := hkeeps
    have hlowInt := (liesAt_ofInt (Nat.le_of_lt hm)).of_eq hlow'
    have hhighInt := (liesAt_ofInt (Nat.le_of_lt hn)).of_eq hhigh'
    obtain rfl := hlow.unique hlowInt
    obtain rfl := hhigh.unique hhighInt
    exact scale_steps hm hn ((whole_lt_iff m n).mp hab) hlow hhigh hzero hone

/-- A random number between bounds in order. -/
theorem gives_random_between {env : Environment} {left right : Formula} {x y : Binary64} {k : Nat}
    (hbounds : (if x.le y then (x, y) else (y, x)) = (low, high)) (hlow : low.LiesAt a)
    (hhigh : high.LiesAt b) (hab : a ≤ b) (hzero : zero.le (env.draw k) = true)
    (hone : (env.draw k).lt one = true)
    (hkeeps : low.eq high = true ∨ KeepsBounds (countsWhole env left right low high) high low) :
    ∃ w j p, (∀ u v, (random env ⟨left, u⟩ ⟨right, v⟩ x y).Gives k w j) ∧ w.LiesAt p ∧ a ≤ p ∧
      p ≤ b := by
  cases heq : low.eq high with
  | true => exact ⟨low, k, a, fun u v => gives_random_of_eq hbounds heq, hlow, Int.le_refl a, hab⟩
  | false =>
    have hne : a ≠ b := by
      rintro rfl
      rw [(hlow.eq_iff hhigh).mpr rfl] at heq
      cases heq
    have hkeeps' := hkeeps.resolve_left (by rw [heq]; exact Bool.false_ne_true)
    obtain ⟨w, p, hscale, hw⟩ :=
      scale_between hlow hhigh (Int.lt_iff_le_and_ne.mpr ⟨hab, hne⟩) hzero hone hkeeps'
    exact ⟨w, k + 1, p, fun u v => gives_random hbounds heq hscale, hw⟩

end Call

/-! ## Formulas -/

namespace Formula
open Binary64
variable {env : Environment} {left right : Formula} {n m k j : Nat} {x y w : Binary64}

/-- The operand is there, and its value has a number. -/
def GivesNumber (env : Environment) (t : Formula) (n : Nat) (x : Binary64) (m : Nat) : Prop :=
  t ≠ .empty ∧ ∃ v, (t.evaluate env).Gives n v m ∧ Value.toNumber? (some v) = some x

/-- What comes of a random number. -/
theorem gives_rand (hleft : left.GivesNumber env n x m) (hright : right.GivesNumber env m y k)
    (hrandom : ∀ u v, (Call.random env ⟨left, u⟩ ⟨right, v⟩ x y).Gives k w j)
    (hw : w.isFinite = true) :
    ((node .function (some "RAND") left right).evaluate env).Gives n (.number w) j := by
  obtain ⟨hl, u, hu, hx⟩ := hleft
  obtain ⟨hr, v, hv, hy⟩ := hright
  have hcall : Call.apply env .rand ⟨left, some u⟩ ⟨right, some v⟩ = (do
      return .number (← Call.random env ⟨left, some u⟩ ⟨right, some v⟩ x y)) := by
    unfold Call.apply Call.applyNumbers Argument.number?
    rw [hx, hy]
  have hnormalize : (Datum.number w).normalize = .ok (.number w) := by
    cases w with
    | finite => rfl
    | _ => cases hw
  rw [evaluate_function env (f := .rand) rfl hl hr]
  refine hu.bind (hv.bind ?_)
  rw [hcall]
  exact Gives.bind ((hrandom _ _).bind (gives_pure j (Datum.number w)))
    (gives_ofExcept hnormalize j)

/-- **Random numbers keep to their bounds.**  Between two finite bounds, in either order and of
whatever operands, and for every tolerance and every draw from zero up to one, a random number lies
between the bounds, if these are equal, if they are whole numbers where they count as such, or if they
do not and their difference is finite. -/
theorem random_between (hleft : left.GivesNumber env n x m) (hright : right.GivesNumber env m y k)
    (hx : x.isFinite = true) (hy : y.isFinite = true) (hzero : zero.le (env.draw k) = true)
    (hone : (env.draw k).lt one = true)
    (hkeeps : x.eq y = true ∨ Call.KeepsBounds (Call.countsWhole env left right x y) x y) :
    ∃ w j, ((node .function (some "RAND") left right).evaluate env).Gives n (.number w) j ∧
      (x.le w = true ∧ w.le y = true ∨ y.le w = true ∧ w.le x = true) := by
  obtain ⟨p, hp⟩ := exists_liesAt hx
  obtain ⟨q, hq⟩ := exists_liesAt hy
  by_cases hle : x.le y = true
  · obtain ⟨w, j, c, hw, hc, hpc, hcq⟩ := Call.gives_random_between (if_pos hle) hp hq
      ((hp.le_iff hq).mp hle) hzero hone (hkeeps.imp_right fun h => h.symm hp hq)
    exact ⟨w, j, gives_rand hleft hright hw hc.isFinite,
      .inl ⟨(hp.le_iff hc).mpr hpc, (hc.le_iff hq).mpr hcq⟩⟩
  · have hlt : q < p := Int.not_le.mp (mt (hp.le_iff hq).mpr hle)
    rw [Call.countsWhole_comm] at hkeeps
    obtain ⟨w, j, c, hw, hc, hqc, hcp⟩ := Call.gives_random_between (if_neg hle) hq hp
      (Int.le_of_lt hlt) hzero hone
      (hkeeps.imp_left fun h => absurd ((hp.eq_iff hq).mp h) (Int.ne_of_gt hlt))
    exact ⟨w, j, gives_rand hleft hright hw hc.isFinite,
      .inr ⟨(hq.le_iff hc).mpr hqc, (hc.le_iff hp).mpr hcp⟩⟩

/-- A literal is an operand with the number that it is a numeral of. -/
theorem givesNumber_leaf (env : Environment) {kind : Kind} (hkind : kind = .number ∨ kind = .string)
    {s : String} (n : Nat) (h : Numeral.parse? s = some x) : (leaf kind s).GivesNumber env n x n := by
  have hdatum : leafDatum env kind (some s) = .ok (.text s) := by
    rcases hkind with rfl | rfl <;> rfl
  refine ⟨nofun, .text s, gives_leaf ?_ ?_ ?_ hdatum rfl n, h⟩
  all_goals rcases hkind with rfl | rfl <;> exact nofun

/-- A random number between two texts. -/
def randomBetween (low high : String) : Formula :=
  .node .function (some "RAND") (leaf .string low) (leaf .string high)

/-- A half between two and one half. -/
theorem random_between_half :
    ∃ w j, ((randomBetween "2" "0.5").evaluate (.bare {} fun _ => .ofRatio 1 2)).Gives 0
        (.number w) j ∧
      ((ofInt 2).le w = true ∧ w.le (.ofRatio 1 2) = true ∨
        (ofRatio 1 2).le w = true ∧ w.le (.ofInt 2) = true) := by
  have hpart : Call.countsWhole (.bare {} fun _ => .ofRatio 1 2) (leaf .string "2")
      (leaf .string "0.5") (.ofInt 2) (.ofRatio 1 2) = false := by decide +kernel
  refine random_between (givesNumber_leaf _ (.inr rfl) 0 (by decide +kernel))
    (givesNumber_leaf _ (.inr rfl) 0 (by decide +kernel)) (by decide +kernel) (by decide +kernel)
    (by decide +kernel) (by decide +kernel) (.inr ?_)
  rw [hpart]
  show (ofInt 2 - ofRatio 1 2).isFinite = true
  decide +kernel

/-- A draw just below one. -/
def lateDraw : Binary64 := .ofRatio 9999999999999 10000000000000

/-- **A bound that is nearly whole is not kept**, since steps that are whole lead over it; and neither
are bounds that are too far apart. -/
theorem random_beyond :
    (zero.le lateDraw = true ∧ lateDraw.lt one = true) ∧
    (((randomBetween "0" "1.0000000000005").evaluate (.bare {} fun _ => lateDraw)).run.run 0).1 =
      .ok (.number (.ofInt 2)) ∧
    (Value.toNumber (some (.text "1.0000000000005"))).lt (.ofInt 2) = true ∧
    (((randomBetween "-1e308" "1e308").evaluate (.bare {} fun _ => lateDraw)).run.run 0).1 =
      .ok (.number greatest) ∧
    (Value.toNumber (some (.text "1e308"))).lt greatest = true := by
  decide +kernel

end Formula

/-! ## Whole random numbers -/

namespace Binary64
variable {i j k m : Nat}

/-- Some draw stands for every number of steps: the first that is not below it on the exact scale is too
near to be rounded up to the next. -/
theorem exists_steps (hj : j < k) (hk : k ≤ 2 ^ 32) :
    ∃ m < 2 ^ 53, roundUnits (m * 2 ^ i * (k * (2 ^ i * 2 ^ 53))) (2 ^ i * 2 ^ 53) /
      (2 ^ i * 2 ^ 53) = j := by
  have hdecomp := Nat.div_add_mod (j * 2 ^ 53 + k - 1) k
  have hmod := Nat.mod_lt (j * 2 ^ 53 + k - 1) (by omega : k > 0)
  refine ⟨(j * 2 ^ 53 + k - 1) / k, ?_, ?_⟩
  · rw [Nat.div_lt_iff_lt_mul (by omega)]
    omega
  · generalize (j * 2 ^ 53 + k - 1) / k = m at *
    have hi : 0 < 2 ^ i := Nat.two_pow_pos i
    have hlow : j * (2 ^ i * 2 ^ 53) ≤
        roundUnits (m * 2 ^ i * (k * (2 ^ i * 2 ^ 53))) (2 ^ i * 2 ^ 53) := by
      have hgrid : OnGrid (j * (2 ^ i * 2 ^ 53)) := by
        rw [← Nat.pow_add]
        exact onGrid_mul_pow (by omega) _
      refine le_roundUnits_of_onGrid (by omega) hgrid ?_
      calc 2 ^ i * 2 ^ 53 * (j * (2 ^ i * 2 ^ 53)) = j * 2 ^ 53 * (2 ^ i * (2 ^ i * 2 ^ 53)) := by ring
        _ ≤ k * m * (2 ^ i * (2 ^ i * 2 ^ 53)) := Nat.mul_le_mul_right _ (by omega)
        _ = m * 2 ^ i * (k * (2 ^ i * 2 ^ 53)) := by ring
    have hhigh : roundUnits (m * 2 ^ i * (k * (2 ^ i * 2 ^ 53))) (2 ^ i * 2 ^ 53) ≤
        (2 * j + 1) * 2 ^ (i + 52) := by
      refine roundUnits_le_of_onGrid (by omega) (onGrid_mul_pow (by omega) _) ?_
      calc m * 2 ^ i * (k * (2 ^ i * 2 ^ 53)) = k * m * (2 ^ i * (2 ^ i * 2 ^ 53)) := by ring
        _ ≤ (2 * j + 1) * 2 ^ 52 * (2 ^ i * (2 ^ i * 2 ^ 53)) := Nat.mul_le_mul_right _ (by omega)
        _ = 2 ^ i * 2 ^ 53 * ((2 * j + 1) * 2 ^ (i + 52)) := by ring
    refine Nat.div_eq_of_lt_le hlow (Nat.lt_of_le_of_lt hhigh ?_)
    calc (2 * j + 1) * 2 ^ (i + 52) = (2 * j + 1) * 2 ^ 52 * 2 ^ i := by ring
      _ < (j + 1) * 2 ^ 53 * 2 ^ i := Nat.mul_lt_mul_of_pos_right (by omega) hi
      _ = (j + 1) * (2 ^ i * 2 ^ 53) := by ring

/-- One is a power of two in units, and so is the step between draws. -/
theorem exists_drawStep : ∃ i, i < 2045 ∧ unitsPerOne = 2 ^ i * 2 ^ 53 := by
  refine ⟨1021, by decide, ?_⟩
  unfold unitsPerOne
  rw [show 1074 = 1021 + 53 from rfl]
  generalize 1021 = i
  exact Nat.pow_add 2 i 53

/-- Draws are exact. -/
theorem liesAt_draw (hi : i < 2045) (hunits : unitsPerOne = 2 ^ i * 2 ^ 53) (hm : m < 2 ^ 53) :
    (ofRatio m (2 ^ 53)).LiesAt (m * 2 ^ i : Nat) := by
  have hlt : m * 2 ^ i < unitBound := calc
    m * 2 ^ i < 2 ^ 53 * 2 ^ i := Nat.mul_lt_mul_of_pos_right hm (Nat.two_pow_pos i)
    _ = 2 ^ (53 + i) := (Nat.pow_add 2 53 i).symm
    _ < unitBound := pow_lt_unitBound (by omega)
  have hexact := nearest_units false ⟨hlt, onGrid_mul_pow hm i⟩ (Nat.two_pow_pos 53)
  rw [Nat.mul_assoc, ← hunits] at hexact
  unfold ofRatio
  rw [decide_eq_false (Int.not_lt.mpr (Int.natCast_nonneg m)), Int.natAbs_natCast, hexact]
  exact liesAt_finite false _

/-- A draw stands for fewer steps than there are. -/
theorem drawn_lt (hunits : unitsPerOne = 2 ^ i * 2 ^ 53) (hm : m < 2 ^ 53) (hpos : 0 < k)
    (hk : k ≤ 2 ^ 53) : roundUnits (m * 2 ^ i * (k * unitsPerOne)) unitsPerOne < k * unitsPerOne := by
  have hlt : m * 2 ^ i < unitsPerOne := by
    rw [hunits, Nat.mul_comm (2 ^ i)]
    exact Nat.mul_lt_mul_of_pos_right hm (Nat.two_pow_pos i)
  have hpart := part_lt (onGrid_mul_pow hm i) hlt
    (Nat.le_trans pow_le_unitsPerOne (Nat.le_mul_of_pos_left unitsPerOne hpos))
  rwa [roundUnits_of_onGrid (onGrid_whole hk)] at hpart

/-- The part of a width that a draw stands for. -/
theorem liesAt_drawn {r d : Binary64} (hunits : unitsPerOne = 2 ^ i * 2 ^ 53) (hm : m < 2 ^ 53)
    (hpos : 0 < k) (hk : k ≤ 2 ^ 53) (hr : r.LiesAt (m * 2 ^ i : Nat))
    (hd : d.LiesAt (k * unitsPerOne : Nat)) :
    (r * d).LiesAt (roundUnits (m * 2 ^ i * (k * unitsPerOne)) unitsPerOne) :=
  hr.mul_nonneg hd (Nat.lt_trans (drawn_lt hunits hm hpos hk)
    (Nat.lt_of_le_of_lt (whole_le_pow hk) (pow_lt_unitBound (by omega))))

/-- The number of steps that a draw stands for. -/
theorem floorInt_drawn (hi : i < 2045) (hunits : unitsPerOne = 2 ^ i * 2 ^ 53) (hm : m < 2 ^ 53)
    (hpos : 0 < k) (hk : k ≤ 2 ^ 53) :
    (ofRatio m (2 ^ 53) * ofInt k).floorInt =
      (roundUnits (m * 2 ^ i * (k * unitsPerOne)) unitsPerOne / unitsPerOne : Nat) := by
  have hwidth : (ofInt k).LiesAt (k * unitsPerOne : Nat) := by
    rw [Int.natCast_mul]
    exact liesAt_ofInt (by omega)
  exact (liesAt_drawn hunits hm hpos hk (liesAt_draw hi hunits hm) hwidth).floorInt_eq

end Binary64

namespace Call
open Binary64
variable {low high r : Binary64} {a b : Int} {m : Nat}

/-- Between whole numbers of 32 bits, a draw stands for a whole number. -/
theorem scale_draw (ha : a.natAbs < 2 ^ 31) (hb : b.natAbs < 2 ^ 31) (hab : a < b)
    (hlow : low.LiesAt (a * unitsPerOne)) (hhigh : high.LiesAt (b * unitsPerOne)) (hm : m < 2 ^ 53)
    (hr : r.eq (.ofRatio m (2 ^ 53)) = true) :
    scale true low high r =
      .ok (.ofInt (a + (Binary64.ofRatio m (2 ^ 53) * Binary64.ofInt (b - a + 1)).floorInt)) := by
  obtain ⟨i, hi, hunits⟩ := exists_drawStep
  obtain ⟨k, hk⟩ := Int.eq_ofNat_of_zero_le (a := b + 1 - a) (by omega)
  have hwidth := width_liesAt (by omega) (by omega) hk hlow hhigh
  rw [roundUnits_of_onGrid (onGrid_whole (by omega))] at hwidth
  have hdrawn := liesAt_drawn hunits hm (by omega) (by omega)
    ((liesAt_draw hi hunits hm).of_eq hr) hwidth
  have hsteps := (Nat.div_lt_iff_lt_mul unitsPerOne_pos).mpr
    (drawn_lt hunits hm (k := k) (by omega) (by omega))
  rw [show b - a + 1 = k by omega, floorInt_drawn hi hunits hm (by omega) (by omega)]
  unfold scale
  rw [if_pos rfl, wholePart_of_liesAt hdrawn, ← hlow.add_ofInt (by omega)]
  rfl

end Call

/-- The whole number between two others that the draw `m / 2 ^ 53` stands for. -/
def wholePick (a b : Int) (m : Nat) : Int :=
  min a b + (Binary64.ofRatio m (2 ^ 53) * Binary64.ofInt (max a b - min a b + 1)).floorInt

section
open Binary64
variable {a b : Int} {m : Nat}

/-- The picked number lies between the others. -/
theorem wholePick_between (ha : a.natAbs < 2 ^ 31) (hb : b.natAbs < 2 ^ 31) (hm : m < 2 ^ 53) :
    min a b ≤ wholePick a b m ∧ wholePick a b m ≤ max a b := by
  obtain ⟨i, hi, hunits⟩ := exists_drawStep
  obtain ⟨k, hk⟩ := Int.eq_ofNat_of_zero_le (a := max a b - min a b + 1) (by omega)
  have hsteps := (Nat.div_lt_iff_lt_mul unitsPerOne_pos).mpr
    (drawn_lt hunits hm (k := k) (by omega) (by omega))
  unfold wholePick
  rw [hk, floorInt_drawn hi hunits hm (by omega) (by omega)]
  generalize roundUnits (m * 2 ^ i * (k * unitsPerOne)) unitsPerOne / unitsPerOne = steps at *
  omega

/-- Every number between the others is picked by some draw. -/
theorem exists_wholePick {j : Int} (ha : a.natAbs < 2 ^ 31) (hb : b.natAbs < 2 ^ 31)
    (hlow : min a b ≤ j) (hhigh : j ≤ max a b) : ∃ m < 2 ^ 53, wholePick a b m = j := by
  obtain ⟨i, hi, hunits⟩ := exists_drawStep
  obtain ⟨k, hk⟩ := Int.eq_ofNat_of_zero_le (a := max a b - min a b + 1) (by omega)
  obtain ⟨s, hs⟩ := Int.eq_ofNat_of_zero_le (a := j - min a b) (by omega)
  obtain ⟨m, hm, hpick⟩ := exists_steps (i := i) (j := s) (k := k) (by omega) (by omega)
  refine ⟨m, hm, ?_⟩
  unfold wholePick
  rw [hk, floorInt_drawn hi hunits hm (by omega) (by omega), hunits, hpick]
  omega

end

namespace Call
open Binary64
variable {env : Environment} {left right : Formula} {x y low high : Binary64} {a b : Int} {k m : Nat}

/-- Whole numbers of 32 bits count as whole, if they are not written with a decimal point. -/
theorem countsWhole_of_liesAt (hlow : low.LiesAt (a * unitsPerOne))
    (hhigh : high.LiesAt (b * unitsPerOne)) (ha : a.natAbs < 2 ^ 31) (hb : b.natAbs < 2 ^ 31)
    (hepsilon : zero.lt env.settings.integerEpsilon = true) (hleft : left.isDecimalLiteral = false)
    (hright : right.isDecimalLiteral = false) : countsWhole env left right low high = true := by
  unfold countsWhole
  rw [hlow.isNearInteger ha hepsilon, hhigh.isNearInteger hb hepsilon, hleft, hright]
  rfl

/-- A random number between whole bounds in order. -/
theorem gives_random_whole (hbounds : (if x.le y then (x, y) else (y, x)) = (low, high))
    (hlow : low.LiesAt (a * unitsPerOne)) (hhigh : high.LiesAt (b * unitsPerOne))
    (ha : a.natAbs < 2 ^ 31) (hb : b.natAbs < 2 ^ 31) (hab : a < b)
    (hwhole : countsWhole env left right low high = true) (hm : m < 2 ^ 53)
    (hdraw : (env.draw k).eq (.ofRatio m (2 ^ 53)) = true) (u v : Option Value) :
    (random env ⟨left, u⟩ ⟨right, v⟩ x y).Gives k (.ofInt (wholePick a b m)) (k + 1) := by
  have hne : low.eq high = false := by
    rw [Bool.eq_false_iff, ne_eq, hlow.eq_iff hhigh]
    exact Int.ne_of_lt ((whole_lt_iff a b).mpr hab)
  have hscale := scale_draw ha hb hab hlow hhigh hm hdraw
  rw [← hwhole] at hscale
  unfold wholePick
  rw [Int.min_eq_left (Int.le_of_lt hab), Int.max_eq_right (Int.le_of_lt hab)]
  exact gives_random hbounds hne hscale

end Call

theorem wholePick_comm (a b : Int) (m : Nat) : wholePick a b m = wholePick b a m := by
  unfold wholePick
  rw [Int.min_comm, Int.max_comm]

/-- **Random numbers between whole bounds are whole, and there are all of them.**  Between two different
whole numbers of 32 bits, in either order and of whatever operands that are not written with a decimal
point, and with the tolerance that is the default, a draw of 53 bits gives a whole number between them,
and every such number comes of some draw. -/
theorem random_whole {a b : Int} (ha : a.natAbs < 2 ^ 31) (hb : b.natAbs < 2 ^ 31) (hab : a ≠ b) :
    (∀ m < 2 ^ 53, min a b ≤ wholePick a b m ∧ wholePick a b m ≤ max a b) ∧
    (∀ j, min a b ≤ j → j ≤ max a b → ∃ m < 2 ^ 53, wholePick a b m = j) ∧
    ∀ (env : Environment) (left right : Formula) (x y : Binary64) (n k l m : Nat),
      env.settings.integerEpsilon = ({} : Settings).integerEpsilon →
      left.isDecimalLiteral = false → right.isDecimalLiteral = false →
      left.GivesNumber env n x k → right.GivesNumber env k y l →
      x.eq (.ofInt a) = true → y.eq (.ofInt b) = true →
      m < 2 ^ 53 → (env.draw l).eq (.ofRatio m (2 ^ 53)) = true →
      ((Formula.node .function (some "RAND") left right).evaluate env).Gives n
        (.number (.ofInt (wholePick a b m))) (l + 1) := by
  refine ⟨fun m => wholePick_between ha hb, fun j => exists_wholePick ha hb, ?_⟩
  intro env left right x y n k l m hsettings hleft hright hnumber hnumber' hx hy hm hdraw
  have hp := (Binary64.liesAt_ofInt (by omega)).of_eq hx
  have hq := (Binary64.liesAt_ofInt (by omega)).of_eq hy
  have hepsilon : Binary64.zero.lt env.settings.integerEpsilon = true := by
    rw [hsettings]
    decide +kernel
  have hfinite : (Binary64.ofInt (wholePick a b m)).isFinite = true := by
    have hpick := wholePick_between ha hb hm
    exact (Binary64.liesAt_ofInt (by omega)).isFinite
  refine Formula.gives_rand hnumber hnumber' (fun u v => ?_) hfinite
  rcases Int.lt_or_gt_of_ne hab with hlt | hgt
  · have hle := (hp.le_iff hq).mpr (Int.le_of_lt ((Binary64.whole_lt_iff a b).mpr hlt))
    exact Call.gives_random_whole (if_pos hle) hp hq ha hb hlt
      (Call.countsWhole_of_liesAt hp hq ha hb hepsilon hleft hright) hm hdraw u v
  · have hle := mt (hp.le_iff hq).mp (Int.not_le.mpr ((Binary64.whole_lt_iff b a).mpr hgt))
    rw [wholePick_comm]
    exact Call.gives_random_whole (if_neg hle) hq hp hb ha hgt
      (Call.countsWhole_of_liesAt hq hp hb ha hepsilon hleft hright) hm hdraw u v

theorem Environment.bare_draw (settings : Settings) (draw : Nat → Binary64) :
    (Environment.bare settings draw).draw = draw := rfl

/-- A die of the literals `6` and `1` shows five for some draw. -/
theorem random_whole_die :
    ∃ m : Nat, m < 2 ^ 53 ∧ ((Formula.node .function (some "RAND") (.leaf .number "6")
      (.leaf .number "1")).evaluate (.bare {} fun _ => .ofRatio m (2 ^ 53))).Gives 0
        (.number (.ofInt 5)) 1 := by
  obtain ⟨-, hall, hgives⟩ := random_whole (a := 6) (b := 1) (by decide) (by decide) (by decide)
  obtain ⟨m, hm, hpick⟩ := hall 5 (by decide) (by decide)
  obtain ⟨i, hi, hunits⟩ := Binary64.exists_drawStep
  have hdraw := Binary64.liesAt_draw hi hunits hm
  have hsame := (hdraw.eq_iff hdraw).mpr rfl
  refine ⟨m, hm, ?_⟩
  have hdie := hgives (.bare {} fun _ => .ofRatio m (2 ^ 53)) (.leaf .number "6") (.leaf .number "1")
    (.ofInt 6) (.ofInt 1) 0 0 0 m rfl (by cbv) (by cbv)
    (Formula.givesNumber_leaf _ (.inl rfl) 0 (by decide +kernel))
    (Formula.givesNumber_leaf _ (.inl rfl) 0 (by decide +kernel)) (by decide +kernel)
    (by decide +kernel) hm (by rwa [Environment.bare_draw])
  rwa [hpick] at hdie

end BrickFormula
