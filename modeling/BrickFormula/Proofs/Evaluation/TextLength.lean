import BrickFormula.Proofs.Binary64.WholeParts
import BrickFormula.Proofs.Evaluation.Operands
import BrickFormula.Proofs.Numeral.Display

/-!
# The length of a variable

A variable has a length of its own, and a text when it is joined with others.  For a number the length is
counted on the digits of the whole part if the number is nearly whole, and on its numeral if not; the
text is always the numeral without a final `.0`.  So the two agree unless the number is nearly whole and
written with a fraction, an exponent or the sign of zero.

    length_toString_signed       the digits of a whole number behind a sign
    MeasuredOtherwise x v e      the length of the number `x` is not that of its text
    length_wholeOrNumeral_iff    so it is for all other numbers
    variable_length_iff          the length of a variable and its text
-/

namespace BrickFormula
open Binary64 Numeral

/-! ## Digits behind a sign -/

section
variable {negative : Bool} {n units : Nat}

theorem length_toString_signed (h : n ≠ 0 ∨ negative = false) :
    (toString (signed negative n)).length = (signChars negative).length + (Nat.toDigits 10 n).length := by
  cases negative with
  | false =>
    show (Nat.repr n).length = 0 + _
    rw [Nat.zero_add, ← String.length_toList, Nat.toList_repr]
  | true =>
    obtain ⟨k, rfl⟩ := Nat.exists_eq_succ_of_ne_zero (h.resolve_right nofun)
    show ("-" ++ Nat.repr (k + 1)).length = 1 + _
    rw [String.length_append, ← String.length_toList (s := Nat.repr _), Nat.toList_repr]
    rfl

/-- A sign is not written before zero. -/
theorem length_toString_signed_le :
    (toString (signed negative n)).length ≤
      (signChars negative).length + (Nat.toDigits 10 n).length := by
  by_cases h : n ≠ 0 ∨ negative = false
  · exact Nat.le_of_eq (length_toString_signed h)
  · obtain ⟨hzero, hnegative⟩ := not_or.mp h
    rw [not_ne_iff.mp hzero, eq_true_of_ne_false hnegative]
    decide

theorem toInt32_finite (hr : Representable units) (h : units / unitsPerOne < 2 ^ 31) :
    (finite negative units hr).toInt32 = signed negative (units / unitsPerOne) := by
  have hgreatest : greatestInt32 = 2147483647 := rfl
  have hleast : leastInt32 = -2147483648 := rfl
  have habs := natAbs_signed negative (units / unitsPerOne)
  show max leastInt32 (min greatestInt32 (signed negative (units / unitsPerOne))) = _
  omega

end

/-! ## Lengths of numbers -/

/-- **The numbers with a length that is not that of their text**: the negative zero, nearly whole numbers
with a fraction, and most whole numbers that are written with an exponent. -/
inductive MeasuredOtherwise (x : Binary64) (v e : ℚ) : Prop where
  | negativeZero (h : x = signedZero true)
  | nearlyWhole (m : Nat) (hm : m < 2 ^ 31) (hlow : (m : ℚ) < |v|) (hhigh : |v| < m + e)
  | large (m : Nat) (hlow : 10 ^ 7 ≤ m) (hhigh : m < 2 ^ 31) (hv : |v| = m)
    (hzeros : ¬ (1000 ∣ m ∧ ¬ 10000 ∣ m))

section
variable {env : Environment} {x : Binary64} {v e : ℚ} {negative : Bool} {units : Nat}

theorem abs_mul_unitsPerOne {hr : Representable units} (h : (finite negative units hr).Denotes v) :
    |v| * unitsPerOne = units := by
  obtain ⟨p, hp, hv⟩ := h
  rw [hp.unique (liesAt_finite negative hr)] at hv
  rw [← abs_of_pos unitsPerOne_cast_pos, ← abs_mul, hv, ← Int.cast_abs, Int.abs_eq_natAbs,
    natAbs_signed]
  rfl

theorem abs_eq_whole_iff {hr : Representable units} (h : (finite negative units hr).Denotes v)
    (n : Nat) : |v| = n ↔ units = n * unitsPerOne := by
  rw [← mul_left_inj' (ne_of_gt unitsPerOne_cast_pos), abs_mul_unitsPerOne h]
  norm_cast

/-- All of these numbers are nearly whole. -/
theorem MeasuredOtherwise.isNearInteger {tolerance : Binary64} (h : MeasuredOtherwise x v e)
    (hx : x.Denotes v) (he : tolerance.Denotes e) (hpos : 0 < e) (hone : e ≤ 1) :
    x.isNearInteger tolerance = true := by
  rw [isNearInteger_iff hx he hone]
  cases h with
  | negativeZero h =>
    subst h
    have hzero : |v| = (0 : Nat) := (abs_eq_whole_iff hx 0).mpr (Nat.zero_mul _).symm
    exact ⟨0, by decide, le_of_eq hzero.symm, by rw [hzero]; linarith⟩
  | nearlyWhole m hm hlow hhigh => exact ⟨m, hm, le_of_lt hlow, hhigh⟩
  | large m _ hhigh hv _ => exact ⟨m, hhigh, le_of_eq hv.symm, by rw [hv]; linarith⟩

/-- A whole number is measured otherwise if it is large. -/
theorem measuredOtherwise_whole_iff {n : Nat} (hn : n < 2 ^ 31) (hv : |v| = n) (hone : e ≤ 1)
    (hx : x ≠ signedZero true) :
    MeasuredOtherwise x v e ↔ 10 ^ 7 ≤ n ∧ ¬ (1000 ∣ n ∧ ¬ 10000 ∣ n) := by
  constructor
  · rintro (h | ⟨m, -, hlow, hhigh⟩ | ⟨m, hlow, -, hm, hzeros⟩)
    · exact absurd h hx
    · -- no whole number lies between `m` and the next one
      rw [hv] at hlow hhigh
      have hless : (n : ℚ) < m + 1 := hhigh.trans_le (by linarith)
      have hlow := Nat.cast_lt.mp hlow
      have hless : n < m + 1 := by exact_mod_cast hless
      omega
    · obtain rfl : n = m := Nat.cast_injective (hv.symm.trans hm)
      exact ⟨hlow, hzeros⟩
  · exact fun ⟨hlow, hzeros⟩ => .large n hlow hn hv hzeros

/-- Whole numbers have the length of their text up to ten million, and beyond if just three zeros end
them. -/
theorem length_whole_iff {n : Nat} (hpos : 0 < n) (h : n < 2 ^ 31)
    (hr : Representable (n * unitsPerOne)) :
    (toString (signed negative n)).length =
        (stripTrailingZero (write (finite negative (n * unitsPerOne) hr))).length ↔
      ¬ (10 ^ 7 ≤ n ∧ ¬ (1000 ∣ n ∧ ¬ 10000 ∣ n)) := by
  rw [length_toString_signed (.inl (Nat.ne_of_gt hpos))]
  by_cases hlarge : 10 ^ 7 ≤ n
  · rw [← length_display_large_iff hlarge h hr, and_iff_right hlarge, not_not]
    exact eq_comm
  · rw [length_display_small hpos (Nat.lt_of_not_le hlarge) hr]
    exact iff_of_true rfl fun hboth => hlarge hboth.1

theorem length_zero_iff (hv : |v| = (0 : Nat)) (hone : e ≤ 1) :
    (toString (signedZero negative).toInt32).length =
        (stripTrailingZero (write (signedZero negative))).length ↔
      ¬ MeasuredOtherwise (signedZero negative) v e := by
  cases negative with
  | false =>
    have hsign : signedZero false ≠ signedZero true := by decide +kernel
    refine iff_of_true (by decide +kernel) ?_
    rw [measuredOtherwise_whole_iff (by decide) hv hone hsign]
    exact fun h => absurd h.1 (by decide)
  | true => exact iff_of_false (by decide +kernel) (not_not.mpr (.negativeZero rfl))

/-- **The length of a number is that of its text**, except for the numbers that are measured otherwise. -/
theorem length_wholeOrNumeral_iff (hx : x.Denotes v) (he : env.settings.integerEpsilon.Denotes e)
    (hpos : 0 < e) (hone : e ≤ 1) :
    (Argument.wholeOrNumeral env x).length = (stripTrailingZero (write x)).length ↔
      ¬ MeasuredOtherwise x v e := by
  have hother (h : MeasuredOtherwise x v e) := h.isNearInteger hx he hpos hone
  have hnear := isNearInteger_iff hx he hone
  obtain ⟨p, hp, -⟩ := id hx
  obtain ⟨negative, units, hr, rfl, -⟩ := hp.exists_finite
  unfold Argument.wholeOrNumeral
  by_cases htest : (finite negative units hr).isNearInteger env.settings.integerEpsilon = true
  · rw [if_pos htest]
    by_cases hzero : units = 0
    · subst hzero
      exact length_zero_iff ((abs_eq_whole_iff hx 0).mpr (Nat.zero_mul _).symm) hone
    obtain ⟨m, hm, hlow, hhigh⟩ := hnear.mp htest
    have hlimit : units < 2 ^ 31 * unitsPerOne := by
      have hnext : (m : ℚ) + 1 ≤ 2 ^ 31 := by exact_mod_cast hm
      have hless : |v| < 2 ^ 31 := by linarith
      rw [← mul_lt_mul_iff_of_pos_right unitsPerOne_cast_pos, abs_mul_unitsPerOne hx] at hless
      exact_mod_cast hless
    rw [toInt32_finite hr ((Nat.div_lt_iff_lt_mul unitsPerOne_pos).mpr hlimit)]
    by_cases hdvd : unitsPerOne ∣ units
    · obtain ⟨n, hunits⟩ := hdvd
      obtain rfl : n * unitsPerOne = units := (Nat.mul_comm n unitsPerOne).trans hunits.symm
      have hv := (abs_eq_whole_iff hx n).mpr rfl
      have hn : n < 2 ^ 31 := Nat.lt_of_mul_lt_mul_right hlimit
      rw [Nat.mul_div_cancel n unitsPerOne_pos]
      have hpositive : 0 < n := Nat.pos_of_mul_pos_right (Nat.pos_of_ne_zero hzero)
      have hsign : finite negative (n * unitsPerOne) hr ≠ signedZero true := fun heq =>
        hzero (finite.inj heq).2
      rw [length_whole_iff hpositive hn, measuredOtherwise_whole_iff hn hv hone hsign]
    · have hless : (toString (signed negative (units / unitsPerOne))).length <
          (stripTrailingZero (write (finite negative units hr))).length :=
        Nat.lt_of_le_of_lt length_toString_signed_le (length_display_fraction hlimit hdvd hr)
      refine iff_of_false (Nat.ne_of_lt hless) (not_not.mpr (.nearlyWhole m hm ?_ hhigh))
      refine lt_of_le_of_ne hlow fun heq => hdvd ?_
      rw [(abs_eq_whole_iff hx m).mp heq.symm]
      exact Nat.dvd_mul_left _ _
  · rw [if_neg htest]
    rcases stripTrailingZero_write negative hr with hsame | ⟨n, hn, hunits⟩
    · rw [hsame]
      exact iff_of_true rfl (mt hother htest)
    · have hv := (abs_eq_whole_iff hx n).mpr hunits
      exact absurd (hnear.mpr ⟨n, Nat.lt_trans hn (by decide), le_of_eq hv.symm, by rw [hv]; linarith⟩)
        htest

theorem length_wholeOrNumeral_le (env : Environment) (x : Binary64) :
    (Argument.wholeOrNumeral env x).length ≤ 5000 := by
  unfold Argument.wholeOrNumeral
  split
  · have hlimit := toInt32_natAbs_le x
    have hdigits := (Nat.length_toDigits_le_iff (b := 10) (n := x.toInt32.natAbs) (k := 10) (by decide)
      (by decide)).mpr (Nat.lt_of_le_of_lt hlimit (by decide))
    have hsigned : x.toInt32 = signed (x.toInt32 < 0) x.toInt32.natAbs := by
      unfold signed
      simp only [decide_eq_true_eq]
      split <;> omega
    rw [hsigned]
    refine Nat.le_trans length_toString_signed_le ?_
    have hsign := length_signChars_le (x.toInt32 < 0)
    omega
  · exact length_write_le x

end

/-! ## Lengths of variables -/

namespace Formula
variable {env : Environment} {text : Option String} {x : Binary64} {v e : ℚ}

theorem variable_gives (hget : env.get (text.getD "") = .number x) (hfinite : x.isFinite = true)
    (left right : Formula) (n : Nat) :
    ((node .userVariable text left right).evaluate env).Gives n (.number x) n := by
  have hleaf : leafDatum env .userVariable text = .ok (.number x) := by
    show Except.ok (env.readVariable (text.getD "")) = _
    unfold Environment.readVariable
    rw [hget]
  exact gives_leaf (by decide) (by simp) (by simp) hleaf (Datum.normalize_number hfinite) n

theorem length_gives (hget : env.get (text.getD "") = .number x) (hfinite : x.isFinite = true)
    (left right : Formula) (n : Nat) :
    ((node .function (some "LENGTH") (node .userVariable text left right) .empty).evaluate env).Gives
      n (.number (.ofInt (Argument.wholeOrNumeral env x).length)) n := by
  have hlength : Call.length env ⟨node .userVariable text left right, some (.number x)⟩ =
      .ok (Argument.wholeOrNumeral env x).length := by
    show Call.variableLength env (text.getD "") = _
    unfold Call.variableLength
    rw [hget]
    rfl
  have hname : (some "LENGTH").bind BuiltIn.ofName? = some .length := by decide
  refine gives_function_one hname nofun (variable_gives hget hfinite left right n) ?_
    (Datum.normalize_number (liesAt_ofInt ?_).isFinite)
  · unfold Call.apply Call.applyText
    simp only [hlength]
    rfl
  · rw [Int.natAbs_natCast]
    exact Nat.le_trans (length_wholeOrNumeral_le env x) (by decide)

theorem join_gives (hget : env.get (text.getD "") = .number x) (hfinite : x.isFinite = true)
    (left right : Formula) (n : Nat) :
    ((node .function (some "JOIN") (node .userVariable text left right)
      (.leaf .string "")).evaluate env).Gives n (.text (stripTrailingZero (write x))) n := by
  have hname : (some "JOIN").bind BuiltIn.ofName? = some .join := by decide
  refine gives_function (d := .text (stripTrailingZero (write x))) hname nofun nofun
    (variable_gives hget hfinite left right n) rfl ?_ rfl
  show (pure (.text (stripTrailingZero (write x) ++ "")) : Evaluation Datum) = _
  rw [String.append_empty]

/-- **The length of a variable is that of its text**, when a finite number is bound to it, unless the
number is measured otherwise: for every tolerance above zero up to one, the default among them. -/
theorem variable_length_iff (hget : env.get (text.getD "") = .number x) (hx : x.Denotes v)
    (he : env.settings.integerEpsilon.Denotes e) (hpos : 0 < e) (hone : e ≤ 1) (left right : Formula)
    (n : Nat) :
    ∃ (k : Nat) (s : String), k < 2 ^ 53 ∧
      ((node .function (some "LENGTH") (node .userVariable text left right) .empty).evaluate env).Gives
        n (.number (.ofInt k)) n ∧
      ((node .function (some "JOIN") (node .userVariable text left right)
        (.leaf .string "")).evaluate env).Gives n (.text s) n ∧
      (k = s.length ↔ ¬ MeasuredOtherwise x v e) := by
  obtain ⟨p, hp, -⟩ := id hx
  refine ⟨_, _, ?_, length_gives hget hp.isFinite left right n,
    join_gives hget hp.isFinite left right n, length_wholeOrNumeral_iff hx he hpos hone⟩
  exact Nat.lt_of_le_of_lt (length_wholeOrNumeral_le env x) (by decide)

/-- The default tolerance lies between zero and one. -/
theorem exists_default_tolerance :
    ∃ e : ℚ, ({} : Settings).integerEpsilon.Denotes e ∧ 0 < e ∧ e ≤ 1 := by
  have hbelow : zero.lt ({} : Settings).integerEpsilon = true := by decide +kernel
  have habove : ({} : Settings).integerEpsilon.le one = true := by decide +kernel
  have hfinite : ({} : Settings).integerEpsilon.isFinite = true := by decide +kernel
  obtain ⟨p, hp⟩ := exists_liesAt hfinite
  have hpos : 0 < p := (liesAt_zero.lt_iff hp).mp hbelow
  have hone : p ≤ unitsPerOne := (hp.le_iff liesAt_one).mp habove
  refine ⟨p / unitsPerOne, ⟨p, hp, div_mul_cancel₀ _ (ne_of_gt unitsPerOne_cast_pos)⟩, ?_, ?_⟩
  · exact div_pos (Int.cast_pos.mpr hpos) unitsPerOne_cast_pos
  · rw [div_le_one unitsPerOne_cast_pos]
    exact_mod_cast hone

/-- A project with one variable. -/
def withVariable (x : Binary64) : Environment :=
  { Environment.bare {} (fun _ => .zero) with store := ⟨fun _ _ => .number x, fun _ _ => none⟩ }

/-- What is asked about the variable. -/
def lengthOf (name : String) : Formula := .node .function (some "LENGTH") (.leaf .userVariable name) .empty

def joined (name : String) : Formula :=
  .node .function (some "JOIN") (.leaf .userVariable name) (.leaf .string "")

theorem variable_length_three :
    ∃ (k : Nat) (s : String), k < 2 ^ 53 ∧
      ((lengthOf "score").evaluate (withVariable (.ofInt 3))).Gives 0 (.number (.ofInt k)) 0 ∧
      ((joined "score").evaluate (withVariable (.ofInt 3))).Gives 0 (.text s) 0 ∧ k = s.length := by
  obtain ⟨e, he, hpos, hone⟩ := exists_default_tolerance
  have hthree : (ofInt 3).Denotes (3 : Int) := denotes_whole (liesAt_ofInt (by decide))
  have hget : (withVariable (.ofInt 3)).get ((some "score").getD "") = .number (.ofInt 3) := rfl
  obtain ⟨k, s, hk, hlength, hjoined, hiff⟩ :=
    variable_length_iff hget hthree he hpos hone .empty .empty 0
  have hmeasured : ¬ MeasuredOtherwise (ofInt 3) (3 : Int) e := by
    have hsign : ofInt 3 ≠ signedZero true := by decide +kernel
    rw [measuredOtherwise_whole_iff (n := 3) (by decide) (by norm_num) hone hsign]
    exact fun h => absurd h.1 (by decide)
  exact ⟨k, s, hk, hlength, hjoined, hiff.mpr hmeasured⟩

/-- Ten million has eight digits, and is shown in five characters. -/
theorem variable_length_tenMillion :
    (ofInt 10000000).isFinite = true ∧
      (((lengthOf "score").evaluate (withVariable (.ofInt 10000000))).run.run 0).1 =
        .ok (.number (.ofInt 8)) ∧
      (((joined "score").evaluate (withVariable (.ofInt 10000000))).run.run 0).1 =
        .ok (.text "1.0E7") ∧
      "1.0E7".length = 5 := by
  decide +kernel

end Formula

end BrickFormula
