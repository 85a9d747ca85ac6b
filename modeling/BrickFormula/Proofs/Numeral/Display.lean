import BrickFormula.Proofs.Binary64.ShortestDecimal
import BrickFormula.Proofs.Numeral.Spelling

/-!
# Numbers on display

A text on display has lost a final `.0`.  Of the numerals only those of whole numbers below ten million
have one, and what is left of them is the digits of the number.  Larger whole numbers are written with an
exponent, and may be shown shorter or longer than their digits are; numbers with a fraction are always
shown longer than their whole part.

    stripTrailingZero_chars        what a spelling loses on display
    stripTrailingZero_write        only whole numbers below ten million lose anything
    length_display_small           the digits of a whole number below ten million
    length_display_large_iff       larger whole numbers
    length_display_fraction        numbers with a fraction
    length_write_le                no numeral is long
-/

namespace BrickFormula.Numeral
open Binary64 Digits

/-! ## A final `.0` -/

/-- A text on display has lost a final `.0`, if it had one. -/
theorem stripTrailingZero_cases (text : List Char) :
    stripTrailingZero (String.ofList text) = String.ofList text ∨
      ∃ start, text = start ++ ['.', '0'] ∧
        stripTrailingZero (String.ofList text) = String.ofList start := by
  unfold stripTrailingZero
  rw [String.toList_ofList]
  split
  · next rest hrest =>
    refine .inr ⟨rest.reverse, ?_, rfl⟩
    rw [← List.reverse_reverse text, hrest]
    simp
  · exact .inl rfl

theorem stripTrailingZero_append (start : String) : stripTrailingZero (start ++ ".0") = start := by
  unfold stripTrailingZero
  rw [String.toList_append, List.reverse_append]
  show String.ofList start.toList.reverse.reverse = start
  rw [List.reverse_reverse, String.ofList_toList]

/-- A text either ends in `.0` and loses it, or it stays. -/
theorem stripTrailingZero_spec (s : String) :
    (∃ start, s = start ++ ".0" ∧ stripTrailingZero s = start) ∨
      (∀ start, s ≠ start ++ ".0") ∧ stripTrailingZero s = s := by
  by_cases hcut : ∃ start, s = start ++ ".0"
  · obtain ⟨start, rfl⟩ := hcut
    exact .inl ⟨start, rfl, stripTrailingZero_append start⟩
  · refine .inr ⟨fun start heq => hcut ⟨start, heq⟩, ?_⟩
    have hcases := stripTrailingZero_cases s.toList
    rw [String.ofList_toList] at hcases
    refine hcases.resolve_right fun ⟨start, htext, _⟩ => hcut ⟨String.ofList start, ?_⟩
    rw [← String.toList_inj, htext, String.toList_append, String.toList_ofList]
    rfl

/-- The decimal text of a whole number has no point. -/
theorem stripTrailingZero_toString (n : Int) : stripTrailingZero (toString n) = toString n := by
  have hpoint : '.' ∉ (toString n).toList := by
    have hdigits (k : Nat) : '.' ∉ (Nat.repr k).toList := by
      rw [Nat.toList_repr]
      exact (only_toDigits k).notMem rfl
    cases n with
    | ofNat k => exact hdigits k
    | negSucc k =>
      show '.' ∉ ("-" ++ Nat.repr (k + 1)).toList
      rw [String.toList_append]
      exact fun hmem => (List.mem_append.mp hmem).elim (by decide) (hdigits (k + 1))
  rcases stripTrailingZero_spec (toString n) with ⟨start, heq, -⟩ | ⟨-, hsame⟩
  · rw [heq, String.toList_append] at hpoint
    exact absurd (List.mem_append_right _ (by decide)) hpoint
  · exact hsame

/-! ## Spellings on display -/

/-- A zero behind the point does not count. -/
theorem ofDecimal_append_zero (negative : Bool) {digits : List Char} (h : Only digits) :
    ofDecimal negative (toNat 10 (digits ++ ['0'])) (0 - (['0'].length : Nat)) =
      ofDecimal negative (toNat 10 digits) 0 := by
  rw [show digits ++ ['0'] = digits ++ List.replicate 1 '0' from rfl, toNat_append_zeros h,
    ofDecimal_mul_pow]
  rfl

/-- **The only spelling to lose something** is that of digits with a single zero behind the point. -/
theorem Spelling.stripTrailingZero_chars (s : Spelling) (negative : Bool) :
    stripTrailingZero (String.ofList (signChars negative ++ s.chars)) =
        String.ofList (signChars negative ++ s.chars) ∨
      stripTrailingZero (String.ofList (signChars negative ++ s.chars)) =
          String.ofList (signChars negative ++ s.whole) ∧
        s.number negative = ofDecimal negative (toNat 10 s.whole) 0 := by
  rcases stripTrailingZero_cases (signChars negative ++ s.chars) with hsame | ⟨start, htext, hstrip⟩
  · exact .inl hsame
  -- the point that is dropped is the point of the spelling, as there is no other
  have hbefore : '.' ∉ signChars negative ++ s.whole := by
    intro hmem
    rcases List.mem_append.mp hmem with hsign | hwhole
    · cases negative <;> simp [signChars] at hsign
    · exact s.only_whole.notMem rfl hwhole
  have hbehind : '.' ∉ s.decimals ++ s.tail := by
    intro hmem
    rcases s.mem_decimals_tail hmem with hdigit | h | h
    · cases hdigit
    · cases h
    · cases h
  have hpoint : (signChars negative ++ s.whole) ++ '.' :: (s.decimals ++ s.tail) =
      start ++ '.' :: ['0'] := by
    rw [List.append_assoc]
    exact htext
  obtain ⟨hstart, -, hrest⟩ := (List.append_cons_inj_of_notMem hbefore hbehind).mp hpoint
  have hexponent : s.exponent = none := by
    cases he : s.exponent with
    | none => rfl
    | some e =>
      have hmark : 'E' ∈ s.decimals ++ s.tail := by
        unfold tail
        rw [he]
        exact List.mem_append_right _ List.mem_cons_self
      rw [hrest] at hmark
      simp at hmark
  have hdecimals : s.decimals = ['0'] := by
    unfold tail at hrest
    rwa [hexponent, Option.elim_none, List.append_nil] at hrest
  refine .inr ⟨hstart ▸ hstrip, ?_⟩
  unfold number
  rw [hexponent, hdecimals, Option.getD_none, ofDecimal_append_zero negative s.only_whole]

/-! ## Numerals on display -/

section
variable {d : Decimal} {negative : Bool} {units n : Nat} {hr : Representable units}

/-- Few digits stand before the point of a numeral. -/
theorem exists_point (d : Decimal) : ∃ before behind, native.magnitude d = before ++ '.' :: behind ∧
    Only before ∧ before.length ≤ 7 := by
  have h := only_toDigits d.coefficient
  have hlength : 0 < (Nat.toDigits 10 d.coefficient).length := Nat.length_toDigits_pos
  unfold NumberFormat.magnitude decimalDigits
  simp only
  generalize Nat.toDigits 10 d.coefficient = digits at *
  split
  · next hexponent =>
    have hlow : (-3 : Int) ≤ d.exponent + digits.length - 1 := hexponent.1
    have hhigh : d.exponent + digits.length - 1 < 7 := hexponent.2
    unfold positional
    simp only
    split
    · exact ⟨['0'], _, rfl, only_zeros 1, by decide⟩
    · split
      · refine ⟨_, ['0'], rfl, h.append (only_zeros _), ?_⟩
        rw [List.length_append, List.length_replicate]
        omega
      · refine ⟨_, _, rfl, fun c hc => h c (List.mem_of_mem_take hc), ?_⟩
        rw [List.length_take]
        omega
  · cases digits with
    | nil => cases hlength
    | cons c rest =>
      have hc : Only [c] := fun x hx => h x (List.mem_singleton.mp hx ▸ List.mem_cons_self)
      cases rest with
      | nil => exact ⟨[c], _, rfl, hc, Nat.succ_le_succ (Nat.zero_le 6)⟩
      | cons second rest => exact ⟨[c], _, rfl, hc, Nat.succ_le_succ (Nat.zero_le 6)⟩

/-- The point of a text stands behind its first digits. -/
theorem Spelling.whole_eq (s : Spelling) {before behind : List Char}
    (h : s.chars = before ++ '.' :: behind) (honly : Only before) : s.whole = before := by
  have hpoint (rest : List Char) : ∀ c ∈ ('.' :: rest).head?, c.isDigit = false := by
    intro c hc
    cases hc
    rfl
  have hsplit := congrArg Digits.split h
  unfold chars at hsplit
  rw [split_append s.only_whole (hpoint _), split_append honly (hpoint _)] at hsplit
  exact (Prod.mk.inj hsplit).1

theorem write_finite (negative : Bool) {units : Nat} (hr : Representable units) (hne : units ≠ 0) :
    write (.finite negative units hr) = String.ofList (signChars negative ++
      (native.magnitude (shortestDecimal negative units hr))) :=
  congrArg (fun text => String.ofList (signChars negative ++ text)) (if_neg hne)

/-- **Only whole numbers below ten million lose anything on display.** -/
theorem stripTrailingZero_write (negative : Bool) {units : Nat} (hr : Representable units) :
    stripTrailingZero (write (.finite negative units hr)) = write (.finite negative units hr) ∨
      ∃ n < 10 ^ 7, units = n * unitsPerOne := by
  by_cases hzero : units = 0
  · exact .inr ⟨0, by decide, by rw [hzero, Nat.zero_mul]⟩
  obtain ⟨s, hchars, hnumber⟩ := spells_magnitude (shortestDecimal negative units hr)
  obtain ⟨before, behind, hpoint, honly, hlength⟩ := exists_point (shortestDecimal negative units hr)
  rw [write_finite negative hr hzero, ← hchars]
  refine (s.stripTrailingZero_chars negative).imp_right fun ⟨_, hwhole⟩ => ?_
  have hlt : toNat 10 s.whole < 10 ^ 7 := by
    rw [s.whole_eq (hchars.trans hpoint) honly]
    exact Nat.lt_of_lt_of_le (toNat_lt honly) (Nat.pow_le_pow_right (by decide) hlength)
  refine ⟨_, hlt, ?_⟩
  have hread := hwhole.symm.trans ((hnumber negative).trans (number_shortestDecimal negative hr))
  rw [ofDecimal_units negative (representable_whole (Nat.lt_trans hlt (by decide)))] at hread
  exact (Binary64.finite.inj hread).2.symm

end

/-! ## Lengths on display -/

/-- The zeros at the end of a number. -/
theorem pow_dvd_iff {c : Nat} (hlast : c % 10 ≠ 0) (zeros k : Nat) :
    10 ^ k ∣ c * 10 ^ zeros ↔ k ≤ zeros := by
  refine ⟨fun hdvd => Nat.le_of_not_lt fun hlt => ?_, fun hle =>
    Nat.dvd_mul_left_of_dvd (Nat.pow_dvd_pow 10 hle) c⟩
  obtain ⟨more, rfl⟩ := Nat.exists_eq_add_of_lt hlt
  have hnext := Nat.dvd_trans (Nat.pow_dvd_pow 10 (show zeros + 1 ≤ zeros + more + 1 by omega)) hdvd
  rw [Nat.pow_succ, Nat.mul_comm c] at hnext
  have hten := Nat.dvd_of_mul_dvd_mul_left (Nat.pow_pos (by decide)) hnext
  omega

/-- The length of a text in exponent notation. -/
theorem length_scientific {digits : List Char} (h : digits ≠ []) (e : Int) :
    (native.scientific digits e).length =
      max 3 (digits.length + 1) + 1 + (native.exponentText e).length := by
  match digits, h with
  | [c], _ => simp [NumberFormat.scientific, native]; omega
  | c :: second :: rest, _ => simp [NumberFormat.scientific, native]; omega

theorem length_exponentText {e : Int} (hlow : 0 ≤ e) (hhigh : e < 10) :
    (native.exponentText e).length = 1 := by
  rw [Spelling.exponentText_eq, if_neg (Int.not_lt.mpr hlow), Nat.toDigits_of_lt_base (by omega)]
  rfl

section
variable {d : Decimal} {n : Nat}

theorem magnitude_scientific
    (h : 7 ≤ d.exponent + (Nat.toDigits 10 d.coefficient).length - 1) :
    native.magnitude d = native.scientific (Nat.toDigits 10 d.coefficient)
      (d.exponent + (Nat.toDigits 10 d.coefficient).length - 1) :=
  if_neg fun hpositional => Int.not_lt.mpr h hpositional.2

/-- Whole numbers of at most seven digits show these digits. -/
theorem stripTrailingZero_magnitude (sign : List Char) (hexp : 0 ≤ d.exponent)
    (hfew : (Nat.toDigits 10 d.coefficient).length + d.exponent ≤ 7) :
    stripTrailingZero (String.ofList (sign ++ (native.magnitude d))) =
      String.ofList (sign ++ (Nat.toDigits 10 d.coefficient ++
        List.replicate d.exponent.toNat '0')) := by
  have hpos : 0 < (Nat.toDigits 10 d.coefficient).length := Nat.length_toDigits_pos
  have hmagnitude : native.magnitude d =
      Nat.toDigits 10 d.coefficient ++ List.replicate d.exponent.toNat '0' ++ ['.', '0'] := by
    unfold NumberFormat.magnitude decimalDigits
    simp only
    generalize Nat.toDigits 10 d.coefficient = digits at *
    have hpositional : native.leastPositional ≤ d.exponent + digits.length - 1 ∧
        d.exponent + digits.length - 1 < native.leastScientific :=
      ⟨show (-3 : Int) ≤ _ by omega, show _ < (7 : Int) by omega⟩
    have hzeros : (d.exponent + digits.length - 1).toNat + 1 - digits.length = d.exponent.toNat := by
      omega
    unfold positional
    simp only
    rw [if_pos hpositional, if_neg (by omega), if_pos (by omega), hzeros]
  rw [hmagnitude, ← List.append_assoc, String.ofList_append]
  exact stripTrailingZero_append _

/-- A decimal with digits behind the point is written with all of its digits and the point, in at least
three characters. -/
theorem lt_length_magnitude (hexp : d.exponent < 0) :
    (Nat.toDigits 10 d.coefficient).length < (native.magnitude d).length ∧
      3 ≤ (native.magnitude d).length := by
  have hne : Nat.toDigits 10 d.coefficient ≠ [] := Nat.toDigits_ne_nil
  have hpos : 0 < (Nat.toDigits 10 d.coefficient).length := Nat.length_toDigits_pos
  unfold NumberFormat.magnitude decimalDigits
  simp only
  generalize Nat.toDigits 10 d.coefficient = digits at *
  split
  · unfold positional
    simp only
    split
    · simp only [List.length_cons, List.length_append, List.cons_append]
      omega
    · rw [if_neg (by omega)]
      simp only [List.length_append, List.length_cons, List.length_take, List.length_drop]
      omega
  · rw [length_scientific hne]
    omega

end

section
variable {n : Nat} {negative : Bool} {units : Nat}

/-- **A whole number below ten million** shows its digits. -/
theorem length_display_small (hpos : 0 < n) (h : n < 10 ^ 7) (hr : Representable (n * unitsPerOne)) :
    (stripTrailingZero (write (.finite negative (n * unitsPerOne) hr))).length =
      (signChars negative).length + (Nat.toDigits 10 n).length := by
  obtain ⟨hexp, hvalue, -⟩ :=
    shortestDecimal_whole negative hpos (Nat.lt_trans h (by decide)) hr
  rw [write_finite negative hr (Nat.mul_ne_zero (Nat.ne_of_gt hpos) (Nat.ne_of_gt unitsPerOne_pos))]
  generalize shortestDecimal negative (n * unitsPerOne) hr = d at *
  have hcoefficient : 0 < d.coefficient := Nat.pos_of_ne_zero fun hzero => by
    rw [hzero, Nat.zero_mul] at hvalue
    omega
  have hlength := length_toDigits_mul_pow hcoefficient d.exponent.toNat
  rw [hvalue] at hlength
  have hseven := (Nat.length_toDigits_le_iff (b := 10) (n := n) (k := 7) (by decide) (by decide)).mpr h
  rw [stripTrailingZero_magnitude _ hexp (by omega), String.length_ofList]
  simp only [List.length_append, List.length_replicate, hlength]

/-- **A larger whole number** is shown with an exponent.  That is as long as its digits are if just
three zeros end them. -/
theorem length_display_large_iff (h : 10 ^ 7 ≤ n) (hlt : n < 2 ^ 31)
    (hr : Representable (n * unitsPerOne)) :
    (stripTrailingZero (write (.finite negative (n * unitsPerOne) hr))).length =
        (signChars negative).length + (Nat.toDigits 10 n).length ↔
      1000 ∣ n ∧ ¬ 10000 ∣ n := by
  have hpos : 0 < n := Nat.lt_of_lt_of_le (by decide) h
  have hunits : n * unitsPerOne ≠ 0 :=
    Nat.mul_ne_zero (Nat.ne_of_gt hpos) (Nat.ne_of_gt unitsPerOne_pos)
  have hkept : stripTrailingZero (write (.finite negative (n * unitsPerOne) hr)) =
      write (.finite negative (n * unitsPerOne) hr) := by
    refine (stripTrailingZero_write negative hr).resolve_right ?_
    rintro ⟨m, hm, heq⟩
    rw [Nat.mul_right_cancel unitsPerOne_pos heq] at h
    omega
  obtain ⟨hexp, hvalue, hlast⟩ := shortestDecimal_whole negative hpos hlt hr
  rw [hkept, write_finite negative hr hunits]
  generalize shortestDecimal negative (n * unitsPerOne) hr = d at *
  have hcoefficient : 0 < d.coefficient := Nat.pos_of_ne_zero fun hzero => by
    rw [hzero] at hlast
    exact hlast rfl
  have hlength := length_toDigits_mul_pow hcoefficient d.exponent.toNat
  rw [hvalue] at hlength
  have hmany := mt (Nat.length_toDigits_le_iff (b := 10) (n := n) (k := 7) (by decide)
    (by decide)).mp (Nat.not_lt.mpr h)
  have hten := (Nat.length_toDigits_le_iff (b := 10) (n := n) (k := 10) (by decide)
    (by decide)).mpr (Nat.lt_trans hlt (by decide))
  have hthree := pow_dvd_iff hlast d.exponent.toNat 3
  have hfour := pow_dvd_iff hlast d.exponent.toNat 4
  rw [hvalue] at hthree hfour
  rw [String.length_ofList, List.length_append, magnitude_scientific (by omega),
    length_scientific Nat.toDigits_ne_nil, length_exponentText (by omega) (by omega)]
  have hpos : 0 < (Nat.toDigits 10 d.coefficient).length := Nat.length_toDigits_pos
  rw [show 1000 = 10 ^ 3 from rfl, show 10000 = 10 ^ 4 from rfl, hthree, hfour]
  omega

/-- **A number with a fraction** is shown longer than its whole part. -/
theorem length_display_fraction (hlt : units < 2 ^ 31 * unitsPerOne) (hdvd : ¬ unitsPerOne ∣ units)
    (hr : Representable units) :
    (signChars negative).length + (Nat.toDigits 10 (units / unitsPerOne)).length <
      (stripTrailingZero (write (.finite negative units hr))).length := by
  have hkept : stripTrailingZero (write (.finite negative units hr)) =
      write (.finite negative units hr) := by
    refine (stripTrailingZero_write negative hr).resolve_right ?_
    exact fun ⟨m, _, heq⟩ => hdvd ⟨m, heq.trans (Nat.mul_comm m unitsPerOne)⟩
  have hne : units ≠ 0 := by
    intro hzero
    rw [hzero] at hdvd
    exact hdvd (Nat.dvd_zero unitsPerOne)
  have hnumber := number_shortestDecimal negative hr
  have hexp := shortestDecimal_fraction negative hr
    (Nat.lt_trans hlt (Nat.mul_lt_mul_of_pos_right (by decide) unitsPerOne_pos)) hdvd
  rw [hkept, write_finite negative hr hne, String.length_ofList, List.length_append]
  generalize shortestDecimal negative units hr = d at *
  obtain ⟨hlonger, hthree⟩ := lt_length_magnitude hexp
  refine Nat.add_lt_add_left ?_ _
  have hpart : units / unitsPerOne < 2 ^ 31 := Nat.div_lt_of_lt_mul (Nat.mul_comm _ _ ▸ hlt)
  have hten := (Nat.length_toDigits_le_iff (b := 10) (n := units / unitsPerOne) (k := 10) (by decide)
    (by decide)).mpr (Nat.lt_trans hpart (by decide))
  have hpos : 0 < (Nat.toDigits 10 d.coefficient).length := Nat.length_toDigits_pos
  have hdigits := (Nat.length_toDigits_le_iff (b := 10) (n := d.coefficient) (by decide) hpos).mp
    (Nat.le_refl _)
  -- unless the digits are many anyway, there are more of them than before the point
  by_cases hfew : (Nat.toDigits 10 d.coefficient).length + d.exponent ≤ 10
  · obtain ⟨k, hk⟩ : ∃ k, k = ((Nat.toDigits 10 d.coefficient).length + d.exponent).toNat := ⟨_, rfl⟩
    have hle : units ≤ 10 ^ k * unitsPerOne :=
      units_le_of_number hnumber (Int.le_of_lt hexp) hdigits (by omega) (by omega)
    have hless : units < 10 ^ k * unitsPerOne := by
      refine Nat.lt_of_le_of_ne hle fun heq => hdvd ?_
      rw [heq]
      exact Nat.dvd_mul_left _ _
    have hwhole : units / unitsPerOne < 10 ^ max 1 k := by
      refine Nat.lt_of_lt_of_le (Nat.div_lt_of_lt_mul ?_) (Nat.pow_le_pow_right (by decide)
        (Nat.le_max_right 1 k))
      rwa [Nat.mul_comm]
    have hshort := (Nat.length_toDigits_le_iff (b := 10) (by decide) (by omega)).mpr hwhole
    omega
  · omega

end

/-! ## Lengths of numerals -/

theorem length_signChars_le (negative : Bool) : (signChars negative).length ≤ 1 := by
  cases negative <;> decide

theorem length_exponentText_le (e : Int) : (native.exponentText e).length ≤ e.natAbs + 2 := by
  have hdigits : (Nat.toDigits 10 e.natAbs).length ≤ e.natAbs + 1 := by
    refine (Nat.length_toDigits_le_iff (by decide) (Nat.succ_pos _)).mpr ?_
    exact Nat.lt_trans (Nat.lt_succ_self _) (Nat.lt_pow_self (by decide))
  rw [Spelling.exponentText_eq, List.length_append]
  split
  · rw [List.length_singleton]
    omega
  · rw [List.length_nil]
    omega

theorem length_magnitude_le (d : Decimal) : (native.magnitude d).length ≤
    2 * (Nat.toDigits 10 d.coefficient).length + d.exponent.natAbs + 10 := by
  have hne : Nat.toDigits 10 d.coefficient ≠ [] := Nat.toDigits_ne_nil
  unfold NumberFormat.magnitude decimalDigits
  simp only
  generalize Nat.toDigits 10 d.coefficient = digits at *
  split
  · next hexponent =>
    have hlow : (-3 : Int) ≤ d.exponent + digits.length - 1 := hexponent.1
    have hhigh : d.exponent + digits.length - 1 < 7 := hexponent.2
    unfold positional
    simp only
    split
    · simp only [List.length_cons, List.length_append, List.cons_append, List.length_replicate]
      omega
    · split
      · simp only [List.length_append, List.length_cons, List.length_replicate, List.length_nil]
        omega
      · simp only [List.length_append, List.length_cons, List.length_take, List.length_drop]
        omega
  · have hexponent := length_exponentText_le (d.exponent + digits.length - 1)
    rw [length_scientific hne]
    omega

/-- **No numeral is long.** -/
theorem length_write_le (x : Binary64) : (write x).length ≤ 5000 := by
  cases x with
  | nan => decide
  | infinity negative => cases negative <;> decide
  | finite negative units hr =>
    by_cases hzero : units = 0
    · subst hzero
      show (write (signedZero negative)).length ≤ 5000
      cases negative <;> decide
    · have hsign := length_signChars_le negative
      obtain ⟨hdigits, hexponent⟩ := shortestDecimal_size negative hr
      have hmagnitude := length_magnitude_le (shortestDecimal negative units hr)
      rw [write_finite negative hr hzero, String.length_ofList, List.length_append]
      omega

end BrickFormula.Numeral
