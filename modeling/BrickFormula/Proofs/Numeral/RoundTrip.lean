import BrickFormula.CommandLine
import BrickFormula.Proofs.Numeral.Display
import BrickFormula.Proofs.Numeral.Grammar
import BrickFormula.Proofs.Text.TerminalCode
import Mathlib.Data.List.DropRight

/-!
# Numerals read back

A number is read back from its numeral and from the text on display, which may have lost a final
`.0`.  For its own numeral this is the zero behind the point of whole numbers; a text that is some
numeral may lose more, but what is left is then no numeral of another number.

    parse?_toString             the digits of a whole number
    parse?_display              the text of a number on display reads back
    only_of_parseDecimal?       only digits can stand before a final `.0`
    parse?_stripTrailingZero    no numeral is shown as another number
    strip_evaluateLines         the lines that the command line puts out
    shownLine_of_toNumber?      terminal codes are in no numeral
    numerals_read_back          numerals tell numbers apart, also on the command line
-/

namespace BrickFormula

namespace Numeral

open Binary64 Digits

/-! ## On display -/

/-- Digits without a point. -/
theorem parseDecimal?_only (negative : Bool) {digits : List Char} (h : Only digits)
    (hne : digits ≠ []) :
    parseDecimal? negative digits = some (ofDecimal negative (toNat 10 digits) 0) := by
  have hempty : digits.isEmpty = false := List.isEmpty_eq_false_iff.mpr hne
  have hpoint : splitPoint digits = (digits, [], []) := by
    unfold splitPoint
    rw [split_only h]
  unfold parseDecimal?
  simp only [hpoint, hempty, Bool.false_and, Bool.false_eq_true, if_false]
  rw [List.append_nil]
  rfl

/-- The digits of a whole number. -/
theorem parse?_toString {n : Nat} (h : n < 2 ^ 53) : parse? (toString n) = some (whole n h) := by
  have honly : Only (Nat.toDigits 10 n) := only_toDigits n
  have hread := parseChars?_signChars false honly Nat.toDigits_ne_nil []
  rw [List.append_nil, parseDecimal?_only false honly Nat.toDigits_ne_nil, toNat_toDigits,
    ofDecimal_whole h] at hread
  unfold parse?
  rw [Nat.toString_eq_ofList_toDigits, String.toList_ofList, trimChars_eq_self]
  · exact hread
  · exact not_isBlank_only honly

/-- What a spelling is on display reads back. -/
theorem Spelling.parse?_stripTrailingZero (s : Spelling) (negative : Bool) :
    parse? (stripTrailingZero (String.ofList (signChars negative ++ s.chars))) =
      some (s.number negative) := by
  rcases s.stripTrailingZero_chars negative with hsame | ⟨hstrip, hnumber⟩
  · rw [hsame, s.parse?_signed]
  · have hread := parseChars?_signChars negative s.only_whole s.whole_ne_nil []
    rw [List.append_nil, parseDecimal?_only negative s.only_whole s.whole_ne_nil] at hread
    unfold parse?
    rw [hstrip, hnumber, String.toList_ofList, trimChars_eq_self, hread]
    intro c hc
    exact (List.mem_append.mp hc).elim (not_isBlank_signChars negative c)
      (not_isBlank_only s.only_whole c)

theorem parse?_display (x : Binary64) :
    parse? (Value.display (some (.number x))) = some x := by
  cases x with
  | nan => rfl
  | infinity negative => cases negative <;> rfl
  | finite negative units h =>
    obtain ⟨s, hwrite, hnumber⟩ := exists_spelling negative h
    show parse? (stripTrailingZero (write _)) = _
    rw [hwrite, s.parse?_stripTrailingZero, hnumber]

/-! ## Texts on display -/

/-- Cutting after digits leaves a final `.0` where it is. -/
theorem split_append_dotZero (text : List Char) :
    split (text ++ ['.', '0']) = ((split text).1, (split text).2 ++ ['.', '0']) := by
  unfold split
  induction text with
  | nil => rfl
  | cons c text ih =>
    by_cases hc : c.isDigit = true
    · rw [List.cons_append, List.takeWhile_cons_of_pos hc, List.dropWhile_cons_of_pos hc,
        List.takeWhile_cons_of_pos hc, List.dropWhile_cons_of_pos hc]
      simp only [Prod.mk.injEq] at ih ⊢
      exact ⟨by rw [ih.1], ih.2⟩
    · rw [List.cons_append, List.takeWhile_cons_of_neg hc, List.dropWhile_cons_of_neg hc,
        List.takeWhile_cons_of_neg hc, List.dropWhile_cons_of_neg hc]
      rfl

theorem splitSign_append_dotZero (text : List Char) :
    splitSign (text ++ ['.', '0']) = ((splitSign text).1, (splitSign text).2 ++ ['.', '0']) := by
  unfold splitSign
  rcases text with _ | ⟨c, text⟩
  · rfl
  · rw [List.cons_append]
    split <;> split <;> simp_all

/-- What is left behind an exponent still ends so. -/
theorem exponent?_append_dotZero (text : List Char) :
    ∃ e rest, (exponent? (text ++ ['.', '0'])).getD (0, text ++ ['.', '0']) =
      (e, rest ++ ['.', '0']) := by
  rcases text with _ | ⟨c, text⟩
  · exact ⟨0, [], rfl⟩
  · rw [List.cons_append]
    unfold exponent?
    simp only [splitSign_append_dotZero, split_append_dotZero]
    split
    · split
      · exact ⟨0, c :: text, rfl⟩
      · exact ⟨_, _, rfl⟩
    · exact ⟨0, c :: text, rfl⟩

theorem parseDecimal?_eq_none (negative : Bool) {text whole decimals rest : List Char}
    (h : splitPoint text = (whole, decimals, rest ++ ['.', '0'])) :
    parseDecimal? negative text = none := by
  obtain ⟨e, rest', hrest⟩ := exponent?_append_dotZero rest
  unfold parseDecimal?
  simp only [h, hrest]
  split
  · rfl
  · rcases rest' with _ | ⟨c, _ | ⟨d, rest'⟩⟩ <;> rfl

/-- A decimal with a final `.0` has nothing but digits before it. -/
theorem only_of_parseDecimal? {negative : Bool} {text : List Char} {x : Binary64}
    (h : parseDecimal? negative (text ++ ['.', '0']) = some x) :
    Only text ∧ x = ofDecimal negative (toNat 10 text) 0 := by
  have htext : (split text).1 ++ (split text).2 = text := List.takeWhile_append_dropWhile
  have honly : Only (split text).1 := fun c hc =>
    List.all_eq_true.mp List.all_takeWhile c hc
  have hsplit := split_append_dotZero text
  generalize (split text).1 = whole at *
  rcases hrest : (split text).2 with _ | ⟨c, rest⟩
  · rw [hrest, List.append_nil] at htext
    rw [hrest, List.nil_append] at hsplit
    subst htext
    refine ⟨honly, ?_⟩
    have hpoint : splitPoint (whole ++ ['.', '0']) = (whole, ['0'], []) := by
      unfold splitPoint
      rw [hsplit]
      rfl
    unfold parseDecimal? at h
    simp only [hpoint, List.isEmpty_cons, Bool.and_false, Bool.false_eq_true, if_false] at h
    rw [← ofDecimal_append_zero negative honly]
    exact (Option.some.inj h).symm
  · rw [hrest] at hsplit
    have hnone : parseDecimal? negative (text ++ ['.', '0']) = none := by
      by_cases hc : c = '.'
      · subst hc
        have hpoint : splitPoint (text ++ ['.', '0']) =
            (whole, (split rest).1, (split rest).2 ++ ['.', '0']) := by
          unfold splitPoint
          rw [hsplit]
          simp only [List.cons_append, split_append_dotZero]
        exact parseDecimal?_eq_none negative hpoint
      · have hpoint : splitPoint (text ++ ['.', '0']) = (whole, [], (c :: rest) ++ ['.', '0']) := by
          unfold splitPoint
          rw [hsplit]
          simp [hc]
        exact parseDecimal?_eq_none negative hpoint
    rw [hnone] at h
    cases h

theorem trimChars_append_dotZero (start : List Char) :
    trimChars (start ++ ['.', '0']) = start.dropWhile isBlank ++ ['.', '0'] := by
  have hdrop : (start ++ ['.', '0']).dropWhile isBlank = start.dropWhile isBlank ++ ['.', '0'] := by
    rw [List.dropWhile_append]
    split
    · next hempty =>
      rw [List.isEmpty_iff.mp hempty]
      rfl
    · rfl
  unfold trimChars
  rw [hdrop, List.reverse_append]
  show (List.dropWhile isBlank ('0' :: '.' :: (start.dropWhile isBlank).reverse)).reverse = _
  rw [List.dropWhile_cons_of_neg (by decide)]
  simp

/-- A sign is no blank, and neither is a digit. -/
theorem not_isBlank_of_splitSign {text digits : List Char} {negative : Bool}
    (hsign : splitSign text = (negative, digits)) (h : Only digits) :
    ∀ c ∈ text, isBlank c = false := by
  unfold splitSign at hsign
  split at hsign
  all_goals obtain ⟨-, rfl⟩ := Prod.mk.inj hsign
  · exact List.forall_mem_cons.mpr ⟨by decide, not_isBlank_only h⟩
  · exact List.forall_mem_cons.mpr ⟨by decide, not_isBlank_only h⟩
  · exact not_isBlank_only h

/-- What stands before a final `.0` is a numeral of the same number, or no numeral at all. -/
theorem parse?_dotZero {start : List Char} {x y : Binary64}
    (h : parse? (String.ofList (start ++ ['.', '0'])) = some x)
    (hstart : parse? (String.ofList start) = some y) : y = x := by
  unfold parse? at h hstart
  rw [String.toList_ofList] at h hstart
  rw [trimChars_append_dotZero] at h
  have htrim : (∀ c ∈ start.dropWhile isBlank, isBlank c = false) →
      trimChars start = start.dropWhile isBlank := by
    intro hblank
    have hself := trimChars_eq_self hblank
    unfold trimChars at hself ⊢
    rwa [List.dropWhile_idempotent] at hself
  generalize start.dropWhile isBlank = text at *
  rcases hsign : splitSign text with ⟨negative, digits⟩
  have hdecimal : parseDecimal? negative (digits ++ ['.', '0']) = some x := by
    have hword : ∀ word : List Char, '0' ∉ word → digits ++ ['.', '0'] ≠ word := by
      rintro word hzero rfl
      exact hzero (by simp)
    unfold parseChars? at h
    simp only [splitSign_append_dotZero, hsign] at h
    rwa [if_neg (hword _ (by decide)), if_neg (hword _ (by decide))] at h
  obtain ⟨honly, rfl⟩ := only_of_parseDecimal? hdecimal
  rw [htrim (not_isBlank_of_splitSign hsign honly),
    parseChars?_of_splitSign hsign fun c hc => honly c (List.mem_of_mem_head? hc)] at hstart
  by_cases hne : digits = []
  · rw [hne] at hstart
    cases hstart
  · rw [parseDecimal?_only _ honly hne] at hstart
    exact (Option.some.inj hstart).symm

theorem parse?_stripTrailingZero {text : String} {x y : Binary64} (h : parse? text = some x)
    (hshown : parse? (stripTrailingZero text) = some y) : y = x := by
  rw [← String.ofList_toList (s := text)] at h hshown
  rcases stripTrailingZero_cases text.toList with hsame | ⟨start, htext, hstrip⟩
  · rw [hsame, h] at hshown
    exact (Option.some.inj hshown).symm
  · rw [htext] at h
    rw [hstrip] at hshown
    exact parse?_dotZero h hshown

/-- The end of a line is a blank. -/
theorem parse?_append_newline (text : String) : parse? (text ++ "\n") = parse? text := by
  have htrim : trimChars (text.toList ++ ['\n']) = trimChars text.toList := by
    unfold trimChars
    rw [List.dropWhile_append]
    split
    · next hempty =>
      rw [List.isEmpty_iff.mp hempty]
      rfl
    · rw [List.reverse_append]
      rfl
  unfold parse?
  rw [String.toList_append]
  exact congrArg parseChars? htrim

end Numeral

/-! ## Results on the command line -/

namespace CommandLine

/-- The values of so many evaluations, up to a fault. -/
def results (env : Environment) (t : Formula) : (times drawn : Nat) → List Value
  | 0, _ => []
  | times + 1, drawn =>
    match (t.evaluate env).run drawn with
    | (.error _, _) => []
    | (.ok v, drawn) => v :: results env t times drawn

/-- The line of a value on display. -/
def line (v : Value) : String := Value.display (some v) ++ "\n"

/-- The line that is put out for a value: it has lost its terminal codes. -/
def shownLine (v : Value) : String := TerminalCode.strip (Value.display (some v)) ++ "\n"

theorem evaluateLines_eq (env : Environment) (t : Formula) (times drawn : Nat) :
    (evaluateLines env t times drawn).1 =
      String.join ((results env t times drawn).map line) := by
  induction times generalizing drawn with
  | zero => rfl
  | succ times ih =>
    unfold evaluateLines results
    generalize (t.evaluate env).run drawn = outcome
    obtain ⟨fault | v, drawn'⟩ := outcome
    · rfl
    · simp only [List.map_cons, String.join_cons, ← ih drawn']
      rfl

/-- Lines lose their codes one by one. -/
theorem strip_lines (vs : List Value) :
    TerminalCode.strip (String.join (vs.map line)) = String.join (vs.map shownLine) := by
  induction vs with
  | nil => rfl
  | cons v vs ih =>
    rw [List.map_cons, List.map_cons, String.join_cons, String.join_cons, ← ih]
    exact TerminalCode.strip_line _ _

theorem strip_evaluateLines (env : Environment) (t : Formula) (times drawn : Nat) :
    TerminalCode.strip (evaluateLines env t times drawn).1 =
      String.join ((results env t times drawn).map shownLine) := by
  rw [evaluateLines_eq, strip_lines]

/-- What is a number, as it is or as a numeral, is put out as it is on display. -/
theorem shownLine_of_toNumber? {v : Value} {x : Binary64} (h : Value.toNumber? (some v) = some x) :
    shownLine v = line v := by
  have hbracket : '[' ∉ (Value.display (some v)).toList := by
    cases v with
    | number z => exact Numeral.bracket_notMem_of_parse? (Numeral.parse?_display z)
    | text s =>
      have htext : '[' ∉ s.toList := Numeral.bracket_notMem_of_parse? h
      show '[' ∉ (Numeral.stripTrailingZero s).toList
      rcases Numeral.stripTrailingZero_spec s with ⟨start, hs, hstart⟩ | ⟨-, hsame⟩
      · rw [hs, String.toList_append] at htext
        rw [hstart]
        exact fun hmem => htext (List.mem_append_left _ hmem)
      · rwa [hsame]
  unfold shownLine line TerminalCode.strip
  rw [TerminalCode.stripChars_of_notMem hbracket, String.ofList_toList]

end CommandLine

namespace Numeral

open Binary64 CommandLine

/-- **Numerals tell numbers apart.**  Every number is read back from its numeral and from its text on
display, so no two numbers have the same one.  The command line puts out a line for each result, without
terminal codes; that of a number is read back as this number, and that of a text which is a numeral is
not read as another number. -/
theorem numerals_read_back :
    (∀ x, parse? (write x) = some x ∧ parse? (Value.display (some (.number x))) = some x) ∧
    Function.Injective write ∧
    Function.Injective (fun x => Value.display (some (.number x))) ∧
    (∀ (env : Environment) (t : Formula) (times drawn : Nat),
      (evaluateLines env t times drawn).1 = String.join ((results env t times drawn).map line) ∧
        TerminalCode.strip (evaluateLines env t times drawn).1 =
          String.join ((results env t times drawn).map shownLine)) ∧
    ∀ v : Value, (∀ x, v = .number x → parse? (shownLine v) = some x) ∧
      ∀ x, Value.toNumber? (some v) = some x →
        shownLine v = line v ∧ ∀ y, parse? (shownLine v) = some y → y = x := by
  refine ⟨fun x => ⟨parse?_write x, parse?_display x⟩, ?_, ?_, ?_, fun v => ?_⟩
  · intro x y h
    have hparse := congrArg parse? h
    rw [parse?_write, parse?_write] at hparse
    exact Option.some.inj hparse
  · intro x y h
    have hparse := congrArg parse? h
    rw [parse?_display, parse?_display] at hparse
    exact Option.some.inj hparse
  · intro env t times drawn
    exact ⟨evaluateLines_eq env t times drawn, strip_evaluateLines env t times drawn⟩
  · have hline : parse? (line v) = parse? (Value.display (some v)) := parse?_append_newline _
    constructor
    · rintro x rfl
      rw [shownLine_of_toNumber? (x := x) rfl, hline]
      exact parse?_display x
    · intro x hx
      have hshown := shownLine_of_toNumber? hx
      refine ⟨hshown, fun y hy => ?_⟩
      rw [hshown, hline] at hy
      cases v with
      | text s => exact parse?_stripTrailingZero hx hy
      | number z =>
        rw [parse?_display] at hy
        exact (Option.some.inj hy).symm.trans (Option.some.inj hx)

/-- `0.1 + 0.2`, which is not `0.3`. -/
def tenths : Formula := .node .operator (some "PLUS") (.leaf .number "0.1") (.leaf .number "0.2")

theorem numerals_read_back_tenths :
    ∃ x, results (.bare {} fun _ => .zero) tenths 2 0 = [.number x, .number x] ∧
      TerminalCode.strip (evaluateLines (.bare {} fun _ => .zero) tenths 2 0).1 =
        "0.30000000000000004\n0.30000000000000004\n" ∧
      shownLine (.number x) = "0.30000000000000004\n" ∧ parse? (shownLine (.number x)) = some x := by
  have hread := numerals_read_back.2.2.2.2 (.number (ofDecimal false 30000000000000004 (-17)))
  exact ⟨ofDecimal false 30000000000000004 (-17), by decide +kernel, by decide +kernel,
    by decide +kernel, hread.1 _ rfl⟩

end Numeral

end BrickFormula
