import BrickFormula.Numeral
import BrickFormula.Proofs.Binary64.Decimals
import BrickFormula.Proofs.Text.Digits
import Mathlib.Data.List.Basic

/-!
# Spellings of numbers

The numeral of a number rearranges the digits of its shortest decimal around a point, with zeros
between them or an exponent behind them.  The value stays the same, and a decimal reads as the number
nearest to its value, so the numeral reads back as the number it was written for.

    Spelling            digits around a point, with an exponent or without one
    spells_magnitude    what is written for a decimal spells its number
    parse?_signed       spelled numbers read back
    parse?_write        so every numeral does
-/

namespace BrickFormula

namespace Numeral

open Binary64 Digits

/-! ## Spellings -/

/-- Digits around a point, with an exponent behind them or without one. -/
structure Spelling where
  whole : List Char
  decimals : List Char
  exponent : Option Int
  whole_ne_nil : whole ≠ []
  only_whole : Only whole
  only_decimals : Only decimals

namespace Spelling
variable (s : Spelling)

/-- What follows the decimals. -/
def tail : List Char := s.exponent.elim [] fun e => 'E' :: native.exponentText e

def chars : List Char := s.whole ++ '.' :: (s.decimals ++ s.tail)

/-- The number that is spelled. -/
def number (negative : Bool) : Binary64 :=
  ofDecimal negative (toNat 10 (s.whole ++ s.decimals)) (s.exponent.getD 0 - s.decimals.length)

theorem exponentText_eq (e : Int) :
    native.exponentText e = (if e < 0 then ['-'] else []) ++ Nat.toDigits 10 e.natAbs := by
  unfold NumberFormat.exponentText decimalDigits
  simp only [native, Bool.false_eq_true, if_false]
  split <;> rfl

theorem exponent?_exponentText (e : Int) :
    exponent? ('E' :: native.exponentText e) = some (e, []) := by
  have hsplit : split (Nat.toDigits 10 e.natAbs) = (Nat.toDigits 10 e.natAbs, []) :=
    split_only (only_toDigits _)
  have hempty : (Nat.toDigits 10 e.natAbs).isEmpty = false := by
    rw [List.isEmpty_eq_false_iff]
    exact Nat.toDigits_ne_nil
  have hsign : splitSign (native.exponentText e) =
      (decide (e < 0), Nat.toDigits 10 e.natAbs) := by
    rw [exponentText_eq]
    by_cases he : e < 0
    · rw [if_pos he, decide_eq_true he]
      rfl
    · have hnone := splitSign_only (only_toDigits e.natAbs) Nat.toDigits_ne_nil []
      rw [List.append_nil] at hnone
      rw [if_neg he, decide_eq_false he, List.nil_append, hnone]
  have hvalue : signedValue (decide (e < 0)) (Nat.toDigits 10 e.natAbs) = e := by
    unfold signedValue
    rw [toNat_toDigits]
    simp only [decide_eq_true_eq]
    split <;> omega
  unfold exponent?
  simp only [or_true, if_true, hsign, hsplit, hempty, Bool.false_eq_true, if_false, hvalue]

theorem tail_head : ∀ c ∈ s.tail.head?, c.isDigit = false := by
  unfold tail
  cases s.exponent with
  | none => exact nofun
  | some e =>
    intro c hc
    cases hc
    rfl

theorem exponent?_tail : (exponent? s.tail).getD (0, s.tail) = (s.exponent.getD 0, []) := by
  unfold tail
  cases s.exponent with
  | none => rfl
  | some e =>
    show (exponent? ('E' :: native.exponentText e)).getD _ = _
    rw [exponent?_exponentText]
    rfl

theorem splitPoint_chars : splitPoint s.chars = (s.whole, s.decimals, s.tail) := by
  have hpoint : ∀ c ∈ ('.' :: (s.decimals ++ s.tail)).head?, c.isDigit = false := by
    intro c hc
    cases hc
    rfl
  unfold splitPoint chars
  rw [split_append s.only_whole hpoint]
  simp only [split_append s.only_decimals s.tail_head]

theorem parseDecimal?_chars (negative : Bool) :
    parseDecimal? negative s.chars = some (s.number negative) := by
  have hempty : s.whole.isEmpty = false := List.isEmpty_eq_false_iff.mpr s.whole_ne_nil
  unfold parseDecimal?
  simp only [s.splitPoint_chars, s.exponent?_tail, hempty, Bool.false_and, Bool.false_eq_true,
    if_false, if_true]
  rfl

end Spelling

/-! ## What is written -/

/-- The text spells the number of the decimal. -/
def Spells (d : Decimal) (text : List Char) : Prop :=
  ∃ s : Spelling, s.chars = text ∧ ∀ negative, s.number negative = d.number negative

section
variable {digits : List Char} (h : Only digits) (hne : digits ≠ [])
include h

/-- Numbers below one: zeros stand between the point and the digits. -/
theorem spells_small (k : Nat) :
    Spells ⟨toNat 10 digits, -((k : Int) + digits.length)⟩
      ('0' :: '.' :: (List.replicate k '0' ++ digits)) := by
  refine ⟨⟨['0'], List.replicate k '0' ++ digits, none, nofun, only_zeros 1,
    (only_zeros k).append h⟩, ?_, fun negative => ?_⟩
  · simp [Spelling.chars, Spelling.tail]
  · have hvalue : toNat 10 (['0'] ++ (List.replicate k '0' ++ digits)) = toNat 10 digits :=
      toNat_zeros_append h (k + 1)
    have hlength : (0 : Int) - (List.replicate k '0' ++ digits).length = -(k + digits.length) := by
      rw [List.length_append, List.length_replicate]
      omega
    unfold Spelling.number Decimal.number
    simp only [hvalue, Option.getD_none, hlength]

include hne

/-- Whole numbers: zeros stand between the digits and the point. -/
theorem spells_whole (k : Nat) :
    Spells ⟨toNat 10 digits, k⟩ (digits ++ List.replicate k '0' ++ ['.', '0']) := by
  refine ⟨⟨digits ++ List.replicate k '0', ['0'], none, fun e => hne (List.append_eq_nil_iff.mp e).1,
    h.append (only_zeros k), only_zeros 1⟩, ?_, fun negative => ?_⟩
  · simp [Spelling.chars, Spelling.tail]
  · have hzeros : digits ++ List.replicate k '0' ++ ['0'] =
        digits ++ List.replicate (k + 1) '0' := by
      rw [List.append_assoc, List.replicate_succ']
    have hexponent : (0 : Int) - (['0'].length : Nat) + (k + 1 : Nat) = k := by
      rw [List.length_singleton]
      omega
    unfold Spelling.number Decimal.number
    simp only [hzeros, Option.getD_none, toNat_append_zeros h, ofDecimal_mul_pow, hexponent]

omit hne in
/-- The point stands between the digits. -/
theorem spells_split {w : Nat} (hw : 0 < w) (hlt : w < digits.length) :
    Spells ⟨toNat 10 digits, -((digits.length - w : Nat) : Int)⟩
      (digits.take w ++ '.' :: digits.drop w) := by
  have hwhole : digits.take w ≠ [] := by
    intro e
    have hlength := congrArg List.length e
    rw [List.length_take, List.length_nil] at hlength
    omega
  refine ⟨⟨digits.take w, digits.drop w, none, hwhole, fun c hc => h c (List.mem_of_mem_take hc),
    fun c hc => h c (List.mem_of_mem_drop hc)⟩, ?_, fun negative => ?_⟩
  · simp [Spelling.chars, Spelling.tail]
  · have hexponent : (0 : Int) - (digits.drop w).length = -((digits.length - w : Nat) : Int) := by
      rw [List.length_drop]
      omega
    unfold Spelling.number Decimal.number
    simp only [List.take_append_drop, Option.getD_none, hexponent]

/-- One digit stands before the point, and an exponent behind. -/
theorem spells_scientific (e : Int) :
    Spells ⟨toNat 10 digits, e - digits.length + 1⟩ (native.scientific digits e) := by
  cases digits with
  | nil => exact absurd rfl hne
  | cons c rest =>
    have hc : Only [c] := fun x hx => h x (List.mem_singleton.mp hx ▸ List.mem_cons_self)
    have hrest : Only rest := fun x hx => h x (List.mem_cons_of_mem c hx)
    cases rest with
    | nil =>
      refine ⟨⟨[c], ['0'], some e, nofun, hc, only_zeros 1⟩, ?_, fun negative => ?_⟩
      · simp [Spelling.chars, Spelling.tail, NumberFormat.scientific, native]
      · have hvalue : toNat 10 ([c] ++ ['0']) = toNat 10 [c] * 10 ^ 1 := toNat_append_zeros hc 1
        unfold Spelling.number Decimal.number
        simp only [hvalue, Option.getD_some, ofDecimal_mul_pow]
        congr 1
    | cons second rest =>
      refine ⟨⟨[c], second :: rest, some e, nofun, hc, hrest⟩, ?_, fun negative => ?_⟩
      · simp [Spelling.chars, Spelling.tail, NumberFormat.scientific, native]
      · have hexponent : e - (second :: rest).length = e - (c :: second :: rest).length + 1 := by
          rw [List.length_cons (a := c)]
          omega
        unfold Spelling.number Decimal.number
        simp only [List.singleton_append, Option.getD_some, hexponent]

end

/-- **Digits and exponent are rearranged without a change of value.** -/
theorem spells_magnitude (d : Decimal) : Spells d (native.magnitude d) := by
  have h := only_toDigits d.coefficient
  have hne : Nat.toDigits 10 d.coefficient ≠ [] := Nat.toDigits_ne_nil
  have hlength : 0 < (Nat.toDigits 10 d.coefficient).length := Nat.length_toDigits_pos
  have hvalue := toNat_toDigits d.coefficient
  unfold NumberFormat.magnitude decimalDigits
  simp only
  generalize Nat.toDigits 10 d.coefficient = digits at *
  obtain ⟨coefficient, exponent⟩ := d
  subst hvalue
  simp only
  split
  · unfold positional
    simp only
    split
    · next hsmall =>
      have hspells := spells_small h (-(exponent + digits.length - 1) - 1).toNat
      have hexponent : -(((-(exponent + digits.length - 1) - 1).toNat : Int) + digits.length) =
          exponent := by omega
      rwa [hexponent] at hspells
    · split
      · next hwhole =>
        have hspells := spells_whole h hne
          ((exponent + digits.length - 1).toNat + 1 - digits.length)
        have hexponent : (((exponent + digits.length - 1).toNat + 1 - digits.length : Nat) : Int) =
            exponent := by omega
        rwa [hexponent] at hspells
      · next hsplit =>
        have hspells := spells_split h (w := (exponent + digits.length - 1).toNat + 1)
          (Nat.succ_pos _) (by omega)
        have hexponent : -((digits.length - ((exponent + digits.length - 1).toNat + 1) : Nat) : Int) =
            exponent := by omega
        rwa [hexponent] at hspells
  · have hspells := spells_scientific h hne (exponent + digits.length - 1)
    have hexponent : exponent + digits.length - 1 - digits.length + 1 = exponent := by omega
    rwa [hexponent] at hspells

/-! ## Reading -/

/-- A minus, or nothing. -/
def signChars (negative : Bool) : List Char := if negative then ['-'] else []

theorem trimChars_eq_self {text : List Char} (h : ∀ c ∈ text, isBlank c = false) :
    trimChars text = text := by
  have hdrop : ∀ l : List Char, (∀ c ∈ l, isBlank c = false) → l.dropWhile isBlank = l := by
    intro l hl
    cases l with
    | nil => rfl
    | cons c rest =>
      exact List.dropWhile_cons_of_neg (Bool.eq_false_iff.mp (hl c List.mem_cons_self))
  unfold trimChars
  rw [hdrop text h, hdrop _ fun c hc => h c (List.mem_reverse.mp hc), List.reverse_reverse]

theorem isBlank_of_isDigit {c : Char} (h : c.isDigit = true) : isBlank c = false := by
  simp only [Char.isDigit, Bool.and_eq_true, decide_eq_true_eq, ge_iff_le, UInt32.le_iff_toNat_le] at h
  unfold isBlank
  exact decide_eq_false (Nat.not_le.mpr (Nat.lt_of_lt_of_le (by decide) h.1))

theorem not_isBlank_signChars (negative : Bool) : ∀ c ∈ signChars negative, isBlank c = false := by
  cases negative
  · exact nofun
  · exact List.forall_mem_singleton.mpr (by decide)

theorem not_isBlank_only {digits : List Char} (h : Only digits) : ∀ c ∈ digits, isBlank c = false :=
  fun c hc => isBlank_of_isDigit (h c hc)

/-- What starts with a digit behind its sign is no word. -/
theorem parseChars?_of_splitSign {text rest : List Char} {negative : Bool}
    (hsign : splitSign text = (negative, rest)) (hhead : ∀ c ∈ rest.head?, c.isDigit = true) :
    parseChars? text = parseDecimal? negative rest := by
  have hword : ∀ c word, c.isDigit = false → rest ≠ c :: word := by
    rintro c word hc rfl
    rw [hhead c rfl] at hc
    cases hc
  have hnan : rest ≠ "NaN".toList := hword 'N' ['a', 'N'] rfl
  have hinfinity : rest ≠ "Infinity".toList := hword 'I' ['n', 'f', 'i', 'n', 'i', 't', 'y'] rfl
  unfold parseChars?
  simp only [hsign, if_neg hnan, if_neg hinfinity]

/-- A text of digits behind a sign. -/
theorem parseChars?_signChars (negative : Bool) {digits : List Char} (h : Only digits)
    (hne : digits ≠ []) (rest : List Char) :
    parseChars? (signChars negative ++ (digits ++ rest)) =
      parseDecimal? negative (digits ++ rest) := by
  apply parseChars?_of_splitSign
  · cases negative with
    | true => rfl
    | false => exact splitSign_only h hne rest
  · intro c hc
    cases digits with
    | nil => exact absurd rfl hne
    | cons d digits =>
      obtain rfl : d = c := Option.some.inj hc
      exact h d List.mem_cons_self

namespace Spelling
variable (s : Spelling)

/-- Behind the point there are digits, the mark of the exponent and its sign. -/
theorem mem_decimals_tail {c : Char} (hc : c ∈ s.decimals ++ s.tail) :
    c.isDigit = true ∨ c = 'E' ∨ c = '-' := by
  rcases List.mem_append.mp hc with hdecimal | htail
  · exact .inl (s.only_decimals c hdecimal)
  · unfold tail at htail
    cases he : s.exponent with
    | none =>
      rw [he] at htail
      cases htail
    | some e =>
      rw [he] at htail
      rcases List.mem_cons.mp htail with rfl | htext
      · exact .inr (.inl rfl)
      rw [exponentText_eq] at htext
      rcases List.mem_append.mp htext with hsign | hdigit
      · split at hsign
        · exact .inr (.inr (List.mem_singleton.mp hsign))
        · cases hsign
      · exact .inl (only_toDigits _ c hdigit)

theorem not_isBlank_chars : ∀ c ∈ s.chars, isBlank c = false := by
  intro c hc
  rcases List.mem_append.mp hc with hwhole | hrest
  · exact isBlank_of_isDigit (s.only_whole c hwhole)
  rcases List.mem_cons.mp hrest with rfl | hrest
  · decide
  rcases s.mem_decimals_tail hrest with hdigit | rfl | rfl
  · exact isBlank_of_isDigit hdigit
  · decide
  · decide

/-- **Spelled numbers read back.** -/
theorem parse?_signed (negative : Bool) :
    parse? (String.ofList (signChars negative ++ s.chars)) = some (s.number negative) := by
  unfold parse?
  rw [String.toList_ofList, trimChars_eq_self]
  · exact (parseChars?_signChars negative s.only_whole s.whole_ne_nil _).trans
      (s.parseDecimal?_chars negative)
  · intro c hc
    exact (List.mem_append.mp hc).elim (not_isBlank_signChars negative c) (s.not_isBlank_chars c)

end Spelling

/-- A finite number is written as a sign and a spelling. -/
theorem exists_spelling (negative : Bool) {units : Nat} (h : Representable units) :
    ∃ s : Spelling, write (.finite negative units h) = String.ofList (signChars negative ++ s.chars) ∧
      s.number negative = .finite negative units h := by
  have hwrite : write (.finite negative units h) = String.ofList (signChars negative ++
      if units = 0 then ['0', '.', '0']
      else native.magnitude (shortestDecimal negative units h)) := rfl
  rw [hwrite]
  by_cases hzero : units = 0
  · rw [if_pos hzero]
    refine ⟨⟨['0'], ['0'], none, nofun, only_zeros 1, only_zeros 1⟩, rfl, ?_⟩
    subst hzero
    have hvalue : toNat 10 (['0'] ++ ['0']) = 0 := rfl
    unfold Spelling.number ofDecimal
    rw [if_pos hvalue]
    rfl
  · rw [if_neg hzero]
    obtain ⟨s, hchars, hnumber⟩ := spells_magnitude (shortestDecimal negative units h)
    refine ⟨s, by rw [hchars], ?_⟩
    rw [hnumber, number_shortestDecimal]

/-- **Numerals read back.** -/
theorem parse?_write (x : Binary64) : parse? (write x) = some x := by
  cases x with
  | nan => rfl
  | infinity negative => cases negative <;> rfl
  | finite negative units h =>
    obtain ⟨s, hwrite, hnumber⟩ := exists_spelling negative h
    rw [hwrite, s.parse?_signed, hnumber]

end Numeral

end BrickFormula
