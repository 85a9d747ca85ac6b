import BrickFormula.Proofs.Steps
import BrickFormula.Proofs.Text.Digits
import BrickFormula.Toml.Reader

/-!
# Integers in documents

Digits without a zero in front are an integer: no date or time starts with them, and they have neither a
point nor an exponent.  With more than 4300 of them they are refused.

    moment?_only    digits alone are no date and no time
    scalar_only     they are an integer
    value_only      wherever a value stands
-/

namespace BrickFormula.Toml

namespace Reader
open Digits

section
variable {text : List Char}

theorem isBlank_of_isDigit {c : Char} (h : c.isDigit = true) : isBlank c = false := by
  refine Bool.or_eq_false_iff.mpr ⟨beq_eq_false_iff_ne.mpr ?_, beq_eq_false_iff_ne.mpr ?_⟩
  · rintro rfl
    cases h
  · rintro rfl
    cases h

theorem after?_only {c : Char} (hc : c.isDigit = false) (h : Only text) : after? c text = none := by
  cases text with
  | nil => rfl
  | cons d rest =>
    refine if_neg ?_
    rintro rfl
    rw [h c List.mem_cons_self] at hc
    cases hc

theorem only_of_fixedNumber {size n : Nat} {rest : List Char} (h : Only text)
    (hfixed : fixedNumber size text = some (n, rest)) : Only rest := by
  unfold fixedNumber at hfixed
  dsimp only at hfixed
  split at hfixed
  · cases hfixed
    exact fun d hd => h d (List.mem_of_mem_drop hd)
  · cases hfixed

/-- Dates and times have other characters between their digits. -/
theorem moment?_only (h : Only text) : moment? text = none := by
  have hdate : date? text = none := by
    unfold date?
    cases hyear : fixedNumber 4 text with
    | none => rfl
    | some year =>
      show (after? '-' year.2 >>= _) = none
      rw [after?_only rfl (only_of_fixedNumber h hyear)]
      rfl
  have hclock : hourMinute? text = none := by
    unfold hourMinute?
    cases hhour : fixedNumber 2 text with
    | none => rfl
    | some hour =>
      show (after? ':' hour.2 >>= _) = none
      rw [after?_only rfl (only_of_fixedNumber h hhour)]
      rfl
  unfold moment? time?
  rw [hdate, hclock]
  rfl

theorem groupedDigits_only (h : Only text) : groupedDigits Char.isDigit text = (text, []) := by
  induction text with
  | nil => rfl
  | cons c rest ih =>
    have hc : c.isDigit = true := h c List.mem_cons_self
    rw [groupedDigits.eq_2]
    · rw [if_pos hc, ih fun d hd => h d (List.mem_cons_of_mem c hd)]
    · rintro d more rfl
      cases hc

/-- Digits without a zero in front are an integer. -/
theorem decimal_only (h : Only text) (hne : text ≠ []) (hzero : text.head? ≠ some '0') :
    decimal text = if text.length ≤ maxDigits then .ok (some (.integer (toNat 10 text), []))
      else .error (.integerTooLong text.length) := by
  have hhead : text.head?.any Char.isDigit = true := by
    cases text with
    | nil => exact absurd rfl hne
    | cons c rest => exact h c List.mem_cons_self
  have hwhole : wholePart text = (text, []) := by
    unfold wholePart
    split
    · exact absurd rfl hzero
    · rw [digits, if_pos hhead, groupedDigits_only h]
  unfold decimal
  simp only [splitSign_self h hne, hwhole]
  by_cases hfew : text.length ≤ maxDigits
  · rw [if_pos hfew]
    exact if_neg (Nat.not_lt.mpr hfew)
  · rw [if_neg hfew]
    exact if_pos (Nat.not_le.mp hfew)

theorem scalar_only (h : Only text) (hne : text ≠ []) (hzero : text.head? ≠ some '0') :
    scalar.run text = if text.length ≤ maxDigits then .ok (.integer (toNat 10 text), [])
      else .error (.integerTooLong text.length) := by
  have hbased : (if text.head? = some '0' then basedInteger? text.tail else none) = none := if_neg hzero
  unfold scalar
  rw [run_bind_get, moment?_only h, hbased]
  dsimp only
  rw [decimal_only h hne hzero]
  split
  · rfl
  · rfl

theorem accept_of_ne {c d : Char} {word rest : List Char} (h : c ≠ d) :
    (accept (c :: word)).run (d :: rest) = .ok (false, d :: rest) := by
  unfold accept
  rw [run_bind_get, if_neg (by simp [h])]
  rfl

/-- A value that starts with a digit is a date, a time or a number. -/
theorem value_of_digit {c : Char} (hc : c.isDigit = true) (rest : List Char) (fuel : Nat) :
    (value (fuel + 1)).run (c :: rest) = scalar.run (c :: rest) := by
  have hne (d : Char) (hd : d.isDigit = false) : d ≠ c := by
    rintro rfl
    rw [hc] at hd
    cases hd
  unfold value
  rw [run_bind_get]
  dsimp only [List.head?_cons]
  split
  · next heq => exact absurd (Option.some.inj heq).symm (hne '"' rfl)
  · next heq => exact absurd (Option.some.inj heq).symm (hne '\'' rfl)
  · next heq => exact absurd (Option.some.inj heq).symm (hne '[' rfl)
  · next heq => exact absurd (Option.some.inj heq).symm (hne '\x7b' rfl)
  · show ((accept ['t', 'r', 'u', 'e'] >>= _) : Reader Toml).run (c :: rest) = _
    rw [run_bind_of_ok (accept_of_ne (hne 't' rfl)), if_neg nofun]
    show ((accept ['f', 'a', 'l', 's', 'e'] >>= _) : Reader Toml).run (c :: rest) = _
    rw [run_bind_of_ok (accept_of_ne (hne 'f' rfl)), if_neg nofun]

/-- **Digits are an integer, or refused for their number.** -/
theorem value_only (h : Only text) (hne : text ≠ []) (hzero : text.head? ≠ some '0') (fuel : Nat) :
    (value (fuel + 1)).run text = if text.length ≤ maxDigits then .ok (.integer (toNat 10 text), [])
      else .error (.integerTooLong text.length) := by
  rw [← scalar_only h hne hzero]
  cases text with
  | nil => exact absurd rfl hne
  | cons c rest => exact value_of_digit (h c List.mem_cons_self) rest fuel

end

end Reader

end BrickFormula.Toml
