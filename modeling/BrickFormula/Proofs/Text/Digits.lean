import BrickFormula.Text.Digits
import Mathlib.Algebra.Group.Nat.Defs

/-!
# Digit strings

What is printed for a natural number is a string of digits, and has this number as its value.

    Only                 digits and nothing else
    split_append         digits are split from what follows them
    toNat_toDigits       printing and reading
    toNat_lt             digits write less than a power of ten
    toNat_append_zeros   zeros behind a string multiply its value by powers of ten
    length_toDigits_mul_pow    and powers of ten have zeros behind
-/

namespace BrickFormula.Digits

/-- There are decimal digits only. -/
def Only (digits : List Char) : Prop := ∀ c ∈ digits, c.isDigit = true

section
variable {digits more : List Char}

theorem Only.append (h : Only digits) (h' : Only more) : Only (digits ++ more) := fun c hc =>
  (List.mem_append.mp hc).elim (h c) (h' c)

theorem only_zeros (k : Nat) : Only (List.replicate k '0') := fun _ hc =>
  List.eq_of_mem_replicate hc ▸ rfl

theorem only_toDigits (n : Nat) : Only (Nat.toDigits 10 n) := fun _ hc =>
  Nat.isDigit_of_mem_toDigits (by decide) (by decide) hc

theorem Only.notMem (h : Only digits) {c : Char} (hc : c.isDigit = false) : c ∉ digits := fun hmem =>
  absurd ((h c hmem).symm.trans hc) nofun

/-- What skips no digit skips nothing. -/
theorem dropWhile_only {test : Char → Bool} (h : Only digits)
    (htest : ∀ c, c.isDigit = true → test c = false) : digits.dropWhile test = digits := by
  cases digits with
  | nil => rfl
  | cons c rest =>
    exact List.dropWhile_cons_of_neg (Bool.eq_false_iff.mp (htest c (h c List.mem_cons_self)))

/-- The digits before what starts with no digit. -/
theorem split_append (h : Only digits) {rest : List Char}
    (hrest : ∀ c ∈ rest.head?, c.isDigit = false) : split (digits ++ rest) = (digits, rest) := by
  unfold split
  rw [List.takeWhile_append_of_pos h, List.dropWhile_append_of_pos h]
  cases rest with
  | nil => rw [List.takeWhile_nil, List.dropWhile_nil, List.append_nil]
  | cons c rest =>
    have hc : ¬ c.isDigit = true := Bool.eq_false_iff.mp (hrest c rfl)
    rw [List.takeWhile_cons_of_neg hc, List.dropWhile_cons_of_neg hc, List.append_nil]

theorem split_only (h : Only digits) : split digits = (digits, []) := by
  have hsplit : split (digits ++ []) = (digits, []) := split_append h nofun
  rwa [List.append_nil] at hsplit

/-- The value of a digit string is the one that printing it inverts. -/
theorem toNat_eq_ofDigitChars (h : Only digits) : toNat 10 digits = Nat.ofDigitChars 10 digits 0 := by
  unfold toNat Nat.ofDigitChars
  generalize 0 = n
  induction digits generalizing n with
  | nil => rfl
  | cons c digits ih =>
    have hc : c.isDigit = true := h c List.mem_cons_self
    have hvalue : value c = c.toNat - '0'.toNat := by
      unfold value
      rw [if_pos hc]
    rw [List.foldl_cons, List.foldl_cons, ih fun c hc => h c (List.mem_cons_of_mem _ hc), hvalue,
      Nat.mul_comm]

theorem toNat_toDigits (n : Nat) : toNat 10 (Nat.toDigits 10 n) = n := by
  rw [toNat_eq_ofDigitChars (only_toDigits n), Nat.ofDigitChars_ten_toDigits]

theorem value_lt {c : Char} (h : c.isDigit = true) : value c < 10 := by
  unfold value
  rw [if_pos h]
  simp only [Char.isDigit, Bool.and_eq_true, decide_eq_true_eq, UInt32.le_iff_toNat_le] at h
  show c.toNat - 48 < 10
  have hle : c.toNat ≤ 57 := h.2
  omega

/-- Digits write less than the power of ten with as many zeros. -/
theorem toNat_lt (h : Only digits) : toNat 10 digits < 10 ^ digits.length := by
  suffices hfold : ∀ n k, n < 10 ^ k →
      digits.foldl (fun n c => n * 10 + value c) n < 10 ^ (digits.length + k) from hfold 0 0 Nat.one_pos
  induction digits with
  | nil =>
    intro n k hn
    rwa [List.length_nil, Nat.zero_add]
  | cons c digits ih =>
    intro n k hn
    have hvalue := value_lt (h c List.mem_cons_self)
    have hnext : n * 10 + value c < 10 ^ (k + 1) := by
      rw [Nat.pow_succ]
      omega
    have hrest := ih (fun x hx => h x (List.mem_cons_of_mem c hx)) _ _ hnext
    rwa [List.foldl_cons, List.length_cons, Nat.add_assoc, Nat.add_comm 1 k]

/-- Zeros behind the digits. -/
theorem toNat_append_zeros (h : Only digits) (k : Nat) :
    toNat 10 (digits ++ List.replicate k '0') = toNat 10 digits * 10 ^ k := by
  rw [toNat_eq_ofDigitChars (h.append (only_zeros k)), toNat_eq_ofDigitChars h,
    Nat.ofDigitChars_append, Nat.ofDigitChars_replicate_zero, Nat.mul_comm]

/-- Zeros in front of the digits. -/
theorem toNat_zeros_append (h : Only digits) (k : Nat) :
    toNat 10 (List.replicate k '0' ++ digits) = toNat 10 digits := by
  rw [toNat_eq_ofDigitChars ((only_zeros k).append h), toNat_eq_ofDigitChars h,
    Nat.ofDigitChars_append, Nat.ofDigitChars_replicate_zero, Nat.mul_zero]

/-- A zero behind the digits of a number multiplies it by ten. -/
theorem length_toDigits_mul_pow {n : Nat} (h : 0 < n) (k : Nat) :
    (Nat.toDigits 10 (n * 10 ^ k)).length = (Nat.toDigits 10 n).length + k := by
  induction k with
  | zero => rw [Nat.pow_zero, Nat.mul_one, Nat.add_zero]
  | succ k ih =>
    have happend := Nat.toDigits_append_toDigits (b := 10) (n := n * 10 ^ k) (d := 0) (by decide)
      (Nat.mul_pos h (Nat.pow_pos (by decide))) (by decide)
    have hnext : n * 10 ^ (k + 1) = 10 * (n * 10 ^ k) + 0 := by
      rw [Nat.pow_succ, Nat.add_zero, ← Nat.mul_assoc, Nat.mul_comm]
    rw [hnext, ← happend, List.length_append, ih]
    rfl

/-- A text that starts with a digit has no sign. -/
theorem splitSign_only (h : Only digits) (hne : digits ≠ []) (rest : List Char) :
    splitSign (digits ++ rest) = (false, digits ++ rest) := by
  cases digits with
  | nil => exact absurd rfl hne
  | cons c digits =>
    have hc : c.isDigit = true := h c List.mem_cons_self
    rw [List.cons_append]
    unfold splitSign
    split
    · next hminus =>
      rw [(List.cons.inj hminus).1] at hc
      cases hc
    · next hplus =>
      rw [(List.cons.inj hplus).1] at hc
      cases hc
    · rfl

theorem splitSign_self (h : Only digits) (hne : digits ≠ []) : splitSign digits = (false, digits) := by
  have happend := splitSign_only h hne []
  rwa [List.append_nil] at happend

end

end BrickFormula.Digits
