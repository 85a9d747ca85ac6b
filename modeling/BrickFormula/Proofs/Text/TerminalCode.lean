import BrickFormula.Text.TerminalCode
import Mathlib.Logic.Basic

/-!
# Texts without terminal codes

Left out are just the codes, from left to right: what starts no code stays.  No code holds the end of a
line, so lines lose their codes one by one.

    IsCode                  an escape character, a bracket, parameters and a letter
    Stripped                a text and what is left of it
    stripped                the text without its codes is what is left
    stripChars_of_notMem    without brackets all is left
    strip_line              lines lose their codes one by one
-/

namespace BrickFormula.TerminalCode

/-- An escape character and a bracket, with parameters and a letter behind them. -/
def IsCode (code : List Char) : Prop :=
  ∃ parameters letter, (∀ c ∈ parameters, isParameter c = true) ∧ letter.isAlpha = true ∧
    code = '\x1b' :: '[' :: (parameters ++ [letter])

/-- What is left of a text without its codes. -/
inductive Stripped : List Char → List Char → Prop
  | nil : Stripped [] []
  | code {code rest left : List Char} : IsCode code → Stripped rest left → Stripped (code ++ rest) left
  | char {c : Char} {rest left : List Char} : (∀ code, IsCode code → ¬ code <+: c :: rest) →
      Stripped rest left → Stripped (c :: rest) (c :: left)

/-! ## The code ahead -/

section
variable {code text rest : List Char}

theorem not_isParameter_of_isAlpha {c : Char} (h : c.isAlpha = true) : ¬ isParameter c = true := by
  simp only [isParameter, Bool.or_eq_true, beq_iff_eq]
  rintro ((hdigit | rfl) | rfl)
  · have hleast : 65 ≤ c.val := by
      rcases Bool.or_eq_true_iff.mp h with hupper | hlower
      · exact (of_decide_eq_true hupper).1
      · exact UInt32.le_trans (by decide) (of_decide_eq_true (Bool.and_eq_true_iff.mp hlower).1)
    have hmost : c.val ≤ 57 := of_decide_eq_true (Bool.and_eq_true_iff.mp hdigit).2
    exact absurd (UInt32.le_trans hleast hmost) (by decide)
  · exact absurd h (by decide)
  · exact absurd h (by decide)

theorem IsCode.newline_notMem (h : IsCode code) : '\n' ∉ code := by
  obtain ⟨parameters, letter, hparameters, hletter, rfl⟩ := h
  simp only [List.mem_cons, List.mem_append, List.not_mem_nil, or_false]
  rintro (h | h | h | rfl)
  · cases h
  · cases h
  · exact absurd (hparameters _ h) (by decide)
  · exact absurd hletter (by decide)

theorem IsCode.length_ne_zero (h : IsCode code) : code.length ≠ 0 := by
  obtain ⟨_, _, -, -, rfl⟩ := h
  exact Nat.succ_ne_zero _

/-- The length of a code. -/
theorem lengthAhead_code (h : IsCode code) (rest : List Char) :
    lengthAhead (code ++ rest) = code.length := by
  obtain ⟨parameters, letter, hparameters, hletter, rfl⟩ := h
  have hstop : ¬ isParameter letter = true := not_isParameter_of_isAlpha hletter
  simp only [List.cons_append, List.append_assoc, List.nil_append, lengthAhead,
    List.dropWhile_append_of_pos hparameters, List.takeWhile_append_of_pos hparameters,
    List.dropWhile_cons_of_neg hstop, List.takeWhile_cons_of_neg hstop, hletter, if_true,
    List.append_nil, List.length_cons, List.length_append, List.length_nil, Nat.add_assoc]

/-- Where there is a length, there is a code. -/
theorem exists_code (h : lengthAhead text ≠ 0) :
    ∃ code rest, IsCode code ∧ lengthAhead text = code.length ∧ text = code ++ rest := by
  suffices hcode : ∃ code rest, IsCode code ∧ text = code ++ rest by
    obtain ⟨code, rest, hcode, rfl⟩ := hcode
    exact ⟨code, rest, hcode, lengthAhead_code hcode rest, rfl⟩
  unfold lengthAhead at h
  split at h
  · next rest =>
    split at h
    · next letter after hafter =>
      have hletter : letter.isAlpha = true := (ite_ne_right_iff.mp h).1
      refine ⟨'\x1b' :: '[' :: (rest.takeWhile isParameter ++ [letter]), after,
        ⟨_, letter, fun c hc => List.all_eq_true.mp List.all_takeWhile c hc, hletter, rfl⟩, ?_⟩
      rw [List.cons_append, List.cons_append, List.append_assoc, List.singleton_append, ← hafter,
        List.takeWhile_append_dropWhile]
    · exact absurd rfl h
  · exact absurd rfl h

/-- A code ends with its line. -/
theorem lengthAhead_line (a b : List Char) : lengthAhead (a ++ '\n' :: b) = lengthAhead a := by
  by_cases hzero : lengthAhead a = 0
  · rw [hzero]
    refine Decidable.byContradiction fun hlonger => ?_
    obtain ⟨code, rest, hcode, -, heq⟩ := exists_code hlonger
    obtain ⟨more, rfl⟩ : ∃ more, a = code ++ more := by
      rcases List.append_eq_append_iff.mp heq with ⟨more, rfl, hmore⟩ | ⟨more, rfl, -⟩
      · cases more with
        | nil => exact ⟨[], by rw [List.append_nil, List.append_nil]⟩
        | cons c more =>
          cases hmore
          exact absurd (List.mem_append_right a List.mem_cons_self) hcode.newline_notMem
      · exact ⟨more, rfl⟩
    rw [lengthAhead_code hcode] at hzero
    exact hcode.length_ne_zero hzero
  · obtain ⟨code, rest, hcode, -, rfl⟩ := exists_code hzero
    rw [List.append_assoc, lengthAhead_code hcode, lengthAhead_code hcode]

end

/-! ## What is left -/

theorem stripChars_drop (n : Nat) (text : List Char) : stripChars n text = stripChars 0 (text.drop n) := by
  induction n generalizing text with
  | zero => rfl
  | succ n ih =>
    cases text with
    | nil => rfl
    | cons c rest => exact ih rest

/-- **Left out are just the codes.** -/
theorem stripped (text : List Char) : Stripped text (stripChars 0 text) := by
  induction hlength : text.length using Nat.strongRecOn generalizing text with
  | ind length ih =>
  subst hlength
  cases text with
  | nil => exact .nil
  | cons c rest =>
    cases hahead : lengthAhead (c :: rest) with
    | zero =>
      have hkeep : stripChars 0 (c :: rest) = c :: stripChars 0 rest := by
        rw [stripChars, hahead]
      rw [hkeep]
      refine .char ?_ (ih _ (Nat.lt_succ_self _) rest rfl)
      rintro code hcode ⟨more, heq⟩
      rw [← heq, lengthAhead_code hcode] at hahead
      exact hcode.length_ne_zero hahead
    | succ n =>
      obtain ⟨code, more, hcode, hn, heq⟩ := exists_code (by rw [hahead]; exact Nat.succ_ne_zero n)
      rw [hahead] at hn
      have hdrop : stripChars 0 (c :: rest) = stripChars 0 more := by
        rw [stripChars, hahead]
        show stripChars n rest = _
        rw [stripChars_drop, ← List.drop_succ_cons (a := c), heq, hn, List.drop_left]
      rw [hdrop, heq]
      refine .code hcode (ih _ ?_ more rfl)
      rw [heq, List.length_append]
      have := hcode.length_ne_zero
      omega

theorem stripChars_line (n : Nat) (a b : List Char) (h : n ≤ a.length) :
    stripChars n (a ++ '\n' :: b) = stripChars n a ++ '\n' :: stripChars 0 b := by
  induction a generalizing n with
  | nil =>
    cases Nat.le_zero.mp h
    rfl
  | cons c a ih =>
    cases n with
    | succ n => exact ih n (Nat.le_of_succ_le_succ h)
    | zero =>
      rw [List.cons_append, stripChars, stripChars, ← List.cons_append, lengthAhead_line]
      cases hahead : lengthAhead (c :: a) with
      | zero => exact congrArg (c :: ·) (ih 0 (Nat.zero_le _))
      | succ n =>
        refine ih n ?_
        obtain ⟨code, rest, -, hn, heq⟩ := exists_code (by rw [hahead]; exact Nat.succ_ne_zero n)
        have hlength := congrArg List.length heq
        rw [List.length_cons, List.length_append] at hlength
        omega

/-- Without brackets all is left. -/
theorem stripChars_of_notMem {text : List Char} (h : '[' ∉ text) : stripChars 0 text = text := by
  induction text with
  | nil => rfl
  | cons c rest ih =>
    have hahead : lengthAhead (c :: rest) = 0 := by
      refine Decidable.byContradiction fun hlonger => ?_
      obtain ⟨_, more, ⟨_, _, -, -, rfl⟩, -, heq⟩ := exists_code hlonger
      cases heq
      exact h (List.mem_cons_of_mem _ List.mem_cons_self)
    rw [stripChars, hahead]
    exact congrArg (c :: ·) (ih fun hmem => h (List.mem_cons_of_mem c hmem))

/-- Lines lose their codes one by one. -/
theorem strip_line (a b : String) : strip (a ++ "\n" ++ b) = strip a ++ "\n" ++ strip b := by
  have hline : stripChars 0 (a.toList ++ '\n' :: b.toList) = _ := stripChars_line 0 _ _ (Nat.zero_le _)
  unfold strip
  rw [← String.toList_inj]
  simp only [String.toList_append, String.toList_ofList]
  rw [List.append_assoc, List.append_assoc]
  exact hline

end BrickFormula.TerminalCode
