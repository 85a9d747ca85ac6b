import BrickFormula.CommandLine.Arguments
import BrickFormula.Proofs.Steps
import BrickFormula.Proofs.Text.Digits

/-!
# Requests

The number of repetitions is one or more, and every such number can be asked for by its digits, as long as
they are not too many.

    parse?_toString           the digits of a number are read
    one_le_repetitions        there is one repetition at least
    ofArguments_repetitions   and there can be any number of them
-/

namespace BrickFormula

/-! ## Digits -/

namespace LooseNumber
open Digits

section
variable {c : Char} {digits : List Char}

theorem mem_of_isDigit (h : c.isDigit = true) : c ∈ "0123456789".toList := by
  simp only [Char.isDigit, Bool.and_eq_true, decide_eq_true_eq, UInt32.le_iff_toNat_le] at h
  have hmem : ∀ n < 58, 48 ≤ n → Char.ofNat n ∈ "0123456789".toList := by decide
  have hc := hmem c.toNat (Nat.lt_succ_of_le h.2) h.1
  rwa [Char.ofNat_toNat] at hc

/-- The ten digits are no space, and have their values. -/
theorem read_of_isDigit (h : c.isDigit = true) :
    Letter.isSpace c = false ∧ Letter.digitValue? c = some (value c) := by
  have hall : "0123456789".toList.all (fun c =>
      decide (Letter.isSpace c = false ∧ Letter.digitValue? c = some (value c))) = true := by decide
  exact of_decide_eq_true (List.all_eq_true.mp hall c (mem_of_isDigit h))

theorem ne_underscore_of_isDigit (h : c.isDigit = true) : c ≠ '_' := by
  rintro rfl
  cases h

theorem mapM_digitValue? (h : Only digits) :
    digits.mapM Letter.digitValue? = some (digits.map value) := by
  induction digits with
  | nil => rfl
  | cons c digits ih =>
    rw [List.mapM_cons, (read_of_isDigit (h c List.mem_cons_self)).2,
      ih fun d hd => h d (List.mem_cons_of_mem c hd)]
    rfl

theorem trim_only (h : Only digits) : trim digits = digits := by
  have hreverse : Only digits.reverse := fun c hc => h c (List.mem_reverse.mp hc)
  have hspace : ∀ c : Char, c.isDigit = true → Letter.isSpace c = false := fun _ hc =>
    (read_of_isDigit hc).1
  unfold trim
  rw [dropWhile_only h hspace, dropWhile_only hreverse hspace, List.reverse_reverse]

/-- Digits without space, sign or underscores. -/
theorem parse?_only (h : Only digits) (hne : digits ≠ []) (hfew : digits.length ≤ maxDigits) :
    parse? digits = some (toNat 10 digits) := by
  have hfilter : digits.filter (· ≠ '_') = digits :=
    List.filter_eq_self.mpr fun c hc => decide_eq_true (ne_underscore_of_isDigit (h c hc))
  have hsplit : digits.splitOn '_' = [digits] :=
    List.splitOnP_eq_singleton fun c hc => beq_eq_false_iff_ne.mpr (ne_underscore_of_isDigit (h c hc))
  unfold parse?
  simp only [trim_only h, splitSign_self h hne, hfilter, hsplit, mapM_digitValue? h, Nat.not_lt.mpr hfew]
  have hvalue : (digits.map value).foldl (fun n d => n * 10 + d) 0 = toNat 10 digits :=
    List.foldl_map
  rw [List.any_cons, List.isEmpty_eq_false_iff.mpr hne, hvalue]
  rfl

theorem parse?_toString {n : Nat} (hfew : (toString n).length ≤ maxDigits) :
    parse? (toString n).toList = some n := by
  rw [Nat.toString_eq_ofList_toDigits] at *
  rw [String.length_ofList] at hfew
  rw [String.toList_ofList, parse?_only (only_toDigits n) Nat.toDigits_ne_nil hfew, toNat_toDigits]

end

end LooseNumber

/-! ## Repetitions -/

namespace CommandLine
variable {arguments : List String} {request : Request}

theorem one_le_of_repetitionsOf {text : Option String} {n : Nat} (h : repetitionsOf text = .ok n) :
    1 ≤ n := by
  unfold repetitionsOf at h
  split at h
  · cases h
    exact Nat.le_refl 1
  · split at h
    · cases h
      exact Nat.le_add_left 1 _
    · cases h

/-- There is one repetition at least. -/
theorem one_le_repetitions (h : Request.ofArguments arguments = .ok request) :
    1 ≤ request.repetitions := by
  unfold Request.ofArguments at h
  obtain ⟨program, -, h⟩ := bind_eq_ok_iff.mp h
  split at h
  · cases h
  · split at h
    · cases h
    · obtain ⟨parsed, -, h⟩ := bind_eq_ok_iff.mp h
      obtain ⟨repetitions, hrepetitions, h⟩ := bind_eq_ok_iff.mp h
      split at h
      · cases h
        exact one_le_of_repetitionsOf hrepetitions
      · cases h

/-- Any number of repetitions can be asked for. -/
theorem ofArguments_repetitions {tree : String} (htree : tree.toList.head? ≠ some '-') {n : Nat}
    (hpos : 1 ≤ n) (hfew : (toString n).length ≤ LooseNumber.maxDigits) :
    Request.ofArguments ["eval", tree, "-n", toString n] =
      .ok { command := .eval, tree := tree, repetitions := n } := by
  have hprogram : read programOptions false ["eval", tree, "-n", toString n] =
      .ok { arguments := ["eval", tree, "-n", toString n] } := rfl
  have hcommand : read (commandOptions .eval) true [tree, "-n", toString n] =
      .ok { values := [(.repetitions, toString n)], arguments := [tree] } := by
    unfold read
    rw [List.length_cons, readAll]
    split
    · next heq => simp [heq] at htree
    · next heq => simp [heq] at htree
    · next heq => simp [heq] at htree
    · rfl
  have hrepetitions : repetitionsOf (some (toString n)) = .ok n := by
    unfold repetitionsOf
    dsimp only
    rw [LooseNumber.parse?_toString hfew]
    cases n with
    | zero => cases hpos
    | succ n => rfl
  have hname : Command.ofName? "eval" = some .eval := rfl
  unfold Request.ofArguments
  refine bind_eq_ok_iff.mpr ⟨_, hprogram, ?_⟩
  dsimp only
  rw [hname]
  refine bind_eq_ok_iff.mpr ⟨_, hcommand, ?_⟩
  refine bind_eq_ok_iff.mpr ⟨n, hrepetitions, ?_⟩
  rfl

end CommandLine

end BrickFormula
