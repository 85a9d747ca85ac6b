import BrickFormula.Proofs.Pattern.Spans
import BrickFormula.Proofs.Steps
import Mathlib.Data.List.Infix

/-!
# Literal patterns

A text without the characters that patterns give a meaning to is a pattern for itself: it is read as the
row of its characters, and the search finds it just if it occurs.

    isSpecial c                the character has a meaning in patterns
    sequence_literal           a text without such characters is read character by character
    ofText?_literal            the pattern of such a text
    run_items                  a row of characters matches where they follow
    search_items               and is found just if it occurs
-/

namespace BrickFormula

/-! ## Reading -/

namespace PatternReader

/-- A character that has a meaning in patterns. -/
def isSpecial (c : Char) : Bool :=
  ['.', '^', '$', '*', '+', '?', '\x7b', '\x7d', '[', ']', '\\', '|', '(', ')'].contains c

/-- The text has no character with a meaning in patterns. -/
def Literal (text : List Char) : Prop := ∀ c ∈ text, isSpecial c = false

/-- The items that stand for the characters of a text. -/
def items (text : List Char) : List Pattern := text.map fun c => .char c.toNat

section
variable {c : Char} {text : List Char} {s : Progress}

theorem tokenAhead?_literal (h : isSpecial c = false) : tokenAhead? (c :: text) = some [c] := by
  unfold tokenAhead?
  split
  · next heq => cases heq
  · next heq =>
    cases heq
    cases h
  · next heq =>
    cases heq
    rfl

/-- A literal text does not end in a backslash. -/
theorem checkAhead_literal (h : Literal s.rest) : checkAhead.run s = .ok ((), s) := by
  have hend : s.rest ≠ ['\\'] := by
    intro heq
    exact absurd (h '\\' (heq ▸ List.mem_cons_self)) (by decide)
  unfold checkAhead
  rw [run_bind_get, if_neg hend]
  rfl

theorem peek_literal (h : isSpecial c = false) (hs : s.rest = c :: text) :
    peek.run s = .ok (some [c], s) := by
  unfold peek
  rw [run_bind_get, hs, tokenAhead?_literal h]
  rfl

theorem take_literal (h : Literal s.rest) (hs : s.rest = c :: text) :
    take.run s = .ok (some [c], { s with rest := text, position := s.position + 1 }) := by
  have hc : isSpecial c = false := h c (hs ▸ List.mem_cons_self)
  have hrest : Literal text := fun d hd => h d (hs ▸ List.mem_cons_of_mem c hd)
  have hmove : (modify fun s => { s with rest := s.rest.drop 1, position := s.position + 1 } :
      PatternReader Unit).run s = .ok ((), { s with rest := text, position := s.position + 1 }) := by
    show Except.ok ((), { s with rest := s.rest.drop 1, position := s.position + 1 }) = _
    rw [hs, List.drop_succ_cons, List.drop_zero]
  unfold take
  rw [run_bind_of_ok (peek_literal hc hs)]
  refine (run_bind_of_ok hmove).trans ?_
  rw [run_bind_of_ok (checkAhead_literal hrest)]
  rfl

theorem element_literal (h : isSpecial c = false) (fuel : Nat) (start : Bool) (before : List Pattern) :
    (element (fuel + 1) false start before [c]).run s = .ok ((false, .char c.toNat :: before), s) := by
  unfold element
  dsimp only
  split
  iterate 5 cases h
  have hsign : (decide (c = '?') || decide (c = '*') || decide (c = '+') || decide (c = '\x7b')) =
      false := by
    simp only [Bool.or_eq_false_iff, decide_eq_false_iff_not]
    refine ⟨⟨⟨?_, ?_⟩, ?_⟩, ?_⟩ <;> rintro rfl <;> cases h
  simp only [Bool.false_and, Bool.false_eq_true, if_false, hsign]
  rfl

theorem peek_end (hs : s.rest = []) : peek.run s = .ok (none, s) := by
  unfold peek
  rw [run_bind_get, hs]
  rfl

theorem accept_end (hs : s.rest = []) (c : Char) : (accept c).run s = .ok (false, s) := by
  unfold accept
  rw [run_bind_of_ok (peek_end hs), if_neg nofun]
  rfl

/-- **A literal text is read character by character.** -/
theorem sequence_literal (h : Literal s.rest) {fuel : Nat} (hfuel : s.rest.length < fuel)
    (start : Bool) (before : List Pattern) :
    (sequence fuel false start before).run s = .ok (Pattern.ofList (before.reverse ++ items s.rest),
      { s with rest := [], position := s.position + s.rest.length }) := by
  generalize hs : s.rest = text at *
  obtain ⟨fuel, rfl⟩ := Nat.exists_eq_succ_of_ne_zero (Nat.ne_zero_of_lt hfuel)
  induction text generalizing s fuel before with
  | nil =>
    unfold sequence
    rw [run_bind_of_ok (peek_end hs), show items [] = [] from rfl, List.append_nil]
    cases s
    cases hs
    rfl
  | cons c text ih =>
    have hc : isSpecial c = false := h c List.mem_cons_self
    have hrest : Literal text := fun d hd => h d (List.mem_cons_of_mem c hd)
    have hless : text.length < fuel := Nat.lt_of_succ_lt_succ hfuel
    obtain ⟨fuel, rfl⟩ := Nat.exists_eq_succ_of_ne_zero (Nat.ne_zero_of_lt hless)
    have hmark : ¬ ((some [c] : Option Token).isNone || some [c] = some ['|'] ||
        some [c] = some [')']) = true := by
      simp only [Option.isNone_some, Bool.false_or, Option.some.injEq, List.cons.injEq, and_true,
        Bool.or_eq_true, decide_eq_true_eq]
      rintro (rfl | rfl) <;> cases hc
    unfold sequence
    rw [run_bind_of_ok (peek_literal hc hs), if_neg hmark, run_bind_of_ok (take_literal (hs ▸ h) hs),
      Option.getD_some, run_bind_of_ok (element_literal hc _ _ _)]
    dsimp only
    rw [ih _ rfl hrest fuel hless]
    simp [items, Nat.add_assoc, Nat.add_comm 1]

end

end PatternReader

namespace SearchPattern
open PatternReader

theorem flaw?_ofList_items (text : List Char) :
    (Pattern.ofList (items text)).flaw? false [] = none := by
  induction text with
  | nil => rfl
  | cons c text ih =>
    cases text with
    | nil => rfl
    | cons d text =>
      show (none : Option PatternFlaw).or ((Pattern.ofList (items (d :: text))).flaw? false []) = none
      rw [ih]
      rfl

theorem ofText?_literal {characters : CharacterNames} {text : List Char} (h : Literal text) :
    ofText? characters text = .ok ⟨Pattern.ofList (items text), initialFlags, 0, []⟩ := by
  let s : Progress := { characters, rest := text, flags := initialFlags }
  have hread : (alternatives (8 * text.length + 8) false true).run s =
      .ok (Pattern.ofList (items text), { s with rest := [], position := 0 + text.length }) := by
    unfold alternatives
    rw [run_bind_of_ok (sequence_literal (s := s) h (by show text.length < _; omega) _ _)]
    unfold moreAlternatives
    rw [run_bind_of_ok (accept_end rfl '|')]
    rfl
  have hflags : ¬ (s.flags.ascii && s.flags.unicode) = true := Bool.false_ne_true
  have hflaw : (Pattern.ofList (items text)).flaw? s.flags.template [] = none :=
    flaw?_ofList_items text
  unfold ofText? reader
  rw [run_bind_of_ok (checkAhead_literal (s := s) h), run_bind_of_ok hread, run_bind_get]
  dsimp only
  rw [if_neg hflags, if_neg nofun, run_bind_of_ok (r := checkReferences 0 []) rfl, hflaw]
  rfl

end SearchPattern

/-! ## Matching -/

namespace Pattern
open PatternReader

section
variable (widths : List (Nat × Width)) (text : Array Char) {flags : PatternFlags}

theorem run_ofList_cons (p : Pattern) (ps : List Pattern) (k : Continuation) :
    run widths text flags (ofList (p :: ps)) k =
      run widths text flags p (run widths text flags (ofList ps) k) := by
  cases ps with
  | nil => rfl
  | cons q ps => rfl

/-- Where case counts, a character stands for itself only. -/
theorem contains_readings (hcase : flags.ignoreCase = false) (c d : Char) :
    (readings flags d).contains c.toNat = true ↔ c = d := by
  rw [readings, hcase, if_neg Bool.false_ne_true, List.contains_iff_mem, List.mem_singleton,
    Char.toNat_inj]

/-- **A row of characters matches where they follow.** -/
theorem run_items (hcase : flags.ignoreCase = false) (chars : List Char) (k : Continuation)
    (s : MatchState) :
    run widths text flags (ofList (items chars)) k s =
      if chars <+: text.toList.drop s.position
      then k { s with position := s.position + chars.length } else none := by
  induction chars generalizing s with
  | nil =>
    rw [if_pos List.nil_prefix]
    rfl
  | cons c chars ih =>
    show run widths text flags (ofList (.char c.toNat :: items chars)) k s = _
    rw [run_ofList_cons]
    unfold run takeChar
    rw [← Array.getElem?_toList]
    cases hd : text.toList[s.position]? with
    | none => rw [List.drop_eq_nil_of_le (List.getElem?_eq_none_iff.mp hd), if_neg (by simp)]
    | some d =>
      obtain ⟨hlt, hget⟩ := List.getElem?_eq_some_iff.mp hd
      simp only [List.drop_eq_getElem_cons hlt, hget, ih, List.cons_prefix_cons,
        contains_readings hcase, ite_and, List.length_cons, Nat.add_assoc, Nat.add_comm 1]

theorem searchFrom_eq_none {p : Pattern} {starts : List Nat}
    (h : searchFrom widths text flags p starts = none) :
    ∀ start ∈ starts, run widths text flags p some ⟨start, []⟩ = none := by
  induction starts with
  | nil => exact nofun
  | cons first rest ih =>
    unfold searchFrom at h
    split at h
    · cases h
    · next hfirst =>
      intro start hstart
      rcases List.mem_cons.mp hstart with rfl | hstart
      · exact hfirst
      · exact ih h start hstart

end

end Pattern

namespace SearchPattern
open Pattern PatternReader

/-- **A row of characters is found just if it occurs.** -/
theorem search_items (chars text : List Char) :
    search ⟨Pattern.ofList (items chars), initialFlags, 0, []⟩ text =
      if chars <:+: text then .found chars else .noMatch := by
  have hcase : initialFlags.ignoreCase = false := rfl
  have hrun (start : Nat) := run_items [] text.toArray hcase chars some ⟨start, []⟩
  unfold search
  dsimp only
  cases hsearch : (Pattern.ofList (items chars)).search [] text.toArray initialFlags with
  | none =>
    have hnone := searchFrom_eq_none [] text.toArray hsearch
    have hnot : ¬ chars <:+: text := by
      rw [List.infix_iff_prefix_suffix]
      rintro ⟨rest, hahead, hsuffix⟩
      rw [List.suffix_iff_eq_drop] at hsuffix
      rw [hsuffix] at hahead
      have hmiss := hnone (text.length - rest.length) (List.mem_range.mpr (by
        rw [List.size_toArray]
        omega))
      rw [hrun, if_pos hahead] at hmiss
      cases hmiss
    rw [if_neg hnot]
  | some result =>
    obtain ⟨start, s⟩ := result
    obtain ⟨-, hfound⟩ := searchFrom_eq_some [] text.toArray hsearch
    rw [hrun] at hfound
    obtain ⟨hahead, hs⟩ := Option.ite_none_right_eq_some.mp hfound
    cases hs
    have hoccurs : chars <:+: text := hahead.isInfix.trans (List.drop_suffix start text).isInfix
    rw [if_pos hoccurs]
    show Outcome.found ((text.take (start + chars.length)).drop start) = .found chars
    rw [List.drop_take, Nat.add_sub_cancel_left, ← List.prefix_iff_eq_take.mp hahead]

end SearchPattern

end BrickFormula
