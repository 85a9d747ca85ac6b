import BrickFormula.Proofs.Evaluation.Operands
import BrickFormula.Proofs.Numeral.Display
import BrickFormula.Proofs.Pattern.Literals

/-!
# Pieces of texts

A function of two text literals searches the second one for the pattern that the first one writes, both
without a final `.0`.  It draws nothing.

    regex_of_ok                what the function makes of the outcome of the search
    eq_append_of_found         what is found is a piece of the text
    regex_literal              a literal pattern finds itself
    searching p s              the search of a text literal for another
    gives_searching            its value is that of the function
    search_extracts            which is a piece of the text
-/

namespace BrickFormula
open Numeral PatternReader

/-! ## Outcomes of a search -/

section
variable {characters : CharacterNames} {pattern text piece : String} {c : SearchPattern}

/-- The value by the outcome of the search. -/
def SearchPattern.Outcome.toDatum : SearchPattern.Outcome → Datum
  | .noMatch => .text ""
  | .noGroup => .absent
  | .found piece => .text (String.ofList piece)

theorem Call.regex_of_ok (h : SearchPattern.ofText? characters pattern.toList = .ok c) :
    Call.regex characters pattern text = .ok ((c.search text.toList).toDatum) := by
  unfold Call.regex
  rw [h]
  dsimp only
  cases c.search text.toList <;> rfl

/-- What is found is a piece of the text. -/
theorem SearchPattern.eq_append_of_found (h : c.search text.toList = .found piece.toList) :
    ∃ before after, text = before ++ piece ++ after := by
  obtain ⟨first, last, hle, -, hpiece⟩ := search_eq_found h
  refine ⟨String.ofList (text.toList.take first), String.ofList (text.toList.drop last), ?_⟩
  rw [← String.toList_inj, String.toList_append, String.toList_append, String.toList_ofList,
    String.toList_ofList, hpiece]
  have hbefore : text.toList.take first = (text.toList.take last).take first := by
    rw [List.take_take, Nat.min_eq_left hle]
  rw [hbefore, List.take_append_drop, List.take_append_drop]

/-- A final `.0` has a point, which has a meaning in patterns. -/
theorem stripTrailingZero_literal (h : Literal pattern.toList) :
    stripTrailingZero pattern = pattern := by
  rcases stripTrailingZero_spec pattern with ⟨start, rfl, -⟩ | ⟨-, hsame⟩
  · rw [String.toList_append] at h
    exact absurd (h '.' (List.mem_append_right _ (by decide))) (by decide)
  · exact hsame

/-- A literal pattern finds itself. -/
theorem Call.regex_literal (h : Literal pattern.toList) : Call.regex characters pattern text =
    .ok (.text (if pattern.toList <:+: text.toList then pattern else "")) := by
  rw [regex_of_ok (SearchPattern.ofText?_literal h), SearchPattern.search_items]
  split
  · show Except.ok (Datum.text (String.ofList pattern.toList)) = _
    rw [String.ofList_toList]
  · rfl

end

/-! ## Searches in text literals -/

namespace Formula
open Evaluation

/-- The search of a text literal for the pattern of another. -/
def searching (pattern text : String) : Formula :=
  .node .function (some "REGEX") (.leaf .string pattern) (.leaf .string text)

section
variable {env : Environment} {pattern text : String}

/-- The value of a text literal. -/
theorem gives_text (n : Nat) : ((leaf .string text).evaluate env).Gives n (.text text) n :=
  gives_leaf (d := .text text) (show Kind.string ≠ .bracket by decide) nofun nofun rfl rfl n

/-- What the search comes to is the value. -/
theorem gives_searching {d : Datum} {w : Value}
    (hcall : Call.regex env.characters (stripTrailingZero pattern) (stripTrailingZero text) = .ok d)
    (hd : d.normalize = .ok w) (n : Nat) : ((searching pattern text).evaluate env).Gives n w n := by
  refine gives_function (f := .regex) (by decide) nofun nofun (gives_text n) (gives_text n) ?_ hd
  show ofExcept (Call.regex env.characters (stripTrailingZero pattern) (stripTrailingZero text)) = _
  rw [hcall]
  rfl

end

/-- **A search gives a piece of the text**, or nothing of it: the empty text where there is no match,
and zero where the first group took no part.  A pattern without special characters finds itself. -/
theorem search_extracts (env : Environment) (pattern text : String) (n : Nat) :
    (∀ c, SearchPattern.ofText? env.characters (stripTrailingZero pattern).toList = .ok c →
      ∃ v, ((searching pattern text).evaluate env).Gives n v n ∧
        (c.search (stripTrailingZero text).toList = .noGroup ∧ v = .number .zero ∨
          c.search (stripTrailingZero text).toList = .noMatch ∧ v = .text "" ∨
          ∃ before piece after, c.search (stripTrailingZero text).toList = .found piece.toList ∧
            v = .text piece ∧ stripTrailingZero text = before ++ piece ++ after)) ∧
    ((∀ c ∈ pattern.toList, isSpecial c = false) →
      ((searching pattern text).evaluate env).Gives n
        (.text (if pattern.toList <:+: (stripTrailingZero text).toList then pattern else "")) n) := by
  constructor
  · intro c hc
    have hcall : Call.regex env.characters (stripTrailingZero pattern) (stripTrailingZero text) = _ :=
      Call.regex_of_ok hc
    cases hsearch : c.search (stripTrailingZero text).toList with
    | noMatch =>
      rw [hsearch] at hcall
      exact ⟨_, gives_searching hcall rfl n, .inr (.inl ⟨rfl, rfl⟩)⟩
    | noGroup =>
      rw [hsearch] at hcall
      exact ⟨_, gives_searching hcall rfl n, .inl ⟨rfl, rfl⟩⟩
    | found piece =>
      rw [hsearch] at hcall
      rw [← String.toList_ofList (l := piece)] at hsearch
      obtain ⟨before, after, heq⟩ := SearchPattern.eq_append_of_found hsearch
      refine ⟨_, gives_searching hcall rfl n, .inr (.inr ⟨before, _, after, ?_, rfl, heq⟩)⟩
      rw [String.toList_ofList]
  · intro h
    refine gives_searching (d := .text _) ?_ rfl n
    rw [stripTrailingZero_literal h]
    exact Call.regex_literal h

/-- The name of one character. -/
def bulletName : CharacterNames := fun name => if name = "BULLET" then some '•' else none

/-- An alternative without the first group gives zero, a word gives itself, and a name finds what it
stands for. -/
theorem search_extracts_alternatives :
    (∃ c, SearchPattern.ofText? bulletName (stripTrailingZero "(a)|b").toList = .ok c) ∧
      ((searching "(a)|b" "xb.0").evaluate (.bare {} (fun _ => .zero) bulletName)).Gives 0
        (.number .zero) 0 ∧
      ((searching "and" "sands").evaluate (.bare {} (fun _ => .zero) bulletName)).Gives 0
        (.text "and") 0 ∧
      ((searching "\\N\x7bBULLET\x7d" "a•b").evaluate (.bare {} (fun _ => .zero) bulletName)).Gives 0
        (.text "•") 0 := by
  have hliteral : "and".toList.all (fun c => !isSpecial c) = true := by decide
  obtain ⟨c, hc, hsearch⟩ :
      ∃ c, SearchPattern.ofText? bulletName (stripTrailingZero "(a)|b").toList = .ok c ∧
        c.search (stripTrailingZero "xb.0").toList = .noGroup := ⟨_, rfl, by decide⟩
  obtain ⟨v, hv, hcases⟩ :=
    (search_extracts (.bare {} (fun _ => .zero) bulletName) "(a)|b" "xb.0" 0).1 c hc
  refine ⟨⟨c, hc⟩, ?_, (search_extracts _ "and" "sands" 0).2 fun d hd =>
    Bool.not_eq_true' _ ▸ List.all_eq_true.mp hliteral d hd, gives_searching rfl rfl 0⟩
  rcases hcases with ⟨-, rfl⟩ | ⟨hnone, -⟩ | ⟨_, _, _, hfound, -⟩
  · exact hv
  · rw [hsearch] at hnone
    cases hnone
  · rw [hsearch] at hfound
    cases hfound

end Formula

end BrickFormula
