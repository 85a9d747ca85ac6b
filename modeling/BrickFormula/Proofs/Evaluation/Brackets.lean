import BrickFormula.Proofs.Evaluation.RandomNumbers
import BrickFormula.Proofs.Workspace.Shape

/-!
# Brackets

A bracket around a part of a formula has the value of the part.  It shows only to functions that look
at an operand itself, and not just at its value: at the name of a list, at what a variable holds, at the
spelling of a literal or at its decimal point.  Where no function looks, a part may be put in brackets
at any depth, and the formula evaluates as before.

    operand_bracketed           a bracket has the value of what is in it
    BuiltIn.looksAt             what a function looks at
    Call.Alike                  two arguments that a function cannot tell apart
    operand_withOperand         an element with another operand
    operand_bracketedAt         a part in brackets, by induction on the path to it
    brackets_keep_value         a formula with a part in brackets
    brackets_show               functions that look
-/

namespace BrickFormula

/-! ## The value of a bracket -/

theorem Datum.clamp_clamp (x : Binary64) : clamp (clamp x) = clamp x := by
  cases x with
  | infinity negative => cases negative <;> decide +kernel
  | _ => rfl

/-- Final values stay what they are. -/
theorem Datum.normalize_normalize {d : Datum} {v : Value} (h : d.normalize = .ok v) :
    (ofValue v).normalize = .ok v := by
  unfold normalize at h
  cases hd : d.toValue? with
  | error fault =>
    rw [hd] at h
    cases h
  | ok o =>
    rw [hd] at h
    rcases o with _ | s | x
    · cases h
      rfl
    · cases h
      rfl
    · cases h
      change Except.ok (Value.number (clamp (clamp x))) = .ok (.number (clamp x))
      rw [clamp_clamp]

namespace Formula
open Evaluation

variable {env : Environment}

/-- A bracket around a formula; its text and its left operand do not matter. -/
def bracketed (s : Formula) (text : Option String) (left : Formula) : Formula :=
  .node .bracket text left s

/-- **A bracket has the value of what is in it.** -/
theorem operand_bracketed (text : Option String) (left : Formula) {s : Formula} (hs : s ≠ .empty) :
    (s.bracketed text left).operand env = s.operand env := by
  obtain ⟨m, hm⟩ := exists_operand_eq env hs
  unfold bracketed
  rw [operand_bracket, hm, bind_assoc]
  refine bind_congr fun datum => ?_
  cases hd : datum.normalize with
  | error fault => rfl
  | ok v =>
    change (do return some (← ofExcept (Datum.ofValue v).normalize)) = _
    rw [Datum.normalize_normalize hd]

/-! ## What functions look at -/

/-- The text of a literal that has one, and the text that a variable holds. -/
def fixedText? (env : Environment) : Formula → Option String
  | .node .number text _ _ | .node .string text _ _ => text
  | .node .userVariable text _ _ =>
    match env.get (text.getD "") with
    | .text s => some s
    | _ => none
  | _ => none

/-- A literal without a text. -/
def isBlankLiteral : Formula → Bool
  | .node .number none _ _ | .node .string none _ _ => true
  | _ => false

theorem get_of_fixedText? {text : Option String} {left right : Formula} {s : String}
    (h : (node .userVariable text left right).fixedText? env = some s) :
    env.get (text.getD "") = .text s := by
  change (match env.get (text.getD "") with | .text s => some s | _ => none) = some s at h
  split at h
  · next hget =>
    cases h
    exact hget
  · cases h

theorem exists_fixedText? {text : Option String} {left right : Formula}
    (h : (node .userVariable text left right).isTextVariable env = true) :
    ∃ s, (node .userVariable text left right).fixedText? env = some s := by
  change (match env.get (text.getD "") with | .text _ => true | _ => false) = true at h
  split at h
  · next s hget =>
    refine ⟨s, ?_⟩
    change (match env.get (text.getD "") with | .text s => some s | _ => none) = some s
    rw [hget]
  · cases h

/-- Its value is this text. -/
theorem operand_of_fixedText? {s : Formula} {text : String} (h : s.fixedText? env = some text) :
    s.operand env = pure (some (.text text)) := by
  cases s with
  | empty => cases h
  | node kind literal left right =>
    have hvalue (hdatum : leafDatum env kind literal = .ok (.text text))
        (hbracket : kind ≠ .bracket) (hop : kind = .operator → operatorOf? literal = none)
        (hf : kind = .function → literal.bind BuiltIn.ofName? = none) :
        (node kind literal left right).operand env = pure (some (.text text)) := by
      rw [operand_leaf env literal left right hbracket hop hf, hdatum]
      rfl
    cases kind with
    | number | string =>
      cases h
      exact hvalue rfl nofun nofun nofun
    | userVariable =>
      refine hvalue ?_ nofun nofun nofun
      unfold leafDatum Environment.readVariable
      rw [get_of_fixedText? h]
    | _ => cases h

/-- What comes after an operand may take for granted that its value is a text that is fixed. -/
theorem bind_operand_congr {β : Type} (s : Formula) {k k' : Option Value → Evaluation β}
    (h : ∀ x, (∀ text, s.fixedText? env = some text → x = some (.text text)) → k x = k' x) :
    s.operand env >>= k = s.operand env >>= k' := by
  cases hs : s.fixedText? env with
  | none =>
    refine bind_congr fun x => h x ?_
    rw [hs]
    exact nofun
  | some text =>
    rw [operand_of_fixedText? hs, pure_bind, pure_bind]
    refine h _ fun text' htext => ?_
    rw [hs] at htext
    cases htext
    rfl

end Formula

/-- The function looks at the operand on a side itself, besides its value: at the name of a list, at a
variable that holds no text, at a literal without a text, which has the value zero, at a number literal
that it shows in another spelling, or at a decimal point. -/
def BuiltIn.looksAt (env : Environment) (f : BuiltIn) (side : Side) (s : Formula) : Bool :=
  match f, side with
  | .length, .left | .numberOfItems, .left =>
    s.kind? = some .userList || (s.kind? = some .userVariable && !s.isTextVariable env) ||
      s.isBlankLiteral
  | .contains, .left | .listItem, .right => s.kind? = some .userList
  | .join, _ | .regex, _ =>
    (s.kind? = some .number && Argument.text ⟨s, some (.text s.name)⟩ env ≠ s.shownText) ||
      s.isBlankLiteral
  | .rand, _ => s.isDecimalLiteral
  | _, _ => false

namespace Call
variable {env : Environment} {f : BuiltIn} {side : Side} {a a' b b' : Argument}

/-- The function cannot tell the arguments on a side apart. -/
structure Alike (env : Environment) (f : BuiltIn) (side : Side) (a a' : Argument) : Prop where
  value_eq : a.value = a'.value
  length_eq : f = .length → side = .left → length env a = length env a'
  count_eq : f = .numberOfItems → side = .left → itemCount env a = itemCount env a'
  list_eq : f = .contains ∧ side = .left ∨ f = .listItem ∧ side = .right →
    a.list? env = a'.list? env
  text_eq : f = .join ∨ f = .regex → a.text env = a'.text env
  decimal_eq : f = .rand → a.formula.isDecimalLiteral = a'.formula.isDecimalLiteral

theorem Alike.refl (env : Environment) (f : BuiltIn) (side : Side) (a : Argument) :
    Alike env f side a a := by
  constructor <;> intros <;> rfl

theorem applyText_alike (ha : Alike env f .left a a') (hb : Alike env f .right b b') :
    applyText env f a b = applyText env f a' b' := by
  cases f with
  | letter => simp only [applyText, letter, Argument.index?, ha.value_eq, hb.value_eq]
  | length => simp only [applyText, ha.length_eq rfl rfl]
  | join => simp only [applyText, ha.text_eq (.inl rfl), hb.text_eq (.inl rfl)]
  | regex => simp only [applyText, ha.text_eq (.inr rfl), hb.text_eq (.inr rfl)]
  | listItem =>
    simp only [applyText, listItem, Argument.index?, ha.value_eq,
      hb.list_eq (.inr ⟨rfl, rfl⟩)]
  | contains => simp only [applyText, ha.list_eq (.inl ⟨rfl, rfl⟩), hb.value_eq]
  | numberOfItems => simp only [applyText, ha.count_eq rfl rfl]
  | _ => rfl

theorem applyNumbers_alike (ha : Alike env f .left a a') (hb : Alike env f .right b b') :
    applyNumbers env f a b = applyNumbers env f a' b' := by
  unfold applyNumbers Argument.number?
  rw [ha.value_eq, hb.value_eq]
  split
  · unfold random
    rw [ha.decimal_eq rfl, hb.decimal_eq rfl]
  all_goals rfl

/-- A function comes out the same for arguments that it cannot tell apart. -/
theorem apply_alike (ha : Alike env f .left a a') (hb : Alike env f .right b b') :
    apply env f a b = apply env f a' b' := by
  have hnumbers := applyNumbers_alike ha hb
  unfold apply Argument.number?
  rw [applyText_alike ha hb, ha.value_eq]
  split
  case h_17 => rw [hnumbers]
  all_goals rfl

/-- A function takes no more from an operand than its kind, its text, and whether it is a decimal
literal. -/
theorem alike_of_content {s s' : Formula} (hkind : s'.kind? = s.kind?) (hname : s'.name = s.name)
    (hdecimal : f = .rand → s'.isDecimalLiteral = s.isDecimalLiteral) (x : Option Value) :
    Alike env f side ⟨s', x⟩ ⟨s, x⟩ where
  value_eq := rfl
  length_eq _ _ := by simp only [length, Argument.list?, hkind, hname]
  count_eq _ _ := by simp only [itemCount, length, Argument.list?, hkind, hname]
  list_eq _ := by simp only [Argument.list?, hkind, hname]
  text_eq _ := by simp only [Argument.text, hkind, hname]
  decimal_eq := hdecimal

section
variable (text : Option String) (left : Formula) {s : Formula} {x : Option Value}

/-- The length of a bracket is that of its value, and so is the length of what is in it, unless this
is a list, a variable without a text or a literal without one. -/
theorem length_bracketed (hs : s ≠ .empty)
    (hx : ∀ text, s.fixedText? env = some text → x = some (.text text))
    (hlist : s.kind? ≠ some .userList)
    (hvariable : s.kind? = some .userVariable → s.isTextVariable env = true)
    (hblank : s.isBlankLiteral = false) :
    length env ⟨s.bracketed text left, x⟩ = length env ⟨s, x⟩ := by
  change Except.ok (valueLength x) = _
  cases s with
  | empty => exact absurd rfl hs
  | node kind literal l r =>
    cases kind with
    | userList => exact absurd rfl hlist
    | userVariable =>
      obtain ⟨content, hcontent⟩ := Formula.exists_fixedText? (hvariable rfl)
      rw [hx content hcontent]
      change _ = variableLength env (literal.getD "")
      unfold variableLength
      rw [Formula.get_of_fixedText? hcontent]
      rfl
    | number | string =>
      cases literal with
      | none => cases hblank
      | some literal =>
        rw [hx literal rfl]
        rfl
    | _ => rfl

/-- A bracket is joined and searched as the text of its value, and so is what is in it, unless this is
a number literal that is shown in another spelling or a literal without a text. -/
theorem text_bracketed (hs : s ≠ .empty)
    (hx : ∀ text, s.fixedText? env = some text → x = some (.text text))
    (hnumber : s.kind? = some .number →
      Argument.text ⟨s, some (.text s.name)⟩ env = s.shownText)
    (hblank : s.isBlankLiteral = false) :
    Argument.text ⟨s.bracketed text left, x⟩ env = Argument.text ⟨s, x⟩ env := by
  change Numeral.stripTrailingZero (Value.toText x) = _
  cases s with
  | empty => exact absurd rfl hs
  | node kind literal l r =>
    cases kind with
    | number =>
      cases literal with
      | none => cases hblank
      | some literal =>
        rw [hx literal rfl]
        exact (hnumber rfl).symm
    | string =>
      cases literal with
      | none => cases hblank
      | some literal =>
        rw [hx literal rfl]
        rfl
    | _ => rfl

/-- No list is read from a bracket. -/
theorem list_bracketed (hlist : s.kind? ≠ some .userList) :
    Argument.list? ⟨s.bracketed text left, x⟩ env = Argument.list? ⟨s, x⟩ env := by
  unfold Argument.list?
  rw [if_neg hlist]
  rfl

/-- A function that does not look at an operand cannot tell it from a bracket around it. -/
theorem alike_bracketed (hs : s ≠ .empty)
    (hx : ∀ text, s.fixedText? env = some text → x = some (.text text))
    (hlooks : f.looksAt env side s = false) :
    Alike env f side ⟨s.bracketed text left, x⟩ ⟨s, x⟩ where
  value_eq := rfl
  length_eq := by
    rintro rfl rfl
    simp only [BuiltIn.looksAt, Bool.or_eq_false_iff, Bool.and_eq_false_imp, decide_eq_true_eq,
      decide_eq_false_iff_not, Bool.not_eq_false'] at hlooks
    exact length_bracketed text left hs hx hlooks.1.1 hlooks.1.2 hlooks.2
  count_eq := by
    rintro rfl rfl
    simp only [BuiltIn.looksAt, Bool.or_eq_false_iff, Bool.and_eq_false_imp, decide_eq_true_eq,
      decide_eq_false_iff_not, Bool.not_eq_false'] at hlooks
    unfold itemCount
    rw [if_neg hlooks.1.1, ← length_bracketed text left hs hx hlooks.1.1 hlooks.1.2 hlooks.2]
    rfl
  list_eq := by
    rintro (⟨rfl, rfl⟩ | ⟨rfl, rfl⟩)
    all_goals exact list_bracketed text left (of_decide_eq_false hlooks)
  text_eq := by
    rintro (rfl | rfl)
    all_goals
      simp only [BuiltIn.looksAt, Bool.or_eq_false_iff, Bool.and_eq_false_imp, decide_eq_true_eq,
        decide_eq_false_iff_not, ne_eq, not_not] at hlooks
      exact text_bracketed text left hs hx hlooks.1 hlooks.2
  decimal_eq := by
    rintro rfl
    exact hlooks.symm

end

end Call

/-! ## Parts of formulas -/

namespace Formula

/-- The function that a formula is. -/
def function? : Formula → Option BuiltIn
  | .node .function text _ _ => text.bind BuiltIn.ofName?
  | _ => none

/-- A function on the way down to the part at the end of a path looks at it.  Functions look at their
own operands only, apart from a random number, which looks for a decimal point behind minus signs
also. -/
def isLookedAt (env : Environment) (t : Formula) : List Side → Bool
  | [] => false
  | side :: path =>
    (t.function?.any fun f => f.looksAt env side (t.operandOn side) && (path = [] || f = .rand)) ||
      (t.operandOn side).isLookedAt env path

section
variable (t : Formula) (side : Side) (s : Formula)

theorem kind?_withOperand : (t.withOperand side s).kind? = t.kind? := by
  cases t with
  | empty => rfl
  | node kind text left right => cases side <;> rfl

theorem name_withOperand : (t.withOperand side s).name = t.name := by
  cases t with
  | empty => rfl
  | node kind text left right => cases side <;> rfl

end

/-- A part in brackets. -/
def bracketedAt (t : Formula) (path : List Side) (text : Option String) (left : Formula) : Formula :=
  t.updateAt (fun s => s.bracketed text left) path

section
variable (text : Option String) (left : Formula)

theorem bracketedAt_cons (side : Side) (path : List Side) (t : Formula) :
    t.bracketedAt (side :: path) text left =
      t.withOperand side ((t.operandOn side).bracketedAt path text left) := rfl

theorem bracketedAt_ne_empty (path : List Side) {t : Formula} (ht : t ≠ .empty) :
    t.bracketedAt path text left ≠ .empty := by
  cases path with
  | nil => exact nofun
  | cons side path => exact withOperand_ne_empty side _ ht

/-- Brackets make no decimal literal. -/
theorem isDecimalLiteral_bracketedAt (path : List Side) {t : Formula}
    (hpart : partAt path t ≠ .empty) (h : t.isDecimalLiteral = false) :
    (t.bracketedAt path text left).isDecimalLiteral = false := by
  induction path generalizing t with
  | nil => rfl
  | cons side path ih =>
    cases t with
    | empty => exact absurd (partAt_empty _) hpart
    | node kind literal l r =>
      cases kind with
      | number => cases side <;> exact h
      | operator =>
        cases side with
        | left =>
          have hl : l ≠ .empty := ne_empty_of_partAt hpart
          rw [bracketedAt_cons]
          simp only [withOperand, operandOn, isDecimalLiteral, Bool.and_false, Bool.false_and,
            isEmpty_eq_false (bracketedAt_ne_empty text left path hl)]
        | right =>
          rw [bracketedAt_cons]
          simp only [withOperand, operandOn, isDecimalLiteral]
          cases hr : r.isDecimalLiteral with
          | false =>
            have hbelow : partAt path r ≠ .empty := hpart
            rw [ih hbelow hr, Bool.and_false]
          | true =>
            simp only [isDecimalLiteral, hr, Bool.and_true] at h
            rw [h, Bool.false_and]
      | _ => cases side <;> rfl

end

/-- An element with another operand has its value, if nothing that is made of the operand tells the two
apart. -/
theorem operand_withOperand {env : Environment} (t : Formula) (side : Side) (s' : Formula)
    (hempty : s'.isEmpty = (t.operandOn side).isEmpty)
    (hvalue : s'.operand env = (t.operandOn side).operand env)
    (halike : ∀ f, t.function? = some f → ∀ x,
      (∀ text, (t.operandOn side).fixedText? env = some text → x = some (.text text)) →
      Call.Alike env f side ⟨s', x⟩ ⟨t.operandOn side, x⟩) :
    (t.withOperand side s').operand env = t.operand env := by
  cases t with
  | empty => rfl
  | node kind text left right =>
    have hleaf (hbracket : kind ≠ .bracket) (hop : kind = .operator → operatorOf? text = none)
        (hf : kind = .function → text.bind BuiltIn.ofName? = none) :
        ((node kind text left right).withOperand side s').operand env =
          (node kind text left right).operand env := by
      rw [operand_leaf env text left right hbracket hop hf]
      cases side <;> exact operand_leaf env text _ _ hbracket hop hf
    cases kind with
    | bracket =>
      cases side with
      | left => rw [withOperand, operand_bracket, operand_bracket]
      | right =>
        rw [withOperand, operand_bracket, operand_bracket, hvalue]
        rfl
    | operator =>
      cases hop : operatorOf? text with
      | none => exact hleaf nofun (fun _ => hop) nofun
      | some op =>
        cases side with
        | left =>
          rw [withOperand, operand_operator env text _ _ hop, operand_operator env text _ _ hop,
            hvalue]
          rfl
        | right =>
          rw [withOperand, operand_operator env text _ _ hop, operand_operator env text _ _ hop,
            hempty, hvalue]
          rfl
    | function =>
      cases hf : text.bind BuiltIn.ofName? with
      | none => exact hleaf nofun nofun (fun _ => hf)
      | some f =>
        cases side with
        | left =>
          rw [withOperand, operand_function env text _ _ hf, operand_function env text _ _ hf,
            hvalue]
          refine bind_operand_congr left fun x hx => bind_congr fun y => ?_
          rw [Call.apply_alike (halike f hf x hx) (.refl env f .right _)]
          rfl
        | right =>
          rw [withOperand, operand_function env text _ _ hf, operand_function env text _ _ hf,
            hvalue]
          refine bind_congr fun x => bind_operand_congr right fun y hy => ?_
          rw [Call.apply_alike (.refl env f .left _) (halike f hf y hy)]
          rfl
    | _ => exact hleaf nofun nofun nofun

/-- **A part in brackets leaves the value as it is**, where no function looks at the part. -/
theorem operand_bracketedAt {env : Environment} (text : Option String) (left : Formula)
    (path : List Side) (t : Formula) (hpart : partAt path t ≠ .empty)
    (hlooked : t.isLookedAt env path = false) :
    (t.bracketedAt path text left).operand env = t.operand env := by
  induction path generalizing t with
  | nil => exact operand_bracketed text left hpart
  | cons side path ih =>
    obtain ⟨hlooks, hbelow⟩ := Bool.or_eq_false_iff.mp hlooked
    have hs : t.operandOn side ≠ .empty := ne_empty_of_partAt hpart
    rw [bracketedAt_cons]
    refine operand_withOperand t side _ ?_ (ih _ hpart hbelow) ?_
    · rw [isEmpty_eq_false hs, isEmpty_eq_false (bracketedAt_ne_empty text left path hs)]
    · intro f hf x hx
      rw [hf, Option.any_some] at hlooks
      cases path with
      | nil =>
        refine Call.alike_bracketed text left hs hx ?_
        simpa using hlooks
      | cons side' path =>
        refine Call.alike_of_content (kind?_withOperand ..) (name_withOperand ..) ?_ x
        rintro rfl
        have hdecimal : (t.operandOn side).isDecimalLiteral = false := by
          simpa [BuiltIn.looksAt] using hlooks
        rw [hdecimal, ← isDecimalLiteral_bracketedAt text left (side' :: path) hpart hdecimal]
        rfl

/-- **Brackets keep the value.**  A formula evaluates to the same outcome, with as many random numbers
drawn, when a part of it is put in brackets at whatever depth, unless a function looks at the part. -/
theorem brackets_keep_value (env : Environment) (t : Formula) (path : List Side)
    (text : Option String) (left : Formula) (hpart : t.partAt path ≠ .empty)
    (hlooked : t.isLookedAt env path = false) :
    (t.bracketedAt path text left).evaluate env = t.evaluate env := by
  unfold evaluate
  rw [operand_bracketedAt text left path t hpart hlooked]

/-- `LENGTH(JOIN("a", x))`. -/
def labelLength : Formula :=
  .node .function (some "LENGTH")
    (.node .function (some "JOIN") (leaf .string "a") (leaf .userVariable "x")) .empty

/-- A part that is joined may be put in brackets. -/
theorem brackets_keep_value_label :
    labelLength.partAt [.left, .right] ≠ .empty ∧
    labelLength.isLookedAt (.bare {} fun _ => .zero) [.left, .right] = false ∧
    (labelLength.bracketedAt [.left, .right] none .empty).evaluate (.bare {} fun _ => .zero) =
      labelLength.evaluate (.bare {} fun _ => .zero) :=
  ⟨by decide, by decide +kernel,
    brackets_keep_value _ labelLength _ none .empty (by decide) (by decide +kernel)⟩

/-! ## Where brackets show -/

/-- A function with the text `1` as its other operand. -/
def withOne (name : String) (side : Side) (s : Formula) : Formula :=
  (node .function (some name) (leaf .string "1") (leaf .string "1")).withOperand side s

/-- Formulas in which a function of texts or lists looks at an operand, with the path to it. -/
def lookingFormulas : List (Formula × List Side) := [
  (withOne "LENGTH" .left (leaf .userList "xs"), [.left]),
  (withOne "LENGTH" .left (leaf .userVariable "x"), [.left]),
  (withOne "LENGTH" .left (.node .number none .empty .empty), [.left]),
  (withOne "NUMBER_OF_ITEMS" .left (leaf .userList "xs"), [.left]),
  (withOne "NUMBER_OF_ITEMS" .left (leaf .userVariable "x"), [.left]),
  (withOne "NUMBER_OF_ITEMS" .left (.node .string none .empty .empty), [.left]),
  (withOne "CONTAINS" .left (leaf .userList "xs"), [.left]),
  (withOne "LIST_ITEM" .right (leaf .userList "xs"), [.right]),
  (withOne "JOIN" .left (leaf .number "1e0"), [.left]),
  (withOne "JOIN" .right (.node .string none .empty .empty), [.right]),
  (withOne "REGEX" .left (leaf .number "1e0"), [.left]),
  (withOne "REGEX" .right (leaf .number "5e-1"), [.right]),
  (.node .function (some "REGEX") (.node .string none .empty .empty) (leaf .string "10"), [.left])]

/-- One is the value of every variable and the only item of every list, and all random numbers are one
half. -/
def oneEverywhere : Environment :=
  { Environment.bare {} (fun _ => .ofRatio 1 2) with
    store := ⟨fun _ _ => .number .one, fun _ _ => some [.number .one]⟩ }

/-- Each of these functions sees the bracket. -/
theorem lookingFormulas_show : ∀ p ∈ lookingFormulas,
    (((p.1.bracketedAt p.2 none .empty).evaluate oneEverywhere).run.run 0).1 ≠
      ((p.1.evaluate oneEverywhere).run.run 0).1 := by
  decide +kernel

/-- The literal `2.0`, behind a minus sign. -/
def minusTwo : Formula := .node .operator (some "MINUS") .empty (leaf .number "2.0")

theorem isDecimalLiteral_minusTwo : minusTwo.isDecimalLiteral = true := by
  have hminus : operatorOf? (some "MINUS") = some .minus := by decide
  simp [minusTwo, leaf, isDecimalLiteral, isEmpty, hminus]

section
open Binary64

/-- A random number between minus two and one. -/
theorem gives_random_minusTwo {s : Formula} {w : Binary64} (whole : Bool)
    (hs : (s.evaluate oneEverywhere).run.run 0 = (.ok (.number (-ofInt 2)), 0)) (hne : s ≠ .empty)
    (hdecimal : s.isDecimalLiteral = !whole)
    (hscale : Call.scale whole (-ofInt 2) one (oneEverywhere.draw 0) = .ok w)
    (hw : w.isFinite = true) :
    ((withOne "RAND" .left s).evaluate oneEverywhere).Gives 0 (.number w) 1 := by
  have hone : (leaf .string "1").GivesNumber oneEverywhere 0 one 0 :=
    givesNumber_leaf _ (.inr rfl) 0 (by decide +kernel)
  have hwhole : Call.countsWhole oneEverywhere s (leaf .string "1") (-ofInt 2) one = whole := by
    unfold Call.countsWhole
    rw [hdecimal]
    cases whole <;> decide +kernel
  rw [← hwhole] at hscale
  refine gives_rand ⟨hne, _, hs, rfl⟩ hone (fun u v => ?_) hw
  exact Call.gives_random (if_pos (by decide +kernel)) (by decide +kernel) hscale

/-- **Brackets show to the functions that look**: to those of texts and lists, and to a random number
behind a decimal literal. -/
theorem brackets_show :
    (∀ p ∈ lookingFormulas,
      (((p.1.bracketedAt p.2 none .empty).evaluate oneEverywhere).run.run 0).1 ≠
        ((p.1.evaluate oneEverywhere).run.run 0).1) ∧
    ((withOne "RAND" .left minusTwo).evaluate oneEverywhere).Gives 0 (.number (-ofRatio 1 2)) 1 ∧
    (((withOne "RAND" .left minusTwo).bracketedAt [.left] none .empty).evaluate oneEverywhere).Gives 0
      (.number zero) 1 ∧
    (((withOne "RAND" .left minusTwo).bracketedAt [.left, .right] none .empty).evaluate
      oneEverywhere).Gives 0 (.number zero) 1 := by
  refine ⟨lookingFormulas_show, ?_, ?_, ?_⟩
  · exact gives_random_minusTwo false (Prod.ext (by decide +kernel) (by decide +kernel)) (by decide)
      isDecimalLiteral_minusTwo (by decide +kernel) (by decide +kernel)
  · exact gives_random_minusTwo true (Prod.ext (by decide +kernel) (by decide +kernel)) (by decide)
      rfl (by decide +kernel) (by decide +kernel)
  · exact gives_random_minusTwo true (Prod.ext (by decide +kernel) (by decide +kernel)) (by decide)
      rfl (by decide +kernel) (by decide +kernel)

end

end Formula

end BrickFormula
