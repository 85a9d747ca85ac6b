import BrickFormula.Evaluation

/-!
# Formulas that evaluate alike

Evaluation takes little from an element: which operator or function it names, what it reads as a
leaf, and, when it is an argument, a literal text, a variable or a list.  Two formulas of one shape,
each in an environment of its own, have the same value if their elements agree on that, one by one;
and it is enough if those do that an evaluation comes to.

    Argument.Agrees    what a function can tell of an argument
    Call.Agrees        what a function reads besides its arguments
    Element.Agrees     what evaluation takes from an element
    Formula.Agrees     all elements of two formulas agree
    ReadsAlike         those that an evaluation comes to agree
    evaluate_eq        then the formulas have the same value
-/

namespace BrickFormula

variable {env env' : Environment}

/-! ## Arguments -/

/-- The two arguments, each in its environment, look the same to every function. -/
structure Argument.Agrees (env env' : Environment) (a a' : Argument) : Prop where
  value : a.value = a'.value
  kind : a.formula.kind? = a'.formula.kind?
  decimal : a.formula.isDecimalLiteral = a'.formula.isDecimalLiteral
  literal : a.formula.kind? = some .number ∨ a.formula.kind? = some .string →
    a.formula.name = a'.formula.name
  get : a.formula.kind? = some .userVariable → env.get a.formula.name = env'.get a'.formula.name
  getList? : a.formula.kind? = some .userList →
    env.getList? a.formula.name = env'.getList? a'.formula.name

namespace Argument

theorem wholeOrNumeral_congr (hs : env.settings = env'.settings) (x : Binary64) :
    wholeOrNumeral env x = wholeOrNumeral env' x := by
  unfold wholeOrNumeral
  rw [hs]

theorem literalText_congr (hs : env.settings = env'.settings) (value : Option Value) :
    literalText env value = literalText env' value := by
  unfold literalText
  simp only [wholeOrNumeral_congr hs]

namespace Agrees
variable {a a' : Argument}

theorem number_eq (h : a.Agrees env env' a') : a.number? = a'.number? := by
  unfold number?
  rw [h.value]

theorem index_eq (h : a.Agrees env env' a') : a.index? = a'.index? := by
  unfold index?
  rw [h.value]

theorem list_eq (h : a.Agrees env env' a') : a.list? env = a'.list? env' := by
  unfold list?
  rw [← h.kind]
  by_cases hk : a.formula.kind? = some .userList
  · rw [if_pos hk, if_pos hk, h.getList? hk]
  · rw [if_neg hk, if_neg hk]

theorem text_eq (hs : env.settings = env'.settings) (h : a.Agrees env env' a') :
    a.text env = a'.text env' := by
  unfold text
  rw [← h.kind, ← h.value, literalText_congr hs]
  cases hk : a.formula.kind? with
  | none => rfl
  | some kind =>
    cases kind with
    | string => simp only [h.literal (.inr hk)]
    | _ => rfl

end Agrees

end Argument

/-! ## Functions -/

/-- The function draws a random number. -/
def BuiltIn.draws : BuiltIn → Bool
  | .rand | .arctan2 => true
  | _ => false

/-- The function finds the same in both environments besides what its arguments read. -/
structure Call.Agrees (env env' : Environment) (f : BuiltIn) : Prop where
  device : Call.device env f = Call.device env' f
  characters : env.characters = env'.characters
  draw : f.draws = true → env.draw = env'.draw

namespace Call
variable {a a' b b' : Argument}

theorem draw_congr (hd : env.draw = env'.draw) : Evaluation.draw env = Evaluation.draw env' := by
  unfold Evaluation.draw
  rw [hd]

theorem random_congr (hs : env.settings = env'.settings) (hd : env.draw = env'.draw)
    (ha : a.Agrees env env' a') (hb : b.Agrees env env' b') (x y : Binary64) :
    random env a b x y = random env' a' b' x y := by
  unfold random
  rw [hs, draw_congr hd, ha.decimal, hb.decimal]

theorem direction_congr (hd : env.draw = env'.draw) (x y : Binary64) :
    direction env x y = direction env' x y := by
  unfold direction
  rw [draw_congr hd]

theorem letter_congr (ha : a.Agrees env env' a') (hb : b.Agrees env env' b') :
    letter a b = letter a' b' := by
  unfold letter
  rw [ha.index_eq, hb.value]

theorem length_congr (hs : env.settings = env'.settings) (ha : a.Agrees env env' a') :
    length env a = length env' a' := by
  unfold length
  rw [← ha.kind, ← ha.value, ← ha.list_eq]
  cases hk : a.formula.kind? with
  | none => rfl
  | some kind =>
    cases kind with
    | number => simp only [ha.literal (.inl hk)]
    | string => simp only [ha.literal (.inr hk)]
    | userVariable => simp only [variableLength, ha.get hk, Argument.wholeOrNumeral_congr hs]
    | _ => rfl

theorem itemCount_congr (hs : env.settings = env'.settings) (ha : a.Agrees env env' a') :
    itemCount env a = itemCount env' a' := by
  unfold itemCount
  rw [← ha.kind, ← ha.list_eq, length_congr hs ha]

theorem listItem_congr (ha : a.Agrees env env' a') (hb : b.Agrees env env' b') :
    listItem env a b = listItem env' a' b' := by
  unfold listItem
  rw [hb.list_eq, ha.index_eq]

theorem applyText_congr (hs : env.settings = env'.settings) (hc : env.characters = env'.characters)
    (f : BuiltIn) (ha : a.Agrees env env' a') (hb : b.Agrees env env' b') :
    applyText env f a b = applyText env' f a' b' := by
  unfold applyText
  rw [letter_congr ha hb, length_congr hs ha, itemCount_congr hs ha, listItem_congr ha hb,
    ha.text_eq hs, hb.text_eq hs, ha.list_eq, hb.value, hc]

theorem applyNumbers_congr (hs : env.settings = env'.settings) {f : BuiltIn}
    (hf : Agrees env env' f) (ha : a.Agrees env env' a') (hb : b.Agrees env env' b') :
    applyNumbers env f a b = applyNumbers env' f a' b' := by
  unfold applyNumbers
  rw [ha.number_eq, hb.number_eq]
  split
  · exact random_congr hs (hf.draw rfl) ha hb _ _
  · exact direction_congr (hf.draw rfl) _ _
  all_goals rfl

theorem apply_congr (hs : env.settings = env'.settings) {f : BuiltIn}
    (hf : Agrees env env' f) (ha : a.Agrees env env' a') (hb : b.Agrees env env' b') :
    apply env f a b = apply env' f a' b' := by
  have hnumbers := applyNumbers_congr hs hf ha hb
  unfold apply
  rw [applyText_congr hs hf.characters f ha hb, ha.number_eq, hf.device]
  split
  case h_17 => rw [hnumbers]
  all_goals rfl

end Call

/-! ## Elements -/

/-- Evaluation takes the same from two elements of one kind: the same reading as a leaf, the same as
an argument, and the same operator or function. -/
structure Element.Agrees (env env' : Environment) (kind : Kind) (text text' : Option String) :
    Prop where
  datum : Formula.leafDatum env kind text = Formula.leafDatum env' kind text'
  literal : kind = .number ∨ kind = .string → text.getD "" = text'.getD ""
  get : kind = .userVariable → env.get (text.getD "") = env'.get (text'.getD "")
  getList? : kind = .userList → env.getList? (text.getD "") = env'.getList? (text'.getD "")
  operator : kind = .operator → Formula.operatorOf? text = Formula.operatorOf? text'
  function : kind = .function → text.bind BuiltIn.ofName? = text'.bind BuiltIn.ofName?
  call : kind = .function → ∀ f, text.bind BuiltIn.ofName? = some f → Call.Agrees env env' f

namespace Formula

/-- The formulas have one shape, and evaluation takes the same from their elements. -/
inductive Agrees (env env' : Environment) : Formula → Formula → Prop
  | empty : Agrees env env' .empty .empty
  | node {kind text text' left left' right right'} :
    Element.Agrees env env' kind text text' → Agrees env env' left left' →
    Agrees env env' right right' →
    Agrees env env' (.node kind text left right) (.node kind text' left' right')

/-- An evaluation of the element comes to both of its operands: those of an operator, if there is a
right one, and those of a function. -/
def readsOperands (kind : Kind) (text : Option String) (right : Formula) : Bool :=
  match kind with
  | .operator => (operatorOf? text).isSome && !right.isEmpty
  | .function => (text.bind BuiltIn.ofName?).isSome
  | _ => false

/-- The formulas have one shape as far as an evaluation comes, and it takes the same from the
elements there. -/
inductive ReadsAlike (env env' : Environment) : Formula → Formula → Prop
  | empty : ReadsAlike env env' .empty .empty
  | node {kind text text' left left' right right'} :
    Element.Agrees env env' kind text text' → right.isEmpty = right'.isEmpty →
    (readsOperands kind text right = true → ReadsAlike env env' left left') →
    (kind = .bracket ∨ readsOperands kind text right = true → ReadsAlike env env' right right') →
    ReadsAlike env env' (.node kind text left right) (.node kind text' left' right')

variable {t t' : Formula}

theorem readsOperands_operator {text : Option String} {op : Operator} {right : Formula}
    (hop : operatorOf? text = some op) (hr : right.isEmpty = false) :
    readsOperands .operator text right = true := by
  unfold readsOperands
  rw [hop, hr]
  rfl

theorem readsOperands_function {text : Option String} {f : BuiltIn} (right : Formula)
    (hf : text.bind BuiltIn.ofName? = some f) : readsOperands .function text right = true := by
  unfold readsOperands
  rw [hf]
  rfl

namespace ReadsAlike

theorem isEmpty_eq (h : t.ReadsAlike env env' t') : t.isEmpty = t'.isEmpty := by
  cases h with
  | empty => rfl
  | node => rfl

theorem isDecimalLiteral_eq (h : t.ReadsAlike env env' t') :
    t.isDecimalLiteral = t'.isDecimalLiteral := by
  induction h with
  | empty => rfl
  | @node kind text text' left left' right right' he hempty hl hr ihl ihr =>
    cases kind with
    | number => simp only [isDecimalLiteral, he.literal (.inl rfl)]
    | operator =>
      simp only [isDecimalLiteral, ← he.operator rfl]
      cases hop : operatorOf? text with
      | none => rfl
      | some op =>
        cases hnone : right.isEmpty with
        | true =>
          -- the operand is not read, but it is no literal on either side
          have hblank {s : Formula} (hs : s.isEmpty = true) : s.isDecimalLiteral = false := by
            cases s with
            | empty => rfl
            | node => cases hs
          rw [hblank hnone, hblank (hempty.symm.trans hnone), Bool.and_false, Bool.and_false]
        | false =>
          have hreads := readsOperands_operator hop hnone
          rw [(hl hreads).isEmpty_eq, ihr (.inr hreads)]
    | _ => rfl

theorem argument (h : t.ReadsAlike env env' t') (x : Option Value) :
    Argument.Agrees env env' ⟨t, x⟩ ⟨t', x⟩ := by
  have hdecimal := h.isDecimalLiteral_eq
  cases h with
  | empty => exact ⟨rfl, rfl, rfl, fun _ => rfl, nofun, nofun⟩
  | node he =>
    refine ⟨rfl, rfl, hdecimal, ?_, ?_, ?_⟩
    · intro hk
      exact he.literal (hk.imp Option.some.inj Option.some.inj)
    · intro hk
      exact he.get (Option.some.inj hk)
    · intro hk
      exact he.getList? (Option.some.inj hk)

end ReadsAlike

theorem Agrees.readsAlike (h : t.Agrees env env' t') : t.ReadsAlike env env' t' := by
  induction h with
  | empty => exact .empty
  | node he _ _ ihl ihr => exact .node he ihr.isEmpty_eq (fun _ => ihl) (fun _ => ihr)

/-! ## Evaluation by cases -/

section
variable (env : Environment) (text : Option String) (left right : Formula)

theorem operand_bracket :
    (node .bracket text left right).operand env = do
      let y ← right.operand env
      return some (← .ofExcept (Datum.ofOption y).normalize) := by
  simp only [operand, pure_bind]

theorem operand_operator {op : Operator} (hop : operatorOf? text = some op) :
    (node .operator text left right).operand env =
      if right.isEmpty then return some (← .ofExcept (Datum.number .zero).normalize)
      else do
        let y ← right.operand env
        let x ← left.operand env
        return some (← .ofExcept (Datum.ofValue (op.apply x y)).normalize) := by
  simp only [operand, hop, pure_bind]

theorem operand_function {f : BuiltIn} (hf : text.bind BuiltIn.ofName? = some f) :
    (node .function text left right).operand env = do
      let x ← left.operand env
      let y ← right.operand env
      let datum ← Call.apply env f ⟨left, x⟩ ⟨right, y⟩
      return some (← .ofExcept datum.normalize) := by
  simp only [operand, hf]

/-- The other elements have no operands, as far as evaluation goes. -/
theorem operand_leaf {kind : Kind} (hbracket : kind ≠ .bracket)
    (hop : kind = .operator → operatorOf? text = none)
    (hf : kind = .function → text.bind BuiltIn.ofName? = none) :
    (node kind text left right).operand env = do
      let datum ← .ofExcept (leafDatum env kind text)
      return some (← .ofExcept datum.normalize) := by
  cases kind with
  | bracket => exact absurd rfl hbracket
  | operator => simp only [operand, hop rfl]
  | function => simp only [operand, hf rfl]
  | _ => rfl

end

/-- **Formulas that read alike evaluate alike.**  They have the same value or the same fault, and draw
as many random numbers. -/
theorem ReadsAlike.operand_eq (hs : env.settings = env'.settings) (h : t.ReadsAlike env env' t') :
    t.operand env = t'.operand env' := by
  induction h with
  | empty => rfl
  | @node kind text text' left left' right right' he hempty hl hr ihl ihr =>
    have hleaf (hbracket : kind ≠ .bracket) (hop : kind = .operator → operatorOf? text = none)
        (hf : kind = .function → text.bind BuiltIn.ofName? = none) :
        (Formula.node kind text left right).operand env =
          (Formula.node kind text' left' right').operand env' := by
      rw [operand_leaf env text left right hbracket hop hf, he.datum,
        operand_leaf env' text' left' right' hbracket
          (fun hk => (he.operator hk).symm.trans (hop hk))
          (fun hk => (he.function hk).symm.trans (hf hk))]
    cases kind with
    | bracket => rw [operand_bracket, operand_bracket, ihr (.inl rfl)]
    | operator =>
      cases hop : operatorOf? text with
      | none => exact hleaf nofun (fun _ => hop) nofun
      | some op =>
        rw [operand_operator env text left right hop,
          operand_operator env' text' left' right' ((he.operator rfl).symm.trans hop), ← hempty]
        cases hnone : right.isEmpty with
        | true => rfl
        | false =>
          have hreads := readsOperands_operator hop hnone
          rw [ihl hreads, ihr (.inr hreads)]
    | function =>
      cases hf : text.bind BuiltIn.ofName? with
      | none => exact hleaf nofun nofun (fun _ => hf)
      | some f =>
        have hreads := readsOperands_function right hf
        have hcall := fun x y => Call.apply_congr hs (he.call rfl f hf)
          ((hl hreads).argument x) ((hr (.inr hreads)).argument y)
        rw [operand_function env text left right hf,
          operand_function env' text' left' right' ((he.function rfl).symm.trans hf), ihl hreads,
          ihr (.inr hreads)]
        simp only [hcall]
    | _ => exact hleaf nofun nofun nofun

theorem ReadsAlike.evaluate_eq (hs : env.settings = env'.settings) (h : t.ReadsAlike env env' t') :
    t.evaluate env = t'.evaluate env' := by
  unfold evaluate
  rw [h.operand_eq hs]

theorem Agrees.evaluate_eq (hs : env.settings = env'.settings) (h : t.Agrees env env' t') :
    t.evaluate env = t'.evaluate env' := h.readsAlike.evaluate_eq hs

end Formula

end BrickFormula
