import BrickFormula.Proofs.Binary64.Order
import BrickFormula.Proofs.Evaluation.Operands
import BrickFormula.Proofs.Numeral.Spelling

/-!
# Equality of values

Two values are equal when they have the same key: the number that a value is or writes, with the sign
of zero forgotten, or else its text.  So equality is an equivalence relation, although it compares
numbers by number and other texts by text.

    Value.key              what equality goes by
    equals_iff             values are equal when their keys are
    evaluate_test          an equality in a formula, of which both operands are there
    holdsItem_congr        equal values are found in the same lists
    equals_equivalence     equality is an equivalence, and its opposite the opposite
-/

namespace BrickFormula

/-! ## Keys -/

/-- A number, with the positive zero for both zeros. -/
def Binary64.unsignedZero (x : Binary64) : Binary64 := if x.isZero then .zero else x

namespace Value

/-- What equality goes by: the number of a value, or the text of one that is none. -/
def key (value : Option Value) : Binary64 ⊕ String :=
  match Numeral.parse? (toText value) with
  | some x => .inl x.unsignedZero
  | none => .inr (toText value)

theorem key_number (x : Binary64) : key (some (.number x)) = .inl x.unsignedZero := by
  unfold key toText
  simp only [Numeral.parse?_write]

theorem isZero_abs (x : Binary64) : x.abs.isZero = x.isZero := by cases x <;> rfl

theorem abs_of_isZero {x : Binary64} (h : x.isZero = true) : x.abs = .zero := by
  obtain ⟨negative, rfl⟩ := (Binary64.isZero_iff x).mp h
  rfl

theorem sameNumber_iff (x y : Binary64) :
    sameNumber x y = true ↔ x = y ∨ x.isZero = true ∧ y.isZero = true := by
  unfold sameNumber
  split
  · next hzero =>
    rw [beq_iff_eq, Binary64.order_eq_iff]
    constructor
    · intro habs
      have hsame : x.isZero = y.isZero := by rw [← isZero_abs x, habs, isZero_abs]
      rw [Bool.or_eq_true] at hzero
      rcases hzero with hx | hy
      · exact .inr ⟨hx, hsame ▸ hx⟩
      · exact .inr ⟨hsame ▸ hy, hy⟩
    · rintro (rfl | ⟨hx, hy⟩)
      · rfl
      · rw [abs_of_isZero hx, abs_of_isZero hy]
  · next hzero =>
    rw [beq_iff_eq, Binary64.order_eq_iff]
    constructor
    · exact .inl
    · rintro (rfl | ⟨hx, -⟩)
      · rfl
      · rw [hx, Bool.true_or] at hzero
        exact absurd rfl hzero

theorem sameNumber_iff_unsignedZero (x y : Binary64) :
    sameNumber x y = true ↔ x.unsignedZero = y.unsignedZero := by
  rw [sameNumber_iff]
  unfold Binary64.unsignedZero
  have hzero : Binary64.zero.isZero = true := rfl
  constructor
  · rintro (rfl | ⟨hx, hy⟩)
    · rfl
    · rw [if_pos hx, if_pos hy]
  · intro h
    by_cases hx : x.isZero = true <;> by_cases hy : y.isZero = true
    · exact .inr ⟨hx, hy⟩
    · rw [if_pos hx, if_neg hy] at h
      exact absurd (h ▸ hzero) hy
    · rw [if_neg hx, if_pos hy] at h
      exact absurd (h ▸ hzero) hx
    · rw [if_neg hx, if_neg hy] at h
      exact .inl h

/-- **Equality goes by the key.** -/
theorem equals_iff (a b : Option Value) : equals a b = true ↔ key a = key b := by
  unfold equals key
  cases hx : Numeral.parse? (toText a) <;> cases hy : Numeral.parse? (toText b)
  · simp only [decide_eq_true_eq, Sum.inr.injEq]
  · simp only [decide_eq_true_eq, reduceCtorEq, iff_false]
    intro htext
    rw [htext, hy] at hx
    cases hx
  · simp only [decide_eq_true_eq, reduceCtorEq, iff_false]
    intro htext
    rw [htext, hy] at hx
    cases hx
  · simp only [sameNumber_iff_unsignedZero, Sum.inl.injEq]

theorem equals_number_iff (x y : Binary64) :
    equals (some (.number x)) (some (.number y)) = true ↔
      x.eq y = true ∨ x = .nan ∧ y = .nan := by
  rw [equals_iff, key_number, key_number, Sum.inl.injEq, ← sameNumber_iff_unsignedZero,
    sameNumber_iff, Binary64.eq_iff]
  constructor
  · rintro (rfl | hzero)
    · by_cases hnan : x = .nan
      · exact .inr ⟨hnan, hnan⟩
      · exact .inl (.inl ⟨rfl, hnan⟩)
    · exact .inl (.inr hzero)
  · rintro ((⟨rfl, -⟩ | hzero) | ⟨rfl, rfl⟩)
    · exact .inl rfl
    · exact .inr hzero
    · exact .inl rfl

/-- Equal values equal the same values. -/
theorem equals_congr {a b : Option Value} (h : equals a b = true) (c : Option Value) :
    equals c a = equals c b := by
  rw [Bool.eq_iff_iff, equals_iff, equals_iff, (equals_iff a b).mp h]

end Value

/-! ## Lists -/

/-- **Equal values are found in the same lists.** -/
theorem Call.holdsItem_congr {a b : Option Value} (h : Value.equals a b = true)
    (items : List Datum) : holdsItem a items = holdsItem b items := by
  induction items with
  | nil => rfl
  | cons item items ih =>
    unfold holdsItem
    simp only [Value.equals_congr h, ih]

/-! ## Formulas -/

theorem Value.ofBool_true : ofBool true = .number .one := congrArg Value.number (if_pos rfl)

theorem Value.ofBool_false : ofBool false = .zero := congrArg Value.number (if_neg Bool.false_ne_true)

theorem Value.ofBool_false_ne : ofBool false ≠ ofBool true := by
  rw [ofBool_true, ofBool_false]
  exact fun h => Binary64.zero_ne_one (Value.number.inj h)

theorem normalize_ofBool (b : Bool) : (Datum.ofValue (.ofBool b)).normalize = .ok (.ofBool b) := by
  cases b with
  | false =>
    rw [Value.ofBool_false]
    rfl
  | true =>
    rw [Value.ofBool_true]
    exact Datum.normalize_number Binary64.isFinite_one

/-- Comparisons and connectives between two operands: the outcome of the test is the value. -/
theorem Formula.evaluate_test (env : Environment) {text : Option String} {op : Operator}
    (hop : operatorOf? text = some op) {test : Value → Value → Bool}
    (htest : ∀ x y, op.applyBinary x y = .ofBool (test x y)) {left right : Formula}
    (hl : left ≠ .empty) (hr : right ≠ .empty) :
    (node .operator text left right).evaluate env = do
      let y ← right.evaluate env
      let x ← left.evaluate env
      return .ofBool (test x y) := by
  rw [evaluate_binary env hop hl hr]
  simp only [htest, normalize_ofBool]
  rfl

/-- **Equality is an equivalence relation** on texts, numbers and nothing.  Numbers are equal when
they are numerically equal, or both not-a-number.  In a formula with both operands, the opposite of
an equality is computed from the same values and comes out opposite; and a list holds all values that
equal one of its items. -/
theorem equals_equivalence :
    Equivalence (fun a b : Option Value => Value.equals a b = true) ∧
    (∀ x y : Binary64, Value.equals (some (.number x)) (some (.number y)) = true ↔
      x.eq y = true ∨ x = .nan ∧ y = .nan) ∧
    (∀ (env : Environment) (left right : Formula), left ≠ .empty → right ≠ .empty →
      (Formula.node .operator (some "EQUAL") left right).evaluate env = (do
        let y ← right.evaluate env
        let x ← left.evaluate env
        return .ofBool (Value.equals (some x) (some y))) ∧
      (Formula.node .operator (some "NOT_EQUAL") left right).evaluate env = (do
        let y ← right.evaluate env
        let x ← left.evaluate env
        return .ofBool (!Value.equals (some x) (some y)))) ∧
    (∀ (env : Environment) (list a b : Argument), Value.equals a.value b.value = true →
      Call.apply env .contains list a = Call.apply env .contains list b) := by
  refine ⟨⟨?_, ?_, ?_⟩, Value.equals_number_iff, ?_, ?_⟩
  · intro a
    exact (Value.equals_iff a a).mpr rfl
  · intro a b h
    exact (Value.equals_iff b a).mpr ((Value.equals_iff a b).mp h).symm
  · intro a b c hab hbc
    exact (Value.equals_iff a c).mpr
      (((Value.equals_iff a b).mp hab).trans ((Value.equals_iff b c).mp hbc))
  · intro env left right hleft hright
    exact ⟨Formula.evaluate_test env rfl (fun _ _ => rfl) hleft hright,
      Formula.evaluate_test env rfl (fun _ _ => rfl) hleft hright⟩
  · intro env list a b h
    unfold Call.apply Call.applyText
    simp only [Call.holdsItem_congr h]

/-- One and a half, in three spellings, of which a list of prices holds one. -/
def shop : Environment :=
  { Environment.bare {} (fun _ => .zero) with
    store := ⟨fun _ _ => .absent, fun _ _ => some [.number (.ofRatio 3 2)]⟩ }

/-- The price is not the one that is asked for. -/
def priceDiffers : Formula :=
  .node .operator (some "NOT_EQUAL") (.leaf .string "1.50") (.leaf .string "15e-1")

theorem equals_equivalence_shop :
    Value.equals (some (.text "1.50")) (some (.text "15e-1")) = true ∧
    (priceDiffers.evaluate shop = do
      let y ← (Formula.leaf .string "15e-1").evaluate shop
      let x ← (Formula.leaf .string "1.50").evaluate shop
      return .ofBool (!Value.equals (some x) (some y))) ∧
    Call.apply shop .contains ⟨.leaf .userList "prices", none⟩ ⟨.empty, some (.text "1.50")⟩ =
      Call.apply shop .contains ⟨.leaf .userList "prices", none⟩ ⟨.empty, some (.text "15e-1")⟩ ∧
    (Call.apply shop .contains ⟨.leaf .userList "prices", none⟩
      ⟨.empty, some (.text "1.50")⟩).run 0 = (.ok (.number .one), 0) := by
  obtain ⟨hequiv, -, hnodes, hcontains⟩ := equals_equivalence
  have hleft : Value.equals (some (.text "1.50")) (some (.number (.ofRatio 3 2))) = true := by
    decide +kernel
  have hright : Value.equals (some (.text "15e-1")) (some (.number (.ofRatio 3 2))) = true := by
    decide +kernel
  have hsame := hequiv.trans hleft (hequiv.symm hright)
  have hprices := hnodes shop (.leaf .string "1.50") (.leaf .string "15e-1") nofun nofun
  exact ⟨hsame, hprices.2, hcontains shop _ _ _ hsame, Prod.ext (by decide +kernel) rfl⟩

end BrickFormula
