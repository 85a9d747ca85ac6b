import BrickFormula.Proofs.Evaluation.Interchange
import BrickFormula.Proofs.Evaluation.Places
import BrickFormula.Proofs.Numeral.RoundTrip

/-!
# Membership

Whether a list holds a value can be asked at once, or item by item.  The search compares the items as
they are stored; an item that is asked for is a result, in which infinities are cut to the greatest
finite numbers.  So both ways agree about all values, except for an infinity in the list and the
number that it is cut to.

    Value.settled          a value as a result
    Value.Apart            neither of the numbers about which the two ways differ
    equals_settled         cutting an item does not change what it equals
    gives_contains         the search
    gives_equal_item       the comparison with one item
    contains_iff_equal     both ways agree
-/

namespace BrickFormula

/-! ## Items as results -/

namespace Value

/-- The value as a result: infinities are cut. -/
def settled : Value → Value
  | .text s => .text s
  | .number x => .number (Datum.clamp x)

theorem normalize_ofValue (v : Value) : (Datum.ofValue v).normalize = .ok v.settled := by
  cases v <;> rfl

/-- For every infinity among the items, the value is neither this infinity nor the number that it is
cut to. -/
def Apart (v : Value) (items : List Value) : Prop :=
  ∀ negative, .number (.infinity negative) ∈ items →
    toNumber? (some v) ≠ some (.infinity negative) ∧
    toNumber? (some v) ≠ some (Datum.clamp (.infinity negative))

/-- Numbers other than zero are their own keys. -/
theorem toNumber?_of_key {v : Value} {x : Binary64} (hx : x.isZero = false)
    (h : key (some v) = .inl x.unsignedZero) : toNumber? (some v) = some x := by
  rw [toNumber?_eq_parse?]
  unfold key at h
  cases hread : Numeral.parse? (toText (some v)) with
  | none =>
    rw [hread] at h
    cases h
  | some y =>
    rw [hread] at h
    have hsame := (sameNumber_iff y x).mp ((sameNumber_iff_unsignedZero y x).mpr (Sum.inl.inj h))
    rcases hsame with rfl | ⟨-, hzero⟩
    · rfl
    · rw [hx] at hzero
      cases hzero

theorem isZero_clamp_infinity (negative : Bool) :
    (Datum.clamp (.infinity negative)).isZero = false := by
  cases negative <;> decide +kernel

/-- **Cutting an item does not change what it equals**, but for what is not apart from it. -/
theorem equals_settled {item v : Value} {items : List Value} (hitem : item ∈ items)
    (h : v.Apart items) : equals (some item.settled) (some v) = equals (some item) (some v) := by
  rcases item with s | _ | negative | ⟨negative, units, hr⟩
  · rfl
  · rfl
  · -- an infinity and what it is cut to are other numbers, and the value is none of the two
    obtain ⟨hinfinity, hcut⟩ := h negative hitem
    rw [Bool.eq_iff_iff, equals_iff, equals_iff]
    unfold settled
    rw [key_number, key_number]
    constructor
    · intro hkey
      exact absurd (toNumber?_of_key (isZero_clamp_infinity negative) hkey.symm) hcut
    · intro hkey
      exact absurd (toNumber?_of_key rfl hkey.symm) hinfinity
  · rfl

end Value

/-! ## Searching -/

theorem Call.holdsItem_values (v : Value) (items : List Value) :
    holdsItem (some v) (items.map .ofValue) =
      .ok (items.any fun item => Value.equals (some item) (some v)) := by
  induction items with
  | nil => rfl
  | cons item items ih =>
    have hitem : (Datum.ofValue item).toValue? = .ok (some item) := by cases item <;> rfl
    rw [List.map_cons]
    unfold holdsItem
    rw [hitem, ih, List.any_cons]
    show (if Value.equals (some item) (some v) then Except.ok true else Except.ok _) = _
    cases Value.equals (some item) (some v) <;> rfl

namespace Formula
open Evaluation

/-- The item of a list that a literal number asks for. -/
def item (i : Nat) (list : Formula) : Formula :=
  .node .function (some "LIST_ITEM") (.leaf .number (toString i)) list

section
variable {env : Environment} {list x : Formula} {items : List Value} {v : Value} {n : Nat}
  (hkind : list.kind? = some .userList)
  (hlist : env.getList? list.name = some (items.map .ofValue))
include hkind hlist

theorem gives_list : ∃ w, ∀ n, (list.evaluate env).Gives n w n :=
  exists_gives_list hkind fun items' hitems' d hd => by
    obtain rfl := Option.some.inj (hlist.symm.trans hitems')
    obtain ⟨v, -, rfl⟩ := List.mem_map.mp hd
    exact Datum.isPlain_ofValue v

/-- The search compares the items as they are stored. -/
theorem gives_contains (hx : x ≠ .empty) (hv : (x.evaluate env).Gives n v n) :
    ((node .function (some "CONTAINS") list x).evaluate env).Gives n
      (.ofBool (items.any fun item => Value.equals (some item) (some v))) n := by
  obtain ⟨w, hw⟩ := gives_list hkind hlist
  have hcall : Call.apply env .contains ⟨list, some w⟩ ⟨x, some v⟩ =
      pure (.ofValue (.ofBool (items.any fun item => Value.equals (some item) (some v)))) := by
    unfold Call.apply Call.applyText Argument.list?
    simp only [if_pos hkind, hlist, Option.getD_some, Call.holdsItem_values]
    rfl
  exact gives_function (by decide) (ne_empty_of_kind? hkind) hx (hw n) hv hcall
    (normalize_ofBool _)

theorem gives_numberOfItems (hlength : items.length < 2 ^ 31) (n : Nat) :
    ((node .function (some "NUMBER_OF_ITEMS") list .empty).evaluate env).Gives n
      (.number (.ofInt items.length)) n := by
  obtain ⟨w, hw⟩ := gives_list hkind hlist
  have hcall : Call.apply env .numberOfItems ⟨list, some w⟩ ⟨.empty, none⟩ =
      pure (.number (.ofInt items.length)) := by
    unfold Call.apply Call.applyText Call.itemCount Argument.list?
    simp only [if_pos hkind, hlist, Option.elim_some, List.length_map]
    rfl
  have hnormalize : (Datum.number (.ofInt items.length)).normalize =
      .ok (.number (.ofInt items.length)) := by
    rw [Binary64.ofInt_whole (Nat.lt_trans hlength (by decide))]
    rfl
  exact gives_function_one (by decide) (ne_empty_of_kind? hkind) (hw n) hcall hnormalize

/-- An item that is asked for is a result. -/
theorem gives_item (hlength : items.length < 2 ^ 31) {i : Nat} (hi : i < items.length) (n : Nat) :
    ((item (i + 1) list).evaluate env).Gives n items[i].settled n := by
  have hsmall : i + 1 < 2 ^ 31 := by omega
  have hwhole : (Value.text (toString (i + 1))).wholePart = (i + 1 : Nat) := by
    unfold Value.wholePart Value.toNumber?
    simp only [Numeral.parse?_toString (Nat.lt_trans hsmall (by decide : 2 ^ 31 < 2 ^ 53)),
      Option.map_some, Binary64.toInt32_whole hsmall, Option.getD_some]
  have helement : (elementAt? (some ((i + 1 : Nat) : Int)) (items.map .ofValue)).getD (.text "") =
      Datum.ofValue items[i] := by
    rw [elementAt?_of_pos (by omega), Int.toNat_natCast, Nat.add_sub_cancel, List.getElem?_map,
      List.getElem?_eq_getElem hi]
    rfl
  obtain ⟨w, hw⟩ := gives_list hkind hlist
  have hcall := Call.apply_listItem hkind hlist (.leaf .number (toString (i + 1)))
    (.text (toString (i + 1))) (some w)
  rw [hwhole, helement] at hcall
  exact gives_function (by decide) nofun (ne_empty_of_kind? hkind) rfl (hw n) hcall
    (Value.normalize_ofValue _)

theorem gives_equal_item (hlength : items.length < 2 ^ 31) (hx : x ≠ .empty)
    (hv : (x.evaluate env).Gives n v n) {i : Nat} (hi : i < items.length) :
    ((node .operator (some "EQUAL") (item (i + 1) list) x).evaluate env).Gives n
      (.ofBool (Value.equals (some items[i].settled) (some v))) n := by
  have hitem : item (i + 1) list ≠ .empty := by
    unfold item
    exact nofun
  rw [evaluate_test env rfl (fun _ _ => rfl) hitem hx]
  exact hv.bind ((gives_item hkind hlist hlength hi n).bind (gives_pure n _))

/-- One of the comparisons holds. -/
theorem exists_equal_item_iff (hlength : items.length < 2 ^ 31) (hx : x ≠ .empty)
    (hv : (x.evaluate env).Gives n v n) :
    (∃ i, 1 ≤ i ∧ i ≤ items.length ∧
      ((node .operator (some "EQUAL") (item i list) x).evaluate env).Gives n (.ofBool true) n) ↔
    ∃ w ∈ items, Value.equals (some w.settled) (some v) = true := by
  constructor
  · rintro ⟨i, hpos, hle, hequal⟩
    obtain ⟨j, rfl⟩ := Nat.exists_eq_add_of_le' hpos
    refine ⟨items[j], List.getElem_mem hle, ?_⟩
    have htrue := (gives_equal_item hkind hlist hlength hx hv hle).unique hequal
    by_contra hfalse
    rw [eq_false_of_ne_true hfalse] at htrue
    exact Value.ofBool_false_ne htrue
  · rintro ⟨w, hw, hequal⟩
    obtain ⟨j, hj, rfl⟩ := List.mem_iff_getElem.mp hw
    refine ⟨j + 1, Nat.succ_pos j, hj, ?_⟩
    rw [← hequal]
    exact gives_equal_item hkind hlist hlength hx hv hj

end

end Formula

/-- **A search finds what equals one of the items.**  Take a list of fewer than `2 ^ 31` items
and a formula that has a value without a draw; and where the list holds an infinity, let the value be
neither this infinity nor the number that it is cut to.  Then the list has its length as its number of
items, and holds the value exactly when one of the items, counted from one up to this number, equals
it. -/
theorem contains_iff_equal (env : Environment) (list x : Formula) (items : List Value) (v : Value)
    (n : Nat) (hkind : list.kind? = some .userList)
    (hlist : env.getList? list.name = some (items.map .ofValue)) (hlength : items.length < 2 ^ 31)
    (hx : x ≠ .empty) (hv : (x.evaluate env).Gives n v n) (hapart : v.Apart items) :
    ((Formula.node .function (some "NUMBER_OF_ITEMS") list .empty).evaluate env).Gives n
      (.number (.ofInt items.length)) n ∧
    ∃ b, ((Formula.node .function (some "CONTAINS") list x).evaluate env).Gives n (.ofBool b) n ∧
      (b = true ↔ ∃ i, 1 ≤ i ∧ i ≤ items.length ∧
        ((Formula.node .operator (some "EQUAL") (Formula.item i list) x).evaluate env).Gives n
          (.ofBool true) n) := by
  refine ⟨Formula.gives_numberOfItems hkind hlist hlength n, _,
    Formula.gives_contains hkind hlist hx hv, ?_⟩
  rw [Formula.exists_equal_item_iff hkind hlist hlength hx hv, List.any_eq_true]
  refine exists_congr fun w => and_congr_right fun hw => ?_
  rw [Value.equals_settled hw hapart]

/-- The depths of three wells, one of them without a bottom. -/
def wellDepths : List Value := [.number (.ofInt 40), .number (.infinity false), .text "dry"]

def wells : Environment :=
  { Environment.bare {} (fun _ => .zero) with
    store := ⟨fun _ _ => .absent, fun _ _ => some (wellDepths.map .ofValue)⟩ }

theorem contains_iff_equal_wells :
    Value.Apart (.text "4e1") wellDepths ∧
    ((Formula.node .function (some "NUMBER_OF_ITEMS") (.leaf .userList "wells") .empty).evaluate
      wells).Gives 0 (.number (.ofInt 3)) 0 ∧
    ((Formula.node .operator (some "EQUAL") (Formula.item 1 (.leaf .userList "wells"))
      (.leaf .string "4e1")).evaluate wells).Gives 0 (.ofBool true) 0 ∧
    ((Formula.node .function (some "CONTAINS") (.leaf .userList "wells")
      (.leaf .string "4e1")).evaluate wells).Gives 0 (.ofBool true) 0 := by
  have hapart : Value.Apart (.text "4e1") wellDepths := by
    intro negative _
    cases negative <;> decide +kernel
  have hlist : wells.getList? (Formula.leaf .userList "wells").name =
      some (wellDepths.map .ofValue) := rfl
  have hv : ((Formula.leaf .string "4e1").evaluate wells).Gives 0 (.text "4e1") 0 := rfl
  have hlength : wellDepths.length < 2 ^ 31 := by decide
  have hx : Formula.leaf .string "4e1" ≠ .empty := nofun
  have hfirst : ((Formula.node .operator (some "EQUAL") (Formula.item 1 (.leaf .userList "wells"))
      (.leaf .string "4e1")).evaluate wells).Gives 0 (.ofBool true) 0 := by
    have hequal : Value.equals (some wellDepths[0].settled) (some (.text "4e1")) = true := by
      decide +kernel
    rw [← hequal]
    exact Formula.gives_equal_item rfl hlist hlength hx hv _
  obtain ⟨hcount, b, hgives, hb⟩ := contains_iff_equal wells (.leaf .userList "wells")
    (.leaf .string "4e1") wellDepths (.text "4e1") 0 rfl hlist hlength hx hv hapart
  obtain rfl : b = true := hb.mpr ⟨1, Nat.le_refl 1, by decide, hfirst⟩
  exact ⟨hapart, hcount, hfirst, hgives⟩

/-- **Infinities are found, but do not equal the items that are asked for**: the list with an infinity
holds it, and no item of the list equals it. -/
theorem contains_infinity_wells :
    ((Formula.node .function (some "NUMBER_OF_ITEMS") (.leaf .userList "wells") .empty).evaluate
      wells).Gives 0 (.number (.ofInt 3)) 0 ∧
    ((Formula.leaf .string "Infinity").evaluate wells).Gives 0 (.text "Infinity") 0 ∧
    ((Formula.node .function (some "CONTAINS") (.leaf .userList "wells")
      (.leaf .string "Infinity")).evaluate wells).Gives 0 (.ofBool true) 0 ∧
    ¬ ∃ i, 1 ≤ i ∧ i ≤ 3 ∧
      ((Formula.node .operator (some "EQUAL") (Formula.item i (.leaf .userList "wells"))
        (.leaf .string "Infinity")).evaluate wells).Gives 0 (.ofBool true) 0 := by
  have hlist : wells.getList? (Formula.leaf .userList "wells").name =
      some (wellDepths.map .ofValue) := rfl
  have hv : ((Formula.leaf .string "Infinity").evaluate wells).Gives 0 (.text "Infinity") 0 := rfl
  have hfound : (wellDepths.any fun item =>
      Value.equals (some item) (some (.text "Infinity"))) = true := by decide +kernel
  have hnone : ¬ ∃ w ∈ wellDepths, Value.equals (some w.settled) (some (.text "Infinity")) = true := by
    decide +kernel
  have hlength : wellDepths.length < 2 ^ 31 := by decide
  have hx : Formula.leaf .string "Infinity" ≠ .empty := nofun
  refine ⟨Formula.gives_numberOfItems rfl hlist hlength 0, hv, ?_, ?_⟩
  · rw [← hfound]
    exact Formula.gives_contains rfl hlist hx hv
  · exact mt (Formula.exists_equal_item_iff rfl hlist hlength hx hv).mp hnone

end BrickFormula
