import BrickFormula.Proofs.Binary64.WholeParts
import BrickFormula.Proofs.Evaluation.Answers
import BrickFormula.Proofs.Evaluation.Operands

/-!
# Places

Characters of texts and items of lists are counted from one.  The place that a value asks for is its
number cut toward zero; there is no place before the first element, and none behind the last.  It is
limited to 32 bits before one is taken off, which does not show as long as there are fewer elements
than that.

    Value.place?             the place that a value asks for
    elementAt?               the element at a place
    elementAt?_wholePart     limiting a place to 32 bits does not show
    elements_from_one        characters and items, as functions and in formulas
-/

namespace BrickFormula

/-! ## Places -/

/-- The number that a value is or writes, cut toward zero.  Not-a-number and texts that are no
numerals count as zero, and infinities lie beyond all places. -/
def Value.place? (v : Value) : Option Int :=
  match toNumber? (some v) with
  | none | some .nan => some 0
  | some (.infinity _) => none
  | some (.finite negative units _) =>
    some ((Binary64.signed negative units).tdiv unitsPerOne)

/-- The element at a place, counted from one. -/
def elementAt? {α : Type} (place : Option Int) (elements : List α) : Option α :=
  match place with
  | none => none
  | some k => if 1 ≤ k ∧ k ≤ elements.length then elements[k.toNat - 1]? else none

section
variable {α : Type} {elements : List α}

theorem elementAt?_of_pos {k : Int} (h : 1 ≤ k) :
    elementAt? (some k) elements = elements[k.toNat - 1]? := by
  unfold elementAt?
  simp only
  split
  · rfl
  · exact (List.getElem?_eq_none (by omega)).symm

theorem elementAt?_of_nonpos {k : Int} (h : k < 1) : elementAt? (some k) elements = none :=
  if_neg fun hk => absurd hk.1 (Int.not_le.mpr h)

theorem elementAt?_of_length_lt {k : Int} (h : (elements.length : Int) < k) :
    elementAt? (some k) elements = none :=
  if_neg fun hk => absurd hk.2 (Int.not_le.mpr h)

theorem lt_greatestInt32 {n : Nat} (h : n ≤ 2 ^ 31 - 2) : (n : Int) < Binary64.greatestInt32 := by
  have hgreatest : Binary64.greatestInt32 = 2147483647 := rfl
  omega

/-- Limiting a place to the 32-bit range does not change the element. -/
theorem elementAt?_limit (h : (elements.length : Int) < Binary64.greatestInt32) (k : Int) :
    elementAt? (some (max Binary64.leastInt32 (min Binary64.greatestInt32 k))) elements =
      elementAt? (some k) elements := by
  have hgreatest : Binary64.greatestInt32 = 2147483647 := rfl
  have hleast : Binary64.leastInt32 = -2147483648 := rfl
  rcases Int.lt_or_le k 1 with hk | hk
  · rw [elementAt?_of_nonpos hk, elementAt?_of_nonpos (by omega)]
  · rcases Int.lt_or_le Binary64.greatestInt32 k with hlarge | hle
    · -- the greatest place that is left lies behind the last element, too
      rw [elementAt?_of_length_lt (Int.lt_trans h hlarge), elementAt?_of_length_lt (by omega)]
    · have hsame : max Binary64.leastInt32 (min Binary64.greatestInt32 k) = k := by omega
      rw [hsame]

/-- The whole part of the number of a value, limited to 32 bits. -/
def Value.wholePart (v : Value) : Int := ((toNumber? (some v)).map Binary64.toInt32).getD 0

/-- **Limiting a place to 32 bits does not show.** -/
theorem elementAt?_wholePart (h : (elements.length : Int) < Binary64.greatestInt32) (v : Value) :
    elementAt? (some v.wholePart) elements = elementAt? v.place? elements := by
  unfold Value.wholePart Value.place?
  rcases Value.toNumber? (some v) with _ | _ | negative | ⟨negative, units, hr⟩
  · rfl
  · rfl
  · show elementAt? (some (Binary64.infinity negative).toInt32) elements = none
    cases negative with
    | false => exact elementAt?_of_length_lt h
    | true => exact elementAt?_of_nonpos (by decide)
  · show elementAt? (some (max _ (min _ (Binary64.finite negative units hr).truncate))) elements = _
    rw [elementAt?_limit h, Binary64.truncate_finite]

theorem index?_eq (t : Formula) (v : Value) :
    (Argument.mk t (some v)).index? = some (v.wholePart - 1) := by
  cases v <;> rfl

/-- What functions find with an index that counts from zero. -/
theorem getElem?_index? (t : Formula) (v : Value) :
    (match (Argument.mk t (some v)).index? with
      | some (.ofNat n) => elements[n]?
      | _ => none) = elementAt? (some v.wholePart) elements := by
  rw [index?_eq]
  cases hindex : v.wholePart - 1 with
  | ofNat n =>
    rw [Int.ofNat_eq_natCast] at hindex
    have hn : v.wholePart.toNat - 1 = n := by omega
    rw [elementAt?_of_pos (by omega), hn]
  | negSucc n =>
    have hneg : v.wholePart - 1 < 0 := hindex ▸ Int.negSucc_lt_zero n
    exact (elementAt?_of_nonpos (by omega)).symm

theorem mem_of_elementAt? {place : Option Int} {a : α} (h : elementAt? place elements = some a) :
    a ∈ elements := by
  cases place with
  | none => cases h
  | some k =>
    unfold elementAt? at h
    simp only at h
    split at h
    · exact List.mem_of_getElem? h
    · cases h

end

/-- The character of a text or number at the place that a value asks for, or nothing. -/
def letterAt (v s : Value) : String :=
  (elementAt? v.place? (Value.toText (some s)).toList).elim "" Char.toString

/-! ## Functions -/

namespace Call
variable {env : Environment} {list : Formula} {items : List Datum}

theorem apply_letter {v s : Value} (h : (Value.toText (some s)).length ≤ 2 ^ 31 - 2)
    (t r : Formula) :
    apply env .letter ⟨t, some v⟩ ⟨r, some s⟩ = pure (.text (letterAt v s)) := by
  have hlength : ((Value.toText (some s)).toList.length : Int) < Binary64.greatestInt32 := by
    rw [String.length_toList]
    exact lt_greatestInt32 h
  have hletter : letter ⟨t, some v⟩ ⟨r, some s⟩ = letterAt v s := by
    unfold letterAt letter
    rw [← elementAt?_wholePart hlength, ← getElem?_index? t v]
    rcases (Argument.mk t (some v)).index? with _ | n | n <;> rfl
  rw [← hletter]
  rfl

/-- The item at the place, which is limited to 32 bits, or an empty text. -/
theorem apply_listItem (hkind : list.kind? = some .userList)
    (hlist : env.getList? list.name = some items) (t : Formula) (v : Value) (w : Option Value) :
    apply env .listItem ⟨t, some v⟩ ⟨list, w⟩ =
      pure ((elementAt? (some v.wholePart) items).getD (.text "")) := by
  have hitem : listItem env ⟨t, some v⟩ ⟨list, w⟩ =
      (elementAt? (some v.wholePart) items).getD (.text "") := by
    unfold listItem Argument.list?
    rw [← getElem?_index? t v, if_pos hkind, hlist]
    rcases (Argument.mk t (some v)).index? with _ | n | n <;> rfl
  rw [← hitem]
  rfl

theorem apply_listItem_unbound (hlist : env.getList? list.name = none) (a : Argument)
    (w : Option Value) : apply env .listItem a ⟨list, w⟩ = pure (.text "") := by
  have hitem : listItem env a ⟨list, w⟩ = .text "" := by
    unfold listItem Argument.list?
    rw [hlist, ite_self]
  rw [← hitem]
  rfl

end Call

/-! ## Formulas -/

namespace Formula
open Evaluation
variable {env : Environment}

theorem ne_empty_of_kind? {t : Formula} {kind : Kind} (h : t.kind? = some kind) : t ≠ .empty := by
  rintro rfl
  cases h

/-- A list has a value of its own, without a draw. -/
theorem exists_gives_list {list : Formula} (hkind : list.kind? = some .userList)
    (hplain : ∀ items, env.getList? list.name = some items → ∀ d ∈ items, d.IsPlain) :
    ∃ w, ∀ n, (list.evaluate env).Gives n w n := by
  cases list with
  | empty => cases hkind
  | node kind text left right =>
    obtain rfl : kind = .userList := Option.some.inj hkind
    obtain ⟨d, hread, hd⟩ := Environment.readList_ok hplain
    obtain ⟨w, hw, -⟩ := hd.normalize
    exact ⟨w, gives_leaf (by decide) (by simp) (by simp) hread hw⟩

variable {left right list : Formula} {v s : Value} {n m k : Nat}

theorem letter_gives (hl : left ≠ .empty) (hr : right ≠ .empty)
    (h : (Value.toText (some s)).length ≤ 2 ^ 31 - 2) (hleft : (left.evaluate env).Gives n v m)
    (hright : (right.evaluate env).Gives m s k) :
    ((node .function (some "LETTER") left right).evaluate env).Gives n (.text (letterAt v s)) k :=
  gives_function (by decide) hl hr hleft hright (Call.apply_letter h left right) rfl

theorem listItem_gives (hl : left ≠ .empty) (hkind : list.kind? = some .userList)
    {items : List Datum} (hlist : env.getList? list.name = some items)
    (hplain : ∀ d ∈ items, d.IsPlain) (hleft : (left.evaluate env).Gives n v m) :
    ∃ w, ((elementAt? (some v.wholePart) items).getD (.text "")).normalize = .ok w ∧
      ((node .function (some "LIST_ITEM") left list).evaluate env).Gives n w m := by
  have hitem : ((elementAt? (some v.wholePart) items).getD (.text "")).IsPlain := by
    cases helement : elementAt? (some v.wholePart) items with
    | none => exact Datum.isPlain_text ""
    | some d => exact hplain d (mem_of_elementAt? helement)
  obtain ⟨w, hw, -⟩ := hitem.normalize
  obtain ⟨u, hu⟩ := exists_gives_list hkind fun items' hitems' => by
    obtain rfl := Option.some.inj (hlist.symm.trans hitems')
    exact hplain
  exact ⟨w, hw, gives_function (by decide) hl (ne_empty_of_kind? hkind) hleft (hu m)
    (Call.apply_listItem hkind hlist left v (some u)) hw⟩

theorem listItem_gives_unbound (hl : left ≠ .empty) (hkind : list.kind? = some .userList)
    (hlist : env.getList? list.name = none) (hleft : (left.evaluate env).Gives n v m) :
    ((node .function (some "LIST_ITEM") left list).evaluate env).Gives n (.text "") m := by
  obtain ⟨u, hu⟩ := exists_gives_list hkind fun items hitems => by
    rw [hlist] at hitems
    cases hitems
  exact gives_function (by decide) hl (ne_empty_of_kind? hkind) hleft (hu m)
    (Call.apply_listItem_unbound hlist _ (some u)) rfl

end Formula

/-- **Characters and items are counted from one.**  Take an index with any value, and let its place be
the number of the value, cut toward zero.  Of a text or number with at most `2 ^ 31 - 2` characters,
the result is the character at the place; of a list with at most as many items, it is the item at the
place, with infinities cut as in every result.  Where there is none, or no such list, it is empty. -/
theorem elements_from_one (env : Environment) (left : Formula) (v : Value) :
    (∀ (right : Formula) (s : Value), (Value.toText (some s)).length ≤ 2 ^ 31 - 2 →
      Call.apply env .letter ⟨left, some v⟩ ⟨right, some s⟩ = pure (.text (letterAt v s)) ∧
      (left ≠ .empty → right ≠ .empty → ∀ n m k, (left.evaluate env).Gives n v m →
        (right.evaluate env).Gives m s k →
        ((Formula.node .function (some "LETTER") left right).evaluate env).Gives n
          (.text (letterAt v s)) k)) ∧
    (∀ (list : Formula) (items : List Datum), list.kind? = some .userList →
      env.getList? list.name = some items → items.length ≤ 2 ^ 31 - 2 →
      (∀ w, Call.apply env .listItem ⟨left, some v⟩ ⟨list, w⟩ =
        pure ((elementAt? v.place? items).getD (.text ""))) ∧
      (left ≠ .empty → (∀ d ∈ items, d.IsPlain) → ∀ n m, (left.evaluate env).Gives n v m →
        ∃ w, ((elementAt? v.place? items).getD (.text "")).normalize = .ok w ∧
          ((Formula.node .function (some "LIST_ITEM") left list).evaluate env).Gives n w m)) ∧
    (∀ list : Formula, list.kind? = some .userList → env.getList? list.name = none →
      (∀ w, Call.apply env .listItem ⟨left, some v⟩ ⟨list, w⟩ = pure (.text "")) ∧
      (left ≠ .empty → ∀ n m, (left.evaluate env).Gives n v m →
        ((Formula.node .function (some "LIST_ITEM") left list).evaluate env).Gives n
          (.text "") m)) := by
  refine ⟨fun right s h => ?_, fun list items hkind hlist h => ?_, fun list hkind hlist => ?_⟩
  · exact ⟨Call.apply_letter h left right, fun hl hr n m k => Formula.letter_gives hl hr h⟩
  · rw [← elementAt?_wholePart (lt_greatestInt32 h) v]
    exact ⟨Call.apply_listItem hkind hlist left v, fun hl hplain n m =>
      Formula.listItem_gives hl hkind hlist hplain⟩
  · exact ⟨Call.apply_listItem_unbound hlist _, fun hl n m =>
      Formula.listItem_gives_unbound hl hkind hlist⟩

/-- Two items, the second of them infinite. -/
def shelfItems : List Datum := [.text "jam", .number (.infinity true)]

/-- A shelf with these items. -/
def shelf : Environment :=
  { Environment.bare {} (fun _ => .zero) with
    store := ⟨fun _ _ => .absent, fun name _ => if name = "shelf" then some shelfItems else none⟩ }

theorem elements_from_one_shelf :
    Call.apply shelf .letter ⟨.empty, some (.number (.infinity false))⟩
      ⟨.empty, some (.text "jam")⟩ = pure (.text "") ∧
    ((Formula.node .function (some "LETTER") (.leaf .string " 2.9f ") (.leaf .string "jam")).evaluate
      shelf).Gives 0 (.text "a") 0 ∧
    (∃ w, (Datum.number (.infinity true)).normalize = .ok w ∧
      ((Formula.node .function (some "LIST_ITEM") (.leaf .number "2.9")
        (.leaf .userList "shelf")).evaluate shelf).Gives 0 w 0) ∧
    ((Formula.node .function (some "LIST_ITEM") (.leaf .number "1")
      (.leaf .userList "attic")).evaluate shelf).Gives 0 (.text "") 0 := by
  have hplain : ∀ d ∈ shelfItems, d.IsPlain := by
    simp [shelfItems, Datum.isPlain_text, Datum.isPlain_number]
  have hbeyond : letterAt (.number (.infinity false)) (.text "jam") = "" := by decide +kernel
  have hsecond : letterAt (.text " 2.9f ") (.text "jam") = "a" := by decide +kernel
  have hitem : (elementAt? (Value.text "2.9").place? shelfItems).getD (.text "") =
      .number (.infinity true) := by decide +kernel
  refine ⟨?_, ?_, ?_, ?_⟩
  · have h := ((elements_from_one shelf .empty (.number (.infinity false))).1 .empty (.text "jam")
      (by decide)).1
    rwa [hbeyond] at h
  · have h := ((elements_from_one shelf (.leaf .string " 2.9f ") (.text " 2.9f ")).1
      (.leaf .string "jam") (.text "jam") (by decide)).2 nofun nofun 0 0 0 rfl rfl
    rwa [hsecond] at h
  · have h := ((elements_from_one shelf (.leaf .number "2.9") (.text "2.9")).2.1
      (.leaf .userList "shelf") shelfItems rfl rfl (by decide)).2 nofun hplain 0 0 rfl
    rwa [hitem] at h
  · exact ((elements_from_one shelf (.leaf .number "1") (.text "1")).2.2
      (.leaf .userList "attic") rfl rfl).2 nofun 0 0 rfl

end BrickFormula
