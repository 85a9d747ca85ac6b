import BrickFormula.Proofs.Binary64.WholeParts
import BrickFormula.Proofs.Evaluation.Operands
import BrickFormula.Proofs.Numeral.Display
import BrickFormula.Proofs.Numeral.Grammar

/-!
# Lists on display

A list of several items shows their texts in a row: numbers with their whole part only, limited to 32
bits, and texts without a final `.0`.  The row is trimmed, and there are blanks between the texts unless
each of them is a single character at most.

    IsItemText item s    the text of an item among others
    IsTrimmed s t        `t` is what is left of `s` without the blanks at both ends
    joinItems_values     the row of the texts
    list_shown           the value of a list of several items
-/

namespace BrickFormula

/-! ## Texts of the items -/

/-- **The text of an item among others**: the whole part of a number, limited to 32 bits, and a text
without a final `.0`. -/
inductive IsItemText : Value → String → Prop where
  | number {x : Binary64} {v : ℚ} {n : Int} (hx : x.Denotes v) (hn : Binary64.IsWholePart v n) :
    IsItemText (.number x) (toString (max (-2 ^ 31) (min (2 ^ 31 - 1) n)))
  | cut (start : String) : IsItemText (.text (start ++ ".0")) start
  | kept {s : String} (h : ∀ start, s ≠ start ++ ".0") : IsItemText (.text s) s

/-- The text without the blanks at both ends. -/
def IsTrimmed (s t : String) : Prop :=
  (∃ before after : String, s = before ++ t ++ after ∧
    (∀ c ∈ before.toList, c.toNat ≤ 0x20) ∧ ∀ c ∈ after.toList, c.toNat ≤ 0x20) ∧
  (∀ c ∈ t.toList.head?, 0x20 < c.toNat) ∧ ∀ c ∈ t.toList.getLast?, 0x20 < c.toNat

namespace Numeral

theorem isBlank_eq_false_iff {c : Char} : isBlank c = false ↔ 0x20 < c.toNat := by
  rw [← Bool.not_eq_true, isBlank_iff, Nat.not_le]

theorem head_trimChars {text : List Char} : ∀ c ∈ (trimChars text).head?, isBlank c = false := by
  have hprefix : trimChars text <+: text.dropWhile isBlank := by
    rw [← List.reverse_suffix, trimChars, List.reverse_reverse]
    exact List.dropWhile_suffix _
  have hhead := List.head?_dropWhile_not isBlank text
  obtain ⟨after, hafter⟩ := hprefix
  rw [← hafter] at hhead
  intro c hc
  rw [List.head?_append_of_ne_nil _ (List.ne_nil_of_mem (List.mem_of_mem_head? hc)), hc] at hhead
  exact hhead

theorem getLast_trimChars {text : List Char} :
    ∀ c ∈ (trimChars text).getLast?, isBlank c = false := by
  have hhead := List.head?_dropWhile_not isBlank (text.dropWhile isBlank).reverse
  intro c hc
  rw [trimChars, List.getLast?_reverse] at hc
  rw [hc] at hhead
  exact hhead

theorem isTrimmed_trim (s : String) : IsTrimmed s (trim s) := by
  obtain ⟨before, after, htext, hbefore, hafter⟩ := exists_trimChars s.toList
  unfold IsTrimmed trim
  rw [String.toList_ofList]
  refine ⟨⟨.ofList before, .ofList after, ?_, ?_, ?_⟩,
    fun c hc => isBlank_eq_false_iff.mp (head_trimChars c hc),
    fun c hc => isBlank_eq_false_iff.mp (getLast_trimChars c hc)⟩
  · rw [← String.ofList_append, ← String.ofList_append, ← htext, String.ofList_toList]
  · rwa [String.toList_ofList]
  · rwa [String.toList_ofList]

end Numeral

/-! ## The row of texts -/

namespace Environment
open Numeral

/-- What the text of an item is among others. -/
def itemText : Value → String
  | .number x => toString x.toInt32
  | .text s => stripTrailingZero s

theorem itemText?_ofValue (v : Value) : itemText? (.ofValue v) = .ok (some (itemText v)) := by
  cases v <;> rfl

theorem filterMapM_itemText? (items : List Value) :
    (items.map Datum.ofValue).filterMapM itemText? = .ok (items.map itemText) := by
  suffices hloop : ∀ collected, List.filterMapM.loop itemText? (items.map Datum.ofValue) collected =
      .ok (collected.reverse ++ items.map itemText) from hloop []
  induction items with
  | nil => exact fun collected => congrArg Except.ok (List.append_nil _).symm
  | cons item items ih =>
    intro collected
    rw [List.map_cons, List.map_cons, List.filterMapM.loop, itemText?_ofValue]
    refine (ih (itemText item :: collected)).trans ?_
    rw [List.reverse_cons, List.append_assoc, List.singleton_append]

/-- Texts and finite numbers have the text of an item. -/
theorem isItemText_itemText {v : Value} (h : ∀ x, v = .number x → x.isFinite = true) :
    IsItemText v (itemText v) := by
  cases v with
  | number x =>
    obtain ⟨value, hvalue, hpart⟩ := Binary64.exists_isWholePart (h x rfl)
    show IsItemText _ (toString x.toInt32)
    rw [Binary64.toInt32_of_isFinite (h x rfl)]
    exact .number hvalue hpart
  | text s =>
    show IsItemText _ (stripTrailingZero s)
    rcases stripTrailingZero_spec s with ⟨start, rfl, hcut⟩ | ⟨hkept, hsame⟩
    · rw [hcut]
      exact .cut start
    · rw [hsame]
      exact .kept hkept

/-- The text of an item has no `.0` left to lose, unless the item ended in two of them. -/
theorem stripTrailingZero_itemText {v : Value} (h : ∀ start, v ≠ .text (start ++ ".0.0")) :
    stripTrailingZero (itemText v) = itemText v := by
  cases v with
  | number x => exact stripTrailingZero_toString x.toInt32
  | text s =>
    show stripTrailingZero (stripTrailingZero s) = stripTrailingZero s
    rcases stripTrailingZero_spec s with ⟨start, rfl, hcut⟩ | ⟨-, hsame⟩
    · rw [hcut]
      refine (stripTrailingZero_spec start).elim (fun ⟨first, hfirst, _⟩ => ?_) And.right
      refine absurd ?_ (h first)
      rw [hfirst, String.append_assoc]
      rfl
    · rw [hsame, hsame]

/-- What stands between the texts of a row. -/
def separator (texts : List String) : String := if ∀ s ∈ texts, s.length ≤ 1 then "" else " "

/-- **The row of the texts of the items.** -/
theorem joinItems_values (items : List Value) :
    joinItems (items.map Datum.ofValue) = .ok (trim ((separator (items.map itemText)).intercalate
      ((items.map itemText).map stripTrailingZero))) := by
  have hseparator (texts : List String) :
      (if texts.all (·.length ≤ 1) then "" else " ") = separator texts := by
    unfold separator
    simp only [List.all_eq_true, decide_eq_true_eq]
  unfold joinItems
  rw [filterMapM_itemText?]
  simp only [← hseparator]
  rfl

theorem readList_several {env : Environment} {name : String} {items : List Datum}
    (h : 2 ≤ items.length) (hlist : env.getList? name = some items) :
    env.readList name = (joinItems items).map .text := by
  unfold readList
  rw [hlist]
  match items, h with
  | _ :: _ :: _, _ => rfl

end Environment

/-! ## The value of a list -/

namespace Formula
open Environment

/-- **What a list of several items shows.**  Every item has its text, and the value of the list is a
text: the row of the texts of the items, trimmed, with blanks between them if one of them has more than
one character.  Of items that end in `.0.0` nothing is said about the row: a text loses a final `.0` as
the text of the item and once more as a part of the row, so that these would lose both. -/
theorem list_shown {env : Environment} {text : Option String} {items : List Value}
    (hseveral : 2 ≤ items.length) (hfinite : ∀ x, .number x ∈ items → x.isFinite = true)
    (hlist : env.getList? (text.getD "") = some (items.map Datum.ofValue)) (left right : Formula)
    (n : Nat) :
    ∃ texts shown, List.Forall₂ IsItemText items texts ∧
      ((node .userList text left right).evaluate env).Gives n (.text shown) n ∧
      ((∀ start, .text (start ++ ".0.0") ∉ items) →
        IsTrimmed ((if ∀ s ∈ texts, s.length ≤ 1 then "" else " ").intercalate texts) shown) := by
  have hleaf : leafDatum env .userList text = .ok (.text (Numeral.trim
      ((separator (items.map itemText)).intercalate
        ((items.map itemText).map Numeral.stripTrailingZero)))) := by
    show env.readList (text.getD "") = _
    rw [readList_several (by rwa [List.length_map]) hlist, joinItems_values]
    rfl
  have hgives : ((node .userList text left right).evaluate env).Gives n _ n :=
    gives_leaf (by decide) (by simp) (by simp) hleaf rfl n
  refine ⟨items.map itemText, _, ?_, hgives, fun hzeros => ?_⟩
  · rw [List.forall₂_map_right_iff, List.forall₂_same]
    rintro v hv
    exact isItemText_itemText fun x heq => hfinite x (heq ▸ hv)
  · have hstrip : (items.map itemText).map Numeral.stripTrailingZero = items.map itemText := by
      rw [List.map_map]
      exact List.map_congr_left fun v hv =>
        stripTrailingZero_itemText fun start heq => hzeros start (heq ▸ hv)
    rw [hstrip]
    exact Numeral.isTrimmed_trim _

/-- A project with one list. -/
def withList (items : List Value) : Environment :=
  { Environment.bare {} (fun _ => .zero) with
    store := ⟨fun _ _ => .absent, fun _ _ => some (items.map Datum.ofValue)⟩ }

/-- Of minus three and a half the whole part shows. -/
def pantry : List Value := [.text " jam.0", .number (.ofRatio (-7) 2)]

theorem list_shown_pantry :
    ∃ texts shown, List.Forall₂ IsItemText pantry texts ∧
      ((leaf .userList "pantry").evaluate (withList pantry)).Gives 0 (.text shown) 0 ∧
      IsTrimmed ((if ∀ s ∈ texts, s.length ≤ 1 then "" else " ").intercalate texts) shown := by
  have hfinite : ∀ x, .number x ∈ pantry → x.isFinite = true := by
    intro x hx
    simp only [pantry, List.mem_cons, List.not_mem_nil, reduceCtorEq, Value.number.injEq, false_or,
      or_false] at hx
    rw [hx]
    decide +kernel
  have hzeros : ∀ start, .text (start ++ ".0.0") ∉ pantry := by
    intro start hmem
    simp only [pantry, List.mem_cons, List.not_mem_nil, reduceCtorEq, Value.text.injEq,
      or_false] at hmem
    have hlast := congrArg (fun s : String => s.toList.reverse[2]?) hmem
    simp [String.toList_append] at hlast
  have hlist : (withList pantry).getList? ((some "pantry").getD "") =
      some (pantry.map Datum.ofValue) := rfl
  obtain ⟨texts, shown, htexts, hgives, hrow⟩ :=
    list_shown (by decide) hfinite hlist .empty .empty 0
  exact ⟨texts, shown, htexts, hgives, hrow hzeros⟩

/-- A number beyond the 32-bit range does not show its whole part. -/
theorem list_beyondRange :
    (Binary64.ofInt 10000000000).Denotes (10000000000 : Int) ∧
      Binary64.IsWholePart (10000000000 : Int) 10000000000 ∧
      (((leaf .userList "crate").evaluate
        (withList [.number (.ofInt 10000000000), .text "x"])).run.run 0).1 =
          .ok (.text "2147483647 x") ∧
      ¬ IsTrimmed "10000000000 x" "2147483647 x" := by
  refine ⟨Binary64.denotes_whole (Binary64.liesAt_ofInt (by decide)), ?_, by decide +kernel, ?_⟩
  · norm_num [Binary64.IsWholePart]
  · rintro ⟨⟨before, after, heq, hbefore, -⟩, -⟩
    rw [← String.toList_inj, String.toList_append, String.toList_append] at heq
    cases hchars : before.toList with
    | nil =>
      rw [hchars] at heq
      have hhead : '1' = '2' := Option.some.inj (congrArg List.head? heq)
      exact absurd hhead (by decide)
    | cons c blanks =>
      rw [hchars] at heq hbefore
      have hc : '1' = c := Option.some.inj (congrArg List.head? heq)
      exact absurd (hbefore c List.mem_cons_self) (by rw [← hc]; decide)

end Formula

end BrickFormula
