import BrickFormula.Toml.Display

/-!
# Values that are shown

A value is shown just if no integer in it has more than 4300 digits, however deep it lies.

    HasLongInteger v       such an integer is in `v`
    display?_eq_none_iff   then a message cannot show `v`, and only then
-/

namespace BrickFormula.Toml

/-- There is an integer of more than 4300 digits in the value. -/
inductive HasLongInteger : Toml → Prop where
  | integer {n : Int} : Nat.pow 10 maxDigits ≤ n.natAbs → HasLongInteger (.integer n)
  | item {item : Toml} {items : List Toml} :
      item ∈ items → HasLongInteger item → HasLongInteger (.array items)
  | entry {key : String} {value : Toml} {entries : Entries} :
      (key, value) ∈ entries → HasLongInteger value → HasLongInteger (.table entries)

theorem lt_length_toString_iff {n digits : Nat} (hpos : 0 < digits) :
    digits < (toString n).length ↔ Nat.pow 10 digits ≤ n :=
  calc digits < (toString n).length
      ↔ ¬ (toString n).length ≤ digits := Nat.not_le.symm
    _ ↔ ¬ n < Nat.pow 10 digits := not_congr (Nat.length_repr_le_iff hpos)
    _ ↔ Nat.pow 10 digits ≤ n := Nat.not_lt

-- by induction on the value, with its items and entries
mutual

theorem display?_eq_none_iff : (v : Toml) → (v.display? = none ↔ v.HasLongInteger)
  | .text _ | .real _ | .truth _ | .date _ | .time _ | .moment _ _ _ => ⟨nofun, nofun⟩
  | .integer n => by
    have hpos : 0 < maxDigits := by decide
    rw [display?, ite_eq_left_iff, lt_length_toString_iff hpos]
    constructor
    · intro h
      exact .integer (Decidable.not_not.mp fun hfew => nomatch h hfew)
    · rintro ⟨hn⟩ hfew
      exact absurd hn hfew
  | .array items => by
    rw [display?, Option.map_eq_none_iff, displayItems?_eq_none_iff]
    constructor
    · rintro ⟨item, hmem, hitem⟩
      exact .item hmem hitem
    · rintro (_ | ⟨hmem, hitem⟩)
      exact ⟨_, hmem, hitem⟩
  | .table entries => by
    rw [display?, Option.map_eq_none_iff, displayEntries?_eq_none_iff]
    constructor
    · rintro ⟨⟨key, value⟩, hmem, hvalue⟩
      exact .entry hmem hvalue
    · rintro (_ | _ | ⟨hmem, hvalue⟩)
      exact ⟨_, hmem, hvalue⟩

theorem displayItems?_eq_none_iff :
    (items : List Toml) → (displayItems? items = none ↔ ∃ item ∈ items, item.HasLongInteger)
  | [] => by simp [displayItems?]
  | item :: rest => by
    simp only [List.mem_cons, exists_eq_or_imp]
    rw [← display?_eq_none_iff item, ← displayItems?_eq_none_iff rest, displayItems?]
    cases item.display? <;> cases displayItems? rest <;> simp

theorem displayEntries?_eq_none_iff : (entries : Entries) →
    (displayEntries? entries = none ↔ ∃ entry ∈ entries, entry.2.HasLongInteger)
  | [] => by simp [displayEntries?]
  | (key, value) :: rest => by
    simp only [List.mem_cons, exists_eq_or_imp]
    rw [← display?_eq_none_iff value, ← displayEntries?_eq_none_iff rest, displayEntries?]
    cases value.display? <;> cases displayEntries? rest <;> simp

end

end BrickFormula.Toml
