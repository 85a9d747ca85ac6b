import BrickFormula.Json.Reader
import BrickFormula.Proofs.Json.Fields
import BrickFormula.Proofs.Steps

/-!
# Fields at every depth

Objects lie in objects, so what is said of a value is said of its fields first.

    Json.induction_field?     induction over fields
    Json.Whole d              no field at any depth is a broken string
    Json.whole_of_read?       of what is read without leniency, none is
-/

namespace BrickFormula.Json

theorem sizeOf_field?_lt {d c : Json} {name : String} (h : d.field? name = some c) :
    sizeOf c < sizeOf d := by
  cases d with
  | object fields =>
    obtain ⟨before, after, rfl, -⟩ := List.lookup_eq_some_iff.mp h
    have hmem : (name, c) ∈ before ++ (name, c) :: after :=
      List.mem_append_right _ List.mem_cons_self
    have hfields := List.sizeOf_lt_of_mem hmem
    simp only [Json.object.sizeOf_spec, Prod.mk.sizeOf_spec] at hfields ⊢
    omega
  | _ => cases h

/-- What holds of a value when it holds of its fields holds of all values. -/
theorem induction_field? {P : Json → Prop}
    (step : ∀ d, (∀ name c, d.field? name = some c → P c) → P d) (d : Json) : P d := by
  induction hsize : sizeOf d using Nat.strongRecOn generalizing d with
  | _ size ih =>
    subst hsize
    exact step d fun name c h => ih (sizeOf c) (sizeOf_field?_lt h) c rfl

/-- A value that is no broken string and has none in its fields, at any depth. -/
inductive Whole : Json → Prop
  | intro {d : Json} (whole : d ≠ .brokenString)
      (field : ∀ name c, d.field? name = some c → Whole c) : Whole d

theorem Whole.field {d c : Json} {name : String} (h : d.Whole) (hc : d.field? name = some c) :
    c.Whole := by
  cases h with
  | intro _ field => exact field name c hc

theorem whole_object {fields : List (String × Json)} (h : ∀ field ∈ fields, field.2.Whole) :
    (object fields).Whole := by
  refine .intro nofun fun name c hc => ?_
  obtain ⟨before, after, rfl, -⟩ := List.lookup_eq_some_iff.mp hc
  exact h (name, c) (List.mem_append_right _ List.mem_cons_self)

/-! ## What the reader reads -/

theorem whole_of_readWord? {text rest : List Char} {d : Json} (h : readWord? text = some (d, rest)) :
    d.Whole := by
  have hwords : ∀ entry ∈ words, entry.2.Whole := by
    simp only [words, List.forall_mem_cons]
    exact ⟨.intro nofun nofun, .intro nofun nofun, .intro nofun nofun, .intro nofun nofun,
      .intro nofun nofun, .intro nofun nofun, nofun⟩
  obtain ⟨entry, hmem, hentry⟩ := List.exists_of_findSome?_eq_some h
  obtain ⟨_, -, hd⟩ := Option.map_eq_some_iff.mp hentry
  exact (Prod.mk.inj hd).1 ▸ hwords entry hmem

theorem whole_of_readNumber {negative : Bool} {text rest : List Char} {d : Json}
    (h : readNumber negative text = .ok (d, rest)) : d.Whole := by
  have hnumber : (∃ n, d = .integer n) ∨ ∃ x, d = .real x := by
    unfold readNumber at h
    grind
  rcases hnumber with ⟨n, rfl⟩ | ⟨x, rfl⟩
  · exact .intro nofun nofun
  · exact .intro nofun nofun

theorem whole_of_readScalar {text rest : List Char} {d : Json}
    (h : readScalar text = .ok (d, rest)) : d.Whole := by
  unfold readScalar at h
  split at h
  · next hword =>
    cases h
    exact whole_of_readWord? hword
  · split at h
    · exact whole_of_readNumber h
    · exact whole_of_readNumber h

theorem whole_of_readString {fuel : Nat} {text rest : List Char} {chars : List (Option Char)}
    (h : readString false fuel text = .ok (chars, rest)) : (stringOf chars).Whole := by
  have hchars : chars.all Option.isSome := by
    unfold readString at h
    grind
  unfold stringOf
  rw [if_pos hchars]
  exact .intro nofun nofun

/-- Fields are whole if those before them and their values are. -/
theorem whole_of_readFields_succ {fuel : Nat}
    (hvalue : ∀ text d rest, readValue false fuel text = .ok (d, rest) → d.Whole)
    (hfields : ∀ before text fields rest, (∀ field ∈ before, field.2.Whole) →
      readFields false fuel before text = .ok (fields, rest) → ∀ field ∈ fields, field.2.Whole)
    (before : List (String × Json)) (text : List Char) (fields : List (String × Json))
    (rest : List Char) (hbefore : ∀ field ∈ before, field.2.Whole)
    (h : readFields false (fuel + 1) before text = .ok (fields, rest)) :
    ∀ field ∈ fields, field.2.Whole := by
  by_cases hquote : ∃ text', text = '"' :: text'
  · obtain ⟨text, rfl⟩ := hquote
    rw [readFields] at h
    obtain ⟨⟨name, rest'⟩, -, h⟩ := bind_eq_ok_iff.mp h
    dsimp only at h
    split at h
    · obtain ⟨⟨value, rest''⟩, hread, h⟩ := bind_eq_ok_iff.mp h
      have hnext : ∀ field ∈ setField before (textOf name) value, field.2.Whole := by
        intro field hfield
        rcases mem_setField hfield with hfield | rfl
        · exact hbefore field hfield
        · exact hvalue _ _ _ hread
      dsimp only at h
      split at h
      · cases h
        exact hnext
      · exact hfields _ _ _ _ hnext h
      · cases h
    · cases h
  · rw [readFields] at h
    · cases h
    · exact fun text' htext => hquote ⟨text', htext⟩

theorem whole_of_readValue_succ {fuel : Nat}
    (hfields : ∀ text fields rest, readFields false fuel [] text = .ok (fields, rest) →
      ∀ field ∈ fields, field.2.Whole)
    (text : List Char) (d : Json) (rest : List Char)
    (h : readValue false (fuel + 1) text = .ok (d, rest)) : d.Whole := by
  by_cases hquote : ∃ text', text = '"' :: text'
  · obtain ⟨text, rfl⟩ := hquote
    rw [readValue] at h
    obtain ⟨_, hread, ⟨⟩⟩ := map_eq_ok_iff.mp h
    exact whole_of_readString hread
  by_cases hbracket : ∃ text', text = '[' :: text'
  · obtain ⟨text, rfl⟩ := hbracket
    rw [readValue] at h
    have harray : ∃ items, d = .array items := by
      split at h
      · exact ⟨_, (Prod.mk.inj (Except.ok.inj h)).1.symm⟩
      · obtain ⟨_, -, ⟨⟩⟩ := map_eq_ok_iff.mp h
        exact ⟨_, rfl⟩
    obtain ⟨items, rfl⟩ := harray
    exact .intro nofun nofun
  by_cases hbrace : ∃ text', text = '{' :: text'
  · obtain ⟨text, rfl⟩ := hbrace
    rw [readValue] at h
    split at h
    · cases h
      exact whole_object nofun
    · obtain ⟨_, hread, ⟨⟩⟩ := map_eq_ok_iff.mp h
      exact whole_object (hfields _ _ _ hread)
  rw [readValue] at h
  · exact whole_of_readScalar h
  · exact fun text' htext => hquote ⟨text', htext⟩
  · exact fun text' htext => hbracket ⟨text', htext⟩
  · exact fun text' htext => hbrace ⟨text', htext⟩

/-- Values and fields together, by the steps of the reader. -/
theorem whole_of_readValue (fuel : Nat) :
    (∀ text d rest, readValue false fuel text = .ok (d, rest) → d.Whole) ∧
    ∀ before text fields rest, (∀ field ∈ before, field.2.Whole) →
      readFields false fuel before text = .ok (fields, rest) → ∀ field ∈ fields, field.2.Whole := by
  induction fuel with
  | zero => exact ⟨nofun, nofun⟩
  | succ fuel ih =>
    obtain ⟨ihvalue, ihfields⟩ := ih
    exact ⟨whole_of_readValue_succ fun text fields rest => ihfields [] text fields rest nofun,
      whole_of_readFields_succ ihvalue ihfields⟩

/-- **A document that is read has no broken strings in its fields.** -/
theorem whole_of_read? {text : String} {d : Json} (h : read? text = .ok d) : d.Whole := by
  obtain ⟨⟨value, rest⟩, hvalue, h⟩ := bind_eq_ok_iff.mp h
  dsimp only at h
  split at h
  · cases h
    exact (whole_of_readValue _).1 _ _ _ hvalue
  · cases h

end BrickFormula.Json
