import BrickFormula.Json
import Mathlib.Data.List.Induction
import Mathlib.Data.List.Nodup

/-!
# Fields

Binding a name in a list of pairs, and looking it up again.

    bindAll entries          the entries bound one after the other
    last? entries key        what the last entry of a key gives
    lookup_bindAll           and what it gives is what is found
    last?_eq_some_iff_mem    where every key stands once, the order does not matter
-/

namespace BrickFormula

section
variable {κ α : Type} [DecidableEq κ] {entries : List (κ × α)}

theorem mem_setField {fields : List (κ × α)} {name : κ} {value : α} {b : κ × α}
    (h : b ∈ setField fields name value) : b ∈ fields ∨ b = (name, value) := by
  induction fields with
  | nil => exact .inr (List.mem_singleton.mp h)
  | cons field rest ih =>
    unfold setField at h
    split at h
    · rcases List.mem_cons.mp h with rfl | h
      · exact .inr rfl
      · exact .inl (List.mem_cons_of_mem _ h)
    · rcases List.mem_cons.mp h with rfl | h
      · exact .inl List.mem_cons_self
      · exact (ih h).imp_left (List.mem_cons_of_mem _)

/-- The entries bound one after the other. -/
def bindAll (entries : List (κ × α)) : List (κ × α) :=
  entries.foldl (fun fields e => setField fields e.1 e.2) []

theorem bindAll_concat (entries : List (κ × α)) (e : κ × α) :
    bindAll (entries ++ [e]) = setField (bindAll entries) e.1 e.2 := by
  unfold bindAll
  rw [List.foldl_append, List.foldl_cons, List.foldl_nil]

theorem map_fst_setField (fields : List (κ × α)) (name : κ) (value : α) :
    (setField fields name value).map Prod.fst =
      if name ∈ fields.map Prod.fst then fields.map Prod.fst else fields.map Prod.fst ++ [name] := by
  induction fields with
  | nil => rfl
  | cons field rest ih =>
    obtain ⟨other, old⟩ := field
    unfold setField
    by_cases h : other = name
    · rw [if_pos h, if_pos (List.mem_map.mpr ⟨_, List.mem_cons_self, h⟩), List.map_cons,
        List.map_cons, h]
    · rw [if_neg h, List.map_cons, ih]
      simp only [List.map_cons, List.mem_cons, Ne.symm h, false_or]
      split <;> rfl

theorem nodup_bindAll (entries : List (κ × α)) : ((bindAll entries).map Prod.fst).Nodup := by
  induction entries using List.reverseRecOn with
  | nil => exact List.nodup_nil
  | append_singleton entries e ih =>
    rw [bindAll_concat, map_fst_setField]
    split
    · exact ih
    · next hnew => exact List.nodup_append.mpr ⟨ih, List.nodup_singleton _, by grind⟩

/-- What is bound was an entry. -/
theorem mem_of_mem_bindAll {e : κ × α} (h : e ∈ bindAll entries) : e ∈ entries := by
  induction entries using List.reverseRecOn with
  | nil => exact h
  | append_singleton entries last ih =>
    rw [bindAll_concat] at h
    rcases mem_setField h with h | rfl
    · exact List.mem_append_left _ (ih h)
    · exact List.mem_append_right _ List.mem_cons_self

variable [BEq κ] [LawfulBEq κ]

theorem lookup_cons_eq (key other : κ) (a : α) (rest : List (κ × α)) :
    ((other, a) :: rest).lookup key = if key = other then some a else rest.lookup key := by
  rw [List.lookup_cons]
  by_cases h : key = other
  · rw [if_pos h, beq_iff_eq.mpr h]
  · rw [if_neg h, beq_eq_false_iff_ne.mpr h]

theorem lookup_setField (fields : List (κ × α)) (name key : κ) (value : α) :
    (setField fields name value).lookup key =
      if key = name then some value else fields.lookup key := by
  induction fields with
  | nil => exact lookup_cons_eq key name value []
  | cons field rest ih =>
    obtain ⟨other, old⟩ := field
    unfold setField
    split
    · next h =>
      rw [lookup_cons_eq, lookup_cons_eq, h]
      split <;> rfl
    · next h =>
      rw [lookup_cons_eq, lookup_cons_eq, ih]
      by_cases hkey : key = other
      · rw [if_pos hkey, if_pos hkey, if_neg fun hname => h (hkey.symm.trans hname)]
      · rw [if_neg hkey, if_neg hkey]

/-- What the last entry of a key gives. -/
def last? (entries : List (κ × α)) (key : κ) : Option α := entries.reverse.lookup key

theorem last?_concat (entries : List (κ × α)) (other key : κ) (a : α) :
    last? (entries ++ [(other, a)]) key = if key = other then some a else last? entries key := by
  unfold last?
  rw [List.reverse_concat, lookup_cons_eq]

/-- Of several entries of a key the last one counts. -/
theorem lookup_bindAll (entries : List (κ × α)) (key : κ) :
    (bindAll entries).lookup key = last? entries key := by
  induction entries using List.reverseRecOn with
  | nil => rfl
  | append_singleton entries e ih => rw [bindAll_concat, lookup_setField, ih, last?_concat]

theorem lookup_eq_some_iff_mem (h : (entries.map Prod.fst).Nodup) (key : κ) (a : α) :
    entries.lookup key = some a ↔ (key, a) ∈ entries := by
  induction entries with
  | nil => exact ⟨nofun, nofun⟩
  | cons e rest ih =>
    obtain ⟨other, b⟩ := e
    obtain ⟨hnew, hrest⟩ := List.nodup_cons.mp h
    rw [lookup_cons_eq, List.mem_cons, Prod.mk.injEq]
    split
    · next hkey =>
      have hnot : (key, a) ∉ rest := fun hmem => hnew (List.mem_map.mpr ⟨_, hmem, hkey⟩)
      rw [or_iff_left hnot, Option.some_inj]
      exact ⟨fun hb => ⟨hkey, hb.symm⟩, fun hb => hb.2.symm⟩
    · next hkey => rw [ih hrest, or_iff_right fun hb => hkey hb.1]

theorem lookup_perm {entries' : List (κ × α)} (h : (entries.map Prod.fst).Nodup)
    (hperm : entries'.Perm entries) (key : κ) : entries'.lookup key = entries.lookup key := by
  refine Option.ext fun a => ?_
  rw [lookup_eq_some_iff_mem h, lookup_eq_some_iff_mem ((hperm.map Prod.fst).nodup_iff.mpr h),
    hperm.mem_iff]

/-- Entries of other keys do not matter. -/
theorem lookup_filter (p : κ → Bool) (entries : List (κ × α)) {key : κ} (h : p key = true) :
    (entries.filter (p ·.1)).lookup key = entries.lookup key := by
  induction entries with
  | nil => rfl
  | cons e rest ih =>
    obtain ⟨other, a⟩ := e
    rw [List.filter_cons, lookup_cons_eq]
    by_cases hkey : key = other
    · rw [if_pos (hkey ▸ h), lookup_cons_eq, if_pos hkey, if_pos hkey]
    · rw [if_neg hkey, ← ih]
      split
      · rw [lookup_cons_eq, if_neg hkey]
      · rfl

/-- Where every key stands once, the order of entries does not matter. -/
theorem last?_eq_some_iff_mem (h : (entries.map Prod.fst).Nodup) (key : κ) (a : α) :
    last? entries key = some a ↔ (key, a) ∈ entries := by
  unfold last?
  rw [lookup_eq_some_iff_mem, List.mem_reverse]
  rwa [List.map_reverse, List.nodup_reverse]

end

end BrickFormula
