/-!
# Steps that may fail

What one step and another after it return, also where the steps pass on a state.
-/

namespace BrickFormula

variable {ε σ α β : Type}

theorem bind_eq_ok_iff {r : Except ε α} {f : α → Except ε β} {b : β} :
    (r >>= f) = .ok b ↔ ∃ a, r = .ok a ∧ f a = .ok b := by
  cases r with
  | error e => exact ⟨nofun, nofun⟩
  | ok a => exact ⟨fun h => ⟨a, rfl, h⟩, fun ⟨a', h, hf⟩ => Except.ok.inj h ▸ hf⟩

theorem bind_eq_error_iff {r : Except ε α} {f : α → Except ε β} {e : ε} :
    (r >>= f) = .error e ↔ r = .error e ∨ ∃ a, r = .ok a ∧ f a = .error e := by
  cases r with
  | error e' =>
    constructor
    · intro h
      cases h
      exact .inl rfl
    · rintro (h | ⟨a, h, -⟩)
      · cases h
        rfl
      · cases h
  | ok a =>
    constructor
    · intro h
      exact .inr ⟨a, rfl, h⟩
    · rintro (h | ⟨a', h, hf⟩)
      · cases h
      · cases h
        exact hf

theorem map_eq_ok_iff {r : Except ε α} {f : α → β} {b : β} :
    r.map f = .ok b ↔ ∃ a, r = .ok a ∧ f a = b := by
  cases r with
  | error e => exact ⟨nofun, nofun⟩
  | ok a =>
    exact ⟨fun h => ⟨a, rfl, Except.ok.inj h⟩, fun ⟨a', h, hf⟩ => Except.ok.inj h ▸ hf ▸ rfl⟩

section
variable {r : StateT σ (Except ε) α} {f : α → StateT σ (Except ε) β} {s t : σ}

theorem run_bind_of_ok {a : α} (h : r.run s = .ok (a, t)) : (r >>= f).run s = (f a).run t := by
  rw [StateT.run_bind, h]
  rfl

theorem run_bind_of_error {e : ε} (h : r.run s = .error e) : (r >>= f).run s = .error e := by
  rw [StateT.run_bind, h]
  rfl

/-- Looking at the state. -/
theorem run_bind_get {f : σ → StateT σ (Except ε) β} : (get >>= f).run s = (f s).run s := rfl

end

end BrickFormula
