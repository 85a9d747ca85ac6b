import BrickFormula.Pattern.Parser

/-!
# Pieces that patterns find

A matcher succeeds only through its continuation, which it hands a state that is not behind the one it
was given: positions never go back and stay in the text, and a group that is captured ends where the
matcher has come to.  So a match and all of its groups are pieces of the text.

    MatchState.Fits size s     position and groups of `s` lie in a text of this size
    Forward size m             the matcher `m` hands on states that fit and are not behind
    forward_run                the matcher of every pattern does
    fits_of_search             so the leftmost match fits
    search_eq_found            and what is found is a piece of the text
-/

namespace BrickFormula

namespace Pattern

/-! ## States -/

/-- The position and the captured groups lie in a text of the given size. -/
structure MatchState.Fits (size : Nat) (s : MatchState) : Prop where
  position_le : s.position ≤ size
  group : ∀ g ∈ s.groups, g.2.1 ≤ g.2.2 ∧ g.2.2 ≤ size

namespace MatchState.Fits
variable {size : Nat} {s : MatchState}

theorem start {position : Nat} (h : position ≤ size) : Fits size ⟨position, []⟩ := ⟨h, nofun⟩

theorem move (h : s.Fits size) {position : Nat} (hle : position ≤ size) :
    Fits size { s with position := position } := ⟨hle, h.group⟩

/-- A group that ends at the position is captured. -/
theorem setGroup (h : s.Fits size) (index : Nat) {first : Nat} (hle : first ≤ s.position) :
    (s.setGroup index first s.position).Fits size := by
  refine ⟨h.position_le, fun g hg => ?_⟩
  rcases List.mem_cons.mp hg with rfl | hg
  · exact ⟨hle, h.position_le⟩
  · exact h.group g (List.mem_filter.mp hg).1

theorem group? (h : s.Fits size) {index first last : Nat} (hg : s.group? index = some (first, last)) :
    first ≤ last ∧ last ≤ size := by
  obtain ⟨before, after, heq, -⟩ := List.lookup_eq_some_iff.mp hg
  exact h.group (index, first, last) (heq ▸ List.mem_append_right _ List.mem_cons_self)

end MatchState.Fits

/-! ## Matchers -/

/-- The matcher succeeds only through a state that fits and is not behind the one it is given. -/
def Forward (size : Nat) (m : Matcher) : Prop :=
  ∀ k s r, s.Fits size → m k s = some r →
    ∃ s', s'.Fits size ∧ s.position ≤ s'.position ∧ k s' = some r

section
variable {size : Nat} {m m' : Matcher}

theorem forward_id : Forward size fun k => k := fun _ s _ hs h => ⟨s, hs, Nat.le_refl _, h⟩

theorem Forward.comp (hm : Forward size m) (hm' : Forward size m') :
    Forward size fun k => m (m' k) := by
  intro k s r hs h
  obtain ⟨s₁, hs₁, hle₁, h₁⟩ := hm _ s r hs h
  obtain ⟨s₂, hs₂, hle₂, h₂⟩ := hm' k s₁ r hs₁ h₁
  exact ⟨s₂, hs₂, Nat.le_trans hle₁ hle₂, h₂⟩

theorem Forward.orElse (hm : Forward size m) (hm' : Forward size m') :
    Forward size fun k s => match m k s with
      | some result => some result
      | none => m' k s := by
  intro k s r hs h
  dsimp only at h
  split at h
  · next result hfirst =>
    cases h
    exact hm k s _ hs hfirst
  · exact hm' k s r hs h

theorem Forward.ite {test : MatchState → Bool} (hm : Forward size m) (hm' : Forward size m') :
    Forward size fun k s => if test s then m k s else m' k s := by
  intro k s r hs h
  dsimp only at h
  split at h
  · exact hm k s r hs h
  · exact hm' k s r hs h

theorem forward_fail : Forward size fun _ _ => none := nofun

/-- What a matcher finds by itself is a state that fits. -/
theorem Forward.fits (hm : Forward size m) {s s' : MatchState} (hs : s.Fits size)
    (h : m some s = some s') : s'.Fits size ∧ s.position ≤ s'.position := by
  obtain ⟨s₁, hs₁, hle, heq⟩ := hm some s s' hs h
  cases heq
  exact ⟨hs₁, hle⟩

/-- A choice that is final. -/
theorem Forward.final (hm : Forward size m) : Forward size fun k s => (m some s).bind k := by
  intro k s r hs h
  obtain ⟨s', hs', hk⟩ := Option.bind_eq_some_iff.mp h
  obtain ⟨hfits, hle⟩ := hm.fits hs hs'
  exact ⟨s', hfits, hle, hk⟩

end

/-! ## Characters and groups -/

section
variable (text : Array Char)

theorem forward_takeChar (test : Char → Bool) : Forward text.size (takeChar text test) := by
  intro k s r hs h
  unfold takeChar at h
  split at h
  · next c hc =>
    split at h
    · obtain ⟨hlt, -⟩ := Array.getElem?_eq_some_iff.mp hc
      exact ⟨_, hs.move hlt, Nat.le_succ _, h⟩
    · cases h
  · cases h

/-- The characters of a group that occurs again are there. -/
theorem forward_takeGroup (flags : PatternFlags) (index : Nat) :
    Forward text.size (takeGroup flags text index) := by
  intro k s r hs h
  unfold takeGroup at h
  split at h
  · cases h
  · next first last hgroup =>
    obtain ⟨hsame, hk⟩ := Option.ite_none_right_eq_some.mp h
    refine ⟨_, hs.move ?_, Nat.le_add_right _ _, hk⟩
    have hposition := hs.position_le
    refine Nat.le_of_not_lt fun hbeyond => ?_
    -- its last character would be beyond the text
    have hlast := List.all_eq_true.mp hsame (last - first - 1) (List.mem_range.mpr (by omega))
    rw [Array.getElem?_eq_none (i := s.position + (last - first - 1)) (by omega)] at hlast
    split at hlast
    · next hnone => cases hnone
    · cases hlast

end

/-! ## Repetition -/

section
variable {size : Nat} {body : Matcher} (hbody : Forward size body) (least : Nat) (most : Option Nat)
include hbody

theorem forward_greedy (fuel count : Nat) (last : Option Nat) :
    Forward size fun k => greedy body least most k fuel count last := by
  induction fuel generalizing count last with
  | zero => exact forward_fail
  | succ fuel ih =>
    intro k s r hs h
    dsimp only at h
    unfold greedy at h
    split at h
    · exact hbody.comp (ih _ _) k s r hs h
    split at h
    · split at h
      · next hmore =>
        cases h
        exact hbody.comp (ih _ _) k s _ hs hmore
      · exact ⟨s, hs, Nat.le_refl _, h⟩
    · exact ⟨s, hs, Nat.le_refl _, h⟩

theorem forward_lazily (fuel count : Nat) (last : Option Nat) :
    Forward size fun k => lazily body least most k fuel count last := by
  induction fuel generalizing count last with
  | zero => exact forward_fail
  | succ fuel ih =>
    intro k s r hs h
    dsimp only at h
    unfold lazily at h
    split at h
    · exact hbody.comp (ih _ _) k s r hs h
    split at h
    · next hdone =>
      cases h
      exact ⟨s, hs, Nat.le_refl _, hdone⟩
    split at h
    · exact hbody.comp (ih _ _) k s r hs h
    · cases h

theorem forward_possessively (fuel count : Nat) (last : Option Nat) :
    Forward size fun k => possessively body least most k fuel count last := by
  induction fuel generalizing count last with
  | zero => exact forward_fail
  | succ fuel ih =>
    intro k s r hs h
    dsimp only at h
    unfold possessively at h
    split at h
    · exact hbody.final.comp (ih _ _) k s r hs h
    split at h
    · split at h
      · next s' hs' =>
        obtain ⟨hfits, hle⟩ := hbody.fits hs hs'
        obtain ⟨s₂, hs₂, hle₂, h₂⟩ := ih _ _ k s' r hfits h
        exact ⟨s₂, hs₂, Nat.le_trans hle hle₂, h₂⟩
      · exact ⟨s, hs, Nat.le_refl _, h⟩
    · exact ⟨s, hs, Nat.le_refl _, h⟩

theorem forward_repeatBody (mode : Repetition) (length : Nat) :
    Forward size (repeatBody mode body least most length) := by
  cases mode with
  | greedy => exact forward_greedy hbody least most _ _ _
  | lazy => exact forward_lazily hbody least most _ _ _
  | possessive => exact forward_possessively hbody least most _ _ _

end

/-! ## Patterns -/

section
variable (widths : List (Nat × Width)) (text : Array Char)

/-- A group is captured from where it starts to where its body ends. -/
theorem forward_group {flags add remove : PatternFlags} {body : Pattern} (index : Option Nat)
    (hbody : Forward text.size (run widths text (flags.within add remove) body)) :
    Forward text.size (run widths text flags (.group index add remove body)) := by
  intro k s r hs h
  obtain ⟨s', hs', hle, hk⟩ := hbody _ s r hs h
  cases index with
  | none => exact ⟨s', hs', hle, hk⟩
  | some i => exact ⟨_, hs'.setGroup i hle, hle, hk⟩

/-- Looking around goes on from where it started. -/
theorem forward_look {flags : PatternFlags} {body : Pattern} (ahead negated : Bool)
    (hbody : Forward text.size (run widths text flags body)) :
    Forward text.size (run widths text flags (.look ahead negated body)) := by
  intro k s r hs h
  unfold run at h
  dsimp only at h
  generalize (if ahead = true then 0 else (width widths body).least) = back at h
  split at h
  · next s' hfound =>
    split at hfound
    · have hback := hs.move (Nat.le_trans (Nat.sub_le s.position back) hs.position_le)
      obtain ⟨hfits, -⟩ := hbody.fits hback hfound
      exact ⟨_, hfits.move hs.position_le, Nat.le_refl _, h⟩
    · cases hfound
  · exact ⟨s, hs, Nat.le_refl _, h⟩
  · cases h

/-- **The matcher of a pattern hands on states that fit and are not behind.** -/
theorem forward_run (flags : PatternFlags) (p : Pattern) :
    Forward text.size (run widths text flags p) := by
  induction p generalizing flags with
  | empty => exact forward_id
  | seq p q hp hq => exact (hp flags).comp (hq flags)
  | alt p q hp hq => exact (hp flags).orElse (hq flags)
  | char n => exact forward_takeChar text _
  | notChar n => exact forward_takeChar text _
  | anyChar => exact forward_takeChar text _
  | set negated items => exact forward_takeChar text _
  | anchor a => exact forward_id.ite forward_fail
  | group index add remove body hbody => exact forward_group widths text index (hbody _)
  | atomic body hbody => exact (hbody flags).final
  | repeated mode least most body hbody =>
    exact forward_repeatBody (hbody flags) least most mode text.size
  | backReference index => exact forward_takeGroup text flags index
  | conditional index yes no hyes hno => exact (hyes flags).ite (hno flags)
  | look ahead negated body hbody => exact forward_look widths text ahead negated (hbody flags)

/-! ## Search -/

/-- What is found starts at one of the positions. -/
theorem searchFrom_eq_some {flags : PatternFlags} {p : Pattern} {starts : List Nat} {start : Nat}
    {s : MatchState} (h : searchFrom widths text flags p starts = some (start, s)) :
    start ∈ starts ∧ run widths text flags p some ⟨start, []⟩ = some s := by
  induction starts with
  | nil => cases h
  | cons first rest ih =>
    unfold searchFrom at h
    split at h
    · next s' hs' =>
      cases h
      exact ⟨List.mem_cons_self, hs'⟩
    · obtain ⟨hmem, hrun⟩ := ih h
      exact ⟨List.mem_cons_of_mem _ hmem, hrun⟩

/-- **A match and its groups lie in the text.** -/
theorem fits_of_search {flags : PatternFlags} {p : Pattern} {start : Nat} {s : MatchState}
    (h : search widths text flags p = some (start, s)) : s.Fits text.size ∧ start ≤ s.position := by
  obtain ⟨hmem, hrun⟩ := searchFrom_eq_some widths text h
  have hstart := MatchState.Fits.start (Nat.lt_succ_iff.mp (List.mem_range.mp hmem))
  exact (forward_run widths text flags p).fits hstart hrun

end

end Pattern

namespace SearchPattern

/-- **What is found is a piece of the text.** -/
theorem search_eq_found {p : SearchPattern} {text piece : List Char}
    (h : p.search text = .found piece) :
    ∃ first last, first ≤ last ∧ last ≤ text.length ∧ piece = (text.take last).drop first := by
  unfold search at h
  split at h
  · cases h
  · next start s hsearch =>
    obtain ⟨hfits, hle⟩ := Pattern.fits_of_search _ _ hsearch
    rw [List.size_toArray] at hfits
    split at h
    · cases h
      exact ⟨start, s.position, hle, hfits.position_le, rfl⟩
    · split at h
      · cases h
      · next first last hgroup =>
        cases h
        obtain ⟨hless, hmost⟩ := hfits.group? hgroup
        exact ⟨first, last, hless, hmost, rfl⟩

end SearchPattern

end BrickFormula
