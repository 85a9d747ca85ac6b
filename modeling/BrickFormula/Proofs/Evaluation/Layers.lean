import BrickFormula.Proofs.Binary64.Bounds
import BrickFormula.Proofs.Evaluation.Operands
import BrickFormula.Scenario

/-!
# Layers

The layer sensor computes with whole numbers of any size: the depth of the evaluating sprite, the place
of the sprite in its scene, and the number of virtual layers.  Only the layer itself is turned into a
number, the nearest one.  A layer that is beyond the numbers stops the evaluation, before it could be cut
to the greatest number.

    Scenario.Shows z c       the evaluating sprite has the depth `z` and the place `c`
    shows_snapshot           as its last snapshot says
    Shows.eq_snapshot        and in no other way
    IsLayer                  the layer of a sprite
    layer_answers            the sensor gives the nearest number, or stops
-/

namespace BrickFormula

namespace Scenario

/-- **The depth of the evaluating sprite and its place in the scene**: those of the last snapshot with
its name, and zero if there is none. -/
def Shows (s : Scenario) (z c : Int) : Prop :=
  (∃ before x after, s.sprites = before ++ x :: after ∧ s.sprite = some x.name ∧
    (∀ y ∈ after, s.sprite ≠ some y.name) ∧ z = x.zIndex ∧ c = x.sceneIndex) ∨
  (∀ y ∈ s.sprites, s.sprite ≠ some y.name) ∧ z = 0 ∧ c = 0

theorem shows_snapshot (s : Scenario) :
    s.Shows (s.snapshot s.sprite).zIndex (s.snapshot s.sprite).sceneIndex := by
  unfold Shows snapshot
  cases hfind : s.sprites.reverse.find? fun x => s.sprite = some x.name with
  | none =>
    refine .inr ⟨fun y hy heq => ?_, rfl, rfl⟩
    exact List.find?_eq_none.mp hfind y (List.mem_reverse.mpr hy) (decide_eq_true heq)
  | some x =>
    obtain ⟨hname, after, before, hsplit, hafter⟩ := List.find?_eq_some_iff_append.mp hfind
    refine .inl ⟨before.reverse, x, after.reverse, ?_, of_decide_eq_true hname, fun y hy heq => ?_,
      rfl, rfl⟩
    · rw [← List.reverse_reverse s.sprites, hsplit]
      simp
    · have hnot := hafter y (List.mem_reverse.mp hy)
      simp [heq] at hnot

/-- And there is one answer. -/
theorem Shows.eq_snapshot {s : Scenario} {z c : Int} (h : s.Shows z c) :
    z = (s.snapshot s.sprite).zIndex ∧ c = (s.snapshot s.sprite).sceneIndex := by
  unfold snapshot
  rcases h with ⟨before, x, after, hsplit, hname, hafter, rfl, rfl⟩ | ⟨hnone, rfl, rfl⟩
  · have hfind : (s.sprites.reverse.find? fun x => s.sprite = some x.name) = some x := by
      refine List.find?_eq_some_iff_append.mpr
        ⟨decide_eq_true hname, after.reverse, before.reverse, ?_, fun y hy => ?_⟩
      · rw [hsplit]
        simp
      · simpa using hafter y (List.mem_reverse.mp hy)
    rw [hfind]
    exact ⟨rfl, rfl⟩
  · have hfind : (s.sprites.reverse.find? fun x => s.sprite = some x.name) = none := by
      refine List.find?_eq_none.mpr fun y hy => ?_
      simpa using hnone y (List.mem_reverse.mp hy)
    rw [hfind]
    exact ⟨rfl, rfl⟩

end Scenario

/-- The layer of a sprite with the depth `z` and the place `c` above so many virtual ones. -/
def IsLayer (virtual z c layer : Int) : Prop :=
  (z < 0 ∧ layer = c) ∨ (z = 0 ∧ layer = 0) ∨ (0 < z ∧ layer = z - virtual)

theorem Environment.isLayer_layer (env : Environment) (state : SpriteState) :
    IsLayer env.settings.virtualLayers state.zIndex state.sceneIndex (env.layer state) := by
  unfold IsLayer Environment.layer
  split
  · next hbelow => exact .inl ⟨hbelow, rfl⟩
  · next hbelow =>
    split
    · next hzero => exact .inr (.inl ⟨hzero, rfl⟩)
    · next hzero => exact .inr (.inr ⟨by omega, rfl⟩)

/-! ## Whole numbers of any size -/

namespace Datum
open Binary64

theorem normalize_integer {n : Int} (h : (ofInt n).isFinite = true) :
    (integer n).normalize = .ok (.number (ofInt n)) := by
  have hvalue : (integer n).toValue? = (Datum.number (ofInt n)).toValue? := by
    simp only [toValue?]
    rw [if_pos h]
  unfold normalize
  rw [hvalue]
  exact normalize_number h

theorem normalize_integer_of_large {n : Int} (h : ¬ (ofInt n).isFinite = true) :
    (integer n).normalize = .error .integerTooLarge := by
  unfold normalize
  simp only [toValue?]
  rw [if_neg h]
  rfl

end Datum

/-! ## The sensor -/

namespace Formula
open Binary64 Evaluation

/-- The layer sensor. -/
def layerSensor (left right : Formula) : Formula := .node .sensor (some "OBJECT_LAYER") left right

theorem evaluate_layerSensor (env : Environment) (left right : Formula) :
    (layerSensor left right).evaluate env =
      .ofExcept (Datum.integer (env.layer (env.spriteState env.sprite))).normalize := by
  unfold layerSensor
  have hleft : (node .sensor (some "OBJECT_LAYER") left right).evaluate env = _ :=
    evaluate_leaf env _ left right nofun nofun nofun
  have hsensor : Sensor.ofName? "OBJECT_LAYER" = some .objectLayer := by decide
  have hleaf : leafDatum env .sensor (some "OBJECT_LAYER") =
      .ok (.integer (env.layer (env.spriteState env.sprite))) := by
    simp only [leafDatum, Option.bind_some, hsensor]
    rfl
  rw [hleft, hleaf]
  rfl

/-- **The layer sensor gives the nearest number to the layer of the sprite**, or stops if that layer is
halfway beyond the greatest number or farther.  It draws no random numbers. -/
theorem layer_answers (s : Scenario) (settings : Settings) (draw : Nat → Binary64)
    (characters : CharacterNames) (left right : Formula) (n : Nat) :
    ∃ z c layer : Int, s.Shows z c ∧ IsLayer settings.virtualLayers z c layer ∧
      (|layer| < 2 ^ 1024 - 2 ^ 970 →
        ((layerSensor left right).evaluate (s.environment settings draw characters)).run.run n =
          (.ok (.number (ofInt layer)), n) ∧
        (ofInt layer).isFinite = true ∧ IsNearest (layer < 0) |(layer : ℚ)| (ofInt layer)) ∧
      (2 ^ 1024 - 2 ^ 970 ≤ |layer| →
        ((layerSensor left right).evaluate (s.environment settings draw characters)).run.run n =
          (.error .integerTooLarge, n)) := by
  have hlayer := (s.environment settings draw characters).isLayer_layer (s.snapshot s.sprite).state
  refine ⟨_, _, _, s.shows_snapshot, hlayer, fun hsmall => ?_, fun hlarge => ?_⟩
  · have hfinite := (isFinite_ofInt_iff _).mpr hsmall
    refine ⟨?_, hfinite, isNearest_ofInt _⟩
    rw [evaluate_layerSensor]
    exact gives_ofExcept (Datum.normalize_integer hfinite) n
  · have hinfinite := mt (isFinite_ofInt_iff _).mp (not_lt.mpr hlarge)
    have hfault := Datum.normalize_integer_of_large hinfinite
    rw [evaluate_layerSensor]
    exact congrArg (fun r => (Evaluation.ofExcept r).run.run n) hfault

/-- Two snapshots of a sprite, of which the last one counts. -/
def movedUp : Scenario :=
  { sprite := some "Cat", sprites := [{ name := "Cat", zIndex := 1 }, { name := "Cat", zIndex := 5 }] }

theorem layer_answers_movedUp :
    ((layerSensor .empty .empty).evaluate (movedUp.environment {} fun _ => .zero)).run.run 0 =
      (.ok (.number (ofInt 3)), 0) := by
  obtain ⟨z, c, layer, hshows, hlayer, hanswer, -⟩ :=
    layer_answers movedUp {} (fun _ => .zero) _ .empty .empty 0
  obtain rfl : z = 5 := hshows.eq_snapshot.1
  obtain rfl : layer = 3 := by
    rcases hlayer with ⟨h, -⟩ | ⟨h, -⟩ | ⟨-, h⟩
    · omega
    · omega
    · exact h
  exact (hanswer (by decide +kernel)).1

/-- A sprite so far up that its layer is beyond the numbers. -/
def farUp : Scenario := { sprite := some "Cat", sprites := [{ name := "Cat", zIndex := 10 ^ 309 }] }

theorem layerSensor_farUp :
    (((layerSensor .empty .empty).evaluate (farUp.environment {} fun _ => .zero)).run.run 0).1 =
      .error .integerTooLarge := by
  decide +kernel

end Formula

end BrickFormula
