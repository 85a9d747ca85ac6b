import BrickFormula.Proofs.Evaluation.Footprint
import BrickFormula.Proofs.Evaluation.Outcome

/-!
# The empty scenario

The environment of a scenario that says nothing is almost the one in which everything is absent: its
empty memory and its lists of sprites, pins and fingers answer every query alike.  What differs is
that a frame has been drawn, which shows nowhere, and that sprites have a first state, in which they
look to the right, with their full size and their normal brightness.

    environment_empty          the environment of an empty scenario
    readSensor_still_iff       all sensors but three read the same
    evaluate_still             and elements that are no sensors agree anyway
    empty_scenario_is_bare     formulas without the three evaluate alike
-/

namespace BrickFormula

/-- The state of a sprite that has no snapshot. -/
def SpriteState.first : SpriteState where
  rotation := .ofInt 90
  size := .ofInt 100
  brightness := .ofInt 50

/-- The sensors that read something other than zero from the first state of a sprite. -/
def Sensor.nonzeroAtFirst : List Sensor := [.objectRotation, .objectSize, .objectBrightness]

/-- The environment in which everything is absent, except that all sprites have a state and that the
first frame may be drawn. -/
def Environment.still (settings : Settings) (draw : Nat → Binary64) (characters : CharacterNames)
    (state : SpriteState) (drawn : Bool) : Environment :=
  { Environment.bare settings draw characters with
    spriteState := fun _ => state
    collisions := { CollisionDetector.bare with firstFrameDrawn := .ok drawn } }

theorem Environment.bare_eq_still (settings : Settings) (draw : Nat → Binary64)
    (characters : CharacterNames) :
    Environment.bare settings draw characters = still settings draw characters {} false := rfl

section
variable (settings : Settings) (draw : Nat → Binary64) (characters : CharacterNames)

/-! ## The environment of an empty scenario -/

namespace Scenario

theorem isAmong_nil (sprite : SpriteName) : isAmong [] sprite = false := by
  cases sprite with
  | none => rfl
  | some name => rfl

theorem detector_empty :
    ({} : Scenario).detector = { CollisionDetector.bare with firstFrameDrawn := .ok true } := by
  simp only [detector, isAmong_nil, areTouching, spriteNames, List.map_nil, List.flatMap_nil,
    List.append_nil, List.any_nil, List.contains_nil]
  simp [CollisionDetector.bare]

theorem state_snapshot_empty (sprite : SpriteName) :
    (({} : Scenario).snapshot sprite).state = .first := by
  simp only [snapshot, List.reverse_nil, List.find?_nil, Option.getD_none, SpriteSnapshot.state,
    SpriteSnapshot.lookIndex?, List.isEmpty_nil, if_true, Option.bind_none, SpriteState.first]

/-- Every list of an empty scenario is searched in vain. -/
theorem environment_empty :
    environment {} settings draw characters =
      Environment.still settings draw characters .first true := by
  have hstore : ({} : Scenario).memory.store = .bare := rfl
  have htouch : ({} : Scenario).touchInput = .bare := rfl
  simp only [environment, Environment.still, Environment.bare, hstore, htouch, detector_empty,
    state_snapshot_empty, List.lookup_nil, Option.getD_none, Option.map_none]

end Scenario

/-! ## Readings -/

namespace Environment
variable {settings draw characters} {state state' : SpriteState} {drawn drawn' : Bool}

/-- There is nothing to touch, be a frame drawn or not. -/
theorem touchesEdge_still : (still settings draw characters state drawn).touchesEdge = .ok false := by
  cases drawn with
  | false => rfl
  | true => rfl

theorem probe_still (name : String) :
    (still settings draw characters state drawn).probe name = .zero := rfl

theorem readObjectSensor_still_iff (sensor : Sensor) :
    (still settings draw characters .first drawn).readObjectSensor sensor =
        (still settings draw characters {} drawn').readObjectSensor sensor ↔
      sensor ∉ Sensor.nonzeroAtFirst := by
  have hother {n : Int} (h : Binary64.ofInt n ≠ .zero) :
      (Except.ok (.number (.ofInt n)) : Except Fault Datum) ≠ .ok (.number .zero) := by
    intro heq
    exact h (Datum.number.inj (Except.ok.inj heq))
  cases sensor with
  | objectRotation | objectSize | objectBrightness =>
    refine iff_of_false ?_ (by decide)
    simp only [readObjectSensor, still, SpriteState.first]
    exact hother (by decide +kernel)
  | collidesWithEdge =>
    refine iff_of_true ?_ (by decide)
    simp only [readObjectSensor, touchesEdge_still]
  | _ =>
    refine iff_of_true ?_ (by decide)
    simp only [readObjectSensor, still, SpriteState.first, layer, bare]

/-- **All sensors but three read the same**, and these three do not. -/
theorem readSensor_still_iff (sensor : Sensor) :
    (still settings draw characters .first drawn).readSensor sensor =
        (still settings draw characters {} drawn').readSensor sensor ↔
      sensor ∉ Sensor.nonzeroAtFirst := by
  cases hobject : sensor.isObjectSensor with
  | true =>
    simp only [readSensor, hobject, if_true]
    exact readObjectSensor_still_iff sensor
  | false =>
    have hzero (state : SpriteState) (drawn : Bool) :
        (still settings draw characters state drawn).readSensor sensor = .ok (.ofValue .zero) := by
      simp only [readSensor, hobject]
      rfl
    refine iff_of_true ((hzero _ _).trans (hzero _ _).symm) fun hmem => ?_
    have hall : ∀ s ∈ Sensor.nonzeroAtFirst, s.isObjectSensor = true := by decide
    rw [hall sensor hmem] at hobject
    exact Bool.noConfusion hobject

end Environment

end

/-! ## Formulas -/

namespace Formula
open Environment

section
variable {settings : Settings} {draw : Nat → Binary64} {characters : CharacterNames}
  {state state' : SpriteState} {drawn drawn' : Bool}

/-- Whatever the states of the sprites, elements agree if they do as sensors. -/
theorem element_agrees_still {kind : Kind} {text : Option String}
    (h : ∀ sensor, kind = .sensor → text.bind Sensor.ofName? = some sensor →
      (still settings draw characters state drawn).readSensor sensor =
        (still settings draw characters state' drawn').readSensor sensor) :
    Element.Agrees (still settings draw characters state drawn)
      (still settings draw characters state' drawn') kind text text := by
  constructor
  case get => exact fun _ => rfl
  case getList? => exact fun _ => rfl
  case literal => exact fun _ => rfl
  case operator => exact fun _ => rfl
  case function => exact fun _ => rfl
  case call => exact fun _ f _ => ⟨rfl, rfl, fun _ => rfl⟩
  case datum =>
    cases kind with
    | collisionFormula => simp only [leafDatum, probe_still]
    | sensor =>
      cases hs : text.bind Sensor.ofName? with
      | none => simp only [leafDatum, hs, Option.map_none]
      | some sensor => simp only [leafDatum, hs, Option.map_some, h sensor rfl hs]
    | _ => rfl

theorem evaluate_still (t : Formula)
    (h : ∀ text sensor, (.sensor, text) ∈ t.elements → text.bind Sensor.ofName? = some sensor →
      (still settings draw characters state drawn).readSensor sensor =
        (still settings draw characters state' drawn').readSensor sensor) :
    t.evaluate (still settings draw characters state drawn) =
      t.evaluate (still settings draw characters state' drawn') := by
  refine (agrees_self t fun kind text he => element_agrees_still ?_).evaluate_eq rfl
  rintro sensor rfl hs
  exact h text sensor he hs

end

/-- **An empty scenario is no scenario.**  Unless a formula asks for the rotation, the size or the
brightness of the sprite, it has one outcome in the environment of an empty scenario and in the one
where everything is absent, and draws as many random numbers. -/
theorem empty_scenario_is_bare (t : Formula) (settings : Settings) (draw : Nat → Binary64)
    (characters : CharacterNames)
    (h : ∀ sensor ∈ Sensor.nonzeroAtFirst, (.sensor, some sensor.name) ∉ t.elements) :
    t.evaluate (Scenario.environment {} settings draw characters) =
      t.evaluate (Environment.bare settings draw characters) := by
  rw [Scenario.environment_empty, bare_eq_still]
  apply evaluate_still
  intro text sensor he hs
  refine (readSensor_still_iff sensor).mpr fun hmem => h sensor hmem ?_
  obtain ⟨s, rfl, hs⟩ := Option.bind_eq_some_iff.mp hs
  rwa [Sensor.name_of_ofName? hs]

/-- `RAND(OBJECT_LAYER + COLLIDES_WITH_EDGE, MULTI_FINGER_X(1) + 0.5)`. -/
def stageDice : Formula :=
  .node .function (some "RAND")
    (.node .operator (some "PLUS") (leaf .sensor "OBJECT_LAYER") (leaf .sensor "COLLIDES_WITH_EDGE"))
    (.node .operator (some "PLUS")
      (.node .function (some "MULTI_FINGER_X") (leaf .number "1") .empty) (leaf .number "0.5"))

/-- Half of the way from the background to one half. -/
theorem empty_scenario_is_bare_stageDice :
    (∀ sensor ∈ Sensor.nonzeroAtFirst, (.sensor, some sensor.name) ∉ stageDice.elements) ∧
    ((stageDice.evaluate (.bare {} fun _ => .ofRatio 1 2)).run.run 0).1.toOption =
      some (.number (.ofRatio 1 4)) ∧
    ((stageDice.evaluate (.bare {} fun _ => .ofRatio 1 2)).run.run 0).2 = 1 ∧
    stageDice.evaluate (Scenario.environment {} {} fun _ => .ofRatio 1 2) =
      stageDice.evaluate (.bare {} fun _ => .ofRatio 1 2) := by
  have h : ∀ sensor ∈ Sensor.nonzeroAtFirst,
      (.sensor, some sensor.name) ∉ stageDice.elements := by decide
  exact ⟨h, by decide +kernel, by decide +kernel, empty_scenario_is_bare stageDice {} _ _ h⟩

end Formula

end BrickFormula
