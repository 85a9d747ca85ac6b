import BrickFormula.Sensor
import BrickFormula.Settings
import BrickFormula.Text.CharacterName
import BrickFormula.Value

/-!
# Environments

Everything that an evaluation consults outside of the formula: variables and lists, sensors, the
state of sprites, collisions, boards, touches, tags, settings, random numbers and the names of
characters.  Sprites are known by name, and no name stands for the absence of a sprite; the look of a
sprite goes by the same name.

`Environment.bare` is the environment without any of them: every query has a default answer.
-/

namespace BrickFormula

/-- The name of a sprite; none where there is no sprite. -/
abbrev SpriteName := Option String

/-- Variables and lists, as a sprite sees them. -/
structure VariableStore where
  get : (name : String) → SpriteName → Datum
  getList? : (name : String) → SpriteName → Option (List Datum)

/-- The state of a sprite at one time. -/
structure SpriteState where
  x : Binary64 := .zero
  y : Binary64 := .zero
  rotation : Binary64 := .zero
  size : Binary64 := .zero
  transparency : Binary64 := .zero
  brightness : Binary64 := .zero
  color : Binary64 := .zero
  xVelocity : Binary64 := .zero
  yVelocity : Binary64 := .zero
  angularVelocity : Binary64 := .zero
  distanceToTouch : Binary64 := .zero
  zIndex : Int := 0
  /-- The place of the sprite in the list of its scene. -/
  sceneIndex : Int := 0
  /-- The index of the current look, if the sprite has looks. -/
  lookIndex : Option Nat := none
  lookName : Option String := none

/-- Tests for collisions, each of which may fail. -/
structure CollisionDetector where
  firstFrameDrawn : Except Fault Bool
  collidesWithEdge : SpriteName → Except Fault Bool
  collidesWithFinger : SpriteName → Except Fault Bool
  collide : SpriteName → SpriteName → Except Fault Bool
  /-- The sprite of a name, if there is one. -/
  findSprite : String → Except Fault (Option SpriteName)
  isGroup : SpriteName → Except Fault Bool
  groupMembers : String → Except Fault (List SpriteName)
  clonesOf : SpriteName → Except Fault (List SpriteName)

/-- The pins of a connected Arduino board, whose readings may fail. -/
structure ArduinoBoard where
  digitalPin : Int → Except Fault Binary64
  analogPin : Int → Except Fault Binary64

/-- The pins of a connected Raspberry Pi, whose readings may fail. -/
structure RaspberryPi where
  pin : Int → Except Fault Bool

/-- The fingers on the screen, by index. -/
structure TouchInput where
  isTouching : Int → Bool
  x : Int → Binary64
  y : Int → Binary64

/-- The tag that was read last. -/
structure NfcTag where
  message : String := ""
  id : String := ""

structure Environment where
  /-- The sprite whose formula is evaluated. -/
  sprite : SpriteName
  store : VariableStore
  sensor : Sensor → Value
  spriteState : SpriteName → SpriteState
  collisions : CollisionDetector
  arduino : Option ArduinoBoard
  raspberryPi : Option RaspberryPi
  touch : TouchInput
  nfc : NfcTag
  settings : Settings
  /-- The random number with an index, between zero and one. -/
  draw : Nat → Binary64
  /-- The characters that patterns write by name. -/
  characters : CharacterNames

/-! ## Defaults -/

def VariableStore.bare : VariableStore := ⟨fun _ _ => .absent, fun _ _ => none⟩

def CollisionDetector.bare : CollisionDetector where
  firstFrameDrawn := .ok false
  collidesWithEdge _ := .ok false
  collidesWithFinger _ := .ok false
  collide _ _ := .ok false
  findSprite _ := .ok none
  isGroup _ := .ok false
  groupMembers _ := .ok []
  clonesOf _ := .ok []

def TouchInput.bare : TouchInput := ⟨fun _ => false, fun _ => .zero, fun _ => .zero⟩

/-- The environment in which every variable, sensor and device is absent. -/
def Environment.bare (settings : Settings) (draw : Nat → Binary64)
    (characters : CharacterNames := fun _ => none) : Environment where
  sprite := none
  store := .bare
  sensor _ := .zero
  spriteState _ := {}
  collisions := .bare
  arduino := none
  raspberryPi := none
  touch := .bare
  nfc := {}
  settings := settings
  draw := draw
  characters := characters

end BrickFormula
