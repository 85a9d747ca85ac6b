import BrickFormula.VariableMemory

/-!
# Scenarios

The runtime state to evaluate formulas against, as plain data: variables and lists, sensor readings,
snapshots of sprites, collisions between them, touches, tags and pins.  A scenario and settings give
an environment.
-/

namespace BrickFormula

/-- A sprite at one time. -/
structure SpriteSnapshot where
  name : String
  x : Binary64 := .zero
  y : Binary64 := .zero
  rotation : Binary64 := .ofInt 90
  size : Binary64 := .ofInt 100
  transparency : Binary64 := .zero
  brightness : Binary64 := .ofInt 50
  color : Binary64 := .zero
  xVelocity : Binary64 := .zero
  yVelocity : Binary64 := .zero
  angularVelocity : Binary64 := .zero
  distanceToTouch : Binary64 := .zero
  zIndex : Int := 0
  sceneIndex : Int := 0
  looks : List String := []
  currentLook : Option String := none
  deriving DecidableEq

/-- The readings of the pins of an Arduino board. -/
structure ArduinoPins where
  digital : List (Int × Binary64) := []
  analog : List (Int × Binary64) := []
  deriving DecidableEq

structure Scenario where
  /-- The sprite whose formula is evaluated. -/
  sprite : SpriteName := none
  globalVariables : List (String × Value) := []
  globalLists : List (String × List Value) := []
  /-- The variables of each sprite. -/
  localVariables : List (String × List (String × Value)) := []
  /-- The lists of each sprite. -/
  localLists : List (String × List (String × List Value)) := []
  sensors : List (Sensor × Value) := []
  sprites : List SpriteSnapshot := []
  /-- The pairs of sprites that touch each other. -/
  touching : List (String × String) := []
  /-- The members of each group. -/
  groups : List (String × List String) := []
  /-- The clones of each sprite. -/
  clones : List (String × List String) := []
  edgeCollisions : List String := []
  fingerCollisions : List String := []
  /-- The place of each finger on the screen. -/
  touches : List (Int × Binary64 × Binary64) := []
  nfcMessage : String := ""
  nfcTagId : String := ""
  arduino : Option ArduinoPins := none
  raspberryPi : Option (List (Int × Bool)) := none
  deriving DecidableEq

/-! ## Sprites -/

namespace SpriteSnapshot

/-- The index of the current look, which is the first one unless another is named. -/
def lookIndex? (s : SpriteSnapshot) : Option Nat :=
  if s.looks.isEmpty then none
  else some ((s.currentLook.bind fun look => s.looks.findIdx? (· = look)).getD 0)

def state (s : SpriteSnapshot) : SpriteState where
  x := s.x
  y := s.y
  rotation := s.rotation
  size := s.size
  transparency := s.transparency
  brightness := s.brightness
  color := s.color
  xVelocity := s.xVelocity
  yVelocity := s.yVelocity
  angularVelocity := s.angularVelocity
  distanceToTouch := s.distanceToTouch
  zIndex := s.zIndex
  sceneIndex := s.sceneIndex
  lookIndex := s.lookIndex?
  lookName := s.lookIndex?.bind fun n => s.looks[n]?

end SpriteSnapshot

namespace Scenario

/-- The last snapshot of a name; a sprite without one is in its first state. -/
def snapshot (s : Scenario) (sprite : SpriteName) : SpriteSnapshot :=
  (s.sprites.reverse.find? fun x => sprite = some x.name).getD { name := sprite.getD "" }

/-! ## Collisions -/

/-- Two sprites are declared to touch each other, in either order. -/
def areTouching (s : Scenario) (a b : SpriteName) : Bool :=
  s.touching.any fun (first, second) =>
    (some first = a && some second = b) || (some first = b && some second = a)

/-- The sprite is one of the names. -/
def isAmong (names : List String) : SpriteName → Bool
  | none => false
  | some name => names.contains name

/-- The names of sprites, clones and groups. -/
def spriteNames (s : Scenario) : List String :=
  s.sprites.map SpriteSnapshot.name ++ s.clones.flatMap Prod.snd ++ s.groups.map Prod.fst

def detector (s : Scenario) : CollisionDetector where
  firstFrameDrawn := .ok true
  collidesWithEdge sprite := .ok (isAmong s.edgeCollisions sprite)
  collidesWithFinger sprite := .ok (isAmong s.fingerCollisions sprite)
  collide a b := .ok (s.areTouching a b)
  findSprite name := .ok (if s.spriteNames.contains name then some (some name) else none)
  isGroup sprite := .ok (isAmong (s.groups.map Prod.fst) sprite)
  groupMembers name := .ok (((s.groups.lookup name).getD []).map some)
  clonesOf sprite := .ok (((sprite.bind (List.lookup · s.clones)).getD []).map some)

/-! ## Variables -/

/-- Binds the variables of a scope. -/
def addVariables (scope : SpriteName) (m : VariableMemory) (bindings : List (String × Value)) :
    VariableMemory :=
  bindings.foldl (fun m (name, value) => m.setVariable name (.ofValue value) scope) m

/-- Binds the lists of a scope. -/
def addLists (scope : SpriteName) (m : VariableMemory) (lists : List (String × List Value)) :
    VariableMemory :=
  lists.foldl (fun m (name, items) => m.setList name (items.map .ofValue) scope) m

/-- The memory with the variables and lists of the project and of all sprites. -/
def memory (s : Scenario) : VariableMemory :=
  let m := addLists none (addVariables none {} s.globalVariables) s.globalLists
  let m := s.localVariables.foldl (fun m (sprite, vs) => addVariables (some sprite) m vs) m
  s.localLists.foldl (fun m (sprite, ls) => addLists (some sprite) m ls) m

/-! ## Devices -/

def ofArduinoPins (pins : ArduinoPins) : ArduinoBoard where
  digitalPin n := .ok ((pins.digital.lookup n).getD .zero)
  analogPin n := .ok ((pins.analog.lookup n).getD .zero)

def ofRaspberryPins (pins : List (Int × Bool)) : RaspberryPi where
  pin n := .ok ((pins.lookup n).getD false)

def touchInput (s : Scenario) : TouchInput where
  isTouching n := (s.touches.lookup n).isSome
  x n := ((s.touches.lookup n).map Prod.fst).getD .zero
  y n := ((s.touches.lookup n).map Prod.snd).getD .zero

/-- The environment that a scenario describes. -/
def environment (s : Scenario) (settings : Settings) (draw : Nat → Binary64)
    (characters : CharacterNames := fun _ => none) : Environment where
  sprite := s.sprite
  store := s.memory.store
  sensor x := (s.sensors.lookup x).getD .zero
  spriteState sprite := (s.snapshot sprite).state
  collisions := s.detector
  arduino := s.arduino.map ofArduinoPins
  raspberryPi := s.raspberryPi.map ofRaspberryPins
  touch := s.touchInput
  nfc := ⟨s.nfcMessage, s.nfcTagId⟩
  settings := settings
  draw := draw
  characters := characters

end Scenario

end BrickFormula
