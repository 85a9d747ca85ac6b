import BrickFormula.Environment
import BrickFormula.Formula

/-!
# Readings

What the environment answers to a sensor, a variable, a list or a collision probe.
-/

namespace BrickFormula.Environment

/-! ## Variables and lists -/

def get (env : Environment) (name : String) : Datum := env.store.get name env.sprite

def getList? (env : Environment) (name : String) : Option (List Datum) :=
  env.store.getList? name env.sprite

/-- The value of a variable; one that does not exist counts as zero. -/
def readVariable (env : Environment) (name : String) : Datum :=
  match env.get name with
  | .absent => .number .zero
  | datum => datum

/-- The text of an item among others: numbers show their whole part only. -/
def itemText? (item : Datum) : Except Fault (Option String) :=
  item.toValue?.map fun
    | none => none
    | some (.number x) => some (toString x.toInt32)
    | some (.text s) => some (Numeral.stripTrailingZero s)

/-- The text of several items, apart by spaces unless every text is a single character at most. -/
def joinItems (items : List Datum) : Except Fault String := do
  let texts ← items.filterMapM itemText?
  let separator := if texts.all (·.length ≤ 1) then "" else " "
  return Numeral.trim (separator.intercalate (texts.map Numeral.stripTrailingZero))

/-- The value of a list: its only item, or the text of all. -/
def readList (env : Environment) (name : String) : Except Fault Datum :=
  match env.getList? name with
  | none => .ok (.number .zero)
  | some [] => .ok (.text "")
  | some [item] => .ok item
  | some items => (joinItems items).map .text

/-! ## Sensors -/

/-- The layer of a sprite above the virtual ones; the background has layer zero, and a sprite that is
not on the stage the place in its scene. -/
def layer (env : Environment) (state : SpriteState) : Int :=
  if state.zIndex < 0 then state.sceneIndex
  else if state.zIndex = 0 then 0
  else state.zIndex - env.settings.virtualLayers

def truth (test : Except Fault Bool) : Except Fault Datum :=
  test.map fun b => .ofValue (.ofBool b)

/-- The sprite touches the edge; it cannot before the first frame is drawn. -/
def touchesEdge (env : Environment) : Except Fault Bool := do
  if ← env.collisions.firstFrameDrawn then env.collisions.collidesWithEdge env.sprite
  else return false

/-- A sensor of the evaluating sprite. -/
def readObjectSensor (env : Environment) (sensor : Sensor) : Except Fault Datum :=
  let state := env.spriteState env.sprite
  match sensor with
  | .objectX => .ok (.number state.x)
  | .objectY => .ok (.number state.y)
  | .objectTransparency => .ok (.number state.transparency)
  | .objectBrightness => .ok (.number state.brightness)
  | .objectColor => .ok (.number state.color)
  | .objectSize => .ok (.number state.size)
  | .objectRotation => .ok (.number state.rotation)
  | .objectXVelocity => .ok (.number state.xVelocity)
  | .objectYVelocity => .ok (.number state.yVelocity)
  | .objectAngularVelocity => .ok (.number state.angularVelocity)
  | .objectDistanceTo => .ok (.number state.distanceToTouch)
  | .objectLayer => .ok (.integer (env.layer state))
  | .objectLookNumber | .objectBackgroundNumber =>
    .ok (.number (.ofInt (1 + state.lookIndex.getD 0)))
  | .objectLookName | .objectBackgroundName => .ok (.text (state.lookName.getD ""))
  | .nfcTagMessage => .ok (.text env.nfc.message)
  | .nfcTagId => .ok (.text env.nfc.id)
  | .collidesWithEdge => truth env.touchesEdge
  | .collidesWithFinger => truth (env.collisions.collidesWithFinger env.sprite)
  | _ => .ok (.number .zero)

def readSensor (env : Environment) (sensor : Sensor) : Except Fault Datum :=
  if sensor.isObjectSensor then env.readObjectSensor sensor
  else .ok (.ofValue (env.sensor sensor))

/-! ## Collision probes -/

/-- The evaluating sprite touches one of the sprites. -/
def touchesAny (env : Environment) : List SpriteName → Except Fault Bool
  | [] => .ok false
  | other :: rest => do
    if ← env.collisions.collide env.sprite other then return true else env.touchesAny rest

/-- The evaluating sprite touches the named sprite, a clone of it, or a member of the named group. -/
def touches (env : Environment) (name : String) : Except Fault Bool := do
  match ← env.collisions.findSprite name with
  | none => return false
  | some target =>
    if ← env.collisions.isGroup target then
      env.touchesAny (← env.collisions.groupMembers name)
    else
      let clones ← env.collisions.clonesOf target
      env.touchesAny ((target :: clones).filter (· ≠ env.sprite))

/-- The value of a collision probe; a failure counts as no collision. -/
def probe (env : Environment) (name : String) : Value :=
  match env.touches name with
  | .ok b => .ofBool b
  | .error _ => .zero

end BrickFormula.Environment
