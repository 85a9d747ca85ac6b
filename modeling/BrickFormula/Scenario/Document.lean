import BrickFormula.Json.Reader
import BrickFormula.Scenario
import BrickFormula.Scenario.Coercion

/-!
# Scenario documents

The JSON form of a scenario: an object whose fields are all optional.  Reading ignores other fields
and reports every problem of the document, field by field in the order of the fields.

    Scenario.ofJson? j   the scenario of a document, or its problems
    Scenario.ofText? s   the same for a text
-/

namespace BrickFormula

open Coercion

/-- A snapshot of a sprite; only its name is needed. -/
def SpriteSnapshot.read : Reader SpriteSnapshot
  | path, .object fields =>
    let real (name : String) (default : Int) : Checked Binary64 :=
      field number (.ofInt default) path name fields
    Checked.sound SpriteSnapshot.mk
      |>.ap (needed text path "name" fields)
      |>.ap (real "x" 0)
      |>.ap (real "y" 0)
      |>.ap (real "rotation" 90)
      |>.ap (real "size" 100)
      |>.ap (real "transparency" 0)
      |>.ap (real "brightness" 50)
      |>.ap (real "color" 0)
      |>.ap (real "x_velocity" 0)
      |>.ap (real "y_velocity" 0)
      |>.ap (real "angular_velocity" 0)
      |>.ap (real "distance_to_touch" 0)
      |>.ap (field whole 0 path "z_index" fields)
      |>.ap (field whole 0 path "scene_index" fields)
      |>.ap (field (list text) [] path "looks" fields)
      |>.ap (field (nullable text) none path "current_look" fields)
  | path, _ => .fail path .modelType

def ArduinoPins.read : Reader ArduinoPins
  | path, .object fields =>
    .both ArduinoPins.mk (field (table wholeKey number) [] path "digital" fields)
      (field (table wholeKey number) [] path "analog" fields)
  | path, _ => .fail path .modelType

namespace Scenario

def sensorKey : KeyReader Sensor := fun path name => ofOption path .enum (Sensor.ofName? name)

/-- The scenario at a place of a document. -/
def read : Reader Scenario
  | path, .object fields =>
    Checked.sound Scenario.mk
      |>.ap (field (nullable text) none path "sprite" fields)
      |>.ap (field (table nameKey value) [] path "variables" fields)
      |>.ap (field (table nameKey (list value)) [] path "lists" fields)
      |>.ap (field (table nameKey (table nameKey value)) [] path "local_variables" fields)
      |>.ap (field (table nameKey (table nameKey (list value))) [] path "local_lists" fields)
      |>.ap (field (table sensorKey value) [] path "sensors" fields)
      |>.ap (field (list SpriteSnapshot.read) [] path "sprites" fields)
      |>.ap (field (list (pair text)) [] path "touching" fields)
      |>.ap (field (table nameKey (list text)) [] path "groups" fields)
      |>.ap (field (table nameKey (list text)) [] path "clones" fields)
      |>.ap (field (list text) [] path "edge_collisions" fields)
      |>.ap (field (list text) [] path "finger_collisions" fields)
      |>.ap (field (table wholeKey (pair number)) [] path "touches" fields)
      |>.ap (field text "" path "nfc_message" fields)
      |>.ap (field text "" path "nfc_tag_id" fields)
      |>.ap (field (nullable ArduinoPins.read) none path "arduino" fields)
      |>.ap (field (nullable (table wholeKey truth)) none path "raspberry_pi" fields)
  | path, _ => .fail path .modelType

def ofJson? (document : Json) : Checked Scenario := read [] document

/-- Why a text is no scenario. -/
inductive TextError where
  | notJson (error : Json.ReadError)
  | invalid (problems : List Problem)
  deriving DecidableEq

def ofText? (text : String) : Except TextError Scenario :=
  match Json.readLenient? text with
  | .error error => .error (.notJson error)
  | .ok document => (ofJson? document).mapError .invalid

end Scenario

end BrickFormula
