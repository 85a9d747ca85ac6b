import BrickFormula.Proofs.Evaluation.Agreement
import BrickFormula.Proofs.Formula.Elements

/-!
# What an evaluation reads

Of the variables and lists an evaluation reads those that the formula is known to name, and of the
hardware that which the formula is known to need.  Two runs are compared, in environments that
differ only elsewhere: they have the same outcome, and draw as many random numbers.

    Environment.AgreeOn                   the environments agree, hardware that is not listed apart
    agrees_of_footprint                   such environments agree on a formula
    evaluate_reads_only_named             only what is named is read from the store
    evaluate_consults_only_announced      only what is announced is read from the hardware
-/

namespace BrickFormula

/-- The environments agree, except for their stores and for the hardware that is not listed. -/
structure Environment.AgreeOn (resources : List Resource) (env env' : Environment) : Prop where
  sprite : env.sprite = env'.sprite
  spriteState : env.spriteState = env'.spriteState
  touch : env.touch = env'.touch
  settings : env.settings = env'.settings
  draw : env.draw = env'.draw
  characters : env.characters = env'.characters
  arduino : .bluetoothSensorsArduino ∈ resources → env.arduino = env'.arduino
  raspberryPi : .socketRaspi ∈ resources → env.raspberryPi = env'.raspberryPi
  nfc : .nfcAdapter ∈ resources → env.nfc = env'.nfc
  collisions : .collision ∈ resources → env.collisions = env'.collisions
  /-- Device sensors that need nothing else agree. -/
  sensor : ∀ s, s.isObjectSensor = false → (∀ r, s.resource? = some r → r ∈ resources) →
    env.sensor s = env'.sensor s

variable {env env' : Environment}

/-! ## Readings -/

namespace Environment

theorem readVariable_congr {name name' : String} (h : env.get name = env'.get name') :
    env.readVariable name = env'.readVariable name' := by
  unfold readVariable
  rw [h]

theorem readList_congr {name name' : String} (h : env.getList? name = env'.getList? name') :
    env.readList name = env'.readList name' := by
  unfold readList
  rw [h]

theorem touchesAny_congr (hsprite : env.sprite = env'.sprite)
    (hcollisions : env.collisions = env'.collisions) (others : List SpriteName) :
    env.touchesAny others = env'.touchesAny others := by
  induction others with
  | nil => rfl
  | cons other rest ih =>
    unfold touchesAny
    rw [hsprite, hcollisions, ih]

theorem probe_congr (hsprite : env.sprite = env'.sprite)
    (hcollisions : env.collisions = env'.collisions) (name : String) :
    env.probe name = env'.probe name := by
  have htouches : env.touches name = env'.touches name := by
    unfold touches
    simp only [touchesAny_congr hsprite hcollisions, hsprite, hcollisions]
  unfold probe
  rw [htouches]

namespace AgreeOn
variable {resources : List Resource} (h : AgreeOn resources env env')
include h

theorem readObjectSensor_eq (s : Sensor) (hs : ∀ r, s.resource? = some r → r ∈ resources) :
    env.readObjectSensor s = env'.readObjectSensor s := by
  have hlayer (state : SpriteState) : env.layer state = env'.layer state := by
    unfold layer
    rw [h.settings]
  cases s with
  | nfcTagMessage => simp only [readObjectSensor, h.nfc (hs _ rfl)]
  | nfcTagId => simp only [readObjectSensor, h.nfc (hs _ rfl)]
  | collidesWithEdge =>
    simp only [readObjectSensor, touchesEdge, h.sprite, h.collisions (hs _ rfl)]
  | collidesWithFinger => simp only [readObjectSensor, h.sprite, h.collisions (hs _ rfl)]
  | _ => simp only [readObjectSensor, h.sprite, h.spriteState, hlayer]

/-- A sensor of which all that it needs is listed reads the same. -/
theorem readSensor_eq (s : Sensor) (hs : ∀ r, s.resource? = some r → r ∈ resources) :
    env.readSensor s = env'.readSensor s := by
  unfold readSensor
  cases hobject : s.isObjectSensor with
  | true => rw [if_pos rfl, if_pos rfl, h.readObjectSensor_eq s hs]
  | false => rw [if_neg Bool.false_ne_true, if_neg Bool.false_ne_true, h.sensor s hobject hs]

/-- And so does a device that a function reads. -/
theorem device_eq (f : BuiltIn) (hf : ∀ r, f.resource? = some r → r ∈ resources) :
    Call.device env f = Call.device env' f := by
  funext x
  cases f with
  | arduinoDigital => simp only [Call.device, h.arduino (hf _ rfl)]
  | arduinoAnalog => simp only [Call.device, h.arduino (hf _ rfl)]
  | raspiDigital => simp only [Call.device, h.raspberryPi (hf _ rfl)]
  | multiFingerTouched => simp only [Call.device, h.touch]
  | multiFingerX => simp only [Call.device, h.touch]
  | multiFingerY => simp only [Call.device, h.touch]
  | _ => rfl

end AgreeOn

end Environment

/-! ## Formulas -/

namespace Formula

/-- Agreement of a formula under two sorts of new texts, element by element. -/
theorem agrees_of_texts {f g : Kind → Option String → Option String} (t : Formula)
    (h : ∀ kind text, (kind, text) ∈ t.elements →
      Element.Agrees env env' kind (f kind text) (g kind text)) :
    (t.changeTexts f).Agrees env env' (t.changeTexts g) := by
  induction t with
  | empty => exact .empty
  | node kind text left right ihl ihr =>
    refine .node (h kind text (mem_elements_node.mpr (.inr (.inr ⟨rfl, rfl⟩)))) (ihl ?_) (ihr ?_)
    · intro k s hks
      exact h k s (mem_elements_node.mpr (.inl hks))
    · intro k s hks
      exact h k s (mem_elements_node.mpr (.inr (.inl hks)))

theorem changeTexts_same (t : Formula) : t.changeTexts (fun _ text => text) = t := by
  induction t with
  | empty => rfl
  | node kind text left right ihl ihr => rw [changeTexts, ihl, ihr]

/-- Agreement of a formula with itself. -/
theorem agrees_self (t : Formula)
    (h : ∀ kind text, (kind, text) ∈ t.elements → Element.Agrees env env' kind text text) :
    t.Agrees env env' t := by
  have hsame := agrees_of_texts (f := fun _ text => text) (g := fun _ text => text) t h
  rwa [changeTexts_same] at hsame

section
variable {t : Formula} (h : env.AgreeOn t.resources env')
  (hget : ∀ name ∈ t.variableNames, env.get name = env'.get name)
  (hlist : ∀ name ∈ t.listNames, env.getList? name = env'.getList? name)
include h hget hlist

/-- An element reads the same in environments that agree on what the formula names and needs. -/
theorem element_agrees_of_footprint {kind : Kind} {text : Option String}
    (he : (kind, text) ∈ t.elements) : Element.Agrees env env' kind text text := by
  have hneeds {r : Resource} (hr : nodeResource? kind text = some r) : r ∈ t.resources :=
    mem_resources.mpr ⟨kind, text, he, hr⟩
  have hvariable : kind = .userVariable →
      env.get (text.getD "") = env'.get (text.getD "") := by
    rintro rfl
    exact hget _ (name_mem_variableNames he)
  have hitems : kind = .userList → env.getList? (text.getD "") = env'.getList? (text.getD "") := by
    rintro rfl
    exact hlist _ (name_mem_listNames he)
  constructor
  case get => exact hvariable
  case getList? => exact hitems
  case literal => exact fun _ => rfl
  case operator => exact fun _ => rfl
  case function => exact fun _ => rfl
  case call =>
    rintro rfl f hf
    refine ⟨h.device_eq f fun r hr => hneeds ?_, h.characters, fun _ => h.draw⟩
    simp only [nodeResource?, hf, Option.bind_some, hr]
  case datum =>
    cases kind with
    | userVariable => simp only [leafDatum, Environment.readVariable_congr (hvariable rfl)]
    | userList => simp only [leafDatum, Environment.readList_congr (hitems rfl)]
    | collisionFormula =>
      simp only [leafDatum, Environment.probe_congr h.sprite (h.collisions (hneeds rfl))]
    | sensor =>
      cases hs : text.bind Sensor.ofName? with
      | none => simp only [leafDatum, hs, Option.map_none]
      | some s =>
        have hread : env.readSensor s = env'.readSensor s := by
          apply h.readSensor_eq s
          intro r hr
          apply hneeds
          simp only [nodeResource?, hs, Option.bind_some, hr]
        simp only [leafDatum, hs, Option.map_some, hread]
    | _ => rfl

theorem agrees_of_footprint : t.Agrees env env' t :=
  agrees_self t fun _ _ he => element_agrees_of_footprint h hget hlist he

end

/-! ## Two runs -/

/-- **Only what is named is read.**  Another store that answers the same for the variables and lists
named in a formula changes nothing: the value or the fault is the same, and so are the random numbers
drawn, from any count on. -/
theorem evaluate_reads_only_named (t : Formula) (env : Environment) (store : VariableStore)
    (hget : ∀ name ∈ t.variableNames,
      store.get name env.sprite = env.store.get name env.sprite)
    (hlist : ∀ name ∈ t.listNames,
      store.getList? name env.sprite = env.store.getList? name env.sprite) :
    t.evaluate { env with store := store } = t.evaluate env := by
  have h : Environment.AgreeOn t.resources { env with store := store } env :=
    ⟨rfl, rfl, rfl, rfl, rfl, rfl, fun _ => rfl, fun _ => rfl, fun _ => rfl, fun _ => rfl,
      fun _ _ _ => rfl⟩
  exact (agrees_of_footprint h hget hlist).evaluate_eq rfl

/-- `CONTAINS` of a list and a variable. -/
def basketHolds : Formula :=
  .node .function (some "CONTAINS") (leaf .userList "basket") (leaf .userVariable "fruit")

/-- The basket and a fruit to look for, beside a variable that is none of its business. -/
def basketStore (secret : Datum) : VariableStore where
  get name _ :=
    if name = "fruit" then .text "apple" else if name = "secret" then secret else .absent
  getList? name _ := if name = "basket" then some [.text "pear", .text "apple"] else none

def kitchen (secret : Datum) : Environment :=
  { Environment.bare {} (fun _ => .zero) with store := basketStore secret }

theorem evaluate_reads_only_named_kitchen :
    (kitchen (.text "1234")).get "secret" ≠ (kitchen .absent).get "secret" ∧
    ((basketHolds.evaluate (kitchen .absent)).run.run 0).1.toOption = some (.ofBool true) ∧
    basketHolds.evaluate (kitchen (.text "1234")) = basketHolds.evaluate (kitchen .absent) := by
  refine ⟨nofun, by decide +kernel,
    evaluate_reads_only_named basketHolds (kitchen .absent) _ ?_ ?_⟩
  · intro name hname
    have hfruit : name = "fruit" := List.mem_singleton.mp hname
    subst hfruit
    rfl
  · intro name _
    rfl

/-- **Only what is announced is consulted.**  Hardware that is none of the resources of a formula may
be missing or read anything: the value or the fault is the same, and so are the random numbers
drawn, from any count on. -/
theorem evaluate_consults_only_announced (t : Formula) (hstore : env.store = env'.store)
    (h : env.AgreeOn t.resources env') :
    t.evaluate env = t.evaluate env' := by
  have hget (name : String) : env.get name = env'.get name := by
    unfold Environment.get
    rw [hstore, h.sprite]
  have hlist (name : String) : env.getList? name = env'.getList? name := by
    unfold Environment.getList?
    rw [hstore, h.sprite]
  have hagrees := agrees_of_footprint h (fun name _ => hget name) (fun name _ => hlist name)
  exact hagrees.evaluate_eq h.settings

/-- `ARDUINODIGITAL(3) + LOUDNESS`. -/
def pinAndNoise : Formula :=
  .node .operator (some "PLUS")
    (.node .function (some "ARDUINODIGITAL") (leaf .number "3") .empty) (leaf .sensor "LOUDNESS")

/-- A board and some noise, beside other hardware that may be there or not. -/
def workshop (busy : Bool) : Environment :=
  { Environment.bare {} (fun _ => .zero) with
    arduino := some ⟨fun _ => .ok .one, fun _ => .ok .zero⟩
    raspberryPi := if busy then some ⟨fun _ => .ok true⟩ else none
    nfc := if busy then ⟨"hello", "04:A2"⟩ else {}
    collisions :=
      if busy then { CollisionDetector.bare with firstFrameDrawn := .ok true } else .bare
    sensor := fun s =>
      if s = .loudness then .ofBool true else if s = .faceDetected then .ofBool busy else .zero }

theorem evaluate_consults_only_announced_workshop :
    (workshop true).AgreeOn pinAndNoise.resources (workshop false) ∧
    ((pinAndNoise.evaluate (workshop false)).run.run 0).1.toOption = some (.number (.ofInt 2)) ∧
    pinAndNoise.evaluate (workshop true) = pinAndNoise.evaluate (workshop false) := by
  have hneeds : pinAndNoise.resources = [.bluetoothSensorsArduino, .microphone] := by decide
  have h : (workshop true).AgreeOn pinAndNoise.resources (workshop false) := by
    rw [hneeds]
    constructor
    case sprite => rfl
    case spriteState => rfl
    case touch => rfl
    case settings => rfl
    case draw => rfl
    case characters => rfl
    case arduino => exact fun _ => rfl
    case raspberryPi => exact fun hr => absurd hr (by decide)
    case nfc => exact fun hr => absurd hr (by decide)
    case collisions => exact fun hr => absurd hr (by decide)
    case sensor =>
      intro s _ hs
      have hface : s ≠ .faceDetected := by
        rintro rfl
        exact absurd (hs .faceDetection rfl) (by decide)
      show (if s = .loudness then _ else if s = .faceDetected then _ else _) =
        (if s = .loudness then _ else if s = .faceDetected then _ else _)
      rw [if_neg hface, if_neg hface]
  exact ⟨h, by decide +kernel, evaluate_consults_only_announced pinAndNoise rfl h⟩

end Formula

end BrickFormula
