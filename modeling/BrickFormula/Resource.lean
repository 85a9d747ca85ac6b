import BrickFormula.BuiltIn
import BrickFormula.Sensor

/-!
# Resources

The hardware or permissions that functions, sensors and collision probes call for, so that a host
can report what is missing before a project runs.
-/

namespace BrickFormula

/-- Hardware and permissions that a formula may need. -/
inductive Resource where
  | bluetoothSensorsArduino | socketRaspi | sensorAcceleration | sensorInclination
  | sensorCompass | sensorGps | faceDetection | bluetoothLegoNxt | bluetoothLegoEv3
  | bluetoothPhiro | ardroneSupport | nfcAdapter | collision | castRequired | microphone
  deriving DecidableEq, Repr

namespace Resource

/-- In the order of their declaration. -/
def all : List Resource :=
  [.bluetoothSensorsArduino, .socketRaspi, .sensorAcceleration, .sensorInclination,
   .sensorCompass, .sensorGps, .faceDetection, .bluetoothLegoNxt, .bluetoothLegoEv3,
   .bluetoothPhiro, .ardroneSupport, .nfcAdapter, .collision, .castRequired, .microphone]

/-- The name that documents use. -/
def name : Resource → String
  | .bluetoothSensorsArduino => "BLUETOOTH_SENSORS_ARDUINO"
  | .socketRaspi => "SOCKET_RASPI"
  | .sensorAcceleration => "SENSOR_ACCELERATION"
  | .sensorInclination => "SENSOR_INCLINATION"
  | .sensorCompass => "SENSOR_COMPASS"
  | .sensorGps => "SENSOR_GPS"
  | .faceDetection => "FACE_DETECTION"
  | .bluetoothLegoNxt => "BLUETOOTH_LEGO_NXT"
  | .bluetoothLegoEv3 => "BLUETOOTH_LEGO_EV3"
  | .bluetoothPhiro => "BLUETOOTH_PHIRO"
  | .ardroneSupport => "ARDRONE_SUPPORT"
  | .nfcAdapter => "NFC_ADAPTER"
  | .collision => "COLLISION"
  | .castRequired => "CAST_REQUIRED"
  | .microphone => "MICROPHONE"

def ofName? (text : String) : Option Resource := all.find? fun x => x.name = text

end Resource

/-- What a function needs of the device. -/
def BuiltIn.resource? : BuiltIn → Option Resource
  | .arduinoDigital | .arduinoAnalog => some .bluetoothSensorsArduino
  | .raspiDigital => some .socketRaspi
  | _ => none

/-- What reading a sensor needs of the device. -/
def Sensor.resource? : Sensor → Option Resource
  | .xAcceleration | .yAcceleration | .zAcceleration => some .sensorAcceleration
  | .xInclination | .yInclination => some .sensorInclination
  | .compassDirection => some .sensorCompass
  | .latitude | .longitude | .locationAccuracy | .altitude => some .sensorGps
  | .faceDetected | .faceSize | .faceXPosition | .faceYPosition => some .faceDetection
  | .nxtSensor1 | .nxtSensor2 | .nxtSensor3 | .nxtSensor4 => some .bluetoothLegoNxt
  | .ev3Sensor1 | .ev3Sensor2 | .ev3Sensor3 | .ev3Sensor4 => some .bluetoothLegoEv3
  | .phiroFrontLeft | .phiroFrontRight | .phiroSideLeft | .phiroSideRight | .phiroBottomLeft
  | .phiroBottomRight => some .bluetoothPhiro
  | .droneBatteryStatus | .droneEmergencyState | .droneFlying | .droneInitialized
  | .droneUsbActive | .droneUsbRemainingTime | .droneCameraReady | .droneRecordReady
  | .droneRecording | .droneNumFrames => some .ardroneSupport
  | .gamepadAPressed | .gamepadBPressed | .gamepadUpPressed | .gamepadDownPressed
  | .gamepadLeftPressed | .gamepadRightPressed => some .castRequired
  | .nfcTagMessage | .nfcTagId => some .nfcAdapter
  | .collidesWithEdge | .collidesWithFinger => some .collision
  | .loudness => some .microphone
  | _ => none

/-- What a collision probe needs of the device. -/
def Resource.ofCollisionProbe : Resource := .collision

end BrickFormula
