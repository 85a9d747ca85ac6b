/-!
# Sensors

Device sensors, and object sensors that read the state of the evaluating sprite.
-/

namespace BrickFormula

/-- The sensors that a formula can read. -/
inductive Sensor where
  -- Device motion and position
  | xAcceleration | yAcceleration | zAcceleration | compassDirection | xInclination
  | yInclination | latitude | longitude | locationAccuracy | altitude | loudness
  -- Touch
  | fingerTouched | fingerX | fingerY | lastFingerIndex
  -- Clock
  | dateYear | dateMonth | dateDay | dateWeekday | timeHour | timeMinute | timeSecond
  -- Camera
  | faceDetected | faceSize | faceXPosition | faceYPosition
  -- Robots and boards
  | nxtSensor1 | nxtSensor2 | nxtSensor3 | nxtSensor4 | ev3Sensor1 | ev3Sensor2 | ev3Sensor3
  | ev3Sensor4 | phiroFrontLeft | phiroFrontRight | phiroSideLeft | phiroSideRight
  | phiroBottomLeft | phiroBottomRight | droneBatteryStatus | droneEmergencyState | droneFlying
  | droneInitialized | droneUsbActive | droneUsbRemainingTime | droneCameraReady
  | droneRecordReady | droneRecording | droneNumFrames
  -- Gamepad
  | gamepadAPressed | gamepadBPressed | gamepadUpPressed | gamepadDownPressed
  | gamepadLeftPressed | gamepadRightPressed
  -- Object sensors (scoped to the evaluating sprite)
  | objectX | objectY | objectTransparency | objectBrightness | objectColor | objectSize
  | objectRotation | objectLayer | objectLookNumber | objectLookName | objectBackgroundNumber
  | objectBackgroundName | objectDistanceTo | objectAngularVelocity | objectXVelocity
  | objectYVelocity | nfcTagMessage | nfcTagId | collidesWithEdge | collidesWithFinger
  deriving DecidableEq, Repr

namespace Sensor

/-- In the order of their declaration. -/
def all : List Sensor :=
  [.xAcceleration, .yAcceleration, .zAcceleration, .compassDirection, .xInclination,
   .yInclination, .latitude, .longitude, .locationAccuracy, .altitude, .loudness, .fingerTouched,
   .fingerX, .fingerY, .lastFingerIndex, .dateYear, .dateMonth, .dateDay, .dateWeekday, .timeHour,
   .timeMinute, .timeSecond, .faceDetected, .faceSize, .faceXPosition, .faceYPosition,
   .nxtSensor1, .nxtSensor2, .nxtSensor3, .nxtSensor4, .ev3Sensor1, .ev3Sensor2, .ev3Sensor3,
   .ev3Sensor4, .phiroFrontLeft, .phiroFrontRight, .phiroSideLeft, .phiroSideRight,
   .phiroBottomLeft, .phiroBottomRight, .droneBatteryStatus, .droneEmergencyState, .droneFlying,
   .droneInitialized, .droneUsbActive, .droneUsbRemainingTime, .droneCameraReady,
   .droneRecordReady, .droneRecording, .droneNumFrames, .gamepadAPressed, .gamepadBPressed,
   .gamepadUpPressed, .gamepadDownPressed, .gamepadLeftPressed, .gamepadRightPressed, .objectX,
   .objectY, .objectTransparency, .objectBrightness, .objectColor, .objectSize, .objectRotation,
   .objectLayer, .objectLookNumber, .objectLookName, .objectBackgroundNumber,
   .objectBackgroundName, .objectDistanceTo, .objectAngularVelocity, .objectXVelocity,
   .objectYVelocity, .nfcTagMessage, .nfcTagId, .collidesWithEdge, .collidesWithFinger]

/-- The name that documents use. -/
def name : Sensor → String
  | .xAcceleration => "X_ACCELERATION"
  | .yAcceleration => "Y_ACCELERATION"
  | .zAcceleration => "Z_ACCELERATION"
  | .compassDirection => "COMPASS_DIRECTION"
  | .xInclination => "X_INCLINATION"
  | .yInclination => "Y_INCLINATION"
  | .latitude => "LATITUDE"
  | .longitude => "LONGITUDE"
  | .locationAccuracy => "LOCATION_ACCURACY"
  | .altitude => "ALTITUDE"
  | .loudness => "LOUDNESS"
  | .fingerTouched => "FINGER_TOUCHED"
  | .fingerX => "FINGER_X"
  | .fingerY => "FINGER_Y"
  | .lastFingerIndex => "LAST_FINGER_INDEX"
  | .dateYear => "DATE_YEAR"
  | .dateMonth => "DATE_MONTH"
  | .dateDay => "DATE_DAY"
  | .dateWeekday => "DATE_WEEKDAY"
  | .timeHour => "TIME_HOUR"
  | .timeMinute => "TIME_MINUTE"
  | .timeSecond => "TIME_SECOND"
  | .faceDetected => "FACE_DETECTED"
  | .faceSize => "FACE_SIZE"
  | .faceXPosition => "FACE_X_POSITION"
  | .faceYPosition => "FACE_Y_POSITION"
  | .nxtSensor1 => "NXT_SENSOR_1"
  | .nxtSensor2 => "NXT_SENSOR_2"
  | .nxtSensor3 => "NXT_SENSOR_3"
  | .nxtSensor4 => "NXT_SENSOR_4"
  | .ev3Sensor1 => "EV3_SENSOR_1"
  | .ev3Sensor2 => "EV3_SENSOR_2"
  | .ev3Sensor3 => "EV3_SENSOR_3"
  | .ev3Sensor4 => "EV3_SENSOR_4"
  | .phiroFrontLeft => "PHIRO_FRONT_LEFT"
  | .phiroFrontRight => "PHIRO_FRONT_RIGHT"
  | .phiroSideLeft => "PHIRO_SIDE_LEFT"
  | .phiroSideRight => "PHIRO_SIDE_RIGHT"
  | .phiroBottomLeft => "PHIRO_BOTTOM_LEFT"
  | .phiroBottomRight => "PHIRO_BOTTOM_RIGHT"
  | .droneBatteryStatus => "DRONE_BATTERY_STATUS"
  | .droneEmergencyState => "DRONE_EMERGENCY_STATE"
  | .droneFlying => "DRONE_FLYING"
  | .droneInitialized => "DRONE_INITIALIZED"
  | .droneUsbActive => "DRONE_USB_ACTIVE"
  | .droneUsbRemainingTime => "DRONE_USB_REMAINING_TIME"
  | .droneCameraReady => "DRONE_CAMERA_READY"
  | .droneRecordReady => "DRONE_RECORD_READY"
  | .droneRecording => "DRONE_RECORDING"
  | .droneNumFrames => "DRONE_NUM_FRAMES"
  | .gamepadAPressed => "GAMEPAD_A_PRESSED"
  | .gamepadBPressed => "GAMEPAD_B_PRESSED"
  | .gamepadUpPressed => "GAMEPAD_UP_PRESSED"
  | .gamepadDownPressed => "GAMEPAD_DOWN_PRESSED"
  | .gamepadLeftPressed => "GAMEPAD_LEFT_PRESSED"
  | .gamepadRightPressed => "GAMEPAD_RIGHT_PRESSED"
  | .objectX => "OBJECT_X"
  | .objectY => "OBJECT_Y"
  | .objectTransparency => "OBJECT_TRANSPARENCY"
  | .objectBrightness => "OBJECT_BRIGHTNESS"
  | .objectColor => "OBJECT_COLOR"
  | .objectSize => "OBJECT_SIZE"
  | .objectRotation => "OBJECT_ROTATION"
  | .objectLayer => "OBJECT_LAYER"
  | .objectLookNumber => "OBJECT_LOOK_NUMBER"
  | .objectLookName => "OBJECT_LOOK_NAME"
  | .objectBackgroundNumber => "OBJECT_BACKGROUND_NUMBER"
  | .objectBackgroundName => "OBJECT_BACKGROUND_NAME"
  | .objectDistanceTo => "OBJECT_DISTANCE_TO"
  | .objectAngularVelocity => "OBJECT_ANGULAR_VELOCITY"
  | .objectXVelocity => "OBJECT_X_VELOCITY"
  | .objectYVelocity => "OBJECT_Y_VELOCITY"
  | .nfcTagMessage => "NFC_TAG_MESSAGE"
  | .nfcTagId => "NFC_TAG_ID"
  | .collidesWithEdge => "COLLIDES_WITH_EDGE"
  | .collidesWithFinger => "COLLIDES_WITH_FINGER"

def ofName? (text : String) : Option Sensor := all.find? fun x => x.name = text

/-- True if the reading comes from the evaluating sprite and not from the device. -/
def isObjectSensor : Sensor → Bool
  | .objectX | .objectY | .objectTransparency | .objectBrightness | .objectColor | .objectSize
  | .objectRotation | .objectLayer | .objectLookNumber | .objectLookName
  | .objectBackgroundNumber | .objectBackgroundName | .objectDistanceTo | .objectAngularVelocity
  | .objectXVelocity | .objectYVelocity | .nfcTagMessage | .nfcTagId | .collidesWithEdge
  | .collidesWithFinger => true
  | _ => false

end Sensor

end BrickFormula
