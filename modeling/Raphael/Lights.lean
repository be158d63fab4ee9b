import Mathlib.Algebra.Ring.Int.Defs
import Raphael.Leds

namespace Raphael.Lights

inductive FlashMode where
  | none | timed | hardware
  deriving DecidableEq, Repr

structure HwLightState where
  color : UInt32 := 0
  flashMode : FlashMode := .none
  flashOnMs : Int32 := 0
  flashOffMs : Int32 := 0
  deriving DecidableEq, Repr

-- The identifiers of LightType that the HAL registers.
def BACKLIGHT : Int32 := 0
def BATTERY : Int32 := 3
def NOTIFICATIONS : Int32 := 4

def kDefaultMaxLedBrightness : UInt32 := 255
def kRampStepDurationDefault : UInt32 := 70

def rgbaToBrightness (color : UInt32) : UInt32 :=
  let alpha := (color >>> 24) &&& 0xFF
  let red := (color >>> 16) &&& 0xFF
  let green := (color >>> 8) &&& 0xFF
  let blue := color &&& 0xFF
  let scale (component : UInt32) :=
    if alpha ≠ 0xFF then component * alpha / 0xFF else component
  (77 * scale red + 150 * scale green + 29 * scale blue) >>> 8

def rgbaToBrightnessMax (color maxBrightness : UInt32) : UInt32 :=
  rgbaToBrightness color * maxBrightness / 0xFF

def isLit (color : UInt32) : Bool := color &&& 0x00ffffff ≠ 0

-- std::stoi: blanks, a sign, and the longest run of digits. No digit or a
-- value outside int raises an exception.
def isSpace (c : Char) : Bool := c = ' ' ∨ ('\t' ≤ c ∧ c ≤ '\r')

def stoiDigits (text : List Char) : Option Nat :=
  match text.takeWhile Char.isDigit with
  | [] => none
  | digits => some (digits.foldl (fun value c => 10 * value + (c.toNat - 48)) 0)

def stoiSigned : List Char → Option Int
  | '-' :: rest => (stoiDigits rest).map fun digits => -(digits : Int)
  | '+' :: rest => (stoiDigits rest).map Int.ofNat
  | rest => (stoiDigits rest).map Int.ofNat

def stoi (text : String) : Option Int :=
  (stoiSigned (text.toList.dropWhile isSpace)).filter fun value =>
    -2 ^ 31 ≤ value ∧ value < 2 ^ 31

inductive BinderStatus where
  | ok | exUnsupportedOperation
  deriving DecidableEq, Repr

-- A registered light either carries setLightNotification or no function at
-- all, as the backlight does.
inductive LightFn where
  | setLightNotification | empty
  deriving DecidableEq, Repr

structure Service where
  maxLedBrightness : UInt32
  mLights : List (Int32 × LightFn)
  mAvailableLights : List Int32
  -- Sorted in the order of importance.
  notifStates : List (Int32 × HwLightState)
  deriving DecidableEq

-- std::map iterates by key.
def lights : List (Int32 × LightFn) :=
  [(BACKLIGHT, .empty), (BATTERY, .setLightNotification), (NOTIFICATIONS, .setLightNotification)]

def readMaxLedBrightness : Option String → Option UInt32
  | some buf => (stoi buf).map UInt32.ofInt
  | none => some kDefaultMaxLedBrightness

-- The constructor, given what the read of max_brightness returns.
def Service.new (maxBrightnessFile : Option String) : Option Service :=
  (readMaxLedBrightness maxBrightnessFile).map fun maxLedBrightness => {
    maxLedBrightness
    mLights := lights
    mAvailableLights := lights.map Prod.fst
    notifStates := [(NOTIFICATIONS, {}), (BATTERY, {})] }

def writeToFile (attr : LedAttr) (content : UInt32) : LedWrite :=
  ⟨.green, attr, toString content.toNat⟩

def applyNotificationState (maxLedBrightness : UInt32) (state : HwLightState) : List LedWrite :=
  writeToFile .breath 0 ::
    if state.flashMode = .timed ∧ 0 < state.flashOnMs ∧ 0 < state.flashOffMs then
      [writeToFile .stepMs kRampStepDurationDefault, writeToFile .pauseLoCount 30,
        writeToFile .loIdx 0, writeToFile .luxPattern 0,
        writeToFile .delayOn state.flashOnMs.toUInt32,
        writeToFile .delayOff state.flashOffMs.toUInt32, writeToFile .breath 1]
    else [writeToFile .brightness (rgbaToBrightnessMax state.color maxLedBrightness)]

-- The loop over the sources: their states after it, and the states that
-- applyNotificationState was called on.
def setLightNotificationLoop (id : Int32) (state : HwLightState) :
    Bool → List (Int32 × HwLightState) → List (Int32 × HwLightState) × List HwLightState
  | _, [] => ([], [])
  | found, (curId, curState) :: rest =>
      let cur := if curId = id then state else curState
      if found = false ∧ (curId = BATTERY ∨ isLit cur.color) then
        let (states, applied) := setLightNotificationLoop id state true rest
        ((curId, cur) :: states, cur :: applied)
      else
        let (states, applied) := setLightNotificationLoop id state found rest
        ((curId, cur) :: states, applied)

structure Outcome where
  status : BinderStatus
  service : Service
  applied : List HwLightState
  writes : List LedWrite

def Service.setLightNotification (service : Service) (id : Int32) (state : HwLightState) :
    Service × List HwLightState :=
  let (states, applied) := setLightNotificationLoop id state false service.notifStates
  ({ service with notifStates := states }, applied)

def Service.setLightState (service : Service) (id : Int32) (state : HwLightState) : Outcome :=
  match service.mLights.lookup id with
  | none => ⟨.exUnsupportedOperation, service, [], []⟩
  | some .empty => ⟨.ok, service, [], []⟩
  | some .setLightNotification =>
      let (next, applied) := service.setLightNotification id state
      ⟨.ok, next, applied, applied.flatMap (applyNotificationState service.maxLedBrightness)⟩

end Raphael.Lights
