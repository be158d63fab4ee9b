import Raphael.FileUtils
import Raphael.Leds

namespace Raphael.PopupCamera

open FileUtils

-- The LED fields of PopupCameraService, null being none.
structure LedEffect where
  mLedBusy : Bool := false
  mLedBreathing : Bool := false
  mLedBrightness : Option String := some "0"
  deriving DecidableEq, Repr

-- The accesses of one call are numbered in program order.
abbrev Accesses := Nat → Access

def allOk : Accesses := fun _ => .ok

def writeLed (access : Access) (led : Led) (mode : LedAttr) (value : String) (leds : Leds) : Leds :=
  match writeLine access (some value) with
  | .written line => leds.write ⟨led, mode, line⟩
  | _ => leds

-- The left LED is the green one and the right LED the blue one.
def setLed (accesses : Accesses) (site : Nat) (mode : LedAttr) (value : String) (leds : Leds) :
    Leds :=
  writeLed (accesses (site + 1)) .blue mode value (writeLed (accesses site) .green mode value leds)

-- The snapshot taken unless an effect of ours is running. Reading no line from
-- the breath file ends in a null pointer exception.
def saveActiveEffects (accesses : Accesses) (fx : LedEffect) (leds : Leds) : Option LedEffect :=
  if fx.mLedBusy then some fx
  else
    (readOneLine (accesses 0) (leds .green .breath)).map fun breath =>
      { fx with
        mLedBreathing := breath = "1"
        mLedBrightness := readOneLine (accesses 1) (leds .green .brightness) }

def showEffect (accesses : Accesses) (isOpen : Bool) (leds : Leds) : Leds :=
  let leds := setLed accesses 2 .breath "0" leds
  let leds := setLed accesses 4 .brightness "0" leds
  let leds := setLed accesses 6 .loIdx (if isOpen then "0" else "22") leds
  let leds := setLed accesses 8 .pauseLoCount (if isOpen then "5" else "0") leds
  let leds := setLed accesses 10 .stepMs "35" leds
  let leds := setLed accesses 12 .lutPattern "1" leds
  setLed accesses 14 .breath "1" leds

-- An exception leaves what was done before it.
def lightUp (accesses : Accesses) (isOpen : Bool) (fx : LedEffect) (leds : Leds) :
    Except (LedEffect × Leds) (LedEffect × Leds) :=
  match saveActiveEffects accesses fx leds with
  | none => .error (fx, leds)
  | some saved => .ok ({ saved with mLedBusy := true }, showEffect accesses isOpen leds)

def clearEffect (accesses : Accesses) (leds : Leds) : Leds :=
  let leds := setLed accesses 0 .brightness "0" leds
  let leds := setLed accesses 2 .loIdx "0" leds
  let leds := setLed accesses 4 .pauseLoCount "30" leds
  setLed accesses 6 .stepMs "70" leds

-- The callback that lightUp posts.
def restoreLed (accesses : Accesses) (fx : LedEffect) (leds : Leds) :
    Except (LedEffect × Leds) (LedEffect × Leds) :=
  let leds := clearEffect accesses leds
  if fx.mLedBreathing then
    .ok ({ fx with mLedBusy := false }, writeLed (accesses 8) .green .breath "1" leds)
  else
    match writeLine (accesses 8) fx.mLedBrightness with
    | .written line => .ok ({ fx with mLedBusy := false }, leds.write ⟨.green, .brightness, line⟩)
    | .failed => .ok ({ fx with mLedBusy := false }, leds)
    | .nullPointerException => .error (fx, leds)

def LED_EFFECT_TIME : Nat := 1400 -- ms

end Raphael.PopupCamera
