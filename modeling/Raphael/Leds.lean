import Mathlib.Data.List.Basic

namespace Raphael

-- The two notification LEDs under /sys/class/leds and the attributes of theirs
-- that the lights HAL and the popup camera service read or write.
inductive Led where
  | green | blue
  deriving DecidableEq, Repr

inductive LedAttr where
  | brightness | breath | stepMs | pauseLoCount | loIdx | luxPattern | lutPattern | delayOn
  | delayOff
  deriving DecidableEq, Repr

abbrev Leds := Led → LedAttr → String

structure LedWrite where
  led : Led
  attr : LedAttr
  value : String
  deriving DecidableEq, Repr

namespace Leds

def dark : Leds := fun _ _ => "0"

def set (leds : Leds) (led : Led) (attr : LedAttr) (value : String) : Leds :=
  fun l a => if l = led ∧ a = attr then value else leds l a

-- The driver stops a breath effect when the brightness is written.
def write (leds : Leds) (w : LedWrite) : Leds :=
  match w.attr with
  | .brightness => (leds.set w.led .brightness w.value).set w.led .breath "0"
  | attr => leds.set w.led attr w.value

def writes (leds : Leds) (ws : List LedWrite) : Leds := ws.foldl write leds

-- What a LED shows: its breath value, and the brightness when it does not breathe.
def shown (leds : Leds) (led : Led) : String × Option String :=
  (leds led .breath, if leds led .breath = "0" then some (leds led .brightness) else none)

theorem shown_of_breath {leds : Leds} {led : Led} {breath : String}
    (h : leds led .breath = breath) (hne : breath ≠ "0") : leds.shown led = (breath, none) := by
  rw [shown, h, if_neg hne]

theorem shown_of_steady {leds : Leds} {led : Led} (h : leds led .breath = "0") :
    leds.shown led = ("0", some (leds led .brightness)) := by
  rw [shown, h, if_pos rfl]

end Leds

end Raphael
