import Raphael.Lights
import Raphael.PopupCamera.LedEffect

namespace Raphael.NotificationLed

open PopupCamera Lights

-- The green LED is written by two programs: the lights HAL for notifications,
-- and the popup camera service for its effects, each with a restore callback
-- pending at the given time. Callbacks of one delay keep their order.
structure State where
  now : Nat
  leds : Leds
  fx : LedEffect
  restores : List Nat

inductive Event where
  | applyNotificationState (state : HwLightState)
  | lightUp (isOpen isLedAllowed : Bool)
  | restore

def boot (now : Nat) (leds : Leds) : State := ⟨now, leds, {}, []⟩

def State.lightUp (s : State) (isOpen : Bool) : Option State :=
  match PopupCamera.lightUp allOk isOpen s.fx s.leds with
  | .ok (fx, leds) =>
      some { s with fx, leds, restores := s.restores ++ [s.now + LED_EFFECT_TIME] }
  | .error _ => none

def State.restore (s : State) : Option State :=
  match s.restores with
  | [] => none
  | due :: rest =>
      if s.now < due then none
      else
        match restoreLed allOk s.fx s.leds with
        | .ok (fx, leds) => some { s with fx, leds, restores := rest }
        | .error _ => none

def step (maxLedBrightness : UInt32) (s : State) : Nat × Event → Option State
  | (time, event) =>
      if time < s.now then none
      else
        let s := { s with now := time }
        match event with
        | .applyNotificationState state =>
            some { s with leds := s.leds.writes (applyNotificationState maxLedBrightness state) }
        | .lightUp isOpen isLedAllowed => if isLedAllowed then s.lightUp isOpen else some s
        | .restore => s.restore

end Raphael.NotificationLed
