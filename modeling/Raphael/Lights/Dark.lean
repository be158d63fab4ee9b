import Raphael.Lights.Brightness
import Raphael.Lights.Theorems

namespace Raphael

def Leds.IsOff (leds : Leds) (led : Led) : Prop :=
  leds led .breath = "0" ∧ leds led .brightness = "0"

namespace Lights

theorem toString_eq_zero_iff {n : Nat} : toString n = "0" ↔ n = 0 := by
  constructor
  · intro h
    have hdigits : Nat.toDigits 10 n = ['0'] :=
      Nat.toList_repr.symm.trans (congrArg String.toList h)
    rw [← @Nat.ofDigitChars_ten_toDigits n, hdigits]
    rfl
  · rintro rfl
    rfl

-- A state leaves the LED off when it does not breathe and its brightness
-- comes to zero.
theorem applyNotificationState_isOff_iff {maxLedBrightness : UInt32}
    (hmax : 255 ≤ maxLedBrightness.toNat) (hfits : 255 * maxLedBrightness.toNat < 2 ^ 32)
    (state : HwLightState) (leds : Leds) :
    (leds.writes (applyNotificationState maxLedBrightness state)).IsOff .green ↔
      state.isTimed = false ∧ luma state.color < 256 := by
  unfold applyNotificationState
  split
  · rename_i htimed
    have hstate : state.isTimed = true := decide_eq_true htimed
    have hone : toString (1 : UInt32).toNat ≠ "0" := by decide
    rw [hstate]
    exact iff_of_false (fun h => hone h.1) (fun h => nomatch h.1)
  · rename_i hsteady
    have hstate : state.isTimed = false := decide_eq_false hsteady
    rw [← rgbaToBrightnessMax_eq_zero_iff state.color hmax hfits, ← toString_eq_zero_iff]
    exact ⟨fun h => ⟨hstate, h.2⟩, fun h => ⟨rfl, h.2⟩⟩

-- The state that a history shows decides whether the LED is off.
theorem setLightState_isOff {file : Option String} {service : Service}
    (hnew : Service.new file = some service) (hmax : 255 ≤ service.maxLedBrightness.toNat)
    (hfits : 255 * service.maxLedBrightness.toNat < 2 ^ 32) (calls : List (Int32 × HwLightState))
    {id : Int32} (hid : id = NOTIFICATIONS ∨ id = BATTERY) (state : HwLightState) (leds : Leds) :
    (leds.writes ((service.after calls).setLightState id state).writes).IsOff .green ↔
      (shown (calls ++ [(id, state)])).isTimed = false ∧
        luma (shown (calls ++ [(id, state)])).color < 256 := by
  have hwrites : ((service.after calls).setLightState id state).writes =
      applyNotificationState service.maxLedBrightness (shown (calls ++ [(id, state)])) := by
    rw [Service.after_eq hnew calls, setLightState_ofHistory, if_pos hid]
  rw [hwrites]
  exact applyNotificationState_isOff_iff hmax hfits (shown (calls ++ [(id, state)])) leds

-- A lit source leaves the LED off only when its state is dimmed away, and unlit
-- sources that do not breathe always do.
theorem setLightState_isOff_iff {file : Option String} {service : Service}
    (hnew : Service.new file = some service) (hmax : 255 ≤ service.maxLedBrightness.toNat)
    (hfits : 255 * service.maxLedBrightness.toNat < 2 ^ 32) (calls : List (Int32 × HwLightState))
    {id : Int32} (hid : id = NOTIFICATIONS ∨ id = BATTERY) (state : HwLightState) (leds : Leds) :
    let after := leds.writes ((service.after calls).setLightState id state).writes
    let history := calls ++ [(id, state)]
    (isLit (lastStored NOTIFICATIONS history).color = true ∨
        isLit (lastStored BATTERY history).color = true →
      (after.IsOff .green ↔
        (shown history).isTimed = false ∧ luma (shown history).color < 256)) ∧
    (isLit (lastStored NOTIFICATIONS history).color = false →
      isLit (lastStored BATTERY history).color = false →
      (lastStored BATTERY history).isTimed = false → after.IsOff .green) := by
  intro after history
  have hoff : after.IsOff .green ↔
      (shown history).isTimed = false ∧ luma (shown history).color < 256 :=
    setLightState_isOff hnew hmax hfits calls hid state leds
  refine ⟨fun _ => hoff, fun hnotifications hbattery hsteady => ?_⟩
  have hshown : shown history = lastStored BATTERY history := by
    rw [shown, hnotifications]
    rfl
  have hluma : luma (lastStored BATTERY history).color < 256 := by
    rw [luma_of_unlit hbattery]
    decide
  rw [hoff, hshown]
  exact ⟨hsteady, hluma⟩

theorem setLightState_isOff_iff_dimmed :
    let service := Service.ofHistory 255 []
    let after := Leds.dark.writes
      ((service.after [(BATTERY, batteryOn)]).setLightState NOTIFICATIONS {}).writes
    after.IsOff .green ↔
      (shown [(BATTERY, batteryOn), (NOTIFICATIONS, {})]).isTimed = false ∧
        luma (shown [(BATTERY, batteryOn), (NOTIFICATIONS, {})]).color < 256 := by
  have hnew : Service.new (some "255\n") = some (Service.ofHistory 255 []) := by decide
  exact (setLightState_isOff_iff hnew (by decide) (by decide) [(BATTERY, batteryOn)] (.inl rfl) {}
    Leds.dark).1 (.inr (by decide))

-- White under a zero alpha is lit, and dark.
def transparent : HwLightState where
  color := 0x00FFFFFF

theorem setLightState_litAndOff :
    ¬∀ (file : Option String) (service : Service) (calls : List (Int32 × HwLightState)) (id : Int32)
      (state : HwLightState) (leds : Leds), Service.new file = some service →
      255 ≤ service.maxLedBrightness.toNat → 255 * service.maxLedBrightness.toNat < 2 ^ 32 →
      id = NOTIFICATIONS ∨ id = BATTERY →
      ((leds.writes ((service.after calls).setLightState id state).writes).IsOff .green ↔
        isLit (lastStored NOTIFICATIONS (calls ++ [(id, state)])).color = false ∧
          isLit (lastStored BATTERY (calls ++ [(id, state)])).color = false) := by
  intro h
  have hnew : Service.new (some "255\n") = some (Service.ofHistory 255 []) := by decide
  have hiff := h _ _ [] NOTIFICATIONS transparent Leds.dark hnew (by decide) (by decide) (.inl rfl)
  have hoff : (Leds.dark.writes (((Service.ofHistory 255 []).after []).setLightState NOTIFICATIONS
      transparent).writes).IsOff .green := by
    constructor
    · decide
    · decide
  exact absurd (hiff.mp hoff).1 (by decide)

end Lights

end Raphael
