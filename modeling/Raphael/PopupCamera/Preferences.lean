import Raphael.PopupCamera.Step.Theorems

namespace Raphael.PopupCamera

open State

-- The values that popup_sound_effect can be given, and the sounds that its
-- value and the next one are indices of.
def popupcamera_effects_values : List String := ["-1", "0", "2", "4", "6", "8", "10"]

def popupcamera_effects_names : List String :=
  ["popup_muqin_up.ogg", "popup_muqin_down.ogg", "popup_yingyan_up.ogg", "popup_yingyan_down.ogg",
    "popup_mofa_up.ogg", "popup_mofa_down.ogg", "popup_jijia_up.ogg", "popup_jijia_down.ogg",
    "popup_chilun_up.ogg", "popup_chilun_down.ogg", "popup_cangmen_up.ogg",
    "popup_cangmen_down.ogg"]

def LED_EFFECT_DEFAULT_VALUE : Bool := true
def SOUND_EFFECT_DEFAULT_VALUE : String := "-1"

-- What the settings have stored under the two keys.
structure PopupCameraPreferences where
  popup_led_effect : Option Bool
  popup_sound_effect : Option String

namespace PopupCameraPreferences

def isLedAllowed (preferences : PopupCameraPreferences) : Bool :=
  preferences.popup_led_effect.getD LED_EFFECT_DEFAULT_VALUE

def getSoundEffect (preferences : PopupCameraPreferences) : String :=
  preferences.popup_sound_effect.getD SOUND_EFFECT_DEFAULT_VALUE

-- The list preference stores no other values.
def Offered (preferences : PopupCameraPreferences) : Prop :=
  ∀ value ∈ preferences.popup_sound_effect, value ∈ popupcamera_effects_values

theorem getSoundEffect_offered {preferences : PopupCameraPreferences} (h : preferences.Offered) :
    preferences.getSoundEffect ∈ popupcamera_effects_values := by
  unfold getSoundEffect
  cases hstored : preferences.popup_sound_effect with
  | none => exact List.mem_cons_self
  | some value => exact h value (by rw [hstored]; rfl)

end PopupCameraPreferences

def parseDigits (digits : List Char) : Option Nat :=
  if digits ≠ [] ∧ digits.all Char.isDigit then
    some (digits.foldl (fun value digit => 10 * value + (digit.toNat - '0'.toNat)) 0)
  else none

-- Integer.parseInt, none being a NumberFormatException.
def parseInt (text : String) : Option Int :=
  let value : Option Int :=
    match text.toList with
    | '-' :: digits => (parseDigits digits).map fun value => -value
    | '+' :: digits => (parseDigits digits).map Int.ofNat
    | digits => (parseDigits digits).map Int.ofNat
  value.filter fun value => -2147483648 ≤ value ∧ value ≤ 2147483647

-- The names are loaded in their order, so an index stands for its sound.
def soundAt (index : Int) : Option String :=
  if 0 ≤ index then popupcamera_effects_names[index.toNat]? else none

-- The two sounds of an effect.
def effectSound (value : Int) : CameraState → Option String
  | .opened => soundAt value
  | .closed => soundAt (value + 1)

-- Every value that the settings offer parses, and stands for no sound or for
-- the two sounds of one effect.
theorem parseInt_offered {value : String} (h : value ∈ popupcamera_effects_values) :
    ∃ effect, parseInt value = some effect ∧
      (effect = -1 ∨ ∃ name, effectSound effect .opened = some ("popup_" ++ name ++ "_up.ogg") ∧
        effectSound effect .closed = some ("popup_" ++ name ++ "_down.ogg")) := by
  simp only [popupcamera_effects_values, List.mem_cons, List.not_mem_nil, or_false] at h
  rcases h with rfl | rfl | rfl | rfl | rfl | rfl | rfl
  · exact ⟨-1, by decide +kernel, .inl rfl⟩
  · exact ⟨0, by decide +kernel, .inr ⟨"muqin", by decide +kernel⟩⟩
  · exact ⟨2, by decide +kernel, .inr ⟨"yingyan", by decide +kernel⟩⟩
  · exact ⟨4, by decide +kernel, .inr ⟨"mofa", by decide +kernel⟩⟩
  · exact ⟨6, by decide +kernel, .inr ⟨"jijia", by decide +kernel⟩⟩
  · exact ⟨8, by decide +kernel, .inr ⟨"chilun", by decide +kernel⟩⟩
  · exact ⟨10, by decide +kernel, .inr ⟨"cangmen", by decide +kernel⟩⟩

theorem soundAt_isSome_iff (index : Int) :
    (soundAt index).isSome = true ↔ 0 ≤ index ∧ index < SOUNDS := by
  have hlength : popupcamera_effects_names.length = 12 := rfl
  unfold soundAt SOUNDS
  split
  · rw [Option.isSome_iff_ne_none, ne_eq, List.getElem?_eq_none_iff, hlength]
    omega
  · simp
    omega

-- The replies of the preferences to the handling of a message.
structure Replies.FromPreferences (replies : Replies) (preferences : PopupCameraPreferences) :
    Prop where
  isLedAllowed : replies.isLedAllowed = preferences.isLedAllowed
  soundEffect : replies.soundEffect = parseInt preferences.getSoundEffect

theorem playSoundEffect_offered {replies : Replies} {preferences : PopupCameraPreferences}
    (hreplies : replies.FromPreferences preferences) (hoffered : preferences.Offered)
    (cameraState : CameraState) (s : State) :
    s.playSoundEffect replies cameraState = .ok s := by
  obtain ⟨effect, hparse, heffect⟩ :=
    parseInt_offered (PopupCameraPreferences.getSoundEffect_offered hoffered)
  have hplayed : effect = -1 ∨ (effectSound effect cameraState).isSome = true := by
    refine heffect.imp_right fun hsounds => ?_
    obtain ⟨name, hup, hdown⟩ := hsounds
    cases cameraState with
    | opened => rw [hup]; rfl
    | closed => rw [hdown]; rfl
  unfold playSoundEffect
  rw [hreplies.soundEffect, hparse]
  split
  · rfl
  · cases cameraState with
    | opened =>
        rw [effectSound, soundAt_isSome_iff] at hplayed
        exact if_pos hplayed
    | closed =>
        rw [effectSound, soundAt_isSome_iff] at hplayed
        exact if_pos hplayed

end Raphael.PopupCamera
