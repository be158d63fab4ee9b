import Mathlib.Algebra.Ring.Nat
import Raphael.Lights

namespace Raphael.Lights

-- A component of an AARRGGBB colour.
def channel (shift : Nat) (color : UInt32) : Nat := color.toNat / 2 ^ shift % 256

-- The component under the alpha of the colour. A full alpha changes nothing.
def scaled (shift : Nat) (color : UInt32) : Nat := channel shift color * channel 24 color / 255

-- The weighted sum of the components, 256 times the brightness.
def luma (color : UInt32) : Nat :=
  77 * scaled 16 color + 150 * scaled 8 color + 29 * scaled 0 color

theorem channel_le (shift : Nat) (color : UInt32) : channel shift color ≤ 255 :=
  Nat.le_of_lt_succ (Nat.mod_lt _ (by decide))

theorem scaled_le (shift : Nat) (color : UInt32) : scaled shift color ≤ 255 := by
  have hproduct : channel shift color * channel 24 color ≤ 255 * 255 :=
    Nat.mul_le_mul (channel_le shift color) (channel_le 24 color)
  exact Nat.div_le_of_le_mul hproduct

theorem luma_le (color : UInt32) : luma color ≤ 255 * 256 := by
  have hred := scaled_le 16 color
  have hgreen := scaled_le 8 color
  have hblue := scaled_le 0 color
  unfold luma
  omega

theorem and_toNat (component : UInt32) : (component &&& 0xFF).toNat = component.toNat % 256 := by
  rw [UInt32.toNat_and]
  exact Nat.and_two_pow_sub_one_eq_mod component.toNat 8

theorem shiftRight_and_toNat (color shift : UInt32) :
    ((color >>> shift) &&& 0xFF).toNat = channel (shift.toNat % 32) color := by
  rw [and_toNat, UInt32.toNat_shiftRight, Nat.shiftRight_eq_div_pow, channel]

theorem blue_toNat (color : UInt32) : (color &&& 0xFF).toNat = channel 0 color := by
  rw [and_toNat, channel, Nat.pow_zero, Nat.div_one]

-- The product does not wrap, and the path for a full alpha agrees with the
-- formula.
theorem scale_toNat (component alpha : UInt32) (hcomponent : component.toNat ≤ 255)
    (halpha : alpha.toNat ≤ 255) :
    (if alpha ≠ 0xFF then component * alpha / 0xFF else component).toNat =
      component.toNat * alpha.toNat / 255 := by
  split
  · have hproduct : component.toNat * alpha.toNat ≤ 255 * 255 :=
      Nat.mul_le_mul hcomponent halpha
    rw [UInt32.toNat_div, UInt32.toNat_mul, Nat.mod_eq_of_lt (by omega)]
    rfl
  · rename_i hfull
    have halpha : alpha.toNat = 255 := congrArg UInt32.toNat (not_not.mp hfull)
    rw [halpha, Nat.mul_div_cancel _ (by decide)]

theorem rgbaToBrightness_toNat (color : UInt32) :
    (rgbaToBrightness color).toNat = luma color / 256 := by
  have hfull : ((color >>> 24) &&& 0xFF).toNat = channel 24 color := shiftRight_and_toNat color 24
  have hscale : ∀ (shift : Nat) (component : UInt32), component.toNat = channel shift color →
      (if (color >>> 24) &&& 0xFF ≠ 0xFF then component * ((color >>> 24) &&& 0xFF) / 0xFF
        else component).toNat = scaled shift color := by
    intro shift component hchannel
    have hcomponent : component.toNat ≤ 255 := hchannel ▸ channel_le shift color
    have halpha : ((color >>> 24) &&& 0xFF).toNat ≤ 255 := hfull ▸ channel_le 24 color
    rw [scale_toNat _ _ hcomponent halpha, hchannel, hfull, scaled]
  have hred := hscale 16 _ (shiftRight_and_toNat color 16)
  have hgreen := hscale 8 _ (shiftRight_and_toNat color 8)
  have hblue := hscale 0 _ (blue_toNat color)
  have hbound := luma_le color
  unfold rgbaToBrightness
  dsimp only
  rw [UInt32.toNat_shiftRight, UInt32.toNat_add, UInt32.toNat_add, UInt32.toNat_mul,
    UInt32.toNat_mul, UInt32.toNat_mul, hred, hgreen, hblue, Nat.shiftRight_eq_div_pow]
  have hsum : ((77 * scaled 16 color % 2 ^ 32 + 150 * scaled 8 color % 2 ^ 32) % 2 ^ 32 +
      29 * scaled 0 color % 2 ^ 32) % 2 ^ 32 = luma color := by
    unfold luma at hbound ⊢
    omega
  exact congrArg (· / 256) hsum

-- An unlit colour has no component that the alpha could scale.
theorem luma_of_unlit {color : UInt32} (h : isLit color = false) : luma color = 0 := by
  have hmask : (color &&& 0x00ffffff).toNat = 0 :=
    congrArg UInt32.toNat (of_not_not (of_decide_eq_false h))
  have hrgb : color.toNat % 2 ^ 24 = 0 := by
    rw [UInt32.toNat_and] at hmask
    exact (Nat.and_two_pow_sub_one_eq_mod color.toNat 24).symm.trans hmask
  have hred : channel 16 color = 0 := by
    unfold channel
    omega
  have hgreen : channel 8 color = 0 := by
    unfold channel
    omega
  have hblue : channel 0 color = 0 := by
    unfold channel
    omega
  rw [luma, scaled, scaled, scaled, hred, hgreen, hblue, Nat.zero_mul]

theorem rgbaToBrightness_le (color : UInt32) : (rgbaToBrightness color).toNat ≤ 255 := by
  rw [rgbaToBrightness_toNat]
  exact Nat.div_le_of_le_mul (Nat.mul_comm 255 256 ▸ luma_le color)

theorem rgbaToBrightnessMax_toNat (color : UInt32) {maxBrightness : UInt32}
    (hfits : 255 * maxBrightness.toNat < 2 ^ 32) :
    (rgbaToBrightnessMax color maxBrightness).toNat =
      luma color / 256 * maxBrightness.toNat / 255 := by
  have hproduct : (rgbaToBrightness color).toNat * maxBrightness.toNat < 2 ^ 32 :=
    Nat.lt_of_le_of_lt (Nat.mul_le_mul_right _ (rgbaToBrightness_le color)) hfits
  rw [rgbaToBrightnessMax, UInt32.toNat_div, UInt32.toNat_mul, Nat.mod_eq_of_lt hproduct,
    rgbaToBrightness_toNat]
  rfl

-- A maximum of 255 or more does not darken what the formula leaves on.
theorem rgbaToBrightnessMax_eq_zero_iff (color : UInt32) {maxBrightness : UInt32}
    (hmax : 255 ≤ maxBrightness.toNat) (hfits : 255 * maxBrightness.toNat < 2 ^ 32) :
    (rgbaToBrightnessMax color maxBrightness).toNat = 0 ↔ luma color < 256 := by
  rw [rgbaToBrightnessMax_toNat color hfits]
  constructor
  · intro h
    by_contra hlit
    have hone : 1 ≤ luma color / 256 := Nat.div_pos (Nat.not_lt.mp hlit) (by decide)
    have hproduct : 1 * 255 ≤ luma color / 256 * maxBrightness.toNat := Nat.mul_le_mul hone hmax
    omega
  · intro h
    rw [Nat.div_eq_of_lt h, Nat.zero_mul, Nat.zero_div]

end Raphael.Lights
