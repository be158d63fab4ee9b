import Raphael.Lights.Brightness

namespace Raphael.Lights

-- uint32_t arithmetic that has no result when it would wrap.
def checkedMul (a b : UInt32) : Option UInt32 :=
  if a.toNat * b.toNat < 2 ^ 32 then some (a * b) else none

def checkedAdd (a b : UInt32) : Option UInt32 :=
  if a.toNat + b.toNat < 2 ^ 32 then some (a + b) else none

theorem checkedMul_eq {a b : UInt32} {x y : Nat} (ha : a.toNat ≤ x) (hb : b.toNat ≤ y)
    (hfits : x * y < 2 ^ 32) : checkedMul a b = some (a * b) :=
  if_pos (Nat.lt_of_le_of_lt (Nat.mul_le_mul ha hb) hfits)

theorem checkedAdd_eq {a b : UInt32} {x y : Nat} (ha : a.toNat ≤ x) (hb : b.toNat ≤ y)
    (hfits : x + y < 2 ^ 32) : checkedAdd a b = some (a + b) :=
  if_pos (Nat.lt_of_le_of_lt (Nat.add_le_add ha hb) hfits)

theorem mul_toNat_le {a b : UInt32} {x y : Nat} (ha : a.toNat ≤ x) (hb : b.toNat ≤ y) :
    (a * b).toNat ≤ x * y := by
  rw [UInt32.toNat_mul]
  exact Nat.le_trans (Nat.mod_le _ _) (Nat.mul_le_mul ha hb)

theorem add_toNat_le {a b : UInt32} {x y : Nat} (ha : a.toNat ≤ x) (hb : b.toNat ≤ y) :
    (a + b).toNat ≤ x + y := by
  rw [UInt32.toNat_add]
  exact Nat.le_trans (Nat.mod_le _ _) (Nat.add_le_add ha hb)

-- Both functions in one, with every step checked.
def scaleChecked (component alpha : UInt32) : Option UInt32 :=
  if alpha ≠ 0xFF then (checkedMul component alpha).map (· / 0xFF) else some component

def rgbaToBrightnessChecked (color maxBrightness : UInt32) : Option UInt32 := do
  let alpha := (color >>> 24) &&& 0xFF
  let red ← scaleChecked ((color >>> 16) &&& 0xFF) alpha
  let green ← scaleChecked ((color >>> 8) &&& 0xFF) alpha
  let blue ← scaleChecked (color &&& 0xFF) alpha
  let red ← checkedMul 77 red
  let green ← checkedMul 150 green
  let blue ← checkedMul 29 blue
  let sum ← checkedAdd red green
  let sum ← checkedAdd sum blue
  let product ← checkedMul (sum >>> 8) maxBrightness
  some (product / 0xFF)

-- The formula for a colour that is not opaque, whatever its alpha is.
def scalingFormula (color : UInt32) : UInt32 :=
  let alpha := (color >>> 24) &&& 0xFF
  let red := ((color >>> 16) &&& 0xFF) * alpha / 0xFF
  let green := ((color >>> 8) &&& 0xFF) * alpha / 0xFF
  let blue := (color &&& 0xFF) * alpha / 0xFF
  (77 * red + 150 * green + 29 * blue) >>> 8

theorem scaleChecked_eq {component alpha : UInt32} (hcomponent : component.toNat ≤ 255)
    (halpha : alpha.toNat ≤ 255) :
    scaleChecked component alpha =
      some (if alpha ≠ 0xFF then component * alpha / 0xFF else component) := by
  unfold scaleChecked
  split
  · rw [checkedMul_eq hcomponent halpha (by decide), Option.map_some]
  · rfl

theorem scale_toNat_le {component alpha : UInt32} (hcomponent : component.toNat ≤ 255)
    (halpha : alpha.toNat ≤ 255) :
    (if alpha ≠ 0xFF then component * alpha / 0xFF else component).toNat ≤ 255 := by
  rw [scale_toNat component alpha hcomponent halpha]
  exact Nat.div_le_of_le_mul (Nat.mul_le_mul hcomponent halpha)

theorem shiftRight_and_le (color shift : UInt32) : ((color >>> shift) &&& 0xFF).toNat ≤ 255 := by
  rw [shiftRight_and_toNat]
  exact channel_le _ color

theorem blue_le (color : UInt32) : (color &&& 0xFF).toNat ≤ 255 := by
  rw [blue_toNat]
  exact channel_le 0 color

-- The weights add up to 256, so the sums stay far below the word.
theorem rgbaToBrightnessChecked_eq (color : UInt32) {maxBrightness : UInt32}
    (hfits : 255 * maxBrightness.toNat < 2 ^ 32) :
    rgbaToBrightnessChecked color maxBrightness =
      some (rgbaToBrightnessMax color maxBrightness) := by
  have halpha := shiftRight_and_le color 24
  have hred := scale_toNat_le (shiftRight_and_le color 16) halpha
  have hgreen := scale_toNat_le (shiftRight_and_le color 8) halpha
  have hblue := scale_toNat_le (blue_le color) halpha
  have hbrightness := rgbaToBrightness_le color
  unfold rgbaToBrightnessMax
  unfold rgbaToBrightness at hbrightness ⊢
  unfold rgbaToBrightnessChecked
  simp only [scaleChecked_eq (shiftRight_and_le color 16) halpha,
    scaleChecked_eq (shiftRight_and_le color 8) halpha, scaleChecked_eq (blue_le color) halpha,
    Option.bind_eq_bind, Option.bind_some] at hbrightness ⊢
  have h77 : (77 : UInt32).toNat ≤ 77 := Nat.le_refl _
  have h150 : (150 : UInt32).toNat ≤ 150 := Nat.le_refl _
  have h29 : (29 : UInt32).toNat ≤ 29 := Nat.le_refl _
  have hredGreen := add_toNat_le (mul_toNat_le h77 hred) (mul_toNat_le h150 hgreen)
  rw [checkedMul_eq h77 hred (by decide), Option.bind_some,
    checkedMul_eq h150 hgreen (by decide), Option.bind_some,
    checkedMul_eq h29 hblue (by decide), Option.bind_some,
    checkedAdd_eq (mul_toNat_le h77 hred) (mul_toNat_le h150 hgreen) (by decide),
    Option.bind_some,
    checkedAdd_eq hredGreen (mul_toNat_le h29 hblue) (by decide), Option.bind_some,
    checkedMul_eq hbrightness (Nat.le_refl _) hfits, Option.bind_some]

theorem scale_eq {component alpha : UInt32} (hcomponent : component.toNat ≤ 255)
    (halpha : alpha.toNat ≤ 255) :
    (if alpha ≠ 0xFF then component * alpha / 0xFF else component) =
      component * alpha / 0xFF := by
  apply UInt32.toNat_inj.mp
  have hproduct : component.toNat * alpha.toNat ≤ 255 * 255 :=
    Nat.mul_le_mul hcomponent halpha
  rw [scale_toNat component alpha hcomponent halpha, UInt32.toNat_div, UInt32.toNat_mul,
    Nat.mod_eq_of_lt (by omega)]
  rfl

-- The path for opaque colours is a shortcut.
theorem rgbaToBrightness_eq_scalingFormula (color : UInt32) :
    rgbaToBrightness color = scalingFormula color := by
  have halpha := shiftRight_and_le color 24
  unfold rgbaToBrightness scalingFormula
  simp only [scale_eq (shiftRight_and_le color 16) halpha,
    scale_eq (shiftRight_and_le color 8) halpha, scale_eq (blue_le color) halpha]

-- Each division truncates, which keeps the order.
theorem scaled_mono {shift : Nat} {color other : UInt32}
    (hcomponent : channel shift color ≤ channel shift other)
    (halpha : channel 24 color ≤ channel 24 other) : scaled shift color ≤ scaled shift other :=
  Nat.div_le_div_right (Nat.mul_le_mul hcomponent halpha)

def ChannelsLe (color other : UInt32) : Prop :=
  ∀ shift ∈ [24, 16, 8, 0], channel shift color ≤ channel shift other

theorem luma_mono {color other : UInt32} (h : ChannelsLe color other) :
    luma color ≤ luma other := by
  have halpha := h 24 (by decide)
  have hred := scaled_mono (h 16 (by decide)) halpha
  have hgreen := scaled_mono (h 8 (by decide)) halpha
  have hblue := scaled_mono (h 0 (by decide)) halpha
  unfold luma
  omega

theorem luma_of_transparent {color : UInt32} (halpha : channel 24 color = 0) : luma color = 0 := by
  simp only [luma, scaled, halpha, Nat.mul_zero, Nat.zero_div, Nat.add_zero]

theorem luma_eq_zero {color : UInt32} (h : channel 24 color = 0 ∨ isLit color = false) :
    luma color = 0 :=
  h.elim luma_of_transparent luma_of_unlit

theorem rgbaToBrightnessMax_white {maxBrightness : UInt32}
    (hfits : 255 * maxBrightness.toNat < 2 ^ 32) :
    rgbaToBrightnessMax 0xFFFFFFFF maxBrightness = maxBrightness := by
  apply UInt32.toNat_inj.mp
  have hwhite : luma 0xFFFFFFFF = 255 * 256 := by decide
  rw [rgbaToBrightnessMax_toNat _ hfits, hwhite, Nat.mul_div_cancel _ (by decide),
    Nat.mul_div_cancel_left _ (by decide)]

theorem rgbaToBrightnessMax_le (color : UInt32) {maxBrightness : UInt32}
    (hfits : 255 * maxBrightness.toNat < 2 ^ 32) :
    rgbaToBrightnessMax color maxBrightness ≤ maxBrightness := by
  have hluma : luma color / 256 ≤ 255 := Nat.div_le_of_le_mul (Nat.mul_comm 255 256 ▸ luma_le color)
  rw [UInt32.le_iff_toNat_le, rgbaToBrightnessMax_toNat _ hfits]
  exact Nat.div_le_of_le_mul (Nat.mul_le_mul_right _ hluma)

theorem rgbaToBrightnessMax_mono {color other maxBrightness : UInt32}
    (hfits : 255 * maxBrightness.toNat < 2 ^ 32) (h : ChannelsLe color other) :
    rgbaToBrightnessMax color maxBrightness ≤ rgbaToBrightnessMax other maxBrightness := by
  rw [UInt32.le_iff_toNat_le, rgbaToBrightnessMax_toNat _ hfits, rgbaToBrightnessMax_toNat _ hfits]
  exact Nat.div_le_div_right
    (Nat.mul_le_mul_right _ (Nat.div_le_div_right (luma_mono h)))

theorem rgbaToBrightnessMax_zero {color maxBrightness : UInt32}
    (hfits : 255 * maxBrightness.toNat < 2 ^ 32)
    (h : channel 24 color = 0 ∨ isLit color = false) :
    rgbaToBrightnessMax color maxBrightness = 0 := by
  apply UInt32.toNat_inj.mp
  rw [rgbaToBrightnessMax_toNat _ hfits, luma_eq_zero h, Nat.zero_div, Nat.zero_mul, Nat.zero_div]
  rfl

theorem conversion_correct (maxBrightness : UInt32)
    (hfits : 255 * maxBrightness.toNat < 2 ^ 32) :
    (∀ color, rgbaToBrightnessChecked color maxBrightness =
        some (rgbaToBrightnessMax color maxBrightness) ∧
      rgbaToBrightnessMax color maxBrightness ≤ maxBrightness ∧
      (channel 24 color = 0 ∨ isLit color = false →
        rgbaToBrightnessMax color maxBrightness = 0) ∧
      rgbaToBrightnessMax color maxBrightness = scalingFormula color * maxBrightness / 0xFF) ∧
    rgbaToBrightnessMax 0xFFFFFFFF maxBrightness = maxBrightness ∧
    ∀ color other, ChannelsLe color other →
      rgbaToBrightnessMax color maxBrightness ≤ rgbaToBrightnessMax other maxBrightness := by
  refine ⟨fun color => ⟨rgbaToBrightnessChecked_eq color hfits, rgbaToBrightnessMax_le color hfits,
    rgbaToBrightnessMax_zero hfits, ?_⟩, rgbaToBrightnessMax_white hfits,
    fun color other => rgbaToBrightnessMax_mono hfits⟩
  rw [rgbaToBrightnessMax, rgbaToBrightness_eq_scalingFormula]

theorem conversion_correct_default :
    rgbaToBrightnessMax 0xFFFFFFFF kDefaultMaxLedBrightness = kDefaultMaxLedBrightness :=
  (conversion_correct kDefaultMaxLedBrightness (by decide)).2.1

end Raphael.Lights
