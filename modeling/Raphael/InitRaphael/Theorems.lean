import Raphael.InitRaphael

namespace Raphael.InitRaphael

open Properties (Store)

theorem propertyOverride_self (prop value : String) (store : Store) :
    propertyOverride prop value true store prop = some value := by
  rw [propertyOverride, if_pos rfl, ite_self, Store.set_self]

theorem propertyOverride_of_ne {prop key : String} (value : String) (add : Bool) (store : Store)
    (hne : key ≠ prop) : propertyOverride prop value add store key = store key := by
  unfold propertyOverride
  split
  · exact store.set_of_ne value hne
  · split
    · exact store.set_of_ne value hne
    · rfl

-- A property that does not exist is not created.
theorem propertyOverride_existing (prop value : String) (store : Store) :
    propertyOverride prop value false store prop = (store prop).map fun _ => value := by
  unfold propertyOverride
  cases hprop : store prop with
  | none => exact hprop
  | some old => exact store.set_self prop value

def productNames (prop : String) : List String :=
  roPropsDefaultSourceOrder.map fun source => "ro.product." ++ source ++ prop

theorem setRoProductProp_eq (prop value : String) (store : Store) (key : String) :
    setRoProductProp prop value store key =
      if key ∈ productNames prop then (store key).map fun _ => value else store key := by
  unfold setRoProductProp productNames
  generalize roPropsDefaultSourceOrder = sources
  induction sources generalizing store with
  | nil => simp
  | cons source sources ih =>
      rw [List.foldl_cons, ih]
      simp only [List.map_cons, List.mem_cons]
      by_cases hkey : key = "ro.product." ++ source ++ prop
      · rw [← hkey, propertyOverride_existing, Option.map_map]
        exact (ite_self _).trans (if_pos (.inl rfl)).symm
      · rw [propertyOverride_of_ne _ _ _ hkey]
        simp only [hkey, false_or]

def dalvikNames : List String :=
  ["dalvik.vm.heapstartsize", "dalvik.vm.heaptargetutilization", "dalvik.vm.heapmaxfree",
    "dalvik.vm.heapgrowthlimit", "dalvik.vm.heapsize", "dalvik.vm.heapminfree"]

theorem loadDalvikvmProperties_of_not_mem (totalram : Nat) (store : Store) {key : String}
    (hkey : key ∉ dalvikNames) : loadDalvikvmProperties totalram store key = store key := by
  simp only [dalvikNames, List.mem_cons, List.not_mem_nil, or_false, not_or] at hkey
  obtain ⟨hstart, htarget, hmaxfree, hgrowth, hsize, hminfree⟩ := hkey
  unfold loadDalvikvmProperties
  dsimp only
  rw [propertyOverride_of_ne _ _ _ hminfree, propertyOverride_of_ne _ _ _ hsize,
    propertyOverride_of_ne _ _ _ hgrowth]
  split
  · rw [propertyOverride_of_ne _ _ _ hmaxfree, propertyOverride_of_ne _ _ _ htarget,
      propertyOverride_of_ne _ _ _ hstart]
  · rw [propertyOverride_of_ne _ _ _ hmaxfree, propertyOverride_of_ne _ _ _ htarget,
      propertyOverride_of_ne _ _ _ hstart]

-- The names that are written once, apart from those of the virtual machine.
def singleNames : List String :=
  ["ro.apex.updatable", "ro.boot.hardware.sku", "ro.boot.product.hardware.sku",
    "ro.build.description", "ro.product.mod_device", "ro.boot.hardware.revision"]

theorem productNames_apart : ∀ prop ∈ ["device", "model"], ∀ key ∈ productNames prop,
    key ∉ singleNames ∧ key ∉ dalvikNames := by
  decide +kernel

theorem productNames_disjoint : ∀ key ∈ productNames "device", key ∉ productNames "model" := by
  decide +kernel

section Load

variable (totalram : Nat) (store : Store)

def regionIdentity : Identity := identity (store.get "ro.boot.hwc" "GLOBAL")

-- The properties as they are before the skus are written.
def productStore : Store :=
  setRoProductProp "model" (regionIdentity store).model
    (setRoProductProp "device" (regionIdentity store).device
      (propertyOverride "ro.apex.updatable" "false" true store))

-- What is written last concerns other names.
theorem vendorLoadProperties_eq {key : String} (hmodDevice : key ≠ "ro.product.mod_device")
    (hrevision : key ≠ "ro.boot.hardware.revision") (hdalvik : key ∉ dalvikNames) :
    vendorLoadProperties totalram store key =
      propertyOverride "ro.build.description" (regionIdentity store).description true
        (propertyOverride "ro.boot.product.hardware.sku" (regionIdentity store).device true
          (propertyOverride "ro.boot.hardware.sku" (regionIdentity store).device true
            (productStore store))) key := by
  unfold vendorLoadProperties
  rw [loadDalvikvmProperties_of_not_mem _ _ hdalvik, propertyOverride_of_ne _ _ _ hrevision]
  split
  · rw [propertyOverride_of_ne _ _ _ hmodDevice, productStore, regionIdentity]
  · rw [productStore, regionIdentity]

-- Only setRoProductProp concerns these names.
theorem vendorLoadProperties_product {prop key : String} (hprop : prop ∈ ["device", "model"])
    (hkey : key ∈ productNames prop) :
    vendorLoadProperties totalram store key =
      setRoProductProp "model" (regionIdentity store).model
        (setRoProductProp "device" (regionIdentity store).device store) key := by
  obtain ⟨hsingle, hdalvik⟩ := productNames_apart prop hprop key hkey
  simp only [singleNames, List.mem_cons, List.not_mem_nil, or_false, not_or] at hsingle
  obtain ⟨hapex, hsku, hproductSku, hdescription, hmodDevice, hrevision⟩ := hsingle
  rw [vendorLoadProperties_eq totalram store hmodDevice hrevision hdalvik,
    propertyOverride_of_ne _ _ _ hdescription, propertyOverride_of_ne _ _ _ hproductSku,
    propertyOverride_of_ne _ _ _ hsku, productStore]
  simp only [setRoProductProp_eq, propertyOverride_of_ne _ _ _ hapex]

theorem vendorLoadProperties_device {key : String} (hkey : key ∈ productNames "device") :
    vendorLoadProperties totalram store key =
      (store key).map fun _ => (regionIdentity store).device := by
  rw [vendorLoadProperties_product totalram store (by simp) hkey, setRoProductProp_eq,
    if_neg (productNames_disjoint key hkey), setRoProductProp_eq, if_pos hkey]

theorem vendorLoadProperties_model {key : String} (hkey : key ∈ productNames "model") :
    vendorLoadProperties totalram store key =
      (store key).map fun _ => (regionIdentity store).model := by
  rw [vendorLoadProperties_product totalram store (by simp) hkey, setRoProductProp_eq,
    if_pos hkey, setRoProductProp_eq, if_neg fun h => productNames_disjoint key h hkey]

theorem vendorLoadProperties_sku :
    vendorLoadProperties totalram store "ro.boot.hardware.sku" =
      some (regionIdentity store).device := by
  rw [vendorLoadProperties_eq _ _ (by decide +kernel) (by decide +kernel) (by decide +kernel),
    propertyOverride_of_ne _ _ _ (by decide +kernel),
    propertyOverride_of_ne _ _ _ (by decide +kernel), propertyOverride_self]

theorem vendorLoadProperties_productSku :
    vendorLoadProperties totalram store "ro.boot.product.hardware.sku" =
      some (regionIdentity store).device := by
  rw [vendorLoadProperties_eq _ _ (by decide +kernel) (by decide +kernel) (by decide +kernel),
    propertyOverride_of_ne _ _ _ (by decide +kernel), propertyOverride_self]

theorem vendorLoadProperties_description :
    vendorLoadProperties totalram store "ro.build.description" =
      some (regionIdentity store).description := by
  rw [vendorLoadProperties_eq _ _ (by decide +kernel) (by decide +kernel) (by decide +kernel),
    propertyOverride_self]

end Load

-- One value for each existing property of a kind, none for the others.
def Shares (before after : Store) (prop value : String) : Prop :=
  ∀ key ∈ productNames prop, after key = (before key).map fun _ => value

structure Consistent (before after : Store) (device model description : String) : Prop where
  sharesDevice : Shares before after "device" device
  sharesModel : Shares before after "model" model
  sku : after "ro.boot.hardware.sku" = some device
  productSku : after "ro.boot.product.hardware.sku" = some device
  buildDescription : after "ro.build.description" = some description
  nonempty : device ≠ "" ∧ model ≠ "" ∧ description ≠ ""

def regions : List String := ["GLOBAL", "CN", "INDIA"]

theorem identity_nonempty {region : String} (hregion : region ∈ regions) :
    (identity region).device ≠ "" ∧ (identity region).model ≠ "" ∧
      (identity region).description ≠ "" := by
  have hall : ∀ region ∈ regions, (identity region).device ≠ "" ∧ (identity region).model ≠ "" ∧
      (identity region).description ≠ "" := by decide +kernel
  exact hall region hregion

theorem identity_unknown {region : String} (hregion : region ∉ regions) :
    identity region = {} := by
  simp only [regions, List.mem_cons, List.not_mem_nil, or_false, not_or] at hregion
  obtain ⟨hglobal, hcn, hindia⟩ := hregion
  rw [identity, if_neg hglobal, if_neg hcn, if_neg hindia]

theorem vendorLoadProperties_consistent (totalram : Nat) (store : Store)
    (hregion : store.get "ro.boot.hwc" "GLOBAL" ∈ regions) :
    Consistent store (vendorLoadProperties totalram store) (regionIdentity store).device
      (regionIdentity store).model (regionIdentity store).description where
  sharesDevice _ := vendorLoadProperties_device totalram store
  sharesModel _ := vendorLoadProperties_model totalram store
  sku := vendorLoadProperties_sku totalram store
  productSku := vendorLoadProperties_productSku totalram store
  buildDescription := vendorLoadProperties_description totalram store
  nonempty := identity_nonempty hregion

-- Another region leaves an empty sku.
theorem vendorLoadProperties_consistent_iff (totalram : Nat) (store : Store) :
    (∃ device model description,
      Consistent store (vendorLoadProperties totalram store) device model description) ↔
        store.get "ro.boot.hwc" "GLOBAL" ∈ regions := by
  constructor
  · rintro ⟨device, model, description, h⟩
    by_contra hregion
    have hempty : (regionIdentity store).device = "" :=
      congrArg Identity.device (identity_unknown hregion)
    have hdevice := h.sku.symm.trans (vendorLoadProperties_sku totalram store)
    rw [hempty] at hdevice
    exact h.nonempty.1 (Option.some.inj hdevice)
  · intro hregion
    exact ⟨_, _, _, vendorLoadProperties_consistent totalram store hregion⟩

theorem vendorLoadProperties_inconsistent :
    ¬∀ totalram store, ∃ device model description,
      Consistent store (vendorLoadProperties totalram store) device model description := by
  intro h
  obtain ⟨device, model, description, hc⟩ :=
    h 0 fun key => if key = "ro.boot.hwc" then some "GLOBAL_EEA" else none
  obtain rfl : device = "" := by
    apply Option.some.inj
    exact hc.sku.symm.trans (by decide +kernel)
  exact hc.nonempty.1 rfl

end Raphael.InitRaphael
