import Raphael.InitRaphael.Theorems
import Raphael.Overrides

namespace Raphael.InitRaphael

open Overrides
open Properties (Store)

abbrev Write := Override String String

theorem propertyOverride_eq_apply (prop value : String) (add : Bool) (store : Store) :
    propertyOverride prop value add store = Override.apply store ⟨prop, value, add⟩ := by
  unfold propertyOverride Override.apply Store.set
  cases (store prop).isSome <;> cases add <;> rfl

def productWrites (prop value : String) : List Write :=
  (productNames prop).map fun name => ⟨name, value, false⟩

def dalvikWrites (totalram : Nat) : List Write :=
  (if totalram < 7000 * 1024 * 1024 then
    [⟨"dalvik.vm.heapstartsize", "16m", true⟩, ⟨"dalvik.vm.heaptargetutilization", "0.5", true⟩,
      ⟨"dalvik.vm.heapmaxfree", "32m", true⟩]
  else
    [⟨"dalvik.vm.heapstartsize", "24m", true⟩, ⟨"dalvik.vm.heaptargetutilization", "0.46", true⟩,
      ⟨"dalvik.vm.heapmaxfree", "48m", true⟩]) ++
    [⟨"dalvik.vm.heapgrowthlimit", "256m", true⟩, ⟨"dalvik.vm.heapsize", "512m", true⟩,
      ⟨"dalvik.vm.heapminfree", "8m", true⟩]

-- The writes of a boot. They depend on two properties and on the RAM.
def writes (totalram : Nat) (id : Identity) (hardwareRevision : String) : List Write :=
  ⟨"ro.apex.updatable", "false", true⟩ :: productWrites "device" id.device ++
    productWrites "model" id.model ++
    [⟨"ro.boot.hardware.sku", id.device, true⟩, ⟨"ro.boot.product.hardware.sku", id.device, true⟩,
      ⟨"ro.build.description", id.description, true⟩] ++
    (if id.modDevice ≠ "" then [⟨"ro.product.mod_device", id.modDevice, true⟩] else []) ++
    ⟨"ro.boot.hardware.revision", hardwareRevision, true⟩ :: dalvikWrites totalram

theorem setRoProductProp_eq_applyAll (prop value : String) (store : Store) :
    setRoProductProp prop value store = applyAll store (productWrites prop value) := by
  unfold setRoProductProp productWrites productNames applyAll
  rw [List.map_map, List.foldl_map]
  simp only [propertyOverride_eq_apply, Function.comp_apply]

theorem loadDalvikvmProperties_eq_applyAll (totalram : Nat) (store : Store) :
    loadDalvikvmProperties totalram store = applyAll store (dalvikWrites totalram) := by
  unfold loadDalvikvmProperties dalvikWrites
  simp only [propertyOverride_eq_apply]
  split <;> rfl

theorem vendorLoadProperties_eq_applyAll (totalram : Nat) (store : Store) :
    vendorLoadProperties totalram store =
      applyAll store (writes totalram (regionIdentity store)
        (store.get "ro.boot.hwversion" "UNKNOWN")) := by
  unfold vendorLoadProperties writes regionIdentity
  simp only [propertyOverride_eq_apply, setRoProductProp_eq_applyAll,
    loadDalvikvmProperties_eq_applyAll, List.cons_append, List.append_assoc]
  split <;> rfl

def writtenNames : List String :=
  productNames "device" ++ productNames "model" ++ singleNames ++ dalvikNames

-- The others are only written where they exist.
def createdNames (id : Identity) : List String :=
  (if id.modDevice ≠ "" then singleNames else singleNames.erase "ro.product.mod_device") ++
    dalvikNames

theorem dalvikWrites_keys (totalram : Nat) :
    (dalvikWrites totalram).map Override.key = dalvikNames := by
  unfold dalvikWrites
  split <;> rfl

theorem dalvikWrites_add (totalram : Nat) : ∀ write ∈ dalvikWrites totalram, write.add = true := by
  unfold dalvikWrites
  split <;> simp

theorem productWrites_keys (prop value : String) :
    (productWrites prop value).map Override.key = productNames prop := by
  rw [productWrites, List.map_map]
  exact List.map_id _

theorem writes_keys (totalram : Nat) (id : Identity) (hardwareRevision : String) :
    ∀ write ∈ writes totalram id hardwareRevision, write.key ∈ writtenNames := by
  intro write hwrite
  have hkey := List.mem_map_of_mem (f := Override.key) hwrite
  unfold writes at hkey
  simp only [List.map_append, List.map_cons, productWrites_keys, dalvikWrites_keys,
    List.cons_append, List.mem_append, List.mem_cons] at hkey
  unfold writtenNames singleNames
  simp only [List.mem_append, List.mem_cons]
  split at hkey <;> simp at hkey ⊢ <;> tauto

theorem productWrites_add (prop value : String) :
    (productWrites prop value).filter Override.add = [] := by
  rw [List.filter_eq_nil_iff]
  intro write hwrite
  obtain ⟨name, -, rfl⟩ := List.mem_map.mp hwrite
  exact Bool.false_ne_true

theorem writes_creates (totalram : Nat) (id : Identity) (hardwareRevision key : String) :
    (writes totalram id hardwareRevision).any (creates key) = true ↔ key ∈ createdNames id := by
  have hdalvik : (dalvikWrites totalram).filter Override.add = dalvikWrites totalram :=
    List.filter_eq_self.mpr (dalvikWrites_add totalram)
  rw [any_creates_iff]
  unfold writes createdNames
  by_cases hmod : id.modDevice = ""
  · have herase : singleNames.erase "ro.product.mod_device" =
        ["ro.apex.updatable", "ro.boot.hardware.sku", "ro.boot.product.hardware.sku",
          "ro.build.description", "ro.boot.hardware.revision"] := by decide +kernel
    simp [hmod, herase, List.filter_append, productWrites_add, hdalvik,
      dalvikWrites_keys]
  · simp [hmod, singleNames, List.filter_append, productWrites_add, hdalvik,
      dalvikWrites_keys]

-- The RAM decides about values only.
theorem writes_covers (first second : Nat) (id : Identity) (hardwareRevision : String) :
    Covers (writes first id hardwareRevision) (writes second id hardwareRevision) := by
  have hdalvik : Covers (dalvikWrites first) (dalvikWrites second) := by
    apply covers_of_keys
    · rw [dalvikWrites_keys, dalvikWrites_keys]
      exact List.Subset.refl _
    · exact dalvikWrites_add second
  unfold writes
  exact (Covers.refl _).append ((Covers.refl [_]).append hdalvik)

theorem vendorLoadProperties_frame (totalram : Nat) (store : Store) {key : String}
    (hkey : key ∉ writtenNames) : vendorLoadProperties totalram store key = store key := by
  rw [vendorLoadProperties_eq_applyAll]
  apply applyAll_of_forall_ne
  intro write hwrite heq
  exact hkey (heq ▸ writes_keys totalram _ _ write hwrite)

-- What is read is not written, so that loading again comes to the same.
theorem vendorLoadProperties_again (first second : Nat) (store : Store) :
    vendorLoadProperties second (vendorLoadProperties first store) =
      vendorLoadProperties second store := by
  have hregion : regionIdentity (vendorLoadProperties first store) = regionIdentity store := by
    rw [regionIdentity, Store.get, vendorLoadProperties_frame first store (by decide +kernel)]
    rfl
  have hrevision : (vendorLoadProperties first store).get "ro.boot.hwversion" "UNKNOWN" =
      store.get "ro.boot.hwversion" "UNKNOWN" := by
    rw [Store.get, vendorLoadProperties_frame first store (by decide +kernel)]
    rfl
  rw [vendorLoadProperties_eq_applyAll second, hregion, hrevision,
    vendorLoadProperties_eq_applyAll first, applyAll_applyAll (writes_covers _ _ _ _),
    vendorLoadProperties_eq_applyAll second]

-- Loading the properties touches no others, creates those that are promised and
-- no more, and leaves nothing of an earlier load.
theorem vendorLoadProperties_extent (totalram : Nat) (store : Store) :
    (∀ key, key ∉ writtenNames → vendorLoadProperties totalram store key = store key) ∧
      (∀ key, store key = none →
        ((vendorLoadProperties totalram store key).isSome ↔
          key ∈ createdNames (regionIdentity store))) ∧
      (∀ key, store key ≠ none → vendorLoadProperties totalram store key ≠ none) ∧
      ∀ later, vendorLoadProperties later (vendorLoadProperties totalram store) =
        vendorLoadProperties later store := by
  have hisSome := isSome_applyAll store
    (writes totalram (regionIdentity store) (store.get "ro.boot.hwversion" "UNKNOWN"))
  rw [← vendorLoadProperties_eq_applyAll] at hisSome
  refine ⟨fun key => vendorLoadProperties_frame totalram store, ?_, ?_,
    fun later => vendorLoadProperties_again totalram later store⟩
  · intro key hnone
    rw [hisSome, hnone, Option.isSome_none, Bool.false_or, writes_creates]
  · intro key hsome
    rw [← Option.isSome_iff_ne_none] at hsome ⊢
    rw [hisSome, hsome, Bool.true_or]

end Raphael.InitRaphael
