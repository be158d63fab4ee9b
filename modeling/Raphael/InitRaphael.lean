import Raphael.Properties

namespace Raphael.InitRaphael

open Properties (Store)

-- A property that does not exist is added on request only.
def propertyOverride (prop value : String) (add : Bool) (store : Store) : Store :=
  if (store prop).isSome then store.set prop value
  else if add then store.set prop value
  else store

-- The choice is by the RAM in bytes.
def loadDalvikvmProperties (totalram : Nat) (store : Store) : Store :=
  let store :=
    if totalram < 7000 * 1024 * 1024 then
      -- 4/6GB RAM
      let store := propertyOverride "dalvik.vm.heapstartsize" "16m" true store
      let store := propertyOverride "dalvik.vm.heaptargetutilization" "0.5" true store
      propertyOverride "dalvik.vm.heapmaxfree" "32m" true store
    else
      -- 8/12/16GB RAM
      let store := propertyOverride "dalvik.vm.heapstartsize" "24m" true store
      let store := propertyOverride "dalvik.vm.heaptargetutilization" "0.46" true store
      propertyOverride "dalvik.vm.heapmaxfree" "48m" true store
  let store := propertyOverride "dalvik.vm.heapgrowthlimit" "256m" true store
  let store := propertyOverride "dalvik.vm.heapsize" "512m" true store
  propertyOverride "dalvik.vm.heapminfree" "8m" true store

def roPropsDefaultSourceOrder : List String :=
  ["", "bootimage.", "odm.", "product.", "system.", "system_ext.", "vendor."]

def setRoProductProp (prop value : String) (store : Store) : Store :=
  roPropsDefaultSourceOrder.foldl
    (fun store source => propertyOverride ("ro.product." ++ source ++ prop) value false store) store

-- The strings are empty until a region sets them.
structure Identity where
  model : String := ""
  device : String := ""
  description : String := ""
  modDevice : String := ""
  deriving DecidableEq, Repr

def identity (region : String) : Identity :=
  if region = "GLOBAL" then
    { model := "Mi 9T Pro"
      device := "raphael"
      description := "raphael-user 11 RKQ1.200826.002 V12.5.2.0.RFKMIXM release-keys"
      modDevice := "raphael_global" }
  else if region = "CN" then
    { model := "Redmi K20 Pro"
      device := "raphael"
      description := "raphael-user 11 RKQ1.200826.002 V12.5.5.0.RFKCNXM release-keys" }
  else if region = "INDIA" then
    { model := "Redmi K20 Pro"
      device := "raphaelin"
      description := "raphaelin-user 11 RKQ1.200826.002 V12.5.1.0.RFKINXM release-keys"
      modDevice := "raphaelin_in_global" }
  else {}

def vendorLoadProperties (totalram : Nat) (store : Store) : Store :=
  let region := store.get "ro.boot.hwc" "GLOBAL"
  let hardwareRevision := store.get "ro.boot.hwversion" "UNKNOWN"
  let id := identity region
  let store := propertyOverride "ro.apex.updatable" "false" true store
  let store := setRoProductProp "device" id.device store
  let store := setRoProductProp "model" id.model store
  let store := propertyOverride "ro.boot.hardware.sku" id.device true store
  let store := propertyOverride "ro.boot.product.hardware.sku" id.device true store
  let store := propertyOverride "ro.build.description" id.description true store
  let store :=
    if id.modDevice ≠ "" then propertyOverride "ro.product.mod_device" id.modDevice true store
    else store
  let store := propertyOverride "ro.boot.hardware.revision" hardwareRevision true store
  loadDalvikvmProperties totalram store

end Raphael.InitRaphael
