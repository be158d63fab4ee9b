import Raphael.Properties

namespace Raphael.Fingerprint

def HARDWARE_MODULE_API_VERSION (major minor : UInt16) : UInt16 :=
  (major &&& 0xff) <<< 8 ||| (minor &&& 0xff)

-- Supported fingerprint HAL version
def kVersion : UInt16 := HARDWARE_MODULE_API_VERSION 2 1

-- A device as the vendor library hands it out, with what its set_notify returns.
structure FingerprintDevice where
  address : UInt64
  notNull : address ≠ 0
  version : UInt32
  setNotify : Int32
  deriving DecidableEq

-- What an open method returns, and the device that it stores, if any. The two
-- need not agree.
structure OpenResult where
  err : Int32
  device : Option FingerprintDevice
  deriving DecidableEq

-- A module comes with its table of methods, in which open may be null.
structure HwModule where
  openMethod : Option OpenResult
  deriving DecidableEq

-- What hw_get_module_by_class returns for a class, and the module it stores.
structure ModuleLookup where
  err : Int32
  hwModule : Option HwModule
  deriving DecidableEq

abbrev Vendor := String → ModuleLookup

-- What the open method of a class does, if it is reached.
def ModuleLookup.opens : ModuleLookup → Option OpenResult
  | ⟨err, some ⟨some result⟩⟩ => if err ≠ 0 then none else some result
  | _ => none

-- What acquiring a device changes outside of the service. A device that an open
-- method has stored is open until someone closes it.
structure World where
  properties : Properties.Store
  openDevices : List FingerprintDevice
  notified : List FingerprintDevice

def setFpVendorProp (fpVendor : String) (world : World) : World :=
  { world with properties := world.properties.set "persist.vendor.sys.fp.vendor" fpVendor }

def World.opened (world : World) (result : OpenResult) : World :=
  { world with openDevices := world.openDevices ++ result.device.toList }

-- A device of the wrong version is not closed. The result is none when the
-- version of a null device is read, which ends the process.
def getDeviceForVendor (vendor : Vendor) (className : String) (world : World) :
    Option (Option FingerprintDevice × World) :=
  let lookup := vendor className
  if lookup.err ≠ 0 then some (none, world)
  else
    match lookup.hwModule with
    | none => some (none, world)
    | some hwModule =>
        match hwModule.openMethod with
        | none => some (none, world)
        | some result =>
            if result.err ≠ 0 then some (none, world.opened result)
            else
              match result.device with
              | none => none
              | some device =>
                  if kVersion.toUInt32 ≠ device.version then some (none, world.opened result)
                  else some (some device, world.opened result)

def getFingerprintDevice (vendor : Vendor) (world : World) :
    Option (Option FingerprintDevice × World) :=
  match getDeviceForVendor vendor "goodix_fod" world with
  | some (some device, world) => some (some device, setFpVendorProp "goodix_fod" world)
  | some (none, world) => some (none, setFpVendorProp "none" world)
  | none => none

-- A device whose set_notify fails is not closed, and the property stays.
def openHal (vendor : Vendor) (world : World) : Option (Option FingerprintDevice × World) :=
  match getFingerprintDevice vendor world with
  | none => none
  | some (none, world) => some (none, world)
  | some (some device, world) =>
      if device.setNotify ≠ 0 then some (none, world)
      else some (some device, { world with notified := world.notified ++ [device] })

end Raphael.Fingerprint
