import Raphael.Fingerprint.Device

namespace Raphael.Fingerprint

def World.registered (world : World) (device : FingerprintDevice) : World :=
  { world with notified := world.notified ++ [device] }

def World.fpVendor (world : World) : Option String :=
  world.properties "persist.vendor.sys.fp.vendor"

theorem setFpVendorProp_fpVendor (fpVendor : String) (world : World) :
    (setFpVendorProp fpVendor world).fpVendor = some fpVendor := by
  simp [World.fpVendor, setFpVendorProp]

theorem mem_registered (world : World) (device : FingerprintDevice) :
    device ∈ (world.registered device).notified :=
  List.mem_append_right _ List.mem_cons_self

theorem mem_opened (world : World) (device : FingerprintDevice) :
    device ∈ (world.opened ⟨0, some device⟩).openDevices :=
  List.mem_append_right _ List.mem_cons_self

theorem opened_eq_iff (world : World) (result : OpenResult) :
    (world.opened result).openDevices = world.openDevices ↔ result.device = none := by
  simp [World.opened]

def FingerprintDevice.Supported (device : FingerprintDevice) : Prop :=
  kVersion.toUInt32 = device.version

instance (device : FingerprintDevice) : Decidable device.Supported :=
  inferInstanceAs (Decidable (kVersion.toUInt32 = device.version))

-- The ways getDeviceForVendor can end.
inductive GetDevice (opens : Option OpenResult) (world : World) :
    Option (Option FingerprintDevice × World) → Prop where
  | notReached (hopens : opens = none) : GetDevice opens world (some (none, world))
  | openFailed (result : OpenResult) (hopens : opens = some result) (herr : result.err ≠ 0) :
      GetDevice opens world (some (none, world.opened result))
  | nullDevice (hopens : opens = some ⟨0, none⟩) : GetDevice opens world none
  | wrongVersion (device : FingerprintDevice) (hopens : opens = some ⟨0, some device⟩)
      (hversion : ¬device.Supported) :
      GetDevice opens world (some (none, world.opened ⟨0, some device⟩))
  | loaded (device : FingerprintDevice) (hopens : opens = some ⟨0, some device⟩)
      (hversion : device.Supported) :
      GetDevice opens world (some (some device, world.opened ⟨0, some device⟩))

theorem getDeviceForVendor_cases (vendor : Vendor) (className : String) (world : World) :
    GetDevice (vendor className).opens world (getDeviceForVendor vendor className world) := by
  unfold getDeviceForVendor
  generalize vendor className = lookup
  obtain ⟨err, hwModule⟩ := lookup
  by_cases herr : err = 0
  · subst herr
    rw [if_neg (not_not_intro rfl)]
    obtain _ | ⟨_ | ⟨openErr, device⟩⟩ := hwModule
    · exact .notReached rfl
    · exact .notReached rfl
    · dsimp only
      by_cases hopen : openErr = 0
      · subst hopen
        rw [if_neg (not_not_intro rfl)]
        cases device with
        | none => exact .nullDevice rfl
        | some device =>
            dsimp only
            by_cases hversion : kVersion.toUInt32 = device.version
            · rw [if_neg (not_not_intro hversion)]
              exact .loaded device rfl hversion
            · rw [if_pos hversion]
              exact .wrongVersion device rfl hversion
      · rw [if_pos hopen]
        exact .openFailed _ rfl hopen
  · rw [if_pos herr]
    refine .notReached ?_
    obtain _ | ⟨_ | result⟩ := hwModule
    · rfl
    · rfl
    · exact if_pos herr

-- The ways openHal can end. The failures after a device was stored leave it
-- open, and the last one leaves the property of a working device as well.
inductive OpenHal (opens : Option OpenResult) (world : World) :
    Option (Option FingerprintDevice × World) → Prop where
  | notReached (hopens : opens = none) :
      OpenHal opens world (some (none, setFpVendorProp "none" world))
  | openFailed (result : OpenResult) (hopens : opens = some result) (herr : result.err ≠ 0) :
      OpenHal opens world (some (none, setFpVendorProp "none" (world.opened result)))
  | nullDevice (hopens : opens = some ⟨0, none⟩) : OpenHal opens world none
  | wrongVersion (device : FingerprintDevice) (hopens : opens = some ⟨0, some device⟩)
      (hversion : ¬device.Supported) :
      OpenHal opens world (some (none, setFpVendorProp "none" (world.opened ⟨0, some device⟩)))
  | notRegistered (device : FingerprintDevice) (hopens : opens = some ⟨0, some device⟩)
      (hversion : device.Supported) (hnotify : device.setNotify ≠ 0) :
      OpenHal opens world
        (some (none, setFpVendorProp "goodix_fod" (world.opened ⟨0, some device⟩)))
  | registered (device : FingerprintDevice) (hopens : opens = some ⟨0, some device⟩)
      (hversion : device.Supported) (hnotify : device.setNotify = 0) :
      OpenHal opens world (some (some device,
        (setFpVendorProp "goodix_fod" (world.opened ⟨0, some device⟩)).registered device))

theorem openHal_cases (vendor : Vendor) (world : World) :
    OpenHal (vendor "goodix_fod").opens world (openHal vendor world) := by
  unfold openHal getFingerprintDevice
  have hcases := getDeviceForVendor_cases vendor "goodix_fod" world
  generalize getDeviceForVendor vendor "goodix_fod" world = found at hcases
  cases hcases with
  | notReached hopens => exact .notReached hopens
  | openFailed result hopens herr => exact .openFailed result hopens herr
  | nullDevice hopens => exact .nullDevice hopens
  | wrongVersion device hopens hversion => exact .wrongVersion device hopens hversion
  | loaded device hopens hversion =>
      dsimp only
      by_cases hnotify : device.setNotify = 0
      · rw [if_neg (not_not_intro hnotify)]
        exact .registered device hopens hversion hnotify
      · rw [if_pos hnotify]
        exact .notRegistered device hopens hversion hnotify

-- The module hands out a device that openHal can keep.
def Vendor.Provides (vendor : Vendor) : Prop :=
  ∃ device, (vendor "goodix_fod").opens = some ⟨0, some device⟩ ∧ device.Supported ∧
    device.setNotify = 0

theorem openHal_isSome_iff {vendor : Vendor} {world after : World}
    {device : Option FingerprintDevice} (h : openHal vendor world = some (device, after)) :
    device.isSome ↔ vendor.Provides := by
  have hcases := openHal_cases vendor world
  rw [h] at hcases
  unfold Vendor.Provides
  cases hcases with
  | notReached hopens => simp [hopens]
  | openFailed result hopens herr =>
      simp only [hopens, Option.isSome_none, Bool.false_eq_true, false_iff]
      rintro ⟨device, heq, _⟩
      exact herr (congrArg OpenResult.err (Option.some.inj heq))
  | wrongVersion device hopens hversion => simp [hopens, hversion]
  | notRegistered device hopens hversion hnotify => simp [hopens, hnotify]
  | registered device hopens hversion hnotify => simp [hopens, hversion, hnotify]

-- Either a device that is open and announces its messages, or nothing is left
-- behind. A process that dies on the way has neither.
def AllOrNothing (before : World) : Option (Option FingerprintDevice × World) → Prop
  | some (some device, after) =>
      device ∈ after.openDevices ∧ device ∈ after.notified ∧ after.fpVendor = some "goodix_fod"
  | some (none, after) => after.fpVendor = some "none" ∧ after.openDevices = before.openDevices
  | none => False

-- An open method that fails stores nothing, or one that succeeds stores a device
-- that openHal can keep.
def OpenResult.Clean (result : OpenResult) : Prop :=
  result.err ≠ 0 ∧ result.device = none ∨
    result.err = 0 ∧ ∃ device, result.device = some device ∧ device.Supported ∧
      device.setNotify = 0

-- What fails before a device is stored leaves nothing behind, what fails later
-- does.
theorem openHal_allOrNothing_iff (vendor : Vendor) (world : World) :
    AllOrNothing world (openHal vendor world) ↔
      ∀ result, (vendor "goodix_fod").opens = some result → result.Clean := by
  have hcases := openHal_cases vendor world
  generalize openHal vendor world = outcome at hcases
  cases hcases with
  | notReached hopens =>
      have hleft : (setFpVendorProp "none" world).openDevices = world.openDevices := rfl
      simp [AllOrNothing, hopens, hleft, setFpVendorProp_fpVendor]
  | openFailed result hopens herr =>
      have hleft : (setFpVendorProp "none" (world.opened result)).openDevices =
          world.openDevices ↔ result.device = none := opened_eq_iff world result
      simp [AllOrNothing, OpenResult.Clean, hopens, herr, hleft, setFpVendorProp_fpVendor]
  | nullDevice hopens => simp [AllOrNothing, OpenResult.Clean, hopens]
  | wrongVersion device hopens hversion =>
      have hleft : (setFpVendorProp "none" (world.opened ⟨0, some device⟩)).openDevices ≠
          world.openDevices := fun h => nomatch (opened_eq_iff world _).mp h
      simp [AllOrNothing, OpenResult.Clean, hopens, hversion, hleft]
  | notRegistered device hopens hversion hnotify =>
      simp [AllOrNothing, OpenResult.Clean, hopens, hnotify, setFpVendorProp_fpVendor]
  | registered device hopens hversion hnotify =>
      have hopen : device ∈ ((setFpVendorProp "goodix_fod"
          (world.opened ⟨0, some device⟩)).registered device).openDevices :=
        mem_opened world device
      have hvendor : ((setFpVendorProp "goodix_fod"
          (world.opened ⟨0, some device⟩)).registered device).fpVendor = some "goodix_fod" :=
        setFpVendorProp_fpVendor "goodix_fod" (world.opened ⟨0, some device⟩)
      simp [AllOrNothing, OpenResult.Clean, hopens, hversion, hnotify, mem_registered, hopen,
        hvendor]

-- A device whose set_notify fails.
def silent : FingerprintDevice := ⟨1, by decide, kVersion.toUInt32, -5⟩

theorem openHal_allOrNothing_false :
    ¬∀ vendor world, AllOrNothing world (openHal vendor world) := by
  intro h
  have hsilent := h (fun _ => ⟨0, some ⟨some ⟨0, some silent⟩⟩⟩) ⟨fun _ => none, [], []⟩
  have hprop : some "goodix_fod" = some "none" := hsilent.1
  exact absurd hprop (by decide)

end Raphael.Fingerprint
