import Raphael.UsbGadget.Theorems

namespace Raphael.UsbGadget

open InitRc
open Properties (Store)

-- What the script reads of the device it runs on.
structure Platform where
  hwPlatform : String
  machine : String
  socId : String
  esocName : String
  baseband : String
  target : String
  serialNumber : Nat
  usbGadget : Bool
  qdss : Bool

namespace Platform

def socMachine (p : Platform) : String := String.ofList (p.machine.toList.take 2)

def defaultForTarget (p : Platform) : String :=
  if p.target = "msm8996" then "diag,serial_cdev,serial_tty,rmnet_ipa,mass_storage,adb"
  else if p.target = "msm8909" then "diag,serial_smd,rmnet_qti_bam,adb"
  else if p.target = "msm8937" then
    if p.usbGadget then "diag,serial_cdev,rmnet,dpl,adb"
    else if p.socId ∈ ["313", "320"] then "diag,serial_smd,rmnet_ipa,adb"
    else "diag,serial_smd,rmnet_qti_bam,adb"
  else if p.target = "msm8953" then
    if p.usbGadget then "diag,serial_cdev,rmnet,dpl,adb"
    else "diag,serial_smd,rmnet_ipa,adb"
  else if p.target ∈ ["msm8998", "sdm660", "apq8098_latv"] then "diag,serial_cdev,rmnet,adb"
  else if p.target ∈ ["sdm845", "sdm710"] then "diag,serial_cdev,rmnet,dpl,adb"
  else if p.target ∈ ["msmnile", "sm6150", "trinket", "lito", "atoll"] then
    "diag,serial_cdev,rmnet,dpl,qdss,adb"
  else if p.target = "lahaina" then
    if p.qdss then "diag,serial_cdev,rmnet,dpl,qdss,adb" else "diag,serial_cdev,rmnet,dpl,adb"
  else "diag,adb"

def defaultComposition (p : Platform) : String :=
  if p.esocName ≠ "" then "diag,diag_mdm,qdss,qdss_mdm,serial_cdev,dpl,rmnet,adb"
  else if p.baseband = "apq" then "diag,adb"
  else if p.hwPlatform ∈ ["Dragon", "SBC"] then "diag,adb"
  else if p.socMachine = "SA" then "diag,adb"
  else p.defaultForTarget

-- printf %08X
def serialHex (p : Platform) : String :=
  let digits := (Nat.toDigits 16 p.serialNumber).map Char.toUpper
  String.ofList (List.replicate (8 - digits.length) '0' ++ digits)

-- init.qcom.usb.sh, as far as it sets properties.
def usbSh (p : Platform) (store : Store) : Store :=
  let store :=
    if current store "persist.vendor.usb.config" = "" ∧ current store "ro.build.type" ≠ "user" ∧
        current store "init.svc.vendor.usb-gadget-hal-1-0" ≠ "running" then
      store.set "persist.vendor.usb.config" p.defaultComposition
    else store
  let store :=
    if p.usbGadget then
      (store.set "vendor.usb.product_string"
        (p.machine ++ "-" ++ p.hwPlatform ++ " _SN:" ++ p.serialHex)).set "vendor.usb.configfs" "1"
    else store
  let store :=
    if current store "persist.vendor.usb.config.extra" = "" then
      store.set "persist.vendor.usb.config.extra" "none"
    else store
  let store := store.set "vendor.usb.rps_mask" "0"
  if p.socId ∈ ["294", "295", "353", "354"] then store.set "vendor.usb.rps_mask" "40" else store

-- The targets whose compositions the gadget does not have.
def OldTarget (p : Platform) : Prop := p.target ∈ ["msm8996", "msm8909"]

def Legacy (p : Platform) : Prop :=
  p.esocName = "" ∧ p.baseband ≠ "apq" ∧ p.hwPlatform ∉ ["Dragon", "SBC"] ∧ p.socMachine ≠ "SA" ∧
    p.OldTarget

def listed : List String :=
  ["diag,diag_mdm,qdss,qdss_mdm,serial_cdev,dpl,rmnet,adb", "diag,adb",
    "diag,serial_cdev,rmnet,adb", "diag,serial_cdev,rmnet,dpl,adb",
    "diag,serial_cdev,rmnet,dpl,qdss,adb"]

def unlisted : List String :=
  ["diag,serial_cdev,serial_tty,rmnet_ipa,mass_storage,adb", "diag,serial_smd,rmnet_qti_bam,adb"]

section Choice

variable {p : Platform} (hgadget : p.usbGadget = true)
include hgadget

theorem target_cases :
    p.OldTarget ∧ p.defaultForTarget ∈ unlisted ∨ ¬p.OldTarget ∧ p.defaultForTarget ∈ listed := by
  unfold defaultForTarget OldTarget
  by_cases h8996 : p.target = "msm8996"
  · simp [h8996, unlisted]
  by_cases h8909 : p.target = "msm8909"
  · simp [h8909, unlisted]
  right
  refine ⟨by simp [h8996, h8909], ?_⟩
  simp only [h8996, h8909, hgadget, if_false, if_true]
  split
  · simp [listed]
  split
  · simp [listed]
  split
  · simp [listed]
  split
  · simp [listed]
  split
  · simp [listed]
  split
  · split <;> simp [listed]
  · simp [listed]

theorem default_cases :
    p.Legacy ∧ p.defaultComposition ∈ unlisted ∨ ¬p.Legacy ∧ p.defaultComposition ∈ listed := by
  unfold defaultComposition Legacy
  by_cases hesoc : p.esocName = ""
  swap
  · right
    simp [hesoc, listed]
  by_cases hbaseband : p.baseband = "apq"
  · right
    simp [hesoc, hbaseband, listed]
  by_cases hplatform : p.hwPlatform ∈ ["Dragon", "SBC"]
  · right
    simp only [hesoc, hbaseband, hplatform, if_true, if_false]
    simp [listed]
  by_cases hmachine : p.socMachine = "SA"
  · right
    simp only [hesoc, hbaseband, hplatform, hmachine, if_true, if_false]
    simp [listed]
  simp only [hesoc, hbaseband, hplatform, hmachine, if_false, ne_eq, not_true_eq_false,
    not_false_eq_true, true_and]
  exact target_cases hgadget

end Choice

end Platform

section FirstBoot

variable {p : Platform} {store : Store} {s next : State} {events : List Event}

theorem listed_compositions : ∀ config ∈ Platform.listed, ∃ c ∈ compositions,
    c.config = config ∧ c.useFfsMtp = none := by
  decide +kernel

theorem unlisted_compositions : ∀ config ∈ Platform.unlisted, ∀ c ∈ compositions,
    c.config ≠ config := by
  decide +kernel

theorem row_of_mem {c : Composition} (hc : c ∈ compositions) : .composition c ∈ table := by
  obtain ⟨row, hrow, hsome⟩ := List.mem_filterMap.mp hc
  cases row with
  | composition other =>
      cases hsome
      exact hrow
  | startAdbd config => cases hsome
  | writeIds config idVendor idProduct => cases hsome
  | other action => cases hsome

theorem usbSh_config (hunset : current store "persist.vendor.usb.config" = "")
    (hbuild : current store "ro.build.type" ≠ "user")
    (hhal : current store "init.svc.vendor.usb-gadget-hal-1-0" ≠ "running") :
    current (p.usbSh store) "persist.vendor.usb.config" = p.defaultComposition := by
  unfold Platform.usbSh
  simp only [hunset, hbuild, hhal, ne_eq, not_false_eq_true, and_self, if_true]
  split_ifs <;> simp [current_set_of_ne, current_set_self]

theorem admits_self (value : String) : admits value value = true := by
  unfold admits
  split_ifs with hany
  · rw [hany]
    decide
  · simp

theorem holds_of_current {c : Composition} {props : Store} (hmtp : c.useFfsMtp = none)
    (hready : current props "sys.usb.ffs.ready" = "1")
    (hconfigfs : current props "sys.usb.configfs" = "1")
    (hconfig : current props "sys.usb.config" = c.config) : c.action.holds props = true := by
  simp only [Action.holds, Composition.action, Composition.conditions, hmtp]
  split <;> simp [admits_self, hready, hconfigfs, hconfig]

-- A first boot brings the default composition up, except where the kernel has no
-- gadget, or the script chooses a composition that the gadget does not have.
theorem default_set_up (hunset : current store "persist.vendor.usb.config" = "")
    (hbuild : current store "ro.build.type" ≠ "user")
    (hhal : current store "init.svc.vendor.usb-gadget-hal-1-0" ≠ "running")
    (hstart : s.world.props = p.usbSh store)
    (hhas : p.usbGadget = true → HasGadget s.world)
    (hlacks : p.usbGadget = false → ∀ path ∈ gadgetPaths,
      s.world.accessible path = false ∧ s.world.files path = none)
    (h : Run s events next) (hkept : Keeps events fixed)
    (hoff : current s.world.props "sys.usb.configfs" ≠ "1")
    (hready : current next.world.props "sys.usb.ffs.ready" = "1")
    (hconfigfs : current next.world.props "sys.usb.configfs" = "1")
    (hconfig : current next.world.props "sys.usb.config" =
      current s.world.props "persist.vendor.usb.config") :
    (∃ c, .composition c ∈ table ∧ c.config = p.defaultComposition ∧
      SetUp s.world c next.world) ↔ p.usbGadget = true ∧ ¬p.Legacy := by
  rw [hstart, usbSh_config hunset hbuild hhal] at hconfig
  cases hgadget : p.usbGadget with
  | false =>
      obtain ⟨hpath, hnone⟩ := hlacks hgadget configurationPath (by simp [gadgetPaths])
      have hfile := run_untouched hpath h.run
      simp only [Bool.false_eq_true, false_and, iff_false]
      rintro ⟨c, -, -, hup⟩
      rw [hup.configuration, hnone] at hfile
      cases hfile
  | true =>
      rw [eq_self, true_and]
      constructor
      · rintro ⟨c, hrow, hc, -⟩ hlegacy
        have hcases := Platform.default_cases hgadget
        have hunlisted := (hcases.resolve_right fun h => h.1 hlegacy).2
        exact unlisted_compositions _ hunlisted c (mem_compositions hrow) hc
      · intro hlegacy
        have hlisted := ((Platform.default_cases hgadget).resolve_left fun h => hlegacy h.1).2
        obtain ⟨c, hc, hsame, hmtp⟩ := listed_compositions _ hlisted
        have hrow := row_of_mem hc
        have hon := holds_of_current hmtp hready hconfigfs (hconfig.trans hsame.symm)
        have hbefore : c.action.holds s.world.props = false := by
          rw [Bool.eq_false_iff]
          intro hholds
          have hmem : ("sys.usb.configfs", "1") ∈ c.action.conditions := by
            simp [Composition.action, Composition.conditions]
          exact hoff (admits_eq (List.all_eq_true.mp hholds _ hmem) (by decide)).symm
        exact ⟨c, hrow, hsame, h.setUp hrow (hhas hgadget) hkept hbefore hon⟩

def msmnile : Platform :=
  { hwPlatform := "MTP", machine := "SM8150", socId := "339", esocName := "", baseband := "msm",
    target := "msmnile", serialNumber := 305419896, usbGadget := true, qdss := true }

def factory : Store := fun name =>
  if name = "ro.build.type" then some "userdebug"
  else if name = "vendor.usb.diag.func.name" then some "diag"
  else if name = "sys.usb.controller" then some "a600000.dwc3"
  else none

def boot : List Event :=
  [.setProperty "sys.usb.config" "diag,serial_cdev,rmnet,dpl,qdss,adb",
    .setProperty "sys.usb.configfs" "1", .setProperty "sys.usb.ffs.ready" "1"] ++
    List.replicate 71 .turn

def firstBoot : State :=
  ⟨⟨msmnile.usbSh factory, fun _ => none, fun _ => none, afterBoot false⟩, [], []⟩

theorem default_set_up_msmnile : ∃ next c, Run firstBoot boot next ∧
    c.config = "diag,serial_cdev,rmnet,dpl,qdss,adb" ∧
    SetUp firstBoot.world c next.world := by
  have hkept : Keeps boot fixed := by
    intro name value hmem
    simp only [boot, List.mem_append, List.mem_cons, List.mem_replicate, Event.setProperty.injEq,
      reduceCtorEq, and_false, or_false, List.not_mem_nil] at hmem
    obtain ⟨rfl, -⟩ | ⟨rfl, -⟩ | ⟨rfl, -⟩ := hmem <;> decide
  obtain ⟨next, hrun, hend⟩ := @run_of_check firstBoot boot (fun next =>
    current next.world.props "sys.usb.ffs.ready" = "1" &&
      current next.world.props "sys.usb.configfs" = "1" &&
      current next.world.props "sys.usb.config" =
        current firstBoot.world.props "persist.vendor.usb.config") ⟨rfl, rfl⟩
    (by decide +kernel)
  simp only [Bool.and_eq_true, decide_eq_true_eq] at hend
  obtain ⟨⟨hready, hconfigfs⟩, hconfig⟩ := hend
  have hiff := @default_set_up msmnile factory firstBoot next boot (by decide) (by decide)
    (by decide) rfl (fun _ => afterBoot_gadget false) (by simp [msmnile]) hrun hkept
    (by decide +kernel) hready hconfigfs hconfig
  have hlegacy : ¬msmnile.Legacy := by
    simp [Platform.Legacy, Platform.OldTarget, msmnile]
  obtain ⟨c, -, hc, hup⟩ := hiff.mpr ⟨rfl, hlegacy⟩
  exact ⟨next, c, hrun, hc.trans (by decide +kernel), hup⟩

end FirstBoot

end Raphael.UsbGadget
