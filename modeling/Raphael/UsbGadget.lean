import Raphael.InitRc

namespace Raphael.UsbGadget

open InitRc (Action Arg)

-- The links of the configuration, in the order in which they are made.
def slots : List String :=
  ["/config/usb_gadget/g1/configs/b.1/f1", "/config/usb_gadget/g1/configs/b.1/f2",
    "/config/usb_gadget/g1/configs/b.1/f3", "/config/usb_gadget/g1/configs/b.1/f4",
    "/config/usb_gadget/g1/configs/b.1/f5", "/config/usb_gadget/g1/configs/b.1/f6",
    "/config/usb_gadget/g1/configs/b.1/f7", "/config/usb_gadget/g1/configs/b.1/f8",
    "/config/usb_gadget/g1/configs/b.1/f9"]

def idVendorPath : String := "/config/usb_gadget/g1/idVendor"
def idProductPath : String := "/config/usb_gadget/g1/idProduct"
def configurationPath : String := "/config/usb_gadget/g1/configs/b.1/strings/0x409/configuration"
def udcPath : String := "/config/usb_gadget/g1/UDC"
def pidPath : String := "/config/usb_gadget/g1/functions/diag.diag/pid"
def functionsPath : String := "/config/usb_gadget/g1/functions/"

-- The functions that exist from boot on, those of mtp and ptp with FunctionFS
-- only if vendor.usb.use_ffs_mtp was 1 by then.
def bootFunctions (useFfsMtp : Bool) : List String :=
  ["mass_storage.0", "mtp.gs0", "ptp.gs1", "accessory.gs2", "audio_source.gs3", "midi.gs5",
    "ffs.adb", "ffs.diag", "ffs.diag_mdm", "ffs.diag_mdm2", "diag.diag", "diag.diag_mdm",
    "diag.diag_mdm2", "cser.dun.0", "cser.nmea.1", "cser.dun.2", "gsi.rmnet", "gsi.rndis",
    "gsi.dpl", "qdss.qdss", "qdss.qdss_mdm", "rndis_bam.rndis", "rndis.rndis", "rmnet_bam.rmnet",
    "rmnet_bam.dpl", "rmnet_bam.rmnet_bam_dmux", "rmnet_bam.dpl_bam_dmux", "ncm.0", "ccid.ccid",
    "uac2.0", "uvc.0"] ++ if useFfsMtp then ["ffs.mtp", "ffs.ptp"] else []

-- The paths of the gadget itself, which every composition uses.
def gadgetPaths : List String :=
  [configurationPath, idVendorPath, idProductPath, pidPath, udcPath] ++ slots

-- What is there after a boot, as far as the compositions use it.
def afterBoot (useFfsMtp : Bool) (path : String) : Bool :=
  path ∈ gadgetPaths || path ∈ (bootFunctions useFfsMtp).map (functionsPath ++ ·) ||
    path ∈ ["qdss.qdss", "qdss.qdss_mdm"].map (functionsPath ++ · ++ "/enable_debug_inface")

def function (name : String) : Arg := [.text (functionsPath ++ name)]

def diag (inst : String) : Arg :=
  [.text functionsPath, .prop "vendor.usb.diag.func.name", .text ("." ++ inst)]

def rmnet : Arg :=
  [.text functionsPath, .prop "vendor.usb.rmnet.func.name", .text ".",
    .prop "vendor.usb.rmnet.inst.name"]

def dpl : Arg :=
  [.text functionsPath, .prop "vendor.usb.rmnet.func.name", .text ".",
    .prop "vendor.usb.dpl.inst.name"]

def rndis : Arg := [.text functionsPath, .prop "vendor.usb.rndis.func.name", .text ".rndis"]

def qdss : Arg := [.text functionsPath, .text "qdss.", .prop "vendor.usb.qdss.inst.name"]

-- What the actions that set up a composition differ in.
structure Composition where
  config : String
  ffsReady : Bool := false
  useFfsMtp : Option String := none
  configuration : String
  idVendor : String := "0x05C6"
  idProduct : String
  pid : Option String := none
  debugInface : Bool := false
  functions : List Arg
  state : Arg := [.prop "sys.usb.config"]
  deriving DecidableEq, Repr

namespace Composition

def conditions (c : Composition) : List (String × String) :=
  (if c.ffsReady then [("sys.usb.ffs.ready", "1")] else []) ++ ("sys.usb.config", c.config) ::
    (c.useFfsMtp.toList.map fun value => ("vendor.usb.use_ffs_mtp", value)) ++
    [("sys.usb.configfs", "1")]

def attributes (c : Composition) : List InitRc.Command :=
  (c.pid.toList.map fun pid => .write [.text pidPath] [.text pid]) ++
    if c.debugInface then [.write (qdss ++ [.text "/enable_debug_inface"]) [.text "1"]] else []

-- The old links are removed before the new ones are made.
def commands (c : Composition) : List InitRc.Command :=
  .write [.text configurationPath] [.text c.configuration] :: slots.map .rm ++
    [.write [.text idVendorPath] [.text c.idVendor],
      .write [.text idProductPath] [.text c.idProduct]] ++
    c.attributes ++ List.zipWith .symlink c.functions slots ++
    [.write [.text udcPath] [.prop "sys.usb.controller"], .setprop "sys.usb.state" c.state]

def action (c : Composition) : Action := ⟨c.conditions, c.commands⟩

end Composition

def startAdbd (config : String) : Action :=
  ⟨[("sys.usb.config", config), ("sys.usb.configfs", "1")], [.start "adbd"]⟩

def mirrorConfig : Action :=
  ⟨[("persist.vendor.usb.config", "*")],
    [.setprop "persist.sys.usb.config" [.prop "persist.vendor.usb.config"]]⟩

def clear : Action :=
  ⟨[("sys.usb.config", "none"), ("sys.usb.configfs", "1")], slots.map .rm⟩

def tethering : Action :=
  ⟨[("vendor.usb.tethering", "true")],
    [.write [.text "/sys/class/net/rndis0/queues/rx-0/rps_cpus"] [.prop "vendor.usb.rps_mask"]]⟩

def rndisExtra : Action :=
  ⟨[("sys.usb.config", "rndis")],
    [.setprop "sys.usb.config" [.text "rndis,", .prop "persist.vendor.usb.config.extra"]]⟩

def rndisExtraAdb : Action :=
  ⟨[("sys.usb.config", "rndis,adb")],
    [.setprop "sys.usb.config"
      [.text "rndis,", .prop "persist.vendor.usb.config.extra", .text ",adb"]]⟩

-- This one uses the second gadget.
def rndisSec : Action :=
  ⟨[("sys.usb.config", "rndis,sec"), ("sys.usb.configfs", "1")],
    [.write [.text "/config/usb_gadget/g2/configs/b.1/strings/0x409/configuration"] [.text "rndis"],
      .rm "/config/usb_gadget/g2/configs/b.1/f1",
      .write [.text "/config/usb_gadget/g2/idVendor"] [.text "0x05C6"],
      .write [.text "/config/usb_gadget/g2/idProduct"] [.text "0xF00E"],
      .symlink
        [.text "/config/usb_gadget/g2/functions/", .prop "vendor.usb.rndis.func.name",
          .text ".rndis"]
        "/config/usb_gadget/g2/configs/b.1/f1",
      .write [.text "/config/usb_gadget/g2/UDC"] [.prop "persist.vendor.usb.controller.secondary"],
      .setprop "sys.usb.state" [.text "rndis"]]⟩

-- For these configurations the rest is done by the platform's own scripts.
def writeIds (config idVendor idProduct : String) : Action :=
  ⟨[("sys.usb.config", config), ("sys.usb.configfs", "1")],
    [.write [.text idVendorPath] [.text idVendor],
      .write [.text idProductPath] [.text idProduct]]⟩

def linkFfs (config : String) (names : List String) : Action :=
  ⟨[("sys.usb.config", config), ("vendor.usb.use_ffs_mtp", "1"), ("sys.usb.configfs", "1")],
    List.zipWith (fun name slot => .symlink (function name) slot) names slots⟩

def eudOn : Action :=
  ⟨[("vendor.usb.eud", "1")],
    [.write [.text "/config/usb_gadget/g1/configs/b.1/MaxPower"] [.text "1"],
      .write [.text "/sys/module/eud/parameters/enable"] [.text "1"],
      .write [.text "/sys/kernel/debug/pmic-votable/USB_ICL/force_active"] [.text "1"],
      .write [.text "/sys/kernel/debug/pmic-votable/USB_ICL/force_val"] [.text "500"]]⟩

def eudOff : Action :=
  ⟨[("vendor.usb.eud", "0")],
    [.write [.text "/sys/kernel/debug/pmic-votable/USB_ICL/force_active"] [.text "0"],
      .write [.text "/sys/kernel/debug/pmic-votable/USB_ICL/force_val"] [.text "0"],
      .write [.text "/config/usb_gadget/g1/configs/b.1/MaxPower"] [.text "0"],
      .write [.text "/sys/module/eud/parameters/enable"] [.text "0"]]⟩

inductive Row where
  | composition (c : Composition)
  | startAdbd (config : String)
  | writeIds (config idVendor idProduct : String)
  | other (action : Action)

def Row.action : Row → Action
  | .composition c => c.action
  | .startAdbd config => UsbGadget.startAdbd config
  | .writeIds config idVendor idProduct => UsbGadget.writeIds config idVendor idProduct
  | .other action => action

-- The actions with property triggers, in the order of the file.
def table : List Row := [
  .other mirrorConfig,
  .other clear,
  .composition {
    config := "mass_storage", configuration := "msc", idProduct := "0xF000",
    functions := [function "mass_storage.0"] },
  .startAdbd "mass_storage,adb",
  .composition {
    config := "mass_storage,adb", ffsReady := true, configuration := "adb_msc",
    idProduct := "0x9015", functions := [function "ffs.adb", function "mass_storage.0"] },
  .startAdbd "diag,adb",
  .composition {
    config := "diag,adb", ffsReady := true, configuration := "diag_adb", idProduct := "0x901D",
    pid := some "0x901d", functions := [diag "diag", function "ffs.adb"] },
  .composition {
    config := "diag", configuration := "diag", idProduct := "0x900E", pid := some "0x900e",
    functions := [diag "diag"] },
  .startAdbd "diag,serial_cdev,rmnet,adb",
  .composition {
    config := "diag,serial_cdev,rmnet,adb", ffsReady := true,
    configuration := "Default composition", idProduct := "0x9091", pid := some "0x9091",
    functions := [diag "diag", function "cser.dun.0", rmnet, function "ffs.adb"] },
  .composition {
    config := "diag,serial_cdev,rmnet", configuration := "Default comp without ADB",
    idProduct := "0x9092", pid := some "0x9092",
    functions := [diag "diag", function "cser.dun.0", rmnet] },
  .startAdbd "diag,serial_cdev,serial_cdev_nmea,adb",
  .composition {
    config := "diag,serial_cdev,serial_cdev_nmea,adb", ffsReady := true,
    configuration := "diag_dun_nmea_adb", idProduct := "0x9020", pid := some "0x9020",
    functions := [diag "diag", function "ffs.adb", function "cser.dun.0",
      function "cser.nmea.1"] },
  .other tethering,
  .other rndisExtra,
  .composition {
    config := "rndis,none", configuration := "rndis", idVendor := "0x2717", idProduct := "0xFF80",
    functions := [rndis], state := [.text "rndis"] },
  .other rndisSec,
  .other rndisExtraAdb,
  .startAdbd "rndis,none,adb",
  .composition {
    config := "rndis,none,adb", ffsReady := true, configuration := "rndis_adb",
    idVendor := "0x2717", idProduct := "0xFF88", functions := [rndis, function "ffs.adb"],
    state := [.text "rndis,adb"] },
  .composition {
    config := "rndis,diag", configuration := "rndis_diag", idProduct := "0x902C",
    functions := [rndis, diag "diag"], state := [.text "rndis"] },
  .startAdbd "rndis,diag,adb",
  .composition {
    config := "rndis,diag,adb", ffsReady := true, configuration := "rndis_diag_adb",
    idProduct := "0x902D", functions := [rndis, diag "diag", function "ffs.adb"],
    state := [.text "rndis,adb"] },
  .composition {
    config := "rndis,serial_cdev", configuration := "rndis_dun", idProduct := "0x90B3",
    functions := [rndis, function "cser.dun.0"], state := [.text "rndis"] },
  .startAdbd "rndis,serial_cdev,adb",
  .composition {
    config := "rndis,serial_cdev,adb", ffsReady := true, configuration := "rndis_dun_adb",
    idProduct := "0x90B4", functions := [rndis, function "cser.dun.0", function "ffs.adb"],
    state := [.text "rndis,adb"] },
  .composition {
    config := "rndis,serial_cdev,diag", configuration := "rndis_dun_diag", idProduct := "0x90B5",
    functions := [rndis, function "cser.dun.0", diag "diag"], state := [.text "rndis"] },
  .startAdbd "rndis,serial_cdev,diag,adb",
  .composition {
    config := "rndis,serial_cdev,diag,adb", ffsReady := true, configuration := "rndis_dun_diag",
    idProduct := "0x90B6",
    functions := [rndis, function "cser.dun.0", diag "diag", function "ffs.adb"],
    state := [.text "rndis,adb"] },
  .composition {
    config := "mtp,diag", useFfsMtp := some "0", configuration := "mtp_diag",
    idProduct := "0x901B", functions := [function "mtp.gs0", diag "diag"] },
  .composition {
    config := "mtp,diag", useFfsMtp := some "1", configuration := "ffs-mtp_diag",
    idProduct := "0x901B", functions := [function "ffs.mtp", diag "diag"] },
  .startAdbd "mtp,diag,adb",
  .composition {
    config := "mtp,diag,adb", ffsReady := true, useFfsMtp := some "0",
    configuration := "mtp_diag_adb", idProduct := "0x903A",
    functions := [function "mtp.gs0", diag "diag", function "ffs.adb"] },
  .composition {
    config := "mtp,diag,adb", ffsReady := true, useFfsMtp := some "1",
    configuration := "ffs-mtp_diag_adb", idProduct := "0x903A",
    functions := [function "ffs.mtp", diag "diag", function "ffs.adb"] },
  .composition {
    config := "diag,qdss", configuration := "diag_qdss", idProduct := "0x904A",
    pid := some "0x904a", debugInface := true, functions := [diag "diag", qdss] },
  .startAdbd "diag,qdss,adb",
  .composition {
    config := "diag,qdss,adb", ffsReady := true, configuration := "diag_qdss_adb",
    idProduct := "0x9060", pid := some "0x9060", debugInface := true,
    functions := [diag "diag", qdss, function "ffs.adb"] },
  .composition {
    config := "diag,qdss,rmnet", configuration := "diag_qdss_rmnet", idProduct := "0x9083",
    pid := some "0x9083", debugInface := true, functions := [diag "diag", qdss, rmnet] },
  .startAdbd "diag,qdss,rmnet,adb",
  .composition {
    config := "diag,qdss,rmnet,adb", ffsReady := true, configuration := "diag_qdss_rmnet_adb",
    idProduct := "0x9084", pid := some "0x9084", debugInface := true,
    functions := [diag "diag", qdss, function "ffs.adb", rmnet] },
  .composition {
    config := "rndis,diag,qdss", configuration := "rndis_diag_qdss", idProduct := "0x9081",
    debugInface := true, functions := [rndis, diag "diag", qdss] },
  .startAdbd "rndis,diag,qdss,adb",
  .composition {
    config := "rndis,diag,qdss,adb", ffsReady := true, configuration := "rndis_diag_qdss_adb",
    idProduct := "0x9082", debugInface := true,
    functions := [rndis, diag "diag", qdss, function "ffs.adb"] },
  .composition {
    config := "ncm", configuration := "ncm", idProduct := "0xA4A1",
    functions := [function "ncm.0"] },
  .startAdbd "ncm,adb",
  .composition {
    config := "ncm,adb", ffsReady := true, configuration := "ncm_adb", idProduct := "0x908C",
    functions := [function "ncm.0", function "ffs.adb"] },
  .composition {
    config := "diag,serial_cdev", configuration := "diag_dun", idProduct := "0x9004",
    pid := some "0x9004", functions := [diag "diag", function "cser.dun.0"] },
  .startAdbd "diag,adb,serial_cdev",
  .composition {
    config := "diag,adb,serial_cdev", ffsReady := true, configuration := "diag_adb_dun",
    idProduct := "0x901f", pid := some "0x901f",
    functions := [diag "diag", function "ffs.adb", function "cser.dun.0"] },
  .composition {
    config := "diag,serial_cdev,rmnet,dpl", configuration := "diag_dun_rmnet_dpl",
    idProduct := "0x90b7", pid := some "0x90b7",
    functions := [diag "diag", function "cser.dun.0", rmnet, dpl] },
  .startAdbd "diag,serial_cdev,rmnet,dpl,adb",
  .composition {
    config := "diag,serial_cdev,rmnet,dpl,adb", ffsReady := true,
    configuration := "diag_dun_rmnet_dpl_adb", idProduct := "0x90b8", pid := some "0x90b8",
    functions := [diag "diag", function "cser.dun.0", rmnet, dpl, function "ffs.adb"] },
  .composition {
    config := "rndis,diag,dpl", configuration := "rndis_diag_dpl", idProduct := "0x90bf",
    functions := [rndis, diag "diag", dpl], state := [.text "rndis"] },
  .startAdbd "rndis,diag,dpl,adb",
  .composition {
    config := "rndis,diag,dpl,adb", ffsReady := true, configuration := "rndis_diag_dpl_adb",
    idProduct := "0x90c0", functions := [rndis, diag "diag", dpl, function "ffs.adb"],
    state := [.text "rndis,adb"] },
  .composition {
    config := "ccid", configuration := "ccid", idProduct := "0x90CE",
    functions := [function "ccid.ccid"] },
  .startAdbd "ccid,adb",
  .composition {
    config := "ccid,adb", ffsReady := true, configuration := "ccid_adb", idProduct := "0x90CF",
    functions := [function "ccid.ccid", function "ffs.adb"] },
  .composition {
    config := "ccid,diag", configuration := "ccid_diag", idProduct := "0x90D0",
    functions := [function "ccid.ccid", diag "diag"] },
  .startAdbd "ccid,diag,adb",
  .composition {
    config := "ccid,diag,adb", ffsReady := true, configuration := "ccid_diag_adb",
    idProduct := "0x90D1", functions := [function "ccid.ccid", diag "diag", function "ffs.adb"] },
  .composition {
    config := "diag,serial_cdev,rmnet,ccid", configuration := "diag_dun_rmnet_ccid",
    idProduct := "0x90D2", pid := some "0x90d2",
    functions := [diag "diag", function "cser.dun.0", rmnet, function "ccid.ccid"] },
  .startAdbd "diag,serial_cdev,rmnet,ccid,adb",
  .composition {
    config := "diag,serial_cdev,rmnet,ccid,adb", ffsReady := true,
    configuration := "diag_dun_rmnet_ccid_adb", idProduct := "0x90D3", pid := some "0x90d3",
    functions := [diag "diag", function "cser.dun.0", rmnet, function "ccid.ccid",
      function "ffs.adb"] },
  .composition {
    config := "diag,diag_mdm,qdss,qdss_mdm,serial_cdev,serial_cdev_mdm,rmnet",
    configuration := "diag_diag_mdm,qdss_qdss_mdm_dun_dun_mdm_rmnet", idProduct := "0x90D7",
    pid := some "0x90d7",
    functions := [diag "diag", diag "diag_mdm", function "qdss.qdss", function "qdss.qdss_mdm",
      function "cser.dun.0", function "cser.dun.2", rmnet] },
  .startAdbd "diag,diag_mdm,qdss,qdss_mdm,serial_cdev,serial_cdev_mdm,rmnet,adb",
  .composition {
    config := "diag,diag_mdm,qdss,qdss_mdm,serial_cdev,serial_cdev_mdm,rmnet,adb",
    ffsReady := true, configuration := "diag_diag_mdm,qdss_qdss_mdm_dun_dun_mdm_rmnet_adb",
    idProduct := "0x90D8", pid := some "0x90d8",
    functions := [diag "diag", diag "diag_mdm", function "qdss.qdss", function "qdss.qdss_mdm",
      function "cser.dun.0", function "cser.dun.2", rmnet, function "ffs.adb"] },
  .composition {
    config := "diag,diag_mdm,qdss,qdss_mdm,serial_cdev,serial_cdev_mdm,dpl,rmnet",
    configuration := "diag_diag_mdm,qdss_qdss_mdm_dun_dun_mdm_dpl_rmnet", idProduct := "0x90DD",
    pid := some "0x90dd",
    functions := [diag "diag", diag "diag_mdm", function "qdss.qdss", function "qdss.qdss_mdm",
      function "cser.dun.0", function "cser.dun.2", dpl, rmnet] },
  .startAdbd "diag,diag_mdm,qdss,qdss_mdm,serial_cdev,serial_cdev_mdm,dpl,rmnet,adb",
  .composition {
    config := "diag,diag_mdm,qdss,qdss_mdm,serial_cdev,serial_cdev_mdm,dpl,rmnet,adb",
    ffsReady := true, configuration := "diag_diag_mdm,qdss_qdss_mdm_dun_dun_mdm_dpl_rmnet_adb",
    idProduct := "0x90DE", pid := some "0x90de",
    functions := [diag "diag", diag "diag_mdm", function "qdss.qdss", function "qdss.qdss_mdm",
      function "cser.dun.0", function "cser.dun.2", dpl, rmnet, function "ffs.adb"] },
  .composition {
    config := "diag,serial_cdev,rmnet,dpl,qdss", configuration := "diag_dun_rmnet_dpl_qdss",
    idProduct := "0x90DC", pid := some "0x90dc",
    functions := [diag "diag", function "cser.dun.0", rmnet, dpl, qdss] },
  .startAdbd "diag,serial_cdev,rmnet,dpl,qdss,adb",
  .composition {
    config := "diag,serial_cdev,rmnet,dpl,qdss,adb", ffsReady := true,
    configuration := "diag_dun_rmnet_dpl_qdss_adb", idProduct := "0x90DB", pid := some "0x90db",
    functions := [diag "diag", function "cser.dun.0", rmnet, dpl, qdss, function "ffs.adb"] },
  .startAdbd "diag,uac2,adb",
  .composition {
    config := "diag,uac2,adb", ffsReady := true, configuration := "diag_uac2_adb",
    idProduct := "0x90CA", pid := some "0x90ca",
    functions := [diag "diag", function "ffs.adb", function "uac2.0"] },
  .composition {
    config := "diag,uac2", configuration := "diag_uac2", idProduct := "0x901C",
    pid := some "0x901c", functions := [diag "diag", function "uac2.0"] },
  .startAdbd "diag,uvc,adb",
  .composition {
    config := "diag,uvc,adb", ffsReady := true, configuration := "diag_uvc_adb",
    idProduct := "0x90CB", pid := some "0x90cb",
    functions := [diag "diag", function "ffs.adb", function "uvc.0"] },
  .composition {
    config := "diag,uvc", configuration := "diag_uvc", idProduct := "0x90DF",
    pid := some "0x90df", functions := [diag "diag", function "uvc.0"] },
  .startAdbd "diag,uac2,uvc,adb",
  .composition {
    config := "diag,uac2,uvc,adb", ffsReady := true, configuration := "diag_uac2_uvc_adb",
    idProduct := "0x90CC", pid := some "0x90cc",
    functions := [diag "diag", function "ffs.adb", function "uac2.0", function "uvc.0"] },
  .composition {
    config := "diag,uac2,uvc", configuration := "diag_uac2_uvc", idProduct := "0x90E0",
    pid := some "0x90e0", functions := [diag "diag", function "uac2.0", function "uvc.0"] },
  .composition {
    config := "diag,diag_mdm,qdss,qdss_mdm,serial_cdev,dpl,rmnet", ffsReady := true,
    configuration := "diag_diag_mdm_qdss_qdss_mdm_dun_dpl_rmnet", idProduct := "0x90E4",
    pid := some "0x90e4",
    functions := [diag "diag", diag "diag_mdm", function "qdss.qdss", function "qdss.qdss_mdm",
      function "cser.dun.0", dpl, rmnet] },
  .startAdbd "diag,diag_mdm,qdss,qdss_mdm,serial_cdev,dpl,rmnet,adb",
  .composition {
    config := "diag,diag_mdm,qdss,qdss_mdm,serial_cdev,dpl,rmnet,adb", ffsReady := true,
    configuration := "diag_diag_mdm_qdss_qdss_mdm_dun_dpl_rmnet_adb", idProduct := "0x90E5",
    pid := some "0x90e5",
    functions := [diag "diag", diag "diag_mdm", function "qdss.qdss", function "qdss.qdss_mdm",
      function "cser.dun.0", dpl, rmnet, function "ffs.adb"] },
  .composition {
    config := "rndis,diag,diag_mdm,qdss,qdss_mdm,serial_cdev,dpl", ffsReady := true,
    configuration := "rndis_diag_diag_mdm_qdss_qdss_mdm_dun_dpl", idProduct := "0x90E6",
    functions := [rndis, diag "diag", diag "diag_mdm", function "qdss.qdss",
      function "qdss.qdss_mdm", function "cser.dun.0", dpl], state := [.text "rndis"] },
  .startAdbd "rndis,diag,diag_mdm,qdss,qdss_mdm,serial_cdev,dpl,adb",
  .composition {
    config := "rndis,diag,diag_mdm,qdss,qdss_mdm,serial_cdev,dpl,adb", ffsReady := true,
    configuration := "rndis_diag_diag_mdm_qdss_qdss_mdm_dun_dpl_adb", idProduct := "0x90E7",
    functions := [rndis, diag "diag", diag "diag_mdm", function "qdss.qdss",
      function "qdss.qdss_mdm", function "cser.dun.0", dpl, function "ffs.adb"],
    state := [.text "rndis,adb"] },
  .composition {
    config := "rndis,diag,qdss,serial_cdev,dpl", ffsReady := true,
    configuration := "rndis_diag_qdss_dun_dpl", idProduct := "0x90E8",
    functions := [rndis, diag "diag", qdss, function "cser.dun.0", dpl],
    state := [.text "rndis"] },
  .startAdbd "rndis,diag,qdss,serial_cdev,dpl,adb",
  .composition {
    config := "rndis,diag,qdss,serial_cdev,dpl,adb", ffsReady := true,
    configuration := "rndis_diag_qdss_dun_dpl_adb", idProduct := "0x90E9",
    functions := [rndis, diag "diag", qdss, function "cser.dun.0", dpl, function "ffs.adb"],
    state := [.text "rndis,adb"] },
  .startAdbd "diag,diag_mdm,adb",
  .composition {
    config := "diag,diag_mdm,adb", ffsReady := true, configuration := "diag_diag_mdm_adb",
    idProduct := "0x90D9", pid := some "0x90d9",
    functions := [diag "diag", diag "diag_mdm", function "ffs.adb"] },
  .composition {
    config := "diag,diag_mdm,diag_mdm2,qdss,qdss_mdm,serial_cdev,dpl,rmnet", ffsReady := true,
    configuration := "diag_diag_mdm_diag_mdm2_qdss_qdss_mdm_dun_dpl_rmnet", idProduct := "0x90F6",
    pid := some "0x90f6",
    functions := [diag "diag", diag "diag_mdm", diag "diag_mdm2", function "qdss.qdss",
      function "qdss.qdss_mdm", function "cser.dun.0", dpl, rmnet] },
  .startAdbd "diag,diag_mdm,diag_mdm2,qdss,qdss_mdm,serial_cdev,dpl,rmnet,adb",
  .composition {
    config := "diag,diag_mdm,diag_mdm2,qdss,qdss_mdm,serial_cdev,dpl,rmnet,adb", ffsReady := true,
    configuration := "diag_diag_mdm_diag_mdm2_qdss_qdss_mdm_dun_dpl_rmnet_adb",
    idProduct := "0x90F7", pid := some "0x90f7",
    functions := [diag "diag", diag "diag_mdm", diag "diag_mdm2", function "qdss.qdss",
      function "qdss.qdss_mdm", function "cser.dun.0", dpl, rmnet, function "ffs.adb"] },
  .composition {
    config := "rndis,diag,diag_mdm,diag_mdm2,qdss,qdss_mdm,serial_cdev,dpl", ffsReady := true,
    configuration := "rndis_diag_diag_mdm_diag_mdm2_qdss_qdss_mdm_dun_dpl", idProduct := "0x90F8",
    functions := [rndis, diag "diag", diag "diag_mdm", diag "diag_mdm2", function "qdss.qdss",
      function "qdss.qdss_mdm", function "cser.dun.0", dpl], state := [.text "rndis"] },
  .startAdbd "rndis,diag,diag_mdm,diag_mdm2,qdss,qdss_mdm,serial_cdev,dpl,adb",
  .composition {
    config := "rndis,diag,diag_mdm,diag_mdm2,qdss,qdss_mdm,serial_cdev,dpl,adb", ffsReady := true,
    configuration := "rndis_diag_diag_mdm_diag_mdm2_qdss_qdss_mdm_dun_dpl_adb",
    idProduct := "0x90F9",
    functions := [rndis, diag "diag", diag "diag_mdm", diag "diag_mdm2", function "qdss.qdss",
      function "qdss.qdss_mdm", function "cser.dun.0", dpl, function "ffs.adb"],
    state := [.text "rndis,adb"] },
  .composition {
    config := "diag,diag_mdm,ccid", configuration := "diag_diag_mdm_ccid", idProduct := "0x9045",
    pid := some "0x9045", functions := [diag "diag", diag "diag_mdm", function "ccid.ccid"] },
  .startAdbd "diag,diag_mdm,adb,ccid",
  .composition {
    config := "diag,diag_mdm,adb,ccid", ffsReady := true,
    configuration := "diag_diag_mdm_adb_ccid", idProduct := "0x9044", pid := some "0x9044",
    functions := [diag "diag", diag "diag_mdm", function "ffs.adb", function "ccid.ccid"] },
  .startAdbd "diag,diag_cnss,serial_cdev,rmnet,dpl,qdss,adb",
  .composition {
    config := "diag,diag_cnss,serial_cdev,rmnet,dpl,qdss,adb", ffsReady := true,
    configuration := "diag_diag_cnss_dun_rmnet_dpl_qdss_adb", idProduct := "0x9110",
    pid := some "0x9110",
    functions := [diag "diag", diag "diag_mdm2", function "cser.dun.0", rmnet, dpl, qdss,
      function "ffs.adb"] },
  .composition {
    config := "diag,diag_cnss,serial_cdev,rmnet,dpl,qdss",
    configuration := "diag_diag_cnss_dun_rmnet_dpl_qdss", idProduct := "0x9111",
    pid := some "0x9111",
    functions := [diag "diag", diag "diag_mdm2", function "cser.dun.0", rmnet, dpl, qdss] },
  .writeIds "adb" "0x18d1" "0x4ee7",
  .writeIds "mtp" "0x2717" "0xff40",
  .other (linkFfs "mtp" ["ffs.mtp"]),
  .writeIds "mtp,adb" "0x2717" "0xff48",
  .other (linkFfs "mtp,adb" ["ffs.mtp", "ffs.adb"]),
  .writeIds "ptp" "0x2717" "0xff10",
  .other (linkFfs "ptp" ["ffs.ptp"]),
  .writeIds "ptp,adb" "0x2717" "0xff18",
  .other (linkFfs "ptp,adb" ["ffs.ptp", "ffs.adb"]),
  .writeIds "accessory" "0x18d1" "0x2d00",
  .writeIds "accessory,adb" "0x18d1" "0x2d01",
  .writeIds "audio_source" "0x18d1" "0x2d02",
  .writeIds "audio_source,adb" "0x18d1" "0x2d03",
  .writeIds "accessory,audio_source" "0x18d1" "0x2d04",
  .writeIds "accessory,audio_source,adb" "0x18d1" "0x2d05",
  .writeIds "midi" "0x18d1" "0x4ee8",
  .writeIds "midi,adb" "0x18d1" "0x4ee9",
  .other eudOn,
  .other eudOff]

def rc : List Action := table.map Row.action

def compositions : List Composition :=
  table.filterMap fun row => match row with
    | .composition c => some c
    | _ => none

def others : List Action :=
  table.filterMap fun row => match row with
    | .other action => some action
    | _ => none

end Raphael.UsbGadget
