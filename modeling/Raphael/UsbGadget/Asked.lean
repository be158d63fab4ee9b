import Mathlib.Data.List.Perm.Basic
import Raphael.UsbGadget.Theorems

namespace Raphael.UsbGadget

open InitRc
open Properties (Store)

-- The function that a word asks for. Next to qdss_mdm, qdss is the function of
-- that name, and diag_cnss has the second modem's diagnostics.
def functionOf (words : List String) (useFfsMtp : Bool) : String → Option Arg
  | "mass_storage" => some (function "mass_storage.0")
  | "adb" => some (function "ffs.adb")
  | "diag" => some (diag "diag")
  | "diag_mdm" => some (diag "diag_mdm")
  | "diag_mdm2" | "diag_cnss" => some (diag "diag_mdm2")
  | "serial_cdev" => some (function "cser.dun.0")
  | "serial_cdev_mdm" => some (function "cser.dun.2")
  | "serial_cdev_nmea" => some (function "cser.nmea.1")
  | "rmnet" => some rmnet
  | "dpl" => some dpl
  | "rndis" => some rndis
  | "qdss" => some (if "qdss_mdm" ∈ words then function "qdss.qdss" else qdss)
  | "qdss_mdm" => some (function "qdss.qdss_mdm")
  | "mtp" => some (function (if useFfsMtp then "ffs.mtp" else "mtp.gs0"))
  | "ncm" => some (function "ncm.0")
  | "ccid" => some (function "ccid.ccid")
  | "uac2" => some (function "uac2.0")
  | "uvc" => some (function "uvc.0")
  | _ => none

def asked (words : List String) (useFfsMtp : Bool) : List Arg :=
  words.filterMap (functionOf words useFfsMtp)

section Holds

variable {c : Composition} {props : Store} (hrow : .composition c ∈ table)
  (hon : c.action.holds props = true)
include hrow hon

end Holds

-- The links of a gadget that is set up are its functions in order. A slot is
-- empty whose function has no name yet, or has not been made.
theorem SetUp.links {origin : World} {c : Composition} {world : World} (h : SetUp origin c world)
    (hlength : c.functions.length ≤ slots.length) :
    slots.map world.links =
      c.functions.map (linkTarget origin) ++
        List.replicate (slots.length - c.functions.length) none := by
  apply List.ext_getElem
  · rw [List.length_map, List.length_append, List.length_map, List.length_replicate]
    omega
  · intro i hi _
    have hslot : i < slots.length := List.length_map world.links ▸ hi
    have hget : slots[i]? = some slots[i] := List.getElem?_eq_getElem hslot
    rw [List.getElem_map, List.getElem_append]
    split
    · rename_i hfunction
      have hlt : i < c.functions.length := List.length_map (linkTarget origin) ▸ hfunction
      obtain ⟨slot, hsome, hlink⟩ := h.linked i _ (List.getElem?_eq_getElem hlt)
      obtain rfl := Option.some.inj (hget.symm.trans hsome)
      rw [hlink, List.getElem_map]
    · rename_i hfunction
      rw [List.length_map] at hfunction
      rw [List.getElem_replicate]
      exact h.free i _ hget (Nat.le_of_not_lt hfunction)

end Raphael.UsbGadget
