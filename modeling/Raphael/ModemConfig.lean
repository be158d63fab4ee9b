import Mathlib.Data.List.DropRight
import Raphael.Trace

namespace Raphael.ModemConfig

-- A name below a directory, by its components.
abbrev Path := List String

def verInfoPath : Path := ["ver_info.txt"]
def mbnOtaPath : Path := ["mbn_ota.txt"]

inductive Node where
  | file (text : String)
  | link (target : String)
  | directory
  deriving DecidableEq, Repr

inductive Owner where
  | rootRoot | radioRoot
  deriving DecidableEq, Repr

structure Entry where
  node : Node
  owner : Owner
  deriving DecidableEq, Repr

-- What the firmware partition holds. The names that configs/* expands to are
-- not those of the two files.
structure Firmware where
  verInfo : String
  configs : Path → Option Node
  mbnOta : String
  configs_verInfo : configs verInfoPath = none
  configs_mbnOta : configs mbnOtaPath = none

-- Command substitution drops every NUL, and the newlines at the end.
def substitute (text : String) : String :=
  String.ofList ((text.toList.filter (· ≠ '\x00')).rdropWhile (· = '\n'))

def Firmware.version (firmware : Firmware) : String := substitute firmware.verInfo

-- /data/vendor/modem_config, and ro.vendor.ril.mbn_copy_completed.
structure State where
  entries : Path → Option Entry
  mbnCopyCompleted : Bool

abbrev Command := State → State

-- Modes are left out, so that these commands only take their time.
def chmodGroupWrite : Command := id
def chmodDirectory : Command := id

def removeAll : Command := fun s => { s with entries := fun _ => none }

-- A copied file belongs to the user of the script.
def copyFile (path : Path) (text : String) : Command := fun s =>
  { s with entries := Function.update s.entries path (some ⟨.file text, .rootRoot⟩) }

def copyConfigs (firmware : Firmware) : Command := fun s =>
  { s with
    entries := fun path =>
      match firmware.configs path with
      | some node => some ⟨node, .rootRoot⟩
      | none => s.entries path }

def chownAll : Command := fun s =>
  { s with
    entries := fun path => (s.entries path).map fun entry => { entry with owner := .radioRoot } }

def setprop : Command := fun s => { s with mbnCopyCompleted := true }

def copyCommands (firmware : Firmware) : List Command :=
  [chmodGroupWrite, removeAll, copyConfigs firmware, copyFile verInfoPath firmware.verInfo,
    copyFile mbnOtaPath firmware.mbnOta, chownAll]

def prevVersionInfo (s : State) : String :=
  match s.entries verInfoPath with
  | some ⟨.file text, _⟩ => substitute text
  | _ => ""

-- Whether [ takes "$prev" != "$cur" at the end of its arguments for true. A left
-- operand ! is a negation and fails on the right one, and ( is a parenthesis,
-- around != alone, which fails unless the right operand closes it.
def testNe (prev cur : String) : Bool :=
  if prev = "!" then false else if prev = "(" then cur = ")" else prev ≠ cur

-- The commands that a boot goes through.
def script (firmware : Firmware) (s : State) : List Command :=
  (if testNe (prevVersionInfo s) firmware.version then copyCommands firmware else []) ++
    [chmodDirectory, setprop]

-- A boot that is cut off executes the given number of commands.
structure Boot where
  firmware : Firmware
  cut : Option Nat

def Boot.commands (boot : Boot) (s : State) : List Command :=
  match boot.cut with
  | none => script boot.firmware s
  | some n => (script boot.firmware s).take n

def exec (commands : List Command) (s : State) : State :=
  commands.foldl (fun s command => command s) s

-- The property does not outlive a boot.
def step (s : State) (boot : Boot) : Option State :=
  some (exec (boot.commands s) { s with mbnCopyCompleted := false })

def empty : State := ⟨fun _ => none, false⟩

end Raphael.ModemConfig
