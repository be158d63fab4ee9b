import Raphael.Regex
import Raphael.Recovery.CLib

namespace Raphael.ReleaseTools

open Raphael.Recovery (Bytes ascii)
open Raphael.Regex

inductive PyError
  | keyError (key : String)
  | typeError (message : String)
  deriving DecidableEq, Repr

inductive PyVal
  | bytes (data : Bytes)
  | str (text : String)
  deriving DecidableEq, Repr

-- `value.split(sep)` with a one-character str as separator. A bytes object
-- splits at bytes only.
def PyVal.split (value : PyVal) (sep : Char) : Except PyError (List String) :=
  match value with
  | .bytes _ => .error (.typeError "a bytes-like object is required, not 'str'")
  | .str text => .ok ((text.toList.splitOn sep).map String.ofList)

abbrev Zip := String → Option Bytes

def Zip.read (zip : Zip) (name : String) : Except PyError Bytes :=
  match zip name with
  | some data => .ok data
  | none => .error (.keyError name)

-- The part of the build's info object that the assertions use. The script is
-- the list of its lines.
structure OtaInfo where
  inputZip : Zip
  targetZip : Zip
  script : List String

def OtaInfo.appendExtra (info : OtaInfo) (extra : String) : OtaInfo :=
  { info with script := info.script ++ [extra] }

-- `\s` of a bytes pattern.
def isSpace (c : UInt8) : Bool := c == 32 || (9 ≤ c && c ≤ 13)

-- require\s+version-trustzone\s*=\s*(\S+)
def versionPattern : List (Item UInt8) :=
  literal (ascii "require") ++ [.plus isSpace] ++ literal (ascii "version-trustzone") ++
    [.star isSpace] ++ literal (ascii "=") ++ [.star isSpace, .plus fun c => !isSpace c]

-- m.group(1): the group encloses the last item.
def group1 (pieces : List Bytes) : Bytes := pieces.getLastD []

def assertionCmd (versions : List String) : String :=
  "assert(xiaomi.verify_trustzone(" ++
    ",".intercalate (versions.map fun tz => "\"" ++ tz ++ "\"") ++
    ") == \"1\" || abort(\"ERROR: This package requires firmware from an Android 10 " ++
    "based MIUI build. Please upgrade firmware and retry!\"););"

-- The function reads `info.inputZip` whatever zip it is handed.
def addTrustZoneAssertion (info : OtaInfo) (_inputZip : Zip) : Except PyError OtaInfo := do
  let androidInfo ← info.inputZip.read "OTA/android-info.txt"
  match search versionPattern androidInfo with
  | none => .ok info
  | some pieces => do
      let versions ← (PyVal.bytes (group1 pieces)).split '|'
      if versions.length ≠ 0 ∧ "*" ∉ versions then .ok (info.appendExtra (assertionCmd versions))
      else .ok info

def fullOTAAssertions (info : OtaInfo) : Except PyError OtaInfo :=
  addTrustZoneAssertion info info.inputZip

def incrementalOTAAssertions (info : OtaInfo) : Except PyError OtaInfo :=
  addTrustZoneAssertion info info.targetZip

end Raphael.ReleaseTools
