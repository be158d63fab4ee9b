import Raphael.Recovery.BoyerMoore
import Mathlib.Data.List.TakeWhile

namespace Raphael.Recovery

def XBL_PART_PATH : String := "/dev/block/bootdevice/by-name/xbl_a"

def TZ_VER_STR : Bytes := ascii "QC_IMAGE_VERSION_STRING=TZ."

def TZ_VER_STR_LEN : Nat := 27

def TZ_VER_BUF_LEN : Nat := 255

def ENOENT : Int := 2

-- What the kernel answers for one path: the errno of the call that fails, and
-- the content that a successful mmap shows.
structure PartitionFile where
  openErrno : Option Int
  lseekErrno : Option Int
  mmapErrno : Option Int
  data : Bytes

def PartitionFile.Readable (file : PartitionFile) : Prop :=
  file.openErrno = none ∧ file.lseekErrno = none ∧ file.mmapErrno = none

-- The returned code, and what is in the caller's buffer when it was written.
def getInfo (len : Nat) (lookupStr : Bytes) (lookupStrLen : Nat) (part : PartitionFile) :
    Option (Int × Option Bytes) :=
  match part.openErrno, part.lseekErrno, part.mmapErrno with
  | some errno, _, _ => some (errno, none)
  | none, some errno, _ => some (errno, none)
  | none, none, some errno => some (errno, none)
  | none, none, none => do
      let offset ← bmSearch part.data part.data.length lookupStr lookupStrLen
      match offset with
      | some offset => do
          let str ← snprintfString len (part.data.drop (offset + lookupStrLen))
          some (0, some str)
      | none => some (-ENOENT, none)

inductive CauseCode
  | kFreadFailure
  | kArgsParsingFailure
  deriving DecidableEq, Repr

inductive Value
  | errorAbort (cause : CauseCode) (message : String)
  | stringValue (text : String)
  deriving DecidableEq, Repr

-- The loop over the arguments, each a NUL-terminated copy of a std::string.
def matchesVersion (current : Bytes) : List Bytes → Option Bool
  | [] => some false
  | tzVersion :: rest => do
      let order ← strncmp (tzVersion ++ [0]) current tzVersion.length
      if order = 0 then some true else matchesVersion current rest

-- `args` is what ReadArgs yields, none when it fails.
def verifyTrustZoneFn (device : String → PartitionFile) (name : String)
    (args : Option (List Bytes)) : Option Value := do
  let (ret, currentTzVersion) ←
    getInfo TZ_VER_BUF_LEN TZ_VER_STR TZ_VER_STR_LEN (device XBL_PART_PATH)
  if ret ≠ 0 then
    some (.errorAbort .kFreadFailure s!"{name}() failed to read current TZ version: {ret}")
  else
    match args with
    | none => some (.errorAbort .kArgsParsingFailure s!"{name}() error parsing arguments")
    | some args => do
        let current ← currentTzVersion
        let found ← matchesVersion current args
        some (.stringValue (if found then "1" else "0"))

end Raphael.Recovery
