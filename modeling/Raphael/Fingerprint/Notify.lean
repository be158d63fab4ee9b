import Mathlib.Data.List.Basic

namespace Raphael.Fingerprint

-- hw_auth_token_t is packed.
abbrev HwAuthToken := Vector UInt8 69

structure FingerId where
  gid : UInt32
  fid : UInt32
  deriving DecidableEq

structure Enroll where
  finger : FingerId
  samplesRemaining : UInt32
  msg : UInt64
  deriving DecidableEq

-- Enumerations and removals share one layout.
structure Iterator where
  finger : FingerId
  remainingTemplates : UInt32
  deriving DecidableEq

structure Authenticated where
  finger : FingerId
  hat : HwAuthToken
  deriving DecidableEq

def FINGERPRINT_ERROR : Int32 := -1
def FINGERPRINT_ACQUIRED : Int32 := 1
def FINGERPRINT_TEMPLATE_ENROLLING : Int32 := 3
def FINGERPRINT_TEMPLATE_REMOVED : Int32 := 4
def FINGERPRINT_AUTHENTICATED : Int32 := 5
def FINGERPRINT_TEMPLATE_ENUMERATING : Int32 := 6

def messageTypes : List Int32 :=
  [FINGERPRINT_ERROR, FINGERPRINT_ACQUIRED, FINGERPRINT_TEMPLATE_ENROLLING,
    FINGERPRINT_TEMPLATE_REMOVED, FINGERPRINT_AUTHENTICATED, FINGERPRINT_TEMPLATE_ENUMERATING]

-- The type tag selects the member of the union that is read.
inductive FingerprintMsg where
  | error (error : Int32)
  | acquired (acquiredInfo : Int32)
  | templateEnrolling (enroll : Enroll)
  | templateRemoved (removed : Iterator)
  | authenticated (authenticated : Authenticated)
  | templateEnumerating (enumerated : Iterator)
  | other (type : Int32) (unknown : type ∉ messageTypes)
  deriving DecidableEq

def FingerprintMsg.type : FingerprintMsg → Int32
  | .error _ => FINGERPRINT_ERROR
  | .acquired _ => FINGERPRINT_ACQUIRED
  | .templateEnrolling _ => FINGERPRINT_TEMPLATE_ENROLLING
  | .templateRemoved _ => FINGERPRINT_TEMPLATE_REMOVED
  | .authenticated _ => FINGERPRINT_AUTHENTICATED
  | .templateEnumerating _ => FINGERPRINT_TEMPLATE_ENUMERATING
  | .other type _ => type

inductive FingerprintError where
  | hwUnavailable | unableToProcess | timeout | noSpace | canceled | unableToRemove | lockout
  | vendor
  deriving DecidableEq

inductive FingerprintAcquiredInfo where
  | good | partialImage | insufficient | imagerDirty | tooSlow | tooFast | vendor
  deriving DecidableEq

def FINGERPRINT_ERROR_VENDOR_BASE : Int32 := 1000
def FINGERPRINT_ACQUIRED_VENDOR_BASE : Int32 := 1000

-- The two filters: a table of known codes, an offset above the vendor base,
-- and a fallback for the codes between them.
def vendorFilter {α : Type} (known : List (Int32 × α)) (vendorBase : Int32) (vendor unknown : α)
    (code : Int32) : α × Int32 :=
  match known.lookup code with
  | some result => (result, 0)
  | none => if vendorBase ≤ code then (vendor, code - vendorBase) else (unknown, 0)

def knownErrors : List (Int32 × FingerprintError) :=
  [(1, .hwUnavailable), (2, .unableToProcess), (3, .timeout), (4, .noSpace), (5, .canceled),
    (6, .unableToRemove), (7, .lockout)]

def knownAcquired : List (Int32 × FingerprintAcquiredInfo) :=
  [(0, .good), (1, .partialImage), (2, .insufficient), (3, .imagerDirty), (4, .tooSlow),
    (5, .tooFast)]

def vendorErrorFilter : Int32 → FingerprintError × Int32 :=
  vendorFilter knownErrors FINGERPRINT_ERROR_VENDOR_BASE .vendor .unableToProcess

-- Unlike the errors, vendor codes are reported as a good acquisition.
def vendorAcquiredFilter : Int32 → FingerprintAcquiredInfo × Int32 :=
  vendorFilter knownAcquired FINGERPRINT_ACQUIRED_VENDOR_BASE .good .insufficient

inductive ClientCallback where
  | onError (devId : UInt64) (error : FingerprintError) (vendorCode : Int32)
  | onAcquired (devId : UInt64) (info : FingerprintAcquiredInfo) (vendorCode : Int32)
  | onEnrollResult (devId : UInt64) (fid gid remaining : UInt32)
  | onRemoved (devId : UInt64) (fid gid remaining : UInt32)
  | onAuthenticated (devId : UInt64) (fid gid : UInt32) (token : List UInt8)
  | onEnumerate (devId : UInt64) (fid gid remaining : UInt32)
  deriving DecidableEq

-- A finger that is not recognized has no token.
def Authenticated.token (authenticated : Authenticated) : List UInt8 :=
  if authenticated.finger.fid ≠ 0 then authenticated.hat.toList else []

-- The callback invoked for a message. A failing callback is only logged.
def invoked (devId : UInt64) : FingerprintMsg → List ClientCallback
  | .error error =>
      let (result, vendorCode) := vendorErrorFilter error
      [.onError devId result vendorCode]
  | .acquired acquiredInfo =>
      let (result, vendorCode) := vendorAcquiredFilter acquiredInfo
      [.onAcquired devId result vendorCode]
  | .templateEnrolling enroll =>
      [.onEnrollResult devId enroll.finger.fid enroll.finger.gid enroll.samplesRemaining]
  | .templateRemoved removed =>
      [.onRemoved devId removed.finger.fid removed.finger.gid removed.remainingTemplates]
  | .authenticated authenticated =>
      [.onAuthenticated devId authenticated.finger.fid authenticated.finger.gid authenticated.token]
  | .templateEnumerating enumerated =>
      [.onEnumerate devId enumerated.finger.fid enumerated.finger.gid enumerated.remainingTemplates]
  | .other _ _ => []

def notify (hasClientCallback : Bool) (devId : UInt64) (msg : FingerprintMsg) :
    List ClientCallback :=
  if hasClientCallback then invoked devId msg else []

end Raphael.Fingerprint
