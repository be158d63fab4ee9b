import Raphael.Fingerprint.Device
import Raphael.Fingerprint.FodStatus
import Raphael.Fingerprint.Notify

namespace Raphael.Fingerprint.Service

open FodStatus (readBool PARAM_NIT_FOD PARAM_NIT_NONE FOD_STATUS_OFF)

def COMMAND_NIT : Int := 10
def PATH_MAX : Nat := 4096

inductive RequestStatus where
  | sysUnknown | sysOk | sysEnoent | sysEintr | sysEio | sysEagain | sysEnomem | sysEacces
  | sysEfault | sysEbusy | sysEinval | sysEnospc | sysEtimedout
  deriving DecidableEq, Repr

def knownStatuses : List (Int32 × RequestStatus) :=
  [(0, .sysOk), (-2, .sysEnoent), (-4, .sysEintr), (-5, .sysEio), (-11, .sysEagain),
    (-12, .sysEnomem), (-13, .sysEacces), (-14, .sysEfault), (-16, .sysEbusy), (-22, .sysEinval),
    (-28, .sysEnospc), (-110, .sysEtimedout)]

def errorFilter (error : Int32) : RequestStatus :=
  (knownStatuses.lookup error).getD .sysUnknown

-- What the service asks of the vendor library.
inductive DeviceCall where
  | preEnroll
  | enroll (hat : HwAuthToken) (gid timeoutSec : UInt32)
  | postEnroll
  | getAuthenticatorId
  | cancel
  | enumerate
  | remove (gid fid : UInt32)
  | setActiveGroup (gid : UInt32) (storePath : String)
  | authenticate (operationId : UInt64) (gid : UInt32)
  | extCmd (cmd param : Int)

inductive Reply where
  | id (value : UInt64)
  | status (value : RequestStatus)
  | code (value : Int32)
  deriving DecidableEq

inductive PollThread where
  | started | polling | returned
  deriving DecidableEq, Repr

-- The calls are those that reached the device, in order. The last value of
-- fod_status is none before the first write.
structure State where
  mDevice : Option FingerprintDevice
  hasClientCallback : Bool
  pollThread : PollThread
  calls : List DeviceCall
  fodStatus : Option Int

-- A use of a null device is a segmentation fault.
inductive Fault where
  | nullDereference
  deriving DecidableEq, Repr

abbrev Method := Except Fault (Reply × State)

-- mDevice->call(mDevice, ..)
def callDevice (s : State) (call : DeviceCall) : Except Fault State :=
  match s.mDevice with
  | none => .error .nullDereference
  | some _ => .ok { s with calls := s.calls ++ [call] }

def returnId (s : State) (call : DeviceCall) (id : UInt64) : Method :=
  (callDevice s call).map fun s => (.id id, s)

def returnStatus (s : State) (call : DeviceCall) (rc : Int32) : Method :=
  (callDevice s call).map fun s => (.status (errorFilter rc), s)

-- The pointer is only cast here.
def setNotify (s : State) (hasClientCallback : Bool) : Method :=
  .ok (.id ((s.mDevice.map FingerprintDevice.address).getD 0),
    { s with hasClientCallback := hasClientCallback })

-- The last argument of each method is what the vendor library answers.
def preEnroll (s : State) (id : UInt64) : Method := returnId s .preEnroll id

def enroll (s : State) (hat : HwAuthToken) (gid timeoutSec : UInt32) (rc : Int32) : Method :=
  returnStatus s (.enroll hat gid timeoutSec) rc

def postEnroll (s : State) (rc : Int32) : Method := returnStatus s .postEnroll rc

def getAuthenticatorId (s : State) (id : UInt64) : Method := returnId s .getAuthenticatorId id

def cancel (s : State) (rc : Int32) : Method := returnStatus s .cancel rc

def enumerate (s : State) (rc : Int32) : Method := returnStatus s .enumerate rc

def remove (s : State) (gid fid : UInt32) (rc : Int32) : Method :=
  returnStatus s (.remove gid fid) rc

def systemUsers : String := "/data/system/users/"

def mutableStorePath (storePath : String) : String :=
  if systemUsers.toList.isPrefixOf storePath.toList then
    "/data/vendor_de/" ++ String.ofList (storePath.toList.drop systemUsers.length)
  else storePath

-- c_str(), up to where a C function reads it.
def cStr (text : String) : String := String.ofList (text.toList.takeWhile (· ≠ '\x00'))

def setActiveGroup (s : State) (gid : UInt32) (storePath : String) (access : Int) (rc : Int32) :
    Method :=
  if storePath.utf8ByteSize ≥ PATH_MAX ∨ storePath.utf8ByteSize ≤ 0 then
    .ok (.status .sysEinval, s)
  else if access ≠ 0 then .ok (.status .sysEinval, s)
  else returnStatus s (.setActiveGroup gid (cStr (mutableStorePath storePath))) rc

def authenticate (s : State) (operationId : UInt64) (gid : UInt32) (rc : Int32) : Method :=
  returnStatus s (.authenticate operationId gid) rc

def extCmd (s : State) (cmd param : Int) (rc : Int32) : Method :=
  (callDevice s (.extCmd cmd param)).map fun s => (.code rc, s)

-- The poll thread opens fod_ui once.
def openFodUi (s : State) (fd : Int) : State :=
  { s with pollThread := if fd < 0 then .returned else .polling }

-- One turn of its loop, given what poll, lseek and read return, the character
-- read and whether the write to fod_status reaches the node.
def pollFodUi (s : State) (rc lseekRc readRc : Int) (c : Char) (written : Bool) :
    Except Fault State :=
  if rc < 0 then .ok s
  else
    let fingerDown := readBool lseekRc readRc c
    let param := if fingerDown then PARAM_NIT_FOD else PARAM_NIT_NONE
    (callDevice s (.extCmd COMMAND_NIT param)).map fun s =>
      if !fingerDown && written then { s with fodStatus := some FOD_STATUS_OFF } else s

-- The interface calls, with their arguments and what the vendor library answers.
inductive Call where
  | setNotify (hasClientCallback : Bool)
  | preEnroll (id : UInt64)
  | enroll (hat : HwAuthToken) (gid timeoutSec : UInt32) (rc : Int32)
  | postEnroll (rc : Int32)
  | getAuthenticatorId (id : UInt64)
  | cancel (rc : Int32)
  | enumerate (rc : Int32)
  | remove (gid fid : UInt32) (rc : Int32)
  | setActiveGroup (gid : UInt32) (storePath : String) (access : Int) (rc : Int32)
  | authenticate (operationId : UInt64) (gid : UInt32) (rc : Int32)
  | extCmd (cmd param : Int) (rc : Int32)

def perform (s : State) : Call → Method
  | .setNotify hasClientCallback => setNotify s hasClientCallback
  | .preEnroll id => preEnroll s id
  | .enroll hat gid timeoutSec rc => enroll s hat gid timeoutSec rc
  | .postEnroll rc => postEnroll s rc
  | .getAuthenticatorId id => getAuthenticatorId s id
  | .cancel rc => cancel s rc
  | .enumerate rc => enumerate s rc
  | .remove gid fid rc => remove s gid fid rc
  | .setActiveGroup gid storePath access rc => setActiveGroup s gid storePath access rc
  | .authenticate operationId gid rc => authenticate s operationId gid rc
  | .extCmd cmd param rc => extCmd s cmd param rc

inductive Event where
  | openFodUi (fd : Int)
  | pollFodUi (rc lseekRc readRc : Int) (c : Char) (written : Bool)
  | clientCall (call : Call)

-- A process that dies inside openHal has no service to begin with.
inductive Process where
  | neverStarted
  | running (s : State)
  | crashed

def after : Except Fault State → Process
  | .ok s => .running s
  | .error .nullDereference => .crashed

-- The detached thread and the binder threads take turns in any order.
def step : Process → Event → Option Process
  | .neverStarted, _ => none
  | .crashed, _ => none
  | .running s, .openFodUi fd =>
      if s.pollThread = .started then some (.running (openFodUi s fd)) else none
  | .running s, .pollFodUi rc lseekRc readRc c written =>
      if s.pollThread = .polling then some (after (pollFodUi s rc lseekRc readRc c written))
      else none
  | .running s, .clientCall call => some (after ((perform s call).map Prod.snd))

-- The constructor goes on without a device.
def create (vendor : Vendor) (world : World) : Process :=
  match openHal vendor world with
  | some (mDevice, _) => .running ⟨mDevice, false, .started, [], none⟩
  | none => .neverStarted

end Raphael.Fingerprint.Service
