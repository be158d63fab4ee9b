import Mathlib.Data.List.Basic

namespace Raphael.Fingerprint.FodStatus

def PARAM_NIT_FOD : Int := 1
def PARAM_NIT_NONE : Int := 0

def FOD_STATUS_ON : Int := 1
def FOD_STATUS_OFF : Int := -1

-- readBool, given the return codes of lseek and read and the character read.
def readBool (lseekRc readRc : Int) (c : Char) : Bool :=
  if lseekRc ≠ 0 then false else if readRc ≠ 1 then false else c ≠ '0'

-- Where the poll thread stands in its loop.
inductive Thread where
  | poll
  | haveRead (fingerDown : Bool)
  | sentNit
  deriving DecidableEq, Repr

inductive ClientCall where
  | fingerDown | fingerUp
  deriving DecidableEq, Repr

-- A change of fod_ui wakes the poll until the node is read again. The value
-- found at boot counts as a change that has not been read. The last values
-- written are none before the first write.
structure State where
  fodUi : Bool
  unread : Bool
  thread : Thread
  nit : Option Int
  fodStatus : Option Int
  lastCall : Option ClientCall
  deriving DecidableEq, Repr

def boot (fodUi : Bool) : State := ⟨fodUi, true, .poll, none, none, none⟩

-- The flag of a write says whether it reaches the node.
inductive Event where
  | fodUiChanged (value : Bool)
  | pollFailed
  | readBool (lseekRc readRc : Int)
  | extCmd
  | setFodStatus (written : Bool)
  | onFingerDown (written : Bool)
  | onFingerUp
  deriving DecidableEq, Repr

def step (s : State) : Event → Option State
  | .fodUiChanged value => some { s with fodUi := value, unread := true }
  | .pollFailed => if s.thread = .poll then some s else none
  | .readBool lseekRc readRc =>
      if s.thread = .poll then
        let c := if s.fodUi then '1' else '0'
        some { s with
          unread := false
          thread := .haveRead (FodStatus.readBool lseekRc readRc c) }
      else none
  | .extCmd =>
      match s.thread with
      | .haveRead fingerDown =>
          some { s with
            nit := some (if fingerDown then PARAM_NIT_FOD else PARAM_NIT_NONE)
            thread := if fingerDown then .poll else .sentNit }
      | _ => none
  | .setFodStatus written =>
      if s.thread = .sentNit then
        some { s with
          fodStatus := if written then some FOD_STATUS_OFF else s.fodStatus
          thread := .poll }
      else none
  | .onFingerDown written =>
      some { s with
        fodStatus := if written then some FOD_STATUS_ON else s.fodStatus
        lastCall := some .fingerDown }
  | .onFingerUp => some { s with lastCall := some .fingerUp }

end Raphael.Fingerprint.FodStatus
