import Raphael.DelayQueue
import Raphael.PopupCamera.LedEffect

namespace Raphael.PopupCamera

def CAMERA_EVENT_DELAY_TIME : Nat := 100 -- ms

def MOTOR_STATUS_POPUP_OK : Int := 11
def MOTOR_STATUS_POPUP_JAMMED : Int := 12
def MOTOR_STATUS_TAKEBACK_OK : Int := 13
def MOTOR_STATUS_TAKEBACK_JAMMED : Int := 14
def MOTOR_STATUS_PRESSED : Int := 15
def MOTOR_STATUS_CALIB_OK : Int := 17
def MOTOR_STATUS_CALIB_ERROR : Int := 18
def MOTOR_STATUS_REQUEST_CALIB : Int := 19

def FRONT_CAMERA_ID : String := "1"

-- The delays of the callbacks, in ms.
def POLL_TIME : Nat := 100
def MOTOR_BUSY_TIME : Nat := 1200
def CALIBRATION_TIME : Nat := 7000

-- CLOSE_CAMERA_STATE and OPEN_CAMERA_STATE.
inductive CameraState where
  | closed | opened
  deriving DecidableEq, Repr

-- What waits in the handler's queue: its two messages, and the runnables. A
-- motor request is named by the number of its updateMotor call.
inductive Task where
  | msgCameraClosed
  | msgCameraOpen
  | motorRequest (request : Nat) (cameraState : CameraState)
  | pollMotorBusy (request : Nat) (cameraState : CameraState)
  | resetMotorBusy
  | resetMotorCalibrating
  | restoreLed
  | calibrationResultDialog (status : Int)
  | errorDialog
  deriving DecidableEq, Repr

inductive DialogTheme where
  | unset | light | dark
  deriving DecidableEq, Repr

-- An object is either a service that the system starts, or one that a settings
-- fragment has made for itself.
inductive Owner where
  | system | fragment
  deriving DecidableEq, Repr

inductive Lifecycle where
  | constructed | created | destroyed
  deriving DecidableEq, Repr

-- The dialogs that mErrorDialogShowing is for.
inductive GuardedDialog where
  | error
  | calibrationResult (status : Int)
  deriving DecidableEq, Repr

def GuardedDialog.task : GuardedDialog → Task
  | .error => .errorDialog
  | .calibrationResult status => .calibrationResultDialog status

-- How far a binder thread is in onNotify: past the test of mMotorBusy, with what
-- it has seen, past the test of mErrorDialogShowing, or past setting it.
inductive Notifying where
  | requesting (motorBusy : Bool)
  | asking (dialog : GuardedDialog)
  | posting (dialog : GuardedDialog)
  deriving DecidableEq, Repr

structure PopupCameraService where
  mMotorBusy : Bool := false
  mClosedEvent : Nat := 0
  mOpenEvent : Nat := 0
  mScreenOn : Bool := true
  mDialogThemeResID : DialogTheme := .unset
  mAlertDialog : Option Nat := none
  mMotor : Bool := false -- whether the proxy is non-null
  mMotorCalibrating : Bool := false
  mErrorDialogShowing : Bool := false
  mLed : LedEffect := {}
  mHandler : DelayQueue Task := .empty
  -- what the system holds for the object
  owner : Owner := .system
  lifecycle : Lifecycle := .constructed
  intentReceiver : Bool := false
  availabilityCallback : Bool := false
  motorStatusCallback : Bool := false
  freeFallListener : Bool := false
  raiseDialogs : List Nat := [] -- the showing ones
  errorDialog : Nat := 0 -- how many are showing
  calibrationResultDialog : Nat := 0
  notifying : Option Notifying := none
  -- counters that give dialogs and requests their names
  dialogs : Nat := 0
  requests : Nat := 0
  executed : List Nat := [] -- from the latest
  deriving DecidableEq

namespace PopupCameraService

variable (now : Nat)

def postDelayed (task : Task) (delay : Nat) (service : PopupCameraService) : PopupCameraService :=
  { service with mHandler := service.mHandler.post (now + delay) task }

-- The end of updateMotor, after the test of mMotorBusy.
def postRequest (motorBusy : Bool) (cameraState : CameraState) (service : PopupCameraService) :
    PopupCameraService :=
  let request := service.requests
  let service := { service with requests := request + 1 }
  if motorBusy then service.postDelayed now (.pollMotorBusy request cameraState) POLL_TIME
  else service.postDelayed now (.motorRequest request cameraState) 0

def updateMotor (cameraState : CameraState) (service : PopupCameraService) : PopupCameraService :=
  if service.mMotor = false then service
  else service.postRequest now service.mMotorBusy cameraState

def poll (request : Nat) (cameraState : CameraState) (service : PopupCameraService) :
    PopupCameraService :=
  if service.mMotorBusy then
    service.postDelayed now (.pollMotorBusy request cameraState) POLL_TIME
  else service.postDelayed now (.motorRequest request cameraState) 0

-- The end of both availability callbacks: messages of the opposite event that
-- is not long past are dropped, and the message of this one is sent.
def cameraEvent (message opposite : Task) (oppositeEvent : Nat) (service : PopupCameraService) :
    PopupCameraService :=
  let service :=
    if now - oppositeEvent < CAMERA_EVENT_DELAY_TIME ∧ service.mHandler.has (· = opposite) then
      { service with mHandler := service.mHandler.remove (· = opposite) }
    else service
  service.postDelayed now message CAMERA_EVENT_DELAY_TIME

def onCameraClosed (cameraId : String) (service : PopupCameraService) : PopupCameraService :=
  if cameraId = FRONT_CAMERA_ID then
    { service with mClosedEvent := now }.cameraEvent now .msgCameraClosed .msgCameraOpen
      service.mOpenEvent
  else service

def onCameraOpened (cameraId : String) (service : PopupCameraService) : PopupCameraService :=
  if cameraId = FRONT_CAMERA_ID then
    { service with mOpenEvent := now }.cameraEvent now .msgCameraOpen .msgCameraClosed
      service.mClosedEvent
  else service

def dismiss (dialog : Nat) (service : PopupCameraService) : PopupCameraService :=
  { service with raiseDialogs := service.raiseDialogs.filter (· ≠ dialog) }

def dialogTheme (nightMode : Bool) : DialogTheme := if nightMode then .dark else .light

def updateDialogTheme (nightMode : Bool) (service : PopupCameraService) : PopupCameraService :=
  if service.mDialogThemeResID ≠ dialogTheme nightMode then
    { service with mDialogThemeResID := dialogTheme nightMode, mAlertDialog := none }
  else service

def showAlertDialog (service : PopupCameraService) : PopupCameraService :=
  match service.mAlertDialog with
  | some dialog =>
      if dialog ∈ service.raiseDialogs then service
      else { service with raiseDialogs := dialog :: service.raiseDialogs }
  | none =>
      { service with
        mAlertDialog := some service.dialogs
        dialogs := service.dialogs + 1
        raiseDialogs := service.dialogs :: service.raiseDialogs }

def handleCameraClosed (service : PopupCameraService) : PopupCameraService :=
  let service :=
    match service.mAlertDialog with
    | some dialog => service.dismiss dialog
    | none => service
  service.updateMotor now .closed

def handleCameraOpen (alwaysOnDialog nightMode : Bool) (service : PopupCameraService) :
    PopupCameraService :=
  if alwaysOnDialog ∨ service.mScreenOn = false then
    (service.updateDialogTheme nightMode).showAlertDialog
  else service.updateMotor now .opened

-- On the main thread. Nothing but the main thread takes the flag down, so it does
-- not matter whether a binder thread comes before this test or right after it.
def showErrorDialog (service : PopupCameraService) : PopupCameraService :=
  if service.mErrorDialogShowing then service
  else { service with mErrorDialogShowing := true }.postDelayed now .errorDialog 0

-- The beginning of showErrorDialog and of showCalibrationResult on a binder
-- thread. The lock does not keep the main thread from testing the flag as well.
def askDialog (dialog : GuardedDialog) (service : PopupCameraService) : PopupCameraService :=
  if service.mErrorDialogShowing then service
  else { service with notifying := some (.asking dialog) }

def showCalibrationResult (status : Int) (service : PopupCameraService) : PopupCameraService :=
  service.askDialog (.calibrationResult status)

-- A motor notification on the binder thread, up to the test of mMotorBusy when
-- the front camera was pressed, or of mErrorDialogShowing.
def onNotify (status : Int) (service : PopupCameraService) : PopupCameraService :=
  if status = MOTOR_STATUS_CALIB_OK ∨ status = MOTOR_STATUS_CALIB_ERROR then
    service.showCalibrationResult status
  else if status = MOTOR_STATUS_PRESSED then
    if service.mMotor then { service with notifying := some (.requesting service.mMotorBusy) }
    else service
  else if status = MOTOR_STATUS_POPUP_JAMMED ∨ status = MOTOR_STATUS_TAKEBACK_JAMMED then
    service.askDialog .error
  else service

-- The next step of the binder thread. It does not test again.
def continueNotify (notifying : Notifying) (service : PopupCameraService) : PopupCameraService :=
  match notifying with
  | .requesting motorBusy => { service with notifying := none }.postRequest now motorBusy .closed
  | .asking dialog =>
      { service with mErrorDialogShowing := true, notifying := some (.posting dialog) }
  | .posting dialog => { service with notifying := none }.postDelayed now dialog.task 0

end PopupCameraService

end Raphael.PopupCamera
