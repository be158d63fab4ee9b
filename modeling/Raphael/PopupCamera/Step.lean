import Raphael.PopupCamera.Service

namespace Raphael.PopupCamera

inductive MotorCall where
  | popupMotor | takebackMotor | takebackMotorShortly | calibration
  deriving DecidableEq, Repr

inductive Issuer where
  | onCreate | updateMotor | freeFallListener | calibrateMotor
  deriving DecidableEq, Repr

-- One call of the motor service, which may end in a RemoteException.
structure Command where
  time : Nat
  call : MotorCall
  issuer : Issuer
  succeeded : Bool
  deriving DecidableEq, Repr

-- What the objects of the process share. The log is kept from the latest call.
structure World where
  now : Nat
  leds : Leds
  log : List Command
  ended : Bool -- by an unchecked exception

structure State where
  service : PopupCameraService
  world : World

-- What the motor service, the preferences and the system answer while one
-- message is handled. No status is a RemoteException, and no sound effect an
-- exception from the parse of the preference.
structure Replies where
  status : Option Int := none
  commandSucceeds : Bool := true
  isLedAllowed : Bool := true
  accesses : Accesses := allOk
  ringerModeNormal : Bool := true
  soundEffect : Option Int := some (-1)
  alwaysOnDialog : Bool := false
  nightMode : Bool := false

-- The outcome of IMotor.getService.
inductive GetService where
  | found | remoteException | noSuchElementException
  deriving DecidableEq, Repr

structure OnCreateReplies where
  getService : GetService := .found
  status : Option Int := none
  takebackSucceeds : Bool := true
  interruptedAfter : Option Nat := none
  setMotorCallbackSucceeds : Bool := true

-- The number of sounds that popupcamera_effects_names lists.
def SOUNDS : Int := 12

namespace State

def now (s : State) : Nat := s.world.now

def atTime (time : Nat) (s : State) : State := { s with world := { s.world with now := time } }

def modify (f : PopupCameraService → PopupCameraService) (s : State) : State :=
  { s with service := f s.service }

def postDelayed (task : Task) (delay : Nat) (s : State) : State :=
  s.modify (·.postDelayed s.now task delay)

def setLed (fx : LedEffect) (leds : Leds) (s : State) : State :=
  ⟨{ s.service with mLed := fx }, { s.world with leds }⟩

def command (call : MotorCall) (issuer : Issuer) (succeeded : Bool) (s : State) : State :=
  { s with world := { s.world with log := ⟨s.now, call, issuer, succeeded⟩ :: s.world.log } }

def lightUp (replies : Replies) (isOpen : Bool) (s : State) : Except State State :=
  if replies.isLedAllowed then
    match PopupCamera.lightUp replies.accesses isOpen s.service.mLed s.world.leds with
    | .ok (fx, leds) => .ok ((s.setLed fx leds).postDelayed .restoreLed LED_EFFECT_TIME)
    | .error (fx, leds) => .error (s.setLed fx leds)
  else .ok s

-- The sound of a state is played from an array, or not at all.
def playSoundEffect (replies : Replies) (cameraState : CameraState) (s : State) :
    Except State State :=
  if replies.ringerModeNormal = false then .ok s
  else
    match replies.soundEffect with
    | none => .error s
    | some soundEffect =>
        let index := if cameraState = .closed then soundEffect + 1 else soundEffect
        if soundEffect = -1 ∨ (0 ≤ index ∧ index < SOUNDS) then .ok s else .error s

def setHandler (queue : DelayQueue Task) (s : State) : State :=
  s.modify fun service => { service with mHandler := queue }

def setMotorBusy (busy : Bool) (s : State) : State :=
  s.modify fun service => { service with mMotorBusy := busy }

def setFreeFallListener (registered : Bool) (s : State) : State :=
  s.modify fun service => { service with freeFallListener := registered }

-- A motor command of updateMotor. The free fall listener follows the command
-- unless that throws.
def issueMove (replies : Replies) (cameraState : CameraState) (s : State) : State :=
  let isOpen : Bool := cameraState = .opened
  let call := if isOpen then MotorCall.popupMotor else .takebackMotor
  let s := s.command call .updateMotor replies.commandSucceeds
  let s := if replies.commandSucceeds then s.setFreeFallListener isOpen else s
  s.postDelayed .resetMotorBusy MOTOR_BUSY_TIME

def moveMotor (replies : Replies) (cameraState : CameraState) (s : State) :
    Except State State := do
  let s ← s.lightUp replies (cameraState = .opened)
  let s ← s.playSoundEffect replies cameraState
  return s.issueMove replies cameraState

def moves (cameraState : CameraState) (status : Int) : Bool :=
  match cameraState with
  | .opened => status = MOTOR_STATUS_TAKEBACK_OK ∨ status = MOTOR_STATUS_CALIB_OK
  | .closed => status = MOTOR_STATUS_POPUP_OK

def isErrorStatus (status : Int) : Bool :=
  status = MOTOR_STATUS_POPUP_JAMMED ∨ status = MOTOR_STATUS_TAKEBACK_JAMMED ∨
    status = MOTOR_STATUS_CALIB_ERROR ∨ status = MOTOR_STATUS_REQUEST_CALIB

-- The runnable of updateMotor.
def startRequest (request : Nat) (s : State) : State :=
  s.modify fun service =>
    { service with mMotorBusy := true, executed := request :: service.executed }

def endIdle (status : Int) (s : State) : State :=
  let s := s.setMotorBusy false
  if isErrorStatus status then s.modify (·.showErrorDialog s.now) else s

def runMotorRequest (replies : Replies) (request : Nat) (cameraState : CameraState) (s : State) :
    Except State State :=
  let s := s.startRequest request
  match replies.status with
  | none => .ok (s.postDelayed .resetMotorBusy MOTOR_BUSY_TIME)
  | some status =>
      if moves cameraState status then s.moveMotor replies cameraState
      else .ok (s.endIdle status)

def restoreLed (replies : Replies) (s : State) : Except State State :=
  match PopupCamera.restoreLed replies.accesses s.service.mLed s.world.leds with
  | .ok (fx, leds) => .ok (s.setLed fx leds)
  | .error (fx, leds) => .error (s.setLed fx leds)

def handleTask (replies : Replies) (task : Task) (s : State) : Except State State :=
  match task with
  | .msgCameraClosed => .ok (s.modify (·.handleCameraClosed s.now))
  | .msgCameraOpen =>
      .ok (s.modify (·.handleCameraOpen s.now replies.alwaysOnDialog replies.nightMode))
  | .motorRequest request cameraState => s.runMotorRequest replies request cameraState
  | .pollMotorBusy request cameraState => .ok (s.modify (·.poll s.now request cameraState))
  | .resetMotorBusy => .ok (s.setMotorBusy false)
  | .resetMotorCalibrating =>
      .ok (s.modify fun service => { service with mMotorCalibrating := false })
  | .restoreLed => s.restoreLed replies
  | .calibrationResultDialog _ =>
      .ok (s.modify fun service =>
        { service with calibrationResultDialog := service.calibrationResultDialog + 1 })
  | .errorDialog =>
      .ok (s.modify fun service => { service with errorDialog := service.errorDialog + 1 })

def calibrate (succeeds : Bool) (s : State) : State :=
  ((s.modify fun service => { service with mMotorCalibrating := true }).command .calibration
    .calibrateMotor succeeds).postDelayed .resetMotorCalibrating CALIBRATION_TIME

def calibrateMotor (getService : GetService) (succeeds : Bool) (s : State) : Except State State :=
  if s.service.mMotorCalibrating then .ok s
  else if s.service.mMotor then .ok (s.calibrate succeeds)
  else
    match getService with
    | .found => .ok ((s.modify fun service => { service with mMotor := true }).calibrate succeeds)
    | .remoteException => .ok s
    | .noSuchElementException => .error s

def onSensorChanged (isFreeFall takebackSucceeds : Bool) (s : State) : State :=
  if isFreeFall then
    let s := s.command .takebackMotorShortly .freeFallListener takebackSucceeds
    if takebackSucceeds then s.setFreeFallListener false else s
  else s

-- The motor part of onCreate. A takeback is waited for on the main thread.
def createMotor (replies : OnCreateReplies) (s : State) : Except State State :=
  match replies.getService with
  | .noSuchElementException => .error s
  | .remoteException => .ok s
  | .found =>
      let s := s.modify fun service => { service with mMotor := true }
      let setCallback (s : State) : State :=
        if replies.setMotorCallbackSucceeds then
          s.modify fun service => { service with motorStatusCallback := true }
        else s
      match replies.status with
      | none => .ok s
      | some status =>
          if status = MOTOR_STATUS_POPUP_OK ∨ status = MOTOR_STATUS_TAKEBACK_JAMMED then
            let s := s.command .takebackMotor .onCreate replies.takebackSucceeds
            if replies.takebackSucceeds then
              match replies.interruptedAfter with
              | some slept => .ok (s.atTime (s.now + slept))
              | none => .ok (setCallback (s.atTime (s.now + MOTOR_BUSY_TIME)))
            else .ok s
          else .ok (setCallback s)

def onCreate (replies : OnCreateReplies) (s : State) : Except State State :=
  (s.modify fun service =>
    { service with
      lifecycle := .created
      intentReceiver := true
      availabilityCallback := true
      mDialogThemeResID := .light }).createMotor replies

end State

inductive Event where
  | onCreate (replies : OnCreateReplies)
  | onDestroy
  | onReceive (screenOn : Bool)
  | onCameraClosed (cameraId : String)
  | onCameraOpened (cameraId : String)
  | onSensorChanged (isFreeFall takebackSucceeds : Bool)
  | onNotify (status : Int)
  | onNotifyContinue
  | raiseDialogClick (dialog : Nat) (raise : Bool)
  | errorDialogCalibrate (getService : GetService) (succeeds : Bool)
  | errorDialogDismiss
  | calibrationResultDialogDismiss
  | settingsCalibrate (getService : GetService) (succeeds : Bool)
  | dispatch (replies : Replies)

namespace State

-- An exception that nothing catches ends the process.
def finish : Except State State → State
  | .ok s => s
  | .error s => { s with world := { s.world with ended := true } }

-- A raise dialog's click runs its listener and dismisses the dialog.
def clickRaiseDialog (dialog : Nat) (raise : Bool) (service : PopupCameraService) (now : Nat) :
    PopupCameraService :=
  (if raise then service.updateMotor now .opened else service).dismiss dialog

-- One of the dialogs is gone, and the flag is taken down even if there are more.
def dismissErrorDialog (service : PopupCameraService) : PopupCameraService :=
  { service with errorDialog := service.errorDialog - 1, mErrorDialogShowing := false }

def dismissCalibrationResultDialog (service : PopupCameraService) : PopupCameraService :=
  { service with
    calibrationResultDialog := service.calibrationResultDialog - 1
    mErrorDialogShowing := false }

-- Events reach the object through what it has registered or shows. The lock
-- that a notification holds keeps calibrateMotor and other notifications out.
def handle (s : State) : Event → Option State
  | .onCreate replies =>
      if s.service.owner = .system ∧ s.service.lifecycle = .constructed then
        some (finish (s.onCreate replies))
      else none
  | .onDestroy =>
      if s.service.lifecycle = .created then
        some (s.modify fun service =>
          { service with lifecycle := .destroyed, intentReceiver := false })
      else none
  | .onReceive screenOn =>
      if s.service.intentReceiver then
        some (s.modify fun service => { service with mScreenOn := screenOn })
      else none
  | .onCameraClosed cameraId =>
      if s.service.availabilityCallback then some (s.modify (·.onCameraClosed s.now cameraId))
      else none
  | .onCameraOpened cameraId =>
      if s.service.availabilityCallback then some (s.modify (·.onCameraOpened s.now cameraId))
      else none
  | .onSensorChanged isFreeFall takebackSucceeds =>
      if s.service.freeFallListener then some (s.onSensorChanged isFreeFall takebackSucceeds)
      else none
  | .onNotify status =>
      if s.service.motorStatusCallback ∧ s.service.notifying = none then
        some (s.modify (·.onNotify status))
      else none
  | .onNotifyContinue =>
      match s.service.notifying with
      | some notifying => some (s.modify (·.continueNotify s.now notifying))
      | none => none
  | .raiseDialogClick dialog raise =>
      if dialog ∈ s.service.raiseDialogs then
        some (s.modify fun service => clickRaiseDialog dialog raise service s.now)
      else none
  | .errorDialogCalibrate getService succeeds =>
      if 0 < s.service.errorDialog ∧ s.service.notifying = none then
        some (finish ((s.modify dismissErrorDialog).calibrateMotor getService succeeds))
      else none
  | .errorDialogDismiss =>
      if 0 < s.service.errorDialog then some (s.modify dismissErrorDialog) else none
  | .calibrationResultDialogDismiss =>
      if 0 < s.service.calibrationResultDialog then some (s.modify dismissCalibrationResultDialog)
      else none
  | .settingsCalibrate getService succeeds =>
      if s.service.owner = .fragment ∧ s.service.notifying = none then
        some (finish (s.calibrateMotor getService succeeds))
      else none
  | .dispatch replies =>
      match s.service.mHandler.pop s.now with
      | some (task, rest) =>
          some (finish ((s.setHandler rest).handleTask replies task))
      | none => none

end State

-- An event happens at a time that is not before the last one, as long as the
-- process lives.
def step (s : State) (event : Nat × Event) : Option State :=
  if s.world.ended ∨ event.1 < s.world.now then none
  else (s.atTime event.1).handle event.2

end Raphael.PopupCamera
