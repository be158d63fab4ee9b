import Raphael.PopupCamera.Step.Theorems

namespace Raphael.PopupCamera

open State

-- The messages, runnables and polls that a camera event is turned into.
def Task.isCamera : Task → Bool
  | .msgCameraClosed | .msgCameraOpen | .motorRequest _ _ | .pollMotorBusy _ _ => true
  | _ => false

-- A notification that is about to post a request, with the mMotorBusy it has seen.
def Notifying.pressed : Notifying → Option Bool
  | .requesting motorBusy => some motorBusy
  | _ => none

def PopupCameraService.pressed (service : PopupCameraService) : Option Bool :=
  service.notifying.bind Notifying.pressed

-- What an object keeps of the camera events: their times, the raise dialog and
-- the requests on their way to the motor.
structure Session where
  lifecycle : Lifecycle
  pressed : Option Bool
  mOpenEvent : Nat
  mClosedEvent : Nat
  mAlertDialog : Option Nat
  raiseDialogs : List Nat
  requests : Nat
  executed : List Nat
  pending : List (Delayed Task)

def PopupCameraService.session (service : PopupCameraService) : Session :=
  ⟨service.lifecycle, service.pressed, service.mOpenEvent, service.mClosedEvent,
    service.mAlertDialog, service.raiseDialogs, service.requests, service.executed,
    service.mHandler.select Task.isCamera⟩

-- The request that a runnable or a poll is for.
def Task.request? : Task → Option Nat
  | .motorRequest request _ => some request
  | .pollMotorBusy request _ => some request
  | _ => none

-- A part of the object that the posts of a request leave alone.
structure RequestKeeps {α : Type*} (part : PopupCameraService → α) : Prop where
  post : ∀ (now : Nat) (service : PopupCameraService) {task : Task} (delay : Nat),
    task.request?.isSome = true → part (service.postDelayed now task delay) = part service
  count : ∀ (service : PopupCameraService) (requests : Nat),
    part { service with requests := requests } = part service

namespace RequestKeeps

variable {α : Type*} {part : PopupCameraService → α} (h : RequestKeeps part) (now : Nat)
  (service : PopupCameraService)
include h

theorem postRequest (motorBusy : Bool) (cameraState : CameraState) :
    part (service.postRequest now motorBusy cameraState) = part service := by
  unfold PopupCameraService.postRequest
  split
  · exact (h.post now _ POLL_TIME rfl).trans (h.count service _)
  · exact (h.post now _ 0 rfl).trans (h.count service _)

theorem updateMotor (cameraState : CameraState) :
    part (service.updateMotor now cameraState) = part service := by
  unfold PopupCameraService.updateMotor
  split
  · rfl
  · exact h.postRequest now service service.mMotorBusy cameraState

theorem poll (request : Nat) (cameraState : CameraState) :
    part (service.poll now request cameraState) = part service := by
  unfold PopupCameraService.poll
  split
  · exact h.post now service POLL_TIME rfl
  · exact h.post now service 0 rfl

end RequestKeeps

section Quiet

theorem session_postDelayed (now : Nat) (service : PopupCameraService) {task : Task}
    (htask : task.isCamera = false) (delay : Nat) :
    (service.postDelayed now task delay).session = service.session :=
  congrArg (Session.mk _ _ _ _ _ _ _ _) (DelayQueue.select_post_of_other htask)

theorem session_setHandler {s : State} {task : Task} {rest : DelayQueue Task}
    (hpop : s.service.mHandler.pop s.now = some (task, rest)) (htask : task.isCamera = false) :
    (s.setHandler rest).service.session = s.service.session :=
  congrArg (Session.mk _ _ _ _ _ _ _ _) (DelayQueue.select_pop_of_other hpop htask)

theorem session_showErrorDialog (now : Nat) (service : PopupCameraService) :
    (service.showErrorDialog now).session = service.session := by
  unfold PopupCameraService.showErrorDialog
  split
  · rfl
  · exact session_postDelayed now _ rfl 0

theorem session_askDialog {service : PopupCameraService} (hnone : service.notifying = none)
    (dialog : GuardedDialog) : (service.askDialog dialog).session = service.session := by
  unfold PopupCameraService.askDialog
  split
  · rfl
  · simp [PopupCameraService.session, PopupCameraService.pressed, Notifying.pressed, hnone]

-- A press is noted by the thread that brings it.
theorem session_onNotify {service : PopupCameraService} (hnone : service.notifying = none)
    (status : Int) :
    (service.onNotify status).session = service.session ∨
      status = MOTOR_STATUS_PRESSED ∧ (service.onNotify status).session =
        { service with notifying := some (.requesting service.mMotorBusy) }.session := by
  unfold PopupCameraService.onNotify
  split
  · exact .inl (session_askDialog hnone _)
  · split
    · rename_i hpressed
      split
      · exact .inr ⟨hpressed, rfl⟩
      · exact .inl rfl
    · split
      · exact .inl (session_askDialog hnone .error)
      · exact .inl rfl

-- The rest of a notification that asks for a dialog.
theorem session_continueNotify (now : Nat) {service : PopupCameraService} {notifying : Notifying}
    (hnotifying : service.notifying = some notifying) (hdialog : notifying.pressed = none) :
    (service.continueNotify now notifying).session = service.session := by
  have hnotified : { service with notifying := none }.session = service.session := by
    simp [PopupCameraService.session, PopupCameraService.pressed, hnotifying, hdialog]
  cases notifying with
  | requesting motorBusy => cases hdialog
  | asking dialog =>
      simp [PopupCameraService.continueNotify, PopupCameraService.session,
        PopupCameraService.pressed, Notifying.pressed, hnotifying]
  | posting dialog =>
      have htask : dialog.task.isCamera = false := by cases dialog <;> rfl
      exact (session_postDelayed now { service with notifying := none } htask 0).trans hnotified

theorem session_calibrate (succeeds : Bool) (s : State) :
    (s.calibrate succeeds).service.session = s.service.session :=
  session_postDelayed _ _ rfl CALIBRATION_TIME

theorem session_calibrateMotor (getService : GetService) (succeeds : Bool) (s : State) :
    (finish (s.calibrateMotor getService succeeds)).service.session = s.service.session := by
  unfold calibrateMotor
  split
  · rfl
  · split
    · exact session_calibrate succeeds s
    · cases getService with
      | found => exact session_calibrate succeeds _
      | remoteException => rfl
      | noSuchElementException => rfl

theorem session_createMotor (replies : OnCreateReplies) (s : State) :
    (finish (s.createMotor replies)).service.session = s.service.session := by
  unfold createMotor
  split
  · rfl
  · rfl
  · dsimp only
    split
    · rfl
    · split
      · split
        · split
          · rfl
          · split <;> rfl
        · rfl
      · split <;> rfl

theorem session_onSensorChanged (isFreeFall takebackSucceeds : Bool) (s : State) :
    (s.onSensorChanged isFreeFall takebackSucceeds).service.session = s.service.session := by
  cases isFreeFall <;> cases takebackSucceeds <;> rfl

theorem LightsOnly.session {before after : State} (h : LightsOnly before after) :
    after.service.session = before.service.session := by
  have hpending := h.select Task.isCamera rfl
  rw [h.service]
  exact congrArg (Session.mk _ _ _ _ _ _ _ _) hpending

theorem session_issueMove (replies : Replies) (cameraState : CameraState) (s : State) :
    (s.issueMove replies cameraState).service.session = s.service.session := by
  unfold issueMove
  cases replies.commandSucceeds <;> exact session_postDelayed _ _ rfl MOTOR_BUSY_TIME

theorem session_endIdle (status : Int) (s : State) :
    (s.endIdle status).service.session = s.service.session := by
  unfold endIdle
  dsimp only
  split
  · exact session_showErrorDialog _ _
  · rfl

-- However the runnable of a request ends, it has been executed.
theorem session_runMotorRequest (replies : Replies) (request : Nat) (cameraState : CameraState)
    (s : State) :
    (finish (s.runMotorRequest replies request cameraState)).service.session =
      (s.startRequest request).service.session := by
  obtain ⟨_, hrun⟩ | ⟨_, lit, _, _, hlit, hrun⟩ | ⟨status, _, _, hrun⟩ | ⟨after, hlights, hrun⟩ :=
    runMotorRequest_cases replies request cameraState s
  · rw [hrun]
    exact session_postDelayed _ _ rfl MOTOR_BUSY_TIME
  · rw [hrun]
    exact (session_issueMove replies cameraState lit).trans (lightUp_lightsOnly hlit).session
  · rw [hrun]
    exact session_endIdle status _
  · rw [hrun]
    exact hlights.session

theorem session_restoreLed (replies : Replies) (s : State) :
    (finish (s.restoreLed replies)).service.session = s.service.session := by
  obtain ⟨fx, leds, hrestore | hrestore⟩ := restoreLed_cases s replies
  · rw [hrestore]
    rfl
  · rw [hrestore]
    rfl

end Quiet

def Event.isQuiet : Event → Bool
  | .onReceive _ | .onSensorChanged _ _ | .onNotify _ | .onNotifyContinue => true
  | .errorDialogCalibrate _ _ | .errorDialogDismiss | .calibrationResultDialogDismiss
  | .settingsCalibrate _ _ => true
  | _ => false

-- Everything that the handling of an event can do to the session.
inductive SessionEffect (s : State) : Event → State → Prop
  | quiet {event : Event} {after : State} (hevent : event.isQuiet = true)
      (hsession : after.service.session = s.service.session) : SessionEffect s event after
  | quietTask {replies : Replies} {task : Task} {rest : DelayQueue Task} {after : State}
      (hpop : s.service.mHandler.pop s.now = some (task, rest)) (htask : task.isCamera = false)
      (hsession : after.service.session = s.service.session) :
      SessionEffect s (.dispatch replies) after
  | create {replies : OnCreateReplies} {after : State}
      (hconstructed : s.service.lifecycle = .constructed)
      (hsession : after.service.session = { s.service with lifecycle := .created }.session) :
      SessionEffect s (.onCreate replies) after
  | destroy (hcreated : s.service.lifecycle = .created) :
      SessionEffect s .onDestroy (s.modify fun service =>
        { service with lifecycle := .destroyed, intentReceiver := false })
  | pressed {after : State} (hsession : after.service.session =
        { s.service with notifying := some (.requesting s.service.mMotorBusy) }.session) :
      SessionEffect s (.onNotify MOTOR_STATUS_PRESSED) after
  | cameraClosed (cameraId : String) :
      SessionEffect s (.onCameraClosed cameraId) (s.modify (·.onCameraClosed s.now cameraId))
  | cameraOpened (cameraId : String) :
      SessionEffect s (.onCameraOpened cameraId) (s.modify (·.onCameraOpened s.now cameraId))
  | notifyPost {motorBusy : Bool}
      (hnotifying : s.service.notifying = some (.requesting motorBusy)) :
      SessionEffect s .onNotifyContinue (s.modify fun service =>
        { service with notifying := none }.postRequest s.now motorBusy .closed)
  | click {dialog : Nat} (raise : Bool) (hshowing : dialog ∈ s.service.raiseDialogs) :
      SessionEffect s (.raiseDialogClick dialog raise)
        (s.modify fun service => clickRaiseDialog dialog raise service s.now)
  | handleClosed (replies : Replies) {rest : DelayQueue Task}
      (hpop : s.service.mHandler.pop s.now = some (.msgCameraClosed, rest)) :
      SessionEffect s (.dispatch replies) ((s.setHandler rest).modify (·.handleCameraClosed s.now))
  | handleOpen (replies : Replies) {rest : DelayQueue Task}
      (hpop : s.service.mHandler.pop s.now = some (.msgCameraOpen, rest)) :
      SessionEffect s (.dispatch replies) ((s.setHandler rest).modify
        (·.handleCameraOpen s.now replies.alwaysOnDialog replies.nightMode))
  | poll (replies : Replies) {request : Nat} {cameraState : CameraState} {rest : DelayQueue Task}
      (hpop : s.service.mHandler.pop s.now = some (.pollMotorBusy request cameraState, rest)) :
      SessionEffect s (.dispatch replies)
        ((s.setHandler rest).modify (·.poll s.now request cameraState))
  | execute {replies : Replies} {request : Nat} {cameraState : CameraState}
      {rest : DelayQueue Task} {after : State}
      (hpop : s.service.mHandler.pop s.now = some (.motorRequest request cameraState, rest))
      (hsession : after.service.session =
        ((s.setHandler rest).startRequest request).service.session) :
      SessionEffect s (.dispatch replies) after

theorem handleTask_sessionEffect {s : State} {replies : Replies} {task : Task}
    {rest : DelayQueue Task} (hpop : s.service.mHandler.pop s.now = some (task, rest)) :
    SessionEffect s (.dispatch replies) (finish ((s.setHandler rest).handleTask replies task)) := by
  cases task with
  | msgCameraClosed => exact .handleClosed replies hpop
  | msgCameraOpen => exact .handleOpen replies hpop
  | motorRequest request cameraState =>
      exact .execute hpop (session_runMotorRequest replies request cameraState _)
  | pollMotorBusy request cameraState => exact .poll replies hpop
  | resetMotorBusy => exact .quietTask hpop rfl (session_setHandler hpop rfl)
  | resetMotorCalibrating => exact .quietTask hpop rfl (session_setHandler hpop rfl)
  | restoreLed =>
      exact .quietTask hpop rfl
        ((session_restoreLed replies _).trans (session_setHandler hpop rfl))
  | calibrationResultDialog status => exact .quietTask hpop rfl (session_setHandler hpop rfl)
  | errorDialog => exact .quietTask hpop rfl (session_setHandler hpop rfl)

theorem handle_sessionEffect {s after : State} {event : Event} (h : s.handle event = some after) :
    SessionEffect s event after := by
  cases event with
  | onCreate replies =>
      obtain ⟨⟨_, hconstructed⟩, h⟩ := Option.ite_none_right_eq_some.mp h
      cases h
      exact .create hconstructed (session_createMotor replies _)
  | onDestroy =>
      obtain ⟨hcreated, h⟩ := Option.ite_none_right_eq_some.mp h
      cases h
      exact .destroy hcreated
  | onReceive screenOn =>
      obtain ⟨_, h⟩ := Option.ite_none_right_eq_some.mp h
      cases h
      exact .quiet rfl rfl
  | onCameraClosed cameraId =>
      obtain ⟨_, h⟩ := Option.ite_none_right_eq_some.mp h
      cases h
      exact .cameraClosed cameraId
  | onCameraOpened cameraId =>
      obtain ⟨_, h⟩ := Option.ite_none_right_eq_some.mp h
      cases h
      exact .cameraOpened cameraId
  | onSensorChanged isFreeFall takebackSucceeds =>
      obtain ⟨_, h⟩ := Option.ite_none_right_eq_some.mp h
      cases h
      exact .quiet rfl (session_onSensorChanged isFreeFall takebackSucceeds s)
  | onNotify status =>
      obtain ⟨⟨_, hnone⟩, h⟩ := Option.ite_none_right_eq_some.mp h
      cases h
      obtain hsession | ⟨rfl, hsession⟩ := session_onNotify hnone status
      · exact .quiet rfl hsession
      · exact .pressed hsession
  | onNotifyContinue =>
      simp only [handle] at h
      split at h
      · rename_i notifying hnotifying
        cases h
        cases notifying with
        | requesting motorBusy => exact .notifyPost hnotifying
        | asking dialog => exact .quiet rfl (session_continueNotify s.now hnotifying rfl)
        | posting dialog => exact .quiet rfl (session_continueNotify s.now hnotifying rfl)
      · cases h
  | raiseDialogClick dialog raise =>
      obtain ⟨hshowing, h⟩ := Option.ite_none_right_eq_some.mp h
      cases h
      exact .click raise hshowing
  | errorDialogCalibrate getService succeeds =>
      obtain ⟨_, h⟩ := Option.ite_none_right_eq_some.mp h
      cases h
      exact .quiet rfl (session_calibrateMotor getService succeeds _)
  | errorDialogDismiss =>
      obtain ⟨_, h⟩ := Option.ite_none_right_eq_some.mp h
      cases h
      exact .quiet rfl rfl
  | calibrationResultDialogDismiss =>
      obtain ⟨_, h⟩ := Option.ite_none_right_eq_some.mp h
      cases h
      exact .quiet rfl rfl
  | settingsCalibrate getService succeeds =>
      obtain ⟨_, h⟩ := Option.ite_none_right_eq_some.mp h
      cases h
      exact .quiet rfl (session_calibrateMotor getService succeeds s)
  | dispatch replies =>
      simp only [handle] at h
      split at h
      · rename_i task rest hpop
        cases h
        exact handleTask_sessionEffect hpop
      · cases h

theorem step_sessionEffect {s after : State} {time : Nat} {event : Event}
    (h : step s (time, event) = some after) : SessionEffect (s.atTime time) event after :=
  handle_sessionEffect (Option.ite_none_left_eq_some.mp h).2

end Raphael.PopupCamera
