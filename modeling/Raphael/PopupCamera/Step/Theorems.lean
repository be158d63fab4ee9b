import Raphael.PopupCamera.Service.Theorems
import Raphael.PopupCamera.Step

namespace Raphael.PopupCamera

open State

section Request

variable (s : State) (replies : Replies) (cameraState : CameraState)

theorem issueMove_handler : (s.issueMove replies cameraState).service.mHandler =
    s.service.mHandler.post (s.now + MOTOR_BUSY_TIME) .resetMotorBusy := by
  unfold issueMove
  cases replies.commandSucceeds <;> rfl

theorem issueMove_motorBusy :
    (s.issueMove replies cameraState).service.mMotorBusy = s.service.mMotorBusy := by
  unfold issueMove
  cases replies.commandSucceeds <;> rfl

theorem issueMove_motorCalibrating :
    (s.issueMove replies cameraState).service.mMotorCalibrating =
      s.service.mMotorCalibrating := by
  unfold issueMove
  cases replies.commandSucceeds <;> rfl

theorem issueMove_world : (s.issueMove replies cameraState).world =
    { s.world with
      log := ⟨s.now, if cameraState = .opened then .popupMotor else .takebackMotor, .updateMotor,
        replies.commandSucceeds⟩ :: s.world.log } := by
  cases cameraState <;> unfold issueMove <;> cases replies.commandSucceeds <;> rfl

theorem endIdle_keeps (status : Int) :
    Keeps { s.service with mMotorBusy := false } (s.endIdle status).service := by
  unfold endIdle
  dsimp only
  split
  · exact PopupCameraService.keeps_showErrorDialog _ _
  · exact .refl _

theorem endIdle_world (status : Int) : (s.endIdle status).world = s.world := by
  unfold endIdle
  dsimp only
  split <;> rfl

end Request

-- What an exception leaves behind: no motor command, and no flag cleared.
structure Ends (before after : State) : Prop where
  motorBusy : before.service.mMotorBusy = true → after.service.mMotorBusy = true
  motorCalibrating : after.service.mMotorCalibrating = before.service.mMotorCalibrating
  freeFallListener : after.service.freeFallListener = before.service.freeFallListener
  log : after.world.log = before.world.log
  now : after.world.now = before.world.now
  ended : after.world.ended = true

def Event.requestsCalibration : Event → Bool
  | .errorDialogCalibrate _ _ | .settingsCalibrate _ _ => true
  | _ => false

-- Everything that the handling of an event can do to the motor's state.
inductive Effect (s : State) : Event → State → Prop
  | keeps {event : Event} {after : State} (hservice : Keeps s.service after.service)
      (hworld : after.world = s.world) : Effect s event after
  | ends {event : Event} {after : State} (h : Ends s after) : Effect s event after
  | create {replies : OnCreateReplies} {after : State}
      (hservice : Keeps { s.service with mMotor := after.service.mMotor } after.service)
      (hlog : after.world.log = s.world.log ∨
        ∃ succeeded, after.world.log =
          ⟨s.world.now, .takebackMotor, .onCreate, succeeded⟩ :: s.world.log)
      (hnow : s.world.now ≤ after.world.now) (hended : after.world.ended = s.world.ended) :
      Effect s (.onCreate replies) after
  | freeFall (succeeds : Bool) :
      Effect s (.onSensorChanged true succeeds) (s.onSensorChanged true succeeds)
  | calibrate {event : Event} {service : PopupCameraService} (succeeds : Bool)
      (hevent : event.requestsCalibration = true)
      (hservice : Keeps { s.service with mMotor := service.mMotor } service)
      (hidle : s.service.mMotorCalibrating = false) :
      Effect s event (State.calibrate succeeds ⟨service, s.world⟩)
  | remoteException {replies : Replies} {request : Nat} {cameraState : CameraState}
      {rest : DelayQueue Task}
      (hpop : s.service.mHandler.pop s.now = some (.motorRequest request cameraState, rest))
      (hstatus : replies.status = none) :
      Effect s (.dispatch replies)
        (((s.setHandler rest).startRequest request).postDelayed .resetMotorBusy MOTOR_BUSY_TIME)
  | moved {replies : Replies} {request : Nat} {cameraState : CameraState} {rest : DelayQueue Task}
      {status : Int} {lit : State}
      (hpop : s.service.mHandler.pop s.now = some (.motorRequest request cameraState, rest))
      (hstatus : replies.status = some status) (hmoves : moves cameraState status = true)
      (hlit : ((s.setHandler rest).startRequest request).lightUp replies
        (cameraState = .opened) = .ok lit) :
      Effect s (.dispatch replies) (lit.issueMove replies cameraState)
  | idle {replies : Replies} {request : Nat} {cameraState : CameraState} {rest : DelayQueue Task}
      {status : Int}
      (hpop : s.service.mHandler.pop s.now = some (.motorRequest request cameraState, rest))
      (hstatus : replies.status = some status) (hmoves : moves cameraState status = false) :
      Effect s (.dispatch replies) (((s.setHandler rest).startRequest request).endIdle status)
  | resetMotorBusy {replies : Replies} {rest : DelayQueue Task}
      (hpop : s.service.mHandler.pop s.now = some (.resetMotorBusy, rest)) :
      Effect s (.dispatch replies) ((s.setHandler rest).setMotorBusy false)
  | resetMotorCalibrating {replies : Replies} {rest : DelayQueue Task}
      (hpop : s.service.mHandler.pop s.now = some (.resetMotorCalibrating, rest)) :
      Effect s (.dispatch replies)
        ((s.setHandler rest).modify fun service => { service with mMotorCalibrating := false })
  | restoreLed {replies : Replies} {rest : DelayQueue Task} {after : State}
      (hpop : s.service.mHandler.pop s.now = some (.restoreLed, rest))
      (hrestore : (s.setHandler rest).restoreLed replies = .ok after) :
      Effect s (.dispatch replies) after

theorem keeps_setHandler {s : State} {task : Task} {rest : DelayQueue Task}
    (hpop : s.service.mHandler.pop s.now = some (task, rest)) (htask : task.isTimer = false) :
    Keeps s.service (s.setHandler rest).service :=
  ⟨rfl, DelayQueue.select_pop_of_other hpop htask⟩

theorem finish_error_ends {s before : State} (hbusy : before.service.mMotorBusy = true →
      s.service.mMotorBusy = true)
    (hcalibrating : s.service.mMotorCalibrating = before.service.mMotorCalibrating)
    (hlistener : s.service.freeFallListener = before.service.freeFallListener)
    (hlog : s.world.log = before.world.log) (hnow : s.world.now = before.world.now) :
    Ends before (finish (.error s)) :=
  ⟨hbusy, hcalibrating, hlistener, hlog, hnow, rfl⟩

-- An exception from the lights touches only the LED fields.
theorem lightUp_error {s after : State} {replies : Replies} {isOpen : Bool}
    (h : s.lightUp replies isOpen = .error after) : ∃ fx leds, after = s.setLed fx leds := by
  unfold State.lightUp at h
  split at h
  · split at h
    · cases h
    · cases h
      exact ⟨_, _, rfl⟩
  · cases h

theorem lightUp_ok {s after : State} {replies : Replies} {isOpen : Bool}
    (h : s.lightUp replies isOpen = .ok after) :
    after = s ∨ ∃ fx leds, after = (s.setLed fx leds).postDelayed .restoreLed LED_EFFECT_TIME := by
  unfold State.lightUp at h
  split at h
  · split at h
    · cases h
      exact .inr ⟨_, _, rfl⟩
    · cases h
  · cases h
    exact .inl rfl

theorem restoreLed_cases (s : State) (replies : Replies) :
    ∃ fx leds, s.restoreLed replies = .ok (s.setLed fx leds) ∨
      s.restoreLed replies = .error (s.setLed fx leds) := by
  unfold State.restoreLed
  split
  · exact ⟨_, _, .inl rfl⟩
  · exact ⟨_, _, .inr rfl⟩

-- The lights are apart from everything that moves the motor.
structure LightsOnly (before after : State) : Prop where
  service : after.service =
    { before.service with mLed := after.service.mLed, mHandler := after.service.mHandler }
  select : ∀ kind : Task → Bool, kind .restoreLed = false →
    after.service.mHandler.select kind = before.service.mHandler.select kind
  log : after.world.log = before.world.log
  now : after.world.now = before.world.now
  ended : after.world.ended = before.world.ended

namespace LightsOnly

theorem setLed (s : State) (fx : LedEffect) (leds : Leds) : LightsOnly s (s.setLed fx leds) :=
  ⟨rfl, fun _ _ => rfl, rfl, rfl, rfl⟩

variable {before after : State} (h : LightsOnly before after)
include h

theorem motorBusy : after.service.mMotorBusy = before.service.mMotorBusy :=
  (congrArg PopupCameraService.mMotorBusy h.service).trans rfl

theorem motorCalibrating :
    after.service.mMotorCalibrating = before.service.mMotorCalibrating :=
  (congrArg PopupCameraService.mMotorCalibrating h.service).trans rfl

theorem freeFallListener :
    after.service.freeFallListener = before.service.freeFallListener :=
  (congrArg PopupCameraService.freeFallListener h.service).trans rfl

end LightsOnly

theorem lightUp_lightsOnly {s after : State} {replies : Replies} {isOpen : Bool}
    (h : s.lightUp replies isOpen = .ok after) : LightsOnly s after := by
  obtain rfl | ⟨fx, leds, rfl⟩ := lightUp_ok h
  · exact ⟨rfl, fun _ _ => rfl, rfl, rfl, rfl⟩
  · exact ⟨rfl, fun _ hkind => DelayQueue.select_post_of_other hkind, rfl, rfl, rfl⟩

theorem restoreLed_lightsOnly {s after : State} {replies : Replies}
    (h : s.restoreLed replies = .ok after) : LightsOnly s after := by
  obtain ⟨fx, leds, hok | herror⟩ := restoreLed_cases s replies
  · rw [hok] at h
    cases h
    exact .setLed s fx leds
  · rw [herror] at h
    cases h

theorem playSoundEffect_cases (replies : Replies) (cameraState : CameraState) (s : State) :
    s.playSoundEffect replies cameraState = .ok s ∨
      s.playSoundEffect replies cameraState = .error s := by
  unfold playSoundEffect
  split
  · exact .inl rfl
  · split
    · exact .inr rfl
    · dsimp only
      split
      · split
        · exact .inl rfl
        · exact .inr rfl
      · split
        · exact .inl rfl
        · exact .inr rfl

theorem calibrateMotor_effect {s : State} {event : Event} {service : PopupCameraService}
    (hevent : event.requestsCalibration = true) (hservice : Keeps s.service service)
    (getService : GetService) (succeeds : Bool) :
    Effect s event (finish (calibrateMotor getService succeeds ⟨service, s.world⟩)) := by
  unfold calibrateMotor
  split
  · exact .keeps hservice rfl
  · rename_i hcalibrating
    have hidle : s.service.mMotorCalibrating = false := by
      rw [← hservice.motorCalibrating]
      exact Bool.eq_false_iff.mpr hcalibrating
    split
    · exact .calibrate succeeds hevent (hservice.setMotor service.mMotor) hidle
    · cases getService with
      | found => exact .calibrate succeeds hevent (hservice.setMotor true) hidle
      | remoteException => exact .keeps hservice rfl
      | noSuchElementException =>
          refine .ends (finish_error_ends ?_ hservice.motorCalibrating hservice.freeFallListener
            rfl rfl)
          intro hbusy
          rw [← hbusy]
          exact hservice.motorBusy

theorem createMotor_effect {s : State} {service : PopupCameraService}
    (hservice : Keeps s.service service) (replies : OnCreateReplies) :
    Effect s (.onCreate replies) (finish (createMotor replies ⟨service, s.world⟩)) := by
  have hmotor : Keeps { s.service with mMotor := true } { service with mMotor := true } :=
    hservice.setMotor true
  have hcallback : Keeps { s.service with mMotor := true }
      { service with mMotor := true, motorStatusCallback := true } :=
    hmotor.trans ⟨rfl, rfl⟩
  unfold createMotor
  split
  · refine .ends (finish_error_ends ?_ hservice.motorCalibrating hservice.freeFallListener rfl rfl)
    intro hbusy
    rw [← hbusy]
    exact hservice.motorBusy
  · exact .keeps hservice rfl
  · dsimp only
    split
    · exact .create hmotor (.inl rfl) (Nat.le_refl _) rfl
    · split
      · split
        · split
          · exact .create hmotor (.inr ⟨_, rfl⟩) (Nat.le_add_right _ _) rfl
          · split
            · exact .create hcallback (.inr ⟨_, rfl⟩) (Nat.le_add_right _ _) rfl
            · exact .create hmotor (.inr ⟨_, rfl⟩) (Nat.le_add_right _ _) rfl
        · exact .create hmotor (.inr ⟨_, rfl⟩) (Nat.le_refl _) rfl
      · split
        · exact .create hcallback (.inl rfl) (Nat.le_refl _) rfl
        · exact .create hmotor (.inl rfl) (Nat.le_refl _) rfl

-- The four ways in which the runnable of a request can end.
theorem runMotorRequest_cases (replies : Replies) (request : Nat) (cameraState : CameraState)
    (s : State) :
    (replies.status = none ∧ s.runMotorRequest replies request cameraState =
      .ok ((s.startRequest request).postDelayed .resetMotorBusy MOTOR_BUSY_TIME)) ∨
    (∃ status lit, replies.status = some status ∧ moves cameraState status = true ∧
      (s.startRequest request).lightUp replies (cameraState = .opened) = .ok lit ∧
      s.runMotorRequest replies request cameraState = .ok (lit.issueMove replies cameraState)) ∨
    (∃ status, replies.status = some status ∧ moves cameraState status = false ∧
      s.runMotorRequest replies request cameraState =
        .ok ((s.startRequest request).endIdle status)) ∨
    ∃ after, LightsOnly (s.startRequest request) after ∧
      s.runMotorRequest replies request cameraState = .error after := by
  unfold runMotorRequest
  cases hstatus : replies.status with
  | none => exact .inl ⟨rfl, rfl⟩
  | some status =>
      cases hmoves : moves cameraState status with
      | false =>
          refine .inr (.inr (.inl ⟨status, rfl, hmoves, ?_⟩))
          simp only [hmoves]
          rfl
      | true =>
          simp only [hmoves, if_true, moveMotor]
          cases hlit : (s.startRequest request).lightUp replies (cameraState = .opened) with
          | error after =>
              obtain ⟨fx, leds, rfl⟩ := lightUp_error hlit
              exact .inr (.inr (.inr ⟨_, .setLed (s.startRequest request) fx leds, rfl⟩))
          | ok lit =>
              obtain hsound | hsound := playSoundEffect_cases replies cameraState lit
              · refine .inr (.inl ⟨status, lit, rfl, hmoves, rfl, ?_⟩)
                simp only [bind, Except.bind, hsound]
                rfl
              · refine .inr (.inr (.inr ⟨lit, lightUp_lightsOnly hlit, ?_⟩))
                simp only [bind, Except.bind, hsound]

theorem runMotorRequest_effect {s : State} {replies : Replies} {request : Nat}
    {cameraState : CameraState} {rest : DelayQueue Task}
    (hpop : s.service.mHandler.pop s.now = some (.motorRequest request cameraState, rest)) :
    Effect s (.dispatch replies)
      (finish ((s.setHandler rest).runMotorRequest replies request cameraState)) := by
  obtain ⟨hstatus, hrun⟩ | ⟨status, lit, hstatus, hmoves, hlit, hrun⟩ |
    ⟨status, hstatus, hmoves, hrun⟩ | ⟨after, hlights, hrun⟩ :=
    runMotorRequest_cases replies request cameraState (s.setHandler rest)
  · rw [hrun]
    exact .remoteException hpop hstatus
  · rw [hrun]
    exact .moved hpop hstatus hmoves hlit
  · rw [hrun]
    exact .idle hpop hstatus hmoves
  · rw [hrun]
    exact .ends (finish_error_ends (fun _ => hlights.motorBusy) hlights.motorCalibrating
      hlights.freeFallListener hlights.log hlights.now)

theorem handleTask_effect {s : State} {replies : Replies} {task : Task} {rest : DelayQueue Task}
    (hpop : s.service.mHandler.pop s.now = some (task, rest)) :
    Effect s (.dispatch replies) (finish ((s.setHandler rest).handleTask replies task)) := by
  cases task with
  | motorRequest request cameraState => exact runMotorRequest_effect hpop
  | resetMotorBusy => exact .resetMotorBusy hpop
  | resetMotorCalibrating => exact .resetMotorCalibrating hpop
  | restoreLed =>
      obtain ⟨fx, leds, hrestore | hrestore⟩ := restoreLed_cases (s.setHandler rest) replies
      · rw [handleTask, hrestore]
        exact .restoreLed hpop hrestore
      · rw [handleTask, hrestore]
        exact .ends (finish_error_ends id rfl rfl rfl rfl)
  | msgCameraClosed =>
      exact .keeps ((keeps_setHandler hpop rfl).trans
        (PopupCameraService.keeps_handleCameraClosed _ _)) rfl
  | msgCameraOpen =>
      exact .keeps ((keeps_setHandler hpop rfl).trans
        (PopupCameraService.keeps_handleCameraOpen _ _ _ _)) rfl
  | pollMotorBusy request cameraState =>
      exact .keeps ((keeps_setHandler hpop rfl).trans (PopupCameraService.keeps_poll _ _ _ _)) rfl
  | calibrationResultDialog status =>
      exact .keeps ((keeps_setHandler hpop rfl).trans ⟨rfl, rfl⟩) rfl
  | errorDialog =>
      exact .keeps ((keeps_setHandler hpop rfl).trans ⟨rfl, rfl⟩) rfl

theorem handle_effect {s after : State} {event : Event} (h : s.handle event = some after) :
    Effect s event after := by
  cases event with
  | onCreate replies =>
      obtain ⟨_, h⟩ := Option.ite_none_right_eq_some.mp h
      cases h
      refine createMotor_effect ?_ replies
      exact ⟨rfl, rfl⟩
  | onDestroy =>
      obtain ⟨_, h⟩ := Option.ite_none_right_eq_some.mp h
      cases h
      exact .keeps ⟨rfl, rfl⟩ rfl
  | onReceive screenOn =>
      obtain ⟨_, h⟩ := Option.ite_none_right_eq_some.mp h
      cases h
      exact .keeps ⟨rfl, rfl⟩ rfl
  | onCameraClosed cameraId =>
      obtain ⟨_, h⟩ := Option.ite_none_right_eq_some.mp h
      cases h
      exact .keeps (PopupCameraService.keeps_onCameraClosed _ _ _) rfl
  | onCameraOpened cameraId =>
      obtain ⟨_, h⟩ := Option.ite_none_right_eq_some.mp h
      cases h
      exact .keeps (PopupCameraService.keeps_onCameraOpened _ _ _) rfl
  | onSensorChanged isFreeFall takebackSucceeds =>
      obtain ⟨_, h⟩ := Option.ite_none_right_eq_some.mp h
      cases h
      cases isFreeFall with
      | false => exact .keeps (.refl _) rfl
      | true => exact .freeFall takebackSucceeds
  | onNotify status =>
      obtain ⟨_, h⟩ := Option.ite_none_right_eq_some.mp h
      cases h
      exact .keeps (PopupCameraService.keeps_onNotify _ _) rfl
  | onNotifyContinue =>
      simp only [handle] at h
      split at h
      · cases h
        exact .keeps (PopupCameraService.keeps_continueNotify _ _ _) rfl
      · cases h
  | raiseDialogClick dialog raise =>
      obtain ⟨_, h⟩ := Option.ite_none_right_eq_some.mp h
      cases h
      cases raise with
      | false => exact .keeps (PopupCameraService.keeps_dismiss _ _) rfl
      | true =>
          exact .keeps ((PopupCameraService.keeps_updateMotor _ _ _).trans
            (PopupCameraService.keeps_dismiss _ _)) rfl
  | errorDialogCalibrate getService succeeds =>
      obtain ⟨_, h⟩ := Option.ite_none_right_eq_some.mp h
      cases h
      refine calibrateMotor_effect rfl ?_ getService succeeds
      exact ⟨rfl, rfl⟩
  | errorDialogDismiss =>
      obtain ⟨_, h⟩ := Option.ite_none_right_eq_some.mp h
      cases h
      exact .keeps ⟨rfl, rfl⟩ rfl
  | calibrationResultDialogDismiss =>
      obtain ⟨_, h⟩ := Option.ite_none_right_eq_some.mp h
      cases h
      exact .keeps ⟨rfl, rfl⟩ rfl
  | settingsCalibrate getService succeeds =>
      obtain ⟨_, h⟩ := Option.ite_none_right_eq_some.mp h
      cases h
      exact calibrateMotor_effect rfl (.refl s.service) getService succeeds
  | dispatch replies =>
      simp only [handle] at h
      split at h
      · rename_i task rest hpop
        cases h
        exact handleTask_effect hpop
      · cases h

theorem Effect.now_le {s after : State} {event : Event} (h : Effect s event after) :
    s.world.now ≤ after.world.now := by
  cases h with
  | keeps _ hworld => exact Nat.le_of_eq (congrArg World.now hworld).symm
  | ends hends => exact Nat.le_of_eq hends.now.symm
  | create _ _ hnow _ => exact hnow
  | freeFall succeeds => cases succeeds <;> exact Nat.le_refl _
  | calibrate _ _ _ _ => exact Nat.le_refl _
  | remoteException _ _ => exact Nat.le_refl _
  | moved _ _ _ hlit =>
      rw [issueMove_world]
      exact Nat.le_of_eq (lightUp_lightsOnly hlit).now.symm
  | idle _ _ _ =>
      rw [endIdle_world]
      exact Nat.le_refl _
  | resetMotorBusy _ => exact Nat.le_refl _
  | resetMotorCalibrating _ => exact Nat.le_refl _
  | restoreLed _ hrestore => exact Nat.le_of_eq (restoreLed_lightsOnly hrestore).now.symm

theorem step_effect {s after : State} {time : Nat} {event : Event}
    (h : step s (time, event) = some after) :
    s.world.ended = false ∧ s.world.now ≤ time ∧
      Effect (s.atTime time) event after := by
  obtain ⟨hopen, h⟩ := Option.ite_none_left_eq_some.mp h
  obtain ⟨hended, htime⟩ := not_or.mp hopen
  exact ⟨Bool.eq_false_iff.mpr hended, Nat.not_lt.mp htime, handle_effect h⟩

section Dispatch

variable {s : State} {time : Nat} {replies : Replies} {task : Task} {rest : DelayQueue Task}

-- A live process can always handle what is due.
theorem step_dispatch (hlive : s.world.ended = false) (htime : s.world.now ≤ time)
    (hpop : s.service.mHandler.pop time = some (task, rest)) :
    step s (time, .dispatch replies) =
      some (finish (((s.atTime time).setHandler rest).handleTask replies task)) := by
  have hopen : ¬(s.world.ended = true ∨ time < s.world.now) := by
    rw [hlive]
    exact not_or.mpr ⟨Bool.false_ne_true, Nat.not_lt.mpr htime⟩
  have hpop' : (s.atTime time).service.mHandler.pop (s.atTime time).now = some (task, rest) := hpop
  simp only [step, if_neg hopen, handle, hpop']

theorem step_dispatch_some {after : State} (h : step s (time, .dispatch replies) = some after)
    (hpop : s.service.mHandler.pop time = some (task, rest)) :
    after = finish (((s.atTime time).setHandler rest).handleTask replies task) := by
  obtain ⟨hlive, htime, _⟩ := step_effect h
  exact Option.some.inj (h.symm.trans (step_dispatch hlive htime hpop))

end Dispatch

end Raphael.PopupCamera
