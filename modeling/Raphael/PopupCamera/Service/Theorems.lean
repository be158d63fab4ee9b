import Raphael.DelayQueue.Theorems
import Raphael.PopupCamera.Service

namespace Raphael.PopupCamera

-- The callbacks that end a busy window, a calibration or an LED effect.
def Task.isTimer : Task → Bool
  | .resetMotorBusy | .resetMotorCalibrating | .restoreLed => true
  | _ => false

-- The fields that the motor and its lights are driven by.
structure Drive where
  mMotorBusy : Bool
  mMotorCalibrating : Bool
  freeFallListener : Bool
  mLed : LedEffect
  mMotor : Bool
  executed : List Nat

def PopupCameraService.drive (service : PopupCameraService) : Drive :=
  ⟨service.mMotorBusy, service.mMotorCalibrating, service.freeFallListener, service.mLed,
    service.mMotor, service.executed⟩

-- Most methods leave these fields and the pending timers alone.
structure Keeps (before after : PopupCameraService) : Prop where
  drive : after.drive = before.drive
  timers : after.mHandler.select Task.isTimer = before.mHandler.select Task.isTimer

namespace Keeps

theorem refl (service : PopupCameraService) : Keeps service service := ⟨rfl, rfl⟩

theorem trans {first second third : PopupCameraService} (h : Keeps first second)
    (h' : Keeps second third) : Keeps first third :=
  ⟨h'.drive.trans h.drive, h'.timers.trans h.timers⟩

section Fields

variable {before after : PopupCameraService} (h : Keeps before after)
include h

theorem motorBusy : after.mMotorBusy = before.mMotorBusy :=
  congrArg Drive.mMotorBusy h.drive

theorem motorCalibrating : after.mMotorCalibrating = before.mMotorCalibrating :=
  congrArg Drive.mMotorCalibrating h.drive

theorem freeFallListener : after.freeFallListener = before.freeFallListener :=
  congrArg Drive.freeFallListener h.drive

theorem setMotor (motor : Bool) :
    Keeps { before with mMotor := motor } { after with mMotor := motor } :=
  ⟨congrArg (fun drive : Drive => { drive with mMotor := motor }) h.drive, h.timers⟩

end Fields

-- The pending callbacks of one kind are kept with the timers.
theorem select {before after : PopupCameraService} (h : Keeps before after) {kind : Task → Bool}
    (hkind : ∀ task, kind task = true → task.isTimer = true) :
    after.mHandler.select kind = before.mHandler.select kind := by
  rw [← DelayQueue.filter_select hkind, ← DelayQueue.filter_select hkind, h.timers]

end Keeps

namespace PopupCameraService

variable (now : Nat) (service : PopupCameraService)

theorem keeps_postDelayed {task : Task} (delay : Nat) (htask : task.isTimer = false) :
    Keeps service (service.postDelayed now task delay) :=
  ⟨rfl, DelayQueue.select_post_of_other htask⟩

theorem keeps_postRequest (motorBusy : Bool) (cameraState : CameraState) :
    Keeps service (service.postRequest now motorBusy cameraState) := by
  have hcount : Keeps service { service with requests := service.requests + 1 } :=
    ⟨rfl, rfl⟩
  unfold postRequest
  split
  · exact hcount.trans (keeps_postDelayed now _ POLL_TIME rfl)
  · exact hcount.trans (keeps_postDelayed now _ 0 rfl)

theorem keeps_updateMotor (cameraState : CameraState) :
    Keeps service (service.updateMotor now cameraState) := by
  unfold updateMotor
  split
  · exact .refl service
  · exact keeps_postRequest now service _ cameraState

theorem keeps_poll (request : Nat) (cameraState : CameraState) :
    Keeps service (service.poll now request cameraState) := by
  unfold poll
  split
  · exact keeps_postDelayed now service POLL_TIME rfl
  · exact keeps_postDelayed now service 0 rfl

theorem keeps_cameraEvent {message opposite : Task} (oppositeEvent : Nat)
    (hmessage : message.isTimer = false) (hopposite : opposite.isTimer = false) :
    Keeps service (service.cameraEvent now message opposite oppositeEvent) := by
  have hdisjoint : ∀ task : Task, task.isTimer = true → decide (task = opposite) = false := by
    intro task htask
    rw [decide_eq_false_iff_not]
    rintro rfl
    rw [hopposite] at htask
    cases htask
  unfold cameraEvent
  split
  · have hremove : Keeps service
        { service with mHandler := service.mHandler.remove (· = opposite) } :=
      ⟨rfl, DelayQueue.select_remove_of_disjoint hdisjoint⟩
    exact hremove.trans (keeps_postDelayed now _ CAMERA_EVENT_DELAY_TIME hmessage)
  · exact keeps_postDelayed now service CAMERA_EVENT_DELAY_TIME hmessage

theorem keeps_onCameraClosed (cameraId : String) :
    Keeps service (service.onCameraClosed now cameraId) := by
  have hevent : Keeps service { service with mClosedEvent := now } :=
    ⟨rfl, rfl⟩
  unfold onCameraClosed
  split
  · exact hevent.trans (keeps_cameraEvent now _ service.mOpenEvent rfl rfl)
  · exact .refl service

theorem keeps_onCameraOpened (cameraId : String) :
    Keeps service (service.onCameraOpened now cameraId) := by
  have hevent : Keeps service { service with mOpenEvent := now } :=
    ⟨rfl, rfl⟩
  unfold onCameraOpened
  split
  · exact hevent.trans (keeps_cameraEvent now _ service.mClosedEvent rfl rfl)
  · exact .refl service

theorem keeps_dismiss (dialog : Nat) : Keeps service (service.dismiss dialog) :=
  ⟨rfl, rfl⟩

theorem keeps_updateDialogTheme (nightMode : Bool) :
    Keeps service (service.updateDialogTheme nightMode) := by
  unfold updateDialogTheme
  split
  · exact ⟨rfl, rfl⟩
  · exact .refl service

theorem keeps_showAlertDialog : Keeps service service.showAlertDialog := by
  unfold showAlertDialog
  split
  · split
    · exact .refl service
    · exact ⟨rfl, rfl⟩
  · exact ⟨rfl, rfl⟩

theorem keeps_handleCameraClosed : Keeps service (service.handleCameraClosed now) := by
  unfold handleCameraClosed
  refine .trans ?_ (keeps_updateMotor now _ .closed)
  split
  · exact keeps_dismiss service _
  · exact .refl service

theorem keeps_handleCameraOpen (alwaysOnDialog nightMode : Bool) :
    Keeps service (service.handleCameraOpen now alwaysOnDialog nightMode) := by
  unfold handleCameraOpen
  split
  · exact (keeps_updateDialogTheme service nightMode).trans (keeps_showAlertDialog _)
  · exact keeps_updateMotor now service .opened

theorem keeps_showErrorDialog : Keeps service (service.showErrorDialog now) := by
  have hshowing : Keeps service { service with mErrorDialogShowing := true } :=
    ⟨rfl, rfl⟩
  unfold showErrorDialog
  split
  · exact .refl service
  · exact hshowing.trans (keeps_postDelayed now _ 0 rfl)

theorem keeps_askDialog (dialog : GuardedDialog) : Keeps service (service.askDialog dialog) := by
  unfold askDialog
  split
  · exact .refl service
  · exact ⟨rfl, rfl⟩

theorem keeps_onNotify (status : Int) : Keeps service (service.onNotify status) := by
  unfold onNotify
  split
  · exact keeps_askDialog service _
  · split
    · split
      · exact ⟨rfl, rfl⟩
      · exact .refl service
    · split
      · exact keeps_askDialog service .error
      · exact .refl service

theorem keeps_continueNotify (notifying : Notifying) :
    Keeps service (service.continueNotify now notifying) := by
  have hnotified : Keeps service { service with notifying := none } := ⟨rfl, rfl⟩
  cases notifying with
  | requesting motorBusy => exact hnotified.trans (keeps_postRequest now _ motorBusy .closed)
  | asking dialog => exact ⟨rfl, rfl⟩
  | posting dialog =>
      have htask : dialog.task.isTimer = false := by cases dialog <;> rfl
      exact hnotified.trans (keeps_postDelayed now _ 0 htask)

end PopupCameraService

end Raphael.PopupCamera
