import Raphael.PopupCamera.Cause

namespace Raphael.PopupCamera

open State Trace

-- The state that a request on its way has been made for.
def Task.requested? : Task → Option CameraState
  | .motorRequest _ cameraState => some cameraState
  | .pollMotorBusy _ cameraState => some cameraState
  | _ => none

-- The requests on their way that raise the camera.
def raising (service : PopupCameraService) : Nat := carrying Task.requested? .opened service

-- The raise that an event agrees to: a click on the button of the dialog, or
-- an open message that is handled when the dialog is not asked for.
def consents (s : State) : Nat × Event → Nat
  | (_, .raiseDialogClick _ raise) => raise.toNat
  | (time, .dispatch replies) =>
      match s.service.mHandler.pop time with
      | some (.msgCameraOpen, _) =>
          if replies.alwaysOnDialog ∨ s.service.mScreenOn = false then 0 else 1
      | _ => 0
  | _ => 0

section Raising

variable (now : Nat) (service : PopupCameraService)

theorem raising_of_session {before after : PopupCameraService}
    (h : after.session = before.session) : raising after = raising before := by
  have hcamera : ∀ task : Task, task.requested?.isSome = true → task.isCamera = true := by
    intro task htask
    cases task <;> first | rfl | cases htask
  exact carrying_of_session .opened hcamera h

theorem raising_postDelayed_other {task : Task} (htask : task.requested? = none) (delay : Nat) :
    raising (service.postDelayed now task delay) = raising service :=
  congrArg (List.count CameraState.opened) (DelayQueue.collect_post_of_none _ htask)

theorem raising_postRequest (motorBusy : Bool) (cameraState : CameraState) :
    raising (service.postRequest now motorBusy cameraState) =
      raising service + if cameraState = .opened then 1 else 0 := by
  unfold PopupCameraService.postRequest
  split
  · exact carrying_postDelayed .opened now _ rfl POLL_TIME
  · exact carrying_postDelayed .opened now _ rfl 0

theorem raising_updateMotor_le (cameraState : CameraState) :
    raising (service.updateMotor now cameraState) ≤
      raising service + if cameraState = .opened then 1 else 0 := by
  unfold PopupCameraService.updateMotor
  split
  · exact Nat.le_add_right _ _
  · exact Nat.le_of_eq (raising_postRequest now service _ cameraState)

theorem raising_poll (request : Nat) (cameraState : CameraState) :
    raising (service.poll now request cameraState) =
      raising service + if cameraState = .opened then 1 else 0 := by
  unfold PopupCameraService.poll
  split
  · exact carrying_postDelayed .opened now _ rfl POLL_TIME
  · exact carrying_postDelayed .opened now _ rfl 0

theorem raising_cameraEvent {message opposite : Task} (hmessage : message.requested? = none)
    (hopposite : opposite.requested? = none) (oppositeEvent : Nat) :
    raising (service.cameraEvent now message opposite oppositeEvent) = raising service := by
  unfold PopupCameraService.cameraEvent
  split
  · rw [raising_postDelayed_other now _ hmessage]
    refine congrArg (List.count CameraState.opened)
      (DelayQueue.collect_remove_of_none fun task htask => ?_)
    rw [of_decide_eq_true htask]
    exact hopposite
  · exact raising_postDelayed_other now service hmessage _

theorem raising_handleCameraClosed :
    raising (service.handleCameraClosed now) ≤ raising service := by
  unfold PopupCameraService.handleCameraClosed
  refine Nat.le_trans (raising_updateMotor_le now _ .closed) (Nat.le_of_eq ?_)
  split <;> rfl

theorem raising_updateDialogTheme (nightMode : Bool) :
    raising (service.updateDialogTheme nightMode) = raising service := by
  unfold PopupCameraService.updateDialogTheme
  split <;> rfl

-- The dialog makes no request by itself.
theorem raising_showAlertDialog : raising service.showAlertDialog = raising service := by
  unfold PopupCameraService.showAlertDialog
  split
  · split <;> rfl
  · rfl

theorem raising_handleCameraOpen_le (alwaysOnDialog nightMode : Bool) :
    raising (service.handleCameraOpen now alwaysOnDialog nightMode) ≤
      raising service + if alwaysOnDialog ∨ service.mScreenOn = false then 0 else 1 := by
  unfold PopupCameraService.handleCameraOpen
  split
  · rw [raising_showAlertDialog]
    exact Nat.le_of_eq (raising_updateDialogTheme service nightMode)
  · exact raising_updateMotor_le now service .opened

end Raising

section Step

variable {s after : State} {time : Nat} {event : Event}

-- No event puts more raises on their way than it agrees to.
theorem raising_after_step (hstep : step s (time, event) = some after) :
    raising after.service ≤ raising s.service + consents s (time, event) := by
  cases step_sessionEffect hstep with
  | quiet _ hsession =>
      rw [raising_of_session hsession]
      exact Nat.le_add_right _ _
  | quietTask _ _ hsession =>
      rw [raising_of_session hsession]
      exact Nat.le_add_right _ _
  | create _ hsession =>
      rw [raising_of_session hsession]
      exact Nat.le_add_right _ _
  | destroy _ => exact Nat.le_add_right _ _
  | pressed hsession =>
      rw [raising_of_session hsession]
      exact Nat.le_add_right _ _
  | cameraClosed cameraId =>
      refine Nat.le_trans (Nat.le_of_eq ?_) (Nat.le_add_right _ _)
      rw [State.modify, PopupCameraService.onCameraClosed]
      split
      · exact raising_cameraEvent time _ rfl rfl _
      · rfl
  | cameraOpened cameraId =>
      refine Nat.le_trans (Nat.le_of_eq ?_) (Nat.le_add_right _ _)
      rw [State.modify, PopupCameraService.onCameraOpened]
      split
      · exact raising_cameraEvent time _ rfl rfl _
      · rfl
  | notifyPost _ => exact Nat.le_of_eq (raising_postRequest time _ _ .closed)
  | @click dialog raise _ =>
      cases raise with
      | false => exact Nat.le_refl _
      | true => exact raising_updateMotor_le time s.service .opened
  | @handleClosed replies rest hpop =>
      have hhandled := raising_handleCameraClosed time ((s.atTime time).setHandler rest).service
      have hpopped := carrying_setHandler .opened Task.requested? hpop
      exact Nat.le_trans hhandled (Nat.le_trans (Nat.le_of_eq hpopped.symm) (Nat.le_add_right _ _))
  | @handleOpen replies rest hpop =>
      have hhandled := raising_handleCameraOpen_le time ((s.atTime time).setHandler rest).service
        replies.alwaysOnDialog replies.nightMode
      have hpopped : raising s.service = raising ((s.atTime time).setHandler rest).service :=
        carrying_setHandler .opened Task.requested? hpop
      have hconsents : consents s (time, .dispatch replies) =
          if replies.alwaysOnDialog ∨ s.service.mScreenOn = false then 0 else 1 := by
        rw [consents, show s.service.mHandler.pop time = _ from hpop]
      rw [hpopped, hconsents]
      exact hhandled
  | @poll replies request cameraState rest hpop =>
      have hpolled :=
        raising_poll time ((s.atTime time).setHandler rest).service request cameraState
      have hpopped := carrying_setHandler .opened Task.requested? hpop
      refine Nat.le_trans (Nat.le_of_eq (hpolled.trans ?_)) (Nat.le_add_right _ _)
      rw [show raising s.service = _ from hpopped]
      cases cameraState <;> rfl
  | @execute replies request cameraState rest after hpop hsession =>
      have hpopped := carrying_setHandler .opened Task.requested? hpop
      have hstarted : raising after.service = raising ((s.atTime time).setHandler rest).service :=
        (raising_of_session hsession).trans rfl
      rw [hstarted]
      exact Nat.le_trans (Nat.le_trans (Nat.le_add_right _ _) (Nat.le_of_eq hpopped.symm))
        (Nat.le_add_right _ _)

theorem consented_after_step (hstep : step s (time, event) = some after) :
    answered .opened after.world.log + raising after.service ≤
      answered .opened s.world.log + raising s.service + consents s (time, event) := by
  obtain ⟨_, _, heffect⟩ := step_effect hstep
  obtain hlog | ⟨request, cameraState, rest, hpop, hsession, hlog⟩ := heffect.answered .opened
  · have hraising := raising_after_step hstep
    rw [hlog, Nat.add_assoc]
    exact Nat.add_le_add_left hraising _
  · have hpopped : raising s.service = raising ((s.atTime time).setHandler rest).service +
        if some cameraState = some CameraState.opened then 1 else 0 :=
      carrying_setHandler .opened Task.requested? hpop
    have hstarted : raising after.service = raising ((s.atTime time).setHandler rest).service :=
      (raising_of_session hsession).trans rfl
    have hworld : answered .opened (s.atTime time).world.log =
        answered .opened s.world.log := rfl
    simp only [Option.some.injEq] at hpopped
    omega

end Step

def clicks : Event → Nat
  | .raiseDialogClick _ raise => raise.toNat
  | _ => 0

-- The camera is never raised unasked: every popup answers a consent of its own,
-- and where the dialog is always on, a click of its own on the dialog's button.
theorem popups_have_consent {owner : Owner} {now : Nat} {leds : Leds}
    {events : List (Nat × Event)} {final : State}
    (hrun : run step (constructed owner now leds) events = some final) :
    answered .opened final.world.log + raising final.service ≤
        total step consents (constructed owner now leds) events ∧
      ((∀ time replies, (time, .dispatch replies) ∈ events → replies.alwaysOnDialog = true) →
        answered .opened final.world.log + raising final.service ≤
          (events.map fun event => clicks event.2).sum) := by
  have hcount := count_le_total step
    (fun s => answered .opened s.world.log + raising s.service) consents
    (fun _ _ _ hstep => consented_after_step hstep) hrun
  have hstart : answered .opened (constructed owner now leds).world.log +
      raising (constructed owner now leds).service = 0 := rfl
  rw [hstart, Nat.zero_add] at hcount
  refine ⟨hcount, fun halways => Nat.le_trans hcount (total_le_sum step ?_ _)⟩
  intro s event hevent
  obtain ⟨time, event⟩ := event
  cases event with
  | raiseDialogClick dialog raise => exact Nat.le_refl _
  | dispatch replies =>
      have hasked := halways time replies hevent
      rw [consents, hasked]
      split
      · exact Nat.le_of_eq (if_pos (.inl rfl))
      · exact Nat.le_refl 0
  | _ => exact Nat.le_refl 0

def raisedByClick : List (Nat × Event) :=
  [(0, .onCreate { status := some MOTOR_STATUS_TAKEBACK_OK }), (1000, .onCameraOpened "1"),
    (1100, .dispatch { alwaysOnDialog := true }), (1500, .raiseDialogClick 0 true),
    (1500, .dispatch { status := some MOTOR_STATUS_TAKEBACK_OK, alwaysOnDialog := true })]

theorem popups_have_consent_raisedByClick :
    ∃ final, run step (constructed .system 0 .dark) raisedByClick = some final ∧
      answered .opened final.world.log = 1 ∧
      answered .opened final.world.log + raising final.service ≤
        total step consents (constructed .system 0 .dark) raisedByClick ∧
      answered .opened final.world.log + raising final.service ≤
        (raisedByClick.map fun event => clicks event.2).sum := by
  have hraised : (run step (constructed .system 0 .dark) raisedByClick).any (fun final =>
      answered .opened final.world.log = 1) = true := by decide +kernel
  obtain ⟨final, hrun, hmoved⟩ := (Option.any_eq_true _ _).mp hraised
  obtain ⟨hconsents, hclicks⟩ := popups_have_consent hrun
  refine ⟨final, hrun, of_decide_eq_true hmoved, hconsents, hclicks fun time replies hevent => ?_⟩
  simp only [raisedByClick, List.mem_cons, Prod.mk.injEq, Event.dispatch.injEq, reduceCtorEq,
    and_false, false_or, or_false, List.not_mem_nil] at hevent
  obtain ⟨-, rfl⟩ | ⟨-, rfl⟩ := hevent <;> rfl

end Raphael.PopupCamera
