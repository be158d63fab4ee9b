import Raphael.PopupCamera.BusyWindow
import Raphael.PopupCamera.Pipeline
import Raphael.PopupCamera.Session

namespace Raphael.PopupCamera

open State Trace

namespace PopupCameraService

-- How often a request is around: executed, posted or polling.
def copies (service : PopupCameraService) (request : Nat) : Nat :=
  service.executed.count request + (service.mHandler.collect Task.request?).count request

section Copies

variable (now : Nat) (service : PopupCameraService) (request : Nat)

theorem copies_postDelayed {task : Task} {posted : Nat} (htask : task.request? = some posted)
    (delay : Nat) : (service.postDelayed now task delay).copies request =
      service.copies request + if posted = request then 1 else 0 := by
  have hperm : ((service.postDelayed now task delay).mHandler.collect Task.request?).Perm
      (posted :: service.mHandler.collect Task.request?) :=
    DelayQueue.collect_post_perm Task.request? htask
  have hexecuted : (service.postDelayed now task delay).executed = service.executed := rfl
  rw [copies, copies, hexecuted, hperm.count_eq request, List.count_cons, Nat.add_assoc]
  simp only [beq_iff_eq]

theorem copies_postDelayed_other {task : Task} (htask : task.request? = none) (delay : Nat) :
    (service.postDelayed now task delay).copies request = service.copies request :=
  congrArg (fun pending : List Nat => service.executed.count request + pending.count request)
    (DelayQueue.collect_post_of_none Task.request? htask)

theorem copies_remove {opposite : Task} (hopposite : opposite.request? = none) :
    { service with mHandler := service.mHandler.remove (· = opposite) }.copies request =
      service.copies request := by
  refine congrArg (fun pending : List Nat => service.executed.count request +
    pending.count request) (DelayQueue.collect_remove_of_none fun task htask => ?_)
  rw [of_decide_eq_true htask]
  exact hopposite

theorem copies_cameraEvent {message opposite : Task} (hmessage : message.request? = none)
    (hopposite : opposite.request? = none) (oppositeEvent : Nat) :
    (service.cameraEvent now message opposite oppositeEvent).copies request =
      service.copies request := by
  unfold cameraEvent
  split
  · rw [copies_postDelayed_other now _ request hmessage, copies_remove service request hopposite]
  · exact copies_postDelayed_other now service request hmessage CAMERA_EVENT_DELAY_TIME

theorem requests_cameraEvent (message opposite : Task) (oppositeEvent : Nat) :
    (service.cameraEvent now message opposite oppositeEvent).requests = service.requests := by
  unfold cameraEvent
  split <;> rfl

end Copies

end PopupCameraService

-- Every accepted request is around once, and no other request is.
def EachOnce (service : PopupCameraService) : Prop :=
  ∀ request, service.copies request = if request < service.requests then 1 else 0

namespace EachOnce

variable {before after service : PopupCameraService}

theorem keep (h : EachOnce before)
    (hcopies : ∀ request, after.copies request = before.copies request)
    (hrequests : after.requests = before.requests) : EachOnce after := by
  intro request
  rw [hcopies, hrequests]
  exact h request

theorem of_session (h : EachOnce before) (hsession : after.session = before.session) :
    EachOnce after := by
  have hexecuted := congrArg Session.executed hsession
  have hpending := congrArg Session.pending hsession
  have hcamera : ∀ task : Task, task.request?.isSome = true → task.isCamera = true := by
    intro task htask
    cases task with
    | motorRequest request cameraState => rfl
    | pollMotorBusy request cameraState => rfl
    | _ => cases htask
  refine h.keep (fun request => ?_) (congrArg Session.requests hsession)
  rw [PopupCameraService.copies, PopupCameraService.copies, DelayQueue.collect_eq_select,
    DelayQueue.collect_eq_select, ← DelayQueue.filter_select hcamera,
    ← DelayQueue.filter_select hcamera, show after.executed = before.executed from hexecuted,
    show after.mHandler.select Task.isCamera = before.mHandler.select Task.isCamera from hpending]

variable (now : Nat) (h : EachOnce service)
include h

theorem postRequest (motorBusy : Bool) (cameraState : CameraState) :
    EachOnce (service.postRequest now motorBusy cameraState) := by
  have hcopies : ∀ request, (service.postRequest now motorBusy cameraState).copies request =
      service.copies request + if service.requests = request then 1 else 0 := by
    intro request
    cases motorBusy with
    | true => exact PopupCameraService.copies_postDelayed now _ request rfl POLL_TIME
    | false => exact PopupCameraService.copies_postDelayed now _ request rfl 0
  have hrequests : (service.postRequest now motorBusy cameraState).requests =
      service.requests + 1 := by
    cases motorBusy <;> rfl
  intro request
  rw [hcopies, hrequests, h request]
  split <;> split <;> split <;> omega

theorem updateMotor (cameraState : CameraState) :
    EachOnce (service.updateMotor now cameraState) := by
  unfold PopupCameraService.updateMotor
  split
  · exact h
  · exact h.postRequest now service.mMotorBusy cameraState

theorem dismiss (dialog : Nat) : EachOnce (service.dismiss dialog) := h

theorem click (dialog : Nat) (raise : Bool) :
    EachOnce (clickRaiseDialog dialog raise service now) := by
  cases raise with
  | false => exact h.dismiss dialog
  | true => exact (h.updateMotor now .opened).dismiss dialog

theorem handleCameraClosed : EachOnce (service.handleCameraClosed now) := by
  unfold PopupCameraService.handleCameraClosed
  apply EachOnce.updateMotor
  split
  · exact h.dismiss _
  · exact h

theorem handleCameraOpen (alwaysOnDialog nightMode : Bool) :
    EachOnce (service.handleCameraOpen now alwaysOnDialog nightMode) := by
  have htheme : EachOnce (service.updateDialogTheme nightMode) := by
    unfold PopupCameraService.updateDialogTheme
    split
    · exact h
    · exact h
  unfold PopupCameraService.handleCameraOpen
  split
  · unfold PopupCameraService.showAlertDialog
    split
    · split
      · exact htheme
      · exact htheme
    · exact htheme
  · exact h.updateMotor now .opened

theorem cameraEvent {message opposite : Task} (hmessage : message.request? = none)
    (hopposite : opposite.request? = none) (oppositeEvent : Nat) :
    EachOnce (service.cameraEvent now message opposite oppositeEvent) :=
  h.keep (fun request => PopupCameraService.copies_cameraEvent now service request hmessage
      hopposite oppositeEvent)
    (PopupCameraService.requests_cameraEvent now service message opposite oppositeEvent)

end EachOnce

section Dispatch

variable {s : State} {rest : DelayQueue Task} (h : EachOnce s.service)
include h

theorem EachOnce.setHandler {task : Task}
    (hpop : s.service.mHandler.pop s.now = some (task, rest)) (htask : task.request? = none) :
    EachOnce (s.setHandler rest).service := by
  refine h.keep (fun request => ?_) rfl
  have hcollect : s.service.mHandler.collect Task.request? =
      task.request?.toList ++ rest.collect Task.request? := DelayQueue.collect_pop hpop
  rw [htask] at hcollect
  exact congrArg (fun pending : List Nat => s.service.executed.count request +
    pending.count request) hcollect.symm

-- The queue gives up the one copy of the request that it pops.
theorem copies_setHandler {task : Task} {popped : Nat} (htask : task.request? = some popped)
    (hpop : s.service.mHandler.pop s.now = some (task, rest)) (request : Nat) :
    ((s.setHandler rest).service.copies request + if popped = request then 1 else 0) =
      if request < s.service.requests then 1 else 0 := by
  have hcollect : s.service.mHandler.collect Task.request? =
      task.request?.toList ++ rest.collect Task.request? := DelayQueue.collect_pop hpop
  rw [htask] at hcollect
  rw [← h request, PopupCameraService.copies, PopupCameraService.copies, hcollect,
    Option.toList_some, List.singleton_append, List.count_cons, ← Nat.add_assoc]
  simp only [beq_iff_eq]
  rfl

theorem EachOnce.poll {request : Nat} {cameraState : CameraState}
    (hpop : s.service.mHandler.pop s.now = some (.pollMotorBusy request cameraState, rest)) :
    EachOnce ((s.setHandler rest).modify (·.poll s.now request cameraState)).service := by
  have hcopies := copies_setHandler h rfl hpop
  have hrequests :
      ((s.setHandler rest).modify (·.poll s.now request cameraState)).service.requests =
        s.service.requests := by
    unfold State.modify PopupCameraService.poll
    dsimp only
    split <;> rfl
  intro other
  rw [hrequests, ← hcopies other]
  unfold State.modify PopupCameraService.poll
  dsimp only
  split
  · exact PopupCameraService.copies_postDelayed s.now _ other rfl POLL_TIME
  · exact PopupCameraService.copies_postDelayed s.now _ other rfl 0

theorem EachOnce.execute {request : Nat} {cameraState : CameraState}
    (hpop : s.service.mHandler.pop s.now = some (.motorRequest request cameraState, rest)) :
    EachOnce ((s.setHandler rest).startRequest request).service := by
  intro other
  have hcount : ((s.setHandler rest).startRequest request).service.copies other =
      (s.setHandler rest).service.copies other + if request = other then 1 else 0 := by
    simp only [PopupCameraService.copies, startRequest, State.modify, List.count_cons, beq_iff_eq]
    exact Nat.add_right_comm _ _ _
  rw [hcount]
  exact copies_setHandler h rfl hpop other

end Dispatch

theorem EachOnce.after_step {s after : State} {event : Nat × Event} (h : EachOnce s.service)
    (hstep : step s event = some after) : EachOnce after.service := by
  obtain ⟨time, event⟩ := event
  have hs : EachOnce (s.atTime time).service := h
  cases step_sessionEffect hstep with
  | quiet _ hsession => exact hs.of_session hsession
  | quietTask _ _ hsession => exact hs.of_session hsession
  | create _ hsession =>
      have hcreated : EachOnce { s.service with lifecycle := .created } := h
      exact hcreated.of_session hsession
  | destroy _ => exact h
  | pressed hsession =>
      have hpressed :
          EachOnce { s.service with notifying := some (.requesting s.service.mMotorBusy) } := h
      exact hpressed.of_session hsession
  | cameraClosed cameraId =>
      rw [State.modify, PopupCameraService.onCameraClosed]
      split
      · have hevent : EachOnce { s.service with mClosedEvent := time } := h
        exact hevent.cameraEvent time rfl rfl _
      · exact h
  | cameraOpened cameraId =>
      rw [State.modify, PopupCameraService.onCameraOpened]
      split
      · have hevent : EachOnce { s.service with mOpenEvent := time } := h
        exact hevent.cameraEvent time rfl rfl _
      · exact h
  | notifyPost _ =>
      have hnotified : EachOnce { s.service with notifying := none } := h
      exact hnotified.postRequest time _ _
  | click raise _ => exact hs.click time _ raise
  | handleClosed replies hpop => exact (hs.setHandler hpop rfl).handleCameraClosed time
  | handleOpen replies hpop => exact (hs.setHandler hpop rfl).handleCameraOpen time _ _
  | poll replies hpop => exact hs.poll hpop
  | execute hpop hsession => exact (hs.execute hpop).of_session hsession

-- As long as the process lives, a raised flag has a reset to come.
def ResetPending (s : State) : Prop :=
  s.world.ended = false → s.service.mMotorBusy = true →
    s.service.mHandler.select Task.isBusyReset ≠ []

theorem ResetPending.keep {before after : State} (h : ResetPending before)
    (halive : before.world.ended = false)
    (hbusy : after.service.mMotorBusy = before.service.mMotorBusy)
    (hresets : after.service.mHandler.select Task.isBusyReset =
      before.service.mHandler.select Task.isBusyReset) : ResetPending after := by
  intro _ hraised
  rw [hresets]
  exact h halive (hbusy ▸ hraised)

theorem ResetPending.of_clear {s : State} (hbusy : s.service.mMotorBusy = false) :
    ResetPending s := by
  intro _ hraised
  rw [hbusy] at hraised
  cases hraised

theorem ResetPending.of_post {s : State} {queue : DelayQueue Task} {due : Nat}
    (hposted : s.service.mHandler = queue.post due .resetMotorBusy) : ResetPending s := by
  intro _ _
  rw [hposted]
  exact List.ne_nil_of_mem (DelayQueue.mem_select_post_self rfl)

theorem Keeps.isBusyReset {before after : PopupCameraService} (h : Keeps before after) :
    after.mHandler.select Task.isBusyReset = before.mHandler.select Task.isBusyReset := by
  refine h.select fun task htask => ?_
  cases task with
  | resetMotorBusy => rfl
  | _ => cases htask

-- The flag is raised together with the post of its reset, in every branch of
-- the runnable but the one that clears it again.
theorem ResetPending.after_step {s after : State} {event : Nat × Event} (h : ResetPending s)
    (hstep : step s event = some after) : ResetPending after := by
  obtain ⟨time, event⟩ := event
  obtain ⟨halive, _, heffect⟩ := step_effect hstep
  have hs : ResetPending (s.atTime time) := h
  cases heffect with
  | keeps hservice _ => exact hs.keep halive hservice.motorBusy hservice.isBusyReset
  | ends hends =>
      intro hlives
      rw [hends.ended] at hlives
      cases hlives
  | create hservice _ _ _ => exact hs.keep halive hservice.motorBusy hservice.isBusyReset
  | freeFall succeeds => cases succeeds <;> exact hs.keep halive rfl rfl
  | calibrate succeeds _ hservice _ =>
      refine hs.keep halive hservice.motorBusy ?_
      exact (DelayQueue.select_post_of_other rfl).trans hservice.isBusyReset
  | remoteException _ _ => exact .of_post rfl
  | @moved replies request cameraState rest status lit _ _ _ _ =>
      exact .of_post (issueMove_handler lit replies cameraState)
  | idle _ _ _ => exact .of_clear (endIdle_keeps _ _).motorBusy
  | resetMotorBusy _ => exact .of_clear rfl
  | resetMotorCalibrating hpop => exact hs.keep halive rfl (DelayQueue.select_pop_of_other hpop rfl)
  | restoreLed hpop hrestore =>
      have hlights := restoreLed_lightsOnly hrestore
      refine hs.keep halive hlights.motorBusy ?_
      exact (hlights.select _ rfl).trans (DelayQueue.select_pop_of_other hpop rfl)

-- A request in the queue is a posted one or a polling one.
theorem count_request (queue : DelayQueue Task) (request : Nat) :
    (queue.collect Task.request?).count request =
      ((queue.collect Task.runnable?).map Prod.fst).count request +
        ((queue.collect Task.polling?).map Prod.fst).count request := by
  unfold DelayQueue.collect
  induction queue.entries with
  | nil => rfl
  | cons first rest ih =>
      obtain ⟨due, task⟩ := first
      cases task with
      | motorRequest posted cameraState =>
          have hrequest : (Task.motorRequest posted cameraState).request? = some posted := rfl
          have hrunnable : (Task.motorRequest posted cameraState).runnable? =
            some (posted, cameraState) := rfl
          have hpolling : (Task.motorRequest posted cameraState).polling? = none := rfl
          simp only [List.filterMap_cons, hrequest, hrunnable, hpolling, List.map_cons,
            List.count_cons, ih]
          omega
      | pollMotorBusy posted cameraState =>
          have hrequest : (Task.pollMotorBusy posted cameraState).request? = some posted := rfl
          have hrunnable : (Task.pollMotorBusy posted cameraState).runnable? = none := rfl
          have hpolling : (Task.pollMotorBusy posted cameraState).polling? =
            some (posted, cameraState) := rfl
          simp only [List.filterMap_cons, hrequest, hrunnable, hpolling, List.map_cons,
            List.count_cons, ih]
          omega
      | _ =>
          simp only [List.filterMap_cons, Task.request?, Task.runnable?, Task.polling?]
          exact ih

-- No request is lost or doubled, and the flag cannot get stuck.
theorem requests_conserved {now : Nat} {leds : Leds} {events : List (Nat × Event)} {final : State}
    (hrun : run step (start now leds) events = some final) :
    (∀ request,
      ((final.service.mHandler.collect Task.polling?).map Prod.fst).count request +
        ((final.service.mHandler.collect Task.runnable?).map Prod.fst).count request +
        final.service.executed.count request =
          if request < final.service.requests then 1 else 0) ∧
      (final.world.ended = false → final.service.mMotorBusy = true →
        final.service.mHandler.select (· = .resetMotorBusy) ≠ []) := by
  obtain ⟨honce, hpending⟩ : EachOnce final.service ∧ ResetPending final :=
    run_invariant step (fun s => EachOnce s.service ∧ ResetPending s)
      (fun _ _ _ hs _ hstep => ⟨hs.1.after_step hstep, hs.2.after_step hstep⟩)
      ⟨fun _ => rfl, .of_clear rfl⟩ (along_true step _ events) hrun
  refine ⟨fun request => ?_, fun halive hbusy => ?_⟩
  · rw [← honce request, PopupCameraService.copies, count_request]
    omega
  · have hkind : (fun task : Task => decide (task = .resetMotorBusy)) = Task.isBusyReset := by
      funext task
      cases task <;> rfl
    rw [hkind]
    exact hpending halive hbusy

-- Two requests of an open and a close event, of which the second still polls.
theorem requests_conserved_openThenClose :
    ∃ final, run step (start 0 .dark) (openedOnce ++ [(1600, .onCameraClosed "1"),
        (1700, .dispatch {})]) = some final ∧
      (∀ request,
        ((final.service.mHandler.collect Task.polling?).map Prod.fst).count request +
          ((final.service.mHandler.collect Task.runnable?).map Prod.fst).count request +
          final.service.executed.count request =
            if request < final.service.requests then 1 else 0) ∧
        (final.world.ended = false → final.service.mMotorBusy = true →
          final.service.mHandler.select (· = .resetMotorBusy) ≠ []) := by
  obtain ⟨final, hrun⟩ : ∃ final, run step (start 0 .dark) (openedOnce ++
      [(1600, .onCameraClosed "1"), (1700, .dispatch {})]) = some final :=
    Option.isSome_iff_exists.mp (by decide +kernel)
  exact ⟨final, hrun, requests_conserved hrun⟩

end Raphael.PopupCamera
