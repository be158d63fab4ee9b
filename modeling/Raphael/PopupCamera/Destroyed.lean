import Raphael.PopupCamera.LastEvent
import Raphael.PopupCamera.Process
import Raphael.PopupCamera.Session

namespace Raphael.PopupCamera

open State Trace

-- The commands that move the camera.
def moveCommands (log : List Command) : List Command :=
  log.filter fun command => command.call ≠ .calibration

-- Everything that can still move the camera when onDestroy has unregistered
-- the broadcast receiver: a press that is being noted, a raise dialog, the free
-- fall listener, and what a camera event has put into the queue.
structure NothingLeft (service : PopupCameraService) : Prop where
  pressed : service.pressed = none
  dialogs : service.raiseDialogs = []
  listener : service.freeFallListener = false
  pending : service.mHandler.select Task.isCamera = []

instance (service : PopupCameraService) : Decidable (NothingLeft service) :=
  decidable_of_iff (service.pressed = none ∧ service.raiseDialogs = [] ∧
      service.freeFallListener = false ∧ service.mHandler.select Task.isCamera = [])
    ⟨fun ⟨hn, hd, hl, hp⟩ => ⟨hn, hd, hl, hp⟩, fun ⟨hn, hd, hl, hp⟩ => ⟨hn, hd, hl, hp⟩⟩

-- Nothing is left when the object is destroyed, and the callbacks that are
-- still registered bring it no front camera event and no press.
def staysSilent (service : PopupCameraService) : Event → Bool
  | .onDestroy => decide (NothingLeft service)
  | .onNotify status => service.lifecycle ≠ .destroyed || status ≠ MOTOR_STATUS_PRESSED
  | event => service.lifecycle ≠ .destroyed || (frontEvent event).isNone

section Silent

variable {s after : State} {time : Nat} {event : Event}
  (hdestroyed : s.service.lifecycle = .destroyed) (hleft : NothingLeft s.service)
include hleft

theorem NothingLeft.no_pop {task : Task} {rest : DelayQueue Task}
    (hpop : s.service.mHandler.pop time = some (task, rest)) : task.isCamera = false := by
  rw [Bool.eq_false_iff]
  intro htask
  obtain ⟨_, _, hselect⟩ := DelayQueue.select_pop Task.isCamera hpop htask
  rw [hleft.pending] at hselect
  cases hselect

include hdestroyed

-- The ways into the session are closed.
theorem NothingLeft.session_eq (hguard : staysSilent s.service event = true)
    (hstep : step s (time, event) = some after) : after.service.session = s.service.session := by
  cases step_sessionEffect hstep with
  | quiet _ hsession => exact hsession
  | quietTask _ _ hsession => exact hsession
  | create hconstructed _ =>
      rw [show s.service.lifecycle = .constructed from hconstructed] at hdestroyed
      cases hdestroyed
  | destroy hcreated =>
      rw [show s.service.lifecycle = .created from hcreated] at hdestroyed
      cases hdestroyed
  | pressed _ => simp [staysSilent, hdestroyed] at hguard
  | cameraClosed cameraId =>
      by_cases hid : cameraId = FRONT_CAMERA_ID
      · simp [staysSilent, hdestroyed, frontEvent, hid] at hguard
      · rw [State.modify, PopupCameraService.onCameraClosed, if_neg hid]
        rfl
  | cameraOpened cameraId =>
      by_cases hid : cameraId = FRONT_CAMERA_ID
      · simp [staysSilent, hdestroyed, frontEvent, hid] at hguard
      · rw [State.modify, PopupCameraService.onCameraOpened, if_neg hid]
        rfl
  | notifyPost hnotifying =>
      have hpressed : (s.atTime time).service.pressed = none := hleft.pressed
      rw [PopupCameraService.pressed, hnotifying] at hpressed
      cases hpressed
  | click _ hshowing =>
      rw [show (s.atTime time).service.raiseDialogs = [] from hleft.dialogs] at hshowing
      cases hshowing
  | handleClosed _ hpop => cases hleft.no_pop hpop
  | handleOpen _ hpop => cases hleft.no_pop hpop
  | poll _ hpop => cases hleft.no_pop hpop
  | execute hpop _ => cases hleft.no_pop hpop

omit hdestroyed in
theorem NothingLeft.no_freeFall {succeeds : Bool} :
    step s (time, .onSensorChanged true succeeds) ≠ some after := by
  intro hstep
  obtain ⟨hlistener, _⟩ :=
    Option.ite_none_right_eq_some.mp (Option.ite_none_left_eq_some.mp hstep).2
  rw [show (s.atTime time).service.freeFallListener = false from hleft.listener] at hlistener
  cases hlistener

-- What is not in the session moves the camera only through the free fall
-- listener and the runnables.
theorem NothingLeft.listener_log (hstep : step s (time, event) = some after) :
    after.service.freeFallListener = false ∧
      moveCommands after.world.log = moveCommands s.world.log := by
  obtain ⟨_, _, heffect⟩ := step_effect hstep
  have hs : (s.atTime time).service.freeFallListener = false := hleft.listener
  cases heffect with
  | keeps hservice hworld =>
      exact ⟨hservice.freeFallListener.trans hs, by rw [hworld]; rfl⟩
  | ends hends => exact ⟨hends.freeFallListener.trans hs, by rw [hends.log]; rfl⟩
  | create hservice _ _ _ =>
      obtain ⟨⟨_, hconstructed⟩, _⟩ :=
        Option.ite_none_right_eq_some.mp (Option.ite_none_left_eq_some.mp hstep).2
      rw [show s.service.lifecycle = .constructed from hconstructed] at hdestroyed
      cases hdestroyed
  | freeFall succeeds => exact absurd hstep hleft.no_freeFall
  | calibrate succeeds _ hservice _ => exact ⟨hservice.freeFallListener.trans hs, rfl⟩
  | remoteException hpop _ => cases hleft.no_pop hpop
  | moved hpop _ _ _ => cases hleft.no_pop hpop
  | idle hpop _ _ => cases hleft.no_pop hpop
  | resetMotorBusy _ => exact ⟨hs, rfl⟩
  | resetMotorCalibrating _ => exact ⟨hs, rfl⟩
  | restoreLed _ hrestore =>
      have hlights := restoreLed_lightsOnly hrestore
      exact ⟨hlights.freeFallListener.trans hs, by rw [hlights.log]; rfl⟩

theorem NothingLeft.after_step (hguard : staysSilent s.service event = true)
    (hstep : step s (time, event) = some after) : NothingLeft after.service := by
  have hsession := hleft.session_eq hdestroyed hguard hstep
  exact ⟨(congrArg Session.pressed hsession).trans hleft.pressed,
    (congrArg Session.raiseDialogs hsession).trans hleft.dialogs,
    (hleft.listener_log hdestroyed hstep).1,
    (congrArg Session.pending hsession).trans hleft.pending⟩

end Silent

section Lifecycle

theorem lifecycle_requestKeeps : RequestKeeps PopupCameraService.lifecycle :=
  ⟨fun _ _ _ _ _ => rfl, fun _ _ => rfl⟩

theorem lifecycle_cameraEvent (now : Nat) (service : PopupCameraService) (message opposite : Task)
    (oppositeEvent : Nat) :
    (service.cameraEvent now message opposite oppositeEvent).lifecycle = service.lifecycle := by
  unfold PopupCameraService.cameraEvent
  split <;> rfl

theorem lifecycle_handleCameraClosed (now : Nat) (service : PopupCameraService) :
    (service.handleCameraClosed now).lifecycle = service.lifecycle := by
  refine (lifecycle_requestKeeps.updateMotor now _ .closed).trans ?_
  split <;> rfl

theorem lifecycle_handleCameraOpen (now : Nat) (service : PopupCameraService)
    (alwaysOnDialog nightMode : Bool) :
    (service.handleCameraOpen now alwaysOnDialog nightMode).lifecycle = service.lifecycle := by
  have htheme : (service.updateDialogTheme nightMode).lifecycle = service.lifecycle := by
    unfold PopupCameraService.updateDialogTheme
    split <;> rfl
  unfold PopupCameraService.handleCameraOpen
  split
  · rw [← htheme]
    unfold PopupCameraService.showAlertDialog
    split
    · split <;> rfl
    · rfl
  · exact lifecycle_requestKeeps.updateMotor now service .opened

-- Only onDestroy destroys an object.
theorem SessionEffect.destroyed {s after : State} {event : Event} (h : SessionEffect s event after)
    (hdestroyed : after.service.lifecycle = .destroyed) :
    event = .onDestroy ∨ s.service.lifecycle = .destroyed := by
  cases h with
  | quiet _ hsession => exact .inr ((congrArg Session.lifecycle hsession).symm.trans hdestroyed)
  | quietTask _ _ hsession =>
      exact .inr ((congrArg Session.lifecycle hsession).symm.trans hdestroyed)
  | create _ hsession =>
      have hcreated : after.service.lifecycle = .created := congrArg Session.lifecycle hsession
      rw [hcreated] at hdestroyed
      cases hdestroyed
  | destroy _ => exact .inl rfl
  | pressed hsession => exact .inr ((congrArg Session.lifecycle hsession).symm.trans hdestroyed)
  | cameraClosed cameraId =>
      rw [State.modify, PopupCameraService.onCameraClosed] at hdestroyed
      split at hdestroyed
      · rw [lifecycle_cameraEvent] at hdestroyed
        exact .inr hdestroyed
      · exact .inr hdestroyed
  | cameraOpened cameraId =>
      rw [State.modify, PopupCameraService.onCameraOpened] at hdestroyed
      split at hdestroyed
      · rw [lifecycle_cameraEvent] at hdestroyed
        exact .inr hdestroyed
      · exact .inr hdestroyed
  | notifyPost _ =>
      rw [State.modify, lifecycle_requestKeeps.postRequest] at hdestroyed
      exact .inr hdestroyed
  | @click dialog raise _ =>
      rw [State.modify, clickRaiseDialog] at hdestroyed
      cases raise with
      | false => exact .inr hdestroyed
      | true => exact .inr ((lifecycle_requestKeeps.updateMotor _ _ _).symm.trans hdestroyed)
  | handleClosed _ _ =>
      rw [State.modify, lifecycle_handleCameraClosed] at hdestroyed
      exact .inr hdestroyed
  | handleOpen _ _ =>
      rw [State.modify, lifecycle_handleCameraOpen] at hdestroyed
      exact .inr hdestroyed
  | poll _ _ =>
      rw [State.modify, lifecycle_requestKeeps.poll] at hdestroyed
      exact .inr hdestroyed
  | execute _ hsession => exact .inr ((congrArg Session.lifecycle hsession).symm.trans hdestroyed)

end Lifecycle

section Process

variable {ι : Type*} [DecidableEq ι]

-- A step of a destroyed object moves no camera and accepts no request.
def MovesNothing (p : Process ι) (event : ι × Nat × Event) : Prop :=
  (p.objects event.1).lifecycle = .destroyed → ∀ next, p.step event = some next →
    moveCommands next.world.log = moveCommands p.world.log ∧
      (next.objects event.1).requests = (p.objects event.1).requests

def DestroyedLeft (p : Process ι) : Prop :=
  ∀ object, (p.objects object).lifecycle = .destroyed → NothingLeft (p.objects object)

theorem DestroyedLeft.after_step {p next : Process ι} {event : ι × Nat × Event}
    (h : DestroyedLeft p) (hguard : staysSilent (p.objects event.1) event.2.2 = true)
    (hstep : p.step event = some next) : DestroyedLeft next := by
  obtain ⟨object, time, event⟩ := event
  obtain ⟨after, hs, rfl⟩ := Option.map_eq_some_iff.mp hstep
  intro other hdestroyed
  by_cases he : other = object
  · subst other
    dsimp only at hdestroyed ⊢
    rw [Function.update_self] at hdestroyed ⊢
    obtain rfl | hbefore := (step_sessionEffect hs).destroyed hdestroyed
    · obtain ⟨_, hhandle⟩ :=
        Option.ite_none_right_eq_some.mp (Option.ite_none_left_eq_some.mp hs).2
      cases hhandle
      have hleft : NothingLeft (p.objects object) := of_decide_eq_true hguard
      exact ⟨hleft.pressed, hleft.dialogs, hleft.listener, hleft.pending⟩
    · have hdead : (p.state object).service.lifecycle = .destroyed := hbefore
      have hleft : NothingLeft (p.state object).service := h object hbefore
      exact hleft.after_step hdead hguard hs
  · dsimp only at hdestroyed ⊢
    rw [Function.update_of_ne he] at hdestroyed ⊢
    exact h other hdestroyed

theorem DestroyedLeft.movesNothing {p : Process ι} {event : ι × Nat × Event}
    (h : DestroyedLeft p) (hguard : staysSilent (p.objects event.1) event.2.2 = true) :
    MovesNothing p event := by
  obtain ⟨object, time, event⟩ := event
  intro hdestroyed next hstep
  obtain ⟨after, hs, rfl⟩ := Option.map_eq_some_iff.mp hstep
  have hleft : NothingLeft (p.state object).service := h object hdestroyed
  refine ⟨(hleft.listener_log hdestroyed hs).2, ?_⟩
  dsimp only
  rw [Function.update_self]
  exact congrArg Session.requests (hleft.session_eq hdestroyed hguard hs)

-- In every run in which nothing is left of the objects that are destroyed, and
-- nothing reaches them, destroyed objects move no camera.
theorem destroyed_movesNothing {owner : ι → Owner} {now : Nat} {leds : Leds}
    {events : List (ι × Nat × Event)}
    (hsilent : Along Process.step
      (fun p event => staysSilent (p.objects event.1) event.2.2 = true)
      (Process.start owner now leds) events) :
    Along Process.step MovesNothing (Process.start owner now leds) events :=
  hsilent.of_invariant Process.step DestroyedLeft
    (fun _ _ _ h hguard hstep => h.after_step hguard hstep)
    (fun _ _ h hguard => h.movesNothing hguard) (fun _ h => nomatch h)

-- Two objects that the system starts one after the other.
inductive Started where
  | first | second
  deriving DecidableEq

def twoServices (_ : Started) : Owner := .system

-- The first object raises and lowers the camera and is destroyed with nothing
-- left. After that, only the back camera is used.
def restarted : List (Started × Nat × Event) :=
  [(.first, 0, .onCreate { status := some MOTOR_STATUS_TAKEBACK_OK }),
    (.first, 1000, .onCameraOpened "1"), (.first, 1100, .dispatch {}),
    (.first, 1100, .dispatch { status := some MOTOR_STATUS_TAKEBACK_OK }),
    (.first, 2300, .dispatch {}), (.first, 2500, .dispatch {}),
    (.first, 5000, .onCameraClosed "1"), (.first, 5100, .dispatch {}),
    (.first, 5100, .dispatch { status := some MOTOR_STATUS_POPUP_OK }),
    (.first, 6300, .dispatch {}), (.first, 6500, .dispatch {}), (.first, 7000, .onDestroy),
    (.second, 7100, .onCreate { status := some MOTOR_STATUS_TAKEBACK_OK }),
    (.first, 8000, .onCameraOpened "0"), (.second, 8000, .onCameraOpened "0")]

theorem destroyed_movesNothing_restarted :
    (∃ final, run Process.step (Process.start twoServices 0 .dark) restarted = some final) ∧
      Along Process.step MovesNothing (Process.start twoServices 0 .dark) restarted := by
  refine ⟨Option.isSome_iff_exists.mp (by decide +kernel), ?_⟩
  exact destroyed_movesNothing (along_of_check Process.step _
    (fun p event => staysSilent (p.objects event.1) event.2.2) (fun _ _ h => h)
    (by decide +kernel))

-- The callback of the destroyed object is still registered: both objects see
-- the camera open, and both raise it.
def openedForBoth : List (Started × Nat × Event) :=
  [(.first, 0, .onCreate { status := some MOTOR_STATUS_TAKEBACK_OK }), (.first, 500, .onDestroy),
    (.second, 600, .onCreate { status := some MOTOR_STATUS_TAKEBACK_OK }),
    (.second, 1000, .onCameraOpened "1"), (.first, 1000, .onCameraOpened "1"),
    (.second, 1100, .dispatch {}), (.first, 1100, .dispatch {}),
    (.second, 1100, .dispatch { status := some MOTOR_STATUS_TAKEBACK_OK })]

theorem destroyed_movesCamera :
    ¬∀ events, Along Process.step MovesNothing (Process.start twoServices 0 .dark) events := by
  intro h
  let last : Started × Nat × Event :=
    (.first, 1101, .dispatch { status := some MOTOR_STATUS_TAKEBACK_OK })
  have hcheck : (run Process.step (Process.start twoServices 0 .dark) openedForBoth).any (fun p =>
      (p.objects .first).lifecycle = .destroyed && (p.step last).any fun next =>
        decide (moveCommands next.world.log ≠ moveCommands p.world.log)) = true := by
    decide +kernel
  obtain ⟨p, hrun, hp⟩ := (Option.any_eq_true _ _).mp hcheck
  obtain ⟨hdestroyed, hmoved⟩ := Bool.and_eq_true_iff.mp hp
  obtain ⟨next, hstep, hlog⟩ := (Option.any_eq_true _ _).mp hmoved
  have hsilent := (h (openedForBoth ++ [last])).at_end Process.step hrun
    (of_decide_eq_true hdestroyed) next hstep
  exact of_decide_eq_true hlog hsilent.1

end Process

end Raphael.PopupCamera
