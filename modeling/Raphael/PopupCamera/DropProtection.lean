import Raphael.PopupCamera.BusyWindow

namespace Raphael.PopupCamera

open Trace (run run_invariant along_true)
open State

-- The calls that count, when they do not throw: those of updateMotor and of the
-- listener.
def Command.decides (command : Command) : Bool :=
  command.succeeded &&
    match command.issuer, command.call with
    | .updateMotor, .popupMotor => true
    | .updateMotor, .takebackMotor => true
    | .freeFallListener, .takebackMotorShortly => true
    | _, _ => false

def lastMove (log : List Command) : Option MotorCall :=
  (log.find? Command.decides).map Command.call

theorem lastMove_of_decides {command : Command} (log : List Command)
    (hdecides : command.decides = true) : lastMove (command :: log) = some command.call := by
  rw [lastMove, List.find?_cons_of_pos hdecides, Option.map_some]

theorem lastMove_of_not_decides {command : Command} (log : List Command)
    (hdecides : command.decides = false) : lastMove (command :: log) = lastMove log := by
  rw [lastMove, List.find?_cons_of_neg (by simp [hdecides]), lastMove]

-- Drop protection is armed exactly while the camera is raised.
def Protected (s : State) : Prop :=
  s.service.freeFallListener = true ↔ lastMove s.world.log = some .popupMotor

theorem Protected.of_lowered {s : State} (hlistener : s.service.freeFallListener = false)
    (hlast : lastMove s.world.log ≠ some .popupMotor) : Protected s :=
  iff_of_false (fun h => Bool.false_ne_true (hlistener.symm.trans h)) hlast

theorem Protected.keep {s after : State} (h : Protected s)
    (hlistener : after.service.freeFallListener = s.service.freeFallListener)
    (hlast : lastMove after.world.log = lastMove s.world.log) : Protected after := by
  unfold Protected at h ⊢
  rw [hlistener, hlast]
  exact h

theorem issueMove_freeFallListener (s : State) (replies : Replies) (cameraState : CameraState) :
    (s.issueMove replies cameraState).service.freeFallListener =
      if replies.commandSucceeds then decide (cameraState = .opened)
      else s.service.freeFallListener := by
  unfold issueMove
  cases replies.commandSucceeds <;> rfl

-- The listener follows a command that succeeds, and nothing follows one that
-- throws.
theorem Protected.issueMove {s : State} (h : Protected s) (replies : Replies)
    (cameraState : CameraState) : Protected (s.issueMove replies cameraState) := by
  cases hsucceeds : replies.commandSucceeds with
  | false =>
      apply h.keep
      · rw [issueMove_freeFallListener, hsucceeds]
        rfl
      · rw [issueMove_world, hsucceeds]
        exact lastMove_of_not_decides _ rfl
  | true =>
      have hlistener := issueMove_freeFallListener s replies cameraState
      have hlast := congrArg (fun world => lastMove world.log)
        (issueMove_world s replies cameraState)
      rw [hsucceeds, if_pos rfl] at hlistener
      simp only [hsucceeds] at hlast
      cases cameraState with
      | opened => exact iff_of_true hlistener (hlast.trans (lastMove_of_decides _ rfl))
      | closed =>
          have htakeback := hlast.trans (lastMove_of_decides _ rfl)
          exact .of_lowered hlistener (by rw [htakeback]; simp)

theorem Protected.freeFall {s : State} (h : Protected s) (succeeds : Bool) :
    Protected (s.onSensorChanged true succeeds) := by
  cases succeeds with
  | false => exact h.keep rfl (lastMove_of_not_decides _ rfl)
  | true =>
      have hlast : lastMove (s.onSensorChanged true true).world.log =
          some .takebackMotorShortly := lastMove_of_decides _ rfl
      exact .of_lowered rfl (by rw [hlast]; decide)

theorem Protected.after_step {s after : State} {event : Nat × Event} (h : Protected s)
    (hstep : step s event = some after) : Protected after := by
  obtain ⟨time, event⟩ := event
  obtain ⟨-, -, heffect⟩ := step_effect hstep
  have htime : Protected (s.atTime time) := h
  cases heffect with
  | keeps hservice hworld =>
      exact htime.keep hservice.freeFallListener (by rw [hworld])
  | ends hends => exact htime.keep hends.freeFallListener (by rw [hends.log])
  | create hservice hlog _ _ =>
      apply htime.keep hservice.freeFallListener
      obtain hlog | ⟨succeeded, hlog⟩ := hlog
      · rw [hlog]
      · rw [hlog]
        exact lastMove_of_not_decides _ (Bool.and_false succeeded)
  | freeFall succeeds => exact htime.freeFall succeeds
  | calibrate succeeds _ hservice _ =>
      exact htime.keep hservice.freeFallListener
        (lastMove_of_not_decides _ (Bool.and_false succeeds))
  | remoteException _ _ => exact htime.keep rfl rfl
  | @moved replies request cameraState rest status lit _ _ _ hlit =>
      have hlights := lightUp_lightsOnly hlit
      have hlit : Protected lit := htime.keep hlights.freeFallListener (by rw [hlights.log]; rfl)
      exact hlit.issueMove replies cameraState
  | idle _ _ _ =>
      apply htime.keep
      · exact (endIdle_keeps _ _).freeFallListener
      · rw [endIdle_world]
        rfl
  | resetMotorBusy _ => exact htime.keep rfl rfl
  | resetMotorCalibrating _ => exact htime.keep rfl rfl
  | restoreLed _ hrestore =>
      have hlights := restoreLed_lightsOnly hrestore
      exact htime.keep hlights.freeFallListener (by rw [hlights.log]; rfl)

theorem freeFallListener_iff {now : Nat} {leds : Leds} {events : List (Nat × Event)}
    {final : State} (hrun : run step (start now leds) events = some final) :
    final.service.freeFallListener = true ↔
      lastMove final.world.log = some .popupMotor := by
  have hstart : Protected (start now leds) := .of_lowered rfl (Option.some_ne_none _).symm
  exact run_invariant step Protected (fun _ _ _ hs _ hstep => hs.after_step hstep) hstart
    (along_true step (start now leds) events) hrun

theorem freeFallListener_openedOnce :
    ∃ final, run step (start 0 .dark) openedOnce = some final ∧
      (final.service.freeFallListener = true ↔
        lastMove final.world.log = some .popupMotor) := by
  obtain ⟨final, hrun⟩ : ∃ final, run step (start 0 .dark) openedOnce = some final :=
    Option.isSome_iff_exists.mp (by decide +kernel)
  exact ⟨final, hrun, freeFallListener_iff hrun⟩

end Raphael.PopupCamera
