import Raphael.PopupCamera.Calibration
import Raphael.PopupCamera.LedFailures
import Raphael.PopupCamera.Requests

namespace Raphael.PopupCamera

open State

-- A raised flag whose callback is pending, as long as the process lives.
def FlagPending (flag : PopupCameraService → Bool) (kind : Task → Bool) (s : State) : Prop :=
  s.world.ended = false → flag s.service = true → s.service.mHandler.select kind ≠ []

section FlagPending

variable {flag : PopupCameraService → Bool} {kind : Task → Bool} {before after : State}

theorem FlagPending.keep (h : FlagPending flag kind before) (halive : before.world.ended = false)
    (hflag : flag after.service = flag before.service)
    (hselect : after.service.mHandler.select kind = before.service.mHandler.select kind) :
    FlagPending flag kind after := by
  intro _ hraised
  rw [hselect]
  exact h halive (hflag ▸ hraised)

theorem FlagPending.of_clear (hflag : flag after.service = false) :
    FlagPending flag kind after := by
  intro _ hraised
  rw [hflag] at hraised
  cases hraised

theorem FlagPending.of_post {queue : DelayQueue Task} {due : Nat} {task : Task}
    (hposted : after.service.mHandler = queue.post due task) (hkind : kind task = true) :
    FlagPending flag kind after := by
  intro _ _
  rw [hposted]
  exact List.ne_nil_of_mem (DelayQueue.mem_select_post_self hkind)

theorem FlagPending.of_ended (hended : after.world.ended = true) : FlagPending flag kind after := by
  intro halive
  rw [hended] at halive
  cases halive

end FlagPending

def Task.isRestoreLed : Task → Bool
  | .restoreLed => true
  | _ => false

theorem isTimer_of_isCalibrationReset (task : Task) (h : task.isCalibrationReset = true) :
    task.isTimer = true := by
  cases task with
  | resetMotorCalibrating => rfl
  | _ => cases h

theorem isTimer_of_isRestoreLed (task : Task) (h : task.isRestoreLed = true) :
    task.isTimer = true := by
  cases task with
  | restoreLed => rfl
  | _ => cases h

-- What the flags and the pending callbacks of an object promise each other.
structure Awaited (s : State) : Prop where
  busy : ResetPending s
  calibrating : FlagPending (·.mMotorCalibrating) Task.isCalibrationReset s
  led : FlagPending (·.mLed.mLedBusy) Task.isRestoreLed s
  deadline : s.world.ended = false →
    ∀ entry ∈ s.service.mHandler.select Task.isBusyReset,
      entry.due ≤ s.world.now + MOTOR_BUSY_TIME

section Step

variable {s after : State} {time : Nat} {event : Event}
  (heffect : Effect (s.atTime time) event after) (halive : s.world.ended = false)
include heffect halive

theorem FlagPending.calibrating_after
    (h : FlagPending (·.mMotorCalibrating) Task.isCalibrationReset s) :
    FlagPending (·.mMotorCalibrating) Task.isCalibrationReset after := by
  cases heffect with
  | keeps hservice _ =>
      exact h.keep halive hservice.motorCalibrating (hservice.select isTimer_of_isCalibrationReset)
  | ends hends => exact .of_ended hends.ended
  | create hservice _ _ _ =>
      exact h.keep halive hservice.motorCalibrating (hservice.select isTimer_of_isCalibrationReset)
  | freeFall succeeds => cases succeeds <;> exact h.keep halive rfl rfl
  | calibrate succeeds _ _ _ => exact .of_post rfl rfl
  | remoteException hpop _ =>
      refine h.keep halive rfl ((DelayQueue.select_post_of_other rfl).trans ?_)
      exact DelayQueue.select_pop_of_other hpop rfl
  | @moved replies request cameraState rest status lit hpop _ _ hlit =>
      have hlights := lightUp_lightsOnly hlit
      refine h.keep halive ((issueMove_motorCalibrating _ _ _).trans hlights.motorCalibrating) ?_
      rw [issueMove_handler, DelayQueue.select_post_of_other rfl, hlights.select _ rfl]
      exact DelayQueue.select_pop_of_other hpop rfl
  | @idle replies request cameraState rest status hpop _ _ =>
      have hkeeps := endIdle_keeps (((s.atTime time).setHandler rest).startRequest request) status
      refine h.keep halive hkeeps.motorCalibrating ?_
      exact (hkeeps.select isTimer_of_isCalibrationReset).trans
        (DelayQueue.select_pop_of_other hpop rfl)
  | resetMotorBusy hpop => exact h.keep halive rfl (DelayQueue.select_pop_of_other hpop rfl)
  | resetMotorCalibrating _ => exact .of_clear rfl
  | restoreLed hpop hrestore =>
      have hlights := restoreLed_lightsOnly hrestore
      refine h.keep halive hlights.motorCalibrating ?_
      exact (hlights.select _ rfl).trans (DelayQueue.select_pop_of_other hpop rfl)

-- The flag of the lights is raised together with the post of its callback, and
-- only the callback clears it.
theorem FlagPending.led_after (h : FlagPending (·.mLed.mLedBusy) Task.isRestoreLed s) :
    FlagPending (·.mLed.mLedBusy) Task.isRestoreLed after := by
  cases heffect with
  | keeps hservice _ =>
      exact h.keep halive (congrArg (·.mLed.mLedBusy) hservice.drive)
        (hservice.select isTimer_of_isRestoreLed)
  | ends hends => exact .of_ended hends.ended
  | create hservice _ _ _ =>
      exact h.keep halive (congrArg (·.mLed.mLedBusy) hservice.drive)
        (hservice.select isTimer_of_isRestoreLed)
  | freeFall succeeds => cases succeeds <;> exact h.keep halive rfl rfl
  | calibrate succeeds _ hservice _ =>
      refine h.keep halive (congrArg (·.mLed.mLedBusy) hservice.drive) ?_
      exact (DelayQueue.select_post_of_other rfl).trans (hservice.select isTimer_of_isRestoreLed)
  | remoteException hpop _ =>
      refine h.keep halive rfl ((DelayQueue.select_post_of_other rfl).trans ?_)
      exact DelayQueue.select_pop_of_other hpop rfl
  | @moved replies request cameraState rest status lit hpop _ _ hlit =>
      have hmoved : (lit.issueMove replies cameraState).service.mLed = lit.service.mLed := by
        unfold issueMove
        cases replies.commandSucceeds <;> rfl
      have hselect : (lit.issueMove replies cameraState).service.mHandler.select
          Task.isRestoreLed = lit.service.mHandler.select Task.isRestoreLed := by
        rw [issueMove_handler]
        exact DelayQueue.select_post_of_other rfl
      obtain rfl | ⟨fx, leds, rfl⟩ := lightUp_ok hlit
      · refine h.keep halive (congrArg LedEffect.mLedBusy hmoved) (hselect.trans ?_)
        exact DelayQueue.select_pop_of_other hpop rfl
      · intro _ _
        rw [hselect]
        exact List.ne_nil_of_mem (DelayQueue.mem_select_post_self rfl)
  | @idle replies request cameraState rest status hpop _ _ =>
      have hkeeps := endIdle_keeps (((s.atTime time).setHandler rest).startRequest request) status
      refine h.keep halive (congrArg (·.mLed.mLedBusy) hkeeps.drive) ?_
      exact (hkeeps.select isTimer_of_isRestoreLed).trans (DelayQueue.select_pop_of_other hpop rfl)
  | resetMotorBusy hpop => exact h.keep halive rfl (DelayQueue.select_pop_of_other hpop rfl)
  | resetMotorCalibrating hpop => exact h.keep halive rfl (DelayQueue.select_pop_of_other hpop rfl)
  | @restoreLed replies rest after hpop hrestore =>
      refine .of_clear ?_
      unfold State.restoreLed at hrestore
      split at hrestore
      · rename_i fx leds hled
        cases hrestore
        exact congrArg LedEffect.mLedBusy (LedEffect.restoreLed_ok hled)
      · cases hrestore

omit halive in
-- A busy reset is posted for the end of the busy window that begins with it.
theorem busyReset_due_after (htime : s.world.now ≤ time)
    (h : ∀ entry ∈ s.service.mHandler.select Task.isBusyReset,
      entry.due ≤ s.world.now + MOTOR_BUSY_TIME) :
    after.world.ended = false → ∀ entry ∈ after.service.mHandler.select Task.isBusyReset,
      entry.due ≤ after.world.now + MOTOR_BUSY_TIME := by
  have hlater : ∀ {queue : DelayQueue Task},
      (∀ entry ∈ queue.select Task.isBusyReset,
        entry ∈ s.service.mHandler.select Task.isBusyReset) → ∀ now, time ≤ now →
      ∀ entry ∈ queue.select Task.isBusyReset, entry.due ≤ now + MOTOR_BUSY_TIME := by
    intro queue hsub now hnow entry he
    have hdue := h entry (hsub entry he)
    omega
  have hposted : ∀ {queue : DelayQueue Task},
      (∀ entry ∈ queue.select Task.isBusyReset,
        entry ∈ s.service.mHandler.select Task.isBusyReset) →
      ∀ entry ∈ (queue.post (time + MOTOR_BUSY_TIME) .resetMotorBusy).select Task.isBusyReset,
        entry.due ≤ time + MOTOR_BUSY_TIME := by
    intro queue hsub entry he
    obtain rfl | he := DelayQueue.mem_select_post he
    · exact Nat.le_refl _
    · exact hlater hsub time (Nat.le_refl _) entry he
  intro hlives
  have hnow := heffect.now_le
  cases heffect with
  | keeps hservice _ => exact hlater (fun _ he => hservice.isBusyReset ▸ he) _ hnow
  | ends hends =>
      rw [hends.ended] at hlives
      cases hlives
  | create hservice _ _ _ => exact hlater (fun _ he => hservice.isBusyReset ▸ he) _ hnow
  | freeFall succeeds => cases succeeds <;> exact hlater (fun _ he => he) _ hnow
  | @calibrate event service succeeds _ hservice _ =>
      have hselect : (State.calibrate succeeds
          ⟨service, (s.atTime time).world⟩).service.mHandler.select Task.isBusyReset =
            service.mHandler.select Task.isBusyReset :=
        DelayQueue.select_post_of_other rfl
      refine hlater (fun entry he => ?_) _ hnow
      rw [hselect, hservice.isBusyReset] at he
      exact he
  | remoteException hpop _ => exact hposted fun _ he => DelayQueue.mem_pop hpop he
  | @moved replies request cameraState rest status lit hpop _ _ hlit =>
      have hlights := lightUp_lightsOnly hlit
      have hlit : lit.now = time := hlights.now
      have hmoved : (lit.issueMove replies cameraState).world.now = time := by
        rw [issueMove_world]
        exact hlit
      rw [issueMove_handler, hmoved, hlit]
      refine hposted fun entry he => ?_
      rw [hlights.select _ rfl] at he
      exact DelayQueue.mem_pop hpop he
  | @idle replies request cameraState rest status hpop _ _ =>
      have hkeeps := endIdle_keeps (((s.atTime time).setHandler rest).startRequest request) status
      refine hlater (fun entry he => ?_) _ hnow
      rw [hkeeps.isBusyReset] at he
      exact DelayQueue.mem_pop hpop he
  | resetMotorBusy hpop => exact hlater (fun _ he => DelayQueue.mem_pop hpop he) _ hnow
  | resetMotorCalibrating hpop => exact hlater (fun _ he => DelayQueue.mem_pop hpop he) _ hnow
  | restoreLed hpop hrestore =>
      have hlights := restoreLed_lightsOnly hrestore
      refine hlater (fun entry he => ?_) _ hnow
      rw [hlights.select _ rfl] at he
      exact DelayQueue.mem_pop hpop he

end Step

theorem Awaited.after_step {s after : State} {event : Nat × Event} (h : Awaited s)
    (hstep : step s event = some after) : Awaited after := by
  obtain ⟨time, event⟩ := event
  obtain ⟨halive, htime, heffect⟩ := step_effect hstep
  exact ⟨h.busy.after_step hstep, h.calibrating.calibrating_after heffect halive,
    h.led.led_after heffect halive, busyReset_due_after heffect htime (h.deadline halive)⟩

-- An object of the system or of a settings fragment, as its constructor leaves it.
def constructed (owner : Owner) (now : Nat) (leds : Leds) : State :=
  ⟨{ owner }, ⟨now, leds, [], false⟩⟩

theorem constructed_awaited (owner : Owner) (now : Nat) (leds : Leds) :
    Awaited (constructed owner now leds) where
  busy := .of_clear rfl
  calibrating := .of_clear rfl
  led := .of_clear rfl
  deadline _ _ he := nomatch he

end Raphael.PopupCamera
