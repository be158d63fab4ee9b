import Raphael.Cooldown
import Raphael.PopupCamera.Step.Theorems
import Raphael.Trace

namespace Raphael.PopupCamera

open State Trace

def Task.isBusyReset : Task → Bool
  | .resetMotorBusy => true
  | _ => false

def busyResets (service : PopupCameraService) : List Nat :=
  (service.mHandler.select Task.isBusyReset).map Delayed.due

-- The times of the motor commands that updateMotor has issued, from the latest.
def moveTimes (log : List Command) : List Nat :=
  (log.filter fun command => command.issuer = .updateMotor).map Command.time

-- The runnable of a request finds mMotorBusy clear.
def findsMotorFree (s : State) : Nat × Event → Bool
  | (time, .dispatch _) =>
      match s.service.mHandler.pop time with
      | some (.motorRequest _ _, _) => !s.service.mMotorBusy
      | _ => true
  | _ => true

abbrev BusyCooldown (s : State) : Prop :=
  Cooldown MOTOR_BUSY_TIME s.world.now (fun _ : Unit => s.service.mMotorBusy)
    (fun _ => busyResets s.service) (moveTimes s.world.log)

-- As long as the process lives, every command is behind us or covered by the
-- one busy reset to come. An exception leaves the flag and the log as they are.
structure BusyWindow (s : State) : Prop where
  spaced : (moveTimes s.world.log).Pairwise fun later earlier =>
    earlier + MOTOR_BUSY_TIME ≤ later
  busy : ∀ time ∈ moveTimes s.world.log, s.world.now < time + MOTOR_BUSY_TIME →
    s.service.mMotorBusy = true
  alive : s.world.ended = false → BusyCooldown s

theorem BusyWindow.of_cooldown {s : State} (h : BusyCooldown s) : BusyWindow s where
  spaced := h.spaced
  busy _ hm hlt := by
    obtain ⟨_, hbusy⟩ := h.raised hm hlt
    exact hbusy
  alive _ := h

theorem Keeps.busyResets {before after : PopupCameraService} (h : Keeps before after) :
    busyResets after = busyResets before := by
  rw [PopupCamera.busyResets, h.select fun task htask => ?_, PopupCamera.busyResets]
  cases task with
  | resetMotorBusy => rfl
  | _ => cases htask

-- Nothing that the cooldown is about has changed, apart from the time.
theorem BusyCooldown.keep {s after : State} (h : BusyCooldown s)
    (hbusy : after.service.mMotorBusy = s.service.mMotorBusy)
    (hresets : busyResets after.service = busyResets s.service)
    (hlog : moveTimes after.world.log = moveTimes s.world.log)
    (hnow : s.world.now ≤ after.world.now) : BusyCooldown after := by
  rw [BusyCooldown, hbusy, hresets, hlog]
  exact h.tick hnow

theorem findsMotorFree_pop {s : State} {time request : Nat} (replies : Replies)
    {cameraState : CameraState} {rest : DelayQueue Task}
    (h : findsMotorFree s (time, .dispatch replies) = true)
    (hpop : s.service.mHandler.pop time = some (.motorRequest request cameraState, rest)) :
    s.service.mMotorBusy = false := by
  simpa only [findsMotorFree, hpop, Bool.not_eq_true'] using h

section Request

variable {s : State} {request : Nat} {cameraState : CameraState} {rest : DelayQueue Task}
  (h : BusyCooldown s) (hfree : s.service.mMotorBusy = false)
  (hpop : s.service.mHandler.pop s.now = some (.motorRequest request cameraState, rest))
include h hfree hpop

-- No reset is pending when a request runs, so its own reset is the only one.
theorem no_busyReset : rest.select Task.isBusyReset = [] := by
  have hnone := h.releases_eq_nil (i := ()) hfree
  rw [DelayQueue.select_pop_of_other hpop rfl]
  exact List.map_eq_nil_iff.mp hnone

theorem busyResets_post {queue : DelayQueue Task}
    (hqueue : queue.select Task.isBusyReset = rest.select Task.isBusyReset) (due : Nat) :
    ((queue.post due .resetMotorBusy).select Task.isBusyReset).map Delayed.due = [due] := by
  rw [DelayQueue.select_post rfl, hqueue, no_busyReset h hfree hpop]
  rfl

theorem BusyCooldown.remoteException :
    BusyCooldown (((s.setHandler rest).startRequest request).postDelayed .resetMotorBusy
      MOTOR_BUSY_TIME) :=
  h.raise (i := ()) (fun j hj => absurd (Subsingleton.elim j ()) hj) hfree rfl
    ⟨_, busyResets_post h hfree hpop rfl _⟩

theorem BusyCooldown.moved {replies : Replies} {lit : State}
    (hlit : ((s.setHandler rest).startRequest request).lightUp replies
      (cameraState = .opened) = .ok lit) :
    BusyCooldown (lit.issueMove replies cameraState) := by
  have hlights := lightUp_lightsOnly hlit
  have hnow : lit.world.now = s.world.now := hlights.now
  have hlog : lit.world.log = s.world.log := hlights.log
  have hresets := hlights.select Task.isBusyReset rfl
  have hposted := busyResets_post h hfree hpop hresets (lit.now + MOTOR_BUSY_TIME)
  rw [← issueMove_handler lit replies cameraState] at hposted
  rw [BusyCooldown, issueMove_world]
  have hmarked : moveTimes (⟨lit.now, if cameraState = .opened then .popupMotor else .takebackMotor,
      .updateMotor, replies.commandSucceeds⟩ :: lit.world.log) =
      s.world.now :: moveTimes s.world.log := by
    rw [← hlog, ← hnow]
    rfl
  rw [hmarked]
  rw [State.now, hnow] at hposted
  dsimp only
  rw [hnow]
  exact h.mark (i := ()) (fun j hj => absurd (Subsingleton.elim j ()) hj) (fun _ => hfree)
    ((issueMove_motorBusy lit replies cameraState).trans hlights.motorBusy) hposted

theorem BusyCooldown.idle (status : Int) :
    BusyCooldown (((s.setHandler rest).startRequest request).endIdle status) := by
  have hkeeps := endIdle_keeps ((s.setHandler rest).startRequest request) status
  refine h.keep (hkeeps.motorBusy.trans hfree.symm) (hkeeps.busyResets.trans ?_) ?_ ?_
  · exact congrArg (List.map Delayed.due) (DelayQueue.select_pop_of_other hpop rfl)
  · rw [endIdle_world]
    rfl
  · rw [endIdle_world]
    exact Nat.le_refl _

end Request

theorem BusyCooldown.calibrate {s : State} {service : PopupCameraService} {succeeds : Bool}
    (h : BusyCooldown s)
    (hservice : Keeps { s.service with mMotor := service.mMotor } service) :
    BusyCooldown (State.calibrate succeeds ⟨service, s.world⟩) := by
  have hpost : busyResets (State.calibrate succeeds ⟨service, s.world⟩).service =
      busyResets service :=
    congrArg (List.map Delayed.due) (DelayQueue.select_post_of_other rfl)
  exact h.keep hservice.motorBusy (hpost.trans hservice.busyResets) rfl (Nat.le_refl _)

-- What one step preserves, as long as requests find the motor free.
theorem BusyWindow.after_step {s after : State} {event : Nat × Event} (h : BusyWindow s)
    (hguard : findsMotorFree s event = true) (hstep : step s event = some after) :
    BusyWindow after := by
  obtain ⟨time, event⟩ := event
  obtain ⟨hended, htime, heffect⟩ := step_effect hstep
  have hcooldown : BusyCooldown (s.atTime time) := (h.alive hended).keep rfl rfl rfl htime
  cases heffect with
  | keeps hservice hworld =>
      exact .of_cooldown (hcooldown.keep hservice.motorBusy hservice.busyResets (by rw [hworld])
        (Nat.le_of_eq (congrArg World.now hworld.symm)))
  | ends hends =>
      refine ⟨?_, ?_, ?_⟩
      · rw [hends.log]
        exact h.spaced
      · intro mark hm hlt
        rw [hends.log] at hm
        rw [hends.now] at hlt
        exact hends.motorBusy (h.busy mark hm (Nat.lt_of_le_of_lt htime hlt))
      · intro halive
        rw [hends.ended] at halive
        cases halive
  | create hservice hlog hnow _ =>
      refine .of_cooldown (hcooldown.keep hservice.motorBusy hservice.busyResets ?_ hnow)
      obtain hlog | ⟨succeeded, hlog⟩ := hlog
      · rw [hlog]
      · rw [hlog]
        rfl
  | freeFall succeeds =>
      refine .of_cooldown ?_
      cases succeeds with
      | true => exact hcooldown.keep rfl rfl rfl (Nat.le_refl _)
      | false => exact hcooldown.keep rfl rfl rfl (Nat.le_refl _)
  | calibrate succeeds _ hservice _ => exact .of_cooldown (hcooldown.calibrate hservice)
  | @remoteException replies request cameraState rest hpop _ =>
      have hfree := findsMotorFree_pop replies hguard hpop
      exact .of_cooldown (hcooldown.remoteException hfree hpop)
  | @moved replies request cameraState rest status lit hpop _ _ hlit =>
      have hfree := findsMotorFree_pop replies hguard hpop
      exact .of_cooldown (hcooldown.moved hfree hpop hlit)
  | @idle replies request cameraState rest status hpop _ _ =>
      have hfree := findsMotorFree_pop replies hguard hpop
      exact .of_cooldown (hcooldown.idle hfree hpop status)
  | @resetMotorBusy replies rest hpop =>
      obtain ⟨due, hdue, hselect⟩ := DelayQueue.select_pop Task.isBusyReset hpop rfl
      refine .of_cooldown (hcooldown.release (i := ())
        (fun j hj => absurd (Subsingleton.elim j ()) hj) ?_ hdue rfl)
      exact congrArg (List.map Delayed.due) hselect
  | resetMotorCalibrating hpop =>
      refine .of_cooldown (hcooldown.keep rfl ?_ rfl (Nat.le_refl _))
      exact congrArg (List.map Delayed.due) (DelayQueue.select_pop_of_other hpop rfl)
  | restoreLed hpop hrestore =>
      have hlights := restoreLed_lightsOnly hrestore
      refine .of_cooldown (hcooldown.keep hlights.motorBusy ?_ (congrArg moveTimes hlights.log)
        (Nat.le_of_eq hlights.now.symm))
      exact congrArg (List.map Delayed.due)
        ((hlights.select _ rfl).trans (DelayQueue.select_pop_of_other hpop rfl))

def start (now : Nat) (leds : Leds) : State := ⟨{}, ⟨now, leds, [], false⟩⟩

theorem start_busyWindow (now : Nat) (leds : Leds) : BusyWindow (start now leds) :=
  .of_cooldown (Cooldown.start fun _ => rfl)

-- Motor commands keep their distance, and the flag covers each of them, in
-- every run in which requests find the motor free when they run.
theorem motorBusy_window {now : Nat} {leds : Leds} {events : List (Nat × Event)} {final : State}
    (hfree : Along step (fun s event => findsMotorFree s event = true) (start now leds) events)
    (hrun : run step (start now leds) events = some final) :
    ((moveTimes final.world.log).Pairwise fun later earlier => earlier + 1200 ≤ later) ∧
      ∀ time ∈ moveTimes final.world.log, final.world.now < time + 1200 →
        final.service.mMotorBusy = true := by
  have hwindow : BusyWindow final :=
    run_invariant _ BusyWindow (fun _ _ _ hs hguard hstep => hs.after_step hguard hstep)
      (start_busyWindow now leds) hfree hrun
  exact ⟨hwindow.spaced, hwindow.busy⟩

-- A front camera that is opened once, from the creation of the service on.
def openedOnce : List (Nat × Event) :=
  [(0, .onCreate { status := some MOTOR_STATUS_TAKEBACK_OK }), (1000, .onCameraOpened "1"),
    (1100, .dispatch {}), (1100, .dispatch { status := some MOTOR_STATUS_TAKEBACK_OK })]

-- The camera is closed again as soon as the motor is free.
def raisedAndLowered : List (Nat × Event) :=
  openedOnce ++
    [(2100, .onCameraClosed "1"), (2200, .dispatch {}), (2300, .dispatch {}), (2300, .dispatch {}),
      (2300, .dispatch { status := some MOTOR_STATUS_POPUP_OK })]

theorem motorBusy_window_raisedAndLowered :
    ∃ final, run step (start 0 .dark) raisedAndLowered = some final ∧
      moveTimes final.world.log = [2300, 1100] ∧
      ((moveTimes final.world.log).Pairwise fun later earlier => earlier + 1200 ≤ later) ∧
      ∀ time ∈ moveTimes final.world.log, final.world.now < time + 1200 →
        final.service.mMotorBusy = true := by
  have hfree : Along step (fun s event => findsMotorFree s event = true) (start 0 .dark)
      raisedAndLowered :=
    along_of_check step _ findsMotorFree (fun _ _ h => h) (by decide +kernel)
  have htimes : (run step (start 0 .dark) raisedAndLowered).map (fun s => moveTimes s.world.log) =
      some [2300, 1100] := by decide +kernel
  obtain ⟨final, hrun, hfinal⟩ := Option.map_eq_some_iff.mp htimes
  exact ⟨final, hrun, hfinal, motorBusy_window hfree hrun⟩

-- Two presses before the first of their requests runs: both runnables see a
-- raised camera, and two commands go out within a millisecond.
def pressedTwice : List (Nat × Event) :=
  openedOnce ++
    [(2300, .dispatch {}), (2500, .dispatch {}),
      (5000, .onNotify MOTOR_STATUS_PRESSED), (5000, .onNotifyContinue),
      (5000, .onNotify MOTOR_STATUS_PRESSED), (5000, .onNotifyContinue),
      (5000, .dispatch { status := some MOTOR_STATUS_POPUP_OK }),
      (5001, .dispatch { status := some MOTOR_STATUS_POPUP_OK })]

theorem motorBusy_window_pressedTwice :
    ¬∀ final, run step (start 0 .dark) pressedTwice = some final →
      (moveTimes final.world.log).Pairwise fun later earlier => earlier + 1200 ≤ later := by
  intro h
  have htimes : (run step (start 0 .dark) pressedTwice).map (fun s => moveTimes s.world.log) =
      some [5001, 5000, 1100] := by decide +kernel
  obtain ⟨final, hrun, hfinal⟩ := Option.map_eq_some_iff.mp htimes
  have hspaced := h final hrun
  rw [hfinal] at hspaced
  exact absurd hspaced (by decide)

end Raphael.PopupCamera
