import Raphael.Cooldown
import Raphael.PopupCamera.Process
import Raphael.PopupCamera.Step.Theorems
import Raphael.Trace

namespace Raphael.PopupCamera

open State Trace

variable {ι : Type*}

def Task.isCalibrationReset : Task → Bool
  | .resetMotorCalibrating => true
  | _ => false

def calibrationResets (service : PopupCameraService) : List Nat :=
  (service.mHandler.select Task.isCalibrationReset).map Delayed.due

def Command.isCalibration (command : Command) : Bool :=
  command.call = .calibration ∧ command.succeeded

-- The times of the successful calibrations, from the latest.
def calibrationTimes (log : List Command) : List Nat :=
  (log.filter Command.isCalibration).map Command.time

-- No motor command of updateMotor falls into the window of a calibration.
def KeepsClear (log : List Command) : Prop :=
  log.Pairwise fun later earlier => later.issuer = .updateMotor →
    earlier.isCalibration = true → earlier.time + CALIBRATION_TIME ≤ later.time

def Process.NoneCalibrating (p : Process ι) : Prop :=
  ∀ object, (p.objects object).mMotorCalibrating = false

-- The event gets as far as a calibration, or as a motor command of updateMotor.
def Process.drivesMotor (p : Process ι) : ι × Nat × Event → Bool
  | (object, _, .errorDialogCalibrate _ _) | (object, _, .settingsCalibrate _ _) =>
      !(p.objects object).mMotorCalibrating
  | (object, time, .dispatch replies) =>
      match (p.objects object).mHandler.pop time, replies.status with
      | some (.motorRequest _ cameraState, _), some status => moves cameraState status
      | _, _ => false
  | _ => false

-- It does so while no object of the process is calibrating.
def Exclusive (p : Process ι) (event : ι × Nat × Event) : Prop :=
  p.drivesMotor event = true → p.NoneCalibrating

abbrev CalibrationCooldown (objects : ι → PopupCameraService) (world : World) : Prop :=
  Cooldown CALIBRATION_TIME world.now (fun object => (objects object).mMotorCalibrating)
    (fun object => calibrationResets (objects object)) (calibrationTimes world.log)

structure CalibrationWindow (p : Process ι) : Prop where
  spaced : (calibrationTimes p.world.log).Pairwise fun later earlier =>
    earlier + CALIBRATION_TIME ≤ later
  clear : KeepsClear p.world.log
  alive : p.world.ended = false → CalibrationCooldown p.objects p.world

theorem Keeps.calibrationResets {before after : PopupCameraService} (h : Keeps before after) :
    calibrationResets after = calibrationResets before := by
  rw [PopupCamera.calibrationResets, h.select fun task htask => ?_, PopupCamera.calibrationResets]
  cases task with
  | resetMotorCalibrating => rfl
  | _ => cases htask

theorem Exclusive.calibrate {p : Process ι} {object : ι} {time : Nat} {event : Event}
    (h : Exclusive p (object, time, event)) (hevent : event.requestsCalibration = true)
    (hidle : (p.objects object).mMotorCalibrating = false) : p.NoneCalibrating := by
  refine h ?_
  cases event with
  | errorDialogCalibrate =>
      rw [Process.drivesMotor, hidle]
      rfl
  | settingsCalibrate =>
      rw [Process.drivesMotor, hidle]
      rfl
  | _ => cases hevent

theorem Exclusive.move {p : Process ι} {object : ι} {time request : Nat} {replies : Replies}
    {cameraState : CameraState} {rest : DelayQueue Task} {status : Int}
    (h : Exclusive p (object, time, .dispatch replies))
    (hpop : (p.objects object).mHandler.pop time = some (.motorRequest request cameraState, rest))
    (hstatus : replies.status = some status) (hmoves : moves cameraState status = true) :
    p.NoneCalibrating := by
  refine h ?_
  simpa only [Process.drivesMotor, hpop, hstatus] using hmoves

theorem CalibrationWindow.of_cooldown {p : Process ι} (hclear : KeepsClear p.world.log)
    (h : CalibrationCooldown p.objects p.world) : CalibrationWindow p :=
  ⟨h.spaced, hclear, fun _ => h⟩

theorem KeepsClear.cons {log : List Command} {command : Command} (h : KeepsClear log)
    (hissuer : command.issuer ≠ .updateMotor) : KeepsClear (command :: log) :=
  List.pairwise_cons.mpr ⟨fun _ _ hupdate => absurd hupdate hissuer, h⟩

-- With every calibration over, a motor command is clear of them.
theorem KeepsClear.move {log : List Command} {command : Command} (h : KeepsClear log)
    (hover : ∀ time ∈ calibrationTimes log, time + CALIBRATION_TIME ≤ command.time) :
    KeepsClear (command :: log) := by
  refine List.pairwise_cons.mpr ⟨fun earlier hm _ hcalibration => hover earlier.time ?_, h⟩
  exact List.mem_map.mpr ⟨earlier, List.mem_filter.mpr ⟨hm, hcalibration⟩, rfl⟩

variable [DecidableEq ι]

-- One object changes, and nothing that the cooldown is about changes with it.
theorem CalibrationCooldown.keep {objects : ι → PopupCameraService} {world world' : World}
    {object : ι} {service : PopupCameraService} (h : CalibrationCooldown objects world)
    (hcalibrating : service.mMotorCalibrating = (objects object).mMotorCalibrating)
    (hresets : calibrationResets service = calibrationResets (objects object))
    (hlog : calibrationTimes world'.log = calibrationTimes world.log)
    (hnow : world.now ≤ world'.now) :
    CalibrationCooldown (Function.update objects object service) world' := by
  have hflags : (fun other => (Function.update objects object service other).mMotorCalibrating) =
      fun other => (objects other).mMotorCalibrating := by
    funext other
    by_cases hother : other = object
    · rw [hother, Function.update_self, hcalibrating]
    · rw [Function.update_of_ne hother]
  have hpending : (fun other => calibrationResets (Function.update objects object service other)) =
      fun other => calibrationResets (objects other) := by
    funext other
    by_cases hother : other = object
    · rw [hother, Function.update_self, hresets]
    · rw [Function.update_of_ne hother]
  rw [CalibrationCooldown, hflags, hpending, hlog]
  exact h.tick hnow

theorem update_others (objects : ι → PopupCameraService) (object : ι)
    (service : PopupCameraService) (other : ι) (hother : other ≠ object) :
    (Function.update objects object service other).mMotorCalibrating =
        (objects other).mMotorCalibrating ∧
      calibrationResets (Function.update objects object service other) =
        calibrationResets (objects other) := by
  rw [Function.update_of_ne hother]
  exact ⟨rfl, rfl⟩

-- A calibration starts with no reset pending, so its own reset is the only one.
theorem CalibrationCooldown.calibrate {objects : ι → PopupCameraService} {world : World}
    {object : ι} {service : PopupCameraService} (h : CalibrationCooldown objects world)
    (hservice : Keeps { objects object with mMotor := service.mMotor } service)
    (hnone : ∀ other, (objects other).mMotorCalibrating = false) (succeeds : Bool) :
    CalibrationCooldown
      (Function.update objects object (State.calibrate succeeds ⟨service, world⟩).service)
      (State.calibrate succeeds ⟨service, world⟩).world := by
  have hempty : service.mHandler.select Task.isCalibrationReset = [] := by
    have hnil := h.releases_eq_nil (hnone object)
    rw [← List.map_eq_nil_iff (f := Delayed.due)]
    exact hservice.calibrationResets.trans hnil
  have hresets : calibrationResets (Function.update objects object
      (State.calibrate succeeds ⟨service, world⟩).service object) =
      [world.now + CALIBRATION_TIME] := by
    rw [Function.update_self]
    have hpost : (State.calibrate succeeds ⟨service, world⟩).service.mHandler =
        service.mHandler.post (world.now + CALIBRATION_TIME) .resetMotorCalibrating := rfl
    rw [PopupCamera.calibrationResets, hpost, DelayQueue.select_post rfl, hempty]
    rfl
  have hflag : (Function.update objects object
      (State.calibrate succeeds ⟨service, world⟩).service object).mMotorCalibrating = true := by
    rw [Function.update_self]
    rfl
  cases succeeds with
  | true => exact h.mark (update_others objects object _) hnone hflag hresets
  | false => exact h.raise (update_others objects object _) (hnone object) hflag ⟨_, hresets⟩

theorem CalibrationCooldown.release {objects : ι → PopupCameraService} {world : World}
    {object : ι} {rest : DelayQueue Task} (h : CalibrationCooldown objects world)
    (hpop : (objects object).mHandler.pop world.now = some (.resetMotorCalibrating, rest)) :
    CalibrationCooldown (Function.update objects object
      { objects object with mHandler := rest, mMotorCalibrating := false }) world := by
  obtain ⟨due, hdue, hselect⟩ := DelayQueue.select_pop Task.isCalibrationReset hpop rfl
  refine Cooldown.release (update_others objects object _) h ?_ hdue ?_
  · rw [Function.update_self]
    exact congrArg (List.map Delayed.due) hselect
  · rw [Function.update_self]

section Effects

variable {p : Process ι} {object : ι} {time : Nat} (hclear : KeepsClear p.world.log)
  (hcooldown : CalibrationCooldown p.objects ((p.state object).atTime time).world)
include hclear hcooldown

-- The takeback of onCreate is not a command of updateMotor.
theorem CalibrationWindow.create {after : State}
    (hservice : Keeps { p.objects object with mMotor := after.service.mMotor } after.service)
    (hlog : after.world.log = p.world.log ∨ ∃ succeeded,
      after.world.log = ⟨time, .takebackMotor, .onCreate, succeeded⟩ :: p.world.log)
    (hnow : time ≤ after.world.now) :
    CalibrationWindow ⟨Function.update p.objects object after.service, after.world⟩ := by
  have hkeep := fun htimes => hcooldown.keep hservice.motorCalibrating
    hservice.calibrationResets htimes hnow
  obtain hlog | ⟨succeeded, hlog⟩ := hlog
  · refine .of_cooldown ?_ (hkeep (congrArg calibrationTimes hlog))
    rw [hlog]
    exact hclear
  · refine .of_cooldown ?_ (hkeep ((congrArg calibrationTimes hlog).trans rfl))
    rw [hlog]
    exact hclear.cons fun hissuer => nomatch hissuer

variable {request : Nat} {rest : DelayQueue Task}
  (hrest : rest.select Task.isCalibrationReset =
    (p.objects object).mHandler.select Task.isCalibrationReset)
include hrest

theorem CalibrationWindow.moved {replies : Replies} {cameraState : CameraState} {lit : State}
    (hlights : LightsOnly ((((p.state object).atTime time).setHandler rest).startRequest request)
      lit)
    (hnone : p.NoneCalibrating) :
    CalibrationWindow ⟨Function.update p.objects object (lit.issueMove replies cameraState).service,
      (lit.issueMove replies cameraState).world⟩ := by
  have hnow : lit.world.now = time := hlights.now
  have hlog : lit.world.log = p.world.log := hlights.log
  have hover := hcooldown.marks_over hnone
  refine .of_cooldown ?_ (hcooldown.keep
    ((issueMove_motorCalibrating lit replies cameraState).trans hlights.motorCalibrating) ?_ ?_ ?_)
  · rw [issueMove_world, hlog]
    refine hclear.move ?_
    rw [State.now, hnow]
    exact hover
  · rw [calibrationResets, issueMove_handler, DelayQueue.select_post_of_other rfl,
      hlights.select _ rfl]
    exact congrArg (List.map Delayed.due) hrest
  · rw [issueMove_world, hlog]
    cases cameraState <;> rfl
  · rw [issueMove_world]
    exact Nat.le_of_eq hlights.now.symm

theorem CalibrationWindow.idle (status : Int) :
    CalibrationWindow
      ⟨Function.update p.objects object
        (((((p.state object).atTime time).setHandler rest).startRequest request).endIdle
          status).service,
        (((((p.state object).atTime time).setHandler rest).startRequest request).endIdle
          status).world⟩ := by
  have hkeeps := endIdle_keeps
    ((((p.state object).atTime time).setHandler rest).startRequest request) status
  have hworld := endIdle_world
    ((((p.state object).atTime time).setHandler rest).startRequest request) status
  refine .of_cooldown ?_ (hcooldown.keep hkeeps.motorCalibrating
    (hkeeps.calibrationResets.trans (congrArg (List.map Delayed.due) hrest)) ?_ ?_)
  · rw [hworld]
    exact hclear
  · rw [hworld]
    rfl
  · rw [hworld]
    exact Nat.le_refl _

end Effects

-- What one step of one object preserves, as long as calibrations exclude each
-- other and motor commands.
theorem CalibrationWindow.after_step {p after : Process ι} {event : ι × Nat × Event}
    (h : CalibrationWindow p) (hguard : Exclusive p event)
    (hstep : Process.step p event = some after) : CalibrationWindow after := by
  obtain ⟨object, time, event⟩ := event
  obtain ⟨s, hs, rfl⟩ := Option.map_eq_some_iff.mp hstep
  obtain ⟨hended, htime, heffect⟩ := step_effect hs
  have hcooldown : CalibrationCooldown p.objects ((p.state object).atTime time).world :=
    (h.alive hended).tick htime
  have hunreset : ∀ {task rest}, (p.objects object).mHandler.pop time = some (task, rest) →
      task.isCalibrationReset = false →
      rest.select Task.isCalibrationReset =
        (p.objects object).mHandler.select Task.isCalibrationReset :=
    fun hpop htask => DelayQueue.select_pop_of_other hpop htask
  cases heffect with
  | keeps hservice hworld =>
      refine .of_cooldown ?_ ?_
      · rw [hworld]
        exact h.clear
      · exact hcooldown.keep hservice.motorCalibrating hservice.calibrationResets (by rw [hworld])
          (Nat.le_of_eq (congrArg World.now hworld.symm))
  | ends hends =>
      refine ⟨?_, ?_, fun halive => ?_⟩
      · rw [hends.log]
        exact h.spaced
      · rw [hends.log]
        exact h.clear
      · rw [hends.ended] at halive
        cases halive
  | create hservice hlog hnow _ => exact .create h.clear hcooldown hservice hlog hnow
  | freeFall succeeds =>
      cases succeeds with
      | true =>
          refine .of_cooldown (h.clear.cons fun hissuer => nomatch hissuer) ?_
          exact hcooldown.keep rfl rfl rfl (Nat.le_refl _)
      | false =>
          refine .of_cooldown (h.clear.cons fun hissuer => nomatch hissuer) ?_
          exact hcooldown.keep rfl rfl rfl (Nat.le_refl _)
  | calibrate succeeds hevent hservice hidle =>
      refine .of_cooldown (h.clear.cons fun hissuer => nomatch hissuer) ?_
      exact hcooldown.calibrate hservice (hguard.calibrate hevent hidle) succeeds
  | remoteException hpop _ =>
      refine .of_cooldown h.clear (hcooldown.keep rfl ?_ rfl (Nat.le_refl _))
      exact congrArg (List.map Delayed.due)
        ((DelayQueue.select_post_of_other rfl).trans (hunreset hpop rfl))
  | moved hpop hstatus hmoves hlit =>
      exact .moved h.clear hcooldown (hunreset hpop rfl) (lightUp_lightsOnly hlit)
        (hguard.move hpop hstatus hmoves)
  | idle hpop _ _ => exact .idle h.clear hcooldown (hunreset hpop rfl) _
  | resetMotorBusy hpop =>
      refine .of_cooldown h.clear (hcooldown.keep rfl ?_ rfl (Nat.le_refl _))
      exact congrArg (List.map Delayed.due) (hunreset hpop rfl)
  | resetMotorCalibrating hpop => exact .of_cooldown h.clear (hcooldown.release hpop)
  | restoreLed hpop hrestore =>
      have hlights := restoreLed_lightsOnly hrestore
      refine .of_cooldown ?_ (hcooldown.keep hlights.motorCalibrating ?_
        (congrArg calibrationTimes hlights.log) (Nat.le_of_eq hlights.now.symm))
      · rw [hlights.log]
        exact h.clear
      · exact congrArg (List.map Delayed.due)
          ((hlights.select _ rfl).trans (hunreset hpop rfl))

omit [DecidableEq ι] in
theorem start_calibrationWindow (owner : ι → Owner) (now : Nat) (leds : Leds) :
    CalibrationWindow (Process.start owner now leds) :=
  .of_cooldown List.Pairwise.nil (Cooldown.start fun _ => rfl)

-- Calibrations keep their distance, and motor commands keep out of their
-- windows, in every run of the process in which both exclude each other.
theorem calibration_exclusive {owner : ι → Owner} {now : Nat} {leds : Leds}
    {events : List (ι × Nat × Event)} {final : Process ι}
    (hexclusive : Along Process.step Exclusive (Process.start owner now leds) events)
    (hrun : run Process.step (Process.start owner now leds) events = some final) :
    ((calibrationTimes final.world.log).Pairwise fun later earlier => earlier + 7000 ≤ later) ∧
      final.world.log.Pairwise fun later earlier => later.issuer = .updateMotor →
        earlier.isCalibration = true → earlier.time + 7000 ≤ later.time := by
  have hwindow : CalibrationWindow final :=
    run_invariant _ CalibrationWindow (fun _ _ _ hs hguard hstep => hs.after_step hguard hstep)
      (start_calibrationWindow owner now leds) hexclusive hrun
  exact ⟨hwindow.spaced, hwindow.clear⟩

instance (p : Process (Fin 2)) (event : Fin 2 × Nat × Event) : Decidable (Exclusive p event) :=
  inferInstanceAs (Decidable (p.drivesMotor event = true →
    ∀ object, (p.objects object).mMotorCalibrating = false))

-- A running service and the object of a settings fragment.
def serviceAndFragment (object : Fin 2) : Owner := if object = 0 then .system else .fragment

def calibrateThenOpen : List (Fin 2 × Nat × Event) :=
  [(0, 0, .onCreate { status := some MOTOR_STATUS_TAKEBACK_OK }),
    (1, 1000, .settingsCalibrate .found true), (1, 8000, .dispatch {}),
    (0, 9000, .onCameraOpened "1"), (0, 9100, .dispatch {}),
    (0, 9100, .dispatch { status := some MOTOR_STATUS_CALIB_OK })]

theorem calibration_exclusive_calibrateThenOpen :
    ∃ final, run Process.step (Process.start serviceAndFragment 0 .dark) calibrateThenOpen =
        some final ∧
      ((calibrationTimes final.world.log).Pairwise fun later earlier =>
        earlier + 7000 ≤ later) ∧
      final.world.log.Pairwise fun later earlier => later.issuer = .updateMotor →
        earlier.isCalibration = true → earlier.time + 7000 ≤ later.time := by
  have hexclusive : Along Process.step Exclusive (Process.start serviceAndFragment 0 .dark)
      calibrateThenOpen :=
    along_of_check Process.step Exclusive (fun p event => decide (Exclusive p event))
      (fun _ _ h => of_decide_eq_true h) (by decide +kernel)
  obtain ⟨final, hrun⟩ : ∃ final, run Process.step (Process.start serviceAndFragment 0 .dark)
      calibrateThenOpen = some final :=
    Option.isSome_iff_exists.mp (by decide +kernel)
  exact ⟨final, hrun, calibration_exclusive hexclusive hrun⟩

-- The service calibrates from its error dialog, and a second later the
-- fragment's object, with a flag of its own, calibrates again.
def calibrateTwice : List (Fin 2 × Nat × Event) :=
  [(0, 0, .onCreate { status := some MOTOR_STATUS_TAKEBACK_OK }),
    (0, 1000, .onNotify MOTOR_STATUS_POPUP_JAMMED), (0, 1000, .onNotifyContinue),
    (0, 1000, .onNotifyContinue), (0, 1000, .dispatch {}),
    (0, 2000, .errorDialogCalibrate .found true), (1, 3000, .settingsCalibrate .found true)]

theorem calibration_exclusive_calibrateTwice :
    ¬∀ final, run Process.step (Process.start serviceAndFragment 0 .dark) calibrateTwice =
        some final →
      (calibrationTimes final.world.log).Pairwise fun later earlier => earlier + 7000 ≤ later := by
  intro h
  have htimes : (run Process.step (Process.start serviceAndFragment 0 .dark) calibrateTwice).map
      (fun p => calibrationTimes p.world.log) = some [3000, 2000] := by decide +kernel
  obtain ⟨final, hrun, hfinal⟩ := Option.map_eq_some_iff.mp htimes
  have hspaced := h final hrun
  rw [hfinal] at hspaced
  exact absurd hspaced (by decide)

end Raphael.PopupCamera
