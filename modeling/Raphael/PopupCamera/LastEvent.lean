import Raphael.PopupCamera.BusyWindow
import Raphael.PopupCamera.Pipeline

namespace Raphael.PopupCamera

open State Trace

-- A service whose onCreate has found the motor retracted.
def ready (now : Nat) (leds : Leds) : State :=
  ⟨{ lifecycle := .created
     intentReceiver := true
     availabilityCallback := true
     mDialogThemeResID := .light
     mMotor := true
     motorStatusCallback := true }, ⟨now, leds, [], false⟩⟩

example : step (start 0 .dark) (5, .onCreate { status := some MOTOR_STATUS_TAKEBACK_OK }) =
    some (ready 5 .dark) := rfl

-- Where the motor commands so far lead.
def motorTarget : List Command → CameraState
  | [] => .closed
  | command :: _ => if command.call = .popupMotor then .opened else .closed

def okStatus : CameraState → Int
  | .opened => MOTOR_STATUS_POPUP_OK
  | .closed => MOTOR_STATUS_TAKEBACK_OK

def settled (log : List Command) (now : Nat) : Bool :=
  log.head?.all fun command => command.time + MOTOR_BUSY_TIME ≤ now

-- An ideal motor reports no error. A command takes at most 1200 ms, and from
-- then on the motor reports that it has succeeded.
def motorReports (log : List Command) (now : Nat) (status : Int) : Bool :=
  !isErrorStatus status && (!settled log now || status = okStatus (motorTarget log))

-- Events of the front camera and its users, with an ideal motor.
def idealEvent (s : State) : Nat × Event → Bool
  | (_, .onCameraClosed _) => true
  | (_, .onCameraOpened _) => true
  | (time, .dispatch replies) =>
      !replies.alwaysOnDialog && replies.commandSucceeds &&
        replies.status.any (motorReports s.world.log time)
  | _ => false

-- A request that stops to wait is the oldest of those that do.
def Task.isOldest (waiting : List (Nat × CameraState)) : Task → Bool
  | .pollMotorBusy request _ => waiting.all fun other => request ≤ other.1
  | .msgCameraClosed => waiting.isEmpty
  | .msgCameraOpen => waiting.isEmpty
  | _ => true

-- No request is posted as a runnable while an older one still polls.
def inTurn (s : State) : Nat × Event → Bool
  | (time, .dispatch _) =>
      s.service.mMotorBusy || (s.service.mHandler.pop time).all fun (task, rest) =>
        task.isOldest (rest.collect Task.polling?)
  | _ => true

def frontEvent : Event → Option CameraState
  | .onCameraClosed cameraId => if cameraId = FRONT_CAMERA_ID then some .closed else none
  | .onCameraOpened cameraId => if cameraId = FRONT_CAMERA_ID then some .opened else none
  | _ => none

def lastEvent (events : List (Nat × Event)) : Option CameraState :=
  (events.filterMap fun event => frontEvent event.2).getLast?

theorem lastEvent_concat (past : List (Nat × Event)) (event : Nat × Event) (start : CameraState) :
    (lastEvent (past ++ [event])).getD start =
      (frontEvent event.2).getD ((lastEvent past).getD start) := by
  rw [lastEvent, List.filterMap_append, List.filterMap_cons, List.filterMap_nil]
  cases frontEvent event.2 with
  | none =>
      dsimp only
      rw [List.append_nil]
      rfl
  | some cameraState =>
      dsimp only
      rw [List.getLast?_concat]
      rfl

-- The part of the invariant that the pipeline carries.
structure Ordered (target last : CameraState) (s : State) : Prop where
  motor : s.service.mMotor = true
  screenOn : s.service.mScreenOn = true
  moves : ∀ command ∈ s.world.log, command.issuer = .updateMotor
  pipeline : Pipeline s.now target last s.service.mHandler s.service.executed s.service.requests

namespace Ordered

variable {target last : CameraState} {s : State}

theorem atTime {time : Nat} (h : Ordered target last s) (hle : s.now ≤ time) :
    Ordered target last (s.atTime time) :=
  ⟨h.motor, h.screenOn, h.moves, h.pipeline.tick hle⟩

theorem cameraEvent {message opposite : Task} {cameraState other : CameraState}
    (hmessage : message.message? = some cameraState) (hopposite : opposite.message? = some other)
    (oppositeEvent : Nat) (h : Ordered target last s) :
    Ordered target cameraState (s.modify (·.cameraEvent s.now message opposite oppositeEvent)) := by
  unfold State.modify PopupCameraService.cameraEvent
  dsimp only
  split
  · obtain ⟨_, hremoved⟩ := h.pipeline.remove hopposite
    exact ⟨h.motor, h.screenOn, h.moves, hremoved.send hmessage⟩
  · exact ⟨h.motor, h.screenOn, h.moves, h.pipeline.send hmessage⟩

theorem onCameraClosed (cameraId : String) (h : Ordered target last s) :
    Ordered target ((frontEvent (.onCameraClosed cameraId)).getD last)
      (s.modify (·.onCameraClosed s.now cameraId)) := by
  rw [frontEvent, State.modify, PopupCameraService.onCameraClosed]
  split
  · have hevent : Ordered target last
        (s.modify fun service => { service with mClosedEvent := s.now }) :=
      ⟨h.motor, h.screenOn, h.moves, h.pipeline⟩
    exact hevent.cameraEvent rfl rfl s.service.mOpenEvent
  · exact h

theorem onCameraOpened (cameraId : String) (h : Ordered target last s) :
    Ordered target ((frontEvent (.onCameraOpened cameraId)).getD last)
      (s.modify (·.onCameraOpened s.now cameraId)) := by
  rw [frontEvent, State.modify, PopupCameraService.onCameraOpened]
  split
  · have hevent : Ordered target last
        (s.modify fun service => { service with mOpenEvent := s.now }) :=
      ⟨h.motor, h.screenOn, h.moves, h.pipeline⟩
    exact hevent.cameraEvent rfl rfl s.service.mClosedEvent
  · exact h

theorem postDelayed {task : Task} (htask : Pipeline.Outside task) (delay : Nat)
    (h : Ordered target last s) : Ordered target last (s.postDelayed task delay) :=
  ⟨h.motor, h.screenOn, h.moves, h.pipeline.post_outside htask _⟩

section Dispatch

variable {rest : DelayQueue Task} (h : Ordered target last s)
include h

theorem pop_outside {task : Task} (htask : Pipeline.Outside task)
    (hpop : s.service.mHandler.pop s.now = some (task, rest)) :
    Ordered target last (s.setHandler rest) :=
  ⟨h.motor, h.screenOn, h.moves, h.pipeline.pop_outside htask hpop⟩

theorem updateMotor {message : Task} {cameraState : CameraState}
    (hmessage : message.message? = some cameraState)
    (hpop : s.service.mHandler.pop s.now = some (message, rest))
    (hturn : s.service.mMotorBusy = false → rest.collect Task.polling? = []) :
    Ordered target last ((s.setHandler rest).modify (·.updateMotor s.now cameraState)) := by
  have hrequest : (s.setHandler rest).service.updateMotor s.now cameraState =
      (s.setHandler rest).service.postRequest s.now s.service.mMotorBusy cameraState :=
    if_neg (by simp [State.setHandler, State.modify, h.motor])
  rw [State.modify, hrequest]
  cases hbusy : s.service.mMotorBusy with
  | true => exact ⟨h.motor, h.screenOn, h.moves, h.pipeline.acceptPoll hmessage hpop⟩
  | false =>
      exact ⟨h.motor, h.screenOn, h.moves, h.pipeline.acceptPost hmessage hpop (hturn hbusy)⟩

theorem poll {request : Nat} {cameraState : CameraState}
    (hpop : s.service.mHandler.pop s.now = some (.pollMotorBusy request cameraState, rest))
    (hturn : s.service.mMotorBusy = false →
      ∀ other ∈ rest.collect Task.polling?, request ≤ other.1) :
    Ordered target last ((s.setHandler rest).modify (·.poll s.now request cameraState)) := by
  rw [State.modify, PopupCameraService.poll]
  split
  · exact ⟨h.motor, h.screenOn, h.moves, h.pipeline.pollAgain hpop⟩
  · rename_i hfree
    have hturn := hturn (Bool.eq_false_iff.mpr hfree)
    exact ⟨h.motor, h.screenOn, h.moves, h.pipeline.pollDone hpop hturn⟩

theorem startRequest {request : Nat} {cameraState : CameraState}
    (hpop : s.service.mHandler.pop s.now = some (.motorRequest request cameraState, rest)) :
    Ordered cameraState last ((s.setHandler rest).startRequest request) :=
  ⟨h.motor, h.screenOn, h.moves, h.pipeline.execute hpop⟩

theorem handleCameraClosed
    (hpop : s.service.mHandler.pop s.now = some (.msgCameraClosed, rest))
    (hturn : s.service.mMotorBusy = false → rest.collect Task.polling? = []) :
    Ordered target last ((s.setHandler rest).modify (·.handleCameraClosed s.now)) := by
  rw [State.modify, PopupCameraService.handleCameraClosed]
  split
  · rename_i dialog _
    have hdismissed : Ordered target last (s.modify (·.dismiss dialog)) :=
      ⟨h.motor, h.screenOn, h.moves, h.pipeline⟩
    exact hdismissed.updateMotor rfl hpop hturn
  · exact h.updateMotor rfl hpop hturn

theorem handleCameraOpen {replies : Replies} (hdialog : replies.alwaysOnDialog = false)
    (hpop : s.service.mHandler.pop s.now = some (.msgCameraOpen, rest))
    (hturn : s.service.mMotorBusy = false → rest.collect Task.polling? = []) :
    Ordered target last ((s.setHandler rest).modify
      (·.handleCameraOpen s.now replies.alwaysOnDialog replies.nightMode)) := by
  have hshown : ¬(replies.alwaysOnDialog = true ∨ s.service.mScreenOn = false) := by
    simp [hdialog, h.screenOn]
  have hopen : (s.setHandler rest).service.handleCameraOpen s.now replies.alwaysOnDialog
      replies.nightMode = (s.setHandler rest).service.updateMotor s.now .opened := if_neg hshown
  rw [State.modify, hopen]
  exact h.updateMotor rfl hpop hturn

end Dispatch

-- The restore callback of the lights is outside the pipeline.
theorem lightUp {replies : Replies} {isOpen : Bool} {lit : State} (h : Ordered target last s)
    (hlit : s.lightUp replies isOpen = .ok lit) : Ordered target last lit := by
  obtain rfl | ⟨fx, leds, rfl⟩ := lightUp_ok hlit
  · exact h
  · have hset : Ordered target last (s.setLed fx leds) :=
      ⟨h.motor, h.screenOn, h.moves, h.pipeline⟩
    exact hset.postDelayed ⟨rfl, rfl, rfl⟩ LED_EFFECT_TIME

theorem issueMove (replies : Replies) {cameraState : CameraState} (h : Ordered cameraState last s) :
    Ordered cameraState last (s.issueMove replies cameraState) := by
  have hcommand : ∀ call succeeded,
      Ordered cameraState last (s.command call .updateMotor succeeded) := by
    intro call succeeded
    refine ⟨h.motor, h.screenOn, ?_, h.pipeline⟩
    exact List.forall_mem_cons.mpr ⟨rfl, h.moves⟩
  have hlistener : ∀ {moved : State} {registered : Bool}, Ordered cameraState last moved →
      Ordered cameraState last (moved.setFreeFallListener registered) := by
    intro moved registered hmoved
    exact ⟨hmoved.motor, hmoved.screenOn, hmoved.moves, hmoved.pipeline⟩
  unfold State.issueMove
  dsimp only
  split
  · exact (hlistener (hcommand _ _)).postDelayed ⟨rfl, rfl, rfl⟩ MOTOR_BUSY_TIME
  · exact (hcommand _ _).postDelayed ⟨rfl, rfl, rfl⟩ MOTOR_BUSY_TIME

theorem endIdle {status : Int} (hstatus : isErrorStatus status = false)
    (h : Ordered target last s) : Ordered target last (s.endIdle status) := by
  rw [State.endIdle, hstatus]
  exact ⟨h.motor, h.screenOn, h.moves, h.pipeline⟩

-- With mMotorBusy clear, the last command is over.
theorem settled (h : Ordered target last s) (hcooldown : BusyCooldown s)
    (hfree : s.service.mMotorBusy = false) : settled s.world.log s.now = true := by
  have hover : ∀ time ∈ moveTimes s.world.log, time + MOTOR_BUSY_TIME ≤ s.now :=
    hcooldown.marks_over fun _ => hfree
  have hmoves := h.moves
  rw [moveTimes] at hover
  cases hlog : s.world.log with
  | nil => rfl
  | cons command earlier =>
      rw [hlog] at hover hmoves
      obtain ⟨hissuer, _⟩ := List.forall_mem_cons.mp hmoves
      rw [List.filter_cons, if_pos (decide_eq_true hissuer), List.map_cons] at hover
      exact decide_eq_true (hover command.time List.mem_cons_self)

end Ordered

theorem motorReports_settled {log : List Command} {now : Nat} {status : Int}
    (h : motorReports log now status = true) (hsettled : settled log now = true) :
    status = okStatus (motorTarget log) := by
  simpa [motorReports, hsettled] using And.right (Bool.and_eq_true_iff.mp h)

theorem motorReports_no_error {log : List Command} {now : Nat} {status : Int}
    (h : motorReports log now status = true) : isErrorStatus status = false := by
  simpa using And.left (Bool.and_eq_true_iff.mp h)

-- A request that does not move the motor has found it where it should be.
theorem eq_of_not_moves {cameraState target : CameraState}
    (h : moves cameraState (okStatus target) = false) : target = cameraState := by
  cases cameraState with
  | closed =>
      cases target with
      | closed => rfl
      | opened => cases h
  | opened =>
      cases target with
      | closed => cases h
      | opened => rfl

theorem motorTarget_issueMove (s : State) (replies : Replies) (cameraState : CameraState) :
    motorTarget (s.issueMove replies cameraState).world.log = cameraState := by
  rw [issueMove_world]
  cases cameraState with
  | closed => rfl
  | opened => rfl

section Dispatch

variable {s after : State} {replies : Replies} {rest : DelayQueue Task} {last : CameraState}
  (h : Ordered (motorTarget s.world.log) last s)
include h

theorem Ordered.runMotorRequest {request : Nat} {cameraState : CameraState} {status : Int}
    (hpop : s.service.mHandler.pop s.now = some (.motorRequest request cameraState, rest))
    (hcooldown : BusyCooldown s) (hfree : s.service.mMotorBusy = false)
    (hstatus : replies.status = some status)
    (hreports : motorReports s.world.log s.now status = true)
    (hok : (s.setHandler rest).runMotorRequest replies request cameraState = .ok after) :
    Ordered (motorTarget after.world.log) last after := by
  have hstarted := h.startRequest hpop
  obtain ⟨hnone, _⟩ | ⟨_, lit, _, _, hlit, hrun⟩ | ⟨found, hfound, hmoves, hrun⟩ | ⟨_, _, hrun⟩ :=
    runMotorRequest_cases replies request cameraState (s.setHandler rest)
  · rw [hstatus] at hnone
    cases hnone
  · rw [hrun] at hok
    cases hok
    rw [motorTarget_issueMove]
    exact (hstarted.lightUp hlit).issueMove replies
  · rw [hstatus] at hfound
    cases hfound
    rw [hrun] at hok
    cases hok
    have hsettled := h.settled hcooldown hfree
    rw [motorReports_settled hreports hsettled] at hmoves
    rw [endIdle_world]
    have htarget : motorTarget s.world.log = cameraState := eq_of_not_moves hmoves
    have hidle := hstarted.endIdle (motorReports_no_error hreports)
    rwa [← htarget] at hidle
  · rw [hrun] at hok
    cases hok

-- What the dispatch of one task preserves, by its kind.
theorem Ordered.handleTask {task : Task} {status : Int}
    (hpop : s.service.mHandler.pop s.now = some (task, rest)) (hcooldown : BusyCooldown s)
    (hfree : task.runnable?.isSome = true → s.service.mMotorBusy = false)
    (hturn : s.service.mMotorBusy = false → task.isOldest (rest.collect Task.polling?) = true)
    (hdialog : replies.alwaysOnDialog = false) (hstatus : replies.status = some status)
    (hreports : motorReports s.world.log s.now status = true)
    (hok : (s.setHandler rest).handleTask replies task = .ok after) :
    Ordered (motorTarget after.world.log) last after := by
  cases task with
  | msgCameraClosed =>
      cases hok
      exact h.handleCameraClosed hpop fun hidle => List.isEmpty_iff.mp (hturn hidle)
  | msgCameraOpen =>
      cases hok
      exact h.handleCameraOpen hdialog hpop fun hidle => List.isEmpty_iff.mp (hturn hidle)
  | motorRequest request cameraState =>
      exact h.runMotorRequest hpop hcooldown (hfree rfl) hstatus hreports hok
  | pollMotorBusy request cameraState =>
      cases hok
      refine h.poll hpop fun hidle other hm => ?_
      exact of_decide_eq_true (List.all_eq_true.mp (hturn hidle) other hm)
  | restoreLed =>
      have hpopped := h.pop_outside ⟨rfl, rfl, rfl⟩ hpop
      obtain ⟨fx, leds, hrestore | hrestore⟩ := restoreLed_cases (s.setHandler rest) replies
      · rw [State.handleTask, hrestore] at hok
        cases hok
        exact ⟨hpopped.motor, hpopped.screenOn, hpopped.moves, hpopped.pipeline⟩
      · rw [State.handleTask, hrestore] at hok
        cases hok
  | resetMotorBusy | resetMotorCalibrating | calibrationResultDialog | errorDialog =>
      cases hok
      have hpopped := h.pop_outside ⟨rfl, rfl, rfl⟩ hpop
      exact ⟨hpopped.motor, hpopped.screenOn, hpopped.moves, hpopped.pipeline⟩

end Dispatch

theorem finish_alive {result : Except State State} (h : (finish result).world.ended = false) :
    result = .ok (finish result) := by
  cases result with
  | ok after => rfl
  | error after => cases h

theorem findsMotorFree_runnable {s : State} {time : Nat} (replies : Replies) {task : Task}
    {rest : DelayQueue Task} (h : findsMotorFree s (time, .dispatch replies) = true)
    (hpop : s.service.mHandler.pop time = some (task, rest))
    (htask : task.runnable?.isSome = true) : s.service.mMotorBusy = false := by
  cases task with
  | motorRequest request cameraState => exact findsMotorFree_pop replies h hpop
  | _ => cases htask

theorem inTurn_pop {s : State} {time : Nat} (replies : Replies) {task : Task}
    {rest : DelayQueue Task} (h : inTurn s (time, .dispatch replies) = true)
    (hpop : s.service.mHandler.pop time = some (task, rest))
    (hfree : s.service.mMotorBusy = false) :
    task.isOldest (rest.collect Task.polling?) = true := by
  simpa [inTurn, hpop, hfree] using h

-- What one step preserves, while the process lives.
structure LastWins (past : List (Nat × Event)) (s : State) : Prop where
  window : BusyWindow s
  ordered : s.world.ended = false →
    Ordered (motorTarget s.world.log) ((lastEvent past).getD .closed) s

theorem LastWins.after_step {past : List (Nat × Event)} {s after : State} {event : Nat × Event}
    (h : LastWins past s) (hideal : idealEvent s event = true)
    (hfree : findsMotorFree s event = true) (hturn : inTurn s event = true)
    (hstep : step s event = some after) : LastWins (past ++ [event]) after := by
  refine ⟨h.window.after_step hfree hstep, fun halive => ?_⟩
  rw [lastEvent_concat]
  obtain ⟨time, event⟩ := event
  obtain ⟨hended, htime, _⟩ := step_effect hstep
  have hordered := (h.ordered hended).atTime htime
  have hcooldown : BusyCooldown (s.atTime time) := (h.window.alive hended).keep rfl rfl rfl htime
  have hhandle := (Option.ite_none_left_eq_some.mp hstep).2
  cases event with
  | onCameraClosed cameraId =>
      cases (Option.ite_none_right_eq_some.mp hhandle).2
      exact hordered.onCameraClosed cameraId
  | onCameraOpened cameraId =>
      cases (Option.ite_none_right_eq_some.mp hhandle).2
      exact hordered.onCameraOpened cameraId
  | dispatch replies =>
      simp only [idealEvent, Bool.and_eq_true, Bool.not_eq_true'] at hideal
      obtain ⟨⟨hdialog, _⟩, hreports⟩ := hideal
      obtain ⟨status, hstatus, hreports⟩ := (Option.any_eq_true _ _).mp hreports
      simp only [handle] at hhandle
      split at hhandle
      · rename_i task rest hpop
        cases hhandle
        exact hordered.handleTask hpop hcooldown (findsMotorFree_runnable replies hfree hpop)
          (inTurn_pop replies hturn hpop) hdialog hstatus hreports (finish_alive halive)
      · cases hhandle
  | _ => cases hideal

theorem ready_lastWins (now : Nat) (leds : Leds) : LastWins [] (ready now leds) where
  window := .of_cooldown (Cooldown.start fun _ => rfl)
  ordered _ := ⟨rfl, rfl, fun _ hm => (nomatch hm), Pipeline.start now .closed⟩

-- As long as no request runs before an older one or while the motor moves,
-- requests take effect in the order of their updateMotor calls. Once the queue
-- has drained the motor is where the last camera event has asked it to be.
theorem lastEvent_wins {now : Nat} {leds : Leds} {events : List (Nat × Event)} {final : State}
    (hideal : Along step (fun s event => idealEvent s event = true) (ready now leds) events)
    (hfree : Along step (fun s event => findsMotorFree s event = true) (ready now leds) events)
    (hturn : Along step (fun s event => inTurn s event = true) (ready now leds) events)
    (hrun : run step (ready now leds) events = some final) (halive : final.world.ended = false) :
    final.service.executed.reverse <+: List.range final.service.requests ∧
      (final.service.mHandler.entries = [] →
        final.service.executed.reverse = List.range final.service.requests ∧
        ∀ status, motorReports final.world.log final.world.now status = true →
          (status = MOTOR_STATUS_POPUP_OK ↔ lastEvent events = some .opened)) := by
  have hlast : LastWins ([] ++ events) final :=
    run_history_invariant _ LastWins
      (fun _ _ _ _ hs hguard hstep => hs.after_step hguard.1 hguard.2.1 hguard.2.2 hstep)
      (ready_lastWins now leds) (hideal.and _ (hfree.and _ hturn)) hrun
  have hordered := hlast.ordered halive
  refine ⟨hordered.pipeline.executed_prefix, fun hempty => ?_⟩
  obtain ⟨htarget, hexecuted⟩ := hordered.pipeline.drained hempty
  refine ⟨hexecuted, fun status hreports => ?_⟩
  have hidle : final.service.mMotorBusy = false := by
    have hresets : busyResets final.service = [] := by
      rw [busyResets, DelayQueue.select, hempty]
      rfl
    have hsingle := (hlast.window.alive halive).single ()
    rw [hresets] at hsingle
    exact Bool.toNat_eq_zero.mp hsingle.symm
  have hsettled := hordered.settled (hlast.window.alive halive) hidle
  rw [motorReports_settled hreports hsettled, htarget, List.nil_append]
  cases lastEvent events with
  | none => decide
  | some cameraState => cases cameraState <;> decide

def dispatchAll (status : Int) (times : List Nat) : List (Nat × Event) :=
  times.map fun time => (time, .dispatch { status := some status })

-- The queue is empty and the process has survived.
def drained (s : State) : Bool := !s.world.ended && s.service.mHandler.entries.isEmpty

-- The camera is closed while it is still being raised.
def openThenClose : List (Nat × Event) :=
  (1000, .onCameraOpened "1") :: dispatchAll MOTOR_STATUS_TAKEBACK_OK [1100, 1100] ++
    (1600, .onCameraClosed "1") ::
      dispatchAll MOTOR_STATUS_POPUP_OK [1700, 1800, 1900, 2000, 2100, 2200, 2300, 2300, 2300] ++
    dispatchAll MOTOR_STATUS_TAKEBACK_OK [2500, 3500, 3700]

theorem lastEvent_wins_openThenClose :
    ∃ final, run step (ready 0 .dark) openThenClose = some final ∧ drained final = true ∧
      final.service.executed.reverse = List.range final.service.requests ∧
      ∀ status, motorReports final.world.log final.world.now status = true →
        (status = MOTOR_STATUS_POPUP_OK ↔ lastEvent openThenClose = some .opened) := by
  obtain ⟨final, hrun, hdrained⟩ := (Option.any_eq_true drained (run step (ready 0 .dark)
    openThenClose)).mp (by decide +kernel)
  obtain ⟨halive, hempty⟩ := Bool.and_eq_true_iff.mp hdrained
  have hwins := lastEvent_wins
    (along_of_check step _ idealEvent (fun _ _ h => h) (by decide +kernel))
    (along_of_check step _ findsMotorFree (fun _ _ h => h) (by decide +kernel))
    (along_of_check step _ inTurn (fun _ _ h => h) (by decide +kernel)) hrun
    (by simpa using halive)
  exact ⟨final, hrun, hdrained, hwins.2 (List.isEmpty_iff.mp hempty)⟩

-- The request of the last event polls 40 ms before the one it follows. It finds
-- the camera up and does nothing, and the older request then takes it back.
def openCloseOpen : List (Nat × Event) :=
  (1000, .onCameraOpened "1") :: dispatchAll MOTOR_STATUS_TAKEBACK_OK [1100, 1100] ++
    (1950, .onCameraClosed "1") :: dispatchAll MOTOR_STATUS_POPUP_OK [2050] ++
    (2110, .onCameraOpened "1") ::
      dispatchAll MOTOR_STATUS_POPUP_OK [2150, 2210, 2250, 2300, 2310, 2310, 2350, 2350] ++
    dispatchAll MOTOR_STATUS_TAKEBACK_OK [2500, 3550, 3750]

theorem lastEvent_openCloseOpen :
    Along step (fun s event => idealEvent s event = true) (ready 0 .dark) openCloseOpen ∧
      lastEvent openCloseOpen = some .opened ∧
      ∃ final, run step (ready 0 .dark) openCloseOpen = some final ∧ drained final = true ∧
        final.service.executed.reverse = [0, 2, 1] ∧
        ∀ status, motorReports final.world.log final.world.now status = true →
          status ≠ MOTOR_STATUS_POPUP_OK := by
  refine ⟨along_of_check step _ idealEvent (fun _ _ h => h) (by decide +kernel), by decide, ?_⟩
  obtain ⟨final, hrun, hfinal⟩ := (Option.any_eq_true (fun s =>
      drained s && s.service.executed.reverse = [0, 2, 1] && motorTarget s.world.log = .closed &&
        settled s.world.log s.world.now) (run step (ready 0 .dark) openCloseOpen)).mp
    (by decide +kernel)
  simp only [Bool.and_eq_true, decide_eq_true_eq] at hfinal
  obtain ⟨⟨⟨hdrained, hexecuted⟩, htarget⟩, hsettled⟩ := hfinal
  refine ⟨final, hrun, hdrained, hexecuted, fun status hreports => ?_⟩
  rw [motorReports_settled hreports hsettled, htarget]
  decide

end Raphael.PopupCamera
