import Raphael.PopupCamera.BusyWindow

namespace Raphael.PopupCamera

open FileUtils State Trace

-- What the last snapshot has read from the two files of the green LED.
structure LedReads where
  breath : Option String
  brightness : Option String

-- Before the first snapshot the fields are as if a dark LED had been read.
def unlit : LedReads := ⟨some "0", some "0"⟩

-- An effect takes a snapshot unless another one is running.
def takesSnapshot (s : State) (replies : Replies) : Bool :=
  replies.isLedAllowed && !s.service.mLed.mLedBusy

def readLed (s : State) (replies : Replies) : LedReads :=
  ⟨readOneLine (replies.accesses 0) (s.world.leds .green .breath),
    readOneLine (replies.accesses 1) (s.world.leds .green .brightness)⟩

def noteReads (s : State) (event : Nat × Event) (reads : LedReads) : LedReads :=
  match event with
  | (time, .dispatch replies) =>
      match s.service.mHandler.pop time, replies.status with
      | some (.motorRequest _ cameraState, _), some status =>
          if moves cameraState status && takesSnapshot s replies then readLed s replies else reads
      | _, _ => reads
  | _ => reads

def SavedReads (reads : LedReads) (fx : LedEffect) : Prop :=
  fx.mLedBreathing = decide (reads.breath = some "1") ∧ fx.mLedBrightness = reads.brightness

section Led

variable {accesses : Accesses} {fx after : LedEffect} {leds leds' : Leds} {isOpen : Bool}

-- A null breath line is all that can go wrong in lightUp.
theorem LedEffect.lightUp_isOk_iff : (∃ result, lightUp accesses isOpen fx leds = .ok result) ↔
    (fx.mLedBusy = false → (readOneLine (accesses 0) (leds .green .breath)).isSome = true) := by
  unfold lightUp saveActiveEffects
  cases hb : fx.mLedBusy with
  | true => simp
  | false =>
      cases hread : readOneLine (accesses 0) (leds .green .breath) with
      | none => simp
      | some breath => simp

theorem LedEffect.lightUp_saved (h : lightUp accesses isOpen fx leds = .ok (after, leds')) :
    (fx.mLedBusy = true → after = fx) ∧ (fx.mLedBusy = false →
      after.mLedBreathing = decide (readOneLine (accesses 0) (leds .green .breath) = some "1") ∧
        after.mLedBrightness = readOneLine (accesses 1) (leds .green .brightness)) := by
  unfold lightUp saveActiveEffects at h
  cases hb : fx.mLedBusy with
  | true =>
      simp only [hb, if_true] at h
      cases h
      refine ⟨fun _ => ?_, (fun hidle => nomatch hidle)⟩
      rw [← hb]
  | false =>
      refine ⟨(fun hbusy => nomatch hbusy), fun _ => ?_⟩
      simp only [hb] at h
      cases hread : readOneLine (accesses 0) (leds .green .breath) with
      | none =>
          rw [hread] at h
          cases h
      | some breath =>
          rw [hread] at h
          cases h
          simp

-- The callback writes a line of its own, or the saved one, which may be null.
theorem LedEffect.restoreLed_isOk_iff : (∃ result, restoreLed accesses fx leds = .ok result) ↔
    fx.mLedBreathing = true ∨ fx.mLedBrightness.isSome = true ∨ accesses 8 = .fileNotFound := by
  unfold restoreLed
  cases hb : fx.mLedBreathing with
  | true => simp
  | false =>
      cases hline : fx.mLedBrightness with
      | none => cases haccess : accesses 8 <;> simp [writeLine]
      | some line => cases haccess : accesses 8 <;> simp [writeLine]

theorem LedEffect.restoreLed_ok (h : restoreLed accesses fx leds = .ok (after, leds')) :
    after = { fx with mLedBusy := false } := by
  unfold restoreLed at h
  dsimp only at h
  split at h
  · cases h
    rfl
  · split at h
    · cases h
      rfl
    · cases h
      rfl
    · cases h

end Led

theorem lightUp_isOk_iff (s : State) (replies : Replies) (isOpen : Bool) :
    (∃ lit, s.lightUp replies isOpen = .ok lit) ↔
      (replies.isLedAllowed = true → s.service.mLed.mLedBusy = false →
        (readOneLine (replies.accesses 0) (s.world.leds .green .breath)).isSome = true) := by
  unfold State.lightUp
  cases hallowed : replies.isLedAllowed with
  | false => simp
  | true =>
      rw [← @LedEffect.lightUp_isOk_iff replies.accesses s.service.mLed s.world.leds isOpen]
      cases hlit : lightUp replies.accesses isOpen s.service.mLed s.world.leds with
      | ok result => simp
      | error result => simp

theorem lightUp_saved {s lit : State} {replies : Replies} {isOpen : Bool} {reads : LedReads}
    (h : s.lightUp replies isOpen = .ok lit) (hs : SavedReads reads s.service.mLed) :
    SavedReads (if takesSnapshot s replies then readLed s replies else reads)
      lit.service.mLed := by
  unfold State.lightUp at h
  cases hallowed : replies.isLedAllowed with
  | false =>
      rw [hallowed] at h
      cases h
      simpa [takesSnapshot, hallowed] using hs
  | true =>
      simp only [hallowed, if_true] at h
      split at h
      · rename_i fx leds hlit
        cases h
        obtain ⟨hbusy, hidle⟩ := LedEffect.lightUp_saved hlit
        change SavedReads _ fx
        cases hb : s.service.mLed.mLedBusy with
        | true => simpa [takesSnapshot, hb, hbusy hb] using hs
        | false =>
            have hread : SavedReads (readLed s replies) fx := hidle hb
            simpa [takesSnapshot, hallowed, hb] using hread
      · cases h

-- The tasks that may change the LED fields.
def Task.isLed : Task → Bool
  | .motorRequest _ _ | .restoreLed => true
  | _ => false

theorem Effect.mLed {s after : State} {event : Event} (h : Effect s event after)
    (hother : ∀ replies task rest, event = .dispatch replies →
      s.service.mHandler.pop s.now = some (task, rest) → task.isLed = false) :
    after.world.ended = true ∨ after.service.mLed = s.service.mLed := by
  cases h with
  | keeps hservice _ => exact .inr (congrArg Drive.mLed hservice.drive)
  | ends hends => exact .inl hends.ended
  | create hservice _ _ _ => exact .inr (congrArg Drive.mLed hservice.drive)
  | freeFall succeeds => cases succeeds <;> exact .inr rfl
  | calibrate _ _ hservice _ => exact .inr (congrArg Drive.mLed hservice.drive)
  | remoteException _ _ => exact .inr rfl
  | moved hpop _ _ _ => cases hother _ _ _ rfl hpop
  | idle hpop _ _ => cases hother _ _ _ rfl hpop
  | resetMotorBusy _ => exact .inr rfl
  | resetMotorCalibrating _ => exact .inr rfl
  | restoreLed hpop _ => cases hother _ _ _ rfl hpop

theorem noteReads_of_other {s : State} {event : Nat × Event} {reads : LedReads}
    (hother : ∀ replies task rest, event.2 = .dispatch replies →
      s.service.mHandler.pop event.1 = some (task, rest) → task.isLed = false) :
    noteReads s event reads = reads := by
  unfold noteReads
  split
  · split
    · rename_i hpop _
      cases hother _ _ _ rfl hpop
    · rfl
  · rfl

theorem runMotorRequest_saved {s : State} {replies : Replies} {request : Nat} {reads : LedReads}
    {cameraState : CameraState} {rest : DelayQueue Task}
    (hpop : s.service.mHandler.pop s.now = some (.motorRequest request cameraState, rest))
    (hs : SavedReads reads s.service.mLed) :
    let after := finish ((s.setHandler rest).runMotorRequest replies request cameraState)
    after.world.ended = true ∨
      SavedReads (noteReads s (s.now, .dispatch replies) reads) after.service.mLed := by
  intro after
  have hnote : noteReads s (s.now, .dispatch replies) reads =
      replies.status.elim reads fun status =>
        if moves cameraState status && takesSnapshot s replies then readLed s replies
        else reads := by
    simp only [noteReads, hpop]
    cases replies.status <;> rfl
  obtain ⟨hstatus, hrun⟩ | ⟨status, lit, hstatus, hmoves, hlit, hrun⟩ |
    ⟨status, hstatus, hmoves, hrun⟩ | ⟨failed, _, hrun⟩ :=
    runMotorRequest_cases replies request cameraState (s.setHandler rest)
  · refine .inr ?_
    rw [hnote, hstatus]
    simp only [after, hrun]
    exact hs
  · refine .inr ?_
    have hsaved := lightUp_saved hlit hs
    have hmLed : after.service.mLed = lit.service.mLed := by
      simp only [after, hrun, finish, issueMove]
      cases replies.commandSucceeds <;> rfl
    rw [hnote, hstatus, hmLed, Option.elim_some]
    simp only [hmoves, Bool.true_and]
    exact hsaved
  · refine .inr ?_
    have hmLed : after.service.mLed = s.service.mLed := by
      simp only [after, hrun, finish]
      exact congrArg Drive.mLed (endIdle_keeps _ status).drive
    rw [hnote, hstatus, hmLed, Option.elim_some]
    simp only [hmoves, Bool.false_and, Bool.false_eq_true, if_false]
    exact hs
  · refine .inl ?_
    simp only [after, hrun]
    rfl

-- What is saved is what the last snapshot has read, as long as the process lives.
theorem savedReads_step {s after : State} {event : Nat × Event} {reads : LedReads}
    (h : step s event = some after) (hs : SavedReads reads s.service.mLed) :
    after.world.ended = true ∨ SavedReads (noteReads s event reads) after.service.mLed := by
  obtain ⟨time, event⟩ := event
  by_cases hled : ∃ replies task rest, event = .dispatch replies ∧
      s.service.mHandler.pop time = some (task, rest) ∧ task.isLed = true
  · obtain ⟨replies, task, rest, rfl, hpop, htask⟩ := hled
    rw [step_dispatch_some h hpop]
    cases task with
    | motorRequest request cameraState =>
        exact @runMotorRequest_saved (s.atTime time) _ _ _ _ _ hpop hs
    | restoreLed =>
        have hnote : noteReads s (time, .dispatch replies) reads = reads := by
          simp only [noteReads, hpop]
        rw [hnote, handleTask, State.restoreLed]
        split
        · rename_i fx leds hrestore
          refine .inr ?_
          change SavedReads reads fx
          rw [LedEffect.restoreLed_ok hrestore]
          exact hs
        · exact .inl rfl
    | _ => cases htask
  · have hother : ∀ replies task rest, event = .dispatch replies →
        s.service.mHandler.pop time = some (task, rest) → task.isLed = false := by
      intro replies task rest hevent hpop
      exact Bool.eq_false_iff.mpr fun htask => hled ⟨replies, task, rest, hevent, hpop, htask⟩
    obtain ⟨_, _, heffect⟩ := step_effect h
    refine (heffect.mLed hother).imp_right fun hmLed => ?_
    rw [noteReads_of_other hother, hmLed]
    exact hs

theorem savedReads_run {now : Nat} {leds : Leds} {events : List (Nat × Event)} {s : State}
    {reads : LedReads}
    (hrun : run (observed step noteReads) (start now leds, unlit) events = some (s, reads)) :
    s.world.ended = true ∨ SavedReads reads s.service.mLed := by
  refine run_invariant (observed step noteReads)
    (fun state => state.1.world.ended = true ∨ SavedReads state.2 state.1.service.mLed) ?_
    (.inr ⟨rfl, rfl⟩) (along_true _ _ _) hrun
  rintro ⟨state, seen⟩ event ⟨next, seen'⟩ hs _ hstep
  obtain ⟨hnext, rfl⟩ := observed_some _ _ hstep
  obtain hended | hs := hs
  · have hlive := (step_effect hnext).1
    rw [hended] at hlive
    cases hlive
  · exact savedReads_step hnext hs

-- No sound is played, which a silent ringer or a preference for none comes to.
def Replies.isSilent (replies : Replies) : Bool :=
  !replies.ringerModeNormal || replies.soundEffect = some (-1)

theorem playSoundEffect_of_silent {replies : Replies} (h : replies.isSilent = true)
    (cameraState : CameraState) (s : State) :
    s.playSoundEffect replies cameraState = .ok s := by
  unfold playSoundEffect
  cases hringer : replies.ringerModeNormal with
  | false => rfl
  | true =>
      have hnone : replies.soundEffect = some (-1) := by
        simpa [Replies.isSilent, hringer] using h
      simp [hnone]

-- The runnable of a request comes through: it issues its one motor command and
-- posts the busy reset.
structure MovesMotor (replies : Replies) (cameraState : CameraState) (before after : State) :
    Prop where
  ended : after.world.ended = false
  log : after.world.log =
    ⟨before.now, if cameraState = .opened then .popupMotor else .takebackMotor, .updateMotor,
      replies.commandSucceeds⟩ :: before.world.log
  reset : after.service.mHandler.select Task.isBusyReset =
    insertDelayed ⟨before.now + MOTOR_BUSY_TIME, .resetMotorBusy⟩
      (before.service.mHandler.select Task.isBusyReset)

theorem MovesMotor.of_lit {s lit : State} {replies : Replies} {request : Nat}
    {cameraState : CameraState} {rest : DelayQueue Task} (hlive : s.world.ended = false)
    (hpop : s.service.mHandler.pop s.now = some (.motorRequest request cameraState, rest))
    (hlights : LightsOnly ((s.setHandler rest).startRequest request) lit) :
    MovesMotor replies cameraState s (lit.issueMove replies cameraState) := by
  have hnow : lit.world.now = s.world.now := hlights.now
  have hlog : lit.world.log = s.world.log := hlights.log
  have hended : lit.world.ended = s.world.ended := hlights.ended
  have hkept : lit.service.mHandler.select Task.isBusyReset =
      s.service.mHandler.select Task.isBusyReset :=
    (hlights.select _ rfl).trans (DelayQueue.select_pop_of_other hpop rfl)
  constructor
  · rw [issueMove_world]
    exact hended.trans hlive
  · rw [issueMove_world]
    simp only [State.now, hnow, hlog]
  · rw [issueMove_handler, DelayQueue.select_post rfl, hkept]
    simp only [State.now, hnow]

theorem runMotorRequest_movesMotor_iff {s : State} {replies : Replies} {request : Nat}
    {cameraState : CameraState} {rest : DelayQueue Task} {status : Int}
    (hlive : s.world.ended = false)
    (hpop : s.service.mHandler.pop s.now = some (.motorRequest request cameraState, rest))
    (hstatus : replies.status = some status) (hmoves : moves cameraState status = true)
    (hsilent : replies.isSilent = true) :
    MovesMotor replies cameraState s
        (finish ((s.setHandler rest).runMotorRequest replies request cameraState)) ↔
      (replies.isLedAllowed = true → s.service.mLed.mLedBusy = false →
        (readOneLine (replies.accesses 0) (s.world.leds .green .breath)).isSome = true) := by
  have hiff := lightUp_isOk_iff ((s.setHandler rest).startRequest request) replies
    (cameraState = .opened)
  have hrun : (s.setHandler rest).runMotorRequest replies request cameraState =
      ((s.setHandler rest).startRequest request).moveMotor replies cameraState := by
    simp only [runMotorRequest, hstatus, hmoves, if_true]
  refine .trans ?_ hiff
  rw [hrun, moveMotor]
  cases hlit : ((s.setHandler rest).startRequest request).lightUp replies
      (cameraState = .opened) with
  | error failed =>
      apply iff_of_false
      · intro h
        have hended := h.ended
        cases hended
      · rintro ⟨lit, hok⟩
        cases hok
  | ok lit =>
      refine iff_of_true ?_ ⟨lit, rfl⟩
      simp only [bind, Except.bind, playSoundEffect_of_silent hsilent]
      exact .of_lit hlive hpop (lightUp_lightsOnly hlit)

theorem restoreLed_survives_iff {s : State} {replies : Replies} (hlive : s.world.ended = false) :
    (finish (s.restoreLed replies)).world.ended = false ↔
      s.service.mLed.mLedBreathing = true ∨ s.service.mLed.mLedBrightness.isSome = true ∨
        replies.accesses 8 = .fileNotFound := by
  rw [← @LedEffect.restoreLed_isOk_iff replies.accesses s.service.mLed s.world.leds,
    State.restoreLed]
  cases hrestore : PopupCamera.restoreLed replies.accesses s.service.mLed s.world.leds with
  | ok result => exact iff_of_true hlive ⟨result, rfl⟩
  | error result =>
      apply iff_of_false
      · intro h
        cases h
      · rintro ⟨restored, hok⟩
        cases hok

-- Which reads a motor request and a restore callback depend on. No write
-- matters, apart from the open of a file that no line was read from.
theorem ledFailures_survived_iff {start' : Nat} {leds : Leds} {events : List (Nat × Event)}
    {s : State} {reads : LedReads} {time : Nat} {replies : Replies}
    (hrun : run (observed step noteReads) (start start' leds, unlit) events = some (s, reads))
    (hlive : s.world.ended = false) (htime : s.world.now ≤ time) :
    (∀ request cameraState rest status,
      s.service.mHandler.pop time = some (.motorRequest request cameraState, rest) →
      replies.status = some status → moves cameraState status = true →
      replies.isSilent = true →
      ∃ after, step s (time, .dispatch replies) = some after ∧
        (MovesMotor replies cameraState (s.atTime time) after ↔
          (replies.isLedAllowed = true → s.service.mLed.mLedBusy = false →
            (readOneLine (replies.accesses 0) (s.world.leds .green .breath)).isSome = true))) ∧
    ∀ rest, s.service.mHandler.pop time = some (.restoreLed, rest) →
      ∃ after, step s (time, .dispatch replies) = some after ∧
        (after.world.ended = false ↔ reads.breath = some "1" ∨ reads.brightness.isSome = true ∨
          replies.accesses 8 = .fileNotFound) := by
  constructor
  · intro request cameraState rest status hpop hstatus hmoves hsilent
    exact ⟨_, step_dispatch hlive htime hpop,
      @runMotorRequest_movesMotor_iff (s.atTime time) _ _ _ _ _ hlive hpop hstatus hmoves hsilent⟩
  · intro rest hpop
    refine ⟨_, step_dispatch hlive htime hpop, ?_⟩
    have hsaved : SavedReads reads s.service.mLed :=
      (savedReads_run hrun).resolve_left (by rw [hlive]; exact Bool.false_ne_true)
    have hiff := @restoreLed_survives_iff ((s.atTime time).setHandler rest) replies hlive
    refine hiff.trans ?_
    have hbreathing : s.service.mLed.mLedBreathing = true ↔ reads.breath = some "1" := by
      rw [hsaved.1, decide_eq_true_eq]
    have hbrightness : s.service.mLed.mLedBrightness = reads.brightness := hsaved.2
    exact or_congr hbreathing (or_congr (by rw [← hbrightness]; rfl) Iff.rfl)

-- The front camera is opened, and the runnable of its request is due.
def openDue : List (Nat × Event) := openedOnce.take 3

theorem openDue_run : ∃ s rest, run step (start 0 .dark) openDue = some s ∧
    s.world.ended = false ∧ s.world.now ≤ 1100 ∧
    s.service.mHandler.pop 1100 = some (.motorRequest 0 .opened, rest) := by
  have hstate : (run step (start 0 .dark) openDue).map (fun s =>
      (s.world.ended, decide (s.world.now ≤ 1100), (s.service.mHandler.pop 1100).map Prod.fst)) =
      some (false, true, some (.motorRequest 0 .opened)) := by decide +kernel
  obtain ⟨s, hrun, hs⟩ := Option.map_eq_some_iff.mp hstate
  simp only [Prod.mk.injEq, decide_eq_true_eq] at hs
  obtain ⟨hlive, hnow, hpop⟩ := hs
  obtain ⟨⟨task, rest⟩, hpop, rfl⟩ := Option.map_eq_some_iff.mp hpop
  exact ⟨s, rest, hrun, hlive, hnow, hpop⟩

def readable : Replies where
  status := some MOTOR_STATUS_TAKEBACK_OK

theorem ledFailures_survived_iff_openDue :
    ∃ s reads, run (observed step noteReads) (start 0 .dark, unlit) openDue = some (s, reads) ∧
      ∃ after, step s (1100, .dispatch readable) = some after ∧
        (MovesMotor readable .opened (s.atTime 1100) after ↔
          (readable.isLedAllowed = true → s.service.mLed.mLedBusy = false →
            (readOneLine (readable.accesses 0) (s.world.leds .green .breath)).isSome = true)) := by
  obtain ⟨s, rest, hrun, hlive, htime, hpop⟩ := openDue_run
  obtain ⟨reads, hreads⟩ := run_observed step noteReads unlit hrun
  exact ⟨s, reads, hreads, (ledFailures_survived_iff hreads hlive htime).1 0 .opened rest
    MOTOR_STATUS_TAKEBACK_OK hpop rfl rfl rfl⟩

-- The breath file cannot be read, and the camera stays down.
def unreadable : Replies where
  status := some MOTOR_STATUS_TAKEBACK_OK
  accesses := fun site => if site = 0 then .ioException else .ok

theorem ledFailures_motorLost :
    ¬∀ events s time replies request cameraState rest status,
      run step (start 0 .dark) events = some s → s.world.ended = false → s.world.now ≤ time →
      s.service.mHandler.pop time = some (.motorRequest request cameraState, rest) →
      replies.status = some status → moves cameraState status = true →
      replies.isSilent = true →
      ∃ after, step s (time, .dispatch replies) = some after ∧
        MovesMotor replies cameraState (s.atTime time) after := by
  intro h
  obtain ⟨s, rest, hrun, hlive, htime, hpop⟩ := openDue_run
  obtain ⟨after, hstep, hmoves⟩ := h openDue s 1100 unreadable 0 .opened rest
    MOTOR_STATUS_TAKEBACK_OK hrun hlive htime hpop rfl rfl rfl
  have hfails : (run step (start 0 .dark) (openDue ++ [(1100, .dispatch unreadable)])).map
      (fun s => s.world.ended) = some true := by decide +kernel
  have hboth : run step (start 0 .dark) (openDue ++ [(1100, .dispatch unreadable)]) =
      some after := by
    rw [run_append, hrun]
    exact (run_cons step s _ []).trans (by rw [hstep]; rfl)
  rw [hboth, Option.map_some, hmoves.ended] at hfails
  cases hfails

end Raphael.PopupCamera
