import Raphael.PopupCamera.Awaited
import Raphael.PopupCamera.Preferences

namespace Raphael.PopupCamera

open FileUtils State Trace

-- A motor service that is there, LED files that can be read, and a sound that
-- the settings offer. Writes, motor calls and statuses are left open.
def Healthy (preferences : PopupCameraPreferences) : Event → Prop
  | .onCreate replies => replies.getService ≠ .noSuchElementException
  | .errorDialogCalibrate getService _ => getService ≠ .noSuchElementException
  | .settingsCalibrate getService _ => getService ≠ .noSuchElementException
  | .dispatch replies =>
      replies.FromPreferences preferences ∧ replies.accesses 0 = .ok ∧ replies.accesses 1 = .ok
  | _ => True

-- The process lives, and a line to restore is saved.
structure Survives (s : State) : Prop where
  alive : s.world.ended = false
  saved : s.service.mLed.mLedBrightness.isSome = true

theorem Survives.keep {s : State} (hs : Survives s) {service : PopupCameraService}
    (hservice : Keeps s.service service) : Survives ⟨service, s.world⟩ := by
  have hmLed : service.mLed = s.service.mLed := congrArg Drive.mLed hservice.drive
  refine ⟨hs.alive, ?_⟩
  rw [hmLed]
  exact hs.saved

section Led

variable {s : State} {replies : Replies}

theorem lightUp_survives (hs : Survives s) (hbreath : replies.accesses 0 = .ok)
    (hbrightness : replies.accesses 1 = .ok) (isOpen : Bool) :
    ∃ lit, s.lightUp replies isOpen = .ok lit ∧ Survives lit := by
  obtain ⟨lit, hlit⟩ := (lightUp_isOk_iff s replies isOpen).mpr fun _ _ => by rw [hbreath]; rfl
  have hlights := lightUp_lightsOnly hlit
  refine ⟨lit, hlit, hlights.ended.trans hs.alive, ?_⟩
  have hbefore : SavedReads ⟨if s.service.mLed.mLedBreathing then some "1" else none,
      s.service.mLed.mLedBrightness⟩ s.service.mLed := by
    cases hb : s.service.mLed.mLedBreathing <;> simp [SavedReads, hb]
  have hsaved := lightUp_saved hlit hbefore
  rw [hsaved.2]
  split
  · rw [readLed, hbrightness]
    rfl
  · exact hs.saved

theorem restoreLed_survives (hs : Survives s) :
    Survives (finish (s.restoreLed replies)) := by
  have halive := (@restoreLed_survives_iff s replies hs.alive).mpr (.inr (.inl hs.saved))
  refine ⟨halive, ?_⟩
  unfold State.restoreLed at halive ⊢
  split at halive
  · rename_i fx leds hrestore
    change fx.mLedBrightness.isSome = true
    rw [LedEffect.restoreLed_ok hrestore]
    exact hs.saved
  · cases halive

end Led

section Dispatch

variable {s : State} {replies : Replies} {preferences : PopupCameraPreferences}

theorem runMotorRequest_survives (hs : Survives s) (hoffered : preferences.Offered)
    (hhealthy : Healthy preferences (.dispatch replies)) (request : Nat)
    (cameraState : CameraState) :
    Survives (finish (s.runMotorRequest replies request cameraState)) := by
  obtain ⟨hreplies, hbreath, hbrightness⟩ := hhealthy
  have hstart : Survives (s.startRequest request) := ⟨hs.alive, hs.saved⟩
  unfold runMotorRequest
  dsimp only
  split
  · exact ⟨hs.alive, hs.saved⟩
  · rename_i status _
    split
    · obtain ⟨lit, hlit, hsurvives⟩ :=
        lightUp_survives hstart hbreath hbrightness (cameraState = .opened)
      simp only [moveMotor, hlit, bind, Except.bind,
        playSoundEffect_offered hreplies hoffered cameraState lit]
      refine ⟨?_, ?_⟩
      · change (lit.issueMove replies cameraState).world.ended = false
        rw [issueMove_world]
        exact hsurvives.alive
      · change (lit.issueMove replies cameraState).service.mLed.mLedBrightness.isSome = true
        unfold issueMove
        cases replies.commandSucceeds <;> exact hsurvives.saved
    · refine ⟨?_, ?_⟩
      · change ((s.startRequest request).endIdle status).world.ended = false
        rw [endIdle_world]
        exact hs.alive
      · have hmLed : ((s.startRequest request).endIdle status).service.mLed = s.service.mLed :=
          congrArg Drive.mLed (endIdle_keeps (s.startRequest request) status).drive
        change ((s.startRequest request).endIdle status).service.mLed.mLedBrightness.isSome = true
        rw [hmLed]
        exact hs.saved

theorem handleTask_survives (hs : Survives s) (hoffered : preferences.Offered)
    (hhealthy : Healthy preferences (.dispatch replies)) (task : Task) :
    Survives (finish (s.handleTask replies task)) := by
  cases task with
  | msgCameraClosed => exact hs.keep (PopupCameraService.keeps_handleCameraClosed _ _)
  | msgCameraOpen => exact hs.keep (PopupCameraService.keeps_handleCameraOpen _ _ _ _)
  | motorRequest request cameraState =>
      exact runMotorRequest_survives hs hoffered hhealthy request cameraState
  | pollMotorBusy request cameraState => exact hs.keep (PopupCameraService.keeps_poll _ _ _ _)
  | resetMotorBusy => exact ⟨hs.alive, hs.saved⟩
  | resetMotorCalibrating => exact ⟨hs.alive, hs.saved⟩
  | restoreLed => exact restoreLed_survives hs
  | calibrationResultDialog status => exact ⟨hs.alive, hs.saved⟩
  | errorDialog => exact ⟨hs.alive, hs.saved⟩

end Dispatch

section Motor

variable {s : State}

theorem calibrateMotor_survives (hs : Survives s) {getService : GetService}
    (hservice : getService ≠ .noSuchElementException) (succeeds : Bool) :
    Survives (finish (s.calibrateMotor getService succeeds)) := by
  unfold calibrateMotor
  split
  · exact hs
  · split
    · exact ⟨hs.alive, hs.saved⟩
    · cases getService with
      | found => exact ⟨hs.alive, hs.saved⟩
      | remoteException => exact hs
      | noSuchElementException => exact absurd rfl hservice

theorem createMotor_survives (hs : Survives s) {replies : OnCreateReplies}
    (hservice : replies.getService ≠ .noSuchElementException) :
    Survives (finish (s.createMotor replies)) := by
  unfold createMotor
  split
  · exact absurd ‹_› hservice
  · exact hs
  · dsimp only
    split
    · exact ⟨hs.alive, hs.saved⟩
    · split
      · split
        · split
          · exact ⟨hs.alive, hs.saved⟩
          · split <;> exact ⟨hs.alive, hs.saved⟩
        · exact ⟨hs.alive, hs.saved⟩
      · split <;> exact ⟨hs.alive, hs.saved⟩

end Motor

theorem handle_survives {s after : State} {event : Event} {preferences : PopupCameraPreferences}
    (hs : Survives s) (hoffered : preferences.Offered) (hhealthy : Healthy preferences event)
    (h : s.handle event = some after) : Survives after := by
  cases event with
  | onCreate replies =>
      obtain ⟨_, h⟩ := Option.ite_none_right_eq_some.mp h
      cases h
      refine createMotor_survives ?_ hhealthy
      exact ⟨hs.alive, hs.saved⟩
  | onDestroy =>
      obtain ⟨_, h⟩ := Option.ite_none_right_eq_some.mp h
      cases h
      exact ⟨hs.alive, hs.saved⟩
  | onReceive screenOn =>
      obtain ⟨_, h⟩ := Option.ite_none_right_eq_some.mp h
      cases h
      exact ⟨hs.alive, hs.saved⟩
  | onCameraClosed cameraId =>
      obtain ⟨_, h⟩ := Option.ite_none_right_eq_some.mp h
      cases h
      exact hs.keep (PopupCameraService.keeps_onCameraClosed _ _ cameraId)
  | onCameraOpened cameraId =>
      obtain ⟨_, h⟩ := Option.ite_none_right_eq_some.mp h
      cases h
      exact hs.keep (PopupCameraService.keeps_onCameraOpened _ _ cameraId)
  | onSensorChanged isFreeFall takebackSucceeds =>
      obtain ⟨_, h⟩ := Option.ite_none_right_eq_some.mp h
      cases h
      cases isFreeFall <;> cases takebackSucceeds <;> exact ⟨hs.alive, hs.saved⟩
  | onNotify status =>
      obtain ⟨_, h⟩ := Option.ite_none_right_eq_some.mp h
      cases h
      exact hs.keep (PopupCameraService.keeps_onNotify _ status)
  | onNotifyContinue =>
      simp only [handle] at h
      split at h
      · cases h
        exact hs.keep (PopupCameraService.keeps_continueNotify _ _ _)
      · cases h
  | raiseDialogClick dialog raise =>
      obtain ⟨_, h⟩ := Option.ite_none_right_eq_some.mp h
      cases h
      cases raise with
      | false => exact hs.keep (PopupCameraService.keeps_dismiss _ dialog)
      | true =>
          exact hs.keep ((PopupCameraService.keeps_updateMotor _ _ .opened).trans
            (PopupCameraService.keeps_dismiss _ dialog))
  | errorDialogCalibrate getService succeeds =>
      obtain ⟨_, h⟩ := Option.ite_none_right_eq_some.mp h
      cases h
      refine calibrateMotor_survives ?_ hhealthy succeeds
      exact ⟨hs.alive, hs.saved⟩
  | errorDialogDismiss =>
      obtain ⟨_, h⟩ := Option.ite_none_right_eq_some.mp h
      cases h
      exact ⟨hs.alive, hs.saved⟩
  | calibrationResultDialogDismiss =>
      obtain ⟨_, h⟩ := Option.ite_none_right_eq_some.mp h
      cases h
      exact ⟨hs.alive, hs.saved⟩
  | settingsCalibrate getService succeeds =>
      obtain ⟨_, h⟩ := Option.ite_none_right_eq_some.mp h
      cases h
      exact calibrateMotor_survives hs hhealthy succeeds
  | dispatch replies =>
      simp only [handle] at h
      split at h
      · rename_i task rest _
        cases h
        have hpopped : Survives (s.setHandler rest) := ⟨hs.alive, hs.saved⟩
        exact handleTask_survives hpopped hoffered hhealthy task
      · cases h

theorem Survives.after_step {s after : State} {event : Nat × Event}
    {preferences : PopupCameraPreferences} (hs : Survives s) (hoffered : preferences.Offered)
    (hhealthy : Healthy preferences event.2) (hstep : step s event = some after) :
    Survives after := by
  obtain ⟨time, event⟩ := event
  have hbefore : Survives (s.atTime time) := ⟨hs.alive, hs.saved⟩
  exact handle_survives hbefore hoffered hhealthy (Option.ite_none_left_eq_some.mp hstep).2

-- No run of an object ends the process as long as the LED files can be read:
-- not a failing write, motor call or callback, and none of the sounds on offer.
-- The settings may be changed between any two events.
theorem process_survives {owner : Owner} {now : Nat} {leds : Leds} {events : List (Nat × Event)}
    {final : State}
    (hhealthy : ∀ event ∈ events, ∃ preferences : PopupCameraPreferences,
      preferences.Offered ∧ Healthy preferences event.2)
    (hrun : run step (constructed owner now leds) events = some final) :
    final.world.ended = false := by
  have hsurvives : Survives final := by
    refine run_invariant step Survives ?_ ⟨rfl, rfl⟩ (along_of_forall step hhealthy _) hrun
    intro s event after hs hguard hstep
    obtain ⟨preferences, hoffered, hevent⟩ := hguard
    exact hs.after_step hoffered hevent hstep
  exact hsurvives.alive

theorem process_survives_openedOnce :
    ∃ final, run step (constructed .system 0 .dark) openedOnce = some final ∧
      final.world.ended = false := by
  have hdefault : parseInt "-1" = some (-1) := by decide +kernel
  have hhealthy : ∀ event ∈ openedOnce, ∃ preferences : PopupCameraPreferences,
      preferences.Offered ∧ Healthy preferences event.2 := by
    intro event hevent
    refine ⟨⟨none, none⟩, nofun, ?_⟩
    simp only [openedOnce, List.mem_cons, List.not_mem_nil, or_false] at hevent
    rcases hevent with rfl | rfl | rfl | rfl
    · exact nofun
    · trivial
    · exact ⟨⟨rfl, hdefault.symm⟩, rfl, rfl⟩
    · exact ⟨⟨rfl, hdefault.symm⟩, rfl, rfl⟩
  obtain ⟨final, hrun⟩ : ∃ final, run step (constructed .system 0 .dark) openedOnce = some final :=
    Option.isSome_iff_exists.mp (by decide +kernel)
  exact ⟨final, hrun, process_survives hhealthy hrun⟩

end Raphael.PopupCamera
