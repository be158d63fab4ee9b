import Raphael.PopupCamera.Remaining
import Raphael.Trace.Progress

namespace Raphael.PopupCamera

open State Trace

-- What is left to handle, nothing being left in a process that has ended.
def toHandle (s : State) : Nat :=
  if s.world.ended then 0 else remaining s.world.now s.service.mHandler

theorem toHandle_lt {s after : State} {time : Nat} {replies : Replies} (h : Awaited s)
    (hstep : step s (time, .dispatch replies) = some after) : toHandle after < toHandle s := by
  obtain ⟨halive, _, _⟩ := step_effect hstep
  unfold toHandle
  rw [halive]
  cases hended : after.world.ended with
  | false => exact remaining_lt h hstep hended
  | true =>
      obtain ⟨_, _, hpop⟩ := step_pops hstep
      exact remaining_pos hpop s.world.now

-- Nothing waits any more, so no flag is raised and every request has been run.
structure AtRest (service : PopupCameraService) : Prop where
  nothingWaits : service.mHandler.entries = []
  motorFree : service.mMotorBusy = false
  notCalibrating : service.mMotorCalibrating = false
  ledFree : service.mLed.mLedBusy = false
  executed : ∀ request < service.requests, service.executed.count request = 1

theorem AtRest.of_empty {s : State} (h : Awaited s) (honce : EachOnce s.service)
    (halive : s.world.ended = false) (hempty : s.service.mHandler.entries = []) :
    AtRest s.service := by
  have hselect : ∀ kind, s.service.mHandler.select kind = [] := by
    intro kind
    rw [DelayQueue.select, hempty, List.filter_nil]
  refine ⟨hempty, ?_, ?_, ?_, fun request hrequest => ?_⟩
  · exact Bool.eq_false_iff.mpr fun hbusy => h.busy halive hbusy (hselect _)
  · exact Bool.eq_false_iff.mpr fun hbusy => h.calibrating halive hbusy (hselect _)
  · exact Bool.eq_false_iff.mpr fun hbusy => h.led halive hbusy (hselect _)
  · have hcount := honce request
    rw [PopupCameraService.copies, DelayQueue.collect, hempty, if_pos hrequest] at hcount
    exact hcount

-- Left alone, the handler runs a bounded number of tasks, whatever the motor
-- service answers and however late they run, and then the object is at rest.
theorem handler_comes_to_rest {owner : Owner} {now : Nat} {leds : Leds}
    {events handled : List (Nat × Event)} {s final : State}
    (hreach : run step (constructed owner now leds) events = some s)
    (hdispatch : ∀ event ∈ handled, ∃ replies, event.2 = .dispatch replies)
    (hrun : run step s handled = some final) :
    handled.length ≤ toHandle s ∧
      ((∀ time replies, step final (time, .dispatch replies) = none) →
        final.world.ended = false → AtRest final.service) := by
  have hinv : ∀ {first last : State} {events : List (Nat × Event)},
      Awaited first ∧ EachOnce first.service → run step first events = some last →
      Awaited last ∧ EachOnce last.service :=
    fun hfirst hlast => run_invariant step (fun s => Awaited s ∧ EachOnce s.service)
      (fun _ _ _ hs _ hstep => ⟨hs.1.after_step hstep, hs.2.after_step hstep⟩) hfirst
      (along_true step _ _) hlast
  have hs := hinv ⟨constructed_awaited owner now leds, fun _ => rfl⟩ hreach
  obtain ⟨hawaited, honce⟩ := hinv hs hrun
  constructor
  · have hbound := length_le_of_decreases step Awaited toHandle
      (fun _ _ _ h _ hstep => h.after_step hstep)
      (fun state event next h hguard hstep => by
        obtain ⟨time, _⟩ := event
        obtain ⟨replies, rfl⟩ := hguard
        exact toHandle_lt h hstep)
      hs.1 (along_of_forall step hdispatch s) hrun
    exact Nat.le_trans (Nat.le_add_right _ _) hbound
  · intro hnone halive
    refine .of_empty hawaited honce halive ?_
    by_contra hwaits
    obtain ⟨time, htime, task, rest, hpop⟩ := DelayQueue.exists_pop hwaits final.world.now
    have hsome := @step_dispatch final time {} task rest halive htime hpop
    rw [hnone] at hsome
    cases hsome

theorem step_dispatch_of_empty {s : State} (hempty : s.service.mHandler.entries = [])
    (time : Nat) (replies : Replies) : step s (time, .dispatch replies) = none := by
  cases hstep : step s (time, .dispatch replies) with
  | none => rfl
  | some after =>
      obtain ⟨task, rest, hpop⟩ := step_pops hstep
      obtain ⟨_, _, hentries⟩ := DelayQueue.pop_eq_some hpop
      rw [hempty] at hentries
      cases hentries

-- After a popup, the busy window and the effect of the lights end.
theorem handler_comes_to_rest_openedOnce :
    ∃ s final, run step (constructed .system 0 .dark) openedOnce = some s ∧
      run step s [(2300, .dispatch {}), (2500, .dispatch {})] = some final ∧ 2 ≤ toHandle s ∧
      AtRest final.service := by
  obtain ⟨s, hreach⟩ : ∃ s, run step (constructed .system 0 .dark) openedOnce = some s :=
    Option.isSome_iff_exists.mp (by decide +kernel)
  have hend : ((run step (constructed .system 0 .dark) openedOnce).bind fun s =>
      run step s [(2300, .dispatch {}), (2500, .dispatch {})]).any (fun final =>
        decide (final.service.mHandler.entries = []) && !final.world.ended) = true := by
    decide +kernel
  rw [hreach, Option.bind_some] at hend
  obtain ⟨final, hrun, hfinal⟩ := (Option.any_eq_true _ _).mp hend
  simp only [Bool.and_eq_true, decide_eq_true_eq, Bool.not_eq_true'] at hfinal
  have hdispatch : ∀ event ∈ [((2300 : Nat), Event.dispatch {}), (2500, .dispatch {})],
      ∃ replies, event.2 = .dispatch replies := by
    simp
  obtain ⟨hbound, hrest⟩ := handler_comes_to_rest hreach hdispatch hrun
  exact ⟨s, final, hreach, hrun, hbound, hrest (step_dispatch_of_empty hfinal.1) hfinal.2⟩

end Raphael.PopupCamera
