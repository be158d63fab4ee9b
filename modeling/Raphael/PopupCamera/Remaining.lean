import Mathlib.Tactic.Ring
import Raphael.DelayQueue.Weight
import Raphael.PopupCamera.Awaited

namespace Raphael.PopupCamera

open State

-- How often the handler passes a task on until the motor has been asked.
def hops (entry : Delayed Task) : Nat :=
  match entry.item with
  | .msgCameraClosed | .msgCameraOpen => 2
  | .motorRequest _ _ | .pollMotorBusy _ _ => 1
  | _ => 0

-- How often a poll can still find the motor busy, no reset being due after the
-- deadline.
def rounds (deadline now due : Nat) : Nat :=
  if due ≤ deadline then (deadline - max now due) / POLL_TIME + 1 else 0

def cost (deadline now : Nat) (entry : Delayed Task) : Nat :=
  match entry.item with
  | .msgCameraClosed | .msgCameraOpen => 0
  | .pollMotorBusy _ _ => rounds deadline now entry.due + 2
  | _ => 1

-- A bound on the tasks that the handler still has to run. A task that reaches
-- the motor may renew the deadline of all the others.
def remaining (now : Nat) (queue : DelayQueue Task) : Nat :=
  10 * (queue.weight hops * (queue.weight hops + 1)) +
    queue.weight (cost (queue.deadline Task.isBusyReset) now)

section Cost

variable {deadline deadline' now now' due : Nat} {queue queue' : DelayQueue Task}

theorem rounds_mono (hdeadline : deadline' ≤ deadline) (hnow : now ≤ now') :
    rounds deadline' now' due ≤ rounds deadline now due := by
  unfold rounds
  split
  · rw [if_pos (by omega)]
    exact Nat.succ_le_succ (Nat.div_le_div_right (by omega))
  · exact Nat.zero_le _

theorem rounds_le (hdeadline : deadline ≤ now + MOTOR_BUSY_TIME) :
    rounds deadline now due ≤ 13 := by
  unfold rounds
  split
  · have hlate : deadline - max now due ≤ 1200 := by
      rw [MOTOR_BUSY_TIME] at hdeadline
      omega
    exact Nat.succ_le_succ (Nat.div_le_div_right hlate)
  · exact Nat.zero_le _

-- A poll that finds the motor busy has one round less to go.
theorem rounds_again (hdue : due ≤ deadline) (hlate : due ≤ now') (hnow : now ≤ now') :
    rounds deadline now' (now' + POLL_TIME) < rounds deadline now due := by
  unfold rounds
  rw [if_pos hdue]
  split
  · have hround : deadline - max now' (now' + POLL_TIME) + POLL_TIME ≤ deadline - max now due := by
      omega
    have hdiv := @Nat.div_le_div_right _ _ POLL_TIME hround
    rw [Nat.add_div_right _ (by decide)] at hdiv
    omega
  · exact Nat.succ_pos _

theorem cost_mono (hdeadline : deadline' ≤ deadline) (hnow : now ≤ now') (entry : Delayed Task) :
    cost deadline' now' entry ≤ cost deadline now entry := by
  unfold cost
  split
  · exact Nat.le_refl _
  · exact Nat.le_refl _
  · exact Nat.add_le_add_right (rounds_mono hdeadline hnow) 2
  · exact Nat.le_refl _

-- A renewed deadline costs thirteen more rounds for each poll.
theorem cost_renew (hdeadline : deadline' ≤ now' + MOTOR_BUSY_TIME) (entry : Delayed Task) :
    cost deadline' now' entry ≤ cost deadline now entry + 13 * hops entry := by
  have hrounds := @rounds_le deadline' now' entry.due hdeadline
  obtain ⟨due, task⟩ := entry
  cases task <;> simp only [cost, hops] at * <;> omega

theorem remaining_lt_of_hop (hhops : queue'.weight hops < queue.weight hops)
    (hcost : queue'.weight (cost (queue'.deadline Task.isBusyReset) now') ≤
      queue.weight (cost (queue.deadline Task.isBusyReset) now) + 13 * queue.weight hops) :
    remaining now' queue' < remaining now queue := by
  unfold remaining
  have hsquare : queue'.weight hops * (queue'.weight hops + 1) + 2 * queue.weight hops ≤
      queue.weight hops * (queue.weight hops + 1) := by
    obtain ⟨fewer, hfewer⟩ := Nat.exists_eq_add_one_of_ne_zero (Nat.ne_zero_of_lt hhops)
    rw [hfewer] at hhops ⊢
    have hmul : queue'.weight hops * (queue'.weight hops + 1) ≤ fewer * (fewer + 1) :=
      Nat.mul_le_mul (Nat.le_of_lt_succ hhops) hhops
    have hexpand : (fewer + 1) * (fewer + 1 + 1) = fewer * (fewer + 1) + 2 * (fewer + 1) := by ring
    omega
  omega

theorem remaining_lt_of_cost (hhops : queue'.weight hops ≤ queue.weight hops)
    (hcost : queue'.weight (cost (queue'.deadline Task.isBusyReset) now') <
      queue.weight (cost (queue.deadline Task.isBusyReset) now)) :
    remaining now' queue' < remaining now queue := by
  unfold remaining
  have hsquare := Nat.mul_le_mul hhops (Nat.add_le_add_right hhops 1)
  omega

end Cost

-- A message is turned into a request, or into none.
def Relays (queue after : DelayQueue Task) : Prop :=
  after = queue ∨ ∃ due task, task.request?.isSome = true ∧ after = queue.post due task

section Relays

variable (now : Nat) (service : PopupCameraService)

theorem relays_postRequest (motorBusy : Bool) (cameraState : CameraState) :
    Relays service.mHandler (service.postRequest now motorBusy cameraState).mHandler := by
  unfold PopupCameraService.postRequest
  split
  · exact .inr ⟨now + POLL_TIME, .pollMotorBusy service.requests cameraState, rfl, rfl⟩
  · exact .inr ⟨now + 0, .motorRequest service.requests cameraState, rfl, rfl⟩

theorem relays_updateMotor (cameraState : CameraState) :
    Relays service.mHandler (service.updateMotor now cameraState).mHandler := by
  unfold PopupCameraService.updateMotor
  split
  · exact .inl rfl
  · exact relays_postRequest now service _ cameraState

theorem relays_handleCameraClosed :
    Relays service.mHandler (service.handleCameraClosed now).mHandler := by
  unfold PopupCameraService.handleCameraClosed
  split
  · exact relays_updateMotor now (service.dismiss _) .closed
  · exact relays_updateMotor now service .closed

theorem relays_handleCameraOpen (alwaysOnDialog nightMode : Bool) :
    Relays service.mHandler (service.handleCameraOpen now alwaysOnDialog nightMode).mHandler := by
  have htheme : (service.updateDialogTheme nightMode).mHandler = service.mHandler := by
    unfold PopupCameraService.updateDialogTheme
    split <;> rfl
  have hdialog : ∀ service : PopupCameraService, service.showAlertDialog.mHandler =
      service.mHandler := by
    intro service
    unfold PopupCameraService.showAlertDialog
    split
    · split <;> rfl
    · rfl
  unfold PopupCameraService.handleCameraOpen
  split
  · exact .inl ((hdialog _).trans htheme)
  · exact relays_updateMotor now service .opened

end Relays

section Relayed

variable {queue after : DelayQueue Task} (h : Relays queue after)
include h

theorem Relays.deadline_le : after.deadline Task.isBusyReset ≤ queue.deadline Task.isBusyReset := by
  apply DelayQueue.deadline_mono
  obtain rfl | ⟨due, task, htask, rfl⟩ := h
  · exact fun _ he => he
  · rw [DelayQueue.select_post_of_other]
    · exact fun _ he => he
    · cases task with
      | resetMotorBusy => cases htask
      | _ => rfl

theorem Relays.hops_le : after.weight hops ≤ queue.weight hops + 1 := by
  obtain rfl | ⟨due, task, htask, rfl⟩ := h
  · exact Nat.le_succ _
  · rw [DelayQueue.weight_post]
    cases task with
    | motorRequest request cameraState => exact Nat.le_of_eq (Nat.add_comm _ _)
    | pollMotorBusy request cameraState => exact Nat.le_of_eq (Nat.add_comm _ _)
    | _ => cases htask

theorem Relays.cost_le {deadline now : Nat} (hdeadline : deadline ≤ now + MOTOR_BUSY_TIME) :
    after.weight (cost deadline now) ≤ queue.weight (cost deadline now) + 15 := by
  obtain rfl | ⟨due, task, htask, rfl⟩ := h
  · exact Nat.le_add_right _ _
  · have hrounds := @rounds_le deadline now due hdeadline
    rw [DelayQueue.weight_post]
    cases task with
    | motorRequest request cameraState =>
        simp only [cost]
        omega
    | pollMotorBusy request cameraState =>
        simp only [cost]
        omega
    | _ => cases htask

end Relayed

-- The runnable of a request leaves at most two callbacks behind.
theorem weight_runMotorRequest {costOf : Delayed Task → Nat} {callback : Nat}
    (hreset : ∀ due, costOf ⟨due, .resetMotorBusy⟩ = callback)
    (hrestore : ∀ due, costOf ⟨due, .restoreLed⟩ = callback)
    (herror : ∀ due, costOf ⟨due, .errorDialog⟩ = callback)
    (replies : Replies) (request : Nat) (cameraState : CameraState) (s : State) :
    (finish (s.runMotorRequest replies request cameraState)).world.ended = true ∨
      (finish (s.runMotorRequest replies request cameraState)).service.mHandler.weight costOf ≤
        s.service.mHandler.weight costOf + 2 * callback := by
  obtain ⟨_, hrun⟩ | ⟨_, lit, _, _, hlit, hrun⟩ | ⟨status, _, _, hrun⟩ | ⟨failed, _, hrun⟩ :=
    runMotorRequest_cases replies request cameraState s
  · refine .inr ?_
    rw [hrun]
    change (s.service.mHandler.post _ .resetMotorBusy).weight costOf ≤ _
    rw [DelayQueue.weight_post, hreset]
    omega
  · refine .inr ?_
    have hlights : lit.service.mHandler.weight costOf ≤
        callback + s.service.mHandler.weight costOf := by
      obtain rfl | ⟨fx, leds, rfl⟩ := lightUp_ok hlit
      · exact Nat.le_add_left _ _
      · rw [← hrestore (s.now + LED_EFFECT_TIME), ← DelayQueue.weight_post]
        exact Nat.le_refl _
    rw [hrun]
    change (lit.issueMove replies cameraState).service.mHandler.weight costOf ≤ _
    rw [issueMove_handler, DelayQueue.weight_post, hreset]
    omega
  · refine .inr ?_
    rw [hrun]
    change ((s.startRequest request).endIdle status).service.mHandler.weight costOf ≤ _
    unfold endIdle
    dsimp only
    split
    · unfold State.modify PopupCameraService.showErrorDialog
      dsimp only
      split
      · exact Nat.le_add_right _ _
      · rw [PopupCameraService.postDelayed, DelayQueue.weight_post, herror]
        change callback + s.service.mHandler.weight costOf ≤ _
        omega
    · exact Nat.le_add_right _ _
  · refine .inl ?_
    rw [hrun]
    rfl

section Dispatch

variable {s after : State} {time : Nat} {replies : Replies} {task : Task}
  {rest : DelayQueue Task}

theorem step_pops (h : step s (time, .dispatch replies) = some after) :
    ∃ task rest, s.service.mHandler.pop time = some (task, rest) := by
  have hopen := (Option.ite_none_left_eq_some.mp h).2
  simp only [handle] at hopen
  split at hopen
  · exact ⟨_, _, ‹_›⟩
  · cases hopen

-- What waits behind the popped task has become no more costly.
theorem cost_rest {deadline now : Nat} (htime : s.world.now ≤ now)
    (hdeadline : deadline ≤ s.service.mHandler.deadline Task.isBusyReset) :
    rest.weight (cost deadline now) ≤
      rest.weight (cost (s.service.mHandler.deadline Task.isBusyReset) s.world.now) :=
  DelayQueue.weight_mono fun entry _ => cost_mono hdeadline htime entry

theorem deadline_rest (hpop : s.service.mHandler.pop time = some (task, rest)) :
    rest.deadline Task.isBusyReset ≤ s.service.mHandler.deadline Task.isBusyReset :=
  DelayQueue.deadline_mono fun _ he => DelayQueue.mem_pop hpop he

variable (h : Awaited s) (halive : s.world.ended = false) (htime : s.world.now ≤ time)
  (hpop : s.service.mHandler.pop time = some (task, rest))

section Popped

include htime hpop

theorem remaining_callback (hhops : ∀ due, hops ⟨due, task⟩ = 0)
    (hcost : ∀ deadline now due, cost deadline now ⟨due, task⟩ = 1) :
    remaining time rest < remaining s.world.now s.service.mHandler := by
  obtain ⟨due, _, hpopped, _⟩ := DelayQueue.weight_pop hops hpop
  obtain ⟨due', _, hpopped', _⟩ := DelayQueue.weight_pop
    (cost (s.service.mHandler.deadline Task.isBusyReset) s.world.now) hpop
  rw [hhops] at hpopped
  rw [hcost] at hpopped'
  have hrest := @cost_rest s rest _ time htime (deadline_rest hpop)
  apply remaining_lt_of_cost
  · omega
  · omega

theorem remaining_posted {request : Nat} {cameraState : CameraState} (due : Nat)
    (htask : task = .pollMotorBusy request cameraState) :
    remaining time (rest.post due (.motorRequest request cameraState)) <
      remaining s.world.now s.service.mHandler := by
  subst htask
  obtain ⟨_, _, hpopped, _⟩ := DelayQueue.weight_pop hops hpop
  obtain ⟨_, _, hpopped', _⟩ := DelayQueue.weight_pop
    (cost (s.service.mHandler.deadline Task.isBusyReset) s.world.now) hpop
  have hrelays : Relays rest (rest.post due (.motorRequest request cameraState)) :=
    .inr ⟨due, _, rfl, rfl⟩
  have hrest := @cost_rest s rest _ time htime
    (Nat.le_trans hrelays.deadline_le (deadline_rest hpop))
  apply remaining_lt_of_cost
  · rw [DelayQueue.weight_post]
    simp only [hops] at hpopped ⊢
    omega
  · rw [DelayQueue.weight_post]
    simp only [cost] at hpopped' ⊢
    omega

include h halive

theorem remaining_message {queue : DelayQueue Task} (hrelays : Relays rest queue)
    (hhops : ∀ due, hops ⟨due, task⟩ = 2) :
    remaining time queue < remaining s.world.now s.service.mHandler := by
  obtain ⟨due, _, hpopped, _⟩ := DelayQueue.weight_pop hops hpop
  obtain ⟨due', _, hpopped', _⟩ := DelayQueue.weight_pop
    (cost (s.service.mHandler.deadline Task.isBusyReset) s.world.now) hpop
  rw [hhops] at hpopped
  have hdeadline : queue.deadline Task.isBusyReset ≤
      s.service.mHandler.deadline Task.isBusyReset :=
    Nat.le_trans hrelays.deadline_le (deadline_rest hpop)
  have hbound : s.service.mHandler.deadline Task.isBusyReset ≤ s.world.now + MOTOR_BUSY_TIME :=
    DelayQueue.deadline_le (h.deadline halive)
  have hrest := @cost_rest s rest _ time htime hdeadline
  have hposted := @Relays.cost_le _ _ hrelays (queue.deadline Task.isBusyReset) time (by omega)
  have hhop := hrelays.hops_le
  apply remaining_lt_of_hop
  · omega
  · omega

-- A busy motor has a reset pending, which is due no earlier than the poll.
theorem remaining_again {request : Nat} {cameraState : CameraState}
    (htask : task = .pollMotorBusy request cameraState) (hbusy : s.service.mMotorBusy = true) :
    remaining time (rest.post (time + POLL_TIME) (.pollMotorBusy request cameraState)) <
      remaining s.world.now s.service.mHandler := by
  subst htask
  obtain ⟨_, _, hpopped, _⟩ := DelayQueue.weight_pop hops hpop
  obtain ⟨due, hdue, hpopped', hfirst⟩ := DelayQueue.weight_pop
    (cost (s.service.mHandler.deadline Task.isBusyReset) s.world.now) hpop
  have hreset : due ≤ s.service.mHandler.deadline Task.isBusyReset := by
    obtain ⟨reset, hreset⟩ := List.exists_mem_of_ne_nil _ (h.busy halive hbusy)
    have hbehind : reset ∈ rest.select Task.isBusyReset := by
      rw [DelayQueue.select_pop_of_other hpop rfl]
      exact hreset
    exact Nat.le_trans (hfirst reset (DelayQueue.mem_select.mp hbehind).1)
      (DelayQueue.le_deadline hreset)
  have hrelays : Relays rest
      (rest.post (time + POLL_TIME) (.pollMotorBusy request cameraState)) :=
    .inr ⟨_, _, rfl, rfl⟩
  have hdeadline := Nat.le_trans hrelays.deadline_le (deadline_rest hpop)
  have hrest := @cost_rest s rest _ time htime hdeadline
  have hround := Nat.lt_of_le_of_lt
    (@rounds_mono _ _ time time (time + POLL_TIME) hdeadline (Nat.le_refl _))
    (rounds_again hreset hdue htime)
  apply remaining_lt_of_cost
  · rw [DelayQueue.weight_post]
    simp only [hops] at hpopped ⊢
    omega
  · rw [DelayQueue.weight_post]
    simp only [cost] at hpopped' ⊢
    omega

end Popped

theorem remaining_request {request : Nat} {cameraState : CameraState}
    (hpop : s.service.mHandler.pop time = some (.motorRequest request cameraState, rest))
    (hafter : Awaited after) (hlives : after.world.ended = false)
    (hrun : after = finish (((s.atTime time).setHandler rest).runMotorRequest replies request
      cameraState)) :
    remaining after.world.now after.service.mHandler <
      remaining s.world.now s.service.mHandler := by
  have hposts : ∀ {costOf : Delayed Task → Nat} {callback : Nat},
      (∀ due, costOf ⟨due, .resetMotorBusy⟩ = callback) →
      (∀ due, costOf ⟨due, .restoreLed⟩ = callback) →
      (∀ due, costOf ⟨due, .errorDialog⟩ = callback) →
      after.service.mHandler.weight costOf ≤ rest.weight costOf + 2 * callback := by
    intro costOf callback hreset hrestore herror
    have hweight := weight_runMotorRequest hreset hrestore herror replies request cameraState
      ((s.atTime time).setHandler rest)
    rw [← hrun, hlives] at hweight
    exact hweight.resolve_left Bool.false_ne_true
  obtain ⟨due, _, hpopped, _⟩ := DelayQueue.weight_pop hops hpop
  obtain ⟨due', _, hpopped', _⟩ := DelayQueue.weight_pop
    (cost (s.service.mHandler.deadline Task.isBusyReset) s.world.now) hpop
  have hhops : after.service.mHandler.weight hops ≤ rest.weight hops + 2 * 0 :=
    hposts (fun _ => rfl) (fun _ => rfl) fun _ => rfl
  have hcosts := @hposts (cost (after.service.mHandler.deadline Task.isBusyReset) after.world.now)
    1 (fun _ => rfl) (fun _ => rfl) fun _ => rfl
  have hrenewed : rest.weight
      (cost (after.service.mHandler.deadline Task.isBusyReset) after.world.now) ≤
      rest.weight (cost (s.service.mHandler.deadline Task.isBusyReset) s.world.now) +
        13 * rest.weight hops := by
    rw [← DelayQueue.weight_add_mul]
    exact DelayQueue.weight_mono fun entry _ =>
      cost_renew (DelayQueue.deadline_le (hafter.deadline hlives)) entry
  simp only [hops] at hpopped
  simp only [cost] at hpopped'
  apply remaining_lt_of_hop
  · omega
  · omega

theorem remaining_lt (h : Awaited s) (hstep : step s (time, .dispatch replies) = some after)
    (hlives : after.world.ended = false) :
    remaining after.world.now after.service.mHandler <
      remaining s.world.now s.service.mHandler := by
  obtain ⟨halive, htime, _⟩ := step_effect hstep
  obtain ⟨task, rest, hpop⟩ := step_pops hstep
  have hafter := step_dispatch_some hstep hpop
  cases task with
  | msgCameraClosed =>
      subst hafter
      exact remaining_message h halive htime hpop
        (relays_handleCameraClosed time ((s.atTime time).setHandler rest).service) fun _ => rfl
  | msgCameraOpen =>
      subst hafter
      exact remaining_message h halive htime hpop
        (relays_handleCameraOpen time ((s.atTime time).setHandler rest).service _ _) fun _ => rfl
  | motorRequest request cameraState =>
      exact remaining_request hpop (h.after_step hstep) hlives hafter
  | pollMotorBusy request cameraState =>
      subst hafter
      change remaining time (((s.atTime time).setHandler rest).service.poll time request
        cameraState).mHandler < _
      unfold PopupCameraService.poll
      split
      · exact remaining_again h halive htime hpop rfl ‹_›
      · exact remaining_posted htime hpop _ rfl
  | restoreLed =>
      obtain ⟨fx, leds, hrestore | hrestore⟩ :=
        restoreLed_cases ((s.atTime time).setHandler rest) replies
      · rw [hafter, handleTask, hrestore]
        exact remaining_callback htime hpop (fun _ => rfl) fun _ _ _ => rfl
      · rw [hafter, handleTask, hrestore] at hlives
        cases hlives
  | resetMotorBusy =>
      subst hafter
      exact remaining_callback htime hpop (fun _ => rfl) fun _ _ _ => rfl
  | resetMotorCalibrating =>
      subst hafter
      exact remaining_callback htime hpop (fun _ => rfl) fun _ _ _ => rfl
  | calibrationResultDialog status =>
      subst hafter
      exact remaining_callback htime hpop (fun _ => rfl) fun _ _ _ => rfl
  | errorDialog =>
      subst hafter
      exact remaining_callback htime hpop (fun _ => rfl) fun _ _ _ => rfl

theorem remaining_pos (hpop : s.service.mHandler.pop time = some (task, rest)) (now : Nat) :
    0 < remaining now s.service.mHandler := by
  obtain ⟨_, _, hhops, _⟩ := DelayQueue.weight_pop hops hpop
  obtain ⟨_, _, hcost, _⟩ := DelayQueue.weight_pop
    (cost (s.service.mHandler.deadline Task.isBusyReset) now) hpop
  unfold remaining
  rw [hhops, hcost]
  cases task <;> simp [hops, cost]

end Dispatch

end Raphael.PopupCamera
