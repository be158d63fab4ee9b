import Raphael.PopupCamera.Awaited
import Raphael.PopupCamera.RaiseDialog
import Raphael.Trace.Progress

namespace Raphael.PopupCamera

open State Trace

-- The motor commands that answer an event of the front camera or a press.
def Command.answers (cameraState : CameraState) (command : Command) : Bool :=
  match cameraState with
  | .opened => command.call = .popupMotor
  | .closed => command.call = .takebackMotor ∧ command.issuer = .updateMotor

def answered (cameraState : CameraState) (log : List Command) : Nat :=
  log.countP (·.answers cameraState)

-- How many tasks on their way carry a state.
def carrying (carried : Task → Option CameraState) (cameraState : CameraState)
    (service : PopupCameraService) : Nat :=
  (service.mHandler.collect carried).count cameraState

section Carrying

variable {carried : Task → Option CameraState} (cameraState : CameraState)

theorem carrying_of_session (hcamera : ∀ task, (carried task).isSome = true → task.isCamera = true)
    {before after : PopupCameraService} (h : after.session = before.session) :
    carrying carried cameraState after = carrying carried cameraState before := by
  have hpending : after.mHandler.select Task.isCamera = before.mHandler.select Task.isCamera :=
    congrArg Session.pending h
  rw [carrying, carrying, DelayQueue.collect_eq_select, DelayQueue.collect_eq_select,
    ← DelayQueue.filter_select hcamera, ← DelayQueue.filter_select hcamera, hpending]

theorem carrying_postDelayed (now : Nat) (service : PopupCameraService) {task : Task}
    {state : CameraState} (htask : carried task = some state) (delay : Nat) :
    carrying carried cameraState (service.postDelayed now task delay) =
      carrying carried cameraState service + if state = cameraState then 1 else 0 := by
  have hperm : ((service.postDelayed now task delay).mHandler.collect carried).Perm
      (state :: service.mHandler.collect carried) :=
    DelayQueue.collect_post_perm carried htask
  rw [carrying, carrying, hperm.count_eq, List.count_cons]
  simp only [beq_iff_eq]

theorem carrying_setHandler (carried : Task → Option CameraState) {s : State} {time : Nat}
    {task : Task} {rest : DelayQueue Task}
    (hpop : s.service.mHandler.pop time = some (task, rest)) :
    carrying carried cameraState s.service =
      carrying carried cameraState (s.setHandler rest).service +
        if carried task = some cameraState then 1 else 0 := by
  have hcollect : s.service.mHandler.collect carried =
      (carried task).toList ++ rest.collect carried := DelayQueue.collect_pop hpop
  rw [carrying, carrying, hcollect, List.count_append, Nat.add_comm]
  cases carried task with
  | none => rfl
  | some state =>
      rw [Option.toList_some, List.count_singleton]
      simp only [beq_iff_eq, Option.some.injEq]
      rfl

end Carrying

section InFlight

variable (now : Nat) (service : PopupCameraService) (cameraState : CameraState)

end InFlight

section Pop

variable {s : State} {task : Task} {rest : DelayQueue Task} (cameraState : CameraState)
  (hpop : s.service.mHandler.pop s.now = some (task, rest))
include hpop

end Pop

section Step

variable {s after : State} {time : Nat} {event : Event} (cameraState : CameraState)

theorem answered_cons (command : Command) (log : List Command) :
    answered cameraState (command :: log) =
      answered cameraState log + if command.answers cameraState then 1 else 0 :=
  List.countP_cons

-- A motor command that counts is issued by the runnable that it takes out of
-- flight.
theorem Effect.answered (h : Effect s event after) :
    answered cameraState after.world.log = answered cameraState s.world.log ∨
      ∃ request carried rest, s.service.mHandler.pop s.now =
          some (.motorRequest request carried, rest) ∧
        after.service.session = ((s.setHandler rest).startRequest request).service.session ∧
        answered cameraState after.world.log = answered cameraState s.world.log +
          if carried = cameraState then 1 else 0 := by
  cases h with
  | keeps _ hworld => exact .inl (by rw [hworld])
  | ends hends => exact .inl (by rw [hends.log])
  | create _ hlog _ _ =>
      refine .inl ?_
      obtain hlog | ⟨succeeded, hlog⟩ := hlog
      · rw [hlog]
      · rw [hlog, answered_cons]
        cases cameraState <;> rfl
  | freeFall succeeds =>
      refine .inl ?_
      cases succeeds <;> cases cameraState <;> rfl
  | calibrate succeeds _ _ _ => cases cameraState <;> exact .inl rfl
  | remoteException _ _ => exact .inl rfl
  | @moved replies request carried rest status lit hpop _ _ hlit =>
      have hlights := lightUp_lightsOnly hlit
      refine .inr ⟨request, carried, rest, hpop,
        (session_issueMove replies carried lit).trans hlights.session, ?_⟩
      rw [issueMove_world, answered_cons, hlights.log]
      cases carried <;> cases cameraState <;> rfl
  | idle _ _ _ =>
      rw [endIdle_world]
      exact .inl rfl
  | resetMotorBusy _ => exact .inl rfl
  | resetMotorCalibrating _ => exact .inl rfl
  | restoreLed _ hrestore => exact .inl (by rw [(restoreLed_lightsOnly hrestore).log]; rfl)

end Step

end Raphael.PopupCamera
