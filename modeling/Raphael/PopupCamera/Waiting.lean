import Raphael.PopupCamera.Awaited

namespace Raphael.PopupCamera

open State Trace

def Task.isRequest (task : Task) : Bool := task.request?.isSome

theorem isCamera_of_isRequest (task : Task) (h : task.isRequest = true) :
    task.isCamera = true := by
  cases task with
  | motorRequest request cameraState => rfl
  | pollMotorBusy request cameraState => rfl
  | _ => cases h

-- What most methods do to the requests on their way: at most one is added,
-- under a new number and due soon.
structure Accepts (now : Nat) (before after : PopupCameraService) : Prop where
  requests : before.requests ≤ after.requests
  executed : after.executed = before.executed
  entries : ∀ entry ∈ after.mHandler.select Task.isRequest,
    entry ∈ before.mHandler.select Task.isRequest ∨
      entry.item.request? = some before.requests ∧ entry.due ≤ now + POLL_TIME

namespace Accepts

variable {now : Nat} {before after : PopupCameraService}

theorem keep (hrequests : after.requests = before.requests)
    (hexecuted : after.executed = before.executed)
    (hselect : after.mHandler.select Task.isRequest = before.mHandler.select Task.isRequest) :
    Accepts now before after where
  requests := Nat.le_of_eq hrequests.symm
  executed := hexecuted
  entries _ he := .inl (hselect ▸ he)

theorem of_session (h : after.session = before.session) : Accepts now before after := by
  refine .keep (congrArg Session.requests h) (congrArg Session.executed h) ?_
  rw [← DelayQueue.filter_select isCamera_of_isRequest,
    ← DelayQueue.filter_select isCamera_of_isRequest,
    show after.mHandler.select Task.isCamera = before.mHandler.select Task.isCamera from
      congrArg Session.pending h]

theorem after_pop {s : State} {time : Nat} {task : Task} {rest : DelayQueue Task}
    (h : Accepts now (s.setHandler rest).service after)
    (hpop : s.service.mHandler.pop time = some (task, rest)) : Accepts now s.service after where
  requests := h.requests
  executed := h.executed
  entries entry he := (h.entries entry he).imp_left fun hrest => DelayQueue.mem_pop hpop hrest

variable (now) (service : PopupCameraService)

theorem postRequest (motorBusy : Bool) (cameraState : CameraState) :
    Accepts now service (service.postRequest now motorBusy cameraState) := by
  have hentries : ∀ {delay : Nat} {task : Task}, delay ≤ POLL_TIME →
      task.request? = some service.requests →
      ∀ entry ∈ (service.mHandler.post (now + delay) task).select Task.isRequest,
        entry ∈ service.mHandler.select Task.isRequest ∨
          entry.item.request? = some service.requests ∧ entry.due ≤ now + POLL_TIME := by
    intro delay task hdelay htask entry he
    obtain rfl | he := DelayQueue.mem_select_post he
    · exact .inr ⟨htask, Nat.add_le_add_left hdelay now⟩
    · exact .inl he
  cases motorBusy with
  | true => exact ⟨Nat.le_succ _, rfl, hentries (Nat.le_refl _) rfl⟩
  | false => exact ⟨Nat.le_succ _, rfl, hentries (Nat.zero_le _) rfl⟩

theorem updateMotor (cameraState : CameraState) :
    Accepts now service (service.updateMotor now cameraState) := by
  unfold PopupCameraService.updateMotor
  split
  · exact .of_session rfl
  · exact postRequest now service _ cameraState

theorem click (dialog : Nat) (raise : Bool) :
    Accepts now service (clickRaiseDialog dialog raise service now) := by
  cases raise with
  | false => exact .keep rfl rfl rfl
  | true =>
      have hposted := updateMotor now service .opened
      exact ⟨hposted.requests, hposted.executed, hposted.entries⟩

theorem cameraEvent {message opposite : Task} (hmessage : message.isRequest = false)
    (hopposite : opposite.isRequest = false) (oppositeEvent : Nat) :
    Accepts now service (service.cameraEvent now message opposite oppositeEvent) := by
  have hremove : (service.mHandler.remove (· = opposite)).select Task.isRequest =
      service.mHandler.select Task.isRequest := by
    refine DelayQueue.select_remove_of_disjoint fun task htask => ?_
    refine decide_eq_false fun heq => ?_
    rw [heq, hopposite] at htask
    cases htask
  unfold PopupCameraService.cameraEvent
  split
  · exact .keep rfl rfl ((DelayQueue.select_post_of_other hmessage).trans hremove)
  · exact .keep rfl rfl (DelayQueue.select_post_of_other hmessage)

theorem onCameraClosed (cameraId : String) :
    Accepts now service (service.onCameraClosed now cameraId) := by
  unfold PopupCameraService.onCameraClosed
  split
  · have hevent := cameraEvent now { service with mClosedEvent := now }
      (rfl : Task.msgCameraClosed.isRequest = false)
      (rfl : Task.msgCameraOpen.isRequest = false) service.mOpenEvent
    exact ⟨hevent.requests, hevent.executed, hevent.entries⟩
  · exact .of_session rfl

theorem onCameraOpened (cameraId : String) :
    Accepts now service (service.onCameraOpened now cameraId) := by
  unfold PopupCameraService.onCameraOpened
  split
  · have hevent := cameraEvent now { service with mOpenEvent := now }
      (rfl : Task.msgCameraOpen.isRequest = false)
      (rfl : Task.msgCameraClosed.isRequest = false) service.mClosedEvent
    exact ⟨hevent.requests, hevent.executed, hevent.entries⟩
  · exact .of_session rfl

theorem handleCameraClosed : Accepts now service (service.handleCameraClosed now) := by
  unfold PopupCameraService.handleCameraClosed
  cases service.mAlertDialog with
  | none => exact updateMotor now service .closed
  | some dialog =>
      have hposted := updateMotor now (service.dismiss dialog) .closed
      exact ⟨hposted.requests, hposted.executed, hposted.entries⟩

theorem handleCameraOpen (alwaysOnDialog nightMode : Bool) :
    Accepts now service (service.handleCameraOpen now alwaysOnDialog nightMode) := by
  unfold PopupCameraService.handleCameraOpen
  split
  · unfold PopupCameraService.showAlertDialog PopupCameraService.updateDialogTheme
    split <;> split <;> first | exact .keep rfl rfl rfl | split <;> exact .keep rfl rfl rfl
  · exact updateMotor now service .opened

end Accepts

-- The turns of the requests: one is accepted, polls again or is executed.
inductive Turn (time : Nat) (s after : State) : Prop
  | accepts (h : Accepts time s.service after.service)
  | polls {request : Nat} {cameraState : CameraState} {rest : DelayQueue Task}
      (hpop : s.service.mHandler.pop time = some (.pollMotorBusy request cameraState, rest))
      (hservice : after.service = (s.setHandler rest).service.poll time request cameraState)
  | executes {request : Nat} {cameraState : CameraState} {rest : DelayQueue Task}
      (hpop : s.service.mHandler.pop time = some (.motorRequest request cameraState, rest))
      (hsession : after.service.session =
        ((s.setHandler rest).startRequest request).service.session)

theorem step_turn {s after : State} {time : Nat} {event : Event}
    (hstep : step s (time, event) = some after) : Turn time s after := by
  cases step_sessionEffect hstep with
  | quiet _ hsession => exact .accepts (.of_session hsession)
  | quietTask _ _ hsession => exact .accepts (.of_session hsession)
  | create _ hsession =>
      have hcreated : Accepts time { s.service with lifecycle := .created } after.service :=
        .of_session hsession
      exact .accepts ⟨hcreated.requests, hcreated.executed, hcreated.entries⟩
  | destroy _ => exact .accepts (.keep rfl rfl rfl)
  | pressed hsession =>
      have hpressed : Accepts time
          { s.service with notifying := some (.requesting s.service.mMotorBusy) } after.service :=
        .of_session hsession
      exact .accepts ⟨hpressed.requests, hpressed.executed, hpressed.entries⟩
  | cameraClosed cameraId => exact .accepts (.onCameraClosed time s.service cameraId)
  | cameraOpened cameraId => exact .accepts (.onCameraOpened time s.service cameraId)
  | @notifyPost motorBusy _ =>
      have hposted :=
        Accepts.postRequest time { s.service with notifying := none } motorBusy .closed
      exact .accepts ⟨hposted.requests, hposted.executed, hposted.entries⟩
  | @click dialog raise _ => exact .accepts (.click time s.service dialog raise)
  | handleClosed replies hpop =>
      exact .accepts ((Accepts.handleCameraClosed time _).after_pop hpop)
  | handleOpen replies hpop =>
      exact .accepts ((Accepts.handleCameraOpen time _ _ _).after_pop hpop)
  | poll replies hpop => exact .polls hpop rfl
  | execute hpop hsession => exact .executes hpop hsession

namespace Turn

variable {time : Nat} {s after : State} (h : Turn time s after)
include h

theorem requests_le : s.service.requests ≤ after.service.requests := by
  cases h with
  | accepts h => exact h.requests
  | @polls request cameraState rest hpop hservice =>
      rw [hservice]
      unfold PopupCameraService.poll
      split <;> exact Nat.le_refl _
  | executes hpop hsession => exact Nat.le_of_eq (congrArg Session.requests hsession).symm

theorem executed_le : s.service.executed.length ≤ after.service.executed.length := by
  cases h with
  | accepts h => exact Nat.le_of_eq (congrArg List.length h.executed).symm
  | @polls request cameraState rest hpop hservice =>
      rw [hservice]
      unfold PopupCameraService.poll
      split <;> exact Nat.le_refl _
  | executes hpop hsession =>
      rw [show after.service.executed = _ from congrArg Session.executed hsession]
      exact Nat.le_succ _

-- Where the tasks of the requests come from.
theorem entries_cases {entry : Delayed Task}
    (he : entry ∈ after.service.mHandler.select Task.isRequest) :
    entry ∈ s.service.mHandler.select Task.isRequest ∨
      entry.item.request? = some s.service.requests ∧ entry.due ≤ time + POLL_TIME ∨
      ∃ polled ∈ s.service.mHandler.select Task.isRequest,
        polled.item.request? = entry.item.request? ∧
        (entry.due = time ∨ s.service.mMotorBusy = true ∧ entry.due = time + POLL_TIME) := by
  cases h with
  | accepts h => exact (h.entries entry he).imp_right .inl
  | @polls request cameraState rest hpop hservice =>
      obtain ⟨due, hdue, hselect⟩ := DelayQueue.select_pop Task.isRequest hpop rfl
      have hpolled : ⟨due, .pollMotorBusy request cameraState⟩ ∈
          s.service.mHandler.select Task.isRequest := hselect ▸ List.mem_cons_self
      rw [hservice] at he
      unfold PopupCameraService.poll at he
      split at he
      · rename_i hbusy
        obtain rfl | he := DelayQueue.mem_select_post he
        · exact .inr (.inr ⟨_, hpolled, rfl, .inr ⟨hbusy, rfl⟩⟩)
        · exact .inl (DelayQueue.mem_pop hpop he)
      · obtain rfl | he := DelayQueue.mem_select_post he
        · exact .inr (.inr ⟨_, hpolled, rfl, .inl rfl⟩)
        · exact .inl (DelayQueue.mem_pop hpop he)
  | @executes request cameraState rest hpop hsession =>
      have hselect : after.service.mHandler.select Task.isRequest = rest.select Task.isRequest := by
        rw [← DelayQueue.filter_select isCamera_of_isRequest,
          ← DelayQueue.filter_select isCamera_of_isRequest,
          show after.service.mHandler.select Task.isCamera = rest.select Task.isCamera from
            congrArg Session.pending hsession]
      rw [hselect] at he
      exact .inl (DelayQueue.mem_pop hpop he)

end Turn

-- Until its busy window ends, the flag stays up; a new window begins with a
-- request that is executed.
theorem motorBusy_cases {s after : State} {time : Nat} {event : Event}
    (hstep : step s (time, event) = some after) (halive : after.world.ended = false)
    (hbusy : after.service.mMotorBusy = true) :
    s.service.mMotorBusy = true ∧
        after.service.mHandler.select Task.isBusyReset =
          s.service.mHandler.select Task.isBusyReset ∨
      after.service.executed.length = s.service.executed.length + 1 ∧
        ⟨time + MOTOR_BUSY_TIME, .resetMotorBusy⟩ ∈
          after.service.mHandler.select Task.isBusyReset := by
  obtain ⟨_, _, heffect⟩ := step_effect hstep
  cases heffect with
  | keeps hservice _ => exact .inl ⟨hservice.motorBusy ▸ hbusy, hservice.isBusyReset⟩
  | ends hends =>
      rw [hends.ended] at halive
      cases halive
  | create hservice _ _ _ => exact .inl ⟨hservice.motorBusy ▸ hbusy, hservice.isBusyReset⟩
  | freeFall succeeds => cases succeeds <;> exact .inl ⟨hbusy, rfl⟩
  | calibrate succeeds _ hservice _ =>
      exact .inl ⟨hservice.motorBusy ▸ hbusy,
        (DelayQueue.select_post_of_other rfl).trans hservice.isBusyReset⟩
  | remoteException _ _ => exact .inr ⟨rfl, DelayQueue.mem_select_post_self rfl⟩
  | @moved replies request cameraState rest status lit _ _ _ hlit =>
      have hlights := lightUp_lightsOnly hlit
      have hexecuted : (lit.issueMove replies cameraState).service.executed =
          request :: s.service.executed :=
        congrArg Session.executed ((session_issueMove replies cameraState lit).trans
          hlights.session)
      refine .inr ⟨by rw [hexecuted, List.length_cons], ?_⟩
      rw [issueMove_handler, show lit.now = time from hlights.now]
      exact DelayQueue.mem_select_post_self rfl
  | idle _ _ _ =>
      rw [(endIdle_keeps _ _).motorBusy] at hbusy
      cases hbusy
  | resetMotorBusy _ => cases hbusy
  | resetMotorCalibrating hpop => exact .inl ⟨hbusy, DelayQueue.select_pop_of_other hpop rfl⟩
  | restoreLed hpop hrestore =>
      have hlights := restoreLed_lightsOnly hrestore
      exact .inl ⟨hlights.motorBusy ▸ hbusy,
        (hlights.select _ rfl).trans (DelayQueue.select_pop_of_other hpop rfl)⟩

-- A prompt looper runs each task when it is due: nothing happens later than
-- that as long as the task is pending.
def Prompt (s : State) (event : Nat × Event) : Prop :=
  ∀ entry ∈ s.service.mHandler.entries, event.1 ≤ entry.due

instance (s : State) (event : Nat × Event) : Decidable (Prompt s event) :=
  inferInstanceAs (Decidable (∀ entry ∈ s.service.mHandler.entries, event.1 ≤ entry.due))

def Waits (request : Nat) (service : PopupCameraService) (entry : Delayed Task) : Prop :=
  entry ∈ service.mHandler.select Task.isRequest ∧ entry.item.request? = some request

-- When a request has its turn at the latest that has been waiting since the
-- first requests were executed.
def turnDue (since first : Nat) (service : PopupCameraService) : Nat :=
  since + (service.executed.length - first + 1) * (MOTOR_BUSY_TIME + POLL_TIME)

structure WaitsItsTurn (request since first : Nat) (s : State) : Prop where
  accepted : request < s.service.requests
  executed : first ≤ s.service.executed.length
  due : ∀ entry, Waits request s.service entry → entry.due ≤ turnDue since first s.service
  busy : s.world.ended = false → s.service.mMotorBusy = true →
    ∀ entry, Waits request s.service entry →
      ∃ reset ∈ s.service.mHandler.select Task.isBusyReset,
        reset.due + POLL_TIME ≤ turnDue since first s.service

section Step

variable {s after : State} {time : Nat} {event : Event}

theorem turnDue_mono (since first : Nat) (h : Turn time s after) :
    turnDue since first s.service ≤ turnDue since first after.service := by
  have hexecuted := h.executed_le
  have hfactor : s.service.executed.length - first + 1 ≤
      after.service.executed.length - first + 1 := by omega
  exact Nat.add_le_add_left (Nat.mul_le_mul_right _ hfactor) since

-- What waits has waited before, if it is not new.
theorem Waits.before {request : Nat} {entry : Delayed Task} (h : Waits request after.service entry)
    (hturn : Turn time s after) (haccepted : request < s.service.requests) :
    ∃ earlier, Waits request s.service earlier ∧ (earlier = entry ∨ entry.due = time ∨
      s.service.mMotorBusy = true ∧ entry.due = time + POLL_TIME) := by
  obtain ⟨he, hfor⟩ := h
  obtain hold | ⟨hnew, _⟩ | ⟨polled, hpolled, hsame, hdue⟩ := hturn.entries_cases he
  · exact ⟨entry, ⟨hold, hfor⟩, .inl rfl⟩
  · obtain rfl := Option.some.inj (hnew.symm.trans hfor)
    exact absurd haccepted (Nat.lt_irrefl _)
  · exact ⟨polled, ⟨hpolled, hsame.trans hfor⟩, .inr hdue⟩

theorem WaitsItsTurn.after_step {request since first : Nat}
    (h : WaitsItsTurn request since first s) (hprompt : Prompt s (time, event))
    (hstep : step s (time, event) = some after) : WaitsItsTurn request since first after := by
  obtain ⟨halive, _, _⟩ := step_effect hstep
  have hturn := step_turn hstep
  have hmono := turnDue_mono since first hturn
  have hontime : ∀ {kind : Task → Bool}, ∀ entry ∈ s.service.mHandler.select kind,
      time ≤ entry.due :=
    fun entry he => hprompt entry (DelayQueue.mem_select.mp he).1
  refine ⟨Nat.lt_of_lt_of_le h.accepted hturn.requests_le,
    Nat.le_trans h.executed hturn.executed_le, fun entry hwaits => ?_,
    fun hlives hbusy entry hwaits => ?_⟩
  · obtain ⟨earlier, hearlier, rfl | hdue | ⟨hbusy, hdue⟩⟩ := hwaits.before hturn h.accepted
    · exact Nat.le_trans (h.due _ hearlier) hmono
    · have hturned := h.due _ hearlier
      have htime := hontime earlier hearlier.1
      omega
    · -- The flag was up, so its reset comes, and this poll comes no later.
      obtain ⟨reset, hreset, hresetDue⟩ := h.busy halive hbusy earlier hearlier
      have htime := hontime reset hreset
      omega
  · obtain ⟨earlier, hearlier, _⟩ := hwaits.before hturn h.accepted
    obtain ⟨hwas, hselect⟩ | ⟨hexecuted, hreset⟩ := motorBusy_cases hstep hlives hbusy
    · obtain ⟨reset, hreset, hresetDue⟩ := h.busy halive hwas earlier hearlier
      exact ⟨reset, hselect ▸ hreset, Nat.le_trans hresetDue hmono⟩
    · -- Another request has its turn, while this one was not due.
      refine ⟨_, hreset, ?_⟩
      have hturned := h.due _ hearlier
      have htime := hontime earlier hearlier.1
      have hfirst := h.executed
      unfold turnDue at hturned ⊢
      rw [hexecuted]
      simp only [MOTOR_BUSY_TIME, POLL_TIME] at hturned ⊢
      omega

-- A task of a request is due soon after it has been posted.
def DueSoon (s : State) : Prop :=
  ∀ entry ∈ s.service.mHandler.select Task.isRequest, entry.due ≤ s.world.now + POLL_TIME

theorem DueSoon.after_step (h : DueSoon s) (hstep : step s (time, event) = some after) :
    DueSoon after := by
  obtain ⟨_, htime, heffect⟩ := step_effect hstep
  have hnow : time ≤ after.world.now := heffect.now_le
  intro entry he
  obtain hold | ⟨_, hdue⟩ | ⟨_, _, _, hdue | ⟨_, hdue⟩⟩ := (step_turn hstep).entries_cases he
  · have hsoon := h entry hold
    omega
  · omega
  · omega
  · omega

end Step

theorem waits_of_mem_collect {request : Nat} {service : PopupCameraService} :
    request ∈ service.mHandler.collect Task.request? ↔ ∃ entry, Waits request service entry := by
  rw [DelayQueue.collect, List.mem_filterMap]
  refine exists_congr fun entry => ?_
  rw [Waits, DelayQueue.mem_select, and_assoc]
  refine and_congr_right fun _ => (and_iff_right_of_imp fun hfor => ?_).symm
  exact Option.isSome_iff_exists.mpr ⟨request, hfor⟩

theorem EachOnce.accepted {service : PopupCameraService} (h : EachOnce service) {request : Nat}
    (hwaits : request ∈ service.mHandler.collect Task.request?) : request < service.requests := by
  have honce := h request
  have hcount := List.count_pos_iff.mpr hwaits
  by_contra hnew
  rw [if_neg hnew, PopupCameraService.copies] at honce
  omega

-- No request is left behind: while a prompt looper has a request waiting, it
-- makes the request wait no longer than a busy window and a poll, and as long
-- again for each request that is executed before it.
theorem requests_wait_their_turn {owner : Owner} {now : Nat} {leds : Leds}
    {events waited : List (Nat × Event)} {s final : State} {request time : Nat} {event : Event}
    (hreach : run step (constructed owner now leds) events = some s)
    (hwaits : request ∈ s.service.mHandler.collect Task.request?)
    (hprompt : Along step Prompt s (waited ++ [(time, event)]))
    (hrun : run step s waited = some final)
    (hstill : request ∈ final.service.mHandler.collect Task.request?) :
    time ≤ s.world.now + (final.service.executed.length - s.service.executed.length + 1) *
      (MOTOR_BUSY_TIME + POLL_TIME) := by
  have hempty : DueSoon (constructed owner now leds) := fun _ he => nomatch he
  obtain ⟨hawaited, hsoon, honce⟩ : Awaited s ∧ DueSoon s ∧ EachOnce s.service :=
    run_invariant step (fun s => Awaited s ∧ DueSoon s ∧ EachOnce s.service)
      (fun _ _ _ hs _ hstep => ⟨hs.1.after_step hstep, hs.2.1.after_step hstep,
        hs.2.2.after_step hstep⟩)
      ⟨constructed_awaited owner now leds, hempty, fun _ => rfl⟩ (along_true step _ events) hreach
  have hfirst : turnDue s.world.now s.service.executed.length s.service =
      s.world.now + (MOTOR_BUSY_TIME + POLL_TIME) := by
    rw [turnDue, Nat.sub_self, Nat.zero_add, Nat.one_mul]
  have hstart : WaitsItsTurn request s.world.now s.service.executed.length s := by
    refine ⟨honce.accepted hwaits, Nat.le_refl _, fun entry he => ?_, fun halive hbusy _ _ => ?_⟩
    · have hdue := hsoon entry he.1
      omega
    · obtain ⟨reset, hreset⟩ := List.exists_mem_of_ne_nil _ (hawaited.busy halive hbusy)
      have hdue := hawaited.deadline halive reset hreset
      exact ⟨reset, hreset, by omega⟩
  have hfinal : WaitsItsTurn request s.world.now s.service.executed.length final :=
    run_invariant step (WaitsItsTurn request s.world.now s.service.executed.length)
      (fun _ _ _ h hguard hstep => h.after_step hguard hstep) hstart hprompt.of_append hrun
  obtain ⟨entry, hentry⟩ := waits_of_mem_collect.mp hstill
  have htime := hprompt.at_end step hrun entry (DelayQueue.mem_select.mp hentry.1).1
  exact Nat.le_trans htime (hfinal.due entry hentry)

-- The request of a close event that comes while the camera rises: it polls
-- until the busy window is over.
def closedWhileRising : List (Nat × Event) :=
  openedOnce ++ [(1600, .onCameraClosed "1"), (1700, .dispatch {})]

def polled : List (Nat × Event) :=
  [(1800, .dispatch {}), (1900, .dispatch {}), (2000, .dispatch {}), (2100, .dispatch {}),
    (2200, .dispatch {}), (2300, .dispatch {}), (2300, .dispatch {})]

theorem requests_wait_their_turn_closedWhileRising :
    ∃ s final, run step (constructed .system 0 .dark) closedWhileRising = some s ∧
      run step s polled = some final ∧ 1 ∈ final.service.mHandler.collect Task.request? ∧
      2300 ≤ s.world.now + (final.service.executed.length - s.service.executed.length + 1) *
        (MOTOR_BUSY_TIME + POLL_TIME) := by
  have hchecked : (run step (constructed .system 0 .dark) closedWhileRising).any (fun s =>
      1 ∈ s.service.mHandler.collect Task.request? &&
        along? step (fun s event => Prompt s event) s (polled ++ [(2300, .dispatch {})]) &&
        (run step s polled).any fun final =>
          1 ∈ final.service.mHandler.collect Task.request?) = true := by decide +kernel
  obtain ⟨s, hreach, hs⟩ := (Option.any_eq_true _ _).mp hchecked
  simp only [Bool.and_eq_true, decide_eq_true_eq] at hs
  obtain ⟨⟨hwaits, halong⟩, hpolled⟩ := hs
  obtain ⟨final, hrun, hstill⟩ := (Option.any_eq_true _ _).mp hpolled
  have hstill := of_decide_eq_true hstill
  exact ⟨s, final, hreach, hrun, hstill, requests_wait_their_turn hreach hwaits
    (along_of_check step Prompt _ (fun _ _ h => of_decide_eq_true h) halong) hrun hstill⟩

end Raphael.PopupCamera
