import Raphael.Debounce
import Raphael.PopupCamera.LastEvent
import Raphael.PopupCamera.Session

namespace Raphael.PopupCamera

open State Trace

def cameraMessage : CameraState → Task
  | .closed => .msgCameraClosed
  | .opened => .msgCameraOpen

def Task.isMessage (task : Task) : Bool := task.message?.isSome

-- The camera message that an event makes the handler handle.
def handledMessage (s : State) : Nat × Event → Option CameraState
  | (time, .dispatch _) => (s.service.mHandler.pop time).bind fun popped => popped.1.message?
  | _ => none

theorem handledMessage_pop {s : State} {time : Nat} {task : Task} {rest : DelayQueue Task}
    (replies : Replies) (hpop : s.service.mHandler.pop time = some (task, rest)) :
    handledMessage s (time, .dispatch replies) = task.message? := by
  rw [handledMessage, hpop]
  rfl

-- The observer knows which camera event has happened, and which message the
-- handler has handled.
def debounce (s : State) (event : Nat × Event) (d : Debouncer CameraState) :
    Debouncer CameraState :=
  match frontEvent event.2, handledMessage s event with
  | some cameraState, _ => d.send CAMERA_EVENT_DELAY_TIME event.1 cameraState
  | none, some cameraState => d.handle cameraState
  | none, none => d.skip

def queued (message : Sent CameraState) : Delayed Task :=
  ⟨message.time + CAMERA_EVENT_DELAY_TIME, cameraMessage message.kind⟩

-- The camera messages in the queue are those that wait in the debouncer.
structure Debounces (service : PopupCameraService) (d : Debouncer CameraState) : Prop where
  pending : service.mHandler.select Task.isMessage = d.pending.map queued
  opened : d.latest .opened = service.mOpenEvent
  closed : d.latest .closed = service.mClosedEvent

theorem messages_requestKeeps : RequestKeeps fun service : PopupCameraService =>
    (service.mHandler.select Task.isMessage, service.mOpenEvent, service.mClosedEvent) := by
  refine ⟨fun now service task delay htask => ?_, fun _ _ => rfl⟩
  have hother : task.isMessage = false := by
    cases task with
    | msgCameraClosed => cases htask
    | msgCameraOpen => cases htask
    | _ => rfl
  exact congrArg (fun messages => (messages, service.mOpenEvent, service.mClosedEvent))
    (DelayQueue.select_post_of_other hother)

theorem message_cameraMessage (cameraState : CameraState) :
    (cameraMessage cameraState).message? = some cameraState := by
  cases cameraState <;> rfl

theorem cameraMessage_injective {first second : CameraState}
    (h : cameraMessage first = cameraMessage second) : first = second := by
  have hmessage := congrArg Task.message? h
  rw [message_cameraMessage, message_cameraMessage] at hmessage
  exact Option.some.inj hmessage

namespace Debounces

variable {before after service : PopupCameraService} {d : Debouncer CameraState}

theorem keep (h : Debounces before d)
    (hmessages : (after.mHandler.select Task.isMessage, after.mOpenEvent, after.mClosedEvent) =
      (before.mHandler.select Task.isMessage, before.mOpenEvent, before.mClosedEvent)) :
    Debounces after d := by
  simp only [Prod.mk.injEq] at hmessages
  obtain ⟨hpending, hopened, hclosed⟩ := hmessages
  exact ⟨hpending.trans h.pending, h.opened.trans hopened.symm, h.closed.trans hclosed.symm⟩

theorem of_session (h : Debounces before d) (hsession : after.session = before.session) :
    Debounces after d := by
  have hcamera : ∀ task : Task, task.isMessage = true → task.isCamera = true := by
    intro task htask
    cases task with
    | msgCameraClosed => rfl
    | msgCameraOpen => rfl
    | _ => cases htask
  have hpending : after.mHandler.select Task.isCamera = before.mHandler.select Task.isCamera :=
    congrArg Session.pending hsession
  have hmessages : after.mHandler.select Task.isMessage =
      before.mHandler.select Task.isMessage := by
    rw [← DelayQueue.filter_select hcamera, hpending, DelayQueue.filter_select hcamera]
  exact h.keep (congr (congrArg Prod.mk hmessages) (congrArg (fun session : Session =>
    (session.mOpenEvent, session.mClosedEvent)) hsession))

section Methods

variable (now : Nat) (h : Debounces service d)
include h

theorem updateMotor (cameraState : CameraState) :
    Debounces (service.updateMotor now cameraState) d :=
  h.keep (messages_requestKeeps.updateMotor now service cameraState)

theorem dismiss (dialog : Nat) : Debounces (service.dismiss dialog) d :=
  ⟨h.pending, h.opened, h.closed⟩

theorem click (dialog : Nat) (raise : Bool) :
    Debounces (clickRaiseDialog dialog raise service now) d := by
  cases raise with
  | false => exact h.dismiss dialog
  | true => exact (h.updateMotor now .opened).dismiss dialog

theorem handleCameraClosed : Debounces (service.handleCameraClosed now) d := by
  unfold PopupCameraService.handleCameraClosed
  apply Debounces.updateMotor
  split
  · exact h.dismiss _
  · exact h

theorem handleCameraOpen (alwaysOnDialog nightMode : Bool) :
    Debounces (service.handleCameraOpen now alwaysOnDialog nightMode) d := by
  have htheme : Debounces (service.updateDialogTheme nightMode) d := by
    unfold PopupCameraService.updateDialogTheme
    split
    · exact ⟨h.pending, h.opened, h.closed⟩
    · exact h
  unfold PopupCameraService.handleCameraOpen
  split
  · unfold PopupCameraService.showAlertDialog
    split
    · split
      · exact htheme
      · exact ⟨htheme.pending, htheme.opened, htheme.closed⟩
    · exact ⟨htheme.pending, htheme.opened, htheme.closed⟩
  · exact h.updateMotor now .opened

end Methods

end Debounces

section CameraEvent

variable {now : Nat} {service : PopupCameraService} {d : Debouncer CameraState}
  {cameraState other : CameraState}

-- Which of the waiting messages stay depends on the time of the opposite event.
theorem keeps_iff {message : Sent CameraState}
    (hother : ∀ kind, kind ≠ cameraState ↔ kind = other) :
    d.keeps CAMERA_EVENT_DELAY_TIME now cameraState message = true ↔
      (cameraMessage message.kind = cameraMessage other →
        ¬now - d.latest other < CAMERA_EVENT_DELAY_TIME) := by
  rw [Debouncer.keeps, Bool.or_eq_true, decide_eq_true_eq, decide_eq_true_eq]
  constructor
  · rintro (hsame | hlong) hopposite
    · exact absurd hsame ((hother _).mpr (cameraMessage_injective hopposite))
    · rw [← cameraMessage_injective hopposite]
      exact Nat.not_lt.mpr hlong
  · intro h
    by_cases hsame : message.kind = cameraState
    · exact .inl hsame
    · have hkind := (hother _).mp hsame
      rw [hkind] at h ⊢
      exact .inr (Nat.not_lt.mp (h rfl))

-- The end of both callbacks drops the messages that the debouncer drops.
theorem cameraEvent_pending
    (hpending : service.mHandler.select Task.isMessage = d.pending.map queued)
    (hrecent : ∀ message ∈ d.pending, message.time ≤ now)
    (hother : ∀ kind, kind ≠ cameraState ↔ kind = other) :
    (service.cameraEvent now (cameraMessage cameraState) (cameraMessage other)
        (d.latest other)).mHandler.select Task.isMessage =
      (d.send CAMERA_EVENT_DELAY_TIME now cameraState).pending.map queued := by
  have hmessage : (cameraMessage cameraState).isMessage = true := by
    rw [Task.isMessage, message_cameraMessage]
    rfl
  have hdue : ∀ entry ∈ (d.pending.filter
      (d.keeps CAMERA_EVENT_DELAY_TIME now cameraState)).map queued,
      entry.due ≤ now + CAMERA_EVENT_DELAY_TIME := by
    intro entry hentry
    obtain ⟨message, hm, rfl⟩ := List.mem_map.mp hentry
    exact Nat.add_le_add_right (hrecent message (List.mem_of_mem_filter hm)) _
  have hpost : ∀ queue : DelayQueue Task, queue.select Task.isMessage =
      (d.pending.filter (d.keeps CAMERA_EVENT_DELAY_TIME now cameraState)).map queued →
      (queue.post (now + CAMERA_EVENT_DELAY_TIME) (cameraMessage cameraState)).select
        Task.isMessage = (d.send CAMERA_EVENT_DELAY_TIME now cameraState).pending.map queued := by
    intro queue hqueue
    rw [DelayQueue.select_post_last hmessage (hqueue ▸ hdue), hqueue, Debouncer.send,
      List.map_append]
    rfl
  unfold PopupCameraService.cameraEvent
  split
  · rename_i hdrops
    apply hpost
    rw [DelayQueue.select_remove, hpending, List.filter_map]
    refine congrArg (List.map queued) (List.filter_congr fun message _ => ?_)
    rw [Bool.eq_iff_iff, keeps_iff hother, Function.comp_apply, Bool.not_eq_true',
      decide_eq_false_iff_not]
    exact ⟨fun h hopposite => absurd hopposite h, fun h hopposite => h hopposite hdrops.1⟩
  · rename_i hstays
    apply hpost
    rw [hpending, List.filter_eq_self.mpr fun message hm => ?_]
    refine (keeps_iff hother).mpr fun hopposite hshort => hstays ⟨hshort, ?_⟩
    have hentry : queued message ∈ service.mHandler.select Task.isMessage :=
      hpending ▸ List.mem_map_of_mem hm
    exact List.any_eq_true.mpr ⟨queued message, (DelayQueue.mem_select.mp hentry).1,
      decide_eq_true hopposite⟩

end CameraEvent

theorem Debounces.onCameraClosed {now : Nat} {service : PopupCameraService}
    {d : Debouncer CameraState} (h : Debounces service d)
    (hrecent : ∀ message ∈ d.pending, message.time ≤ now) :
    Debounces (service.onCameraClosed now FRONT_CAMERA_ID)
      (d.send CAMERA_EVENT_DELAY_TIME now .closed) := by
  have hother : ∀ kind, kind ≠ CameraState.closed ↔ kind = .opened := by
    intro kind
    cases kind <;> decide
  have hevent : { service with mClosedEvent := now }.mHandler.select Task.isMessage =
      d.pending.map queued := h.pending
  have hpending := cameraEvent_pending hevent hrecent hother
  rw [h.opened] at hpending
  rw [PopupCameraService.onCameraClosed, if_pos rfl]
  refine ⟨hpending, ?_, ?_⟩
  · unfold PopupCameraService.cameraEvent
    split <;> exact h.opened
  · unfold PopupCameraService.cameraEvent
    split <;> rfl

theorem Debounces.onCameraOpened {now : Nat} {service : PopupCameraService}
    {d : Debouncer CameraState} (h : Debounces service d)
    (hrecent : ∀ message ∈ d.pending, message.time ≤ now) :
    Debounces (service.onCameraOpened now FRONT_CAMERA_ID)
      (d.send CAMERA_EVENT_DELAY_TIME now .opened) := by
  have hother : ∀ kind, kind ≠ CameraState.opened ↔ kind = .closed := by
    intro kind
    cases kind <;> decide
  have hevent : { service with mOpenEvent := now }.mHandler.select Task.isMessage =
      d.pending.map queued := h.pending
  have hpending := cameraEvent_pending hevent hrecent hother
  rw [h.closed] at hpending
  rw [PopupCameraService.onCameraOpened, if_pos rfl]
  refine ⟨hpending, ?_, ?_⟩
  · unfold PopupCameraService.cameraEvent
    split <;> rfl
  · unfold PopupCameraService.cameraEvent
    split <;> exact h.closed

section Dispatch

variable {s : State} {d : Debouncer CameraState} {task : Task} {rest : DelayQueue Task}
  (h : Debounces s.service d) (hpop : s.service.mHandler.pop s.now = some (task, rest))
include h hpop

theorem Debounces.setHandler (htask : task.isMessage = false) :
    Debounces (s.setHandler rest).service d :=
  ⟨(DelayQueue.select_pop_of_other hpop htask).trans h.pending, h.opened, h.closed⟩

-- The message that the handler takes is the first one that waits, and it is due.
theorem Debounces.handle {cameraState : CameraState} (htask : task.message? = some cameraState) :
    ∃ first others, d.pending = first :: others ∧ first.kind = cameraState ∧
      first.time + CAMERA_EVENT_DELAY_TIME ≤ s.now ∧
      Debounces (s.setHandler rest).service (d.handle cameraState) := by
  obtain ⟨due, hdue, hselect⟩ := DelayQueue.select_pop Task.isMessage hpop
    (by rw [Task.isMessage, htask]; rfl)
  rw [h.pending] at hselect
  obtain ⟨first, others, hpending, hfirst, hothers⟩ := List.map_eq_cons_iff.mp hselect
  have hkind : first.kind = cameraState := by
    have hitem := congrArg (fun entry => entry.item.message?) hfirst
    simp only [queued, message_cameraMessage, htask] at hitem
    exact Option.some.inj hitem
  refine ⟨first, others, hpending, hkind, ?_, ?_⟩
  · rw [show first.time + CAMERA_EVENT_DELAY_TIME = due from congrArg Delayed.due hfirst]
    exact hdue
  · rw [Debouncer.handle, hpending]
    exact ⟨hothers.symm, h.opened, h.closed⟩

end Dispatch

structure Watched (past : List (Nat × Event)) (s : State) (d : Debouncer CameraState) : Prop where
  debounced : Debounced CAMERA_EVENT_DELAY_TIME s.world.now
    (past.map fun event => (event.1, frontEvent event.2)) d
  debounces : Debounces s.service d

namespace Watched

variable {past : List (Nat × Event)} {s after : State} {d : Debouncer CameraState} {time : Nat}
  {event : Event}

-- An event that sends no message and has none handled.
theorem skip (h : Watched past s d) (htime : s.world.now ≤ time)
    (hnow : time ≤ after.world.now) (hfront : frontEvent event = none)
    (hhandled : handledMessage s (time, event) = none) (hservice : Debounces after.service d) :
    Watched (past ++ [(time, event)]) after (debounce s (time, event) d) := by
  have hskip : debounce s (time, event) d = d.skip := by
    rw [debounce, hfront, hhandled]
  have hdebounced := (h.debounced.skip htime).tick hnow
  rw [hskip]
  refine ⟨?_, hservice.pending, hservice.opened, hservice.closed⟩
  rw [List.map_append, List.map_singleton, hfront]
  exact hdebounced

theorem send {cameraState : CameraState} (h : Watched past s d) (htime : s.world.now ≤ time)
    (hnow : time ≤ after.world.now) (hfront : frontEvent event = some cameraState)
    (hservice : Debounces after.service (d.send CAMERA_EVENT_DELAY_TIME time cameraState)) :
    Watched (past ++ [(time, event)]) after (debounce s (time, event) d) := by
  have hsend : debounce s (time, event) d = d.send CAMERA_EVENT_DELAY_TIME time cameraState := by
    rw [debounce, hfront]
  have hdebounced := (h.debounced.send htime cameraState).tick hnow
  rw [hsend]
  refine ⟨?_, hservice⟩
  rw [List.map_append, List.map_singleton, hfront]
  exact hdebounced

theorem handle {cameraState : CameraState} {first : Sent CameraState}
    {others : List (Sent CameraState)} (h : Watched past s d) (htime : s.world.now ≤ time)
    (hnow : time ≤ after.world.now) (hfront : frontEvent event = none)
    (hhandled : handledMessage s (time, event) = some cameraState)
    (hpending : d.pending = first :: others) (hkind : first.kind = cameraState)
    (hdue : first.time + CAMERA_EVENT_DELAY_TIME ≤ time)
    (hservice : Debounces after.service (d.handle cameraState)) :
    Watched (past ++ [(time, event)]) after (debounce s (time, event) d) := by
  have hhandle : debounce s (time, event) d = d.handle cameraState := by
    rw [debounce, hfront, hhandled]
  have hdebounced := (h.debounced.handle htime hpending hdue).tick hnow
  rw [hhandle]
  refine ⟨?_, hservice⟩
  rw [List.map_append, List.map_singleton, hfront, ← hkind]
  exact hdebounced

theorem after_step (h : Watched past s d) (hstep : step s (time, event) = some after) :
    Watched (past ++ [(time, event)]) after (debounce s (time, event) d) := by
  obtain ⟨_, htime, heffect⟩ := step_effect hstep
  have hnow : time ≤ after.world.now := heffect.now_le
  have hs : Debounces (s.atTime time).service d := h.debounces
  have hrecent : ∀ message ∈ d.pending, message.time ≤ time := fun message hm =>
    Nat.le_trans (h.debounced.recent message hm) htime
  cases step_sessionEffect hstep with
  | quiet hevent hsession =>
      have hnone : frontEvent event = none ∧ handledMessage s (time, event) = none := by
        cases event <;> first | exact ⟨rfl, rfl⟩ | cases hevent
      exact h.skip htime hnow hnone.1 hnone.2 (hs.of_session hsession)
  | @quietTask replies task rest _ hpop htask hsession =>
      have hmessage : task.message? = none := by
        cases task <;> first | rfl | cases htask
      exact h.skip htime hnow rfl ((handledMessage_pop replies hpop).trans hmessage)
        (hs.of_session hsession)
  | create _ hsession =>
      have hcreated : Debounces { s.service with lifecycle := .created } d :=
        ⟨hs.pending, hs.opened, hs.closed⟩
      exact h.skip htime hnow rfl rfl (hcreated.of_session hsession)
  | destroy _ => exact h.skip htime hnow rfl rfl ⟨hs.pending, hs.opened, hs.closed⟩
  | pressed hsession =>
      have hpressed :
          Debounces { s.service with notifying := some (.requesting s.service.mMotorBusy) } d :=
        ⟨hs.pending, hs.opened, hs.closed⟩
      exact h.skip htime hnow rfl rfl (hpressed.of_session hsession)
  | cameraClosed cameraId =>
      by_cases hid : cameraId = FRONT_CAMERA_ID
      · subst hid
        exact h.send htime hnow rfl (hs.onCameraClosed hrecent)
      · refine h.skip htime hnow (if_neg hid) rfl ?_
        rw [State.modify, PopupCameraService.onCameraClosed, if_neg hid]
        exact hs
  | cameraOpened cameraId =>
      by_cases hid : cameraId = FRONT_CAMERA_ID
      · subst hid
        exact h.send htime hnow rfl (hs.onCameraOpened hrecent)
      · refine h.skip htime hnow (if_neg hid) rfl ?_
        rw [State.modify, PopupCameraService.onCameraOpened, if_neg hid]
        exact hs
  | notifyPost _ =>
      have hnotified : Debounces { s.service with notifying := none } d :=
        ⟨hs.pending, hs.opened, hs.closed⟩
      exact h.skip htime hnow rfl rfl
        (hnotified.keep (messages_requestKeeps.postRequest time _ _ _))
  | click raise _ => exact h.skip htime hnow rfl rfl (hs.click time _ raise)
  | @handleClosed replies rest hpop =>
      obtain ⟨first, others, hpending, hkind, hdue, hservice⟩ := hs.handle hpop rfl
      exact h.handle htime hnow rfl (handledMessage_pop replies hpop) hpending hkind hdue
        (hservice.handleCameraClosed time)
  | @handleOpen replies rest hpop =>
      obtain ⟨first, others, hpending, hkind, hdue, hservice⟩ := hs.handle hpop rfl
      exact h.handle htime hnow rfl (handledMessage_pop replies hpop) hpending hkind hdue
        (hservice.handleCameraOpen time _ _)
  | @poll replies request cameraState rest hpop =>
      exact h.skip htime hnow rfl (handledMessage_pop replies hpop)
        ((hs.setHandler hpop rfl).keep (messages_requestKeeps.poll time _ _ _))
  | @execute replies request cameraState rest _ hpop hsession =>
      have hrest := hs.setHandler hpop rfl
      have hstarted :
          Debounces (((s.atTime time).setHandler rest).startRequest request).service d :=
        ⟨hrest.pending, hrest.opened, hrest.closed⟩
      exact h.skip htime hnow rfl (handledMessage_pop replies hpop)
        (hstarted.of_session hsession)

end Watched

theorem lastEvent_eq_lastKind (events : List (Nat × Event)) :
    lastKind (events.map fun event => (event.1, frontEvent event.2)) = lastEvent events := by
  rw [lastKind, lastEvent, List.filterMap_map]
  rfl

theorem mem_events {events : List (Nat × Event)} {position time : Nat}
    {cameraState : CameraState} :
    (events.map fun event => (event.1, frontEvent event.2))[position]? =
        some (time, some cameraState) ↔
      ∃ event, events[position]? = some (time, event) ∧ frontEvent event = some cameraState := by
  rw [List.getElem?_map, Option.map_eq_some_iff]
  constructor
  · rintro ⟨⟨_, event⟩, hget, he⟩
    obtain ⟨rfl, hfront⟩ := Prod.mk.inj he
    exact ⟨event, hget, hfront⟩
  · rintro ⟨event, hget, hfront⟩
    exact ⟨(time, event), hget, by rw [hfront]⟩

-- In every run the messages are handled in the order of the events that sent
-- them, the last of them or of the waiting ones is that of the last event, and
-- the sender of a handled one was not undone within 100 ms.
theorem debounce_correct {now : Nat} {leds : Leds} {events : List (Nat × Event)} {final : State}
    (hrun : run step (start now leds) events = some final) :
    ∃ d, run (observed step debounce) (start now leds, .start CameraState) events =
        some (final, d) ∧
      final.service.mHandler.select (fun task => task.message?.isSome) =
        d.pending.map (fun message => ⟨message.time + 100, cameraMessage message.kind⟩) ∧
      (d.handled ++ d.pending).Pairwise (·.position < ·.position) ∧
      (∀ message ∈ d.handled ++ d.pending, ∃ event,
        events[message.position]? = some (message.time, event) ∧
          frontEvent event = some message.kind) ∧
      (d.handled ++ d.pending).getLast?.map Sent.kind = lastEvent events ∧
      ∀ message ∈ d.handled, ∀ position time event cameraState,
        message.position < position → events[position]? = some (time, event) →
        frontEvent event = some cameraState → cameraState ≠ message.kind →
        message.time + 100 ≤ time := by
  obtain ⟨d, hobserved⟩ := run_observed step debounce (.start CameraState) hrun
  have hwatched : Watched ([] ++ events) final d := by
    refine run_history_invariant (observed step debounce)
      (fun past watched => Watched past watched.1 watched.2) ?_ ?_ (along_true _ _ events) hobserved
    · intro past watched event next h _ hstep
      obtain ⟨hs, hseen⟩ := observed_some step debounce hstep
      rw [← hseen]
      exact h.after_step hs
    · exact ⟨.start CAMERA_EVENT_DELAY_TIME now, rfl, rfl, rfl⟩
  obtain ⟨hdebounced, hdebounces⟩ := hwatched
  rw [List.nil_append] at hdebounced
  refine ⟨d, hobserved, hdebounces.pending, hdebounced.numbered, fun message hm => ?_, ?_,
    fun message hm position time event cameraState hlt hget hfront hkind => ?_⟩
  · exact mem_events.mp (hdebounced.sent message hm)
  · exact hdebounced.last.trans (lastEvent_eq_lastKind events)
  · exact hdebounced.separated message (List.mem_append_left _ hm) position time cameraState hlt
      (mem_events.mpr ⟨event, hget, hfront⟩) hkind

-- The camera flickers twice within 100 ms, and the one message that is left is
-- handled late.
def flickered : List (Nat × Event) :=
  [(0, .onCreate { status := some MOTOR_STATUS_TAKEBACK_OK }), (1000, .onCameraOpened "1"),
    (1050, .onCameraClosed "1"), (1090, .onCameraOpened "1"), (1250, .dispatch {}),
    (1500, .onCameraClosed "1")]

theorem debounce_correct_flickered :
    ∃ final, run step (start 0 .dark) flickered = some final ∧
      ∃ d, run (observed step debounce) (start 0 .dark, .start CameraState) flickered =
          some (final, d) ∧
        final.service.mHandler.select (fun task => task.message?.isSome) =
          d.pending.map (fun message => ⟨message.time + 100, cameraMessage message.kind⟩) ∧
        (d.handled ++ d.pending).Pairwise (·.position < ·.position) ∧
        (∀ message ∈ d.handled ++ d.pending, ∃ event,
          flickered[message.position]? = some (message.time, event) ∧
            frontEvent event = some message.kind) ∧
        (d.handled ++ d.pending).getLast?.map Sent.kind = lastEvent flickered ∧
        ∀ message ∈ d.handled, ∀ position time event cameraState,
          message.position < position → flickered[position]? = some (time, event) →
          frontEvent event = some cameraState → cameraState ≠ message.kind →
          message.time + 100 ≤ time := by
  obtain ⟨final, hrun⟩ : ∃ final, run step (start 0 .dark) flickered = some final :=
    Option.isSome_iff_exists.mp (by decide +kernel)
  exact ⟨final, hrun, debounce_correct hrun⟩

end Raphael.PopupCamera
