import Raphael.DelayQueue.Theorems
import Raphael.Trace

namespace Raphael.PopupCamera

-- The events that are injected. Both of one press bear the time of the trigger.
inductive KeyAction where
  | down | up
  deriving DecidableEq, Repr

structure KeyEvent where
  time : Nat
  action : KeyAction
  keyCode : Int
  deriving DecidableEq, Repr

-- The main looper, as far as it carries key events, with the presses that have
-- been asked for and the events in the order and at the time of their injection.
structure KeyLooper where
  now : Nat
  handler : DelayQueue KeyEvent
  asked : List (Nat × Int)
  injected : List (Nat × KeyEvent)

namespace KeyLooper

def triggerVirtualKeypress (s : KeyLooper) (keyCode : Int) : KeyLooper :=
  let downEvent : KeyEvent := ⟨s.now, .down, keyCode⟩
  let upEvent : KeyEvent := ⟨s.now, .up, keyCode⟩
  { s with
    handler := (s.handler.post s.now downEvent).post (s.now + 10) upEvent
    asked := s.asked ++ [(s.now, keyCode)] }

inductive Event where
  | elapse (milliseconds : Nat)
  | trigger (keyCode : Int)
  | run
  deriving DecidableEq, Repr

-- A runnable runs once it is due, however late.
def step (s : KeyLooper) : Event → Option KeyLooper
  | .elapse milliseconds => some { s with now := s.now + milliseconds }
  | .trigger keyCode => some (s.triggerVirtualKeypress keyCode)
  | .run => (s.handler.pop s.now).map fun (event, rest) =>
      { s with handler := rest, injected := s.injected ++ [(s.now, event)] }

def start (now : Nat) : KeyLooper := ⟨now, DelayQueue.empty, [], []⟩

-- How often an event has been injected, and how often it waits.
def sent (s : KeyLooper) (event : KeyEvent) : Nat := (s.injected.map Prod.snd).count event

def waiting (s : KeyLooper) (event : KeyEvent) : Nat := (s.handler.collect some).count event

def due (event : KeyEvent) : Nat :=
  match event.action with
  | .down => event.time
  | .up => event.time + 10

-- No key goes up more often than it has gone down before.
def Balanced (events : List KeyEvent) : Prop :=
  ∀ first, first <+: events → ∀ time keyCode,
    first.count ⟨time, .up, keyCode⟩ ≤ first.count ⟨time, .down, keyCode⟩

structure Consistent (s : KeyLooper) : Prop where
  dues : ∀ entry ∈ s.handler.entries, entry.due = due entry.item
  asked : ∀ time action keyCode,
    s.sent ⟨time, action, keyCode⟩ + s.waiting ⟨time, action, keyCode⟩ =
      s.asked.count (time, keyCode)
  released : ∀ time keyCode, s.waiting ⟨time, .down, keyCode⟩ ≤ s.waiting ⟨time, .up, keyCode⟩
  balanced : Balanced (s.injected.map Prod.snd)
  punctual : ∀ entry ∈ s.injected, due entry.2 ≤ entry.1

variable {s next : KeyLooper} {event : KeyEvent} {rest : DelayQueue KeyEvent}

theorem waiting_post (handler : DelayQueue KeyEvent) (time : Nat) (posted event : KeyEvent) :
    ((handler.post time posted).collect some).count event =
      (handler.collect some).count event + if posted = event then 1 else 0 := by
  have hperm : ((handler.post time posted).collect some).Perm (posted :: handler.collect some) :=
    DelayQueue.collect_post_perm some rfl
  rw [hperm.count_eq, List.count_cons]
  simp

theorem waiting_trigger (s : KeyLooper) (keyCode : Int) (time : Nat) (action : KeyAction)
    (other : Int) : (s.triggerVirtualKeypress keyCode).waiting ⟨time, action, other⟩ =
      s.waiting ⟨time, action, other⟩ + if (s.now, keyCode) = (time, other) then 1 else 0 := by
  rw [waiting, triggerVirtualKeypress]
  dsimp only
  rw [waiting_post, waiting_post, waiting]
  cases action <;> simp

theorem Consistent.triggered (h : s.Consistent) (keyCode : Int) :
    (s.triggerVirtualKeypress keyCode).Consistent := by
  refine ⟨?_, ?_, ?_, h.balanced, h.punctual⟩
  · intro entry hentry
    obtain rfl | hentry := mem_insertDelayed.mp hentry
    · rfl
    obtain rfl | hentry := mem_insertDelayed.mp hentry
    · rfl
    · exact h.dues entry hentry
  · intro time action other
    have hasked := h.asked time action other
    have hcount : (s.asked ++ [(s.now, keyCode)]).count (time, other) =
        s.asked.count (time, other) + if (s.now, keyCode) = (time, other) then 1 else 0 := by
      simp [List.count_singleton]
    have hsent : (s.triggerVirtualKeypress keyCode).sent ⟨time, action, other⟩ =
        s.sent ⟨time, action, other⟩ := rfl
    rw [waiting_trigger, hsent]
    refine Eq.trans ?_ hcount.symm
    omega
  · intro time other
    have hreleased := h.released time other
    rw [waiting_trigger, waiting_trigger]
    omega

-- An up at the head of the queue is due after every down of the same press.
theorem not_waiting_down (h : s.Consistent) {due' time : Nat} {keyCode : Int}
    (hentries : s.handler.entries = ⟨due', ⟨time, .up, keyCode⟩⟩ :: rest.entries) :
    (rest.collect some).count ⟨time, .down, keyCode⟩ = 0 := by
  rw [List.count_eq_zero]
  intro hmem
  obtain ⟨entry, hentry, hitem⟩ := List.mem_filterMap.mp hmem
  have hdown := h.dues entry (hentries ▸ List.mem_cons_of_mem _ hentry)
  have hup := h.dues _ (hentries ▸ List.mem_cons_self)
  have hsorted := s.handler.sorted
  rw [hentries] at hsorted
  have hle := (List.pairwise_cons.mp hsorted).1 entry hentry
  rw [Option.some.inj hitem] at hdown
  simp only [due] at hdown hup hle
  omega

theorem Consistent.popped (h : s.Consistent) (hpop : s.handler.pop s.now = some (event, rest)) :
    Consistent { s with handler := rest, injected := s.injected ++ [(s.now, event)] } := by
  obtain ⟨due', hdue, hentries⟩ := DelayQueue.pop_eq_some hpop
  have hhead : due' = due event := h.dues ⟨due', event⟩ (hentries ▸ List.mem_cons_self)
  have hwaiting : ∀ other, s.waiting other =
      (rest.collect some).count other + if event = other then 1 else 0 := by
    intro other
    rw [waiting, DelayQueue.collect_pop hpop]
    simp [List.count_cons]
  have hsent : ∀ other, ((s.injected ++ [(s.now, event)]).map Prod.snd).count other =
      s.sent other + if event = other then 1 else 0 := by
    intro other
    rw [sent, List.map_append, List.count_append]
    simp [List.count_singleton]
  have hasked : ∀ time action keyCode,
      ((s.injected ++ [(s.now, event)]).map Prod.snd).count ⟨time, action, keyCode⟩ +
        (rest.collect some).count ⟨time, action, keyCode⟩ = s.asked.count (time, keyCode) := by
    intro time action keyCode
    have hbefore := h.asked time action keyCode
    rw [hwaiting] at hbefore
    rw [hsent]
    omega
  have hreleased : ∀ time keyCode, (rest.collect some).count ⟨time, .down, keyCode⟩ ≤
      (rest.collect some).count ⟨time, .up, keyCode⟩ := by
    intro time keyCode
    have hbefore := h.released time keyCode
    rw [hwaiting, hwaiting] at hbefore
    by_cases hup : event = ⟨time, .up, keyCode⟩
    · rw [hup] at hentries
      rw [not_waiting_down h hentries]
      exact Nat.zero_le _
    · rw [if_neg hup] at hbefore
      omega
  refine ⟨?_, hasked, hreleased, ?_, ?_⟩
  · exact fun entry hentry => h.dues entry (hentries ▸ List.mem_cons_of_mem _ hentry)
  · intro first hfirst time keyCode
    rw [List.map_append, List.map_singleton, List.prefix_concat_iff] at hfirst
    obtain rfl | hfirst := hfirst
    · have hup := hasked time .up keyCode
      have hdown := hasked time .down keyCode
      have hle := hreleased time keyCode
      rw [List.map_append, List.map_singleton] at hup hdown
      omega
    · exact h.balanced first hfirst time keyCode
  · intro entry hentry
    obtain hbefore | hnew := List.mem_append.mp hentry
    · exact h.punctual entry hbefore
    · rw [List.mem_singleton.mp hnew]
      exact hhead ▸ hdue

theorem Consistent.after_step {e : Event} (h : s.Consistent) (hstep : step s e = some next) :
    next.Consistent := by
  cases e with
  | elapse milliseconds =>
      cases hstep
      exact ⟨h.dues, h.asked, h.released, h.balanced, h.punctual⟩
  | trigger keyCode =>
      cases hstep
      exact h.triggered keyCode
  | run =>
      obtain ⟨⟨event, rest⟩, hpop, rfl⟩ := Option.map_eq_some_iff.mp hstep
      exact h.popped hpop

-- However late the runnables run, each press is one key down and one key up at
-- least 10 ms later, the up never before the down, and no key stays down.
theorem keypress_released {now : Nat} {events : List Event}
    (hrun : Trace.run step (start now) events = some s) :
    Balanced (s.injected.map Prod.snd) ∧ (∀ entry ∈ s.injected, due entry.2 ≤ entry.1) ∧
      (s.handler.entries = [] → ∀ time action keyCode,
        s.sent ⟨time, action, keyCode⟩ = s.asked.count (time, keyCode)) := by
  have hstart : (start now).Consistent := by
    refine ⟨?_, ?_, ?_, ?_, ?_⟩
    · simp [start, DelayQueue.empty]
    · simp [start, sent, waiting, DelayQueue.empty, DelayQueue.collect]
    · simp [start, waiting, DelayQueue.empty, DelayQueue.collect]
    · intro first hfirst
      simp [List.prefix_nil.mp hfirst]
    · simp [start]
  have hend := Trace.run_invariant step Consistent (fun _ _ _ h _ hstep => h.after_step hstep)
    hstart (Trace.along_true step (start now) events) hrun
  refine ⟨hend.balanced, hend.punctual, ?_⟩
  intro hempty time action keyCode
  have hnone : s.waiting ⟨time, action, keyCode⟩ = 0 := by
    simp [waiting, DelayQueue.collect, hempty]
  have hasked := hend.asked time action keyCode
  omega

def twoPresses : List Event :=
  [.trigger 4, .elapse 3, .trigger 4, .run, .elapse 20, .run, .run, .run]

theorem keypress_released_twoPresses : ∃ s, Trace.run step (start 0) twoPresses = some s ∧
    s.sent ⟨3, .up, 4⟩ = 1 := by
  obtain ⟨s, hrun, hempty⟩ : ∃ s, Trace.run step (start 0) twoPresses = some s ∧
      s.handler.entries = [] := ⟨_, rfl, rfl⟩
  have hasked : s.asked.count (3, (4 : Int)) = 1 := by
    cases hrun
    decide
  exact ⟨s, hrun, ((keypress_released hrun).2.2 hempty 3 .up 4).trans hasked⟩

end KeyLooper

end Raphael.PopupCamera
