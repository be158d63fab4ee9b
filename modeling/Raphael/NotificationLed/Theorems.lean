import Raphael.NotificationLed
import Raphael.PopupCamera.LedEffect.Theorems
import Raphael.Trace

namespace Raphael.NotificationLed

open PopupCamera Lights Trace

-- An effect event is one that touches the LED on behalf of the popup camera.
def Event.isEffect : Event → Bool
  | .lightUp _ isLedAllowed => isLedAllowed
  | .restore => true
  | .applyNotificationState _ => false

def Event.isLightUp : Event → Bool
  | .lightUp _ isLedAllowed => isLedAllowed
  | _ => false

def Event.isCall : Event → Bool
  | .applyNotificationState _ => true
  | _ => false

def lightUpComesFirst (events : List (Nat × Event)) : Bool :=
  (events.find? fun e => e.2.isEffect).any fun e => e.2.isLightUp

-- A busy service has a restore callback to come, which has a value to write.
structure Consistent (s : State) : Prop where
  pending : s.fx.mLedBusy = true → s.restores ≠ []
  saved : s.fx.mLedBrightness.isSome

-- The LED will show the goal once all restore callbacks have run.
structure Settled (goal : String × Option String) (s : State) : Prop where
  busy : s.fx.mLedBusy = true → s.fx.savedShown = goal
  idle : s.fx.mLedBusy = false → s.leds.shown .green = goal
  later : s.restores ≠ [] → s.fx.savedShown = goal

theorem boot_consistent (now : Nat) (leds : Leds) : Consistent (boot now leds) :=
  ⟨(fun h => nomatch h), rfl⟩

theorem applyNotificationState_shown (maxLedBrightness : UInt32) (state : HwLightState)
    (leds other : Leds) :
    (leds.writes (applyNotificationState maxLedBrightness state)).shown .green =
      (other.writes (applyNotificationState maxLedBrightness state)).shown .green := by
  unfold applyNotificationState
  split <;> rfl

-- The breath values that the two programs write.
def Regular (goal : String × Option String) : Prop := goal.1 = "0" ∨ goal.1 = "1"

theorem applyNotificationState_regular (maxLedBrightness : UInt32) (state : HwLightState)
    (leds : Leds) :
    Regular ((leds.writes (applyNotificationState maxLedBrightness state)).shown .green) := by
  unfold applyNotificationState
  split
  · exact .inr rfl
  · exact .inl rfl

theorem savedShown_regular (fx : LedEffect) : Regular fx.savedShown := by
  unfold LedEffect.savedShown
  split
  · exact .inr rfl
  · exact .inl rfl

-- The four things that a step can do.
theorem step_cases {maxLedBrightness : UInt32} {s next : State} {time : Nat} {event : Event}
    (h : step maxLedBrightness s (time, event) = some next) :
    (∃ state, event = .applyNotificationState state ∧
      next = { s with
        now := time
        leds := s.leds.writes (applyNotificationState maxLedBrightness state) }) ∨
    (event.isEffect = false ∧ event.isCall = false ∧ next = { s with now := time }) ∨
    (event.isLightUp = true ∧ ∃ isOpen, next = { s with
        now := time
        leds := showEffect allOk isOpen s.leds
        fx := { s.fx.snapshot s.leds with mLedBusy := true }
        restores := s.restores ++ [time + LED_EFFECT_TIME] }) ∨
    (event = .restore ∧ ∃ due rest fx leds, s.restores = due :: rest ∧
      restoreLed allOk s.fx s.leds = .ok (fx, leds) ∧
      next = { s with now := time, leds, fx, restores := rest }) := by
  rw [step] at h
  split at h
  · cases h
  · cases event with
    | applyNotificationState state => exact .inl ⟨state, rfl, (Option.some.inj h).symm⟩
    | lightUp isOpen isLedAllowed =>
        cases isLedAllowed with
        | false => exact .inr (.inl ⟨rfl, rfl, (Option.some.inj h).symm⟩)
        | true =>
            simp only [if_pos, State.lightUp, lightUp_allOk] at h
            exact .inr (.inr (.inl ⟨rfl, isOpen, (Option.some.inj h).symm⟩))
    | restore =>
        refine .inr (.inr (.inr ⟨rfl, ?_⟩))
        simp only [State.restore] at h
        split at h
        · cases h
        · rename_i due rest hrestores
          split at h
          · cases h
          · split at h
            · rename_i fx leds hrestore
              exact ⟨due, rest, fx, leds, hrestores, hrestore, (Option.some.inj h).symm⟩
            · cases h

theorem step_call {maxLedBrightness : UInt32} {s next : State} {time : Nat} {state : HwLightState}
    (h : step maxLedBrightness s (time, .applyNotificationState state) = some next) :
    next = { s with
      now := time
      leds := s.leds.writes (applyNotificationState maxLedBrightness state) } := by
  obtain ⟨_, he, rfl⟩ | ⟨_, h, _⟩ | ⟨h, _⟩ | ⟨h, _⟩ := step_cases h
  · cases he
    rfl
  · cases h
  · cases h
  · cases h

theorem Consistent.after_step {maxLedBrightness : UInt32} {s next : State} {event : Nat × Event}
    (hs : Consistent s) (h : step maxLedBrightness s event = some next) : Consistent next := by
  obtain ⟨time, event⟩ := event
  obtain ⟨_, _, rfl⟩ | ⟨_, _, rfl⟩ | ⟨_, _, rfl⟩ | ⟨_, due, rest, fx, leds, hr, he, rfl⟩ :=
    step_cases h
  · exact ⟨hs.pending, hs.saved⟩
  · exact ⟨hs.pending, hs.saved⟩
  · exact ⟨fun _ => by simp, LedEffect.snapshot_brightness _ hs.saved⟩
  · obtain ⟨restored, hok, _⟩ := restoreLed_allOk s.leds hs.saved
    rw [hok] at he
    cases he
    exact ⟨(fun hbusy => nomatch hbusy), hs.saved⟩

-- A restore callback shows the snapshot, whatever was shown before it.
theorem restore_settled {s : State} {time : Nat} {rest : List Nat} {fx : LedEffect} {leds : Leds}
    (hs : Consistent s) (h : restoreLed allOk s.fx s.leds = .ok (fx, leds)) :
    Settled s.fx.savedShown { s with now := time, leds, fx, restores := rest } := by
  obtain ⟨restored, hok, hshown⟩ := restoreLed_allOk s.leds hs.saved
  rw [hok] at h
  cases h
  exact ⟨fun _ => rfl, fun _ => hshown, fun _ => rfl⟩

theorem lightUp_settled {s : State} {time : Nat} {isOpen : Bool} {goal : String × Option String}
    (hbusy : s.fx.mLedBusy = true → s.fx.savedShown = goal)
    (hidle : s.fx.mLedBusy = false → s.leds.shown .green = goal) (hgoal : Regular goal) :
    Settled goal { s with
      now := time
      leds := showEffect allOk isOpen s.leds
      fx := { s.fx.snapshot s.leds with mLedBusy := true }
      restores := s.restores ++ [time + LED_EFFECT_TIME] } := by
  have hsaved : (s.fx.snapshot s.leds).savedShown = goal := by
    cases hb : s.fx.mLedBusy with
    | true => rw [LedEffect.snapshot_of_busy _ hb, hbusy hb]
    | false =>
        have hshown := hidle hb
        have hbreath : Regular (s.leds.shown .green) := by rw [hshown]; exact hgoal
        rw [LedEffect.savedShown_snapshot hb hbreath, hshown]
  exact ⟨fun _ => hsaved, (fun h => nomatch h), fun _ => hsaved⟩

theorem Settled.after_step {maxLedBrightness : UInt32} {s next : State} {event : Nat × Event}
    {goal : String × Option String} (hs : Settled goal s) (hc : Consistent s)
    (hgoal : Regular goal) (hcall : event.2.isCall = false)
    (h : step maxLedBrightness s event = some next) : Settled goal next := by
  obtain ⟨time, event⟩ := event
  obtain ⟨state, rfl, _⟩ | ⟨_, _, rfl⟩ | ⟨_, isOpen, rfl⟩ | ⟨_, due, rest, fx, leds, hr, he, rfl⟩ :=
    step_cases h
  · cases hcall
  · exact ⟨hs.busy, hs.idle, hs.later⟩
  · exact lightUp_settled hs.busy hs.idle hgoal
  · have hsaved := hs.later (by rw [hr]; exact List.cons_ne_nil _ _)
    exact hsaved ▸ restore_settled hc he

-- A settled run without further calls ends with the goal on the LED.
theorem Settled.after_run {maxLedBrightness : UInt32} {s after : State}
    {events : List (Nat × Event)} {goal : String × Option String} (hs : Settled goal s)
    (hc : Consistent s) (hgoal : Regular goal) (hcalls : ∀ e ∈ events, e.2.isCall = false)
    (hrun : run (step maxLedBrightness) s events = some after) (hdrained : after.restores = []) :
    after.leds.shown .green = goal := by
  have hboth : Consistent after ∧ Settled goal after := by
    refine run_invariant _ (fun s => Consistent s ∧ Settled goal s) ?_ ⟨hc, hs⟩
      (along_of_forall _ hcalls s) hrun
    intro t event next ht hcall hstep
    exact ⟨ht.1.after_step hstep, ht.2.after_step ht.1 hgoal hcall hstep⟩
  refine hboth.2.idle ?_
  cases hb : after.fx.mLedBusy with
  | false => rfl
  | true => exact absurd hdrained (hboth.1.pending hb)

-- With a restore callback pending, what is shown survives when an idle service
-- takes its snapshot first, and is replaced by the older snapshot otherwise.
theorem pending_run {maxLedBrightness : UInt32} {s after : State} {events : List (Nat × Event)}
    (hc : Consistent s) (hpending : s.restores ≠ []) (hregular : Regular (s.leds.shown .green))
    (hcalls : ∀ e ∈ events, e.2.isCall = false)
    (hrun : run (step maxLedBrightness) s events = some after) (hdrained : after.restores = []) :
    after.leds.shown .green =
      if s.fx.mLedBusy = false ∧ lightUpComesFirst events = true then s.leds.shown .green
      else s.fx.savedShown := by
  induction events generalizing s with
  | nil =>
      cases hrun
      exact absurd hdrained hpending
  | cons event rest ih =>
      obtain ⟨next, hstep, hrest⟩ := run_cons_some _ hrun
      obtain ⟨time, event⟩ := event
      have hnext := hc.after_step hstep
      have hcalls' : ∀ e ∈ rest, e.2.isCall = false :=
        fun e he => hcalls e (List.mem_cons_of_mem _ he)
      obtain ⟨state, rfl, _⟩ | ⟨heffect, _, rfl⟩ | ⟨hlight, isOpen, rfl⟩ |
        ⟨rfl, due, pending, fx, leds, hr, he, rfl⟩ := step_cases hstep
      · cases hcalls _ List.mem_cons_self
      · have hfirst : lightUpComesFirst ((time, event) :: rest) = lightUpComesFirst rest := by
          simp [lightUpComesFirst, heffect]
        rw [hfirst]
        have hshown := ih hnext hpending hregular hcalls' hrest
        exact hshown
      · have heffect : event.isEffect = true := by
          cases event with
          | lightUp => exact hlight
          | _ => cases hlight
        have hfirst : lightUpComesFirst ((time, event) :: rest) = true := by
          simp [lightUpComesFirst, heffect, hlight]
        rw [hfirst]
        cases hb : s.fx.mLedBusy with
        | false =>
            rw [if_pos ⟨rfl, rfl⟩]
            exact (lightUp_settled (fun h => by rw [hb] at h; cases h) (fun _ => rfl)
              hregular).after_run hnext hregular hcalls' hrest hdrained
        | true =>
            rw [if_neg (fun h => by cases h.1)]
            exact (lightUp_settled (fun _ => rfl) (fun h => by rw [hb] at h; cases h)
              (savedShown_regular _)).after_run hnext (savedShown_regular _) hcalls' hrest hdrained
      · have hfirst : lightUpComesFirst ((time, Event.restore) :: rest) = false := rfl
        rw [hfirst, if_neg (fun h => by cases h.2)]
        exact (restore_settled hc he).after_run hnext (savedShown_regular _) hcalls' hrest hdrained

-- Whether the last call survives is decided by the state that it meets.
theorem lastNotification_shown_iff {maxLedBrightness : UInt32} {start : Nat} {leds : Leds}
    {pre post : List (Nat × Event)} {before after : State} {time : Nat} {state : HwLightState}
    (hpre : run (step maxLedBrightness) (boot start leds) pre = some before)
    (hpost : run (step maxLedBrightness) before
      ((time, .applyNotificationState state) :: post) = some after)
    (hlast : ∀ e ∈ post, e.2.isCall = false) (hdrained : after.restores = []) :
    after.leds.shown .green =
        (leds.writes (applyNotificationState maxLedBrightness state)).shown .green ↔
      before.restores = [] ∨
      before.fx.savedShown =
        (leds.writes (applyNotificationState maxLedBrightness state)).shown .green ∨
      before.fx.mLedBusy = false ∧ lightUpComesFirst post = true := by
  have hbefore : Consistent before :=
    run_invariant _ Consistent (fun _ _ _ hs _ h => hs.after_step h) (boot_consistent start leds)
      (along_true _ _ _) hpre
  obtain ⟨called, hcall, hrun⟩ := run_cons_some _ hpost
  have hcalled := hbefore.after_step hcall
  obtain rfl := step_call hcall
  have hshown := applyNotificationState_shown maxLedBrightness state before.leds leds
  have hregular := applyNotificationState_regular maxLedBrightness state before.leds
  by_cases hpending : before.restores = []
  · have hsettled : Settled
        ((before.leds.writes (applyNotificationState maxLedBrightness state)).shown .green)
        { before with
          now := time
          leds := before.leds.writes (applyNotificationState maxLedBrightness state) } :=
      ⟨fun hb => absurd hpending (hbefore.pending hb), fun _ => rfl,
        fun h => absurd hpending h⟩
    have hgoal := hsettled.after_run hcalled hregular hlast hrun hdrained
    rw [hgoal, hshown]
    simp [hpending]
  · have hgoal := pending_run hcalled hpending hregular hlast hrun hdrained
    rw [hgoal, ← hshown]
    by_cases hfirst : before.fx.mLedBusy = false ∧ lightUpComesFirst post = true
    · simp [hfirst]
    · simp [hfirst, hpending]

def green : HwLightState where
  color := 0xFF00FF00

theorem lastNotification_shown_iff_after_effect :
    ∃ before after,
      run (step 255) (boot 0 .dark) [(0, .lightUp true true), (1400, .restore)] = some before ∧
      run (step 255) before [(2000, .applyNotificationState green)] = some after ∧
      (after.leds.shown .green =
          (Leds.dark.writes (applyNotificationState 255 green)).shown .green ↔
        before.restores = [] ∨
        before.fx.savedShown = (Leds.dark.writes (applyNotificationState 255 green)).shown .green ∨
        before.fx.mLedBusy = false ∧ lightUpComesFirst [] = true) := by
  refine ⟨_, _, rfl, rfl, ?_⟩
  exact @lastNotification_shown_iff 255 0 .dark [(0, .lightUp true true), (1400, .restore)] [] _ _
    2000 green rfl rfl (fun _ h => nomatch h) rfl

-- A notification inside the window of an effect is replaced by the snapshot.
theorem lastNotification_lost :
    ∃ after,
      run (step 255) (boot 0 .dark) [(0, .lightUp true true),
        (500, .applyNotificationState green), (1400, .restore)] = some after ∧
      after.restores = [] ∧ after.leds.shown .green = ("0", some "0") ∧
      (Leds.dark.writes (applyNotificationState 255 green)).shown .green = ("0", some "149") := by
  refine ⟨_, rfl, rfl, ?_, ?_⟩
  · decide
  · decide

end Raphael.NotificationLed
