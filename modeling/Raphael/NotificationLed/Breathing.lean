import Raphael.NotificationLed.Theorems
import Raphael.Lights.Theorems

namespace Raphael.NotificationLed

open PopupCamera Lights Trace

-- The attributes that a breathing LED is driven by, as far as one of the two
-- programs writes them.
def breathPattern : List LedAttr :=
  [.breath, .stepMs, .pauseLoCount, .loIdx, .lutPattern, .delayOn, .delayOff]

section Call

variable (maxLedBrightness : UInt32)

-- The HAL writes lux_pattern, an attribute of no one else.
theorem applyNotificationState_lutPattern (state : HwLightState) (leds : Leds) :
    (leds.writes (applyNotificationState maxLedBrightness state)) .green .lutPattern =
      leds .green .lutPattern := by
  unfold applyNotificationState
  split <;> rfl

-- A timed call writes everything else itself.
theorem applyNotificationState_pattern {state : HwLightState} (htimed : state.isTimed = true)
    (leds other : Leds) {attr : LedAttr} (hattr : attr ∈ breathPattern)
    (hlut : attr ≠ .lutPattern) :
    (leds.writes (applyNotificationState maxLedBrightness state)) .green attr =
      (other.writes (applyNotificationState maxLedBrightness state)) .green attr := by
  have hbranch : state.flashMode = .timed ∧ 0 < state.flashOnMs ∧ 0 < state.flashOffMs :=
    of_decide_eq_true htimed
  rw [applyNotificationState, if_pos hbranch]
  cases attr with
  | lutPattern => exact absurd rfl hlut
  | brightness => exact absurd hattr (by decide)
  | luxPattern => exact absurd hattr (by decide)
  | _ => rfl

-- So two timed calls leave the same pattern exactly when they find the same
-- lut_pattern.
theorem applyNotificationState_pattern_iff {state : HwLightState} (htimed : state.isTimed = true)
    (leds other : Leds) :
    (∀ attr ∈ breathPattern,
      (leds.writes (applyNotificationState maxLedBrightness state)) .green attr =
        (other.writes (applyNotificationState maxLedBrightness state)) .green attr) ↔
      leds .green .lutPattern = other .green .lutPattern := by
  constructor
  · intro h
    have hlut := h .lutPattern (by decide)
    rwa [applyNotificationState_lutPattern, applyNotificationState_lutPattern] at hlut
  · intro h attr hattr
    by_cases hlut : attr = .lutPattern
    · rw [hlut, applyNotificationState_lutPattern, applyNotificationState_lutPattern, h]
    · exact applyNotificationState_pattern maxLedBrightness htimed leds other hattr hlut

end Call

theorem restoreLed_lutPattern {fx fx' : LedEffect} {leds leds' : Leds}
    (h : restoreLed allOk fx leds = .ok (fx', leds')) :
    leds' .green .lutPattern = leds .green .lutPattern := by
  by_cases hbreathing : fx.mLedBreathing = true
  · rw [restoreLed, if_pos hbreathing] at h
    cases h
    rfl
  · rw [restoreLed, if_neg hbreathing] at h
    cases hline : fx.mLedBrightness with
    | none =>
        rw [hline] at h
        cases h
    | some line =>
        rw [hline] at h
        cases h
        rfl

-- An effect sets lut_pattern, and nothing takes it back.
theorem lutPattern_step {maxLedBrightness : UInt32} {s next : State} {event : Nat × Event}
    (h : step maxLedBrightness s event = some next) :
    next.leds .green .lutPattern =
      if event.2.isLightUp then "1" else s.leds .green .lutPattern := by
  obtain ⟨time, event⟩ := event
  obtain ⟨state, rfl, rfl⟩ | ⟨heffect, _, rfl⟩ | ⟨hlight, _, rfl⟩ | ⟨rfl, _, _, _, _, _, he, rfl⟩ :=
    step_cases h
  · exact applyNotificationState_lutPattern maxLedBrightness state s.leds
  · have hlight : event.isLightUp = false := by
      cases event with
      | lightUp => exact heffect
      | _ => rfl
    rw [hlight]
    rfl
  · rw [hlight]
    rfl
  · exact restoreLed_lutPattern he

-- What the events so far have left in lut_pattern.
def lutPatternAfter (leds : Leds) (events : List (Nat × Event)) : String :=
  if events.any fun e => e.2.isLightUp then "1" else leds .green .lutPattern

theorem lutPattern_run {maxLedBrightness : UInt32} {s after : State} {events : List (Nat × Event)}
    (hrun : run (step maxLedBrightness) s events = some after) :
    after.leds .green .lutPattern = lutPatternAfter s.leds events := by
  have hstep : ∀ (past : List (Nat × Event)) (t : State) (event : Nat × Event) (next : State),
      t.leds .green .lutPattern = lutPatternAfter s.leds past → True →
      step maxLedBrightness t event = some next →
      next.leds .green .lutPattern = lutPatternAfter s.leds (past ++ [event]) := by
    intro past t event next ht _ h
    rw [lutPattern_step h, ht, lutPatternAfter, lutPatternAfter, List.any_append, List.any_cons,
      List.any_nil, Bool.or_false]
    cases event.2.isLightUp with
    | true => rw [Bool.or_true, if_pos rfl, if_pos rfl]
    | false => rw [Bool.or_false, if_neg Bool.false_ne_true]
  have hstart : s.leds .green .lutPattern = lutPatternAfter s.leds [] := rfl
  exact run_history_invariant _ (fun past t => t.leds .green .lutPattern =
    lutPatternAfter s.leds past) hstep hstart (along_true _ s events) hrun

theorem run_call_leds {maxLedBrightness : UInt32} {s next : State} {time : Nat}
    {state : HwLightState}
    (h : run (step maxLedBrightness) s [(time, .applyNotificationState state)] = some next) :
    next.leds = s.leds.writes (applyNotificationState maxLedBrightness state) := by
  obtain ⟨called, hstep, hnil⟩ := run_cons_some _ h
  cases hnil
  rw [step_call hstep]

-- A breathing notification looks as it does after boot as long as the camera has
-- not popped up with its light since then.
theorem breathing_sameAsFirst_iff {maxLedBrightness : UInt32} {start time time' : Nat} {leds : Leds}
    {history : List (Nat × Event)} {state : HwLightState} {after first : State}
    (hdefault : leds .green .lutPattern = "0") (htimed : state.isTimed = true)
    (hrun : run (step maxLedBrightness) (boot start leds)
      (history ++ [(time, .applyNotificationState state)]) = some after)
    (hfirst : run (step maxLedBrightness) (boot start leds)
      [(time', .applyNotificationState state)] = some first) :
    (∀ attr ∈ breathPattern, after.leds .green attr = first.leds .green attr) ↔
      ∀ e ∈ history, e.2.isLightUp = false := by
  obtain ⟨before, hbefore, hlast⟩ := run_append_some _ hrun
  have hboot : (boot start leds).leds .green .lutPattern = "0" := hdefault
  rw [run_call_leds hlast, run_call_leds hfirst,
    applyNotificationState_pattern_iff maxLedBrightness htimed before.leds (boot start leds).leds,
    lutPattern_run hbefore, lutPatternAfter, hboot]
  cases hany : history.any fun e => e.2.isLightUp with
  | true =>
      obtain ⟨e, he, hlight⟩ := List.any_eq_true.mp hany
      refine iff_of_false (by decide) fun h => ?_
      rw [h e he] at hlight
      cases hlight
  | false =>
      refine iff_of_true rfl fun e he => ?_
      exact Bool.eq_false_iff.mpr (List.any_eq_false.mp hany e he)

def blinking : HwLightState where
  color := 0xFF00FF00
  flashMode := .timed
  flashOnMs := 1000
  flashOffMs := 3000

theorem breathing_sameAsFirst_iff_afterSteady :
    ∃ after first,
      run (step 255) (boot 0 .dark)
        ([(0, .applyNotificationState green)] ++ [(10, .applyNotificationState blinking)]) =
          some after ∧
      run (step 255) (boot 0 .dark) [(10, .applyNotificationState blinking)] = some first ∧
      ((∀ attr ∈ breathPattern, after.leds .green attr = first.leds .green attr) ↔
        ∀ e ∈ [((0, .applyNotificationState green) : Nat × Event)], e.2.isLightUp = false) := by
  refine ⟨_, _, rfl, rfl, ?_⟩
  exact @breathing_sameAsFirst_iff 255 0 10 10 .dark [(0, .applyNotificationState green)] blinking
    _ _ rfl (by decide) rfl rfl

-- One completed effect leaves its lookup table pattern to every later
-- notification.
theorem breathing_afterEffect :
    ¬∀ (history : List (Nat × Event)) (time : Nat) (state : HwLightState)
      (before after first : State),
      run (step 255) (boot 0 .dark) history = some before → before.restores = [] →
      state.isTimed = true →
      step 255 before (time, .applyNotificationState state) = some after →
      step 255 (boot 0 .dark) (time, .applyNotificationState state) = some first →
      ∀ attr ∈ breathPattern, after.leds .green attr = first.leds .green attr := by
  intro h
  have hlut := h [(0, .lightUp true true), (1400, .restore)] 2000 blinking _ _ _ rfl rfl (by decide)
    rfl rfl .lutPattern (by decide)
  exact absurd hlut (by decide)

end Raphael.NotificationLed
