import Raphael.NotificationLed.Theorems

namespace Raphael.NotificationLed

open PopupCamera Trace

-- What the green LED was doing before the first effect.
structure Light where
  breathing : Bool
  brightness : String

namespace Light

-- The breath attribute is a switch.
def breath (light : Light) : String := if light.breathing then "1" else "0"

def On (light : Light) (leds : Leds) : Prop :=
  leds .green .breath = light.breath ∧ leds .green .brightness = light.brightness

-- The brightness of a breathing LED is not seen.
def ShownBy (light : Light) (leds : Leds) : Prop :=
  leds .green .breath = light.breath ∧
    (light.breathing = false → leds .green .brightness = light.brightness)

-- Of a breathing LED the saved brightness may also be the zero that an earlier
-- effect has left behind.
def SavedIn (light : Light) (fx : LedEffect) : Prop :=
  fx.mLedBreathing = light.breathing ∧
    (light.breathing = false → fx.mLedBrightness = some light.brightness) ∧
    (fx.mLedBrightness = some light.brightness ∨ fx.mLedBrightness = some "0")

def goal (light : Light) : String × Option String :=
  (light.breath, if light.breathing then none else some light.brightness)

variable {light : Light}

theorem goal_regular : Regular light.goal := by
  unfold Regular goal breath
  cases light.breathing with
  | false => exact .inl rfl
  | true => exact .inr rfl

theorem shownBy_iff {leds : Leds} : light.ShownBy leds ↔ leds.shown .green = light.goal := by
  obtain ⟨breathing, brightness⟩ := light
  cases breathing with
  | false =>
      constructor
      · rintro ⟨hbreath, hbrightness⟩
        rw [Leds.shown_of_steady hbreath, hbrightness rfl]
        rfl
      · intro h
        have hbreath : leds .green .breath = "0" := congrArg Prod.fst h
        rw [Leds.shown_of_steady hbreath] at h
        exact ⟨hbreath, fun _ => Option.some.inj (congrArg Prod.snd h)⟩
  | true =>
      constructor
      · rintro ⟨hbreath, _⟩
        have hne : "1" ≠ "0" := by decide
        exact Leds.shown_of_breath hbreath hne
      · intro h
        exact ⟨congrArg Prod.fst h, (fun hbreathing => nomatch hbreathing)⟩

theorem On.shownBy {leds : Leds} (h : light.On leds) : light.ShownBy leds :=
  ⟨h.1, fun _ => h.2⟩

theorem savedIn_of_goal {fx : LedEffect} (h : fx.savedShown = light.goal)
    (hkept : fx.mLedBrightness = some light.brightness ∨ fx.mLedBrightness = some "0") :
    light.SavedIn fx := by
  obtain ⟨breathing, brightness⟩ := light
  unfold LedEffect.savedShown at h
  cases hb : fx.mLedBreathing with
  | false =>
      rw [hb] at h
      cases breathing with
      | false => exact ⟨hb, fun _ => congrArg Prod.snd h, hkept⟩
      | true =>
          have hbreath : "0" = "1" := congrArg Prod.fst h
          exact absurd hbreath (by decide)
  | true =>
      rw [hb] at h
      cases breathing with
      | false =>
          have hbreath : "1" = "0" := congrArg Prod.fst h
          exact absurd hbreath (by decide)
      | true => exact ⟨hb, (fun hsteady => nomatch hsteady), hkept⟩

end Light

-- No brightness but the original one and zero is ever read or written.
structure Dimmed (brightness : String) (s : State) : Prop where
  led : s.leds .green .brightness = brightness ∨ s.leds .green .brightness = "0"
  saved : s.fx.mLedBrightness = some brightness ∨ s.fx.mLedBrightness = some "0"

theorem snapshot_dimmed {brightness : String} {s : State} (hs : Dimmed brightness s) :
    (s.fx.snapshot s.leds).mLedBrightness = some brightness ∨
      (s.fx.snapshot s.leds).mLedBrightness = some "0" := by
  unfold LedEffect.snapshot
  split
  · exact hs.saved
  · exact hs.led.imp (congrArg some) (congrArg some)

theorem restoreLed_brightness {fx fx' : LedEffect} {leds leds' : Leds} {brightness : String}
    (hsaved : fx.mLedBrightness = some brightness ∨ fx.mLedBrightness = some "0")
    (h : restoreLed allOk fx leds = .ok (fx', leds')) :
    fx'.mLedBrightness = fx.mLedBrightness ∧
      (leds' .green .brightness = brightness ∨ leds' .green .brightness = "0") := by
  by_cases hbreathing : fx.mLedBreathing = true
  · rw [restoreLed, if_pos hbreathing] at h
    cases h
    exact ⟨rfl, .inr rfl⟩
  · rw [restoreLed, if_neg hbreathing] at h
    rcases hsaved with hline | hline
    · rw [hline] at h
      cases h
      exact ⟨hline.symm, .inl rfl⟩
    · rw [hline] at h
      cases h
      exact ⟨hline.symm, .inr rfl⟩

theorem Dimmed.after_step {maxLedBrightness : UInt32} {s next : State} {event : Nat × Event}
    {brightness : String} (hs : Dimmed brightness s) (hcall : event.2.isCall = false)
    (h : step maxLedBrightness s event = some next) : Dimmed brightness next := by
  obtain ⟨time, event⟩ := event
  obtain ⟨state, rfl, _⟩ | ⟨_, _, rfl⟩ | ⟨_, isOpen, rfl⟩ | ⟨_, due, rest, fx, leds, _, he, rfl⟩ :=
    step_cases h
  · cases hcall
  · exact ⟨hs.led, hs.saved⟩
  · exact ⟨.inr rfl, snapshot_dimmed hs⟩
  · obtain ⟨hfx, hleds⟩ := restoreLed_brightness hs.saved he
    exact ⟨hleds, by rw [hfx]; exact hs.saved⟩

-- What holds of the flag, the snapshot, the registers and the callbacks while
-- only effects run.
structure Overlapping (light : Light) (s : State) : Prop where
  consistent : Consistent s
  settled : Settled light.goal s
  dimmed : Dimmed light.brightness s

theorem Overlapping.after_step {maxLedBrightness : UInt32} {s next : State} {event : Nat × Event}
    {light : Light} (hs : Overlapping light s) (hcall : event.2.isCall = false)
    (h : step maxLedBrightness s event = some next) : Overlapping light next where
  consistent := hs.consistent.after_step h
  settled := hs.settled.after_step hs.consistent light.goal_regular hcall h
  dimmed := hs.dimmed.after_step hcall h

theorem boot_overlapping {light : Light} {leds : Leds} (hlight : light.On leds) (now : Nat) :
    Overlapping light (boot now leds) where
  consistent := boot_consistent now leds
  settled :=
    ⟨(fun hbusy => nomatch hbusy), fun _ => Light.shownBy_iff.mp hlight.shownBy,
      fun hrestores => absurd rfl hrestores⟩
  dimmed := ⟨.inl hlight.2, .inr rfl⟩

-- A busy service remembers the original light, however many effects overlap,
-- and an idle one shows it, although callbacks may still be pending.
theorem effects_keepLight {maxLedBrightness : UInt32} {start : Nat} {leds : Leds} {light : Light}
    {events : List (Nat × Event)} {after : State} (hlight : light.On leds)
    (heffects : ∀ e ∈ events, e.2.isCall = false)
    (hrun : run (step maxLedBrightness) (boot start leds) events = some after) :
    (after.fx.mLedBusy = true → light.SavedIn after.fx) ∧
      (after.fx.mLedBusy = false → light.ShownBy after.leds) ∧
      (after.restores = [] → after.fx.mLedBusy = false ∧ light.ShownBy after.leds) := by
  have hafter : Overlapping light after :=
    run_invariant _ (Overlapping light) (fun _ _ _ hs hcall h => hs.after_step hcall h)
      (boot_overlapping hlight start) (along_of_forall _ heffects _) hrun
  have hidle : after.fx.mLedBusy = false → light.ShownBy after.leds :=
    fun hb => Light.shownBy_iff.mpr (hafter.settled.idle hb)
  refine ⟨fun hb => Light.savedIn_of_goal (hafter.settled.busy hb) hafter.dimmed.saved, hidle,
    fun hdrained => ?_⟩
  cases hb : after.fx.mLedBusy with
  | false => exact ⟨rfl, hidle hb⟩
  | true => exact absurd hdrained (hafter.consistent.pending hb)

-- The first callback clears the flag inside the second effect, and the third
-- effect takes a snapshot of its own.
theorem effects_keepLight_overlapping :
    ∃ after,
      run (step 255) (boot 0 (Leds.dark.set .green .brightness "149"))
        [(0, .lightUp true true), (600, .lightUp false true), (1400, .restore),
          (1500, .lightUp true true), (2000, .restore), (2900, .restore)] = some after ∧
      after.fx.mLedBusy = false ∧ Light.ShownBy ⟨false, "149"⟩ after.leds := by
  refine ⟨_, rfl, ?_⟩
  exact (@effects_keepLight 255 0 (Leds.dark.set .green .brightness "149") ⟨false, "149"⟩
    [(0, .lightUp true true), (600, .lightUp false true), (1400, .restore),
      (1500, .lightUp true true), (2000, .restore), (2900, .restore)] _ ⟨rfl, rfl⟩ (by decide)
    rfl).2.2 rfl

-- The snapshot of a breathing LED is not the original one: the first effect has
-- left its brightness at zero when the second one begins. A breath value that
-- is no switch position is not even restored.
theorem effects_keepLight_breathing :
    (∃ after,
      run (step 255) (boot 0 ((Leds.dark.set .green .brightness "149").set .green .breath "1"))
        [(0, .lightUp true true), (1400, .restore), (1500, .lightUp false true)] = some after ∧
      after.fx.mLedBusy = true ∧ after.fx.mLedBreathing = true ∧
      after.fx.mLedBrightness = some "0" ∧ after.fx.mLedBrightness ≠ some "149") ∧
    ∃ after,
      run (step 255) (boot 0 ((Leds.dark.set .green .brightness "149").set .green .breath "2"))
        [(0, .lightUp true true), (1400, .restore)] = some after ∧
      after.fx.mLedBusy = false ∧ after.leds .green .breath ≠ "2" :=
  ⟨⟨_, rfl, rfl, rfl, rfl, by decide⟩, _, rfl, rfl, by decide⟩

end Raphael.NotificationLed
