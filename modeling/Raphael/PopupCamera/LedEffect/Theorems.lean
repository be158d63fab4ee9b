import Raphael.PopupCamera.LedEffect

namespace Raphael.PopupCamera

open FileUtils

-- What the restore callback makes the green LED show again.
def LedEffect.savedShown (fx : LedEffect) : String × Option String :=
  if fx.mLedBreathing then ("1", none) else ("0", fx.mLedBrightness)

-- The fields after the snapshot of an idle service, all reads succeeding.
def LedEffect.snapshot (fx : LedEffect) (leds : Leds) : LedEffect :=
  if fx.mLedBusy then fx
  else
    { fx with
      mLedBreathing := leds .green .breath = "1"
      mLedBrightness := some (leds .green .brightness) }

theorem lightUp_allOk (isOpen : Bool) (fx : LedEffect) (leds : Leds) :
    lightUp allOk isOpen fx leds =
      .ok ({ fx.snapshot leds with mLedBusy := true }, showEffect allOk isOpen leds) := by
  have hsave : saveActiveEffects allOk fx leds = some (fx.snapshot leds) := by
    unfold saveActiveEffects LedEffect.snapshot
    split <;> rfl
  rw [lightUp, hsave]

theorem LedEffect.snapshot_brightness {fx : LedEffect} (leds : Leds)
    (h : fx.mLedBrightness.isSome) : (fx.snapshot leds).mLedBrightness.isSome := by
  unfold LedEffect.snapshot
  split
  · exact h
  · rfl

theorem LedEffect.snapshot_of_busy {fx : LedEffect} (leds : Leds) (h : fx.mLedBusy = true) :
    fx.snapshot leds = fx := by
  rw [LedEffect.snapshot, if_pos h]

-- A snapshot of an idle service restores what the LED shows, as long as the
-- breath value is one that the two programs write.
theorem LedEffect.savedShown_snapshot {fx : LedEffect} {leds : Leds} (hidle : fx.mLedBusy = false)
    (hbreath : leds .green .breath = "0" ∨ leds .green .breath = "1") :
    (fx.snapshot leds).savedShown = leds.shown .green := by
  have hfx : ¬fx.mLedBusy = true := by rw [hidle]; decide
  rw [LedEffect.snapshot, if_neg hfx]
  rcases hbreath with h | h
  · rw [Leds.shown_of_steady h]
    simp [LedEffect.savedShown, h]
  · rw [Leds.shown_of_breath h (by decide)]
    simp [LedEffect.savedShown, h]

theorem restoreLed_allOk {fx : LedEffect} (leds : Leds) (hsome : fx.mLedBrightness.isSome) :
    ∃ restored, restoreLed allOk fx leds = .ok ({ fx with mLedBusy := false }, restored) ∧
      restored.shown .green = fx.savedShown := by
  obtain ⟨line, hline⟩ := Option.isSome_iff_exists.mp hsome
  by_cases hbreathing : fx.mLedBreathing = true
  · refine ⟨(clearEffect allOk leds).write ⟨.green, .breath, "1"⟩, ?_, ?_⟩
    · rw [restoreLed, if_pos hbreathing]
      rfl
    · have hbreath : ((clearEffect allOk leds).write ⟨.green, .breath, "1"⟩) .green .breath = "1" :=
        rfl
      rw [Leds.shown_of_breath hbreath (by decide), LedEffect.savedShown, if_pos hbreathing]
  · refine ⟨(clearEffect allOk leds).write ⟨.green, .brightness, line⟩, ?_, ?_⟩
    · rw [restoreLed, if_neg hbreathing, hline]
      rfl
    · rw [Leds.shown_of_steady rfl, LedEffect.savedShown, if_neg hbreathing, hline]
      rfl

end Raphael.PopupCamera
