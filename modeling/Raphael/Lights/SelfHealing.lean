import Raphael.Lights.Theorems

namespace Raphael.Lights

-- A call of a client, and which of the writes that it leads to succeed.
structure Call where
  id : Int32
  state : HwLightState
  writable : Nat → Bool

-- Writes are numbered in their order. A failed one is not noticed.
def writesWhere (writable : Nat → Bool) (leds : Leds) (writes : List LedWrite) : Leds :=
  writes.zipIdx.foldl
    (fun leds write => if writable write.2 then leds.write write.1 else leds) leds

def serve (s : Service × Leds) (call : Call) : Service × Leds :=
  let outcome := s.1.setLightState call.id call.state
  (outcome.service, writesWhere call.writable s.2 outcome.writes)

def Service.getLights (service : Service) (lights : List Int32) : List Int32 :=
  lights ++ service.mAvailableLights

-- What the green LED shows for a state.
def display (maxLedBrightness : UInt32) (state : HwLightState) : String × Option String :=
  if state.isTimed then ("1", none)
  else ("0", some (toString (rgbaToBrightnessMax state.color maxLedBrightness).toNat))

-- The attributes that a breathing LED follows, as a state sets them.
def breathAttrs (state : HwLightState) : List (LedAttr × String) :=
  [(.stepMs, toString kRampStepDurationDefault.toNat), (.pauseLoCount, "30"), (.loIdx, "0"),
    (.delayOn, toString state.flashOnMs.toUInt32.toNat),
    (.delayOff, toString state.flashOffMs.toUInt32.toNat)]

theorem writesWhere_all {writable : Nat → Bool} (h : ∀ index, writable index = true) (leds : Leds)
    (writes : List LedWrite) : writesWhere writable leds writes = leds.writes writes := by
  unfold writesWhere Leds.writes
  simp only [h, if_true]
  rw [← List.foldl_map (f := Prod.fst) (g := Leds.write), List.zipIdx_map_fst]

theorem applyNotificationState_display (maxLedBrightness : UInt32) (state : HwLightState)
    (leds : Leds) :
    (leds.writes (applyNotificationState maxLedBrightness state)).shown .green =
      display maxLedBrightness state := by
  unfold display HwLightState.isTimed applyNotificationState
  by_cases htimed : state.flashMode = .timed ∧ 0 < state.flashOnMs ∧ 0 < state.flashOffMs
  · rw [if_pos htimed, if_pos (decide_eq_true htimed)]
    rfl
  · rw [if_neg htimed, if_neg (by simpa using htimed)]
    rfl

theorem applyNotificationState_breathAttrs (maxLedBrightness : UInt32) {state : HwLightState}
    (htimed : state.isTimed = true) (leds : Leds) :
    ∀ attr ∈ breathAttrs state,
      (leds.writes (applyNotificationState maxLedBrightness state)) .green attr.1 = attr.2 := by
  have hbranch : state.flashMode = .timed ∧ 0 < state.flashOnMs ∧ 0 < state.flashOffMs :=
    of_decide_eq_true htimed
  rw [applyNotificationState, if_pos hbranch]
  intro attr hattr
  simp only [breathAttrs, List.mem_cons, List.not_mem_nil, or_false] at hattr
  rcases hattr with rfl | rfl | rfl | rfl | rfl <;> rfl

-- The attribute that the HAL leaves out, as it writes lux_pattern in its place.
theorem applyNotificationState_attr (maxLedBrightness : UInt32) (state : HwLightState) :
    ∀ write ∈ applyNotificationState maxLedBrightness state, write.attr ≠ .lutPattern := by
  unfold applyNotificationState
  split <;> simp [writeToFile]

theorem setLightState_attr (service : Service) (id : Int32) (state : HwLightState) :
    ∀ write ∈ (service.setLightState id state).writes, write.attr ≠ .lutPattern := by
  intro write hwrite
  unfold Service.setLightState at hwrite
  split at hwrite
  · cases hwrite
  · cases hwrite
  · obtain ⟨applied, _, hmem⟩ := List.mem_flatMap.mp hwrite
    exact applyNotificationState_attr _ applied write hmem

theorem write_lutPattern {write : LedWrite} (h : write.attr ≠ .lutPattern) (leds : Leds)
    (led : Led) : (leds.write write) led .lutPattern = leds led .lutPattern := by
  obtain ⟨other, attr, value⟩ := write
  cases attr with
  | lutPattern => exact absurd rfl h
  | _ => simp [Leds.write, Leds.set]

theorem writesWhere_lutPattern (writable : Nat → Bool) (leds : Leds) {writes : List LedWrite}
    (h : ∀ write ∈ writes, write.attr ≠ .lutPattern) (led : Led) :
    writesWhere writable leds writes led .lutPattern = leds led .lutPattern := by
  have hindexed : ∀ write ∈ writes.zipIdx, write.1.attr ≠ .lutPattern :=
    fun write hwrite => h write.1 (List.fst_mem_of_mem_zipIdx hwrite)
  unfold writesWhere
  generalize writes.zipIdx = indexed at hindexed ⊢
  induction indexed generalizing leds with
  | nil => rfl
  | cons write rest ih =>
      obtain ⟨hfirst, hrest⟩ := List.forall_mem_cons.mp hindexed
      rw [List.foldl_cons, ih _ hrest]
      split
      · exact write_lutPattern hfirst leds led
      · rfl

theorem run_lutPattern (s : Service × Leds) (calls : List Call) (led : Led) :
    (calls.foldl serve s).2 led .lutPattern = s.2 led .lutPattern := by
  induction calls generalizing s with
  | nil => rfl
  | cons call rest ih =>
      rw [List.foldl_cons, ih]
      exact writesWhere_lutPattern _ _ (setLightState_attr s.1 call.id call.state) led

-- Failing writes leave their mark on the LED, never on the service.
theorem run_service (service : Service) (leds : Leds) (calls : List Call) :
    (calls.foldl serve (service, leds)).1 =
      service.after (calls.map fun call => (call.id, call.state)) := by
  induction calls generalizing service leds with
  | nil => rfl
  | cons call rest ih => exact ih _ _

theorem supported_iff (maxLedBrightness : UInt32) (calls : List (Int32 × HwLightState))
    (id : Int32) (state : HwLightState) :
    ((Service.ofHistory maxLedBrightness calls).setLightState id state).status = .ok ↔
      id ∈ (Service.ofHistory maxLedBrightness calls).getLights [] := by
  have havailable : id ∈ (Service.ofHistory maxLedBrightness calls).getLights [] ↔
      id = BACKLIGHT ∨ id = BATTERY ∨ id = NOTIFICATIONS := by
    simp [Service.getLights, Service.ofHistory, lights]
  rw [havailable, setLightState_ofHistory]
  by_cases hsource : id = NOTIFICATIONS ∨ id = BATTERY
  · rw [if_pos hsource]
    exact iff_of_true rfl (.inr hsource.symm)
  · rw [if_neg hsource]
    by_cases hbacklight : id = BACKLIGHT
    · rw [if_pos hbacklight]
      exact iff_of_true rfl (.inl hbacklight)
    · rw [if_neg hbacklight]
      apply iff_of_false
      · intro hok
        cases hok
      · exact not_or.mpr ⟨hbacklight, fun h => hsource h.symm⟩

-- One notification or battery call whose writes come through mends the LED:
-- it shows what the last states of the two sources ask for, whatever writes
-- have failed before and whatever the LED showed at first. Of the attributes of a
-- breathing LED it leaves lut_pattern alone. The lights on offer stay the ones
-- that are served.
theorem lights_mend {file : Option String} {service : Service}
    (hnew : Service.new file = some service) (leds : Leds) (calls : List Call) (last : Call)
    (hsource : last.id = NOTIFICATIONS ∨ last.id = BATTERY)
    (hwritable : ∀ index, last.writable index = true) :
    let final := (calls ++ [last]).foldl serve (service, leds)
    let state := shown ((calls ++ [last]).map fun call => (call.id, call.state))
    final.2.shown .green = display service.maxLedBrightness state ∧
      (state.isTimed = true →
        ∀ attr ∈ breathAttrs state, final.2 .green attr.1 = attr.2) ∧
      final.2 .green .lutPattern = leds .green .lutPattern ∧
      ∀ id other, (final.1.setLightState id other).status = .ok ↔ id ∈ final.1.getLights [] := by
  intro final state
  have hfinal : final = serve (calls.foldl serve (service, leds)) last := List.foldl_concat ..
  have hbefore : (calls.foldl serve (service, leds)).1 = Service.ofHistory service.maxLedBrightness
      (calls.map fun call => (call.id, call.state)) := by
    rw [run_service, Service.after_eq hnew]
  have hstate : state = shown ((calls.map fun call => (call.id, call.state)) ++
      [(last.id, last.state)]) := by
    simp only [state, List.map_append, List.map_cons, List.map_nil]
  have hleds : final.2 = (calls.foldl serve (service, leds)).2.writes
      (applyNotificationState service.maxLedBrightness state) := by
    rw [hfinal, serve, hbefore, setLightState_ofHistory, if_pos hsource, hstate]
    exact writesWhere_all hwritable _ _
  refine ⟨?_, fun htimed => ?_, run_lutPattern _ _ _, fun id other => ?_⟩
  · rw [hleds]
    exact applyNotificationState_display _ _ _
  · rw [hleds]
    exact applyNotificationState_breathAttrs _ htimed _
  · rw [run_service, Service.after_eq hnew]
    exact supported_iff _ _ id other

-- A notification that loses every write, and a battery call that loses none.
def lost : Call := ⟨NOTIFICATIONS, batteryOn, fun _ => false⟩
def written : Call := ⟨BATTERY, batteryOn, fun _ => true⟩

theorem lights_mend_lost :
    (([lost] ++ [written]).foldl serve (Service.ofHistory 255 [], .dark)).2.shown .green =
      display 255 batteryOn := by
  have hnew : Service.new (some "255\n") = some (Service.ofHistory 255 []) := by decide
  have hmended := (lights_mend hnew .dark [lost] written (.inr rfl) fun _ => rfl).1
  have hshown : shown (([lost] ++ [written]).map fun call => (call.id, call.state)) =
      batteryOn := by decide
  exact hmended.trans (congrArg (display 255) hshown)

end Raphael.Lights
