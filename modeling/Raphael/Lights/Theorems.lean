import Mathlib.Data.List.Induction
import Raphael.Lights

namespace Raphael.Lights

-- The state that the calls so far have left for a source, all-zero at first.
def lastStored (source : Int32) (calls : List (Int32 × HwLightState)) : HwLightState :=
  (calls.reverse.lookup source).getD {}

-- Lit notifications win, and the battery light is the fallback even when unlit.
def shown (calls : List (Int32 × HwLightState)) : HwLightState :=
  if isLit (lastStored NOTIFICATIONS calls).color then lastStored NOTIFICATIONS calls
  else lastStored BATTERY calls

-- The states that breathe, in any colour.
def HwLightState.isTimed (state : HwLightState) : Bool :=
  state.flashMode = .timed ∧ 0 < state.flashOnMs ∧ 0 < state.flashOffMs

-- The service as its history determines it.
def Service.ofHistory (maxLedBrightness : UInt32) (calls : List (Int32 × HwLightState)) :
    Service where
  maxLedBrightness := maxLedBrightness
  mLights := lights
  mAvailableLights := lights.map Prod.fst
  notifStates :=
    [(NOTIFICATIONS, lastStored NOTIFICATIONS calls), (BATTERY, lastStored BATTERY calls)]

def Service.after (service : Service) (calls : List (Int32 × HwLightState)) : Service :=
  calls.foldl (fun current call => (current.setLightState call.1 call.2).service) service

theorem lastStored_append (source id : Int32) (calls : List (Int32 × HwLightState))
    (state : HwLightState) :
    lastStored source (calls ++ [(id, state)]) =
      if source = id then state else lastStored source calls := by
  unfold lastStored
  rw [List.reverse_append, List.reverse_singleton, List.singleton_append, List.lookup_cons]
  by_cases h : source = id
  · simp [h]
  · simp [h, beq_false_of_ne h]

theorem Service.ofHistory_append_of_ne (maxLedBrightness : UInt32) {id : Int32}
    (calls : List (Int32 × HwLightState)) (state : HwLightState)
    (hnotifications : NOTIFICATIONS ≠ id) (hbattery : BATTERY ≠ id) :
    Service.ofHistory maxLedBrightness (calls ++ [(id, state)]) =
      Service.ofHistory maxLedBrightness calls := by
  simp only [Service.ofHistory, lastStored_append, if_neg hnotifications, if_neg hbattery]

section Loop

variable (id : Int32) (state : HwLightState)

def stored (entry : Int32 × HwLightState) : Int32 × HwLightState :=
  (entry.1, if entry.1 = id then state else entry.2)

def wins (entry : Int32 × HwLightState) : Bool := entry.1 = BATTERY ∨ isLit entry.2.color

-- The loop stores the state at every matching source, and applies the first
-- winner of what is then stored.
theorem setLightNotificationLoop_spec (found : Bool) (notifStates : List (Int32 × HwLightState)) :
    setLightNotificationLoop id state found notifStates =
      (notifStates.map (stored id state),
        if found then [] else
          (((notifStates.map (stored id state)).find? wins).map Prod.snd).toList) := by
  induction notifStates generalizing found with
  | nil => cases found <;> rfl
  | cons entry rest ih =>
      obtain ⟨curId, curState⟩ := entry
      have hentry : stored id state (curId, curState) =
          (curId, if curId = id then state else curState) := rfl
      rw [setLightNotificationLoop, ih, ih, List.map_cons, hentry, List.find?_cons]
      generalize (if curId = id then state else curState) = cur
      cases found with
      | true => simp
      | false =>
          by_cases hwins : curId = BATTERY ∨ isLit cur.color = true
          · have h : wins (curId, cur) = true := by simpa [wins] using hwins
            simp [hwins, h]
          · have h : wins (curId, cur) = false := by simpa [wins] using hwins
            simp [hwins, h]

theorem setLightNotification_ofHistory (maxLedBrightness : UInt32)
    (calls : List (Int32 × HwLightState)) :
    (Service.ofHistory maxLedBrightness calls).setLightNotification id state =
      (Service.ofHistory maxLedBrightness (calls ++ [(id, state)]),
        [shown (calls ++ [(id, state)])]) := by
  have hstored : (Service.ofHistory maxLedBrightness calls).notifStates.map (stored id state) =
      (Service.ofHistory maxLedBrightness (calls ++ [(id, state)])).notifStates := by
    simp only [Service.ofHistory, stored, List.map_cons, List.map_nil, lastStored_append]
  have hfirst : ((Service.ofHistory maxLedBrightness (calls ++ [(id, state)])).notifStates.find?
      wins).map Prod.snd = some (shown (calls ++ [(id, state)])) := by
    have hne : NOTIFICATIONS ≠ BATTERY := by decide
    unfold shown
    by_cases hlit : isLit (lastStored NOTIFICATIONS (calls ++ [(id, state)])).color = true
    · simp [Service.ofHistory, wins, hlit]
    · simp [Service.ofHistory, wins, hlit, hne]
  rw [Service.setLightNotification, setLightNotificationLoop_spec, hstored, hfirst]
  rfl

end Loop

-- One call, on a service that its history determines.
theorem setLightState_ofHistory (maxLedBrightness : UInt32) (calls : List (Int32 × HwLightState))
    (id : Int32) (state : HwLightState) :
    (Service.ofHistory maxLedBrightness calls).setLightState id state =
      if id = NOTIFICATIONS ∨ id = BATTERY then
        ⟨.ok, Service.ofHistory maxLedBrightness (calls ++ [(id, state)]),
          [shown (calls ++ [(id, state)])],
          applyNotificationState maxLedBrightness (shown (calls ++ [(id, state)]))⟩
      else if id = BACKLIGHT then ⟨.ok, Service.ofHistory maxLedBrightness calls, [], []⟩
      else ⟨.exUnsupportedOperation, Service.ofHistory maxLedBrightness calls, [], []⟩ := by
  have hlights : (Service.ofHistory maxLedBrightness calls).mLights = lights := rfl
  rw [Service.setLightState, hlights]
  by_cases hsource : id = NOTIFICATIONS ∨ id = BATTERY
  · have hfn : lights.lookup id = some .setLightNotification := by
      rcases hsource with rfl | rfl <;> decide
    rw [if_pos hsource, hfn, setLightNotification_ofHistory]
    simp only [List.flatMap_cons, List.flatMap_nil, List.append_nil]
    rfl
  · obtain ⟨hnotifications, hbattery⟩ := not_or.mp hsource
    rw [if_neg hsource]
    by_cases hbacklight : id = BACKLIGHT
    · have hfn : lights.lookup id = some .empty := by rw [hbacklight]; decide
      rw [if_pos hbacklight, hfn]
    · have hfn : lights.lookup id = none := by
        simp [lights, hbacklight, hbattery, hnotifications]
      rw [if_neg hbacklight, hfn]

theorem setLightState_service_ofHistory (maxLedBrightness : UInt32)
    (calls : List (Int32 × HwLightState)) (id : Int32) (state : HwLightState) :
    ((Service.ofHistory maxLedBrightness calls).setLightState id state).service =
      Service.ofHistory maxLedBrightness (calls ++ [(id, state)]) := by
  rw [setLightState_ofHistory]
  by_cases hsource : id = NOTIFICATIONS ∨ id = BATTERY
  · rw [if_pos hsource]
  · obtain ⟨hnotifications, hbattery⟩ := not_or.mp hsource
    rw [if_neg hsource, Service.ofHistory_append_of_ne maxLedBrightness calls state
      (Ne.symm hnotifications) (Ne.symm hbattery)]
    split <;> rfl

theorem Service.new_eq {file : Option String} {service : Service}
    (hnew : Service.new file = some service) :
    service = Service.ofHistory service.maxLedBrightness [] := by
  obtain ⟨maxLedBrightness, _, rfl⟩ := Option.map_eq_some_iff.mp hnew
  rfl

-- Every run is determined by the last state of each source.
theorem Service.after_eq {file : Option String} {service : Service}
    (hnew : Service.new file = some service) (calls : List (Int32 × HwLightState)) :
    service.after calls = Service.ofHistory service.maxLedBrightness calls := by
  induction calls using List.reverseRecOn with
  | nil => exact Service.new_eq hnew
  | append_singleton calls call ih =>
      obtain ⟨id, state⟩ := call
      have hstep : service.after (calls ++ [(id, state)]) =
          ((service.after calls).setLightState id state).service := List.foldl_concat ..
      rw [hstep, ih, setLightState_service_ofHistory]

-- What is shown after a call depends on the other source's last state only.
theorem shown_append_congr {calls others : List (Int32 × HwLightState)} {id : Int32}
    (state : HwLightState)
    (hsame : ∀ source, source = NOTIFICATIONS ∨ source = BATTERY → source ≠ id →
      lastStored source others = lastStored source calls) :
    shown (others ++ [(id, state)]) = shown (calls ++ [(id, state)]) := by
  have hlast : ∀ source, source = NOTIFICATIONS ∨ source = BATTERY →
      lastStored source (others ++ [(id, state)]) =
        lastStored source (calls ++ [(id, state)]) := by
    intro source hs
    rw [lastStored_append, lastStored_append]
    split
    · rfl
    · exact hsame source hs ‹_›
  rw [shown, shown, hlast NOTIFICATIONS (.inl rfl), hlast BATTERY (.inr rfl)]

theorem setLightState_priority {file : Option String} {service : Service}
    (hnew : Service.new file = some service) (calls : List (Int32 × HwLightState)) (id : Int32)
    (state : HwLightState) :
    let before := service.after calls
    let result := before.setLightState id state
    (id ≠ BACKLIGHT ∧ id ≠ BATTERY ∧ id ≠ NOTIFICATIONS →
      result.status = .exUnsupportedOperation ∧ result.writes = [] ∧ result.applied = [] ∧
        result.service = before) ∧
    (id = BACKLIGHT →
      result.status = .ok ∧ result.writes = [] ∧ result.applied = [] ∧ result.service = before) ∧
    (id = NOTIFICATIONS ∨ id = BATTERY →
      result.status = .ok ∧
        result.applied =
          [if isLit (lastStored NOTIFICATIONS (calls ++ [(id, state)])).color then
            lastStored NOTIFICATIONS (calls ++ [(id, state)])
          else lastStored BATTERY (calls ++ [(id, state)])] ∧
        result.writes = result.applied.flatMap (applyNotificationState service.maxLedBrightness) ∧
        ∀ others : List (Int32 × HwLightState),
          (∀ source, source = NOTIFICATIONS ∨ source = BATTERY → source ≠ id →
            lastStored source others = lastStored source calls) →
          ((service.after others).setLightState id state).writes = result.writes) := by
  intro before result
  have hresult : result = (Service.ofHistory service.maxLedBrightness calls).setLightState
      id state := by rw [← Service.after_eq hnew calls]
  have hbefore : before = Service.ofHistory service.maxLedBrightness calls :=
    Service.after_eq hnew calls
  rw [hresult, hbefore, setLightState_ofHistory]
  refine ⟨fun ⟨hbacklight, hbattery, hnotifications⟩ => ?_, fun hbacklight => ?_, fun hsource => ?_⟩
  · rw [if_neg (not_or.mpr ⟨hnotifications, hbattery⟩), if_neg hbacklight]
    exact ⟨rfl, rfl, rfl, rfl⟩
  · have hother : ¬(id = NOTIFICATIONS ∨ id = BATTERY) := by rw [hbacklight]; decide
    rw [if_neg hother, if_pos hbacklight]
    exact ⟨rfl, rfl, rfl, rfl⟩
  · rw [if_pos hsource]
    refine ⟨rfl, rfl, by rw [List.flatMap_singleton], fun others hsame => ?_⟩
    rw [Service.after_eq hnew others, setLightState_ofHistory, if_pos hsource,
      shown_append_congr state hsame]

-- A battery light under a notification that has just gone dark.
def batteryOn : HwLightState where
  color := 0xFF00FF00

theorem setLightState_priority_battery :
    Service.new (some "255\n") = some (Service.ofHistory 255 []) ∧
      (((Service.ofHistory 255 []).after [(BATTERY, batteryOn)]).setLightState NOTIFICATIONS
        {}).applied = [batteryOn] := by
  have hnew : Service.new (some "255\n") = some (Service.ofHistory 255 []) := by decide
  refine ⟨hnew, ?_⟩
  obtain ⟨_, _, hsource⟩ := setLightState_priority hnew [(BATTERY, batteryOn)] NOTIFICATIONS {}
  rw [(hsource (.inl rfl)).2.1]
  decide

end Raphael.Lights
