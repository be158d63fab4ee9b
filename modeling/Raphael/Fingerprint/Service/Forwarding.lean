import Mathlib.Data.List.Forall2
import Mathlib.Data.List.TakeWhile
import Raphael.Fingerprint.Notify.Theorems
import Raphael.Fingerprint.Service.Theorems

namespace Raphael.Fingerprint.Service

open FodStatus (readBool PARAM_NIT_FOD PARAM_NIT_NONE)
open Trace (run run_cons_some)

-- What an event asks of the vendor library: the poll thread the brightness that
-- the finger needs, and a client what it has called. Paths of the framework's
-- data are moved to the vendor's.
inductive Asks : Event → DeviceCall → Prop where
  | fingerDown {rc : Int} {c : Char} (written : Bool) (hpoll : 0 ≤ rc) (hdown : c ≠ '0') :
      Asks (.pollFodUi rc 0 1 c written) (.extCmd 10 1)
  | fingerUp {rc lseekRc readRc : Int} {c : Char} (written : Bool) (hpoll : 0 ≤ rc)
      (hup : ¬(lseekRc = 0 ∧ readRc = 1 ∧ c ≠ '0')) :
      Asks (.pollFodUi rc lseekRc readRc c written) (.extCmd 10 0)
  | preEnroll (id : UInt64) : Asks (.clientCall (.preEnroll id)) .preEnroll
  | enroll (hat : HwAuthToken) (gid timeoutSec : UInt32) (rc : Int32) :
      Asks (.clientCall (.enroll hat gid timeoutSec rc)) (.enroll hat gid timeoutSec)
  | postEnroll (rc : Int32) : Asks (.clientCall (.postEnroll rc)) .postEnroll
  | getAuthenticatorId (id : UInt64) :
      Asks (.clientCall (.getAuthenticatorId id)) .getAuthenticatorId
  | cancel (rc : Int32) : Asks (.clientCall (.cancel rc)) .cancel
  | enumerate (rc : Int32) : Asks (.clientCall (.enumerate rc)) .enumerate
  | remove (gid fid : UInt32) (rc : Int32) :
      Asks (.clientCall (.remove gid fid rc)) (.remove gid fid)
  | movedGroup (gid : UInt32) (rest : String) (access : Int) (rc : Int32) :
      Asks (.clientCall (.setActiveGroup gid ("/data/system/users/" ++ rest) access rc))
        (.setActiveGroup gid (cStr ("/data/vendor_de/" ++ rest)))
  | keptGroup (gid : UInt32) {storePath : String}
      (houtside : ¬"/data/system/users/".toList <+: storePath.toList) (access : Int) (rc : Int32) :
      Asks (.clientCall (.setActiveGroup gid storePath access rc))
        (.setActiveGroup gid (cStr storePath))
  | authenticate (operationId : UInt64) (gid : UInt32) (rc : Int32) :
      Asks (.clientCall (.authenticate operationId gid rc)) (.authenticate operationId gid)
  | extCmd (cmd param : Int) (rc : Int32) :
      Asks (.clientCall (.extCmd cmd param rc)) (.extCmd cmd param)

-- The answer of the vendor library that a call hands on as a status.
def Call.rc : Call → Option Int32
  | .setNotify _ | .preEnroll _ | .getAuthenticatorId _ | .extCmd _ _ _ => none
  | .enroll _ _ _ rc | .postEnroll rc | .cancel rc | .enumerate rc | .remove _ _ rc
  | .setActiveGroup _ _ _ rc | .authenticate _ _ rc => some rc

theorem callDevice_calls {s next : State} {call : DeviceCall}
    (h : callDevice s call = .ok next) : next.calls = s.calls ++ [call] := by
  cases hdevice : s.mDevice with
  | none =>
      simp only [callDevice, hdevice] at h
      cases h
  | some device =>
      simp only [callDevice, hdevice] at h
      cases h
      rfl

-- A step that goes on has asked for just what its event asks.
inductive Forwards (s : State) (event : Event) (next : State) : Prop where
  | replied (huses : event.usesDevice = false) (hcalls : next.calls = s.calls)
  | asked (huses : event.usesDevice = true) (call : DeviceCall) (hasks : Asks event call)
      (hcalls : next.calls = s.calls ++ [call])

theorem answered_forwards {s next : State} {event : Event} {call : DeviceCall} {reply : Reply}
    (huses : event.usesDevice = true) (hasks : Asks event call)
    (h : ((callDevice s call).map fun s => (reply, s)).map Prod.snd = .ok next) :
    Forwards s event next := by
  cases hresult : callDevice s call with
  | error fault =>
      rw [hresult] at h
      cases h
  | ok middle =>
      rw [hresult] at h
      cases h
      exact .asked huses call hasks (callDevice_calls hresult)

-- The guard of setActiveGroup, as the source takes it apart.
theorem setActiveGroup_eq (s : State) (gid : UInt32) (storePath : String) (access : Int)
    (rc : Int32) :
    setActiveGroup s gid storePath access rc =
      if (Call.setActiveGroup gid storePath access rc).usesDevice then
        returnStatus s (.setActiveGroup gid (cStr (mutableStorePath storePath))) rc
      else .ok (.status .sysEinval, s) := by
  unfold setActiveGroup
  by_cases hlength : storePath.utf8ByteSize ≥ PATH_MAX ∨ storePath.utf8ByteSize ≤ 0
  · rw [if_pos hlength, if_neg]
    simp only [Call.usesDevice, Bool.and_eq_true, decide_eq_true_eq]
    omega
  · rw [if_neg hlength]
    by_cases haccess : access = 0
    · rw [if_neg (not_not.mpr haccess), if_pos]
      simp only [Call.usesDevice, Bool.and_eq_true, decide_eq_true_eq]
      omega
    · rw [if_pos haccess, if_neg]
      simp [Call.usesDevice, haccess]

theorem eq_systemUsers_append {storePath : String} {rest : List Char}
    (h : systemUsers.toList ++ rest = storePath.toList) :
    storePath = systemUsers ++ String.ofList rest := by
  apply String.toList_injective
  rw [String.toList_append, String.toList_ofList, h]

theorem mutableStorePath_moved (rest : String) :
    mutableStorePath (systemUsers ++ rest) = "/data/vendor_de/" ++ rest := by
  have hprefix : systemUsers.toList.isPrefixOf (systemUsers ++ rest).toList = true := by
    rw [String.toList_append]
    exact List.isPrefixOf_iff_prefix.mpr (List.prefix_append _ _)
  have hdrop : (systemUsers ++ rest).toList.drop systemUsers.length = rest.toList := by
    rw [String.toList_append]
    exact List.drop_left
  rw [mutableStorePath, if_pos hprefix, hdrop, String.ofList_toList]

theorem setActiveGroup_asks (gid : UInt32) (storePath : String) (access : Int) (rc : Int32) :
    Asks (.clientCall (.setActiveGroup gid storePath access rc))
      (.setActiveGroup gid (cStr (mutableStorePath storePath))) := by
  by_cases hprefix : systemUsers.toList <+: storePath.toList
  · obtain ⟨rest, hrest⟩ := hprefix
    rw [eq_systemUsers_append hrest, mutableStorePath_moved]
    exact .movedGroup gid _ access rc
  · rw [mutableStorePath, if_neg fun h => hprefix (List.isPrefixOf_iff_prefix.mp h)]
    exact .keptGroup gid hprefix access rc

theorem perform_forwards {s next : State} {call : Call}
    (h : (perform s call).map Prod.snd = .ok next) : Forwards s (.clientCall call) next := by
  cases call with
  | setNotify hasClientCallback =>
      cases h
      exact .replied rfl rfl
  | setActiveGroup gid storePath access rc =>
      rw [perform, setActiveGroup_eq] at h
      by_cases huses : (Call.setActiveGroup gid storePath access rc).usesDevice = true
      · rw [if_pos huses] at h
        exact answered_forwards huses (setActiveGroup_asks gid storePath access rc) h
      · rw [if_neg huses] at h
        cases h
        exact .replied (Bool.eq_false_iff.mpr huses) rfl
  | preEnroll id => exact answered_forwards rfl (.preEnroll id) h
  | enroll hat gid timeoutSec rc =>
      exact answered_forwards rfl (.enroll hat gid timeoutSec rc) h
  | postEnroll rc => exact answered_forwards rfl (.postEnroll rc) h
  | getAuthenticatorId id => exact answered_forwards rfl (.getAuthenticatorId id) h
  | cancel rc => exact answered_forwards rfl (.cancel rc) h
  | enumerate rc => exact answered_forwards rfl (.enumerate rc) h
  | remove gid fid rc => exact answered_forwards rfl (.remove gid fid rc) h
  | authenticate operationId gid rc =>
      exact answered_forwards rfl (.authenticate operationId gid rc) h
  | extCmd cmd param rc => exact answered_forwards rfl (.extCmd cmd param rc) h

theorem readBool_eq_true_iff {lseekRc readRc : Int} {c : Char} :
    readBool lseekRc readRc c = true ↔ lseekRc = 0 ∧ readRc = 1 ∧ c ≠ '0' := by
  unfold readBool
  by_cases hlseek : lseekRc = 0
  · by_cases hread : readRc = 1
    · simp [hlseek, hread]
    · simp [hlseek, hread]
  · simp [hlseek]

theorem pollFodUi_asks {rc lseekRc readRc : Int} {c : Char} (written : Bool) (hrc : 0 ≤ rc) :
    Asks (.pollFodUi rc lseekRc readRc c written)
      (.extCmd COMMAND_NIT
        (if readBool lseekRc readRc c then PARAM_NIT_FOD else PARAM_NIT_NONE)) := by
  by_cases hdown : readBool lseekRc readRc c = true
  · obtain ⟨rfl, rfl, hc⟩ := readBool_eq_true_iff.mp hdown
    rw [if_pos hdown]
    exact .fingerDown written hrc hc
  · rw [if_neg hdown]
    exact .fingerUp written hrc fun h => hdown (readBool_eq_true_iff.mpr h)

theorem pollFodUi_forwards {s next : State} {rc lseekRc readRc : Int} {c : Char} {written : Bool}
    (h : pollFodUi s rc lseekRc readRc c written = .ok next) :
    Forwards s (.pollFodUi rc lseekRc readRc c written) next := by
  unfold pollFodUi at h
  by_cases hrc : rc < 0
  · rw [if_pos hrc] at h
    cases h
    exact .replied (decide_eq_false (Int.not_le.mpr hrc)) rfl
  · rw [if_neg hrc] at h
    dsimp only at h
    cases hresult : callDevice s (.extCmd COMMAND_NIT
        (if readBool lseekRc readRc c then PARAM_NIT_FOD else PARAM_NIT_NONE)) with
    | error fault =>
        rw [hresult] at h
        cases h
    | ok middle =>
        rw [hresult] at h
        cases h
        have hpoll : 0 ≤ rc := Int.not_lt.mp hrc
        refine .asked (decide_eq_true hpoll) _ (pollFodUi_asks written hpoll) ?_
        rw [← callDevice_calls hresult]
        split <;> rfl

theorem step_forwards {s next : State} {event : Event}
    (hstep : step (.running s) event = some (.running next)) : Forwards s event next := by
  have hresult : ∀ result : Except Fault State,
      after result = .running next → result = .ok next := by
    intro result hafter
    cases result with
    | error fault => cases fault; cases hafter
    | ok middle => cases hafter; rfl
  cases event with
  | openFodUi fd =>
      simp only [step] at hstep
      split at hstep
      · cases hstep
        exact .replied rfl rfl
      · cases hstep
  | pollFodUi rc lseekRc readRc c written =>
      simp only [step] at hstep
      split at hstep
      · exact pollFodUi_forwards (hresult _ (Option.some.inj hstep))
      · cases hstep
  | clientCall call => exact perform_forwards (hresult _ (Option.some.inj hstep))

-- A process that is running at the end was running all along.
theorem running_of_run {p : Process} {events : List Event} {finish : State}
    (hrun : run step p events = some (.running finish)) : ∃ s, p = .running s := by
  cases p with
  | neverStarted => cases (run_neverStarted hrun).2
  | running s => exact ⟨s, rfl⟩
  | crashed => cases (run_crashed hrun).2

theorem run_forwards {s : State} {events : List Event} {finish : State}
    (hrun : run step (.running s) events = some (.running finish)) :
    ∃ asked, finish.calls = s.calls ++ asked ∧
      List.Forall₂ Asks (events.filter Event.usesDevice) asked := by
  induction events generalizing s with
  | nil =>
      cases hrun
      exact ⟨[], (List.append_nil _).symm, .nil⟩
  | cons event rest ih =>
      obtain ⟨next, hs, hr⟩ := run_cons_some step hrun
      obtain ⟨next, rfl⟩ := running_of_run hr
      obtain ⟨asked, hcalls, hasked⟩ := ih hr
      cases step_forwards hs with
      | replied huses hkept =>
          rw [List.filter_cons_of_neg (by simp [huses])]
          exact ⟨asked, by rw [hcalls, hkept], hasked⟩
      | asked huses call hasks hadded =>
          rw [List.filter_cons_of_pos huses]
          refine ⟨call :: asked, ?_, .cons hasks hasked⟩
          rw [hcalls, hadded, List.append_assoc, List.singleton_append]

theorem step_keeps_device {s : State} {event : Event} {next : State}
    (hstep : step (.running s) event = some (.running next)) : next.mDevice = s.mDevice := by
  obtain ⟨result, hhandled, hafter⟩ := step_handled hstep
  generalize event.usesDevice = uses at hhandled
  cases hhandled with
  | replied middle hkeeps =>
      cases hafter
      exact hkeeps
  | asked middle hkeeps hdevice =>
      cases hafter
      exact hkeeps
  | failed hnull => cases hafter

theorem run_keeps_device {s : State} {events : List Event} {finish : State}
    (hrun : run step (.running s) events = some (.running finish)) :
    finish.mDevice = s.mDevice := by
  induction events generalizing s with
  | nil =>
      cases hrun
      rfl
  | cons event rest ih =>
      obtain ⟨next, hs, hr⟩ := run_cons_some step hrun
      obtain ⟨next, rfl⟩ := running_of_run hr
      rw [ih hr, step_keeps_device hs]

theorem errorFilter_eq_sysOk_iff (error : Int32) : errorFilter error = .sysOk ↔ error = 0 := by
  constructor
  · intro h
    cases hlookup : knownStatuses.lookup error with
    | none => simp [errorFilter, hlookup] at h
    | some status =>
        have hmem := mem_of_lookup hlookup
        have hstatus : status = .sysOk := by simpa [errorFilter, hlookup] using h
        simpa [knownStatuses, hstatus] using hmem
  · rintro rfl
    rfl

theorem returnStatus_eq_sysOk_iff (s : State) (call : DeviceCall) (rc : Int32) :
    (∃ next, returnStatus s call rc = .ok (.status .sysOk, next)) ↔
      s.mDevice ≠ none ∧ rc = 0 := by
  rw [← errorFilter_eq_sysOk_iff]
  unfold returnStatus callDevice
  cases s.mDevice with
  | none => simp [Except.map]
  | some device => simp [Except.map]

theorem perform_eq_sysOk_iff (s : State) (call : Call) :
    (∃ next, perform s call = .ok (.status .sysOk, next)) ↔
      s.mDevice ≠ none ∧ call.usesDevice = true ∧ call.rc = some 0 := by
  have hstatus := returnStatus_eq_sysOk_iff s
  cases call with
  | setNotify _ => simp [perform, setNotify, Call.usesDevice]
  | preEnroll id =>
      cases hdevice : s.mDevice <;>
        simp [perform, preEnroll, returnId, callDevice, hdevice, Except.map, Call.rc]
  | getAuthenticatorId id =>
      cases hdevice : s.mDevice <;>
        simp [perform, getAuthenticatorId, returnId, callDevice, hdevice, Except.map, Call.rc]
  | extCmd cmd param rc =>
      cases hdevice : s.mDevice <;>
        simp [perform, extCmd, callDevice, hdevice, Except.map, Call.rc]
  | setActiveGroup gid storePath access rc =>
      rw [perform, setActiveGroup_eq]
      by_cases huses : (Call.setActiveGroup gid storePath access rc).usesDevice = true
      · rw [if_pos huses, hstatus]
        simp [huses, Call.rc]
      · simp [huses]
  | enroll hat gid timeoutSec rc =>
      simp [perform, enroll, hstatus, Call.usesDevice, Call.rc]
  | postEnroll rc => simp [perform, postEnroll, hstatus, Call.usesDevice, Call.rc]
  | cancel rc => simp [perform, cancel, hstatus, Call.usesDevice, Call.rc]
  | enumerate rc => simp [perform, enumerate, hstatus, Call.usesDevice, Call.rc]
  | remove gid fid rc => simp [perform, remove, hstatus, Call.usesDevice, Call.rc]
  | authenticate operationId gid rc =>
      simp [perform, authenticate, hstatus, Call.usesDevice, Call.rc]

theorem cStr_cuts (text : String) : (cStr text).toList <+: text.toList := by
  rw [cStr, String.toList_ofList]
  exact List.takeWhile_prefix _

theorem cStr_noNul (text : String) : '\x00' ∉ (cStr text).toList := by
  intro hmem
  rw [cStr, String.toList_ofList] at hmem
  have hne := List.mem_takeWhile_imp hmem
  exact absurd hne (by decide)

theorem utf8ByteSize_cStr_le (text : String) :
    (cStr text).utf8ByteSize ≤ text.utf8ByteSize := by
  obtain ⟨rest, hrest⟩ := cStr_cuts text
  have hsplit : text = cStr text ++ String.ofList rest := by
    apply String.toList_injective
    rw [String.toList_append, String.toList_ofList, hrest]
  have hsize := congrArg String.utf8ByteSize hsplit
  rw [String.utf8ByteSize_append] at hsize
  omega

-- What the vendor library may be given as a store path: a C string that fits
-- and does not begin with the place of the framework's data.
structure StorePath (storePath : String) : Prop where
  noNul : '\x00' ∉ storePath.toList
  bounded : storePath.utf8ByteSize < PATH_MAX
  outside : ¬"/data/system/users/".toList <+: storePath.toList

theorem storePath_cStr {text : String} (hbounded : text.utf8ByteSize < PATH_MAX)
    (houtside : ¬"/data/system/users/".toList <+: text.toList) : StorePath (cStr text) where
  noNul := cStr_noNul text
  bounded := Nat.lt_of_le_of_lt (utf8ByteSize_cStr_le text) hbounded
  outside h := houtside (h.trans (cStr_cuts text))

-- A path that is moved gets shorter.
theorem asks_storePath {event : Event} {gid : UInt32} {storePath : String}
    (huses : event.usesDevice = true) (h : Asks event (.setActiveGroup gid storePath)) :
    StorePath storePath := by
  cases h with
  | movedGroup gid rest access rc =>
      simp only [Event.usesDevice, Call.usesDevice, Bool.and_eq_true, decide_eq_true_eq,
        String.utf8ByteSize_append] at huses
      have hsystem : ("/data/system/users/" : String).utf8ByteSize = 19 := by decide
      have hvendor : ("/data/vendor_de/" : String).utf8ByteSize = 16 := by decide
      apply storePath_cStr
      · rw [String.utf8ByteSize_append]
        omega
      · rw [String.toList_append]
        rintro ⟨other, hother⟩
        have hhead := congrArg (List.take 7) hother
        simp at hhead
  | keptGroup gid houtside access rc =>
      simp only [Event.usesDevice, Call.usesDevice, Bool.and_eq_true, decide_eq_true_eq] at huses
      exact storePath_cStr huses.1.2 houtside

-- Over any interleaving of the poll thread and the clients, the vendor library
-- is asked for what they asked for, once each and in order.
theorem forwards_requests (vendor : Vendor) (world : World) {events : List Event} {s : State}
    (hrun : run step (create vendor world) events = some (.running s)) :
    List.Forall₂ Asks (events.filter Event.usesDevice) s.calls ∧
      (∀ gid storePath, .setActiveGroup gid storePath ∈ s.calls → StorePath storePath) ∧
      ∀ call, (∃ next, perform s call = .ok (.status .sysOk, next)) ↔
        vendor.Provides ∧ call.usesDevice = true ∧ call.rc = some 0 := by
  obtain ⟨start, hstart⟩ := running_of_run hrun
  rw [hstart] at hrun
  obtain ⟨device, world', hopen, rfl⟩ : ∃ device world', openHal vendor world =
      some (device, world') ∧ start = ⟨device, false, .started, [], none⟩ := by
    unfold create at hstart
    cases hopen : openHal vendor world with
    | none =>
        rw [hopen] at hstart
        cases hstart
    | some result =>
        rw [hopen] at hstart
        exact ⟨result.1, result.2, rfl, (Process.running.inj hstart).symm⟩
  obtain ⟨asked, hcalls, hasked⟩ := run_forwards hrun
  rw [List.nil_append] at hcalls
  subst hcalls
  refine ⟨hasked, ?_, ?_⟩
  · intro gid storePath hmem
    obtain ⟨i, hi, hget⟩ := List.getElem_of_mem hmem
    have hevent : i < (events.filter Event.usesDevice).length := hasked.length_eq ▸ hi
    have hasks := hasked.get hevent hi
    simp only [List.get_eq_getElem, hget] at hasks
    exact asks_storePath (List.mem_filter.mp (List.getElem_mem hevent)).2 hasks
  · intro call
    rw [perform_eq_sysOk_iff, run_keeps_device hrun, ← openHal_isSome_iff hopen,
      Option.isSome_iff_ne_none]

def fod : FingerprintDevice := { silent with setNotify := 0 }

def goodix : Vendor := fun _ => ⟨0, some ⟨some ⟨0, some fod⟩⟩⟩

def unlock : List Event :=
  [.openFodUi 3, .clientCall (.setNotify true),
    .clientCall (.setActiveGroup 0 "/data/system/users/0/fpdata" 0 0),
    .clientCall (.authenticate 7 0 0), .pollFodUi 1 0 1 '1' true]

def unlocking : State :=
  ⟨some fod, true, .polling,
    [.setActiveGroup 0 "/data/vendor_de/0/fpdata", .authenticate 7 0, .extCmd 10 1], none⟩

theorem forwards_requests_unlock :
    List.Forall₂ Asks (unlock.filter Event.usesDevice) unlocking.calls ∧
      (∀ gid storePath, .setActiveGroup gid storePath ∈ unlocking.calls → StorePath storePath) ∧
      ∀ call, (∃ next, perform unlocking call = .ok (.status .sysOk, next)) ↔
        goodix.Provides ∧ call.usesDevice = true ∧ call.rc = some 0 :=
  @forwards_requests goodix untouched unlock unlocking rfl

end Raphael.Fingerprint.Service
