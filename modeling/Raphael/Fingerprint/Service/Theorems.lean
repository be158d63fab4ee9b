import Raphael.Fingerprint.Device.Theorems
import Raphael.Fingerprint.Service
import Raphael.Trace

namespace Raphael.Fingerprint.Service

open Trace (run run_cons_some)

-- The calls that are answered without asking the vendor library.
def Call.usesDevice : Call → Bool
  | .setNotify _ => false
  | .setActiveGroup _ storePath access _ =>
      0 < storePath.utf8ByteSize && storePath.utf8ByteSize < PATH_MAX && access = 0
  | _ => true

def Event.usesDevice : Event → Bool
  | .openFodUi _ => false
  | .pollFodUi rc _ _ _ _ => 0 ≤ rc
  | .clientCall call => call.usesDevice

-- What handling an event comes to: the device is kept, and it is null exactly
-- when using it ends the process.
inductive Handled (s : State) : Bool → Except Fault State → Prop where
  | replied (next : State) (hkeeps : next.mDevice = s.mDevice) : Handled s false (.ok next)
  | asked (next : State) (hkeeps : next.mDevice = s.mDevice) (hdevice : s.mDevice ≠ none) :
      Handled s true (.ok next)
  | failed (hnull : s.mDevice = none) : Handled s true (.error .nullDereference)

theorem callDevice_handled (s : State) (call : DeviceCall) :
    Handled s true (callDevice s call) := by
  cases hdevice : s.mDevice with
  | none =>
      rw [callDevice, hdevice]
      exact .failed hdevice
  | some device =>
      rw [callDevice, hdevice]
      exact .asked _ hdevice.symm (by simp [hdevice])

theorem Handled.map {s : State} {uses : Bool} {result : Except Fault State}
    (h : Handled s uses result) (f : State → State) (hf : ∀ s, (f s).mDevice = s.mDevice) :
    Handled s uses (result.map f) := by
  cases h with
  | replied next hkeeps => exact .replied (f next) ((hf next).trans hkeeps)
  | asked next hkeeps hdevice => exact .asked (f next) ((hf next).trans hkeeps) hdevice
  | failed hnull => exact .failed hnull

theorem answered_handled (s : State) (call : DeviceCall) (reply : Reply) :
    Handled s true (((callDevice s call).map fun s => (reply, s)).map Prod.snd) := by
  have hcall := callDevice_handled s call
  cases hresult : callDevice s call <;> rwa [hresult] at hcall

theorem setActiveGroup_handled (s : State) (gid : UInt32) (storePath : String) (access : Int)
    (rc : Int32) :
    Handled s (Call.setActiveGroup gid storePath access rc).usesDevice
      ((setActiveGroup s gid storePath access rc).map Prod.snd) := by
  unfold setActiveGroup
  by_cases hlength : storePath.utf8ByteSize ≥ PATH_MAX ∨ storePath.utf8ByteSize ≤ 0
  · rw [if_pos hlength]
    have huses : (Call.setActiveGroup gid storePath access rc).usesDevice = false := by
      simp only [Call.usesDevice, Bool.and_eq_false_iff, decide_eq_false_iff_not]
      omega
    rw [huses]
    exact .replied s rfl
  · rw [if_neg hlength]
    by_cases haccess : access ≠ 0
    · rw [if_pos haccess]
      have huses : (Call.setActiveGroup gid storePath access rc).usesDevice = false := by
        simp only [Call.usesDevice, haccess, decide_false, Bool.and_false]
      rw [huses]
      exact .replied s rfl
    · rw [if_neg haccess]
      have huses : (Call.setActiveGroup gid storePath access rc).usesDevice = true := by
        simp only [Call.usesDevice, Bool.and_eq_true, decide_eq_true_eq]
        omega
      rw [huses]
      exact answered_handled s _ _

theorem perform_handled (s : State) (call : Call) :
    Handled s call.usesDevice ((perform s call).map Prod.snd) := by
  cases call with
  | setNotify hasClientCallback => exact .replied _ rfl
  | setActiveGroup gid storePath access rc =>
      exact setActiveGroup_handled s gid storePath access rc
  | _ => exact answered_handled s _ _

theorem pollFodUi_handled (s : State) (rc lseekRc readRc : Int) (c : Char) (written : Bool) :
    Handled s (Event.pollFodUi rc lseekRc readRc c written).usesDevice
      (pollFodUi s rc lseekRc readRc c written) := by
  unfold pollFodUi
  by_cases hrc : rc < 0
  · rw [if_pos hrc, Event.usesDevice, decide_eq_false (by omega)]
    exact .replied s rfl
  · rw [if_neg hrc, Event.usesDevice, decide_eq_true (by omega)]
    apply (callDevice_handled s _).map
    intro s
    split <;> rfl

theorem step_handled {s : State} {event : Event} {next : Process}
    (hstep : step (.running s) event = some next) :
    ∃ result, Handled s event.usesDevice result ∧ next = after result := by
  cases event with
  | openFodUi fd =>
      simp only [step] at hstep
      split at hstep
      · exact ⟨.ok (openFodUi s fd), .replied _ rfl, (Option.some.inj hstep).symm⟩
      · cases hstep
  | pollFodUi rc lseekRc readRc c written =>
      simp only [step] at hstep
      split at hstep
      · exact ⟨_, pollFodUi_handled s rc lseekRc readRc c written, (Option.some.inj hstep).symm⟩
      · cases hstep
  | clientCall call => exact ⟨_, perform_handled s call, (Option.some.inj hstep).symm⟩

theorem run_crashed {events : List Event} {finish : Process}
    (hrun : run step .crashed events = some finish) : events = [] ∧ finish = .crashed := by
  cases events with
  | nil => exact ⟨rfl, (Option.some.inj hrun).symm⟩
  | cons event rest =>
      obtain ⟨next, hs, -⟩ := run_cons_some step hrun
      cases hs

theorem run_neverStarted {events : List Event} {finish : Process}
    (hrun : run step .neverStarted events = some finish) :
    events = [] ∧ finish = .neverStarted := by
  cases events with
  | nil => exact ⟨rfl, (Option.some.inj hrun).symm⟩
  | cons event rest =>
      obtain ⟨next, hs, -⟩ := run_cons_some step hrun
      cases hs

-- The induction is on the events. A step that goes on keeps the device, and
-- one that does not has found it null.
theorem run_ne_crashed_iff {s : State} {events : List Event} {finish : Process}
    (hrun : run step (.running s) events = some finish) :
    finish ≠ .crashed ↔ s.mDevice ≠ none ∨ ∀ event ∈ events, event.usesDevice = false := by
  induction events generalizing s with
  | nil =>
      obtain rfl := Option.some.inj hrun
      simp
  | cons event rest ih =>
      obtain ⟨next, hs, hr⟩ := run_cons_some step hrun
      obtain ⟨result, hhandled, rfl⟩ := step_handled hs
      generalize huses : event.usesDevice = uses at hhandled
      cases hhandled with
      | replied next hkeeps => rw [ih hr, hkeeps, List.forall_mem_cons]; simp [huses]
      | asked next hkeeps hdevice => rw [ih hr, hkeeps]; simp [hdevice]
      | failed hnull =>
          obtain ⟨-, rfl⟩ := run_crashed hr
          simp [hnull, huses]

-- The process goes on until the device is used, unless there is one.
theorem no_null_dereference_iff (vendor : Vendor) (world : World) {events : List Event}
    {finish : Process} (hrun : run step (create vendor world) events = some finish) :
    finish ≠ .crashed ↔
      vendor.Provides ∨ ∀ event ∈ events, event.usesDevice = false := by
  unfold create at hrun
  cases hopen : openHal vendor world with
  | none =>
      rw [hopen] at hrun
      obtain ⟨rfl, rfl⟩ := run_neverStarted hrun
      simp
  | some result =>
      obtain ⟨device, after⟩ := result
      rw [hopen] at hrun
      rw [← openHal_isSome_iff hopen, run_ne_crashed_iff hrun, Option.isSome_iff_ne_none]

def missing : Vendor := fun _ => ⟨-2, none⟩

def untouched : World := ⟨fun _ => none, [], []⟩

theorem no_null_dereference_missing :
    Process.crashed ≠ .crashed ↔
      missing.Provides ∨ ∀ event ∈ [Event.openFodUi 3, .pollFodUi 1 0 1 '1' true],
        event.usesDevice = false :=
  no_null_dereference_iff missing untouched rfl

theorem missing_module_crashes :
    ¬∀ vendor world events finish,
      run step (create vendor world) events = some finish → finish ≠ .crashed := by
  intro h
  exact h missing untouched [.clientCall (.preEnroll 0)] .crashed rfl rfl

end Raphael.Fingerprint.Service
