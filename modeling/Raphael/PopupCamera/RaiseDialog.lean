import Raphael.PopupCamera.BusyWindow
import Raphael.PopupCamera.Session

namespace Raphael.PopupCamera

open State Trace

-- The one dialog that may be showing is the one that the object refers to.
def DialogReferenced (service : PopupCameraService) : Prop :=
  service.raiseDialogs = [] ∨
    ∃ dialog, service.mAlertDialog = some dialog ∧ service.raiseDialogs = [dialog]

theorem raiseDialogs_requestKeeps : RequestKeeps fun service : PopupCameraService =>
    (service.mAlertDialog, service.raiseDialogs) :=
  ⟨fun _ _ _ _ _ => rfl, fun _ _ => rfl⟩

-- The handling of an open message makes a new dialog for a new theme only when
-- the old dialog is not showing.
def keepsDialog (s : State) : Nat × Event → Bool
  | (time, .dispatch replies) =>
      match s.service.mHandler.pop time with
      | some (.msgCameraOpen, _) =>
          (!replies.alwaysOnDialog && s.service.mScreenOn) ||
            s.service.mDialogThemeResID = PopupCameraService.dialogTheme replies.nightMode ||
            s.service.mAlertDialog.all fun dialog => dialog ∉ s.service.raiseDialogs
      | _ => true
  | _ => true

namespace DialogReferenced

variable {before after service : PopupCameraService}

theorem keep (h : DialogReferenced before)
    (hdialogs : (after.mAlertDialog, after.raiseDialogs) =
      (before.mAlertDialog, before.raiseDialogs)) : DialogReferenced after := by
  obtain ⟨hdialog, hshowing⟩ := Prod.mk.inj hdialogs
  unfold DialogReferenced
  rw [hdialog, hshowing]
  exact h

theorem of_session (h : DialogReferenced before) (hsession : after.session = before.session) :
    DialogReferenced after :=
  h.keep (congrArg (fun session : Session => (session.mAlertDialog, session.raiseDialogs)) hsession)

variable (now : Nat) (h : DialogReferenced service)
include h

theorem length_le : service.raiseDialogs.length ≤ 1 := by
  obtain hnone | ⟨dialog, _, hone⟩ := h
  · rw [hnone]
    exact Nat.zero_le 1
  · rw [hone]
    exact Nat.le_refl 1

theorem updateMotor (cameraState : CameraState) :
    DialogReferenced (service.updateMotor now cameraState) :=
  h.keep (raiseDialogs_requestKeeps.updateMotor now service cameraState)

theorem cameraEvent (message opposite : Task) (oppositeEvent : Nat) :
    DialogReferenced (service.cameraEvent now message opposite oppositeEvent) := by
  unfold PopupCameraService.cameraEvent
  split
  · exact h
  · exact h

theorem dismiss (dialog : Nat) : DialogReferenced (service.dismiss dialog) := by
  obtain hnone | ⟨shown, href, hone⟩ := h
  · refine .inl ?_
    rw [PopupCameraService.dismiss, hnone]
    rfl
  · by_cases he : shown = dialog
    · refine .inl ?_
      rw [PopupCameraService.dismiss, hone, he]
      simp
    · refine .inr ⟨shown, href, ?_⟩
      rw [PopupCameraService.dismiss, hone]
      simp [he]

theorem click (dialog : Nat) (raise : Bool) :
    DialogReferenced (clickRaiseDialog dialog raise service now) := by
  cases raise with
  | false => exact h.dismiss dialog
  | true => exact (h.updateMotor now .opened).dismiss dialog

-- The closed message dismisses the dialog that the object refers to.
theorem handleCameraClosed_raiseDialogs :
    (service.handleCameraClosed now).raiseDialogs = [] := by
  have hupdate : ∀ other : PopupCameraService,
      (other.updateMotor now .closed).raiseDialogs = other.raiseDialogs := fun other =>
    congrArg Prod.snd (raiseDialogs_requestKeeps.updateMotor now other .closed)
  rw [PopupCameraService.handleCameraClosed, hupdate]
  obtain hnone | ⟨dialog, href, hone⟩ := h
  · split
    · rw [PopupCameraService.dismiss, hnone]
      rfl
    · exact hnone
  · rw [href]
    dsimp only
    rw [PopupCameraService.dismiss, hone]
    simp

theorem updateDialogTheme {nightMode : Bool}
    (hkeeps : service.mDialogThemeResID = PopupCameraService.dialogTheme nightMode ∨
      ∀ dialog ∈ service.mAlertDialog, dialog ∉ service.raiseDialogs) :
    DialogReferenced (service.updateDialogTheme nightMode) := by
  unfold PopupCameraService.updateDialogTheme
  split
  · rename_i hchanged
    have hhidden := hkeeps.resolve_left hchanged
    obtain hnone | ⟨dialog, href, hone⟩ := h
    · exact .inl hnone
    · exact absurd (hone ▸ List.mem_singleton_self dialog) (hhidden dialog href)
  · exact h

theorem showAlertDialog : DialogReferenced service.showAlertDialog := by
  unfold PopupCameraService.showAlertDialog
  obtain hnone | ⟨dialog, href, hone⟩ := h
  · split
    · rename_i dialog href
      rw [hnone, if_neg List.not_mem_nil]
      exact .inr ⟨dialog, href, rfl⟩
    · refine .inr ⟨service.dialogs, rfl, ?_⟩
      dsimp only
      rw [hnone]
  · rw [href]
    dsimp only
    rw [if_pos (hone ▸ List.mem_singleton_self dialog)]
    exact .inr ⟨dialog, href, hone⟩

theorem handleCameraOpen {alwaysOnDialog nightMode : Bool}
    (hkeeps : (alwaysOnDialog = false ∧ service.mScreenOn = true) ∨
      service.mDialogThemeResID = PopupCameraService.dialogTheme nightMode ∨
      ∀ dialog ∈ service.mAlertDialog, dialog ∉ service.raiseDialogs) :
    DialogReferenced (service.handleCameraOpen now alwaysOnDialog nightMode) := by
  unfold PopupCameraService.handleCameraOpen
  split
  · rename_i hshows
    refine (h.updateDialogTheme (hkeeps.resolve_left ?_)).showAlertDialog
    rintro ⟨hoff, hon⟩
    simp [hoff, hon] at hshows
  · exact h.updateMotor now .opened

end DialogReferenced

theorem keepsDialog_pop {s : State} {time : Nat} {replies : Replies} {rest : DelayQueue Task}
    (h : keepsDialog s (time, .dispatch replies) = true)
    (hpop : s.service.mHandler.pop time = some (.msgCameraOpen, rest)) :
    (replies.alwaysOnDialog = false ∧ s.service.mScreenOn = true) ∨
      s.service.mDialogThemeResID = PopupCameraService.dialogTheme replies.nightMode ∨
      ∀ dialog ∈ s.service.mAlertDialog, dialog ∉ s.service.raiseDialogs := by
  simp only [keepsDialog, hpop, Bool.or_eq_true, Bool.and_eq_true, Bool.not_eq_true',
    decide_eq_true_eq, Option.all_eq_true] at h
  exact or_assoc.mp h

theorem DialogReferenced.after_step {s after : State} {event : Nat × Event}
    (h : DialogReferenced s.service) (hguard : keepsDialog s event = true)
    (hstep : step s event = some after) : DialogReferenced after.service := by
  obtain ⟨time, event⟩ := event
  have hs : DialogReferenced (s.atTime time).service := h
  cases step_sessionEffect hstep with
  | quiet _ hsession => exact hs.of_session hsession
  | quietTask _ _ hsession => exact hs.of_session hsession
  | create _ hsession =>
      have hcreated : DialogReferenced { s.service with lifecycle := .created } := h
      exact hcreated.of_session hsession
  | destroy _ => exact h
  | pressed hsession =>
      have hpressed : DialogReferenced
          { s.service with notifying := some (.requesting s.service.mMotorBusy) } := h
      exact hpressed.of_session hsession
  | cameraClosed cameraId =>
      rw [State.modify, PopupCameraService.onCameraClosed]
      split
      · have hevent : DialogReferenced { s.service with mClosedEvent := time } := h
        exact hevent.cameraEvent time _ _ _
      · exact h
  | cameraOpened cameraId =>
      rw [State.modify, PopupCameraService.onCameraOpened]
      split
      · have hevent : DialogReferenced { s.service with mOpenEvent := time } := h
        exact hevent.cameraEvent time _ _ _
      · exact h
  | notifyPost _ =>
      have hnotified : DialogReferenced { s.service with notifying := none } := h
      exact hnotified.keep (raiseDialogs_requestKeeps.postRequest time _ _ _)
  | click raise _ => exact hs.click time _ raise
  | @handleClosed replies rest _ =>
      have hrest : DialogReferenced ((s.atTime time).setHandler rest).service := h
      exact .inl (hrest.handleCameraClosed_raiseDialogs time)
  | @handleOpen replies rest hpop =>
      have hkeeps := keepsDialog_pop hguard hpop
      have hrest : DialogReferenced ((s.atTime time).setHandler rest).service := h
      exact hrest.handleCameraOpen time hkeeps
  | @poll replies request cameraState rest _ =>
      have hrest : DialogReferenced ((s.atTime time).setHandler rest).service := h
      exact hrest.keep (raiseDialogs_requestKeeps.poll time _ request cameraState)
  | @execute replies request cameraState rest _ _ hsession =>
      have hstarted :
          DialogReferenced (((s.atTime time).setHandler rest).startRequest request).service := h
      exact hstarted.of_session hsession

-- No dialog outlives its session, as long as no theme change makes a second one
-- while the first is showing.
theorem raiseDialog_ends {now : Nat} {leds : Leds} {events : List (Nat × Event)} {final : State}
    (hkeeps : Along step (fun s event => keepsDialog s event = true) (start now leds) events)
    (hrun : run step (start now leds) events = some final) :
    final.service.raiseDialogs.length ≤ 1 ∧
      ∀ time replies rest after,
        final.service.mHandler.pop time = some (.msgCameraClosed, rest) →
        step final (time, .dispatch replies) = some after → after.service.raiseDialogs = [] := by
  have hreferenced : DialogReferenced final.service :=
    run_invariant step (fun s => DialogReferenced s.service)
      (fun _ _ _ hs hguard hstep => hs.after_step hguard hstep) (.inl rfl) hkeeps hrun
  refine ⟨hreferenced.length_le, fun time replies rest after hpop hstep => ?_⟩
  have hrest : DialogReferenced ((final.atTime time).setHandler rest).service := hreferenced
  rw [step_dispatch_some hstep hpop]
  exact hrest.handleCameraClosed_raiseDialogs time

-- The front camera is opened twice with the screen off, in one theme.
def openedInTheDark : List (Nat × Event) :=
  [(0, .onCreate { status := some MOTOR_STATUS_TAKEBACK_OK }), (10, .onReceive false),
    (1000, .onCameraOpened "1"), (1100, .dispatch {}),
    (2000, .onCameraClosed "1"), (2050, .onCameraOpened "1"), (2150, .dispatch {}),
    (3000, .onCameraClosed "1")]

theorem raiseDialog_ends_openedInTheDark :
    ∃ final, run step (start 0 .dark) openedInTheDark = some final ∧
      final.service.raiseDialogs.length ≤ 1 ∧
      ∀ time replies rest after,
        final.service.mHandler.pop time = some (.msgCameraClosed, rest) →
        step final (time, .dispatch replies) = some after → after.service.raiseDialogs = [] := by
  have hkeeps : Along step (fun s event => keepsDialog s event = true) (start 0 .dark)
      openedInTheDark :=
    along_of_check step _ keepsDialog (fun _ _ h => h) (by decide +kernel)
  obtain ⟨final, hrun⟩ : ∃ final, run step (start 0 .dark) openedInTheDark = some final :=
    Option.isSome_iff_exists.mp (by decide +kernel)
  exact ⟨final, hrun, raiseDialog_ends hkeeps hrun⟩

-- The same with night mode on from the second dialog on. The reopening comes
-- within 100 ms, so that no closed message dismisses the first.
def themeChanged : List (Nat × Event) :=
  [(0, .onCreate { status := some MOTOR_STATUS_TAKEBACK_OK }), (10, .onReceive false),
    (1000, .onCameraOpened "1"), (1100, .dispatch {}),
    (2000, .onCameraClosed "1"), (2050, .onCameraOpened "1"),
    (2150, .dispatch { nightMode := true })]

theorem raiseDialog_outlives :
    ¬∀ events final, run step (start 0 .dark) events = some final →
      final.service.raiseDialogs.length ≤ 1 ∧
        ∀ time replies rest after,
          final.service.mHandler.pop time = some (.msgCameraClosed, rest) →
          step final (time, .dispatch replies) = some after → after.service.raiseDialogs = [] := by
  intro h
  have hsecond : (run step (start 0 .dark) themeChanged).map
      (fun s => s.service.raiseDialogs) = some [1, 0] := by decide +kernel
  obtain ⟨final, hrun, hshowing⟩ := Option.map_eq_some_iff.mp hsecond
  have hone := (h _ final hrun).1
  rw [hshowing] at hone
  exact absurd hone (by decide)

end Raphael.PopupCamera
