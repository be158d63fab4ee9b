import Raphael.PopupCamera.Awaited
import Raphael.Trace.Progress

namespace Raphael.PopupCamera

open State Trace

-- What an object keeps of the two dialogs that mErrorDialogShowing guards.
structure ErrorDialogs where
  showing : Bool
  errorDialog : Nat
  calibrationResultDialog : Nat
  posting : Bool
  pending : List (Delayed Task)

-- The dialogs that show or are going to.
def ErrorDialogs.count (dialogs : ErrorDialogs) : Nat :=
  dialogs.pending.length + dialogs.posting.toNat + dialogs.errorDialog +
    dialogs.calibrationResultDialog

-- All that one event can do to them, and whether it is such a notification.
inductive DialogEffect (before : ErrorDialogs) : Bool → ErrorDialogs → Prop
  | keeps : DialogEffect before false before
  | asks (hidle : before.showing = false) {pending : List (Delayed Task)}
      (hpending : pending.length = before.pending.length + 1) :
      DialogEffect before false { before with showing := true, pending }
  | sets (hposting : before.posting = false) :
      DialogEffect before before.showing { before with showing := true, posting := true }
  | posts (hposting : before.posting = true) {pending : List (Delayed Task)}
      (hpending : pending.length = before.pending.length + 1) :
      DialogEffect before false { before with posting := false, pending }
  | showsError {pending : List (Delayed Task)}
      (hpending : before.pending.length = pending.length + 1) :
      DialogEffect before false { before with errorDialog := before.errorDialog + 1, pending }
  | showsResult {pending : List (Delayed Task)}
      (hpending : before.pending.length = pending.length + 1) :
      DialogEffect before false
        { before with calibrationResultDialog := before.calibrationResultDialog + 1, pending }
  | dismissesError (hshowing : 0 < before.errorDialog) :
      DialogEffect before false
        { before with showing := false, errorDialog := before.errorDialog - 1 }
  | dismissesResult (hshowing : 0 < before.calibrationResultDialog) :
      DialogEffect before false
        { before with
          showing := false
          calibrationResultDialog := before.calibrationResultDialog - 1 }

section Keeps

variable (now : Nat) (service : PopupCameraService)

end Keeps

section Effect

variable (now : Nat) (service : PopupCameraService)

variable {service}

end Effect

-- While the flag is up there is a dialog whose end takes it down.
def ErrorDialogs.Endable (dialogs : ErrorDialogs) : Prop :=
  dialogs.showing = true → 0 < dialogs.count

section Effect

variable {before next : ErrorDialogs} {again : Bool}

theorem ErrorDialogs.Endable.after (h : before.Endable)
    (heffect : DialogEffect before again next) : next.Endable := by
  unfold Endable count at *
  cases heffect with
  | keeps => exact h
  | asks hidle hpending =>
      intro _
      dsimp only
      omega
  | sets hposting =>
      intro _
      simp only [Bool.toNat_true]
      omega
  | posts hposting hpending =>
      intro _
      dsimp only
      omega
  | showsError hpending =>
      intro _
      dsimp only
      omega
  | showsResult hpending =>
      intro _
      dsimp only
      omega
  | dismissesError hshowing => exact nofun
  | dismissesResult hshowing => exact nofun

end Effect

end Raphael.PopupCamera
