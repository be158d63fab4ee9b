import Mathlib.Logic.Function.Basic
import Raphael.PopupCamera.Step

namespace Raphael.PopupCamera

-- The objects of one app process. Their handlers share the main looper; which
-- object's message comes first is left open.
structure Process (ι : Type*) where
  objects : ι → PopupCameraService
  world : World

namespace Process

variable {ι : Type*} [DecidableEq ι]

def state (p : Process ι) (object : ι) : State := ⟨p.objects object, p.world⟩

def step (p : Process ι) : ι × Nat × Event → Option (Process ι)
  | (object, event) =>
      (PopupCamera.step (p.state object) event).map fun s =>
        ⟨Function.update p.objects object s.service, s.world⟩

-- Every object as its constructor leaves it.
def start (owner : ι → Owner) (now : Nat) (leds : Leds) : Process ι :=
  ⟨fun object => { owner := owner object }, ⟨now, leds, [], false⟩⟩

end Process

end Raphael.PopupCamera
