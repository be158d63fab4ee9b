import Mathlib.Algebra.Ring.Nat
import Raphael.Trace

namespace Raphael.Trace

variable {σ ε : Type*} (step : σ → ε → Option σ)

-- A measure that each guarded step lowers bounds the guarded runs.
theorem length_le_of_decreases {guard : σ → ε → Prop} (inv : σ → Prop) (measure : σ → Nat)
    (hinv : ∀ state event next, inv state → guard state event →
      step state event = some next → inv next)
    (hdecreases : ∀ state event next, inv state → guard state event →
      step state event = some next → measure next < measure state)
    {start finish : σ} {events : List ε} (hstart : inv start)
    (hguard : Along step guard start events) (hrun : run step start events = some finish) :
    events.length + measure finish ≤ measure start := by
  induction events generalizing start with
  | nil =>
      obtain rfl := Option.some.inj hrun
      exact Nat.le_of_eq (Nat.zero_add _)
  | cons event rest ih =>
      obtain ⟨next, hs, hr⟩ := run_cons_some step hrun
      have hlt := hdecreases start event next hstart hguard.1 hs
      have hrest := ih (hinv start event next hstart hguard.1 hs) (hguard.2 next hs) hr
      rw [List.length_cons]
      omega

-- What the events of a run weigh together, each in the state it is taken from.
def total (weight : σ → ε → Nat) : σ → List ε → Nat
  | _, [] => 0
  | state, event :: rest =>
      weight state event + ((step state event).map fun next => total weight next rest).getD 0

theorem total_le_sum {weight : σ → ε → Nat} {allowed : ε → Nat} {events : List ε}
    (h : ∀ state, ∀ event ∈ events, weight state event ≤ allowed event) (start : σ) :
    total step weight start events ≤ (events.map allowed).sum := by
  induction events generalizing start with
  | nil => exact Nat.le_refl 0
  | cons event rest ih =>
      rw [total, List.map_cons, List.sum_cons]
      refine Nat.add_le_add (h start event List.mem_cons_self) ?_
      cases step start event with
      | none => exact Nat.zero_le _
      | some next => exact ih (fun state e he => h state e (List.mem_cons_of_mem event he)) next

-- A count that each step raises by no more than its weight is covered by what
-- the steps of the run weigh together.
theorem count_le_total (count : σ → Nat) (weight : σ → ε → Nat)
    (hstep : ∀ state event next, step state event = some next →
      count next ≤ count state + weight state event)
    {start finish : σ} {events : List ε} (hrun : run step start events = some finish) :
    count finish ≤ count start + total step weight start events := by
  induction events generalizing start with
  | nil =>
      obtain rfl := Option.some.inj hrun
      exact Nat.le_add_right _ _
  | cons event rest ih =>
      obtain ⟨next, hs, hr⟩ := run_cons_some step hrun
      have hnext := hstep start event next hs
      have hrest := ih hr
      have htotal : total step weight start (event :: rest) =
          weight start event + total step weight next rest := by
        rw [total, hs]
        rfl
      omega

end Raphael.Trace
