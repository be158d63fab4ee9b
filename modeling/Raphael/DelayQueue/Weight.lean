import Mathlib.Algebra.BigOperators.Group.List.Basic
import Mathlib.Algebra.BigOperators.Ring.List
import Mathlib.Algebra.Order.BigOperators.Group.List
import Mathlib.Algebra.Order.Ring.Nat
import Mathlib.Data.List.MinMax
import Raphael.DelayQueue.Theorems

namespace Raphael.DelayQueue

variable {α : Type*}

-- What the entries of a queue cost together.
def weight (cost : Delayed α → Nat) (queue : DelayQueue α) : Nat :=
  (queue.entries.map cost).sum

section Rules

variable {cost cost' : Delayed α → Nat} {queue rest : DelayQueue α} {now due : Nat} {item : α}

theorem weight_post (queue : DelayQueue α) (due : Nat) (item : α) :
    (queue.post due item).weight cost = cost ⟨due, item⟩ + queue.weight cost :=
  (insertDelayed_perm.map cost).sum_eq

theorem weight_pop (cost : Delayed α → Nat) (h : queue.pop now = some (item, rest)) :
    ∃ due, due ≤ now ∧ queue.weight cost = cost ⟨due, item⟩ + rest.weight cost ∧
      ∀ entry ∈ rest.entries, due ≤ entry.due := by
  obtain ⟨due, hdue, hentries⟩ := pop_eq_some h
  have hsorted := queue.sorted
  rw [hentries] at hsorted
  refine ⟨due, hdue, ?_, (List.pairwise_cons.mp hsorted).1⟩
  rw [weight, hentries, List.map_cons, List.sum_cons, weight]

theorem weight_mono (h : ∀ entry ∈ queue.entries, cost entry ≤ cost' entry) :
    queue.weight cost ≤ queue.weight cost' :=
  List.sum_le_sum h

theorem weight_add_mul (cost cost' : Delayed α → Nat) (factor : Nat) (queue : DelayQueue α) :
    queue.weight (fun entry => cost entry + factor * cost' entry) =
      queue.weight cost + factor * queue.weight cost' := by
  rw [weight, List.sum_map_add, List.sum_map_mul_left]
  rfl

-- What is not empty has a first entry, which becomes due.
theorem exists_pop (h : queue.entries ≠ []) (after : Nat) :
    ∃ time, after ≤ time ∧ ∃ item rest, queue.pop time = some (item, rest) := by
  obtain ⟨_ | ⟨first, others⟩, sorted⟩ := queue
  · exact absurd rfl h
  · refine ⟨max after first.due, Nat.le_max_left _ _, first.item, ⟨others, sorted.tail⟩, ?_⟩
    exact if_pos (Nat.le_max_right _ _)

end Rules

-- The last time at which an entry of a kind is due.
def deadline (kind : α → Bool) (queue : DelayQueue α) : Nat :=
  ((queue.select kind).map Delayed.due).foldr max 0

section Deadline

variable {kind : α → Bool} {queue other : DelayQueue α} {entry : Delayed α} {bound : Nat}

theorem le_deadline (h : entry ∈ queue.select kind) : entry.due ≤ queue.deadline kind :=
  List.le_max_of_le (List.mem_map_of_mem h) (Nat.le_refl _)

theorem deadline_le (h : ∀ entry ∈ queue.select kind, entry.due ≤ bound) :
    queue.deadline kind ≤ bound := by
  refine List.max_le_of_forall_le _ _ fun due hdue => ?_
  obtain ⟨entry, he, rfl⟩ := List.mem_map.mp hdue
  exact h entry he

theorem deadline_mono (h : ∀ entry ∈ queue.select kind, entry ∈ other.select kind) :
    queue.deadline kind ≤ other.deadline kind :=
  deadline_le fun entry he => le_deadline (h entry he)

end Deadline

end Raphael.DelayQueue
