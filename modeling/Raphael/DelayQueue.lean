import Mathlib.Data.List.Basic

namespace Raphael

variable {α : Type*}

structure Delayed (α : Type*) where
  due : Nat
  item : α
  deriving DecidableEq, Repr

-- An entry goes behind the entries that are due no later than it.
def insertDelayed (entry : Delayed α) : List (Delayed α) → List (Delayed α)
  | [] => [entry]
  | first :: rest =>
      if entry.due < first.due then entry :: first :: rest
      else first :: insertDelayed entry rest

abbrev DueSorted (entries : List (Delayed α)) : Prop := entries.Pairwise (·.due ≤ ·.due)

theorem mem_insertDelayed {entry other : Delayed α} {entries : List (Delayed α)} :
    other ∈ insertDelayed entry entries ↔ other = entry ∨ other ∈ entries := by
  induction entries with
  | nil => simp [insertDelayed]
  | cons first rest ih =>
      rw [insertDelayed]
      split
      · exact List.mem_cons
      · rw [List.mem_cons, ih, List.mem_cons]
        exact or_left_comm

theorem dueSorted_insertDelayed {entry : Delayed α} {entries : List (Delayed α)}
    (h : DueSorted entries) : DueSorted (insertDelayed entry entries) := by
  induction entries with
  | nil => exact List.pairwise_singleton _ _
  | cons first rest ih =>
      obtain ⟨hfirst, hrest⟩ := List.pairwise_cons.mp h
      rw [insertDelayed]
      split
      · rename_i hlt
        refine List.pairwise_cons.mpr ⟨fun other hm => ?_, h⟩
        rcases List.mem_cons.mp hm with rfl | hm
        · exact Nat.le_of_lt hlt
        · exact Nat.le_trans (Nat.le_of_lt hlt) (hfirst other hm)
      · rename_i hle
        refine List.pairwise_cons.mpr ⟨fun other hm => ?_, ih hrest⟩
        rcases mem_insertDelayed.mp hm with rfl | hm
        · exact Nat.le_of_not_lt hle
        · exact hfirst other hm

-- A queue of delayed items, in the order in which they are due. Items due at
-- one time keep the order in which they were posted.
structure DelayQueue (α : Type*) where
  entries : List (Delayed α)
  sorted : DueSorted entries
  deriving DecidableEq

namespace DelayQueue

def empty : DelayQueue α := ⟨[], List.Pairwise.nil⟩

def post (queue : DelayQueue α) (due : Nat) (item : α) : DelayQueue α :=
  ⟨insertDelayed ⟨due, item⟩ queue.entries, dueSorted_insertDelayed queue.sorted⟩

def remove (kind : α → Bool) (queue : DelayQueue α) : DelayQueue α :=
  ⟨queue.entries.filter fun entry => !kind entry.item, queue.sorted.filter _⟩

-- The entries of one kind.
def select (kind : α → Bool) (queue : DelayQueue α) : List (Delayed α) :=
  queue.entries.filter fun entry => kind entry.item

-- What the items of a kind carry, in the order of the queue.
def collect {β : Type*} (carried : α → Option β) (queue : DelayQueue α) : List β :=
  queue.entries.filterMap fun entry => carried entry.item

def has (kind : α → Bool) (queue : DelayQueue α) : Bool :=
  queue.entries.any fun entry => kind entry.item

-- The first entry, once it is due.
def pop (queue : DelayQueue α) (now : Nat) : Option (α × DelayQueue α) :=
  match queue with
  | ⟨[], _⟩ => none
  | ⟨first :: rest, sorted⟩ =>
      if first.due ≤ now then some (first.item, ⟨rest, sorted.tail⟩) else none

end DelayQueue

end Raphael
