import Mathlib.Algebra.Order.BigOperators.Group.List
import Mathlib.Algebra.Group.Action.Defs
import Mathlib.Algebra.Order.Ring.Nat
import Mathlib.Data.List.Flatten
import Raphael.InitRc.Settling

namespace Raphael.InitRc

-- Changes that trigger commands that announce changes of a lower rank.
structure Ranked (rc : List Action) (rank : String × String → Nat) (level : Command → Nat) :
    Prop where
  announces : ∀ command world, ∀ change ∈ Command.changes command world,
    rank change < level command
  triggers : ∀ action ∈ rc, ∀ props change, action.triggered props change = true →
    ∀ command ∈ action.commands, level command ≤ rank change

section Weight

variable (rc : List Action) (rank : String × String → Nat) (level : Command → Nat)

-- More than all actions together have commands.
def base : Nat := (rc.flatMap Action.commands).length + 2

def commandsWeight (commands : List Command) : Nat :=
  (commands.map fun command => base rc ^ (2 * level command)).sum

def queueWeight (queue : List (String × String)) : Nat :=
  (queue.map fun change => base rc ^ (2 * rank change + 1)).sum

variable {rc rank level}

theorem queueWeight_append (first second : List (String × String)) :
    queueWeight rc rank (first ++ second) =
      queueWeight rc rank first + queueWeight rc rank second := by
  simp [queueWeight]

theorem changes_lt (hranked : Ranked rc rank level) (command : Command) (world : World) :
    queueWeight rc rank (command.changes world) < base rc ^ (2 * level command) := by
  have hbase : 1 < base rc := by
    unfold base
    omega
  obtain ⟨hchanges, -⟩ | ⟨name, value, text, -, hchanges, -⟩ := run_cases command world
  · rw [hchanges]
    exact Nat.pow_pos (by omega)
  · have hlower := hranked.announces command world (name, value) (by simp [hchanges])
    have hexponent : 2 * rank (name, value) + 1 < 2 * level command := by omega
    simpa [hchanges, queueWeight] using Nat.pow_lt_pow_right hbase hexponent

theorem taken_lt (hranked : Ranked rc rank level) (props : Properties.Store)
    (change : String × String) :
    commandsWeight rc level
      ((rc.filter fun action => action.triggered props change).flatMap Action.commands) <
        base rc ^ (2 * rank change + 1) := by
  have hlength : ((rc.filter fun action => action.triggered props change).flatMap
      Action.commands).length ≤ (rc.flatMap Action.commands).length :=
    (List.filter_sublist.flatMap _).length_le
  have heach : ∀ weight ∈ ((rc.filter fun action => action.triggered props change).flatMap
      Action.commands).map (fun command => base rc ^ (2 * level command)),
      weight ≤ base rc ^ (2 * rank change) := by
    intro weight hweight
    obtain ⟨command, hcommand, rfl⟩ := List.mem_map.mp hweight
    obtain ⟨action, haction, hmem⟩ := List.mem_flatMap.mp hcommand
    obtain ⟨hrc, htriggered⟩ := List.mem_filter.mp haction
    have hlevel := hranked.triggers action hrc props change htriggered command hmem
    apply Nat.pow_le_pow_right
    · unfold base
      omega
    · omega
  have hsum := List.sum_le_card_nsmul _ _ heach
  rw [List.length_map, smul_eq_mul] at hsum
  have hpos : 0 < base rc ^ (2 * rank change) := Nat.pow_pos (by unfold base; omega)
  have hbase : (rc.flatMap Action.commands).length < base rc := by
    unfold base
    omega
  calc commandsWeight rc level _ ≤ _ := hsum
    _ ≤ (rc.flatMap Action.commands).length * base rc ^ (2 * rank change) :=
        Nat.mul_le_mul_right _ hlength
    _ < base rc * base rc ^ (2 * rank change) := Nat.mul_lt_mul_of_pos_right hbase hpos
    _ = base rc ^ (2 * rank change + 1) := (Nat.pow_succ').symm

end Weight

section Rest

variable {rc : List Action} {rank : String × String → Nat} {level : Command → Nat}

theorem turn_lighter (hranked : Ranked rc rank level) {s : State} (hbusy : ¬s.Idle) :
    ∃ next, step rc s .turn = some next ∧
      commandsWeight rc level next.commands + queueWeight rc rank next.queue <
        commandsWeight rc level s.commands + queueWeight rc rank s.queue := by
  cases hcommands : s.commands with
  | cons command rest =>
      refine ⟨⟨command.run s.world, s.queue ++ command.changes s.world, rest⟩,
        by simp only [step, hcommands], ?_⟩
      have hlt := changes_lt hranked command s.world
      simp only [queueWeight_append]
      rw [commandsWeight, commandsWeight, List.map_cons, List.sum_cons]
      omega
  | nil =>
      cases hqueue : s.queue with
      | cons change rest =>
          refine ⟨⟨s.world, rest, (rc.filter fun action =>
            action.triggered s.world.props change).flatMap Action.commands⟩,
            by simp only [step, hcommands, hqueue], ?_⟩
          have hlt := taken_lt hranked s.world.props change
          rw [queueWeight, queueWeight, List.map_cons, List.sum_cons]
          simp only [commandsWeight, List.map_nil, List.sum_nil] at hlt ⊢
          omega
      | nil => exact absurd ⟨hqueue, hcommands⟩ hbusy

-- Left alone, init comes to rest.
theorem rest_of_ranked (hranked : Ranked rc rank level) (s : State) :
    ∃ turns next, Trace.run (step rc) s (List.replicate turns .turn) = some next ∧ next.Idle := by
  induction hweight : commandsWeight rc level s.commands + queueWeight rc rank s.queue using
    Nat.strong_induction_on generalizing s with
  | _ weight ih =>
      by_cases hidle : s.Idle
      · exact ⟨0, s, rfl, hidle⟩
      · obtain ⟨middle, hstep, hlt⟩ := turn_lighter hranked hidle
        obtain ⟨turns, next, hrun, hnext⟩ := ih _ (hweight ▸ hlt) middle rfl
        refine ⟨turns + 1, next, ?_, hnext⟩
        rw [List.replicate_succ, Trace.run_cons, hstep]
        exact hrun

end Rest

end Raphael.InitRc
