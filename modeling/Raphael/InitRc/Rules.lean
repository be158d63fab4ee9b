import Mathlib.Logic.Relation
import Raphael.InitRc

namespace Raphael.InitRc

open Properties (Store)

section Logic

variable (frozen : String → Prop)

-- Others may set every property that is not frozen, between any two commands.
def Stable (goal : World → Prop) : Prop :=
  ∀ world name value, ¬frozen name → goal world → goal (world.setProperty name value)

def Interferes : World → World → Prop :=
  Relation.ReflTransGen fun world next =>
    ∃ name value, ¬frozen name ∧ next = world.setProperty name value

-- The commands lead to the goal, whatever is set while they are executed.
def Ensures (goal : World → Prop) : List Command → World → Prop
  | [], world => goal world
  | command :: rest, world =>
      ∀ next, Interferes frozen world next → Ensures goal rest (command.run next)

def Preserves (goal : World → Prop) (command : Command) : Prop :=
  ∀ world, goal world → goal (command.run world)

variable {frozen} {goal before : World → Prop} {world next : World} {commands : List Command}

theorem Stable.interferes (hstable : Stable frozen goal) (h : Interferes frozen world next)
    (hgoal : goal world) : goal next := by
  induction h with
  | refl => exact hgoal
  | tail _ hset ih =>
      obtain ⟨name, value, hfree, rfl⟩ := hset
      exact hstable _ name value hfree ih

theorem Ensures.interferes (hstable : Stable frozen goal) (h : Interferes frozen world next)
    (hensures : Ensures frozen goal commands world) : Ensures frozen goal commands next := by
  cases commands with
  | nil => exact hstable.interferes h hensures
  | cons command rest => exact fun last hlast => hensures last (h.trans hlast)

theorem ensures_cons {command : Command} (hstable : Stable frozen before)
    (hstep : ∀ world, before world → Ensures frozen goal commands (command.run world))
    (hbefore : before world) : Ensures frozen goal (command :: commands) world :=
  fun next hnext => hstep next (hstable.interferes hnext hbefore)

-- Sequential composition.
theorem ensures_append {first second : List Command} (h : Ensures frozen before first world)
    (hsecond : ∀ world, before world → Ensures frozen goal second world) :
    Ensures frozen goal (first ++ second) world := by
  induction first generalizing world with
  | nil => exact hsecond world h
  | cons command rest ih => exact fun next hnext => ih (h next hnext)

theorem ensures_of_preserves (hstable : Stable frozen goal)
    (hcommands : ∀ command ∈ commands, Preserves goal command) (hgoal : goal world) :
    Ensures frozen goal commands world := by
  induction commands generalizing world with
  | nil => exact hgoal
  | cons command rest ih =>
      intro next hnext
      apply ih (fun c hc => hcommands c (List.mem_cons_of_mem _ hc))
      exact hcommands command List.mem_cons_self next (hstable.interferes hnext hgoal)

theorem Stable.and {other : World → Prop} (h : Stable frozen goal) (h' : Stable frozen other) :
    Stable frozen fun world => goal world ∧ other world :=
  fun world name value hfree hw =>
    ⟨h world name value hfree hw.1, h' world name value hfree hw.2⟩

end Logic

section Triggers

-- Two actions that ask one property for different values.
def Conflict (first second : Action) : Prop :=
  ∃ name value other, (name, value) ∈ first.conditions ∧ (name, other) ∈ second.conditions ∧
    value ≠ other ∧ value ≠ "*" ∧ other ≠ "*"

variable {action other : Action} {props : Store} {change : String × String}

theorem admits_eq {pattern value : String} (h : admits pattern value = true)
    (hpattern : pattern ≠ "*") : pattern = value := by
  simpa [admits, hpattern] using h

theorem holds_congr {props' : Store}
    (h : ∀ name ∈ action.names, current props' name = current props name) :
    action.holds props' = action.holds props := by
  unfold Action.holds
  rw [Bool.eq_iff_iff, List.all_eq_true, List.all_eq_true]
  apply forall₂_congr
  intro condition hcondition
  rw [h condition.1 (List.mem_map_of_mem hcondition)]

theorem not_conflict (htriggered : other.triggered props change = true)
    (hholds : action.holds props = true)
    (hcurrent : change.1 ∈ action.names → current props change.1 = change.2) :
    ¬Conflict other action := by
  rintro ⟨name, value, value', hother, haction, hne, hvalue, hvalue'⟩
  have hmem : name ∈ action.names := List.mem_map_of_mem haction
  have hadmits := admits_eq (List.all_eq_true.mp hholds _ haction) hvalue'
  simp only [Action.triggered, Bool.and_eq_true] at htriggered
  have hcondition := List.all_eq_true.mp htriggered.2 _ hother
  dsimp only at hcondition hadmits
  by_cases hname : name = change.1
  · rw [if_pos hname] at hcondition
    simp only [Bool.or_eq_true, decide_eq_true_eq, hvalue, false_or] at hcondition
    rw [hname] at hmem hadmits
    exact hne (hcondition.trans ((hcurrent hmem).symm.trans hadmits.symm))
  · rw [if_neg hname] at hcondition
    exact hne ((admits_eq hcondition hvalue).trans hadmits.symm)

theorem triggered_of_holds (hholds : action.holds props = true) (hname : change.1 ∈ action.names)
    (hcurrent : current props change.1 = change.2) : action.triggered props change = true := by
  simp only [Action.triggered, Bool.and_eq_true, decide_eq_true_eq]
  refine ⟨hname, List.all_eq_true.mpr ?_⟩
  intro condition hcondition
  have hadmits := List.all_eq_true.mp hholds condition hcondition
  by_cases hsame : condition.1 = change.1
  · rw [if_pos hsame]
    rw [hsame, hcurrent] at hadmits
    by_cases hany : condition.2 = "*"
    · simp [hany]
    · simp [admits_eq hadmits hany]
  · rw [if_neg hsame]
    exact hadmits

end Triggers

end Raphael.InitRc
