import Raphael.InitRc.Rest
import Raphael.UsbGadget.Theorems

namespace Raphael.UsbGadget

open InitRc
open Properties (Store)

-- The properties that are set, but trigger nothing.
def silent : List String := ["sys.usb.state", "persist.sys.usb.config"]

-- The configurations with tethering are replaced when they are set.
def rank (change : String × String) : Nat :=
  if change.1 ∈ silent then 0
  else if change.1 ≠ "sys.usb.config" then 1
  else if change.2 = "rndis" then 3
  else if change.2 = "rndis,adb" then 2
  else 1

def level : Command → Nat
  | .setprop name value =>
      if name ∈ silent then 1
      else if .setprop name value ∈ rndisExtraAdb.commands then 2
      else if .setprop name value ∈ rndisExtra.commands then 3
      else 4
  | _ => 0

theorem rank_le (change : String × String) : rank change ≤ 3 := by
  unfold rank
  split_ifs <;> omega

theorem rank_of_long {name value : String} (h : 9 < value.length) : rank (name, value) ≤ 1 := by
  have hrndis : value ≠ "rndis" := by
    rintro rfl
    exact absurd h (by decide)
  have hadb : value ≠ "rndis,adb" := by
    rintro rfl
    exact absurd h (by decide)
  unfold rank
  simp only [hrndis, hadb, if_false]
  split_ifs <;> omega

theorem rank_of_ne {name value : String} (h : value ≠ "rndis") : rank (name, value) ≤ 2 := by
  unfold rank
  simp only [h, if_false]
  split_ifs <;> omega

theorem rank_lt_level {props : Store} {name value : String} {text : Arg}
    (h : expand props text = some value) : rank (name, value) < level (.setprop name text) := by
  have hlength := textLength_le h
  simp only [level]
  split_ifs with hsilent hadb hrndis
  · simp [rank, hsilent]
  · simp only [rndisExtraAdb, List.mem_singleton, Command.setprop.injEq] at hadb
    rw [hadb.2] at hlength
    have hlong : 9 < value.length := hlength
    have := @rank_of_long name value hlong
    omega
  · simp only [rndisExtra, List.mem_singleton, Command.setprop.injEq] at hrndis
    rw [hrndis.2] at hlength
    have hne : value ≠ "rndis" := by
      rintro rfl
      exact absurd hlength (by decide)
    have := @rank_of_ne name value hne
    omega
  · have := rank_le (name, value)
    omega

theorem others_level : ∀ action ∈ others, action = rndisExtra ∨ action = rndisExtraAdb ∨
    (∀ name ∈ action.names, name ∉ silent) ∧ ∀ command ∈ action.commands, level command ≤ 1 := by
  decide +kernel

theorem triggered_config {config : String} {props : Store} {change : String × String}
    {commands : List Command} (hconfig : config ≠ "*")
    (h : Action.triggered ⟨[("sys.usb.config", config)], commands⟩ props change = true) :
    change = ("sys.usb.config", config) := by
  simp only [Action.triggered, Action.names, List.map_cons, List.map_nil, List.mem_singleton,
    List.all_cons, List.all_nil, Bool.and_eq_true, decide_eq_true_eq, Bool.and_true] at h
  obtain ⟨hname, hvalue⟩ := h
  rw [if_pos hname.symm] at hvalue
  simp only [Bool.or_eq_true, decide_eq_true_eq, hconfig, false_or] at hvalue
  exact Prod.ext hname hvalue.symm

theorem one_le_rank {action : Action} {props : Store} {change : String × String}
    (hnames : ∀ name ∈ action.names, name ∉ silent)
    (h : action.triggered props change = true) : 1 ≤ rank change := by
  simp only [Action.triggered, Bool.and_eq_true, decide_eq_true_eq] at h
  unfold rank
  rw [if_neg (hnames _ h.1)]
  split_ifs <;> omega

theorem level_of_property {command : Command} (h : command.property = none) :
    level command = 0 := by
  cases command with
  | setprop name text => cases h
  | write path content => rfl
  | rm path => rfl
  | symlink target path => rfl
  | start service => rfl

theorem composition_level {c : Composition} : ∀ command ∈ c.commands, level command ≤ 1 := by
  intro command hcommand
  obtain hnone | rfl := property_cases hcommand
  · rw [level_of_property hnone]
    omega
  · simp [level, silent]

theorem triggers_not_silent : ∀ name ∈ triggers, name ∉ silent := by decide

theorem rc_ranked : Ranked rc rank level where
  announces := by
    intro command world change hchange
    obtain ⟨text, rfl, hvalue⟩ := mem_changes hchange
    exact rank_lt_level hvalue
  triggers := by
    intro action haction props change htriggered command hcommand
    obtain ⟨row, hrow, rfl⟩ := List.mem_map.mp haction
    cases row with
    | composition c =>
        have hnames : ∀ name ∈ c.action.names, name ∉ silent :=
          fun name hname => triggers_not_silent name (composition_names hname)
        exact (composition_level command hcommand).trans (one_le_rank hnames htriggered)
    | startAdbd config =>
        obtain rfl := List.mem_singleton.mp hcommand
        exact Nat.zero_le _
    | writeIds config idVendor idProduct =>
        have hzero : level command = 0 := by
          simp only [Row.action, writeIds, List.mem_cons, List.not_mem_nil, or_false] at hcommand
          obtain rfl | rfl := hcommand <;> rfl
        rw [hzero]
        exact Nat.zero_le _
    | other action =>
        obtain rfl | rfl | ⟨hnames, hlevel⟩ := others_level action (mem_others hrow)
        · rw [triggered_config (by decide) htriggered, List.mem_singleton.mp hcommand]
          decide
        · rw [triggered_config (by decide) htriggered, List.mem_singleton.mp hcommand]
          decide
        · exact (hlevel command hcommand).trans (one_le_rank hnames htriggered)

-- Although the actions set the property that triggers them, init comes to rest
-- from every state, once the others leave the properties alone.
theorem comes_to_rest (s : State) :
    ∃ turns next, Trace.run (step rc) s (List.replicate turns .turn) = some next ∧ next.Idle :=
  rest_of_ranked rc_ranked s

end Raphael.UsbGadget
