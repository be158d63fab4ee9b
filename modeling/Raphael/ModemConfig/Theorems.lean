import Raphael.ModemConfig

namespace Raphael.ModemConfig

open Trace (Along run along_of_forall)

theorem testNe_self (version : String) : testNe version version = false := by
  unfold testNe
  split
  · rfl
  · split
    · rename_i hparen
      rw [hparen]
      decide
    · exact decide_eq_false (not_not_intro rfl)

theorem testNe_empty_iff (version : String) : testNe "" version = true ↔ version ≠ "" := by
  rw [testNe, if_neg (by decide), if_neg (by decide), decide_eq_true_iff]
  exact ne_comm

-- The copy of a firmware, whole and with its owner.
def installed (firmware : Firmware) : Path → Option Entry := fun path =>
  if path = verInfoPath then some ⟨.file firmware.verInfo, .radioRoot⟩
  else if path = mbnOtaPath then some ⟨.file firmware.mbnOta, .radioRoot⟩
  else (firmware.configs path).map fun node => ⟨node, .radioRoot⟩

theorem exec_append (first second : List Command) (s : State) :
    exec (first ++ second) s = exec second (exec first s) :=
  List.foldl_append

theorem copyCommands_entries (firmware : Firmware) (s : State) :
    (exec (copyCommands firmware) s).entries = installed firmware := by
  funext path
  have hnames : verInfoPath ≠ mbnOtaPath := by decide
  simp only [exec, copyCommands, List.foldl_cons, List.foldl_nil, chmodGroupWrite, removeAll,
    copyConfigs, copyFile, chownAll, installed, id]
  by_cases hver : path = verInfoPath
  · rw [if_pos hver, hver, Function.update_of_ne hnames, Function.update_self]
    rfl
  · rw [if_neg hver]
    by_cases hmbn : path = mbnOtaPath
    · rw [if_pos hmbn, hmbn, Function.update_self]
      rfl
    · rw [if_neg hmbn, Function.update_of_ne hmbn, Function.update_of_ne hver]
      cases firmware.configs path <;> rfl

theorem prevVersionInfo_of_none {s : State} (h : s.entries verInfoPath = none) :
    prevVersionInfo s = "" := by
  rw [prevVersionInfo, h]

theorem prevVersionInfo_of_installed {s : State} {firmware : Firmware}
    (h : s.entries = installed firmware) : prevVersionInfo s = firmware.version := by
  have hentry : s.entries verInfoPath = some ⟨.file firmware.verInfo, .radioRoot⟩ := by
    rw [h, installed, if_pos rfl]
  rw [prevVersionInfo, hentry]
  rfl

-- The end of the script leaves the copy alone, wherever it is cut off.
theorem tail_entries {commands : List Command}
    (hcommands : ∀ command ∈ commands, command ∈ [chmodDirectory, setprop]) (s : State) :
    (exec commands s).entries = s.entries := by
  induction commands generalizing s with
  | nil => rfl
  | cons command commands ih =>
      have hcommand : (command s).entries = s.entries := by
        have hmem := hcommands command List.mem_cons_self
        simp only [List.mem_cons, List.not_mem_nil, or_false] at hmem
        obtain rfl | rfl := hmem <;> rfl
      exact (ih (fun c hc => hcommands c (List.mem_cons_of_mem _ hc)) (command s)).trans hcommand

-- The state that a boot finds, before its first command.
def bootState (s : State) : State := { s with mbnCopyCompleted := false }

theorem step_eq (s : State) (boot : Boot) :
    step s boot = some (exec (boot.commands s) (bootState s)) := rfl

theorem script_of_same {s : State} {firmware : Firmware}
    (hsame : testNe (prevVersionInfo s) firmware.version = false) :
    script firmware s = [chmodDirectory, setprop] := by
  rw [script, if_neg (Bool.eq_false_iff.mp hsame), List.nil_append]

theorem script_of_ne {s : State} {firmware : Firmware}
    (hne : testNe (prevVersionInfo s) firmware.version = true) :
    script firmware s = copyCommands firmware ++ [chmodDirectory, setprop] := by
  rw [script, if_pos hne]

-- A boot on a copy of its own version changes nothing.
theorem step_of_same {s next : State} {boot : Boot}
    (hsame : testNe (prevVersionInfo s) boot.firmware.version = false)
    (hstep : step s boot = some next) :
    next.entries = s.entries := by
  obtain rfl := Option.some.inj ((step_eq s boot).symm.trans hstep)
  apply tail_entries
  unfold Boot.commands
  rw [script_of_same hsame]
  cases boot.cut with
  | none => exact fun _ h => h
  | some n => exact fun _ h => List.mem_of_mem_take h

theorem step_of_uncut {s next : State} {boot : Boot}
    (hne : testNe (prevVersionInfo s) boot.firmware.version = true) (huncut : boot.cut = none)
    (hstep : step s boot = some next) : next.entries = installed boot.firmware := by
  obtain rfl := Option.some.inj ((step_eq s boot).symm.trans hstep)
  rw [Boot.commands, huncut]
  dsimp only
  rw [script_of_ne hne, exec_append, tail_entries (fun _ h => h), copyCommands_entries]

theorem step_of_cut {s next : State} {boot : Boot} {n : Nat}
    (hne : testNe (prevVersionInfo s) boot.firmware.version = true) (hcut : boot.cut = some n)
    (hstep : step s boot = some next) :
    next.entries = (exec ((copyCommands boot.firmware).take n) (bootState s)).entries := by
  obtain rfl := Option.some.inj ((step_eq s boot).symm.trans hstep)
  rw [Boot.commands, hcut]
  dsimp only
  rw [script_of_ne hne, List.take_append, exec_append,
    tail_entries (fun _ h => List.mem_of_mem_take h)]

-- The cuts that leave ver_info.txt next to an incomplete copy: before mbn_ota.txt
-- is there, and before the owner is changed.
def WholeCopy (s : State) (boot : Boot) : Prop :=
  testNe (prevVersionInfo s) boot.firmware.version = true → boot.cut ≠ some 4 ∧ boot.cut ≠ some 5

-- The stages of a copy that a whole boot can be cut off at.
theorem take_copyCommands (firmware : Firmware) (s : State) (n : Nat) (hfour : n ≠ 4)
    (hfive : n ≠ 5) :
    (exec ((copyCommands firmware).take n) s).entries = s.entries ∨
      (exec ((copyCommands firmware).take n) s).entries verInfoPath = none ∨
      (exec ((copyCommands firmware).take n) s).entries = installed firmware := by
  obtain _ | _ | _ | _ | n := n
  · exact .inl rfl
  · exact .inl rfl
  · exact .inr (.inl rfl)
  · refine .inr (.inl ?_)
    simp only [copyCommands, List.take, exec, List.foldl_cons, List.foldl_nil, copyConfigs,
      firmware.configs_verInfo]
    rfl
  · have hall : (copyCommands firmware).take (n + 4) = copyCommands firmware :=
      List.take_of_length_le (by simp only [copyCommands, List.length_cons, List.length_nil]; omega)
    rw [hall]
    exact .inr (.inr (copyCommands_entries firmware s))

-- ver_info.txt comes with a whole copy of one of the firmwares.
def Marked (boots : List Boot) (s : State) : Prop :=
  s.entries verInfoPath = none ∨ ∃ boot ∈ boots, s.entries = installed boot.firmware

theorem Marked.step {boots : List Boot} {s next : State} {boot : Boot} (h : Marked boots s)
    (hboot : boot ∈ boots) (hwhole : WholeCopy s boot) (hstep : step s boot = some next) :
    Marked boots next := by
  cases hversion : testNe (prevVersionInfo s) boot.firmware.version with
  | false =>
      unfold Marked
      rw [step_of_same hversion hstep]
      exact h
  | true =>
      obtain ⟨hfour, hfive⟩ := hwhole hversion
      cases hcut : boot.cut with
      | none => exact .inr ⟨boot, hboot, step_of_uncut hversion hcut hstep⟩
      | some n =>
          rw [hcut] at hfour hfive
          have hstages := take_copyCommands boot.firmware (bootState s) n
            (fun h => hfour (congrArg some h)) (fun h => hfive (congrArg some h))
          rw [← step_of_cut hversion hcut hstep] at hstages
          obtain hkept | hnone | hinstalled := hstages
          · unfold Marked
            rw [hkept]
            exact h
          · exact .inl hnone
          · exact .inr ⟨boot, hboot, hinstalled⟩

def configs : Path → Option Node
  | ["mcfg_sw"] => some .directory
  | ["mcfg_sw", "mbn_sw.txt"] => some (.file "mcfg_sw/generic")
  | _ => none

def firmware : Firmware := ⟨"1.0\n", configs, "mbn", rfl, rfl⟩

def replacement : Firmware := { firmware with verInfo := "2.0\n", mbnOta := "mbn2" }

-- Cut off while it copies, updated, and cut off before it copies again.
def boots : List Boot :=
  [⟨firmware, some 3⟩, ⟨firmware, none⟩, ⟨replacement, some 1⟩, ⟨replacement, none⟩]

end Raphael.ModemConfig
