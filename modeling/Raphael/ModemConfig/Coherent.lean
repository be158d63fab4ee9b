import Raphael.ModemConfig.Theorems

namespace Raphael.ModemConfig

open Trace (along_true run run_history_invariant)

-- Whatever is there is a file of the one firmware. Next to ver_info.txt, all of
-- its files are, but for the last one to be copied.
structure Coherent (firmware : Firmware) (entries : Path → Option Entry) : Prop where
  only : ∀ path, entries path = none ∨
    (entries path).map Entry.node = (installed firmware path).map Entry.node
  marked : entries verInfoPath ≠ none → ∀ path, path ≠ mbnOtaPath →
    (entries path).map Entry.node = (installed firmware path).map Entry.node

theorem installed_coherent (firmware : Firmware) : Coherent firmware (installed firmware) :=
  ⟨fun _ => .inr rfl, fun _ _ _ => rfl⟩

-- Changing owners keeps the copy coherent.
theorem Coherent.of_nodes {firmware : Firmware} {entries other : Path → Option Entry}
    (h : Coherent firmware entries)
    (hnodes : ∀ path, (other path).map Entry.node = (entries path).map Entry.node) :
    Coherent firmware other := by
  have hnone : ∀ path, other path = none ↔ entries path = none := by
    intro path
    rw [← Option.map_eq_none_iff (f := Entry.node), hnodes path, Option.map_eq_none_iff]
  constructor
  · intro path
    rw [hnodes path, hnone path]
    exact h.only path
  · intro hmarker path hpath
    rw [hnodes path]
    exact h.marked (fun hn => hmarker ((hnone _).mpr hn)) path hpath

-- The directory after the configs are copied into an empty one.
def copiedConfigs (firmware : Firmware) : Path → Option Entry := fun path =>
  (firmware.configs path).map fun node => ⟨node, .rootRoot⟩

theorem copyConfigs_removeAll (firmware : Firmware) (s : State) :
    (copyConfigs firmware (removeAll s)).entries = copiedConfigs firmware := by
  funext path
  simp only [copyConfigs, removeAll, copiedConfigs]
  cases firmware.configs path <;> rfl

theorem copiedConfigs_coherent (firmware : Firmware) :
    Coherent firmware (copiedConfigs firmware) := by
  have hver : copiedConfigs firmware verInfoPath = none := by
    rw [copiedConfigs, firmware.configs_verInfo]
    rfl
  constructor
  · intro path
    by_cases hpath : path = verInfoPath
    · left
      rw [hpath, hver]
    · by_cases hmbn : path = mbnOtaPath
      · left
        rw [hmbn, copiedConfigs, firmware.configs_mbnOta]
        rfl
      · right
        rw [copiedConfigs, installed, if_neg hpath, if_neg hmbn]
        cases firmware.configs path <;> rfl
  · intro hmarker
    exact absurd hver hmarker

-- The directory after ver_info.txt is copied as well.
def copiedMarker (firmware : Firmware) : Path → Option Entry :=
  Function.update (copiedConfigs firmware) verInfoPath (some ⟨.file firmware.verInfo, .rootRoot⟩)

theorem copiedMarker_nodes (firmware : Firmware) {path : Path} (hmbn : path ≠ mbnOtaPath) :
    (copiedMarker firmware path).map Entry.node = (installed firmware path).map Entry.node := by
  unfold copiedMarker installed
  by_cases hver : path = verInfoPath
  · rw [if_pos hver, hver, Function.update_self]
    rfl
  · rw [if_neg hver, if_neg hmbn, Function.update_of_ne hver, copiedConfigs]
    cases firmware.configs path <;> rfl

theorem copiedMarker_coherent (firmware : Firmware) :
    Coherent firmware (copiedMarker firmware) := by
  constructor
  · intro path
    by_cases hmbn : path = mbnOtaPath
    · left
      have hnames : mbnOtaPath ≠ verInfoPath := by decide
      rw [hmbn, copiedMarker, Function.update_of_ne hnames, copiedConfigs,
        firmware.configs_mbnOta]
      rfl
    · right
      exact copiedMarker_nodes firmware hmbn
  · exact fun _ path hmbn => copiedMarker_nodes firmware hmbn

-- The last file completes the copy, with owners that are still to be changed.
theorem copiedAll_coherent (firmware : Firmware) :
    Coherent firmware (Function.update (copiedMarker firmware) mbnOtaPath
      (some ⟨.file firmware.mbnOta, .rootRoot⟩)) := by
  apply (installed_coherent firmware).of_nodes
  intro path
  by_cases hmbn : path = mbnOtaPath
  · have hnames : mbnOtaPath ≠ verInfoPath := by decide
    rw [hmbn, Function.update_self, installed, if_neg hnames, if_pos rfl]
    rfl
  · rw [Function.update_of_ne hmbn]
    exact copiedMarker_nodes firmware hmbn

-- A copy leaves the old directory, or a coherent new one, wherever it is cut off.
theorem take_copyCommands_coherent (firmware : Firmware) (s : State) (n : Nat) :
    (exec ((copyCommands firmware).take n) s).entries = s.entries ∨
      Coherent firmware (exec ((copyCommands firmware).take n) s).entries := by
  have hconfigs := copyConfigs_removeAll firmware (chmodGroupWrite s)
  obtain _ | _ | _ | _ | _ | _ | n := n
  · exact .inl rfl
  · exact .inl rfl
  · exact .inr ⟨fun _ => .inl rfl, fun h => absurd rfl h⟩
  · right
    change Coherent firmware (copyConfigs firmware (removeAll (chmodGroupWrite s))).entries
    rw [hconfigs]
    exact copiedConfigs_coherent firmware
  · right
    change Coherent firmware (Function.update
      (copyConfigs firmware (removeAll (chmodGroupWrite s))).entries _ _)
    rw [hconfigs]
    exact copiedMarker_coherent firmware
  · right
    change Coherent firmware (Function.update (Function.update
      (copyConfigs firmware (removeAll (chmodGroupWrite s))).entries _ _) _ _)
    rw [hconfigs]
    exact copiedAll_coherent firmware
  · right
    have hall : (copyCommands firmware).take (n + 6) = copyCommands firmware :=
      List.take_of_length_le (by simp only [copyCommands, List.length_cons, List.length_nil]; omega)
    rw [hall, copyCommands_entries]
    exact installed_coherent firmware

theorem step_coherent {s next : State} {boot : Boot} (hstep : step s boot = some next) :
    next.entries = s.entries ∨ Coherent boot.firmware next.entries := by
  cases hversion : testNe (prevVersionInfo s) boot.firmware.version with
  | false => exact .inl (step_of_same hversion hstep)
  | true =>
      cases hcut : boot.cut with
      | none =>
          right
          rw [step_of_uncut hversion hcut hstep]
          exact installed_coherent boot.firmware
      | some n =>
          rw [step_of_cut hversion hcut hstep]
          exact take_copyCommands_coherent boot.firmware (bootState s) n

-- A command that does not publish the copy.
def Quiet (command : Command) : Prop := ∀ s, (command s).mbnCopyCompleted = s.mbnCopyCompleted

theorem exec_quiet {commands : List Command} (h : ∀ command ∈ commands, Quiet command)
    (s : State) : (exec commands s).mbnCopyCompleted = s.mbnCopyCompleted := by
  induction commands generalizing s with
  | nil => rfl
  | cons command commands ih =>
      have hrest := ih (fun c hc => h c (List.mem_cons_of_mem _ hc)) (command s)
      exact hrest.trans (h command List.mem_cons_self s)

theorem copyCommands_quiet (firmware : Firmware) :
    ∀ command ∈ copyCommands firmware, Quiet command := by
  intro command hcommand s
  simp only [copyCommands, List.mem_cons, List.not_mem_nil, or_false] at hcommand
  obtain rfl | rfl | rfl | rfl | rfl | rfl := hcommand <;> rfl

-- The property is set by the last command.
theorem script_eq (firmware : Firmware) (s : State) :
    ∃ body, script firmware s = body ++ [setprop] ∧ ∀ command ∈ body, Quiet command := by
  refine ⟨(if testNe (prevVersionInfo s) firmware.version then copyCommands firmware else []) ++
    [chmodDirectory], ?_, ?_⟩
  · rw [script, List.append_assoc]
    rfl
  · intro command hcommand
    obtain hcopy | hchmod := List.mem_append.mp hcommand
    · split at hcopy
      · exact copyCommands_quiet firmware command hcopy
      · cases hcopy
    · rw [List.mem_singleton.mp hchmod]
      exact fun _ => rfl

-- So a boot that publishes has gone through the whole script.
theorem commands_of_completed {s next : State} {boot : Boot}
    (hstep : step s boot = some next) (hcompleted : next.mbnCopyCompleted = true) :
    boot.commands s = script boot.firmware s := by
  obtain rfl := Option.some.inj ((step_eq s boot).symm.trans hstep)
  obtain ⟨body, hscript, hquiet⟩ := script_eq boot.firmware s
  unfold Boot.commands at hcompleted ⊢
  cases hcut : boot.cut with
  | none => rfl
  | some n =>
      simp only [hcut, hscript] at hcompleted
      dsimp only
      rw [hscript]
      apply List.take_of_length_le
      by_contra hshort
      have hn : n ≤ body.length := by
        rw [List.length_append, List.length_singleton] at hshort
        omega
      rw [List.take_append_of_le_length hn] at hcompleted
      rw [exec_quiet fun command h => hquiet command (List.mem_of_mem_take h)] at hcompleted
      cases hcompleted

theorem testNe_of_completed {s next : State} {boot : Boot}
    (hstep : step s boot = some next) (hcompleted : next.mbnCopyCompleted = true) :
    testNe (prevVersionInfo next) boot.firmware.version = false := by
  cases hversion : testNe (prevVersionInfo s) boot.firmware.version with
  | false =>
      rw [prevVersionInfo, step_of_same hversion hstep]
      exact hversion
  | true =>
      have hcommands := commands_of_completed hstep hcompleted
      have huncut : step s ⟨boot.firmware, none⟩ = some next := by
        rw [step_eq, Boot.commands, ← hstep, step_eq, hcommands]
      have hinstalled := @step_of_uncut s next ⟨boot.firmware, none⟩ hversion rfl huncut
      rw [prevVersionInfo_of_installed hinstalled]
      exact testNe_self boot.firmware.version

theorem Coherent.prevVersionInfo {firmware : Firmware} {s : State}
    (h : Coherent firmware s.entries) (hmarker : s.entries verInfoPath ≠ none) :
    prevVersionInfo s = firmware.version := by
  have hnode := (h.only verInfoPath).resolve_left hmarker
  rw [installed, if_pos rfl] at hnode
  obtain ⟨⟨node, owner⟩, hentry, rfl⟩ := Option.map_eq_some_iff.mp hnode
  rw [ModemConfig.prevVersionInfo, hentry]
  rfl

-- Before anything is copied, the directory is empty.
def Origin (boots : List Boot) (entries : Path → Option Entry) : Prop :=
  (∀ path, entries path = none) ∨ ∃ boot ∈ boots, Coherent boot.firmware entries

-- What the boots so far have left.
structure Left (boots : List Boot) (s : State) : Prop where
  origin : Origin boots s.entries
  published : s.mbnCopyCompleted = true → ∀ last ∈ boots.getLast?,
    testNe (prevVersionInfo s) last.firmware.version = false

theorem Left.step {boots : List Boot} {s next : State} {boot : Boot} (h : Left boots s)
    (hstep : step s boot = some next) : Left (boots ++ [boot]) next := by
  constructor
  · obtain hkept | hcoherent := step_coherent hstep
    · rw [hkept]
      obtain hempty | ⟨other, hother, hcoherent⟩ := h.origin
      · exact .inl hempty
      · exact .inr ⟨other, List.mem_append_left _ hother, hcoherent⟩
    · exact .inr ⟨boot, List.mem_append_right _ List.mem_cons_self, hcoherent⟩
  · intro hcompleted last hlast
    rw [List.getLast?_concat] at hlast
    cases hlast
    exact testNe_of_completed hstep hcompleted

theorem run_left {boots : List Boot} {s : State} (hrun : run step empty boots = some s) :
    Left boots s := by
  have hstart : Left [] empty := ⟨.inl fun _ => rfl, fun h => nomatch h⟩
  exact run_history_invariant step Left (fun past s boot next h _ hstep => h.step hstep) hstart
    (along_true step empty boots) hrun

theorem eq_of_testNe {prev cur : String} (h : testNe prev cur = false) :
    prev = cur ∨ prev = "!" ∨ prev = "(" := by
  unfold testNe at h
  split at h
  · exact .inr (.inl ‹_›)
  · split at h
    · exact .inr (.inr ‹_›)
    · exact .inl (of_not_not (of_decide_eq_false h))

-- Wherever the boots are cut off, the directory never mixes two firmwares, and
-- what is published under a version is a copy of a firmware of that version, or
-- of one whose version text the test takes for an operator.
theorem modemConfig_never_mixed {boots : List Boot} {s : State}
    (hrun : run step empty boots = some s) :
    Origin boots s.entries ∧
      ∀ last ∈ boots.getLast?, s.mbnCopyCompleted = true → last.firmware.version ≠ "" →
        ∃ boot ∈ boots, (boot.firmware.version = last.firmware.version ∨
            boot.firmware.version = "!" ∨ boot.firmware.version = "(") ∧
          ∀ path, path ≠ mbnOtaPath →
            (s.entries path).map Entry.node = (installed boot.firmware path).map Entry.node := by
  have hleft := run_left hrun
  refine ⟨hleft.origin, ?_⟩
  intro last hlast hcompleted hversion
  have hpublished := hleft.published hcompleted last hlast
  have hmarker : s.entries verInfoPath ≠ none := by
    intro hnone
    rw [prevVersionInfo_of_none hnone, (testNe_empty_iff _).mpr hversion] at hpublished
    cases hpublished
  obtain hempty | ⟨boot, hboot, hcoherent⟩ := hleft.origin
  · exact absurd (hempty verInfoPath) hmarker
  · refine ⟨boot, hboot, ?_, hcoherent.marked hmarker⟩
    rw [hcoherent.prevVersionInfo hmarker] at hpublished
    exact eq_of_testNe hpublished

def replaced : State :=
  exec (script replacement (exec ((copyCommands firmware).take 5) empty))
    (exec ((copyCommands firmware).take 5) empty)

-- The first firmware is cut off before the change of owners.
theorem modemConfig_never_mixed_replaced :
    Origin [⟨firmware, some 5⟩, ⟨replacement, none⟩] replaced.entries ∧
      ∃ boot ∈ [(⟨firmware, some 5⟩ : Boot), ⟨replacement, none⟩],
        (boot.firmware.version = replacement.version ∨
          boot.firmware.version = "!" ∨ boot.firmware.version = "(") ∧
          ∀ path, path ≠ mbnOtaPath →
            (replaced.entries path).map Entry.node =
              (installed boot.firmware path).map Entry.node := by
  obtain ⟨horigin, hpublished⟩ :=
    @modemConfig_never_mixed [⟨firmware, some 5⟩, ⟨replacement, none⟩] replaced rfl
  exact ⟨horigin, hpublished ⟨replacement, none⟩ rfl rfl (by decide +kernel)⟩

end Raphael.ModemConfig
