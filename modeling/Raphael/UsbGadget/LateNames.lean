import Raphael.UsbGadget.Theorems

namespace Raphael.UsbGadget

open InitRc
open Properties (Store)

section LateNames

variable {s next : State} {events : List Event} {origin : World} {c : Composition}

-- A command that neither changes a gadget nor asks for another one.
def Unrelated (command : Command) : Prop :=
  Harmless command ∧ ∀ name ∈ triggers, command.property ≠ some name

instance (command : Command) : Decidable (Unrelated command) := inferInstanceAs (Decidable (_ ∧ _))

-- The gadget is set up, and nothing is under way that could change it.
structure Quiet (origin : World) (c : Composition) (s : State) : Prop where
  setUp : SetUp origin c s.world
  queue : ∀ change ∈ s.queue, change.1 ∉ triggers
  commands : ∀ command ∈ s.commands, Unrelated command

theorem others_quiet : ∀ action ∈ others, action.names ⊆ triggers ∨
    ∀ command ∈ action.commands, Unrelated command := by
  decide +kernel

theorem quiet_of_triggered {action : Action} (haction : action ∈ rc) {props : Store}
    {change : String × String} (htriggered : action.triggered props change = true)
    (hchange : change.1 ∉ triggers) : ∀ command ∈ action.commands, Unrelated command := by
  have hname : change.1 ∈ action.names := by
    simp only [Action.triggered, Bool.and_eq_true, decide_eq_true_eq] at htriggered
    exact htriggered.1
  obtain ⟨row, hrow, rfl⟩ := List.mem_map.mp haction
  cases row with
  | composition c => exact absurd (composition_names hname) hchange
  | startAdbd config =>
      have hnames : (Row.startAdbd config).action.names ⊆ triggers := by
        simp [Row.action, startAdbd, Action.names, triggers]
      exact absurd (hnames hname) hchange
  | writeIds config idVendor idProduct =>
      have hnames : (Row.writeIds config idVendor idProduct).action.names ⊆ triggers := by
        simp [Row.action, writeIds, Action.names, triggers]
      exact absurd (hnames hname) hchange
  | other action =>
      obtain hnames | hquiet := others_quiet action (mem_others hrow)
      · exact absurd (hnames hname) hchange
      · exact hquiet

theorem Quiet.after_step {event : Event} (h : Quiet origin c s)
    (hevent : ∀ name value, event = .setProperty name value → name ∉ triggers)
    (hstep : step rc s event = some next) : Quiet origin c next := by
  cases event with
  | setProperty name value =>
      cases hstep
      refine ⟨@SetUp.stable origin c (fun _ => False) _ name value id h.setUp, ?_, h.commands⟩
      intro change hchange
      obtain hbefore | hnew := List.mem_append.mp hchange
      · exact h.queue change hbefore
      · rw [List.mem_singleton.mp hnew]
        exact hevent name value rfl
  | turn =>
      cases hcommands : s.commands with
      | cons command rest =>
          simp only [step, hcommands] at hstep
          cases hstep
          obtain ⟨hharmless, hproperty⟩ := h.commands command (hcommands ▸ List.mem_cons_self)
          refine ⟨SetUp.preserves hharmless _ h.setUp, ?_, ?_⟩
          · intro change hchange
            obtain hbefore | hnew := List.mem_append.mp hchange
            · exact h.queue change hbefore
            · obtain ⟨text, rfl, -⟩ := mem_changes hnew
              exact fun hmem => hproperty _ hmem rfl
          · exact fun other hother => h.commands other (hcommands ▸ List.mem_cons_of_mem _ hother)
      | nil =>
          cases hqueue : s.queue with
          | cons change rest =>
              simp only [step, hcommands, hqueue] at hstep
              cases hstep
              refine ⟨h.setUp, ?_, ?_⟩
              · exact fun other hother => h.queue other (hqueue ▸ List.mem_cons_of_mem _ hother)
              · intro command hcommand
                obtain ⟨action, haction, hmem⟩ := List.mem_flatMap.mp hcommand
                obtain ⟨hrc, htriggered⟩ := List.mem_filter.mp haction
                have hname := h.queue change (hqueue ▸ List.mem_cons_self)
                exact quiet_of_triggered hrc htriggered hname command hmem
          | nil =>
              simp only [step, hcommands, hqueue] at hstep
              cases hstep

-- A gadget is not set up again because names are given: a function whose name
-- was missing stays away until another configuration is asked for.
theorem names_come_late (hup : SetUp origin c s.world) (hidle : s.Idle)
    (hkept : Keeps events triggers) (hrun : Trace.run (step rc) s events = some next) :
    SetUp origin c next.world := by
  obtain ⟨hqueue, hcommands⟩ := hidle
  have hquiet : Quiet origin c s := ⟨hup, by simp [hqueue], by simp [hcommands]⟩
  have hguard := Trace.along_of_forall (step rc)
    (fun event hevent name value (heq : event = .setProperty name value) =>
      hkept name value (heq ▸ hevent)) s
  exact (Trace.run_invariant (step rc) (Quiet origin c)
    (fun _ _ _ hinv hevent hstep => hinv.after_step hevent hstep) hquiet hguard hrun).setUp

def diagDunRmnet : Composition :=
  { config := "diag,serial_cdev,rmnet", configuration := "Default comp without ADB",
    idProduct := "0x9092", pid := some "0x9092",
    functions := [diag "diag", function "cser.dun.0", rmnet] }

-- What init.target.rc sets for USB when the boot is completed.
def bootCompleted : List Event :=
  [.setProperty "vendor.usb.rndis.func.name" "gsi",
    .setProperty "vendor.usb.rmnet.func.name" "gsi",
    .setProperty "vendor.usb.rmnet.inst.name" "rmnet",
    .setProperty "vendor.usb.dpl.inst.name" "dpl",
    .setProperty "vendor.usb.qdss.inst.name" "qdss",
    .setProperty "vendor.usb.controller" "a600000.dwc3"] ++ List.replicate 6 .turn

theorem bootCompleted_keeps : Keeps bootCompleted triggers := by
  intro name value hmem
  simp only [bootCompleted, List.mem_append, List.mem_cons, List.mem_replicate,
    Event.setProperty.injEq, reduceCtorEq, and_false, or_false, List.not_mem_nil] at hmem
  obtain ⟨rfl, -⟩ | ⟨rfl, -⟩ | ⟨rfl, -⟩ | ⟨rfl, -⟩ | ⟨rfl, -⟩ | ⟨rfl, -⟩ := hmem <;> decide

theorem names_come_late_rmnet : ∃ middle next,
    Run (device "0") (request "diag,serial_cdev,rmnet" 20) middle ∧
    Trace.run (step rc) middle bootCompleted = some next ∧
    expand next.world.props rmnet = some "/config/usb_gadget/g1/functions/gsi.rmnet" ∧
    next.world.accessible "/config/usb_gadget/g1/functions/gsi.rmnet" = true ∧
    next.world.links "/config/usb_gadget/g1/configs/b.1/f3" = none := by
  have hrow : .composition diagDunRmnet ∈ table := @List.mem_of_getElem? _ table 10 _ rfl
  obtain ⟨middle, hmiddle, hon⟩ :=
    @request_run "0" "diag,serial_cdev,rmnet" 20 diagDunRmnet.action (by decide +kernel)
  have hnamed : (Trace.run (step rc) (device "0")
      (request "diag,serial_cdev,rmnet" 20 ++ bootCompleted)).any (fun next =>
        expand next.world.props rmnet = some "/config/usb_gadget/g1/functions/gsi.rmnet" &&
          next.world.accessible "/config/usb_gadget/g1/functions/gsi.rmnet") = true := by
    decide +kernel
  obtain ⟨next, hrun, hname⟩ := (Option.any_eq_true _ _).mp hnamed
  rw [Bool.and_eq_true, decide_eq_true_eq] at hname
  obtain ⟨_, hfirst, hsecond⟩ := Trace.run_append_some _ hrun
  obtain rfl := Option.some.inj (hmiddle.run.symm.trans hfirst)
  refine ⟨middle, next, hmiddle, hsecond, hname.1, hname.2, ?_⟩
  have hset := hmiddle.setUp hrow (device_gadget "0") (request_keeps _ _) (by decide +kernel) hon
  have hup := names_come_late hset hmiddle.idle bootCompleted_keeps hsecond
  obtain ⟨slot, hslot, hlink⟩ := hup.linked 2 rmnet rfl
  obtain rfl := Option.some.inj hslot
  rw [hlink]
  decide +kernel

end LateNames

end Raphael.UsbGadget
