import Raphael.InitRc.Rules

namespace Raphael.InitRc

section Machine

variable (rc : List Action) (frozen : String → Prop) (context goal : World → Prop)

-- What makes an action decide about a goal: it leads there from every world of
-- the context, and an action that can be triggered beside it keeps the goal.
structure Settles (action : Action) : Prop where
  mem : action ∈ rc
  stable : Stable frozen goal
  sets : ∀ world, context world → Ensures frozen goal action.commands world
  keeps : ∀ other ∈ rc, other = action ∨ Conflict other action ∨
    ∀ command ∈ other.commands, Preserves goal command

structure Context : Prop where
  stable : Stable frozen context
  preserved : ∀ action ∈ rc, ∀ command ∈ action.commands, Preserves context command
  free : ∀ action ∈ rc, ∀ name value, .setprop name value ∈ action.commands → ¬frozen name
  needed : ∀ world, goal world → context world

variable {rc frozen context goal} {action : Action} {s next : State}

theorem ensures_flatMap {taken : List Action} {world : World}
    (hcontext : Context rc frozen context goal) (hsettles : Settles rc frozen context goal action)
    (hmem : ∀ other ∈ taken, other ∈ rc)
    (hkeeps : ∀ other ∈ taken, other = action ∨ ∀ command ∈ other.commands, Preserves goal command)
    (h : goal world ∨ context world ∧ action ∈ taken) :
    Ensures frozen goal (taken.flatMap Action.commands) world := by
  induction taken generalizing world with
  | nil => exact h.resolve_right fun h => nomatch h.2
  | cons other rest ih =>
      have hrest : ∀ world, goal world ∨ context world ∧ action ∈ rest →
          Ensures frozen goal (rest.flatMap Action.commands) world :=
        fun world => ih (fun a ha => hmem a (List.mem_cons_of_mem _ ha))
          fun a ha => hkeeps a (List.mem_cons_of_mem _ ha)
      have hworld : context world := h.elim (hcontext.needed world) And.left
      rw [List.flatMap_cons]
      by_cases hsame : other = action
      · rw [hsame]
        exact ensures_append (hsettles.sets world hworld)
          fun world hgoal => hrest world (.inl hgoal)
      · have hkept := (hkeeps other List.mem_cons_self).resolve_left hsame
        by_cases hgoal : goal world
        · exact ensures_append (ensures_of_preserves hsettles.stable hkept hgoal)
            fun world hgoal => hrest world (.inl hgoal)
        · have hlater : action ∈ rest :=
            (List.mem_cons.mp (h.resolve_left hgoal).2).resolve_left (Ne.symm hsame)
          have hpreserved := hcontext.preserved other (hmem other List.mem_cons_self)
          exact ensures_append (ensures_of_preserves hcontext.stable hpreserved hworld)
            fun world hw => hrest world (.inr ⟨hw, hlater⟩)

-- The value of the last change to a property that is still in the queue.
def lastChange (name : String) (queue : List (String × String)) : Option (String × String) :=
  (queue.filter fun change => change.1 = name).getLast?

-- While the action's conditions hold, either a change to one of them is still
-- to be looked at, or the commands that are left lead to the goal.
structure Settling (frozen : String → Prop) (context goal : World → Prop) (action : Action)
    (s : State) : Prop where
  inContext : context s.world
  preserved : ∀ command ∈ s.commands, Preserves context command
  free : ∀ name value, .setprop name value ∈ s.commands → ¬frozen name
  latest : ∀ name change, lastChange name s.queue = some change →
    current s.world.props name = change.2
  pending : action.holds s.world.props = true →
    (∃ change ∈ s.queue, change.1 ∈ action.names) ∨ Ensures frozen goal s.commands s.world

section Step

variable {name value : String}

theorem current_set_self (props : Properties.Store) (name value : String) :
    current (props.set name value) name = value := by
  rw [current, props.set_self]
  rfl

theorem current_set_of_ne (props : Properties.Store) {other : String} (value : String)
    (hne : other ≠ name) : current (props.set name value) other = current props other := by
  rw [current, props.set_of_ne value hne, current]

theorem lastChange_concat_self (queue : List (String × String)) :
    lastChange name (queue ++ [(name, value)]) = some (name, value) := by
  simp [lastChange, List.filter_append]

theorem lastChange_concat_of_ne {other : String} (queue : List (String × String))
    (hne : other ≠ name) :
    lastChange other (queue ++ [(name, value)]) = lastChange other queue := by
  simp [lastChange, List.filter_append, hne.symm]

-- A property is set, and its change is queued.
theorem Settling.set {commands : List Command} (hcontext : Context rc frozen context goal)
    (h : Settling frozen context goal action s) (hfree : ¬frozen name)
    (hsub : ∀ command ∈ commands, command ∈ s.commands)
    (hleads : Ensures frozen goal s.commands s.world →
      Ensures frozen goal commands (s.world.setProperty name value)) :
    Settling frozen context goal action
      ⟨s.world.setProperty name value, s.queue ++ [(name, value)], commands⟩ where
  inContext := hcontext.stable _ _ _ hfree h.inContext
  preserved command hcommand := h.preserved command (hsub command hcommand)
  free other text hother := h.free other text (hsub _ hother)
  latest := by
    intro other change hlast
    by_cases hname : other = name
    · rw [hname, lastChange_concat_self] at hlast
      cases hlast
      rw [hname]
      exact current_set_self _ _ _
    · rw [lastChange_concat_of_ne _ hname] at hlast
      exact (current_set_of_ne _ _ hname).trans (h.latest other change hlast)
  pending := by
    intro hholds
    by_cases hname : name ∈ action.names
    · exact .inl ⟨(name, value), List.mem_append_right _ List.mem_cons_self, hname⟩
    · have hsame : action.holds (s.world.setProperty name value).props =
          action.holds s.world.props := by
        apply holds_congr
        intro other hother
        exact current_set_of_ne _ _ fun heq => hname (heq ▸ hother)
      obtain ⟨change, hchange, hmem⟩ | hensures := h.pending (hsame ▸ hholds)
      · exact .inl ⟨change, List.mem_append_left _ hchange, hmem⟩
      · exact .inr (hleads hensures)

-- A command sets a property, or leaves all of them.
theorem run_cases (command : Command) (world : World) :
    (command.changes world = [] ∧ (command.run world).props = world.props) ∨
      ∃ name value text, command = .setprop name text ∧
        command.changes world = [(name, value)] ∧
        command.run world = world.setProperty name value := by
  cases command with
  | write path content =>
      left
      refine ⟨rfl, ?_⟩
      unfold Command.run
      dsimp only
      split
      · split <;> rfl
      · rfl
  | rm path => exact .inl ⟨rfl, rfl⟩
  | symlink target path =>
      left
      refine ⟨rfl, ?_⟩
      unfold Command.run
      dsimp only
      split
      · split <;> rfl
      · rfl
  | setprop name text =>
      cases hvalue : expand world.props text with
      | none =>
          left
          simp only [Command.changes, Command.run, hvalue, Option.map_none, Option.toList_none,
            and_self]
      | some value =>
          right
          refine ⟨name, value, text, rfl, ?_, ?_⟩
          · simp only [Command.changes, hvalue, Option.map_some, Option.toList_some]
          · simp only [Command.run, hvalue]
  | start service => exact .inl ⟨rfl, rfl⟩

-- A command is executed.
theorem Settling.command {command : Command} {rest : List Command}
    (hcontext : Context rc frozen context goal) (h : Settling frozen context goal action s)
    (hcommands : s.commands = command :: rest) :
    Settling frozen context goal action
      ⟨command.run s.world, s.queue ++ command.changes s.world, rest⟩ := by
  have hmem : command ∈ s.commands := hcommands ▸ List.mem_cons_self
  have hsub : ∀ other ∈ rest, other ∈ s.commands :=
    fun other hother => hcommands ▸ List.mem_cons_of_mem _ hother
  have hleads : Ensures frozen goal s.commands s.world →
      Ensures frozen goal rest (command.run s.world) := by
    intro hensures
    rw [hcommands] at hensures
    exact hensures s.world .refl
  obtain ⟨hchanges, hprops⟩ | ⟨name, value, text, hset, hchanges, hrun⟩ :=
    run_cases command s.world
  · rw [hchanges, List.append_nil]
    refine ⟨h.preserved command hmem _ h.inContext, fun c hc => h.preserved c (hsub c hc),
      fun name value hc => h.free name value (hsub _ hc), ?_, ?_⟩
    · rw [hprops]
      exact h.latest
    · rw [hprops]
      exact fun hholds => (h.pending hholds).imp_right hleads
  · rw [hchanges, hrun]
    have hfree := h.free name text (hset ▸ hmem)
    exact h.set hcontext hfree hsub (hrun ▸ hleads)

theorem lastChange_cons (queue : List (String × String)) (change : String × String)
    (hnone : ∀ later ∈ queue, later.1 ≠ change.1) :
    lastChange change.1 (change :: queue) = some change := by
  have hfilter : queue.filter (fun later => later.1 = change.1) = [] := by
    rw [List.filter_eq_nil_iff]
    intro later hlater
    simpa using hnone later hlater
  simp [lastChange, hfilter]

theorem lastChange_of_tail (change : String × String) {queue : List (String × String)}
    {other : String × String} (h : lastChange name queue = some other) :
    lastChange name (change :: queue) = some other := by
  unfold lastChange at h ⊢
  rw [List.filter_cons]
  split
  · rw [List.getLast?_cons, h]
    rfl
  · exact h

-- A change is looked at. When it is the last one that concerns the action, the
-- action is among those that are taken up, and the others keep the goal.
theorem Settling.look {change : String × String} {rest : List (String × String)}
    (hcontext : Context rc frozen context goal) (hsettles : Settles rc frozen context goal action)
    (h : Settling frozen context goal action s) (hcommands : s.commands = [])
    (hqueue : s.queue = change :: rest) :
    Settling frozen context goal action ⟨s.world, rest,
      (rc.filter fun other => other.triggered s.world.props change).flatMap Action.commands⟩ := by
  have htaken : ∀ other ∈ rc.filter (fun other => other.triggered s.world.props change),
      other ∈ rc ∧ other.triggered s.world.props change = true :=
    fun other hother => List.mem_filter.mp hother
  refine ⟨h.inContext, ?_, ?_, ?_, ?_⟩
  · intro command hcommand
    obtain ⟨other, hother, hmem⟩ := List.mem_flatMap.mp hcommand
    exact hcontext.preserved other (htaken other hother).1 command hmem
  · intro name value hcommand
    obtain ⟨other, hother, hmem⟩ := List.mem_flatMap.mp hcommand
    exact hcontext.free other (htaken other hother).1 name value hmem
  · intro name other hlast
    apply h.latest name other
    rw [hqueue]
    exact lastChange_of_tail change hlast
  · intro hholds
    by_cases hlater : ∃ later ∈ rest, later.1 ∈ action.names
    · exact .inl hlater
    · right
      have hcurrent : change.1 ∈ action.names → current s.world.props change.1 = change.2 := by
        intro hname
        apply h.latest change.1 change
        rw [hqueue]
        apply lastChange_cons
        intro later hmem heq
        exact hlater ⟨later, hmem, heq ▸ hname⟩
      apply ensures_flatMap hcontext hsettles fun other hother => (htaken other hother).1
      · intro other hother
        obtain ⟨hrc, htriggered⟩ := htaken other hother
        obtain rfl | hconflict | hkeeps := hsettles.keeps other hrc
        · exact .inl rfl
        · exact absurd hconflict (not_conflict htriggered hholds hcurrent)
        · exact .inr hkeeps
      · by_cases hname : change.1 ∈ action.names
        · refine .inr ⟨h.inContext, List.mem_filter.mpr ⟨hsettles.mem, ?_⟩⟩
          exact triggered_of_holds hholds hname (hcurrent hname)
        · left
          obtain ⟨other, hother, hmem⟩ | hensures := h.pending hholds
          · rw [hqueue] at hother
            obtain rfl | hother := List.mem_cons.mp hother
            · exact absurd hmem hname
            · exact absurd ⟨other, hother, hmem⟩ hlater
          · rwa [hcommands] at hensures

theorem Settling.after_step {event : Event} (hcontext : Context rc frozen context goal)
    (hsettles : Settles rc frozen context goal action) (h : Settling frozen context goal action s)
    (hfree : ∀ name value, event = .setProperty name value → ¬frozen name)
    (hstep : step rc s event = some next) : Settling frozen context goal action next := by
  cases event with
  | setProperty name value =>
      cases hstep
      have hname := hfree name value rfl
      exact h.set hcontext hname (fun _ hc => hc) fun hensures =>
        hensures.interferes hsettles.stable (.single ⟨name, value, hname, rfl⟩)
  | turn =>
      cases hcommands : s.commands with
      | cons command rest =>
          simp only [step, hcommands] at hstep
          cases hstep
          exact h.command hcontext hcommands
      | nil =>
          cases hqueue : s.queue with
          | cons change rest =>
              simp only [step, hcommands, hqueue] at hstep
              cases hstep
              exact h.look hcontext hsettles hcommands hqueue
          | nil =>
              simp only [step, hcommands, hqueue] at hstep
              cases hstep

end Step

-- Whenever init has nothing left to do, the goal of every action whose
-- conditions hold is reached. It is enough that none of this action's changes
-- came before the run.
theorem settled_of_idle (hcontext : Context rc frozen context goal)
    (hsettles : Settles rc frozen context goal action) {events : List Event}
    (hstart : s.Idle) (hinContext : context s.world) (hoff : action.holds s.world.props = false)
    (hfree : ∀ name value, .setProperty name value ∈ events → ¬frozen name)
    (hrun : Trace.run (step rc) s events = some next) (hidle : next.Idle)
    (hholds : action.holds next.world.props = true) : goal next.world := by
  have hbegin : Settling frozen context goal action s := by
    obtain ⟨hqueue, hcommands⟩ := hstart
    refine ⟨hinContext, ?_, ?_, ?_, ?_⟩
    · simp [hcommands]
    · simp [hcommands]
    · simp [hqueue, lastChange]
    · simp [hoff]
  have hguard := Trace.along_of_forall (step rc)
    (fun event hevent name value (heq : event = .setProperty name value) =>
      hfree name value (heq ▸ hevent)) s
  have hend := Trace.run_invariant (step rc) (Settling frozen context goal action)
    (fun _ _ _ h hevent hstep => h.after_step hcontext hsettles hevent hstep) hbegin hguard hrun
  obtain ⟨change, hchange, -⟩ | hensures := hend.pending hholds
  · rw [hidle.1] at hchange
    cases hchange
  · rwa [hidle.2] at hensures

end Machine

end Raphael.InitRc
