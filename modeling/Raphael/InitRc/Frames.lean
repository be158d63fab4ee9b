import Raphael.InitRc.Rules

namespace Raphael.InitRc

open Properties (Store)

section Frames

-- The text that every expansion of an argument begins with.
def leading : Arg → String
  | .text text :: rest => text ++ leading rest
  | _ => ""

-- The path of a write may depend on properties, the paths of links do not.
def Command.mayWrite (path : String) : Command → Bool
  | .write target _ => (leading target).toList.isPrefixOf path.toList
  | _ => false

def Command.link : Command → Option String
  | .rm path => some path
  | .symlink _ path => some path
  | _ => none

def Command.property : Command → Option String
  | .setprop name _ => some name
  | _ => none

def Piece.property : Piece → Option String
  | .text _ => none
  | .prop name => some name

variable {props props' : Store} {command : Command} {path name value : String}

theorem expand_text (text : String) : expand props [.text text] = some text := by
  simp [expand]

theorem leading_prefix {arg : Arg} (h : expand props arg = some value) :
    (leading arg).toList <+: value.toList := by
  induction arg generalizing value with
  | nil => simp [leading]
  | cons piece rest ih =>
      cases piece with
      | prop name => simp [leading]
      | text text =>
          obtain ⟨after, hafter, rfl⟩ := Option.map_eq_some_iff.mp h
          simpa [leading, String.toList_append] using ih hafter

-- How long every expansion of an argument is at least.
def textLength : Arg → Nat
  | [] => 0
  | .text text :: rest => text.length + textLength rest
  | .prop _ :: rest => textLength rest

theorem textLength_le {arg : Arg} (h : expand props arg = some value) :
    textLength arg ≤ value.length := by
  induction arg generalizing value with
  | nil => exact Nat.zero_le _
  | cons piece rest ih =>
      cases piece with
      | text text =>
          obtain ⟨after, hafter, rfl⟩ := Option.map_eq_some_iff.mp h
          simpa [textLength] using ih hafter
      | prop name =>
          simp only [expand] at h
          split at h
          · cases h
          · obtain ⟨after, hafter, rfl⟩ := Option.map_eq_some_iff.mp h
            have := ih hafter
            simp only [textLength, String.length_append]
            omega

theorem expand_congr {arg : Arg}
    (h : ∀ piece ∈ arg, ∀ name ∈ piece.property, current props name = current props' name) :
    expand props arg = expand props' arg := by
  induction arg with
  | nil => rfl
  | cons piece rest ih =>
      have hrest := ih fun other hother => h other (List.mem_cons_of_mem _ hother)
      cases piece with
      | text text => simp only [expand, hrest]
      | prop name => simp only [expand, hrest, h _ List.mem_cons_self name rfl]

-- All that a command can do.
theorem run_effect (command : Command) (world : World) :
    command.run world = world ∨
    (∃ target content path text, command = .write target content ∧
      expand world.props target = some path ∧ world.accessible path = true ∧
      command.run world = world.writeFile path text) ∨
    (∃ path target, command.link = some path ∧ command.run world = world.setLink path target) ∨
    ∃ name value, command.property = some name ∧
      command.run world = world.setProperty name value := by
  cases command with
  | write target content =>
      simp only [Command.run]
      split
      · rename_i path text htarget _
        split
        · rename_i haccessible
          exact .inr (.inl ⟨target, content, path, text, rfl, htarget, haccessible, rfl⟩)
        · exact .inl rfl
      · exact .inl rfl
  | rm path => exact .inr (.inr (.inl ⟨path, none, rfl, rfl⟩))
  | symlink target path =>
      simp only [Command.run]
      split
      · rename_i text _
        split
        · exact .inr (.inr (.inl ⟨path, some text, rfl, rfl⟩))
        · exact .inl rfl
      · exact .inl rfl
  | setprop name value =>
      simp only [Command.run]
      split
      · exact .inr (.inr (.inr ⟨name, _, rfl, rfl⟩))
      · exact .inl rfl
  | start service => exact .inl rfl

theorem run_files (hpath : command.mayWrite path = false) (world : World) :
    (command.run world).files path = world.files path := by
  obtain hrun | ⟨target, content, text, _, rfl, htarget, _, hrun⟩ | ⟨_, _, _, hrun⟩ |
    ⟨_, _, _, hrun⟩ := run_effect command world
  · rw [hrun]
  · have hne : path ≠ text := by
      rintro rfl
      have hprefix := leading_prefix htarget
      rw [← List.isPrefixOf_iff_prefix] at hprefix
      simp [Command.mayWrite, hprefix] at hpath
    rw [hrun]
    exact Function.update_of_ne hne _ _
  · rw [hrun, World.setLink]
  · rw [hrun, World.setProperty]

-- No command gets at what is not there, or makes it.
theorem run_accessible (command : Command) (world : World) :
    (command.run world).accessible = world.accessible := by
  obtain hrun | ⟨_, _, _, _, _, _, _, hrun⟩ | ⟨_, _, _, hrun⟩ | ⟨_, _, _, hrun⟩ :=
    run_effect command world
  · rw [hrun]
  · rw [hrun, World.writeFile]
  · rw [hrun, World.setLink]
  · rw [hrun, World.setProperty]

theorem run_files_of_inaccessible {world : World} (hpath : world.accessible path = false)
    (command : Command) : (command.run world).files path = world.files path := by
  obtain hrun | ⟨_, _, text, _, _, _, haccessible, hrun⟩ | ⟨_, _, _, hrun⟩ | ⟨_, _, _, hrun⟩ :=
    run_effect command world
  · rw [hrun]
  · have hne : path ≠ text := by
      rintro rfl
      rw [hpath] at haccessible
      cases haccessible
    rw [hrun]
    exact Function.update_of_ne hne _ _
  · rw [hrun, World.setLink]
  · rw [hrun, World.setProperty]

theorem run_links (hpath : command.link ≠ some path) (world : World) :
    (command.run world).links path = world.links path := by
  obtain hrun | ⟨_, _, _, _, _, _, _, hrun⟩ | ⟨other, _, hlink, hrun⟩ | ⟨_, _, _, hrun⟩ :=
    run_effect command world
  · rw [hrun]
  · rw [hrun, World.writeFile]
  · have hne : path ≠ other := fun heq => hpath (heq ▸ hlink)
    rw [hrun]
    exact Function.update_of_ne hne _ _
  · rw [hrun, World.setProperty]

theorem run_props (hname : command.property ≠ some name) (world : World) :
    (command.run world).props name = world.props name := by
  obtain hrun | ⟨_, _, _, _, _, _, _, hrun⟩ | ⟨_, _, _, hrun⟩ | ⟨other, value, hset, hrun⟩ :=
    run_effect command world
  · rw [hrun]
  · rw [hrun, World.writeFile]
  · rw [hrun, World.setLink]
  · have hne : name ≠ other := fun heq => hname (heq ▸ hset)
    rw [hrun, World.setProperty]
    exact world.props.set_of_ne value hne

-- What a step does to what the commands work on.
theorem step_world {rc : List Action} {s next : State} {event : Event}
    (h : step rc s event = some next) :
    (∃ name value, next.world = s.world.setProperty name value) ∨ next.world = s.world ∨
      ∃ command : Command, next.world = command.run s.world := by
  cases event with
  | setProperty name value =>
      cases h
      exact .inl ⟨name, value, rfl⟩
  | turn =>
      simp only [step] at h
      split at h
      · cases h
        exact .inr (.inr ⟨_, rfl⟩)
      · cases h
        exact .inr (.inl rfl)
      · cases h

theorem mem_changes {world : World} {change : String × String}
    (h : change ∈ command.changes world) :
    ∃ text, command = .setprop change.1 text ∧ expand world.props text = some change.2 := by
  cases command with
  | setprop name text =>
      simp only [Command.changes, Option.mem_toList, Option.map_eq_some_iff] at h
      obtain ⟨value, hvalue, rfl⟩ := h
      exact ⟨text, rfl, hvalue⟩
  | write target content => cases h
  | rm path => cases h
  | symlink target path => cases h
  | start service => cases h

end Frames

section Ensures

variable {frozen : String → Prop} {context goal other : World → Prop} {world : World}
  {commands earlier later : List Command}

-- The rule of conjunction.
theorem Ensures.forall {ι : Type} {goals : ι → World → Prop}
    (h : ∀ i, Ensures frozen (goals i) commands world) :
    Ensures frozen (fun world => ∀ i, goals i world) commands world := by
  induction commands generalizing world with
  | nil => exact h
  | cons command rest ih => exact fun next hnext => ih fun i => h i next hnext

theorem Ensures.and (h : Ensures frozen goal commands world)
    (h' : Ensures frozen other commands world) :
    Ensures frozen (fun world => goal world ∧ other world) commands world := by
  induction commands generalizing world with
  | nil => exact ⟨h, h'⟩
  | cons command rest ih => exact fun next hnext => ih (h next hnext) (h' next hnext)

theorem Ensures.mono (himp : ∀ world, goal world → other world)
    (h : Ensures frozen goal commands world) : Ensures frozen other commands world := by
  induction commands generalizing world with
  | nil => exact himp world h
  | cons command rest ih => exact fun next hnext => ih (h next hnext)

-- One command reaches the goal, and those after it keep it.
theorem ensures_last {setter : Command} (hcontext : Stable frozen context)
    (hgoal : Stable frozen goal) (hearlier : ∀ command ∈ earlier, Preserves context command)
    (hset : ∀ world, context world → goal (setter.run world))
    (hlater : ∀ command ∈ later, Preserves goal command) (hworld : context world) :
    Ensures frozen goal (earlier ++ setter :: later) world := by
  apply ensures_append (ensures_of_preserves hcontext hearlier hworld)
  intro world hworld
  apply ensures_cons hcontext _ hworld
  intro world hworld
  exact ensures_of_preserves hgoal hlater (hset world hworld)

end Ensures

section Fixed

-- The properties of a list have the values that they have elsewhere, and the
-- same files and directories are there.
structure Agree (fixed : List String) (origin world : World) : Prop where
  props : ∀ name ∈ fixed, current world.props name = current origin.props name
  accessible : world.accessible = origin.accessible

variable {fixed : List String} {origin world : World} {command : Command}
  {earlier later : List Command} {path : String} {frozen : String → Prop}

theorem Agree.refl (fixed : List String) (world : World) : Agree fixed world world :=
  ⟨fun _ _ => rfl, rfl⟩

theorem Agree.expand {arg : Arg} (h : Agree fixed origin world)
    (harg : ∀ piece ∈ arg, ∀ name ∈ piece.property, name ∈ fixed) :
    InitRc.expand world.props arg = InitRc.expand origin.props arg :=
  expand_congr fun piece hpiece name hname => h.props name (harg piece hpiece name hname)

theorem agree_stable : Stable (· ∈ fixed) (Agree fixed origin) := by
  intro world name value hfree h
  refine ⟨?_, h.accessible⟩
  intro other hother
  have hne : other ≠ name := fun heq => hfree (heq ▸ hother)
  refine Eq.trans ?_ (h.props other hother)
  simp only [World.setProperty, current, world.props.set_of_ne value hne]

theorem agree_preserves (hcommand : ∀ name ∈ fixed, command.property ≠ some name) :
    Preserves (Agree fixed origin) command := by
  intro world h
  refine ⟨?_, (run_accessible command world).trans h.accessible⟩
  intro name hname
  rw [← h.props name hname, current, current, run_props (hcommand name hname)]

theorem file_stable (content : Option String) :
    Stable frozen fun world => world.files path = content :=
  fun _ _ _ _ h => h

theorem link_stable (target : Option String) :
    Stable frozen fun world => world.links path = target :=
  fun _ _ _ _ h => h

theorem file_preserves (hcommand : command.mayWrite path = false) (content : Option String) :
    Preserves (fun world => world.files path = content) command :=
  fun world h => (run_files hcommand world).trans h

theorem link_preserves (hcommand : command.link ≠ some path) (target : Option String) :
    Preserves (fun world => world.links path = target) command :=
  fun world h => (run_links hcommand world).trans h

-- The last write to a path decides about the file.
theorem ensures_write {content : Arg} {text : String}
    (hearlier : ∀ command ∈ earlier, ∀ name ∈ fixed, command.property ≠ some name)
    (hcontent : ∀ piece ∈ content, ∀ name ∈ piece.property, name ∈ fixed)
    (htext : expand origin.props content = some text)
    (hlater : ∀ command ∈ later, command.mayWrite path = false)
    (hpath : origin.accessible path = true) (hagree : Agree fixed origin world) :
    Ensures (· ∈ fixed) (fun world => world.files path = some text)
      (earlier ++ .write [.text path] content :: later) world := by
  apply ensures_last agree_stable (file_stable _)
    (fun command hcommand => agree_preserves (hearlier command hcommand)) _
    (fun command hcommand => file_preserves (hlater command hcommand) _) hagree
  intro world hworld
  simp [Command.run, expand_text, hworld.expand hcontent, htext, hworld.accessible, hpath,
    World.writeFile]

-- What a link to a target comes to, if its place is free.
def linkTarget (origin : World) (target : Arg) : Option String :=
  (expand origin.props target).filter origin.accessible

theorem run_symlink {target : Arg} (hagree : Agree fixed origin world)
    (htarget : ∀ piece ∈ target, ∀ name ∈ piece.property, name ∈ fixed)
    (hplace : origin.accessible path = true) (hnone : world.links path = none) :
    ((Command.symlink target path).run world).links path = linkTarget origin target := by
  unfold linkTarget
  simp only [Command.run, hagree.expand htarget, hagree.accessible, hplace]
  cases hvalue : expand origin.props target with
  | none => simp [hnone]
  | some value =>
      cases haccessible : origin.accessible value with
      | false => simp [haccessible, hnone, Option.filter]
      | true => simp [haccessible, hnone, World.setLink, Option.filter]

-- Each target is linked at its path, if that is free and the target expands to a
-- directory that is there.
theorem ensures_symlinks {targets : List Arg} {paths : List String} (hnodup : paths.Nodup)
    (htargets : ∀ target ∈ targets, ∀ piece ∈ target, ∀ name ∈ piece.property, name ∈ fixed)
    {i : Nat} (hpath : paths[i]? = some path) (hplace : origin.accessible path = true)
    (hagree : Agree fixed origin world) (hnone : world.links path = none) :
    Ensures (· ∈ fixed) (fun world => world.links path = targets[i]?.bind (linkTarget origin))
      (List.zipWith .symlink targets paths) world := by
  induction targets generalizing paths i world with
  | nil => simpa [Ensures] using hnone
  | cons target rest ih =>
      cases paths with
      | nil => simp at hpath
      | cons slot slots =>
          obtain ⟨hfirst, hslots⟩ := List.nodup_cons.mp hnodup
          have hsymlink : Preserves (Agree fixed origin) (.symlink target slot) :=
            agree_preserves fun name _ => by simp [Command.property]
          apply ensures_cons (agree_stable.and (link_stable none)) _ ⟨hagree, hnone⟩
          rintro world ⟨hagree, hnone⟩
          cases i with
          | zero =>
              obtain rfl : slot = path := by simpa using hpath
              have hkept : ∀ command ∈ List.zipWith Command.symlink rest slots,
                  command.link ≠ some slot := by
                intro command hcommand
                obtain ⟨j, hj, rfl⟩ := List.getElem_of_mem hcommand
                rw [List.getElem_zipWith]
                intro heq
                rw [Command.link, Option.some_inj] at heq
                exact hfirst (heq ▸ List.getElem_mem _)
              apply ensures_of_preserves (link_stable _)
                (fun command hcommand => link_preserves (hkept command hcommand) _)
              exact run_symlink hagree (htargets target List.mem_cons_self) hplace hnone
          | succ i =>
              have hrest : slots[i]? = some path := by simpa using hpath
              have hne : slot ≠ path := fun heq => hfirst (heq ▸ List.mem_of_getElem? hrest)
              have hlink : Preserves (fun world => world.links path = none)
                  (.symlink target slot) :=
                link_preserves (by simpa [Command.link] using hne) none
              simpa using ih hslots (fun t ht => htargets t (List.mem_cons_of_mem _ ht)) hrest
                (hsymlink world hagree) (hlink world hnone)

-- What is not there is not written, in one step or in a run.
def Untouched (origin : World) (path : String) (world : World) : Prop :=
  world.accessible path = false ∧ world.files path = origin.files path

theorem Untouched.after_step {rc : List Action} {s next : State} {event : Event}
    (h : Untouched origin path s.world) (hstep : step rc s event = some next) :
    Untouched origin path next.world := by
  obtain ⟨name, value, hworld⟩ | hworld | ⟨command, hworld⟩ := step_world hstep
  · rw [hworld]
    exact h
  · rw [hworld]
    exact h
  · rw [hworld]
    obtain ⟨hpath, hfile⟩ := h
    exact ⟨by rw [run_accessible, hpath], by rw [run_files_of_inaccessible hpath, hfile]⟩

theorem run_untouched {rc : List Action} {s next : State} {events : List Event}
    (hpath : s.world.accessible path = false)
    (hrun : Trace.run (step rc) s events = some next) :
    next.world.files path = s.world.files path :=
  (Trace.run_invariant (step rc) (fun state => Untouched s.world path state.world)
    (fun _ _ _ h _ hstep => h.after_step hstep) ⟨hpath, rfl⟩ (Trace.along_true _ s events) hrun).2

end Fixed

end Raphael.InitRc
