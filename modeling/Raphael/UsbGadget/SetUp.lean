import Raphael.InitRc.Frames
import Raphael.InitRc.Settling
import Raphael.UsbGadget

namespace Raphael.UsbGadget

open InitRc

-- The properties that the names of the functions and of the controller are made
-- of. A function whose name is not given, or not the name of one that has been
-- made, is not linked.
def fixed : List String :=
  ["vendor.usb.diag.func.name", "vendor.usb.rmnet.func.name", "vendor.usb.rmnet.inst.name",
    "vendor.usb.dpl.inst.name", "vendor.usb.rndis.func.name", "vendor.usb.qdss.inst.name",
    "sys.usb.controller"]

-- The gadget is what the composition says, and nothing is left of another one.
structure SetUp (origin : World) (c : Composition) (world : World) : Prop where
  configuration : world.files configurationPath = some c.configuration
  idVendor : world.files idVendorPath = some c.idVendor
  idProduct : world.files idProductPath = some c.idProduct
  pid : ∀ pid, c.pid = some pid → world.files pidPath = some pid
  bound : ∀ controller, expand origin.props [.prop "sys.usb.controller"] = some controller →
    world.files udcPath = some controller
  linked : ∀ (i : Nat) (function : Arg), c.functions[i]? = some function →
    ∃ slot, slots[i]? = some slot ∧ world.links slot = linkTarget origin function
  free : ∀ (i : Nat) (slot : String), slots[i]? = some slot → c.functions.length ≤ i →
    world.links slot = none

-- The kernel has the gadget, and on boot has been through.
def HasGadget (world : World) : Prop := ∀ path ∈ gadgetPaths, world.accessible path = true

section Commands

variable {c : Composition} {command : Command} {path : String}

theorem mem_symlinks {targets : List Arg} {paths : List String}
    (h : command ∈ List.zipWith Command.symlink targets paths) :
    ∃ target slot, slot ∈ paths ∧ command = .symlink target slot := by
  obtain ⟨i, hi, rfl⟩ := List.getElem_of_mem h
  rw [List.getElem_zipWith]
  exact ⟨_, _, List.getElem_mem _, rfl⟩

theorem mem_attributes (h : command ∈ c.attributes) :
    (∃ pid, command = .write [.text pidPath] [.text pid]) ∨
      command = .write (qdss ++ [.text "/enable_debug_inface"]) [.text "1"] := by
  rw [Composition.attributes, List.mem_append] at h
  obtain hpid | hdebug := h
  · obtain ⟨pid, -, rfl⟩ := List.mem_map.mp hpid
    exact .inl ⟨pid, rfl⟩
  · split at hdebug
    · exact .inr (List.mem_singleton.mp hdebug)
    · cases hdebug

theorem mayWrite_text (name : String) (content : Arg) :
    Command.mayWrite path (.write [.text name] content) = name.toList.isPrefixOf path.toList := by
  simp [Command.mayWrite, leading]

theorem rms_mayWrite : ∀ command ∈ slots.map Command.rm, command.mayWrite path = false := by
  intro command hcommand
  obtain ⟨slot, -, rfl⟩ := List.mem_map.mp hcommand
  rfl

theorem symlinks_mayWrite {targets : List Arg} {paths : List String} :
    ∀ command ∈ List.zipWith Command.symlink targets paths, command.mayWrite path = false := by
  intro command hcommand
  obtain ⟨target, slot, -, rfl⟩ := mem_symlinks hcommand
  rfl

theorem attributes_mayWrite (hpid : pidPath.toList.isPrefixOf path.toList = false)
    (hqdss : (leading qdss).toList.isPrefixOf path.toList = false) :
    ∀ command ∈ c.attributes, command.mayWrite path = false := by
  intro command hcommand
  obtain ⟨pid, rfl⟩ | rfl := mem_attributes hcommand
  · rw [mayWrite_text, hpid]
  · exact hqdss

-- One property is set, at the end.
theorem property_cases (hcommand : command ∈ c.commands) :
    command.property = none ∨ command = .setprop "sys.usb.state" c.state := by
  simp only [Composition.commands, List.mem_append, List.mem_cons, List.not_mem_nil, or_false]
    at hcommand
  obtain (((((rfl | hrm) | rfl | rfl) | hattribute) | hlink) | rfl | rfl) := hcommand
  · exact .inl rfl
  · obtain ⟨slot, -, rfl⟩ := List.mem_map.mp hrm
    exact .inl rfl
  · exact .inl rfl
  · exact .inl rfl
  · obtain ⟨pid, rfl⟩ | rfl := mem_attributes hattribute <;> exact .inl rfl
  · obtain ⟨target, slot, -, rfl⟩ := mem_symlinks hlink
    exact .inl rfl
  · exact .inl rfl
  · exact .inr rfl

theorem commands_property (hcommand : command ∈ c.commands) :
    ∀ name ∈ fixed, command.property ≠ some name := by
  obtain hnone | rfl := property_cases hcommand
  · simp [hnone]
  · simp [Command.property, fixed]

end Commands

section Ensures

variable {origin : World} {c : Composition} {world : World} {watched : List String}

-- No more of the properties need stay as they are than are used in the content.
theorem ensures_file {earlier later : List Command} {path text : String} {content : Arg}
    (hcommands : c.commands = earlier ++ .write [.text path] content :: later)
    (hwatched : watched ⊆ fixed)
    (hcontent : ∀ piece ∈ content, ∀ name ∈ piece.property, name ∈ watched)
    (htext : expand origin.props content = some text)
    (hlater : ∀ command ∈ later, command.mayWrite path = false) (hpath : path ∈ gadgetPaths)
    (hgadget : HasGadget origin) (h : Agree watched origin world) :
    Ensures (· ∈ watched) (fun world => world.files path = some text) c.commands world := by
  have hearlier : ∀ command ∈ earlier, ∀ name ∈ watched, command.property ≠ some name := by
    intro command hcommand name hname
    refine @commands_property c command ?_ name (hwatched hname)
    rw [hcommands]
    exact List.mem_append_left _ hcommand
  rw [hcommands]
  exact ensures_write hearlier hcontent htext hlater (hgadget path hpath) h

-- The commands that follow the writes of the ids.
def Composition.afterIds (c : Composition) : List Command :=
  c.attributes ++ List.zipWith .symlink c.functions slots ++
    [.write [.text udcPath] [.prop "sys.usb.controller"], .setprop "sys.usb.state" c.state]

theorem afterIds_mayWrite {path : String} (hpid : pidPath.toList.isPrefixOf path.toList = false)
    (hqdss : (leading qdss).toList.isPrefixOf path.toList = false)
    (hudc : udcPath.toList.isPrefixOf path.toList = false) :
    ∀ command ∈ c.afterIds, command.mayWrite path = false := by
  simp only [Composition.afterIds, List.forall_mem_append, List.forall_mem_cons, mayWrite_text]
  exact ⟨⟨attributes_mayWrite hpid hqdss, symlinks_mayWrite⟩, hudc, rfl, by simp⟩

theorem ensures_configuration (hgadget : HasGadget origin) (h : Agree fixed origin world) :
    Ensures (· ∈ fixed)
    (fun world => world.files configurationPath = some c.configuration) c.commands world := by
  have hcommands : c.commands = [] ++ .write [.text configurationPath] [.text c.configuration] ::
      (slots.map .rm ++ .write [.text idVendorPath] [.text c.idVendor] ::
        .write [.text idProductPath] [.text c.idProduct] :: c.afterIds) := by
    simp [Composition.commands, Composition.afterIds]
  apply ensures_file hcommands (List.Subset.refl _) (by simp [Piece.property]) (expand_text _) _
    (by simp [gadgetPaths]) hgadget h
  simp only [List.forall_mem_append, List.forall_mem_cons, mayWrite_text]
  refine ⟨rms_mayWrite, ?_, ?_, afterIds_mayWrite ?_ ?_ ?_⟩ <;> decide +kernel

theorem ensures_idVendor (hwatched : watched ⊆ fixed) (hgadget : HasGadget origin)
    (h : Agree watched origin world) : Ensures (· ∈ watched)
    (fun world => world.files idVendorPath = some c.idVendor) c.commands world := by
  have hcommands : c.commands =
      (.write [.text configurationPath] [.text c.configuration] :: slots.map .rm) ++
        .write [.text idVendorPath] [.text c.idVendor] ::
          (.write [.text idProductPath] [.text c.idProduct] :: c.afterIds) := by
    simp [Composition.commands, Composition.afterIds]
  apply ensures_file hcommands hwatched (by simp [Piece.property]) (expand_text _) _
    (by simp [gadgetPaths]) hgadget h
  simp only [List.forall_mem_cons, mayWrite_text]
  refine ⟨?_, afterIds_mayWrite ?_ ?_ ?_⟩ <;> decide +kernel

theorem ensures_idProduct (hwatched : watched ⊆ fixed) (hgadget : HasGadget origin)
    (h : Agree watched origin world) : Ensures (· ∈ watched)
    (fun world => world.files idProductPath = some c.idProduct) c.commands world := by
  have hcommands : c.commands =
      (.write [.text configurationPath] [.text c.configuration] :: slots.map .rm ++
        [.write [.text idVendorPath] [.text c.idVendor]]) ++
          .write [.text idProductPath] [.text c.idProduct] :: c.afterIds := by
    simp [Composition.commands, Composition.afterIds]
  apply ensures_file hcommands hwatched (by simp [Piece.property]) (expand_text _) _
    (by simp [gadgetPaths]) hgadget h
  apply afterIds_mayWrite <;> decide +kernel

theorem ensures_pid {pid : String} (hpid : c.pid = some pid) (hgadget : HasGadget origin)
    (h : Agree fixed origin world) :
    Ensures (· ∈ fixed) (fun world => world.files pidPath = some pid) c.commands world := by
  have hcommands : c.commands =
      (.write [.text configurationPath] [.text c.configuration] :: slots.map .rm ++
        [.write [.text idVendorPath] [.text c.idVendor],
          .write [.text idProductPath] [.text c.idProduct]]) ++
        .write [.text pidPath] [.text pid] ::
          ((if c.debugInface then [.write (qdss ++ [.text "/enable_debug_inface"]) [.text "1"]]
            else []) ++ List.zipWith .symlink c.functions slots ++
            [.write [.text udcPath] [.prop "sys.usb.controller"],
              .setprop "sys.usb.state" c.state]) := by
    simp [Composition.commands, Composition.attributes, hpid]
  apply ensures_file hcommands (List.Subset.refl _) (by simp [Piece.property]) (expand_text _) _
    (by simp [gadgetPaths]) hgadget h
  simp only [List.forall_mem_append, List.forall_mem_cons, mayWrite_text]
  refine ⟨⟨?_, symlinks_mayWrite⟩, by decide +kernel, rfl, by simp⟩
  split
  · rw [List.forall_mem_singleton]
    decide +kernel
  · simp

theorem ensures_bound {controller : String}
    (hcontroller : expand origin.props [.prop "sys.usb.controller"] = some controller)
    (hgadget : HasGadget origin) (h : Agree fixed origin world) :
    Ensures (· ∈ fixed) (fun world => world.files udcPath = some controller) c.commands world := by
  have hcommands : c.commands =
      (.write [.text configurationPath] [.text c.configuration] :: slots.map .rm ++
        [.write [.text idVendorPath] [.text c.idVendor],
          .write [.text idProductPath] [.text c.idProduct]] ++
        c.attributes ++ List.zipWith .symlink c.functions slots) ++
        .write [.text udcPath] [.prop "sys.usb.controller"] ::
          [.setprop "sys.usb.state" c.state] := by
    simp [Composition.commands]
  apply ensures_file hcommands (List.Subset.refl _) (by simp [fixed, Piece.property]) hcontroller _
    (by simp [gadgetPaths]) hgadget h
  simp [Command.mayWrite]

theorem rm_preserves_none (path other : String) :
    Preserves (fun world => world.links path = none) (.rm other) := by
  intro world h
  by_cases hsame : path = other
  · simp [hsame, Command.run, World.setLink]
  · simpa [Command.run, World.setLink, Function.update_of_ne hsame] using h

-- Before the new links are made, the old ones are gone.
theorem ensures_removed {slot : String} (hslot : slot ∈ slots) (h : Agree fixed origin world) :
    Ensures (· ∈ fixed) (fun world => Agree fixed origin world ∧ world.links slot = none)
      (.write [.text configurationPath] [.text c.configuration] :: slots.map .rm ++
        [.write [.text idVendorPath] [.text c.idVendor],
          .write [.text idProductPath] [.text c.idProduct]] ++ c.attributes) world := by
  apply Ensures.and
  · apply ensures_of_preserves agree_stable _ h
    intro command hcommand
    apply agree_preserves
    apply commands_property (c := c)
    rw [Composition.commands, List.append_assoc]
    exact List.mem_append_left _ hcommand
  · obtain ⟨before, after, hsplit⟩ := List.append_of_mem hslot
    simp only [hsplit, List.map_append, List.map_cons, List.append_assoc, List.cons_append]
    rw [← List.cons_append]
    have hany : Stable (· ∈ fixed) fun _ => True := fun _ _ _ _ _ => trivial
    apply ensures_last hany (link_stable none) (fun _ _ _ _ => trivial) _ _ trivial
    · intro world _
      simp [Command.run, World.setLink]
    · simp only [List.forall_mem_append, List.forall_mem_cons]
      refine ⟨?_, link_preserves (by simp [Command.link]) none,
        link_preserves (by simp [Command.link]) none, by simp, ?_⟩
      · intro command hcommand
        obtain ⟨other, -, rfl⟩ := List.mem_map.mp hcommand
        exact rm_preserves_none slot other
      · intro command hcommand
        apply link_preserves
        obtain ⟨pid, rfl⟩ | rfl := mem_attributes hcommand <;> simp [Command.link]

theorem ensures_link {i : Nat} {slot : String} (hslot : slots[i]? = some slot)
    (hfunctions : ∀ function ∈ c.functions, ∀ piece ∈ function, ∀ name ∈ piece.property,
      name ∈ fixed)
    (hgadget : HasGadget origin) (h : Agree fixed origin world) :
    Ensures (· ∈ fixed) (fun world => world.links slot = c.functions[i]?.bind (linkTarget origin))
      c.commands world := by
  have hnodup : slots.Nodup := by decide +kernel
  have hplace : origin.accessible slot = true :=
    hgadget slot (List.mem_append_right _ (List.mem_of_getElem? hslot))
  unfold Composition.commands
  rw [List.append_assoc]
  apply ensures_append (ensures_removed (List.mem_of_getElem? hslot) h)
  rintro world ⟨hagree, hnone⟩
  apply ensures_append (ensures_symlinks hnodup hfunctions hslot hplace hagree hnone)
  intro world hlink
  apply ensures_of_preserves (link_stable _) _ hlink
  intro command hcommand
  apply link_preserves
  simp only [List.mem_cons, List.not_mem_nil, or_false] at hcommand
  obtain rfl | rfl := hcommand <;> simp [Command.link]

-- The whole action, whatever others set while it is executed.
theorem ensures_setUp (hlength : c.functions.length ≤ slots.length)
    (hfunctions : ∀ function ∈ c.functions, ∀ piece ∈ function, ∀ name ∈ piece.property,
      name ∈ fixed)
    (hgadget : HasGadget origin) (h : Agree fixed origin world) :
    Ensures (· ∈ fixed) (SetUp origin c) c.commands world := by
  have hpid : Ensures (· ∈ fixed) (fun world => ∀ pid, c.pid = some pid →
      world.files pidPath = some pid) c.commands world := by
    apply Ensures.forall
    intro pid
    by_cases hsome : c.pid = some pid
    · exact (ensures_pid hsome hgadget h).mono fun _ hfile _ => hfile
    · exact (ensures_configuration hgadget h).mono fun _ _ hpid => absurd hpid hsome
  have hbound : Ensures (· ∈ fixed) (fun world => ∀ controller,
      expand origin.props [.prop "sys.usb.controller"] = some controller →
        world.files udcPath = some controller) c.commands world := by
    apply Ensures.forall
    intro controller
    by_cases hsome : expand origin.props [.prop "sys.usb.controller"] = some controller
    · exact (ensures_bound hsome hgadget h).mono fun _ hfile _ => hfile
    · exact (ensures_configuration hgadget h).mono fun _ _ hbound => absurd hbound hsome
  have hlinks : Ensures (· ∈ fixed) (fun world => ∀ i : Fin slots.length,
      world.links slots[i] = c.functions[(i : Nat)]?.bind (linkTarget origin)) c.commands world :=
    Ensures.forall fun i => ensures_link (List.getElem?_eq_getElem i.isLt) hfunctions hgadget h
  have hidVendor := @ensures_idVendor origin c world fixed (List.Subset.refl _) hgadget h
  have hidProduct := @ensures_idProduct origin c world fixed (List.Subset.refl _) hgadget h
  have hids := hidVendor.and hidProduct
  apply (((ensures_configuration hgadget h).and hids).and (hpid.and (hbound.and hlinks))).mono
  rintro next ⟨⟨hconfiguration, hidVendor, hidProduct⟩, hpid, hbound, hlinks⟩
  refine ⟨hconfiguration, hidVendor, hidProduct, hpid, hbound, ?_, ?_⟩
  · intro i function hfunction
    obtain ⟨hi, -⟩ := List.getElem?_eq_some_iff.mp hfunction
    have hslot : i < slots.length := by omega
    refine ⟨_, List.getElem?_eq_getElem hslot, ?_⟩
    rw [← Option.bind_some function (linkTarget origin), ← hfunction]
    exact hlinks ⟨i, hslot⟩
  · intro i slot hslot hi
    obtain ⟨hlt, rfl⟩ := List.getElem?_eq_some_iff.mp hslot
    have hlink := hlinks ⟨i, hlt⟩
    simpa [List.getElem?_eq_none hi] using hlink

end Ensures

section Table

-- What a configuration of the file shows to the host, and when.
structure Identity where
  config : String
  useFfsMtp : Option String
  idVendor : String
  idProduct : String

def Row.identity : Row → Option Identity
  | .composition c => some ⟨c.config, c.useFfsMtp, c.idVendor, c.idProduct⟩
  | .writeIds config idVendor idProduct => some ⟨config, none, idVendor, idProduct⟩
  | _ => none

def identities : List Identity := table.filterMap Row.identity

-- The conditions exclude each other.
def Identity.Apart (first second : Identity) : Prop :=
  first.config ≠ second.config ∨
    first.useFfsMtp ≠ second.useFfsMtp ∧ first.useFfsMtp.isSome ∧ second.useFfsMtp.isSome

instance (first second : Identity) : Decidable (first.Apart second) :=
  inferInstanceAs (Decidable (_ ∨ _))

theorem identities_apart : identities.Pairwise Identity.Apart := by
  decide +kernel

theorem identities_values : ∀ i ∈ identities, i.config ≠ "*" ∧ i.useFfsMtp ≠ some "*" := by
  decide +kernel

theorem compositions_length : ∀ c ∈ compositions, c.functions.length ≤ slots.length := by
  decide +kernel

theorem compositions_names : ∀ c ∈ compositions, ∀ function ∈ c.functions, ∀ piece ∈ function,
    ∀ name ∈ piece.property, name ∈ fixed := by
  decide +kernel

-- The configurations that the other actions clear or link for.
def otherConfigs : List String := ["none", "mtp", "mtp,adb", "ptp", "ptp,adb"]

theorem compositions_config : ∀ c ∈ compositions, c.config ∉ otherConfigs := by
  decide +kernel

-- A command that touches nothing of a gadget.
def Harmless (command : Command) : Prop :=
  (∀ path ∈ [configurationPath, idVendorPath, idProductPath, pidPath, udcPath],
    command.mayWrite path = false) ∧
  (∀ slot ∈ slots, command.link ≠ some slot) ∧ ∀ name ∈ fixed, command.property ≠ some name

instance (command : Command) : Decidable (Harmless command) :=
  inferInstanceAs (Decidable (_ ∧ _ ∧ _))

theorem others_harmless : ∀ action ∈ others, (∀ command ∈ action.commands, Harmless command) ∨
    ∃ config ∈ otherConfigs, ("sys.usb.config", config) ∈ action.conditions := by
  decide +kernel

-- What the conditions of the compositions and of their like are about.
def triggers : List String :=
  ["sys.usb.ffs.ready", "sys.usb.config", "vendor.usb.use_ffs_mtp", "sys.usb.configfs"]

theorem composition_names {c : Composition} : c.action.names ⊆ triggers := by
  intro name hname
  obtain ⟨condition, hcondition, rfl⟩ := List.mem_map.mp hname
  simp only [Composition.action, Composition.conditions, List.mem_append, List.mem_cons,
    List.mem_map, List.not_mem_nil, or_false] at hcondition
  obtain (hready | rfl | ⟨value, -, rfl⟩) | rfl := hcondition
  · split at hready
    · simp [List.mem_singleton.mp hready, triggers]
    · cases hready
  · simp [triggers]
  · simp [triggers]
  · simp [triggers]

theorem others_property : ∀ action ∈ others, ∀ command ∈ action.commands, ∀ name ∈ fixed,
    command.property ≠ some name := by
  decide +kernel

end Table

end Raphael.UsbGadget
