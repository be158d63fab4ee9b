import Mathlib.Data.List.Pairwise
import Raphael.UsbGadget.SetUp

namespace Raphael.UsbGadget

open InitRc
open Properties (Store)

section Rows

variable {row other : Row} {i j : Identity} {action : Action} {goal context : World → Prop}
  {watched : List String}

theorem mem_rc (hrow : row ∈ table) : row.action ∈ rc := List.mem_map_of_mem hrow

theorem mem_others (h : .other action ∈ table) : action ∈ others :=
  List.mem_filterMap.mpr ⟨_, h, rfl⟩

theorem mem_compositions {c : Composition} (h : .composition c ∈ table) : c ∈ compositions :=
  List.mem_filterMap.mpr ⟨_, h, rfl⟩

theorem identity_config (hi : row.identity = some i) :
    ("sys.usb.config", i.config) ∈ row.action.conditions := by
  cases row with
  | composition c =>
      cases hi
      simp [Row.action, Composition.action, Composition.conditions]
  | writeIds config idVendor idProduct =>
      cases hi
      exact List.mem_cons_self
  | startAdbd config => cases hi
  | other action => cases hi

theorem identity_useFfsMtp (hi : row.identity = some i) {value : String}
    (hvalue : i.useFfsMtp = some value) :
    ("vendor.usb.use_ffs_mtp", value) ∈ row.action.conditions := by
  cases row with
  | composition c =>
      cases hi
      dsimp only at hvalue
      simp [Row.action, Composition.action, Composition.conditions, hvalue]
  | writeIds config idVendor idProduct =>
      cases hi
      cases hvalue
  | startAdbd config => cases hi
  | other action => cases hi

theorem mem_identities (hrow : row ∈ table) (hi : row.identity = some i) : i ∈ identities :=
  List.mem_filterMap.mpr ⟨row, hrow, hi⟩

theorem conflict_of_apart (hrow : row ∈ table) (hother : other ∈ table)
    (hi : row.identity = some i) (hj : other.identity = some j) (hapart : i.Apart j) :
    Conflict row.action other.action := by
  obtain ⟨hconfig, hmtp⟩ := identities_values i (mem_identities hrow hi)
  obtain ⟨hconfig', hmtp'⟩ := identities_values j (mem_identities hother hj)
  obtain hne | ⟨hne, hsome, hsome'⟩ := hapart
  · exact ⟨_, _, _, identity_config hi, identity_config hj, hne, hconfig, hconfig'⟩
  · obtain ⟨value, hvalue⟩ := Option.isSome_iff_exists.mp hsome
    obtain ⟨value', hvalue'⟩ := Option.isSome_iff_exists.mp hsome'
    rw [hvalue, hvalue', Ne, Option.some_inj] at hne
    rw [hvalue, Ne, Option.some_inj] at hmtp
    rw [hvalue', Ne, Option.some_inj] at hmtp'
    exact ⟨_, _, _, identity_useFfsMtp hi hvalue, identity_useFfsMtp hj hvalue', hne, hmtp, hmtp'⟩

theorem Identity.Apart.symm (h : i.Apart j) : j.Apart i := by
  obtain hne | ⟨hne, hsome, hsome'⟩ := h
  · exact .inl hne.symm
  · exact .inr ⟨hne.symm, hsome', hsome⟩

theorem same_or_conflict (hrow : row ∈ table) (hother : other ∈ table)
    (hi : row.identity = some i) (hj : other.identity = some j) :
    row = other ∨ Conflict row.action other.action := by
  have hpairwise : table.Pairwise fun row other => ∀ i, row.identity = some i → ∀ j,
      other.identity = some j → Identity.Apart i j :=
    List.pairwise_filterMap.mp identities_apart
  have hsymm : Std.Symm fun row other : Row => ∀ i, row.identity = some i → ∀ j,
      other.identity = some j → Identity.Apart i j :=
    ⟨fun _ _ h i hi j hj => (h j hj i hi).symm⟩
  by_cases hsame : row = other
  · exact .inl hsame
  · right
    apply conflict_of_apart hrow hother hi hj
    exact hpairwise.forall hrow hother hsame i hi j hj

-- It is left to see what the actions without an identity do.
theorem settles_of_row (hrow : row ∈ table) (hi : row.identity = some i)
    (hstable : Stable (· ∈ watched) goal)
    (hsets : ∀ world, context world → Ensures (· ∈ watched) goal row.action.commands world)
    (hothers : ∀ action ∈ others, Conflict action row.action ∨
      ∀ command ∈ action.commands, Preserves goal command) :
    Settles rc (· ∈ watched) context goal row.action where
  mem := mem_rc hrow
  stable := hstable
  sets := hsets
  keeps := by
    intro action haction
    obtain ⟨other, hother, rfl⟩ := List.mem_map.mp haction
    cases hj : other.identity with
    | some j =>
        obtain rfl | hconflict := same_or_conflict hother hrow hj hi
        · exact .inl rfl
        · exact .inr (.inl hconflict)
    | none =>
        cases other with
        | composition c => cases hj
        | writeIds config idVendor idProduct => cases hj
        | other action => exact .inr (hothers action (mem_others hother))
        | startAdbd config =>
            right; right
            intro command hcommand
            obtain rfl := List.mem_singleton.mp hcommand
            exact fun world h => h

theorem rc_property (haction : action ∈ rc) :
    ∀ command ∈ action.commands, ∀ name ∈ fixed, command.property ≠ some name := by
  obtain ⟨row, hrow, rfl⟩ := List.mem_map.mp haction
  cases row with
  | composition c => exact fun command => commands_property
  | startAdbd config => simp [Row.action, startAdbd, Command.property]
  | writeIds config idVendor idProduct => simp [Row.action, writeIds, Command.property]
  | other action => exact others_property action (mem_others hrow)

theorem rc_agree {origin : World} (hwatched : watched ⊆ fixed) (haction : action ∈ rc) :
    ∀ command ∈ action.commands, Preserves (Agree watched origin) command :=
  fun command hcommand => agree_preserves fun name hname =>
    rc_property haction command hcommand name (hwatched hname)

theorem context_agree {origin : World} (hwatched : watched ⊆ fixed)
    (hneeded : ∀ world, goal world → Agree watched origin world) :
    Context rc (· ∈ watched) (Agree watched origin) goal where
  stable := agree_stable
  preserved _ haction := rc_agree hwatched haction
  free _ haction name _ hcommand hname :=
    rc_property haction _ hcommand name (hwatched hname) rfl
  needed := hneeded

end Rows

section Goals

variable {origin : World} {c : Composition} {command : Command} {frozen : String → Prop}

theorem SetUp.stable : Stable frozen (SetUp origin c) :=
  fun _ _ _ _ h => ⟨h.configuration, h.idVendor, h.idProduct, h.pid, h.bound, h.linked, h.free⟩

theorem SetUp.preserves (h : Harmless command) : Preserves (SetUp origin c) command := by
  intro world hup
  obtain ⟨hpaths, hslots, -⟩ := h
  have hfile : ∀ path ∈ [configurationPath, idVendorPath, idProductPath, pidPath, udcPath],
      (command.run world).files path = world.files path :=
    fun path hpath => run_files (hpaths path hpath) world
  have hlink : ∀ slot ∈ slots, (command.run world).links slot = world.links slot :=
    fun slot hslot => run_links (hslots slot hslot) world
  constructor
  · rw [hfile _ (by simp), hup.configuration]
  · rw [hfile _ (by simp), hup.idVendor]
  · rw [hfile _ (by simp), hup.idProduct]
  · intro pid hpid
    rw [hfile _ (by simp), hup.pid pid hpid]
  · intro controller hcontroller
    rw [hfile _ (by simp), hup.bound controller hcontroller]
  · intro i function hfunction
    obtain ⟨slot, hslot, htarget⟩ := hup.linked i function hfunction
    exact ⟨slot, hslot, (hlink slot (List.mem_of_getElem? hslot)).trans htarget⟩
  · intro i slot hslot hi
    exact (hlink slot (List.mem_of_getElem? hslot)).trans (hup.free i slot hslot hi)

theorem preserves_and {first second : World → Prop} (h : Preserves first command)
    (h' : Preserves second command) :
    Preserves (fun world => first world ∧ second world) command :=
  fun world hw => ⟨h world hw.1, h' world hw.2⟩

-- An action that is not harmless asks for another configuration.
theorem settles_setUp (hrow : .composition c ∈ table) (hgadget : HasGadget origin) :
    Settles rc (· ∈ fixed) (Agree fixed origin)
      (fun world => Agree fixed origin world ∧ SetUp origin c world) c.action := by
  have hc := mem_compositions hrow
  apply settles_of_row hrow rfl (agree_stable.and SetUp.stable)
  · intro world h
    apply Ensures.and
    · exact ensures_of_preserves agree_stable
        (fun command hcommand => agree_preserves (commands_property hcommand)) h
    · exact ensures_setUp (compositions_length c hc) (compositions_names c hc) hgadget h
  · intro action haction
    obtain hharmless | ⟨config, hconfig, hcondition⟩ := others_harmless action haction
    · right
      intro command hcommand
      have h := hharmless command hcommand
      exact preserves_and (agree_preserves h.2.2) (SetUp.preserves h)
    · left
      have hne : config ≠ c.config := fun heq => compositions_config c hc (heq ▸ hconfig)
      have hstar : ∀ config ∈ otherConfigs, config ≠ "*" := by decide
      exact ⟨_, _, _, hcondition, identity_config rfl, hne, hstar config hconfig,
        (identities_values _ (mem_identities hrow rfl)).1⟩

end Goals

section Runs

-- A run of init, from rest to rest.
structure Run (s : State) (events : List Event) (next : State) : Prop where
  start : s.Idle
  run : Trace.run (step rc) s events = some next
  idle : next.Idle

-- Nobody sets these properties.
def Keeps (events : List Event) (names : List String) : Prop :=
  ∀ name value, .setProperty name value ∈ events → name ∉ names

variable {s next s' next' : State} {events events' : List Event} {c : Composition}
  {row row' : Row} {i j : Identity}

theorem Run.reaches {goal : World → Prop} {action : Action} {watched : List String}
    (h : Run s events next) (hwatched : watched ⊆ fixed) (hkept : Keeps events watched)
    (hneeded : ∀ world, goal world → Agree watched s.world world)
    (hsettles : Settles rc (· ∈ watched) (Agree watched s.world) goal action)
    (hoff : action.holds s.world.props = false) (hon : action.holds next.world.props = true) :
    goal next.world :=
  settled_of_idle (context_agree hwatched hneeded) hsettles h.start (.refl watched s.world) hoff
    hkept h.run h.idle hon

theorem Run.setUp (h : Run s events next) (hrow : .composition c ∈ table)
    (hgadget : HasGadget s.world) (hkept : Keeps events fixed)
    (hoff : c.action.holds s.world.props = false) (hon : c.action.holds next.world.props = true) :
    SetUp s.world c next.world :=
  (h.reaches (List.Subset.refl _) hkept (fun _ => And.left) (settles_setUp hrow hgadget)
    hoff hon).2

-- A device whose configuration has not been asked for yet.
def device (useFfsMtp : String) : State :=
  let props : Store := fun name =>
    if name = "vendor.usb.diag.func.name" then some "diag"
    else if name = "sys.usb.controller" then some "a600000.dwc3"
    else if name = "vendor.usb.use_ffs_mtp" then some useFfsMtp
    else if name = "sys.usb.configfs" then some "1"
    else none
  ⟨⟨props, fun _ => none, fun _ => none, afterBoot (useFfsMtp = "1")⟩, [], []⟩

theorem afterBoot_gadget (useFfsMtp : Bool) : ∀ path ∈ gadgetPaths,
    afterBoot useFfsMtp path = true := by
  intro path hpath
  simp [afterBoot, hpath]

theorem device_gadget (useFfsMtp : String) : HasGadget (device useFfsMtp).world :=
  afterBoot_gadget _

def request (config : String) (turns : Nat) : List Event :=
  .setProperty "sys.usb.config" config :: List.replicate turns .turn

theorem request_keeps (config : String) (turns : Nat) : Keeps (request config turns) fixed := by
  intro name value hmem
  simp only [request, List.mem_cons, Event.setProperty.injEq, List.mem_replicate, reduceCtorEq,
    and_false, or_false] at hmem
  rw [hmem.1]
  decide

theorem run_of_check {check : State → Bool} (hstart : s.Idle)
    (h : (Trace.run (step rc) s events).any (fun next =>
      next.queue.isEmpty && next.commands.isEmpty && check next) = true) :
    ∃ next, Run s events next ∧ check next = true := by
  obtain ⟨next, hrun, hend⟩ := (Option.any_eq_true _ _).mp h
  simp only [Bool.and_eq_true, List.isEmpty_iff] at hend
  exact ⟨next, ⟨hstart, hrun, hend.1⟩, hend.2⟩

theorem request_run {useFfsMtp config : String} {turns : Nat} {action : Action}
    (h : (Trace.run (step rc) (device useFfsMtp) (request config turns)).any (fun next =>
      next.queue.isEmpty && next.commands.isEmpty && action.holds next.world.props) = true) :
    ∃ next, Run (device useFfsMtp) (request config turns) next ∧
      action.holds next.world.props = true :=
  run_of_check ⟨rfl, rfl⟩ h

end Runs

end Raphael.UsbGadget
