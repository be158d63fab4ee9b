import Raphael.Fingerprint.FodStatus
import Raphael.Trace

namespace Raphael.Fingerprint.FodStatus

open Trace

def Event.succeeds : Event → Bool
  | .readBool lseekRc readRc => lseekRc = 0 ∧ readRc = 1
  | .setFodStatus written | .onFingerDown written => written
  | _ => true

def Event.isRead : Event → Bool
  | .readBool _ _ => true
  | _ => false

def Event.isFingerDown : Event → Bool
  | .onFingerDown _ => true
  | _ => false

-- The thread has taken the last change of fod_ui, to 0, and waits for another.
def State.LiftHandled (s : State) : Prop :=
  s.fodUi = false ∧ s.unread = false ∧ s.thread = .poll

def State.Quiescent (s : State) : Prop := s.LiftHandled ∧ s.lastCall = some .fingerUp

-- A value that the thread carries is the current one, or is stale and a wake
-- is due. An OFF write is under way only for a 0.
structure Coherent (s : State) : Prop where
  haveRead : ∀ fingerDown, s.thread = .haveRead fingerDown → s.unread = false →
    s.fodUi = fingerDown
  sentNit : s.thread = .sentNit → s.unread = false → s.fodUi = false

-- An OFF write is still to come before the thread can rest on a 0.
def OffDue (s : State) : Prop :=
  s.fodUi = true ∨ s.unread = true ∨ s.thread = .haveRead false ∨ s.thread = .sentNit

def StatusSettles (s : State) : Prop := s.fodStatus = some FOD_STATUS_OFF ∨ OffDue s

def NitSettles (s : State) : Prop :=
  s.nit = some PARAM_NIT_NONE ∨ s.fodUi = true ∨ s.unread = true ∨ s.thread = .haveRead false

theorem readBool_ok {lseekRc readRc : Int} (h : (Event.readBool lseekRc readRc).succeeds = true)
    (fodUi : Bool) : readBool lseekRc readRc (if fodUi then '1' else '0') = fodUi := by
  obtain ⟨rfl, rfl⟩ : lseekRc = 0 ∧ readRc = 1 := by simpa [Event.succeeds] using h
  cases fodUi <;> rfl

theorem boot_coherent (fodUi : Bool) : Coherent (boot fodUi) :=
  ⟨(fun _ h => nomatch h), fun h => nomatch h⟩

-- What a step does, its accesses succeeding.
inductive Effect (s : State) : Event → State → Prop
  | fodUiChanged (value : Bool) :
      Effect s (.fodUiChanged value) { s with fodUi := value, unread := true }
  | pollFailed : Effect s .pollFailed s
  | read (lseekRc readRc : Int) (hthread : s.thread = .poll) :
      Effect s (.readBool lseekRc readRc) { s with unread := false, thread := .haveRead s.fodUi }
  | nitFod (hthread : s.thread = .haveRead true) :
      Effect s .extCmd { s with nit := some PARAM_NIT_FOD, thread := .poll }
  | nitNone (hthread : s.thread = .haveRead false) :
      Effect s .extCmd { s with nit := some PARAM_NIT_NONE, thread := .sentNit }
  | off (hthread : s.thread = .sentNit) :
      Effect s (.setFodStatus true) { s with fodStatus := some FOD_STATUS_OFF, thread := .poll }
  | down : Effect s (.onFingerDown true)
      { s with fodStatus := some FOD_STATUS_ON, lastCall := some .fingerDown }
  | up : Effect s .onFingerUp { s with lastCall := some .fingerUp }

theorem step_effect {s next : State} {event : Event} (hok : event.succeeds = true)
    (h : step s event = some next) : Effect s event next := by
  cases event with
  | fodUiChanged value =>
      cases h
      exact .fodUiChanged value
  | pollFailed =>
      obtain ⟨_, hnext⟩ := Option.ite_none_right_eq_some.mp h
      cases hnext
      exact .pollFailed
  | readBool lseekRc readRc =>
      obtain ⟨hthread, hnext⟩ := Option.ite_none_right_eq_some.mp h
      rw [readBool_ok hok] at hnext
      cases hnext
      exact .read lseekRc readRc hthread
  | extCmd =>
      cases hthread : s.thread with
      | haveRead fingerDown =>
          rw [step, hthread] at h
          cases fingerDown with
          | true =>
              cases h
              exact .nitFod hthread
          | false =>
              cases h
              exact .nitNone hthread
      | _ =>
          rw [step, hthread] at h
          cases h
  | setFodStatus written =>
      obtain rfl : written = true := hok
      obtain ⟨hthread, hnext⟩ := Option.ite_none_right_eq_some.mp h
      cases hnext
      exact .off hthread
  | onFingerDown written =>
      obtain rfl : written = true := hok
      cases h
      exact .down
  | onFingerUp =>
      cases h
      exact .up

section Effect

variable {s next : State} {event : Event}

theorem Coherent.after (h : Effect s event next) (hs : Coherent s) : Coherent next := by
  cases h with
  | fodUiChanged value => exact ⟨(fun _ _ hread => nomatch hread), fun _ hread => nomatch hread⟩
  | read lseekRc readRc hthread =>
      exact ⟨fun _ hread _ => Thread.haveRead.inj hread, fun hsent => nomatch hsent⟩
  | nitFod hthread => exact ⟨(fun _ hread => nomatch hread), fun hsent => nomatch hsent⟩
  | nitNone hthread =>
      exact ⟨(fun _ hread => nomatch hread), fun _ hunread => hs.haveRead false hthread hunread⟩
  | off hthread => exact ⟨(fun _ hread => nomatch hread), fun hsent => nomatch hsent⟩
  | pollFailed => exact hs
  | down => exact ⟨hs.haveRead, hs.sentNit⟩
  | up => exact ⟨hs.haveRead, hs.sentNit⟩

-- A read finds the finger on the display, or starts a round that ends in OFF.
theorem offDue_of_read (h : Effect s event next) (hread : event.isRead = true) :
    next.fodUi = true ∨ next.thread = .haveRead false := by
  cases h with
  | read lseekRc readRc hthread =>
      cases hui : s.fodUi with
      | true => exact .inl rfl
      | false => exact .inr rfl
  | _ => cases hread

theorem NitSettles.after (h : Effect s event next) (hc : Coherent s) (hs : NitSettles s) :
    NitSettles next := by
  cases h with
  | fodUiChanged value => exact .inr (.inr (.inl rfl))
  | read lseekRc readRc hthread =>
      obtain hui | hread := offDue_of_read (.read lseekRc readRc hthread) rfl
      · exact .inr (.inl hui)
      · exact .inr (.inr (.inr hread))
  | nitFod hthread =>
      cases hunread : s.unread with
      | true => exact .inr (.inr (.inl rfl))
      | false => exact .inr (.inl (hc.haveRead true hthread hunread))
  | nitNone hthread => exact .inl rfl
  | off hthread =>
      obtain hnit | hui | hunread | hread := hs
      · exact .inl hnit
      · exact .inr (.inl hui)
      · exact .inr (.inr (.inl hunread))
      · rw [hthread] at hread
        cases hread
  | pollFailed => exact hs
  | down => exact hs
  | up => exact hs

-- Only onFingerDown can leave ON behind.
theorem StatusSettles.after (h : Effect s event next) (hdown : event.isFingerDown = false)
    (hs : StatusSettles s) : StatusSettles next := by
  cases h with
  | fodUiChanged value => exact .inr (.inr (.inl rfl))
  | read lseekRc readRc hthread =>
      obtain hui | hread := offDue_of_read (.read lseekRc readRc hthread) rfl
      · exact .inr (.inl hui)
      · exact .inr (.inr (.inr (.inl hread)))
  | nitFod hthread =>
      obtain hstatus | hui | hunread | hread | hsent := hs
      · exact .inl hstatus
      · exact .inr (.inl hui)
      · exact .inr (.inr (.inl hunread))
      · rw [hthread] at hread
        cases hread
      · rw [hthread] at hsent
        cases hsent
  | nitNone hthread => exact .inr (.inr (.inr (.inr rfl)))
  | off hthread => exact .inl rfl
  | down => cases hdown
  | pollFailed => exact hs
  | up => exact hs

-- Without a read a resting thread keeps resting, and writes nothing.
theorem resting_after (h : Effect s event next) (hrest : s.thread = .poll)
    (hread : event.isRead = false) (hdown : event.isFingerDown = false) :
    next.thread = .poll ∧ next.fodStatus = s.fodStatus := by
  cases h with
  | read lseekRc readRc hthread => cases hread
  | nitFod hthread => exact absurd (hrest.symm.trans hthread) (by decide)
  | nitNone hthread => exact absurd (hrest.symm.trans hthread) (by decide)
  | off hthread => exact absurd (hrest.symm.trans hthread) (by decide)
  | down => cases hdown
  | fodUiChanged value => exact ⟨hrest, rfl⟩
  | pollFailed => exact ⟨hrest, rfl⟩
  | up => exact ⟨hrest, rfl⟩

end Effect

section Runs

variable {s final : State} {events : List Event} (hok : ∀ e ∈ events, e.succeeds = true)
  (hrun : run step s events = some final)
include hok hrun

theorem run_coherent (hs : Coherent s) : Coherent final :=
  run_invariant _ Coherent
    (fun _ _ _ hs hsucceeds hstep => hs.after (step_effect hsucceeds hstep)) hs
    (along_of_forall _ hok s) hrun

theorem run_nitSettles (hc : Coherent s) (hs : NitSettles s) : NitSettles final := by
  have hboth := run_invariant _ (fun s => Coherent s ∧ NitSettles s)
    (fun _ _ _ hs hsucceeds hstep =>
      ⟨hs.1.after (step_effect hsucceeds hstep), hs.2.after (step_effect hsucceeds hstep) hs.1⟩)
    ⟨hc, hs⟩ (along_of_forall _ hok s) hrun
  exact hboth.2

variable (hdown : ∀ e ∈ events, e.isFingerDown = false)
include hdown

theorem run_statusSettles (hs : StatusSettles s) : StatusSettles final := by
  have hguard : ∀ e ∈ events, e.succeeds = true ∧ e.isFingerDown = false :=
    fun e he => ⟨hok e he, hdown e he⟩
  refine run_invariant _ StatusSettles ?_ hs (along_of_forall _ hguard s) hrun
  intro t e next ht hguard hstep
  exact ht.after (step_effect hguard.1 hstep) hguard.2

-- A read on the way makes the status settle, whatever was written before.
theorem run_statusSettles_of_read (hread : ∃ e ∈ events, e.isRead = true) :
    StatusSettles final := by
  obtain ⟨read, hmem, hread⟩ := hread
  obtain ⟨before, after, rfl⟩ := List.append_of_mem hmem
  obtain ⟨middle, _, hrun⟩ := run_append_some _ hrun
  obtain ⟨next, hstep, hrun⟩ := run_cons_some _ hrun
  have hdue := offDue_of_read (step_effect (hok read hmem) hstep) hread
  have hnext : StatusSettles next :=
    .inr (hdue.elim .inl fun hthread => .inr (.inr (.inl hthread)))
  exact run_statusSettles
    (fun e he => hok e (List.mem_append_right _ (List.mem_cons_of_mem _ he))) hrun
    (fun e he => hdown e (List.mem_append_right _ (List.mem_cons_of_mem _ he))) hnext

theorem run_resting (hrest : s.thread = .poll) (hread : ∀ e ∈ events, e.isRead = false) :
    final.fodStatus = s.fodStatus := by
  have hguard : ∀ e ∈ events,
      e.succeeds = true ∧ e.isRead = false ∧ e.isFingerDown = false :=
    fun e he => ⟨hok e he, hread e he, hdown e he⟩
  have hboth : final.thread = .poll ∧ final.fodStatus = s.fodStatus := by
    refine run_invariant _ (fun t => t.thread = .poll ∧ t.fodStatus = s.fodStatus) ?_ ⟨hrest, rfl⟩
      (along_of_forall _ hguard s) hrun
    rintro t e next ⟨hthread, hstatus⟩ ⟨hsucceeds, hread, hdown⟩ hstep
    obtain ⟨hnext, hsame⟩ := resting_after (step_effect hsucceeds hstep) hthread hread hdown
    exact ⟨hnext, hsame.trans hstatus⟩
  exact hboth.2

end Runs

theorem StatusSettles.off {s : State} (hs : StatusSettles s) (hlift : s.LiftHandled) :
    s.fodStatus = some FOD_STATUS_OFF := by
  obtain ⟨hui, hunread, hthread⟩ := hlift
  obtain hstatus | h | h | h | h := hs
  · exact hstatus
  · rw [hui] at h
    cases h
  · rw [hunread] at h
    cases h
  · rw [hthread] at h
    cases h
  · rw [hthread] at h
    cases h

theorem NitSettles.none {s : State} (hs : NitSettles s) (hlift : s.LiftHandled) :
    s.nit = some PARAM_NIT_NONE := by
  obtain ⟨hui, hunread, hthread⟩ := hlift
  obtain hnit | h | h | h := hs
  · exact hnit
  · rw [hui] at h
    cases h
  · rw [hunread] at h
    cases h
  · rw [hthread] at h
    cases h

-- Unless the lift has been handled, an OFF write is due.
theorem Coherent.offDue {s : State} (hs : Coherent s) (hlift : ¬s.LiftHandled) : OffDue s := by
  cases hui : s.fodUi with
  | true => exact .inl hui
  | false =>
      cases hunread : s.unread with
      | true => exact .inr (.inl hunread)
      | false =>
          cases hthread : s.thread with
          | poll => exact absurd ⟨hui, hunread, hthread⟩ hlift
          | haveRead fingerDown =>
              have hvalue := hs.haveRead fingerDown hthread hunread
              rw [hui] at hvalue
              exact .inr (.inr (.inl (by rw [hthread, ← hvalue])))
          | sentNit => exact .inr (.inr (.inr hthread))

-- At rest the display is off and the panel told so, except when the last
-- onFingerDown came after the thread had handled the lift, with no round since.
theorem fodStatus_quiescent_iff {fodUi : Bool} {events : List Event} {final : State}
    (hok : ∀ e ∈ events, e.succeeds = true) (hrun : run step (boot fodUi) events = some final)
    (hquiescent : final.Quiescent) :
    (final.fodStatus = some FOD_STATUS_OFF ∧ final.nit = some PARAM_NIT_NONE) ↔
      ∀ pre written post before, events = pre ++ .onFingerDown written :: post →
        (∀ e ∈ post, e.isFingerDown = false) → run step (boot fodUi) pre = some before →
        before.LiftHandled → ∃ e ∈ post, e.isRead = true := by
  have hboot := boot_coherent fodUi
  have hnit : final.nit = some PARAM_NIT_NONE :=
    (run_nitSettles hok hrun hboot (.inr (.inr (.inl rfl)))).none hquiescent.1
  constructor
  · rintro ⟨hstatus, _⟩ pre written post before rfl hdown hpre hlift
    by_contra hread
    have hread' : ∀ e ∈ post, e.isRead = false := by
      intro e he
      exact Bool.eq_false_iff.mpr fun hr => hread ⟨e, he, hr⟩
    rw [run_append, hpre, Option.bind_some] at hrun
    obtain ⟨next, hstep, hpost⟩ := run_cons_some _ hrun
    have hsucceeds := hok _ (List.mem_append_right _ List.mem_cons_self)
    have heffect := step_effect hsucceeds hstep
    have hrest := run_resting
      (fun e he => hok e (List.mem_append_right _ (List.mem_cons_of_mem _ he))) hpost hdown
    cases heffect with
    | down =>
        rw [hrest hlift.2.2 hread'] at hstatus
        cases hstatus
  · intro hlate
    refine ⟨?_, hnit⟩
    obtain hnone | ⟨pre, down, post, rfl, hdown, hlast⟩ := exists_last Event.isFingerDown events
    · exact (run_statusSettles hok hrun hnone (.inr (.inr (.inl rfl)))).off hquiescent.1
    · obtain ⟨before, hpre, hrest⟩ := run_append_some _ hrun
      obtain ⟨next, hstep, hpost⟩ := run_cons_some _ hrest
      have hokPre : ∀ e ∈ pre, e.succeeds = true := fun e he => hok e (List.mem_append_left _ he)
      have hokPost : ∀ e ∈ post, e.succeeds = true :=
        fun e he => hok e (List.mem_append_right _ (List.mem_cons_of_mem _ he))
      have heffect := step_effect (hok down (List.mem_append_right _ List.mem_cons_self)) hstep
      have hcoherent := run_coherent hokPre hpre hboot
      cases heffect with
      | down =>
          by_cases hlift : before.LiftHandled
          · have hread := hlate pre true post before rfl hlast hpre hlift
            exact (run_statusSettles_of_read hokPost hpost hlast hread).off hquiescent.1
          · have hnext : StatusSettles
                { before with fodStatus := some FOD_STATUS_ON, lastCall := some .fingerDown } :=
              .inr (hcoherent.offDue hlift)
            exact (run_statusSettles hokPost hpost hlast hnext).off hquiescent.1
      | _ => cases hdown

def tap : List Event :=
  [.readBool 0 1, .extCmd, .setFodStatus true, .fodUiChanged true, .readBool 0 1, .extCmd,
    .onFingerDown true, .onFingerUp, .fodUiChanged false, .readBool 0 1, .extCmd,
    .setFodStatus true]

-- A quick tap, the client being told of it late.
def lateTap : List Event :=
  [.fodUiChanged true, .readBool 0 1, .extCmd, .fodUiChanged false, .readBool 0 1, .extCmd,
    .setFodStatus true, .onFingerDown true, .onFingerUp]

def atRest (fodStatus : Int) : State :=
  ⟨false, false, .poll, some PARAM_NIT_NONE, some fodStatus, some .fingerUp⟩

theorem fodStatus_quiescent_iff_tap :
    run step (boot false) tap = some (atRest FOD_STATUS_OFF) ∧
    ((atRest FOD_STATUS_OFF).fodStatus = some FOD_STATUS_OFF ∧
        (atRest FOD_STATUS_OFF).nit = some PARAM_NIT_NONE ↔
      ∀ pre written post before, tap = pre ++ .onFingerDown written :: post →
        (∀ e ∈ post, e.isFingerDown = false) → run step (boot false) pre = some before →
        before.LiftHandled → ∃ e ∈ post, e.isRead = true) :=
  ⟨rfl, fodStatus_quiescent_iff (by decide) rfl ⟨⟨rfl, rfl, rfl⟩, rfl⟩⟩

theorem fodStatus_lateTap :
    ¬∀ final, (∀ e ∈ lateTap, e.succeeds = true) → run step (boot false) lateTap = some final →
      final.Quiescent →
      final.fodStatus = some FOD_STATUS_OFF ∧ final.nit = some PARAM_NIT_NONE := by
  intro h
  have hoff := h (atRest FOD_STATUS_ON) (by decide) rfl ⟨⟨rfl, rfl, rfl⟩, rfl⟩
  exact absurd hoff.1 (by decide)

end Raphael.Fingerprint.FodStatus
