import Mathlib.Data.List.Basic

namespace Raphael.Trace

variable {σ ε : Type*}

-- A system is a partial step function. An event that is not enabled in a
-- state has no successor, and a run that contains it does not exist.
def run (step : σ → ε → Option σ) (start : σ) (events : List ε) : Option σ :=
  events.foldlM step start

-- Every event of the run meets the guard in the state it is taken from.
def Along (step : σ → ε → Option σ) (guard : σ → ε → Prop) : σ → List ε → Prop
  | _, [] => True
  | state, event :: rest =>
      guard state event ∧ ∀ next, step state event = some next → Along step guard next rest

section Rules

variable (step : σ → ε → Option σ)

theorem run_cons (start : σ) (event : ε) (rest : List ε) :
    run step start (event :: rest) = (step start event).bind fun next => run step next rest := rfl

theorem run_append (start : σ) (first second : List ε) :
    run step start (first ++ second) =
      (run step start first).bind fun middle => run step middle second :=
  List.foldlM_append

theorem run_cons_some {start finish : σ} {event : ε} {rest : List ε}
    (h : run step start (event :: rest) = some finish) :
    ∃ next, step start event = some next ∧ run step next rest = some finish := by
  rw [run_cons] at h
  exact Option.bind_eq_some_iff.mp h

-- What one guarded step preserves, a guarded run preserves.
theorem run_invariant {guard : σ → ε → Prop} (inv : σ → Prop)
    (hstep : ∀ state event next, inv state → guard state event →
      step state event = some next → inv next)
    {start finish : σ} {events : List ε} (hstart : inv start)
    (hguard : Along step guard start events) (hrun : run step start events = some finish) :
    inv finish := by
  induction events generalizing start with
  | nil => exact Option.some.inj hrun ▸ hstart
  | cons event rest ih =>
      obtain ⟨next, hs, hr⟩ := run_cons_some step hrun
      exact ih (hstep start event next hstart hguard.1 hs) (hguard.2 next hs) hr

-- The same rule for an invariant that also speaks of the events taken so far.
theorem run_history_invariant {guard : σ → ε → Prop} (inv : List ε → σ → Prop)
    (hstep : ∀ past state event next, inv past state → guard state event →
      step state event = some next → inv (past ++ [event]) next)
    {past : List ε} {start finish : σ} {events : List ε} (hstart : inv past start)
    (hguard : Along step guard start events) (hrun : run step start events = some finish) :
    inv (past ++ events) finish := by
  induction events generalizing past start with
  | nil =>
      rw [List.append_nil]
      exact Option.some.inj hrun ▸ hstart
  | cons event rest ih =>
      obtain ⟨next, hs, hr⟩ := run_cons_some step hrun
      have hnext := ih (hstep past start event next hstart hguard.1 hs) (hguard.2 next hs) hr
      rwa [List.append_assoc] at hnext

theorem along_true (start : σ) (events : List ε) : Along step (fun _ _ => True) start events := by
  induction events generalizing start with
  | nil => trivial
  | cons event rest ih => exact ⟨trivial, fun next _ => ih next⟩

theorem along_of_forall {guard : ε → Prop} {events : List ε} (h : ∀ event ∈ events, guard event)
    (start : σ) : Along step (fun _ event => guard event) start events := by
  induction events generalizing start with
  | nil => trivial
  | cons event rest ih =>
      exact ⟨h event List.mem_cons_self,
        fun next _ => ih (fun e he => h e (List.mem_cons_of_mem _ he)) next⟩

theorem run_append_some {start finish : σ} {first second : List ε}
    (h : run step start (first ++ second) = some finish) :
    ∃ middle, run step start first = some middle ∧ run step middle second = some finish :=
  Option.bind_eq_some_iff.mp (run_append step start first second ▸ h)

theorem Along.and {first second : σ → ε → Prop} {start : σ} {events : List ε}
    (h : Along step first start events) (h' : Along step second start events) :
    Along step (fun state event => first state event ∧ second state event) start events := by
  induction events generalizing start with
  | nil => trivial
  | cons event rest ih =>
      exact ⟨⟨h.1, h'.1⟩, fun next hs => ih (h.2 next hs) (h'.2 next hs)⟩

-- What holds in every state of a guarded run can be used at every step of it.
theorem Along.of_invariant {guard goal : σ → ε → Prop} (inv : σ → Prop)
    (hstep : ∀ state event next, inv state → guard state event →
      step state event = some next → inv next)
    (hgoal : ∀ state event, inv state → guard state event → goal state event)
    {start : σ} {events : List ε} (hstart : inv start) (hguard : Along step guard start events) :
    Along step goal start events := by
  induction events generalizing start with
  | nil => trivial
  | cons event rest ih =>
      exact ⟨hgoal start event hstart hguard.1,
        fun next hs => ih (hstep start event next hstart hguard.1 hs) (hguard.2 next hs)⟩

-- Two guards that agree where an invariant holds guard the same runs.
theorem Along.iff_of_invariant {first second : σ → ε → Prop} (inv : σ → Prop)
    (hstep : ∀ state event next, inv state → first state event →
      step state event = some next → inv next)
    (hiff : ∀ state event, inv state → (first state event ↔ second state event))
    {start : σ} {events : List ε} (hstart : inv start) :
    Along step first start events ↔ Along step second start events := by
  constructor
  · apply Along.of_invariant step inv hstep _ hstart
    exact fun state event hinv => (hiff state event hinv).mp
  · apply Along.of_invariant step inv _ _ hstart
    · exact fun state event next hinv hguard =>
        hstep state event next hinv ((hiff state event hinv).mpr hguard)
    · exact fun state event hinv => (hiff state event hinv).mpr

theorem Along.of_append {guard : σ → ε → Prop} {start : σ} {first second : List ε}
    (h : Along step guard start (first ++ second)) : Along step guard start first := by
  induction first generalizing start with
  | nil => trivial
  | cons event rest ih => exact ⟨h.1, fun next hs => ih (h.2 next hs)⟩

theorem Along.at_end {guard : σ → ε → Prop} {start middle : σ} {events : List ε} {event : ε}
    (h : Along step guard start (events ++ [event])) (hrun : run step start events = some middle) :
    guard middle event := by
  induction events generalizing start with
  | nil => exact Option.some.inj hrun ▸ h.1
  | cons first rest ih =>
      obtain ⟨next, hs, hr⟩ := run_cons_some step hrun
      exact ih (h.2 next hs) hr

end Rules

section Observed

variable {γ : Type*} (step : σ → ε → Option σ) (observe : σ → ε → γ → γ)

-- The system with an observer, which sees each event in the state it is taken
-- from and has no influence.
def observed : σ × γ → ε → Option (σ × γ)
  | (state, seen), event => (step state event).map fun next => (next, observe state event seen)

-- Every run can be observed.
theorem run_observed {start finish : σ} {events : List ε} (seen : γ)
    (h : run step start events = some finish) :
    ∃ seen', run (observed step observe) (start, seen) events = some (finish, seen') := by
  induction events generalizing start seen with
  | nil => exact ⟨seen, congrArg (fun state => some (state, seen)) (Option.some.inj h)⟩
  | cons event rest ih =>
      obtain ⟨next, hs, hr⟩ := run_cons_some step h
      obtain ⟨seen', hseen⟩ := ih (observe start event seen) hr
      refine ⟨seen', ?_⟩
      rw [run_cons, observed, hs]
      exact hseen

theorem observed_some {state next : σ} {seen seen' : γ} {event : ε}
    (h : observed step observe (state, seen) event = some (next, seen')) :
    step state event = some next ∧ observe state event seen = seen' := by
  obtain ⟨after, hs, he⟩ := Option.map_eq_some_iff.mp h
  cases he
  exact ⟨hs, rfl⟩

end Observed

-- A list of events has a last one of a kind, or none.
theorem exists_last (kind : ε → Bool) (events : List ε) :
    (∀ event ∈ events, kind event = false) ∨
      ∃ before event after, events = before ++ event :: after ∧ kind event = true ∧
        ∀ later ∈ after, kind later = false := by
  induction events with
  | nil => exact .inl fun _ h => nomatch h
  | cons event rest ih =>
      obtain hnone | ⟨before, found, after, rfl, hkind, hafter⟩ := ih
      · cases hevent : kind event with
        | true => exact .inr ⟨[], event, rest, rfl, hevent, hnone⟩
        | false => exact .inl (List.forall_mem_cons.mpr ⟨hevent, hnone⟩)
      · exact .inr ⟨event :: before, found, after, rfl, hkind, hafter⟩

-- A concrete run is checked by executing it.
def along? (step : σ → ε → Option σ) (guard : σ → ε → Bool) : σ → List ε → Bool
  | _, [] => true
  | state, event :: rest =>
      guard state event && (step state event).all fun next => along? step guard next rest

theorem along_of_check (step : σ → ε → Option σ) (guard : σ → ε → Prop) (check : σ → ε → Bool)
    (hcheck : ∀ state event, check state event = true → guard state event)
    {start : σ} {events : List ε} (h : along? step check start events = true) :
    Along step guard start events := by
  induction events generalizing start with
  | nil => trivial
  | cons event rest ih =>
      simp only [along?, Bool.and_eq_true] at h
      refine ⟨hcheck _ _ h.1, fun next hs => ih ?_⟩
      simpa [hs] using h.2

end Raphael.Trace
