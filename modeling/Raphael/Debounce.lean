import Mathlib.Data.List.Basic

namespace Raphael

variable {κ : Type*}

-- A message, with the number and the time of the event that sent it.
structure Sent (κ : Type*) where
  position : Nat
  time : Nat
  kind : κ
  deriving DecidableEq

-- Each event sends a message of its kind, and drops the waiting messages of
-- another kind when the latest event of that kind is not long past.
structure Debouncer (κ : Type*) where
  events : Nat
  latest : κ → Nat
  pending : List (Sent κ)
  handled : List (Sent κ)

namespace Debouncer

def start (κ : Type*) : Debouncer κ := ⟨0, fun _ => 0, [], []⟩

def keeps [DecidableEq κ] (delay now : Nat) (kind : κ) (d : Debouncer κ)
    (message : Sent κ) : Bool :=
  message.kind = kind || delay ≤ now - d.latest message.kind

def send [DecidableEq κ] (delay now : Nat) (kind : κ) (d : Debouncer κ) : Debouncer κ where
  events := d.events + 1
  latest other := if other = kind then now else d.latest other
  pending := d.pending.filter (d.keeps delay now kind) ++ [⟨d.events, now, kind⟩]
  handled := d.handled

-- The first message is handled, as one of the kind that the handler sees.
def handle (kind : κ) (d : Debouncer κ) : Debouncer κ :=
  match d.pending with
  | [] => { d with events := d.events + 1 }
  | first :: rest =>
      ⟨d.events + 1, d.latest, rest, d.handled ++ [{ first with kind := kind }]⟩

def skip (d : Debouncer κ) : Debouncer κ := { d with events := d.events + 1 }

-- All messages that were not dropped, in the order in which they were sent.
def kept (d : Debouncer κ) : List (Sent κ) := d.handled ++ d.pending

end Debouncer

-- The kind of the last event that has one.
def lastKind (past : List (Nat × Option κ)) : Option κ := (past.filterMap Prod.snd).getLast?

structure Debounced (delay now : Nat) (past : List (Nat × Option κ)) (d : Debouncer κ) :
    Prop where
  counted : d.events = past.length
  numbered : d.kept.Pairwise (·.position < ·.position)
  sent : ∀ message ∈ d.kept, past[message.position]? = some (message.time, some message.kind)
  last : d.kept.getLast?.map Sent.kind = lastKind past
  separated : ∀ message ∈ d.kept, ∀ position time kind, message.position < position →
    past[position]? = some (time, some kind) → kind ≠ message.kind → message.time + delay ≤ time
  latest : ∀ message ∈ d.pending, message.time ≤ d.latest message.kind
  recent : ∀ message ∈ d.pending, message.time ≤ now
  due : ∀ message ∈ d.handled, message.time + delay ≤ now

namespace Debounced

theorem start (delay now : Nat) : Debounced delay now [] (Debouncer.start κ) where
  counted := rfl
  numbered := List.Pairwise.nil
  sent _ hm := nomatch hm
  last := rfl
  separated _ hm := nomatch hm
  latest _ hm := nomatch hm
  recent _ hm := nomatch hm
  due _ hm := nomatch hm

variable {delay now time : Nat} {past : List (Nat × Option κ)} {d : Debouncer κ}

theorem tick (h : Debounced delay now past d) (hle : now ≤ time) : Debounced delay time past d :=
  { h with
    recent := fun message hm => Nat.le_trans (h.recent message hm) hle
    due := fun message hm => Nat.le_trans (h.due message hm) hle }

section Positions

variable (h : Debounced delay now past d)
include h

theorem position_lt {message : Sent κ} (hm : message ∈ d.kept) :
    message.position < past.length := by
  obtain ⟨hlt, _⟩ := List.getElem?_eq_some_iff.mp (h.sent message hm)
  exact hlt

theorem sent_append {message : Sent κ} (event : Nat × Option κ) (hm : message ∈ d.kept) :
    (past ++ [event])[message.position]? = some (message.time, some message.kind) := by
  rw [List.getElem?_append_left (h.position_lt hm)]
  exact h.sent message hm

-- A later event is an old one, or the one that has just happened.
theorem separated_append {message : Sent κ} {event : Nat × Option κ} (hm : message ∈ d.kept)
    (hevent : ∀ kind, event.2 = some kind → kind ≠ message.kind →
      message.time + delay ≤ event.1)
    {position other : Nat} {kind : κ} (hlt : message.position < position)
    (hother : (past ++ [event])[position]? = some (other, some kind))
    (hkind : kind ≠ message.kind) :
    message.time + delay ≤ other := by
  by_cases hold : position < past.length
  · rw [List.getElem?_append_left hold] at hother
    exact h.separated message hm position other kind hlt hother hkind
  · rw [List.getElem?_append_right (Nat.not_lt.mp hold), List.getElem?_singleton] at hother
    obtain ⟨_, he⟩ := Option.ite_none_right_eq_some.mp hother
    cases he
    exact hevent kind rfl hkind

end Positions

section Send

variable [DecidableEq κ]

theorem mem_kept_send {message : Sent κ} {kind : κ}
    (hm : message ∈ (d.send delay time kind).kept) :
    message ∈ d.handled ∨ (message ∈ d.pending ∧ d.keeps delay time kind message = true) ∨
      message = ⟨d.events, time, kind⟩ := by
  rcases List.mem_append.mp hm with hm | hm
  · exact .inl hm
  · rcases List.mem_append.mp hm with hm | hm
    · exact .inr (.inl (List.mem_filter.mp hm))
    · exact .inr (.inr (List.mem_singleton.mp hm))

-- A message that outlasts an event of another kind was sent long before it.
theorem keeps_separated {message : Sent κ} {kind : κ} (h : Debounced delay now past d)
    (hle : now ≤ time) (hm : message ∈ d.pending) (hkeeps : d.keeps delay time kind message = true)
    (hkind : kind ≠ message.kind) : message.time + delay ≤ time := by
  have hlatest := h.latest message hm
  have hrecent := h.recent message hm
  rcases Bool.or_eq_true_iff.mp hkeeps with hsame | hlong
  · exact absurd (of_decide_eq_true hsame).symm hkind
  · have := of_decide_eq_true hlong
    omega

theorem kept_send (kind : κ) : (d.send delay time kind).kept =
    (d.handled ++ d.pending.filter (d.keeps delay time kind)) ++ [⟨d.events, time, kind⟩] :=
  (List.append_assoc _ _ _).symm

-- The new message carries the number of its event.
theorem numbered_send (h : Debounced delay now past d) (kind : κ) :
    (d.send delay time kind).kept.Pairwise (·.position < ·.position) := by
  have hsub : (d.handled ++ d.pending.filter (d.keeps delay time kind)).Sublist d.kept :=
    List.filter_sublist.append_left d.handled
  rw [kept_send]
  refine List.pairwise_append.mpr ⟨h.numbered.sublist hsub, List.pairwise_singleton _ _, ?_⟩
  intro message hm new hn
  rw [List.mem_singleton.mp hn, h.counted]
  exact h.position_lt (hsub.subset hm)

theorem sent_send (h : Debounced delay now past d) {kind : κ} {message : Sent κ}
    (hm : message ∈ (d.send delay time kind).kept) :
    (past ++ [(time, some kind)])[message.position]? = some (message.time, some message.kind) := by
  rcases mem_kept_send hm with hm | ⟨hm, _⟩ | rfl
  · exact h.sent_append _ (List.mem_append_left _ hm)
  · exact h.sent_append _ (List.mem_append_right _ hm)
  · dsimp only
    rw [h.counted]
    exact List.getElem?_concat_length

theorem separated_send (h : Debounced delay now past d) (hle : now ≤ time) {kind : κ}
    {message : Sent κ} (hm : message ∈ (d.send delay time kind).kept) {position other : Nat}
    {otherKind : κ} (hlt : message.position < position)
    (hother : (past ++ [(time, some kind)])[position]? = some (other, some otherKind))
    (hkind : otherKind ≠ message.kind) : message.time + delay ≤ other := by
  rcases mem_kept_send hm with hm | ⟨hm, hkeeps⟩ | rfl
  · refine h.separated_append (List.mem_append_left _ hm) (fun _ _ _ => ?_) hlt hother hkind
    exact Nat.le_trans (h.due message hm) hle
  · refine h.separated_append (List.mem_append_right _ hm) (fun _ he hne => ?_) hlt hother hkind
    cases he
    exact h.keeps_separated hle hm hkeeps hne
  · -- nothing has happened after the event of the new message
    have hend : (past ++ [(time, some kind)]).length ≤ position := by
      rw [List.length_append, ← h.counted]
      exact hlt
    rw [List.getElem?_eq_none hend] at hother
    cases hother

theorem latest_send (h : Debounced delay now past d) (hle : now ≤ time) {kind : κ}
    {message : Sent κ} (hm : message ∈ (d.send delay time kind).pending) :
    message.time ≤ (d.send delay time kind).latest message.kind := by
  rcases List.mem_append.mp hm with hm | hm
  · obtain ⟨hm, _⟩ := List.mem_filter.mp hm
    have hlatest := h.latest message hm
    have hrecent := h.recent message hm
    simp only [Debouncer.send]
    split <;> omega
  · rw [List.mem_singleton.mp hm]
    simp only [Debouncer.send, ite_true]
    exact Nat.le_refl time

theorem recent_send (h : Debounced delay now past d) (hle : now ≤ time) {kind : κ}
    {message : Sent κ} (hm : message ∈ (d.send delay time kind).pending) :
    message.time ≤ time := by
  rcases List.mem_append.mp hm with hm | hm
  · exact Nat.le_trans (h.recent message (List.mem_of_mem_filter hm)) hle
  · obtain rfl := List.mem_singleton.mp hm
    exact Nat.le_refl time

theorem send (h : Debounced delay now past d) (hle : now ≤ time) (kind : κ) :
    Debounced delay time (past ++ [(time, some kind)]) (d.send delay time kind) where
  counted := by
    rw [List.length_append, ← h.counted]
    rfl
  numbered := h.numbered_send kind
  sent _ hm := h.sent_send hm
  last := by
    rw [kept_send, List.getLast?_concat, lastKind, List.filterMap_append]
    exact List.getLast?_concat.symm
  separated _ hm _ _ _ hlt hother hkind := h.separated_send hle hm hlt hother hkind
  latest _ hm := h.latest_send hle hm
  recent _ hm := h.recent_send hle hm
  due message hm := Nat.le_trans (h.due message hm) hle

end Send

-- No event of a kind happens, and no message is lost.
theorem advance {after : Debouncer κ} (h : Debounced delay now past d) (hle : now ≤ time)
    (hevents : after.events = d.events + 1) (hlatest : after.latest = d.latest)
    (hkept : after.kept = d.kept) (hpending : ∀ message ∈ after.pending, message ∈ d.pending)
    (hdue : ∀ message ∈ after.handled, message.time + delay ≤ time) :
    Debounced delay time (past ++ [(time, none)]) after where
  counted := by
    rw [hevents, List.length_append, h.counted]
    rfl
  numbered := by
    rw [hkept]
    exact h.numbered
  sent _ hm := h.sent_append _ (hkept ▸ hm)
  last := by
    rw [hkept, h.last, lastKind, lastKind, List.filterMap_append]
    exact congrArg List.getLast? (List.append_nil _).symm
  separated _ hm _ _ _ hlt hother hkind :=
    h.separated_append (hkept ▸ hm) (fun _ he _ => by cases he) hlt hother hkind
  latest message hm := by
    rw [hlatest]
    exact h.latest message (hpending message hm)
  recent message hm := Nat.le_trans (h.recent message (hpending message hm)) hle
  due := hdue

theorem skip (h : Debounced delay now past d) (hle : now ≤ time) :
    Debounced delay time (past ++ [(time, none)]) d.skip :=
  h.advance hle rfl rfl rfl (fun _ hm => hm) fun message hm => Nat.le_trans (h.due message hm) hle

theorem handle {first : Sent κ} {rest : List (Sent κ)} (h : Debounced delay now past d)
    (hle : now ≤ time) (hpending : d.pending = first :: rest) (hdue : first.time + delay ≤ time) :
    Debounced delay time (past ++ [(time, none)]) (d.handle first.kind) := by
  have hhandle : d.handle first.kind =
      ⟨d.events + 1, d.latest, rest, d.handled ++ [first]⟩ := by
    rw [Debouncer.handle, hpending]
  rw [hhandle]
  refine h.advance hle rfl rfl ?_ (fun message hm => ?_) fun message hm => ?_
  · rw [Debouncer.kept, Debouncer.kept, hpending, List.append_assoc]
    rfl
  · rw [hpending]
    exact List.mem_cons_of_mem _ hm
  · rcases List.mem_append.mp hm with hm | hm
    · exact Nat.le_trans (h.due message hm) hle
    · rw [List.mem_singleton.mp hm]
      exact hdue

end Debounced

end Raphael
