import Mathlib.Data.List.Basic

namespace Raphael.Sections

variable {α σ ε : Type*}

-- Some lines start a section, which lasts until the next one starts. What is
-- done to a line depends on the section it is in.
def enter (mark : α → Option σ) (state : σ) (line : α) : σ := (mark line).getD state

def sectionAt (mark : α → Option σ) (state : σ) (lines : List α) : σ :=
  lines.foldl (enter mark) state

def pass (mark : α → Option σ) (f : σ → α → α) : σ → List α → List α
  | _, [] => []
  | state, line :: rest => f state line :: pass mark f (enter mark state line) rest

-- The same with an operation that can fail.
def passM (mark : α → Option σ) (f : σ → α → Except ε α) : σ → List α → Except ε (List α)
  | _, [] => .ok []
  | state, line :: rest => do
      let line' ← f state line
      let rest' ← passM mark f (enter mark state line) rest
      return line' :: rest'

def Everywhere (mark : α → Option σ) (p : σ → α → Prop) (state : σ) (lines : List α) : Prop :=
  ∀ i line, lines[i]? = some line → p (sectionAt mark state (lines.take i)) line

section Rules

variable (mark : α → Option σ)

theorem sectionAt_cons (state : σ) (line : α) (rest : List α) :
    sectionAt mark state (line :: rest) = sectionAt mark (enter mark state line) rest := rfl

-- The section is the one that the nearest line before starts.
theorem sectionAt_eq (state : σ) (lines : List α) :
    sectionAt mark state lines = (lines.reverse.findSome? mark).getD state := by
  induction lines generalizing state with
  | nil => rfl
  | cons line rest ih =>
      rw [sectionAt_cons, ih, List.reverse_cons, List.findSome?_append]
      cases rest.reverse.findSome? mark with
      | some found => rfl
      | none => cases hmark : mark line <;> simp [enter, hmark]

theorem everywhere_nil (p : σ → α → Prop) (state : σ) : Everywhere mark p state [] := by
  intro i line h
  cases h

theorem everywhere_cons (p : σ → α → Prop) (state : σ) (line : α) (rest : List α) :
    Everywhere mark p state (line :: rest) ↔
      p state line ∧ Everywhere mark p (enter mark state line) rest := by
  constructor
  · intro h
    exact ⟨h 0 line rfl, fun i other hi => h (i + 1) other hi⟩
  · rintro ⟨hline, hrest⟩ i other hi
    cases i with
    | zero =>
        obtain rfl := Option.some.inj hi
        exact hline
    | succ i => exact hrest i other hi

theorem pass_getElem? (f : σ → α → α) (state : σ) (lines : List α) (i : Nat) :
    (pass mark f state lines)[i]? =
      lines[i]?.map (f (sectionAt mark state (lines.take i))) := by
  induction lines generalizing state i with
  | nil => rfl
  | cons line rest ih =>
      cases i with
      | zero => rfl
      | succ i => exact ih (enter mark state line) i

@[simp] theorem pass_length (f : σ → α → α) (state : σ) (lines : List α) :
    (pass mark f state lines).length = lines.length := by
  induction lines generalizing state with
  | nil => rfl
  | cons line rest ih => simp only [pass, List.length_cons, ih]

-- Two passes are one, when the first keeps the lines that start sections.
theorem pass_pass {f : σ → α → α} (g : σ → α → α) (hmark : ∀ s a, mark (f s a) = mark a)
    (state : σ) (lines : List α) :
    pass mark g state (pass mark f state lines) =
      pass mark (fun s a => g s (f s a)) state lines := by
  induction lines generalizing state with
  | nil => rfl
  | cons line rest ih =>
      have henter : enter mark state (f state line) = enter mark state line := by
        rw [enter, hmark, enter]
      simp only [pass, henter, ih]

theorem pass_congr {f g : σ → α → α} {state : σ} {lines : List α}
    (h : Everywhere mark (fun s a => f s a = g s a) state lines) :
    pass mark f state lines = pass mark g state lines := by
  induction lines generalizing state with
  | nil => rfl
  | cons line rest ih =>
      obtain ⟨hline, hrest⟩ := (everywhere_cons mark _ state line rest).mp h
      rw [pass, pass, hline, ih hrest]

-- An operation that does not look at the section is mapped.
theorem pass_const (f : α → α) (state : σ) (lines : List α) :
    pass mark (fun _ => f) state lines = lines.map f := by
  induction lines generalizing state with
  | nil => rfl
  | cons line rest ih => rw [pass, ih, List.map_cons]

theorem passM_cons_ok {f : σ → α → Except ε α} {state : σ} {line result : α} {rest : List α}
    (h : f state line = .ok result) :
    passM mark f state (line :: rest) =
      (passM mark f (enter mark state line) rest).map (result :: ·) := by
  rw [passM, h]
  cases passM mark f (enter mark state line) rest <;> rfl

theorem passM_cons_error {f : σ → α → Except ε α} {state : σ} {line : α} {rest : List α} {e : ε}
    (h : f state line = .error e) : passM mark f state (line :: rest) = .error e := by
  rw [passM, h]
  rfl

theorem passM_pass {f : σ → α → α} (g : σ → α → Except ε α)
    (hmark : ∀ s a, mark (f s a) = mark a) (state : σ) (lines : List α) :
    passM mark g state (pass mark f state lines) =
      passM mark (fun s a => g s (f s a)) state lines := by
  induction lines generalizing state with
  | nil => rfl
  | cons line rest ih =>
      have henter : enter mark state (f state line) = enter mark state line := by
        rw [enter, hmark, enter]
      rw [pass, passM, passM, henter, ih]

theorem passM_eq_ok {f : σ → α → Except ε α} {g : σ → α → α} {state : σ} {lines : List α}
    (h : Everywhere mark (fun s a => f s a = .ok (g s a)) state lines) :
    passM mark f state lines = .ok (pass mark g state lines) := by
  induction lines generalizing state with
  | nil => rfl
  | cons line rest ih =>
      obtain ⟨hline, hrest⟩ := (everywhere_cons mark _ state line rest).mp h
      rw [passM_cons_ok mark hline, ih hrest]
      rfl

-- The pass succeeds when the operation does on every line.
theorem passM_ok_iff (f : σ → α → Except ε α) (state : σ) (lines : List α) :
    (∃ result, passM mark f state lines = .ok result) ↔
      Everywhere mark (fun s a => ∃ b, f s a = .ok b) state lines := by
  induction lines generalizing state with
  | nil => exact iff_of_true ⟨[], rfl⟩ (everywhere_nil mark _ state)
  | cons line rest ih =>
      rw [everywhere_cons, ← ih]
      cases hline : f state line with
      | error e => simp [passM_cons_error mark hline]
      | ok b =>
          rw [passM_cons_ok mark hline]
          cases passM mark f (enter mark state line) rest with
          | error e => simp [Except.map]
          | ok result => simp [Except.map]

end Rules

end Raphael.Sections
