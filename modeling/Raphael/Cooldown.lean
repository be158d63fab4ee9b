import Mathlib.Data.List.Basic

namespace Raphael

-- Flags that are raised for a while: each raised flag has one release pending,
-- and the marks set while raising one are all over, or covered by a release
-- that is still to come. Marks are listed from the newest.
structure Cooldown {ι : Type*} (width now : Nat) (flag : ι → Bool) (releases : ι → List Nat)
    (marks : List Nat) : Prop where
  single : ∀ i, (releases i).length = (flag i).toNat
  covered : ∀ mark ∈ marks, mark + width ≤ now ∨ ∃ i, ∃ due ∈ releases i, mark + width ≤ due
  spaced : marks.Pairwise fun later earlier => earlier + width ≤ later

namespace Cooldown

variable {ι : Type*} {width now : Nat} {flag flag' : ι → Bool} {releases releases' : ι → List Nat}
  {marks : List Nat}

theorem start (h : ∀ i, flag i = false) : Cooldown width now flag (fun _ => []) [] where
  single i := by rw [h i]; rfl
  covered _ hm := nomatch hm
  spaced := List.Pairwise.nil

theorem tick {later : Nat} (h : Cooldown width now flag releases marks) (hle : now ≤ later) :
    Cooldown width later flag releases marks where
  single := h.single
  covered mark hm := (h.covered mark hm).imp_left fun hover => Nat.le_trans hover hle
  spaced := h.spaced

theorem releases_eq_nil (h : Cooldown width now flag releases marks) {i : ι}
    (hflag : flag i = false) : releases i = [] :=
  List.length_eq_zero_iff.mp (by rw [h.single i, hflag]; rfl)

-- With every flag down, all marks are over.
theorem marks_over (h : Cooldown width now flag releases marks) (hdown : ∀ i, flag i = false) :
    ∀ mark ∈ marks, mark + width ≤ now := by
  intro mark hm
  obtain hover | ⟨i, due, hdue, _⟩ := h.covered mark hm
  · exact hover
  · rw [h.releases_eq_nil (hdown i)] at hdue
    cases hdue

-- A mark that is not over keeps a flag raised.
theorem raised (h : Cooldown width now flag releases marks) {mark : Nat} (hm : mark ∈ marks)
    (hlt : now < mark + width) : ∃ i, flag i = true := by
  by_contra hnone
  have hdown : ∀ i, flag i = false := fun i => Bool.eq_false_iff.mpr fun hi => hnone ⟨i, hi⟩
  exact absurd (h.marks_over hdown mark hm) (Nat.not_le.mpr hlt)

section Change

variable {i : ι} (hothers : ∀ j, j ≠ i → flag' j = flag j ∧ releases' j = releases j)
include hothers

theorem raise (h : Cooldown width now flag releases marks) (hidle : flag i = false)
    (hflag : flag' i = true) (hreleases : ∃ due, releases' i = [due]) :
    Cooldown width now flag' releases' marks where
  single j := by
    by_cases hj : j = i
    · obtain ⟨due, hdue⟩ := hreleases
      rw [hj, hflag, hdue]
      rfl
    · rw [(hothers j hj).1, (hothers j hj).2, h.single j]
  covered mark hm := by
    refine (h.covered mark hm).imp_right ?_
    rintro ⟨j, due, hdue, hle⟩
    have hj : j ≠ i := by
      rintro rfl
      rw [h.releases_eq_nil hidle] at hdue
      cases hdue
    exact ⟨j, due, by rwa [(hothers j hj).2], hle⟩
  spaced := h.spaced

theorem mark (h : Cooldown width now flag releases marks) (hidle : ∀ j, flag j = false)
    (hflag : flag' i = true) (hreleases : releases' i = [now + width]) :
    Cooldown width now flag' releases' (now :: marks) where
  single := (h.raise hothers (hidle i) hflag ⟨_, hreleases⟩).single
  covered mark hm := by
    rcases List.mem_cons.mp hm with rfl | hm
    · refine .inr ⟨i, mark + width, ?_, Nat.le_refl _⟩
      rw [hreleases]
      exact List.mem_singleton_self _
    · exact .inl (h.marks_over hidle mark hm)
  spaced := List.pairwise_cons.mpr ⟨h.marks_over hidle, h.spaced⟩

theorem release (h : Cooldown width now flag releases marks) {due : Nat}
    (hreleases : releases i = due :: releases' i) (hdue : due ≤ now) (hflag : flag' i = false) :
    Cooldown width now flag' releases' marks where
  single j := by
    by_cases hj : j = i
    · have hlen := h.single i
      rw [hreleases, List.length_cons] at hlen
      have hle : (flag i).toNat ≤ 1 := Bool.toNat_le _
      have hzero : (releases' i).length = 0 := by omega
      rw [hj, hflag, hzero]
      rfl
    · rw [(hothers j hj).1, (hothers j hj).2, h.single j]
  covered mark hm := by
    rcases h.covered mark hm with hover | ⟨j, d, hd, hle⟩
    · exact .inl hover
    · by_cases hj : j = i
      · rw [hj, hreleases] at hd
        rcases List.mem_cons.mp hd with rfl | hd
        · exact .inl (Nat.le_trans hle hdue)
        · exact .inr ⟨i, d, hd, hle⟩
      · exact .inr ⟨j, d, by rwa [(hothers j hj).2], hle⟩
  spaced := h.spaced

end Change

end Cooldown

end Raphael
