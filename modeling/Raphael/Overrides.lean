import Mathlib.Logic.Function.Basic
import Raphael.Trace

namespace Raphael.Overrides

-- A write to one key of a store. Only some of the writes create the key.
structure Override (κ ν : Type*) where
  key : κ
  value : ν
  add : Bool

section Coverage

variable {κ ν : Type*}

-- The second list writes what the first one does, and creates what it creates.
def Covers (first second : List (Override κ ν)) : Prop :=
  ∀ write ∈ first, ∃ other ∈ second, other.key = write.key ∧ (write.add → other.add)

theorem Covers.refl (writes : List (Override κ ν)) : Covers writes writes :=
  fun write hwrite => ⟨write, hwrite, rfl, id⟩

theorem Covers.append {first second first' second' : List (Override κ ν)}
    (h : Covers first second) (h' : Covers first' second') :
    Covers (first ++ first') (second ++ second') := by
  intro write hwrite
  obtain hmem | hmem := List.mem_append.mp hwrite
  · obtain ⟨other, hother, hcovers⟩ := h write hmem
    exact ⟨other, List.mem_append_left _ hother, hcovers⟩
  · obtain ⟨other, hother, hcovers⟩ := h' write hmem
    exact ⟨other, List.mem_append_right _ hother, hcovers⟩

-- Where all keys are created, the same keys are enough.
theorem covers_of_keys {first second : List (Override κ ν)}
    (hkeys : first.map Override.key ⊆ second.map Override.key)
    (hadd : ∀ write ∈ second, write.add = true) : Covers first second := by
  intro write hwrite
  obtain ⟨other, hother, hkey⟩ := List.mem_map.mp (hkeys (List.mem_map_of_mem hwrite))
  exact ⟨other, hother, hkey, fun _ => hadd other hother⟩

end Coverage

section Apply

variable {κ ν : Type*} [DecidableEq κ]

def Override.apply (store : κ → Option ν) (write : Override κ ν) : κ → Option ν :=
  if (store write.key).isSome || write.add then
    Function.update store write.key (some write.value)
  else store

def applyAll (store : κ → Option ν) (writes : List (Override κ ν)) : κ → Option ν :=
  writes.foldl Override.apply store

def creates (key : κ) (write : Override κ ν) : Bool := write.key = key && write.add

theorem any_creates_iff (key : κ) (writes : List (Override κ ν)) :
    writes.any (creates key) = true ↔ key ∈ (writes.filter Override.add).map Override.key := by
  simp only [List.any_eq_true, creates, Bool.and_eq_true, decide_eq_true_eq, List.mem_map,
    List.mem_filter]
  constructor
  · rintro ⟨write, hwrite, hkey, hadd⟩
    exact ⟨write, ⟨hwrite, hadd⟩, hkey⟩
  · rintro ⟨write, ⟨hwrite, hadd⟩, hkey⟩
    exact ⟨write, hwrite, hkey, hadd⟩

theorem apply_of_ne (store : κ → Option ν) {write : Override κ ν} {key : κ}
    (hne : write.key ≠ key) : write.apply store key = store key := by
  unfold Override.apply
  split
  · exact Function.update_of_ne hne.symm _ _
  · rfl

theorem apply_self (store : κ → Option ν) (write : Override κ ν) :
    write.apply store write.key =
      if (store write.key).isSome || write.add then some write.value else none := by
  unfold Override.apply
  by_cases h : ((store write.key).isSome || write.add) = true
  · rw [if_pos h, if_pos h, Function.update_self]
  · rw [if_neg h, if_neg h]
    simp only [Bool.or_eq_true, not_or, Bool.not_eq_true] at h
    simpa using h.1

-- The frame: a key that is not written keeps its value.
theorem applyAll_of_forall_ne {writes : List (Override κ ν)} {key : κ}
    (hne : ∀ write ∈ writes, write.key ≠ key) (store : κ → Option ν) :
    applyAll store writes key = store key := by
  induction writes generalizing store with
  | nil => rfl
  | cons write rest ih =>
      have hrest := ih (fun w hw => hne w (List.mem_cons_of_mem _ hw)) (write.apply store)
      exact hrest.trans (apply_of_ne store (hne write List.mem_cons_self))

-- A key exists afterwards when it did before, or when one of the writes
-- creates it.
theorem isSome_applyAll (store : κ → Option ν) (writes : List (Override κ ν)) (key : κ) :
    (applyAll store writes key).isSome = ((store key).isSome || writes.any (creates key)) := by
  induction writes generalizing store with
  | nil => simp [applyAll]
  | cons write rest ih =>
      have hrest := ih (write.apply store)
      rw [applyAll, List.foldl_cons, ← applyAll, hrest, List.any_cons, creates]
      by_cases hkey : write.key = key
      · subst hkey
        rw [apply_self]
        cases (store write.key).isSome <;> cases write.add <;> simp
      · rw [apply_of_ne store hkey]
        simp [hkey]

-- The value of a key is that of the last write to it.
theorem applyAll_last (store : κ → Option ν) (before after : List (Override κ ν))
    (write : Override κ ν) (hafter : ∀ later ∈ after, later.key ≠ write.key) :
    applyAll store (before ++ write :: after) write.key =
      if (store write.key).isSome || (before ++ write :: after).any (creates write.key) then
        some write.value
      else none := by
  have hcreates : after.any (creates write.key) = false := by
    rw [List.any_eq_false]
    intro later hlater
    simp [creates, hafter later hlater]
  rw [applyAll, List.foldl_append, List.foldl_cons, ← applyAll, ← applyAll,
    applyAll_of_forall_ne hafter, apply_self, isSome_applyAll]
  simp [List.any_append, List.any_cons, hcreates, creates, Bool.or_assoc]

theorem Covers.any {first second : List (Override κ ν)} (h : Covers first second) {key : κ}
    (hcreates : first.any (creates key) = true) : second.any (creates key) = true := by
  obtain ⟨write, hwrite, hkey⟩ := List.any_eq_true.mp hcreates
  simp only [creates, Bool.and_eq_true, decide_eq_true_eq] at hkey
  obtain ⟨other, hother, hsame, hadd⟩ := h write hwrite
  refine List.any_eq_true.mpr ⟨other, hother, ?_⟩
  simp [creates, hsame, hkey.1, hadd hkey.2]

-- Nothing is left of writes that are covered by later ones.
theorem applyAll_applyAll {first second : List (Override κ ν)} (h : Covers first second)
    (store : κ → Option ν) : applyAll (applyAll store first) second = applyAll store second := by
  funext key
  obtain hnone | ⟨before, write, after, rfl, hkey, hafter⟩ :=
    Trace.exists_last (fun write => decide (write.key = key)) second
  · have hsecond : ∀ write ∈ second, write.key ≠ key := by
      intro write hwrite
      simpa using hnone write hwrite
    have hfirst : ∀ write ∈ first, write.key ≠ key := by
      intro write hwrite hkey
      obtain ⟨other, hother, hsame, -⟩ := h write hwrite
      exact hsecond other hother (hsame.trans hkey)
    rw [applyAll_of_forall_ne hsecond, applyAll_of_forall_ne hsecond, applyAll_of_forall_ne hfirst]
  · obtain rfl : write.key = key := by simpa using hkey
    have hlater : ∀ later ∈ after, later.key ≠ write.key := by
      intro later hlater
      simpa using hafter later hlater
    rw [applyAll_last _ before after write hlater, applyAll_last _ before after write hlater,
      isSome_applyAll]
    have hany := @Covers.any _ _ _ _ _ h write.key
    cases hfirst : first.any (creates write.key) with
    | false => rw [Bool.or_false]
    | true => rw [hany hfirst, Bool.or_true, Bool.or_true]

end Apply

end Raphael.Overrides
