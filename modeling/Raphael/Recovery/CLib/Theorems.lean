import Raphael.Recovery.CLib
import Mathlib.Data.List.Infix

namespace Raphael.Recovery

theorem sizeSub_eq {a b : Nat} (hb : b ≤ a) (ha : a < 2 ^ 64) : sizeSub a b = a - b := by
  unfold sizeSub
  rw [show a + 2 ^ 64 - b = (a - b) + 2 ^ 64 by omega, Nat.add_mod_right]
  exact Nat.mod_eq_of_lt (by omega)

theorem sizeAdd_eq {a b : Nat} (h : a + b < 2 ^ 64) : sizeAdd a b = a + b :=
  Nat.mod_eq_of_lt h

theorem toUInt32_eq {n : Nat} (h : n < 2 ^ 32) : toUInt32 n = n := Nat.mod_eq_of_lt h

theorem uint32Add_eq {a b : Nat} (h : a + b < 2 ^ 32) : uint32Add a b = some (a + b) := by
  simp only [uint32Add, h, ite_true]

theorem toInt_eq {n : Nat} (h : n < 2 ^ 31) : toInt n = n := by
  unfold toInt
  exact Int.bmod_eq_of_le (by omega) (by omega)

theorem toInt_cases (n : Nat) :
    (toInt n = (n % 4294967296 : Nat) ∧ n % 4294967296 < 2147483648) ∨
      (toInt n = (n % 4294967296 : Nat) - 4294967296 ∧ 2147483648 ≤ n % 4294967296) := by
  unfold toInt
  rw [show (2 ^ 32 : Nat) = 4294967296 from rfl, Int.bmod_def]
  split <;> omega

theorem toInt_le (n : Nat) : toInt n ≤ n := by
  have := toInt_cases n
  omega

theorem toInt_lt (n : Nat) : toInt n < 2 ^ 31 := by
  have := toInt_cases n
  omega

theorem intAdd_eq {a b : Int} (hl : -2 ^ 31 ≤ a + b) (hu : a + b < 2 ^ 31) :
    intAdd a b = some (a + b) := by
  simp only [intAdd, hl, hu, and_self, ite_true]

@[simp] theorem readAt_natCast (str : Bytes) (i : Nat) : readAt str i = str[i]? := by
  simp [readAt]

theorem store_eq {table : List Int} {index : Nat} (h : index < table.length) (value : Int) :
    store table index value = some (table.set index value) := by
  simp only [store, h, ite_true]

-- A prefix of `t` free of NUL bytes ends before the first NUL of `t`.
theorem prefix_of_append_nul {s t rest : Bytes} (hnul : 0 ∉ s) (h : s <+: t ++ 0 :: rest) :
    s <+: t := by
  induction s generalizing t with
  | nil => exact List.nil_prefix
  | cons a s ih =>
      cases t with
      | nil =>
          obtain ⟨ha, _⟩ := List.cons_prefix_cons.mp h
          exact absurd (ha ▸ List.mem_cons_self) hnul
      | cons b t =>
          obtain ⟨rfl, hs⟩ := List.cons_prefix_cons.mp h
          exact List.cons_prefix_cons.mpr ⟨rfl, ih (fun hm => hnul (List.mem_cons_of_mem _ hm)) hs⟩

-- A comparison within both strings reads inside them.
theorem strncmp_total (s t : Bytes) (n : Nat) (hs : n ≤ s.length) (ht : n ≤ t.length) :
    ∃ order, strncmp s t n = some order := by
  induction n generalizing s t with
  | zero => exact ⟨0, by cases s <;> cases t <;> rfl⟩
  | succ n ih =>
      cases s with
      | nil => simp at hs
      | cons a s =>
          cases t with
          | nil => simp at ht
          | cons b t =>
              simp only [strncmp]
              split
              · exact ⟨_, rfl⟩
              · split
                · exact ⟨0, rfl⟩
                · exact ih s t (by simpa using hs) (by simpa using ht)

theorem strncmp_self (s : Bytes) (n : Nat) (hs : n ≤ s.length) : strncmp s s n = some 0 := by
  induction n generalizing s with
  | zero => cases s <;> rfl
  | succ n ih =>
      cases s with
      | nil => simp at hs
      | cons a s =>
          simp only [strncmp, ne_eq, not_true_eq_false, ite_false, ih s (by simpa using hs),
            ite_self]

-- On a string whose compared bytes hold no NUL, strncmp asks for a prefix.
-- It never reads past the end of `t` when `t` is long enough or has a NUL.
theorem strncmp_spec (s t : Bytes) (n : Nat) (hs : n ≤ s.length) (hnul : 0 ∉ s.take n)
    (ht : n ≤ t.length ∨ 0 ∈ t) :
    ∃ order, strncmp s t n = some order ∧ (order = 0 ↔ s.take n <+: t) := by
  induction n generalizing s t with
  | zero => exact ⟨0, by cases s <;> cases t <;> rfl, by simp⟩
  | succ n ih =>
      cases s with
      | nil => simp at hs
      | cons a s =>
          cases t with
          | nil => simp at ht
          | cons b t =>
              simp only [List.take_succ_cons, List.mem_cons, not_or] at hnul
              simp only [List.take_succ_cons, List.cons_prefix_cons, strncmp]
              by_cases hab : a = b
              · subst b
                simp only [ne_eq, not_true_eq_false, ite_false, Ne.symm hnul.1, true_and]
                apply ih s t (by simpa using hs) hnul.2
                rcases ht with ht | ht
                · exact .inl (by simpa using ht)
                · exact .inr ((List.mem_cons.mp ht).resolve_left hnul.1)
              · refine ⟨a.toNat - b.toNat, by simp [hab], ?_⟩
                have hne : a.toNat ≠ b.toNat := fun h => hab (UInt8.toNat.inj h)
                simp only [hab, false_and, iff_false]
                omega

end Raphael.Recovery
