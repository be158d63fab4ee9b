import Raphael.Recovery.BoyerMoore.Theorems

namespace Raphael.Recovery

open Raphael.Search

-- From the index `lo` on, each entry moves the window by at least one place and
-- by at most the length of the pattern. NUL bytes in the pattern cut its
-- comparisons short, and the bounds hold whatever those return.
def AdvanceTable (pat : Bytes) (lo : Nat) (delta2 : List Int) : Prop :=
  delta2.length = pat.length ∧
    ∀ j, lo ≤ j → j < pat.length → ∃ value : Nat, pat.length - 1 - j < value ∧
      value ≤ pat.length + (pat.length - 1 - j) ∧ delta2[j]? = some (toInt value)

theorem AdvanceTable.set {pat : Bytes} {lo next index value : Nat} {delta2 : List Int}
    (h : AdvanceTable pat lo delta2) (hi : index < pat.length)
    (hlo : ∀ j, next ≤ j → j ≠ index → lo ≤ j) (hgt : pat.length - 1 - index < value)
    (hle : value ≤ pat.length + (pat.length - 1 - index)) :
    AdvanceTable pat next (delta2.set index (toInt value)) := by
  refine ⟨by rw [List.length_set]; exact h.1, fun j hj hlt => ?_⟩
  by_cases he : j = index
  · subst j
    exact ⟨value, hgt, hle, List.getElem?_set_self (by rw [h.1]; exact hi)⟩
  · obtain ⟨other, hg, hl, hget⟩ := h.2 j (hlo j hj he) hlt
    exact ⟨other, hg, hl, by rw [List.getElem?_set_ne (Ne.symm he), hget]⟩

-- last_prefix stays above the counter, and the whole pattern is a border of
-- itself, so that no entry is left without an advance.
theorem bmMakeDelta2Prefixes_advance {pat : Bytes} (hn : pat.length < 2 ^ 31)
    (p lastPrefix : Nat) (delta2 : List Int) (hp : p ≤ pat.length)
    (hle : lastPrefix ≤ pat.length) (hge : p ≤ lastPrefix + 1)
    (htable : AdvanceTable pat p delta2) :
    ∃ result, bmMakeDelta2Prefixes pat pat.length p lastPrefix delta2 = some result ∧
      AdvanceTable pat 0 result := by
  induction p generalizing lastPrefix delta2 with
  | zero => exact ⟨delta2, rfl, htable⟩
  | succ p ih =>
      obtain ⟨order, horder⟩ := strncmp_total (pat.drop p) pat (pat.length - p) (by simp) (by omega)
      have hnext := nextPrefix_le order (show p < pat.length by omega) hle
      have hlow : p ≤ nextPrefix order p lastPrefix := by
        unfold nextPrefix
        split <;> omega
      have hpos : 0 < nextPrefix order p lastPrefix := by
        by_cases h0 : p = 0
        · subst p
          have hself := strncmp_self pat pat.length (le_refl _)
          rw [List.drop_zero, Nat.sub_zero, hself] at horder
          rw [← Option.some.inj horder]
          exact Nat.one_pos
        · omega
      rw [bmMakeDelta2Prefixes_turn hn (by omega) hle htable.1 horder]
      exact ih _ _ (by omega) hnext (by omega)
        (htable.set (by omega) (fun j hj hne => by omega) (by omega) (by omega))

theorem bmMakeDelta2Suffixes_advance {pat : Bytes} (hn : pat.length < 2 ^ 31)
    (fuel p : Nat) (delta2 : List Int) (hp : p + 1 ≤ pat.length) (hfuel : pat.length ≤ p + fuel)
    (htable : AdvanceTable pat 0 delta2) :
    ∃ result, bmMakeDelta2Suffixes pat pat.length fuel p delta2 = some result ∧
      AdvanceTable pat 0 result := by
  induction fuel generalizing p delta2 with
  | zero => omega
  | succ fuel ih =>
      by_cases hlt : p + 1 < pat.length
      · obtain ⟨sufLen, hsuf, hle, _⟩ := maxSuffixLen_spec hn (show p < pat.length by omega)
        rw [bmMakeDelta2Suffixes_turn hn hlt htable.1 hsuf hle]
        apply ih (p + 1) _ (by omega) (by omega)
        split
        · exact htable.set (by omega) (fun j _ _ => Nat.zero_le j) (by omega) (by omega)
        · exact htable
      · exact ⟨delta2, bmMakeDelta2Suffixes_end hn (by omega) fuel delta2, htable⟩

theorem bmMakeDelta2_advance {pat : Bytes} (hn : pat.length < 2 ^ 31) (hne : 0 < pat.length) :
    ∃ delta2, bmMakeDelta2 pat pat.length = some delta2 ∧ AdvanceTable pat 0 delta2 := by
  have hone : sizeSub pat.length 1 = pat.length - 1 := sizeSub_eq (by omega) (by omega)
  have hcount : (toInt (pat.length - 1) + 1).toNat = pat.length := by
    rw [toInt_eq (by omega)]; omega
  obtain ⟨first, hfirst, hprefix⟩ := bmMakeDelta2Prefixes_advance hn pat.length (pat.length - 1)
    (List.replicate pat.length 0) (le_refl _) (by omega) (by omega)
    ⟨List.length_replicate, fun j hj hlt => by omega⟩
  unfold bmMakeDelta2
  rw [hone, hcount, toUInt32_eq (by omega), hfirst, Option.bind_eq_bind, Option.bind_some]
  exact bmMakeDelta2Suffixes_advance hn (pat.length + 1) 0 first hne (by omega) hprefix

section Safety

variable {str pat : Bytes} {delta1 delta2 : List Int} (hne : 0 < pat.length)
  (hlen : str.length + pat.length ≤ 2 ^ 31)
  (hbad : BadCharacterTable pat (pat.length - 1) delta1) (hadvance : AdvanceTable pat 0 delta2)

include hne hlen hbad hadvance

-- The end of the window is the measure: every mismatch moves it on.
theorem bmSearchLoop_ends (fuel window : Nat) (hpos : 0 < fuel)
    (hfuel : str.length < window + fuel) :
    ∃ result, bmSearchLoop str str.length pat pat.length delta1 delta2 fuel
      (window + pat.length - 1) = some result := by
  induction fuel generalizing window with
  | zero => omega
  | succ fuel ih =>
      by_cases hw : window + pat.length ≤ str.length
      · rcases bmMatchLoop_spec hw pat.length (le_refl _) (fun i hle hi => by omega) with
          ⟨_, ho⟩ | ⟨index, _, hm⟩
        · exact ⟨_, bmSearchLoop_found hne hlen hw fuel ho⟩
        · have hi := hm.index_lt
          have hc := List.getElem?_eq_getElem (show window + index < str.length by omega)
          obtain ⟨value1, hget1, hv1⟩ := hbad.2 str[window + index]
          obtain ⟨value2, hgt, hle, hget2⟩ := hadvance.2 index (Nat.zero_le index) hi
          rw [bmSearchLoop_advance hne hlen hw fuel hm hc hget1 hv1.le hget2 hgt hle]
          exact ih _ (by omega) (by omega)
      · exact ⟨_, bmSearchLoop_stop hne hlen (by omega) fuel⟩

omit hlen in
-- A pattern that fits into the text is short enough for its entries to be
-- stored as they are.
theorem max_shift_gt (hn : pat.length ≤ 2 ^ 30) (c : UInt8) {index : Nat}
    (hi : index < pat.length) :
    ∃ shift1 shift2, delta1[c.toNat]? = some shift1 ∧ delta2[index]? = some shift2 ∧
      ((pat.length - 1 - index : Nat) : Int) < max shift1 shift2 := by
  obtain ⟨value1, hget1, _⟩ := hbad.2 c
  obtain ⟨value2, hgt, hle, hget2⟩ := hadvance.2 index (Nat.zero_le index) hi
  rw [toInt_eq (by omega)] at hget2
  exact ⟨value1, value2, hget1, hget2, by omega⟩

end Safety

theorem bmSearch_safe (str pat : Bytes) (hne : pat ≠ []) (hn : pat.length < 2 ^ 31)
    (hlen : str.length + pat.length ≤ 2 ^ 31) :
    ∃ delta1 delta2 result, bmMakeDelta1 pat pat.length = some delta1 ∧
      bmMakeDelta2 pat pat.length = some delta2 ∧
      bmSearch str str.length pat pat.length = some result ∧
      (pat.length ≤ str.length → ∀ (c : UInt8) (index : Nat), index < pat.length →
        ∃ shift1 shift2, delta1[c.toNat]? = some shift1 ∧ delta2[index]? = some shift2 ∧
          ((pat.length - 1 - index : Nat) : Int) < max shift1 shift2) := by
  have hpos := List.length_pos_of_ne_nil hne
  obtain ⟨delta1, h1, hbad⟩ := bmMakeDelta1_spec hn hpos
  obtain ⟨delta2, h2, hadvance⟩ := bmMakeDelta2_advance hn hpos
  obtain ⟨result, hresult⟩ := bmSearchLoop_ends hpos hlen hbad hadvance (str.length + 1) 0
    (by omega) (by omega)
  refine ⟨delta1, delta2, result, h1, h2, ?_, fun hfit c index hi =>
    max_shift_gt hpos hbad hadvance (by omega) c hi⟩
  have hstart : toInt (sizeSub pat.length 1) = ((0 : Nat) : Int) + pat.length - 1 := by
    rw [sizeSub_eq (by omega) (by omega), toInt_eq (by omega)]
    omega
  have hpat : pat.length ≠ 0 := by omega
  rw [bmSearch, h1, h2, hstart, Option.bind_eq_bind, Option.bind_some, Option.bind_some,
    if_neg hpat]
  exact hresult

-- A pattern with a NUL byte inside.
theorem bmSearch_safe_nul :
    ∃ delta1 delta2 result, bmMakeDelta1 [1, 0, 1] 3 = some delta1 ∧
      bmMakeDelta2 [1, 0, 1] 3 = some delta2 ∧
      bmSearch [1, 0, 0, 1, 0, 1] 6 [1, 0, 1] 3 = some result ∧
      (3 ≤ 6 → ∀ (c : UInt8) (index : Nat), index < 3 →
        ∃ shift1 shift2, delta1[c.toNat]? = some shift1 ∧ delta2[index]? = some shift2 ∧
          ((3 - 1 - index : Nat) : Int) < max shift1 shift2) :=
  bmSearch_safe [1, 0, 0, 1, 0, 1] [1, 0, 1] (by decide) (by decide) (by decide)

-- On the empty text the sum leaves room for a pattern of 2^31 bytes, and for
-- it the bound of the second loop, (int)pat_len - 1, overflows.
theorem bmSearch_overflows :
    ¬∀ str pat : Bytes, pat ≠ [] → str.length + pat.length ≤ 2 ^ 31 →
      ∃ result, bmSearch str str.length pat pat.length = some result := by
  intro h
  have hl : (List.replicate (2 ^ 31) (0 : UInt8)).length = 2 ^ 31 := List.length_replicate
  obtain ⟨result, hresult⟩ := h [] (List.replicate (2 ^ 31) 0)
    (List.ne_nil_of_length_pos (by omega)) (by rw [hl]; decide)
  have hlast : intAdd (toInt (2 ^ 31)) (-1) = none := by decide
  have hnone : bmMakeDelta2 (List.replicate (2 ^ 31) 0) (2 ^ 31) = none := by
    simp only [bmMakeDelta2, bmMakeDelta2Suffixes, hlast, Option.bind_eq_bind, Option.bind_none,
      Option.bind_fun_none]
  rw [hl, bmSearch, hnone] at hresult
  simp only [Option.bind_eq_bind, Option.bind_none, Option.bind_fun_none] at hresult
  cases hresult

end Raphael.Recovery
