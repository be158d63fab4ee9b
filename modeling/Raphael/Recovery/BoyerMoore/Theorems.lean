import Raphael.Recovery.BoyerMoore.Delta1
import Raphael.Recovery.BoyerMoore.Delta2

namespace Raphael.Recovery

open Raphael.Search

theorem bmMatchLoop_spec {str pat : Bytes} {window : Nat} (hw : window + pat.length ≤ str.length)
    (j : Nat) (hj : j ≤ pat.length)
    (hagrees : ∀ i, j ≤ i → i < pat.length → str[window + i]? = pat[i]?) :
    (bmMatchLoop str pat (window + j - 1) j = some ((window : Int) - 1, 0) ∧
        OccursAt pat str window) ∨
      ∃ index : Nat, bmMatchLoop str pat (window + j - 1) j =
          some ((window : Int) + index, index + 1) ∧ Mismatch pat str window index := by
  induction j with
  | zero =>
      refine .inl ⟨by simp [bmMatchLoop], (occursAt_iff _ _ _).mpr fun i hi => ?_⟩
      exact hagrees i (by omega) hi
  | succ j ih =>
      have hcast : (window : Int) + ((j + 1 : Nat) : Int) - 1 = ((window + j : Nat) : Int) := by
        omega
      have hs := List.getElem?_eq_getElem (show window + j < str.length by omega)
      have hp := List.getElem?_eq_getElem (show j < pat.length by omega)
      rw [hcast]
      simp only [bmMatchLoop, readAt_natCast, hs, hp, Option.bind_eq_bind, Option.bind_some]
      by_cases he : str[window + j] = pat[j]
      · simp only [he, ite_true]
        have hc : ((window + j : Nat) : Int) - 1 = (window : Int) + (j : Int) - 1 := by omega
        rw [hc]
        apply ih (by omega)
        intro i hle hi
        by_cases hij : i = j
        · subst i
          rw [hs, hp, he]
        · exact hagrees i (by omega) hi
      · simp only [he, ite_false]
        refine .inr ⟨j, by push_cast; rfl, ⟨by omega, ?_, fun i hlt hi => hagrees i (by omega) hi⟩⟩
        rw [hs, hp]
        exact fun h => he (Option.some.inj h)

structure ShiftTables (pat : Bytes) (delta1 delta2 : List Int) : Prop where
  bad : BadCharacterTable pat (pat.length - 1) delta1
  good : SuffixTable pat 1 delta2

-- The good-suffix rule passes an occurrence only when that occurrence overlaps
-- the window by a border, and the pattern is not uniform.
theorem goodSuffix_skip {pat str : Bytes} {window index value shift : Nat}
    (hm : Mismatch pat str window index) (hv : IsGoodSuffix pat 1 index value)
    (hs : 0 < shift) (hlt : shift + (pat.length - 1 - index) < value)
    (ho : OccursAt pat str (window + shift)) :
    Border pat shift ∧ shift < pat.length ∧ ¬Uniform pat := by
  have hi := hm.index_lt
  rcases hv with ⟨least, _, hr, hv, hleast⟩ | ⟨hnone, lastPrefix, hlast, hv⟩
  · have hle := hr.1
    exact absurd (hm.reoccurs ho (by omega)) (hleast shift hs (by omega))
  · have hgt : index < shift := by
      by_contra hle
      exact hnone shift hs (hm.reoccurs ho (by omega))
    have hb := hm.border ho hgt
    rcases hlast with ⟨hl, hno⟩ | ⟨q, _, hq, _, hl, hfirst⟩
    · exact absurd hb (hno shift (by omega) (by omega))
    · refine ⟨hb, by omega, fun hu => ?_⟩
      exact hfirst index (le_refl _) (by omega) (hu.border index)

theorem badCharacter_skip {pat str : Bytes} {window index value shift : Nat} {c : UInt8}
    (hm : Mismatch pat str window index) (hc : str[window + index]? = some c)
    (hv : IsBadCharacter pat (pat.length - 1) c value) (hs : 0 < shift)
    (ho : OccursAt pat str (window + shift)) : value ≤ shift + (pat.length - 1 - index) := by
  have hi := hm.index_lt
  by_cases hle : shift ≤ index
  · have h := hv.le_of_mem (show index - shift < pat.length - 1 by omega)
      ((hm.bad_symbol ho hle).trans hc)
    omega
  · have h := hv.le
    omega

section Loop

variable {str pat : Bytes} {delta1 delta2 : List Int} {window : Nat} (hne : 0 < pat.length)
  (hlen : str.length + pat.length ≤ 2 ^ 31) (hw : window + pat.length ≤ str.length)
  (ht : ShiftTables pat delta1 delta2)

include hne hlen hw

theorem bmSearchLoop_turn (fuel : Nat) :
    bmSearchLoop str str.length pat pat.length delta1 delta2 (fuel + 1)
        (window + pat.length - 1) =
      (bmMatchLoop str pat (window + pat.length - 1) pat.length).bind fun stop =>
        if stop.2 = 0 then some (some (stop.1 + 1).toNat)
        else (readAt str stop.1).bind fun c => (delta1[c.toNat]?).bind fun shift1 =>
          (delta2[stop.2 - 1]?).bind fun shift2 => (intAdd stop.1 (max shift1 shift2)).bind fun i =>
            bmSearchLoop str str.length pat pat.length delta1 delta2 fuel i := by
  have hj : (toInt (sizeSub pat.length 1) + 1).toNat = pat.length := by
    rw [sizeSub_eq (by omega) (by omega), toInt_eq (by omega)]
    omega
  have hi : (window : Int) + pat.length - 1 < toInt str.length := by
    rw [toInt_eq (by omega)]
    omega
  rw [bmSearchLoop, hj]
  simp only [hi, ite_true]
  rfl

theorem bmSearchLoop_found (fuel : Nat) (ho : OccursAt pat str window) :
    bmSearchLoop str str.length pat pat.length delta1 delta2 (fuel + 1)
      (window + pat.length - 1) = some (some window) := by
  rw [bmSearchLoop_turn hne hlen hw]
  rcases bmMatchLoop_spec hw pat.length (le_refl _) (fun i hle hi => by omega) with
    ⟨he, _⟩ | ⟨index, _, hm⟩
  · rw [he]
    simp
  · exact absurd ho hm.not_occursAt

-- After a mismatch the window moves on by the larger table entry, and the
-- addition stays within int.
theorem bmSearchLoop_advance (fuel : Nat) {index value1 value2 : Nat} {c : UInt8}
    (hm : Mismatch pat str window index) (hc : str[window + index]? = some c)
    (hget1 : delta1[c.toNat]? = some (value1 : Int)) (hle1 : value1 ≤ pat.length)
    (hget2 : delta2[index]? = some (toInt value2)) (hgt : pat.length - 1 - index < value2)
    (hle2 : value2 ≤ pat.length + (pat.length - 1 - index)) :
    bmSearchLoop str str.length pat pat.length delta1 delta2 (fuel + 1)
        (window + pat.length - 1) =
      bmSearchLoop str str.length pat pat.length delta1 delta2 fuel
        ((window + (max value1 value2 - (pat.length - 1 - index)) : Nat) + pat.length - 1) := by
  have hi := hm.index_lt
  rw [bmSearchLoop_turn hne hlen hw]
  rcases bmMatchLoop_spec hw pat.length (le_refl _) (fun i hle hi => by omega) with
    ⟨_, ho⟩ | ⟨other, he, hother⟩
  · exact absurd ho hm.not_occursAt
  · rw [hother.unique hm] at he
    have hcast : (window : Int) + (index : Int) = ((window + index : Nat) : Int) := by omega
    have hnext : ((window + index : Nat) : Int) + max (value1 : Int) (value2 : Int) =
        ((window + (max value1 value2 - (pat.length - 1 - index)) : Nat) : Int) +
          pat.length - 1 := by
      omega
    rw [he]
    simp only [Option.bind_some, Nat.add_one_ne_zero, ite_false, hcast,
      readAt_natCast, hc, hget1, Nat.add_sub_cancel, hget2,
      toInt_eq (show value2 < 2 ^ 31 by omega)]
    rw [intAdd_eq (by omega) (by omega), Option.bind_some, hnext]

include ht

theorem bmSearchLoop_shift (fuel : Nat) {index : Nat} (hm : Mismatch pat str window index) :
    ∃ c value1 value2 shift, str[window + index]? = some c ∧
      IsBadCharacter pat (pat.length - 1) c value1 ∧ IsGoodSuffix pat 1 index value2 ∧
      shift + (pat.length - 1 - index) = max value1 value2 ∧ 0 < shift ∧
      bmSearchLoop str str.length pat pat.length delta1 delta2 (fuel + 1)
          (window + pat.length - 1) =
        bmSearchLoop str str.length pat pat.length delta1 delta2 fuel
          ((window + shift : Nat) + pat.length - 1) := by
  have hi := hm.index_lt
  have hc := List.getElem?_eq_getElem (show window + index < str.length by omega)
  obtain ⟨value1, hget1, hv1⟩ := ht.bad.2 str[window + index]
  obtain ⟨value2, hv2, hget2⟩ := ht.good.2 index hi
  have hpos := hv2.pos hi
  exact ⟨_, value1, value2, max value1 value2 - (pat.length - 1 - index), hc, hv1, hv2,
    by omega, by omega,
    bmSearchLoop_advance hne hlen hw fuel hm hc hget1 hv1.le hget2 hpos (hv2.le hi)⟩

-- Every occurrence that a shift passes overlaps the window by a border.
theorem bmSearchLoop_move (fuel : Nat) (ho : ¬OccursAt pat str window) :
    ∃ shift, 0 < shift ∧
      (∀ s, 0 < s → s < shift → OccursAt pat str (window + s) →
        Border pat s ∧ s < pat.length ∧ ¬Uniform pat) ∧
      bmSearchLoop str str.length pat pat.length delta1 delta2 (fuel + 1)
          (window + pat.length - 1) =
        bmSearchLoop str str.length pat pat.length delta1 delta2 fuel
          ((window + shift : Nat) + pat.length - 1) := by
  rcases bmMatchLoop_spec hw pat.length (le_refl _) (fun i hle hi => by omega) with
    ⟨_, hoc⟩ | ⟨index, _, hm⟩
  · exact absurd hoc ho
  obtain ⟨c, value1, value2, shift, hc, hv1, hv2, hmax, hpos, hloop⟩ :=
    bmSearchLoop_shift hne hlen hw ht fuel hm
  refine ⟨shift, hpos, fun s hs hlt hocc => ?_, hloop⟩
  have h1 := badCharacter_skip hm hc hv1 hs hocc
  exact goodSuffix_skip hm hv2 hs (by omega) hocc

end Loop

section Search

variable {str pat : Bytes} {delta1 delta2 : List Int} (hne : 0 < pat.length)
  (hlen : str.length + pat.length ≤ 2 ^ 31) (ht : ShiftTables pat delta1 delta2)

include hne hlen

theorem bmSearchLoop_stop {window : Nat} (hw : str.length < window + pat.length) (fuel : Nat) :
    bmSearchLoop str str.length pat pat.length delta1 delta2 (fuel + 1)
      (window + pat.length - 1) = some none := by
  have hi : ¬(window : Int) + pat.length - 1 < toInt str.length := by
    rw [toInt_eq (by omega)]
    omega
  simp only [bmSearchLoop, hi, ite_false]

include ht

-- When no border of the pattern fits into the text beside it, the search
-- returns the first occurrence. The fuel bounds the number of windows.
theorem bmSearchLoop_first
    (hfit : Uniform pat ∨
      ∀ q, 0 < q → q < pat.length → Border pat q → str.length < pat.length + q)
    (fuel window : Nat) (hpos : 0 < fuel) (hfuel : str.length < window + fuel)
    (hb : NoneBefore pat str window) :
    bmSearchLoop str str.length pat pat.length delta1 delta2 fuel (window + pat.length - 1) =
      some (firstOccurrence pat str) := by
  have hnil : pat ≠ [] := List.ne_nil_of_length_pos hne
  induction fuel generalizing window with
  | zero => omega
  | succ fuel ih =>
      by_cases hw : window + pat.length ≤ str.length
      · by_cases ho : OccursAt pat str window
        · rw [bmSearchLoop_found hne hlen hw fuel ho,
            (firstOccurrence_eq_some hnil).mpr ⟨ho, hb⟩]
        · obtain ⟨shift, hshift, hskip, hloop⟩ := bmSearchLoop_move hne hlen hw ht fuel ho
          rw [hloop]
          refine ih (window + shift) (by omega) (by omega) (hb.shift ho fun s hs hlt hocc => ?_)
          obtain ⟨hborder, hlt', hu⟩ := hskip s hs hlt hocc
          have hle := hocc.le_length hnil
          exact absurd (hfit.resolve_left hu s hs hlt' hborder) (by omega)
      · rw [bmSearchLoop_stop hne hlen (by omega) fuel, eq_comm, Option.some.injEq,
          firstOccurrence_eq_none hnil]
        intro position ho
        have hle := ho.le_length hnil
        exact hb position (by omega) ho

-- The window never moves back.
theorem bmSearchLoop_ge (fuel window result : Nat)
    (h : bmSearchLoop str str.length pat pat.length delta1 delta2 fuel
      (window + pat.length - 1) = some (some result)) : window ≤ result := by
  induction fuel generalizing window with
  | zero => simp [bmSearchLoop] at h
  | succ fuel ih =>
      by_cases hw : window + pat.length ≤ str.length
      · by_cases ho : OccursAt pat str window
        · rw [bmSearchLoop_found hne hlen hw fuel ho] at h
          have he : window = result := by simpa using h
          exact le_of_eq he
        · obtain ⟨shift, hpos, _, hloop⟩ := bmSearchLoop_move hne hlen hw ht fuel ho
          have := ih (window + shift) (hloop ▸ h)
          omega
      · rw [bmSearchLoop_stop hne hlen (by omega) fuel] at h
        simp at h

end Search

theorem bmSearch_eq_loop {pat : Bytes} (hne : 0 < pat.length) (hn : pat.length < 2 ^ 31)
    (hnul : 0 ∉ pat) :
    ∃ delta1 delta2, ShiftTables pat delta1 delta2 ∧ ∀ str : Bytes,
      bmSearch str str.length pat pat.length =
        bmSearchLoop str str.length pat pat.length delta1 delta2 (str.length + 1)
          ((0 : Nat) + pat.length - 1) := by
  obtain ⟨delta1, h1, hbad⟩ := bmMakeDelta1_spec hn hne
  obtain ⟨delta2, h2, hgood⟩ := bmMakeDelta2_spec hn hne hnul
  refine ⟨delta1, delta2, ⟨hbad, hgood⟩, fun str => ?_⟩
  have hstart : toInt (sizeSub pat.length 1) = ((0 : Nat) : Int) + pat.length - 1 := by
    rw [sizeSub_eq (by omega) (by omega), toInt_eq (by omega)]
    omega
  have hpat : pat.length ≠ 0 := by omega
  rw [bmSearch, h1, h2, hstart, Option.bind_eq_bind, Option.bind_some, Option.bind_some,
    if_neg hpat]

-- A text whose first window differs from the pattern at the index 1 only, with
-- the pattern itself right behind it at the distance of its least border.
def overlapText (pat : Bytes) (least : Nat) (c : UInt8) (rest : Bytes) : Bytes :=
  (pat.take least).set 1 c ++ (pat ++ rest)

theorem overlapText_length (pat : Bytes) {least : Nat} (hl : least ≤ pat.length) (c : UInt8)
    (rest : Bytes) :
    (overlapText pat least c rest).length = least + (pat.length + rest.length) := by
  simp only [overlapText, List.length_append, List.length_set, List.length_take]
  omega

theorem overlapText_occursAt (pat : Bytes) {least : Nat} (hl : least ≤ pat.length) (c : UInt8)
    (rest : Bytes) : OccursAt pat (overlapText pat least c rest) least := by
  have hlen : ((pat.take least).set 1 c).length = least := by
    rw [List.length_set, List.length_take]
    omega
  unfold OccursAt overlapText
  rw [List.drop_append_of_le_length (by omega), List.drop_of_length_le (by omega), List.nil_append]
  exact List.prefix_append _ _

theorem overlapText_mismatch {pat : Bytes} {least : Nat} (hlt : least < pat.length)
    (hgt : 1 < least) (hb : Border pat least) {c : UInt8} (hc : pat[1]? ≠ some c) (rest : Bytes) :
    Mismatch pat (overlapText pat least c rest) 0 1 := by
  have hlen : ((pat.take least).set 1 c).length = least := by
    rw [List.length_set, List.length_take]
    omega
  refine ⟨by omega, ?_, fun i hi hn => ?_⟩
  · rw [overlapText, List.getElem?_append_left (by omega), Nat.zero_add,
      List.getElem?_set_self (by rw [List.length_take]; omega)]
    exact fun he => hc he.symm
  · rw [overlapText, Nat.zero_add]
    by_cases hil : i < least
    · rw [List.getElem?_append_left (by omega), List.getElem?_set_ne (by omega),
        List.getElem?_take_of_lt hil]
    · rw [List.getElem?_append_right (by omega), hlen,
        List.getElem?_append_left (by omega), (border_iff _ _).mp hb (i - least) (by omega)]
      congr 1
      omega

-- On the overlap text the search jumps past the occurrence.
theorem bmSearch_overlapText {pat : Bytes} (hnul : 0 ∉ pat) (hu : ¬Uniform pat) {q textLen : Nat}
    (hpos : 0 < q) (hq : q < pat.length) (hb : Border pat q) (hfit : pat.length + q ≤ textLen)
    (hlen : textLen + pat.length ≤ 2 ^ 31) :
    ∃ str : Bytes, str.length = textLen ∧
      bmSearch str str.length pat pat.length ≠ some (firstOccurrence pat str) := by
  obtain ⟨least, hgt, hle, hbl, hleast, hno⟩ := exists_least_border hu hpos hq hb
  obtain ⟨c, hc⟩ : ∃ c : UInt8, pat[1]? ≠ some c := by
    by_cases h0 : pat[1]? = some 0
    · exact ⟨1, by rw [h0]; decide⟩
    · exact ⟨0, h0⟩
  have hne : 0 < pat.length := by omega
  obtain ⟨delta1, delta2, ht, hloop⟩ := bmSearch_eq_loop hne (by omega) hnul
  let str := overlapText pat least c (List.replicate (textLen - pat.length - least) 0)
  have hstr : str.length = textLen := by
    rw [overlapText_length pat (by omega), List.length_replicate]
    omega
  have hm : Mismatch pat str 0 1 := overlapText_mismatch (by omega) hgt hbl hc _
  have hw : 0 + pat.length ≤ str.length := by omega
  obtain ⟨_, value1, value2, shift, _, _, hv, hmax, _, hstep⟩ :=
    bmSearchLoop_shift hne (by omega) hw ht str.length hm
  have hshift : least < shift := by
    rcases hv with ⟨s, hs, hr, _, _⟩ | ⟨_, lastPrefix, hlast, hv⟩
    · exact absurd hr (hno s hs)
    · rcases hlast with ⟨_, hnone⟩ | ⟨found, hf, _, hbf, hl, hfirst⟩
      · exact absurd hbl (hnone least (by omega) (by omega))
      · have hfl : found = least := by
          rcases Nat.lt_trichotomy found least with hlt | he | hgt'
          · exact absurd hbf (hleast found (by omega) hlt)
          · exact he
          · exact absurd hbl (hfirst least (by omega) hgt')
        omega
  refine ⟨str, hstr, fun he => ?_⟩
  have hnil : pat ≠ [] := List.ne_nil_of_length_pos hne
  obtain ⟨first, hfirst, hocc⟩ := firstOccurrence_le hnil
    (overlapText_occursAt pat (show least ≤ pat.length by omega) c
      (List.replicate (textLen - pat.length - least) 0))
  rw [hloop, hstep, show firstOccurrence pat str = some first from hocc] at he
  have := bmSearchLoop_ge hne (by omega) ht _ _ _ he
  omega

theorem bmSearch_eq_first {pat str : Bytes} (hne : pat ≠ []) (hnul : 0 ∉ pat)
    (hn : pat.length < 2 ^ 31) (hlen : str.length + pat.length ≤ 2 ^ 31)
    (hfit : Uniform pat ∨
      ∀ q, 0 < q → q < pat.length → Border pat q → str.length < pat.length + q) :
    bmSearch str str.length pat pat.length = some (firstOccurrence pat str) := by
  have hpos := List.length_pos_of_ne_nil hne
  obtain ⟨delta1, delta2, ht, hloop⟩ := bmSearch_eq_loop hpos hn hnul
  rw [hloop]
  exact bmSearchLoop_first hpos hlen ht hfit _ 0 (by omega) (by omega) (NoneBefore.zero pat str)

-- The search agrees with the naive scan on every text of a length exactly when
-- the pattern is uniform or no such text has room for two overlapping copies.
theorem bmSearch_correct_iff (pat : Bytes) (textLen : Nat) (hne : pat ≠ []) (hnul : 0 ∉ pat)
    (hn : pat.length < 2 ^ 31) (hlen : textLen + pat.length ≤ 2 ^ 31) :
    (∀ str : Bytes, str.length = textLen →
      bmSearch str str.length pat pat.length = some (firstOccurrence pat str)) ↔
    Uniform pat ∨ ∀ q, 0 < q → q < pat.length → Border pat q → textLen < pat.length + q := by
  constructor
  · intro h
    by_cases hu : Uniform pat
    · exact .inl hu
    · refine .inr fun q hpos hq hb => ?_
      by_contra hfit
      obtain ⟨str, hstr, hbad⟩ := bmSearch_overlapText hnul hu hpos hq hb (by omega) hlen
      exact hbad (h str hstr)
  · rintro hfit str rfl
    exact bmSearch_eq_first hne hnul hn hlen hfit

-- "abcab" overlaps itself at 3, and eight bytes have room for the overlap.
theorem bmSearch_correct_iff_abcab :
    (∀ str : Bytes, str.length = 7 →
      bmSearch str str.length [97, 98, 99, 97, 98] 5 =
        some (firstOccurrence [97, 98, 99, 97, 98] str)) ↔
    Uniform [(97 : UInt8), 98, 99, 97, 98] ∨ ∀ q, 0 < q → q < 5 →
      Border [(97 : UInt8), 98, 99, 97, 98] q → 7 < 5 + q :=
  bmSearch_correct_iff [97, 98, 99, 97, 98] 7 (by decide) (by decide) (by decide) (by decide)

-- The text "abXabcab" holds the pattern "abcab" at 3, and the search returns NULL.
theorem bmSearch_misses_abcab :
    ¬∀ pat str : Bytes, pat ≠ [] → 0 ∉ pat → pat.length < 2 ^ 31 →
      str.length + pat.length ≤ 2 ^ 31 →
      bmSearch str str.length pat pat.length = some (firstOccurrence pat str) := by
  intro h
  have hmiss := h [97, 98, 99, 97, 98] [97, 98, 88, 97, 98, 99, 97, 98]
    (by decide) (by decide) (by decide) (by decide)
  revert hmiss
  decide +kernel

end Raphael.Recovery
