import Raphael.Recovery.BoyerMoore.Delta1

namespace Raphael.Recovery

-- The last index of an empty pattern is not before the first one in size_t.
theorem bmMakeDelta1_empty : bmMakeDelta1 [] 0 = none := rfl

-- The counter wraps before it can reach the last index.
theorem bmMakeDelta1Loop_endless {pat : Bytes} (hn : 2 ^ 32 < pat.length)
    (hsize : pat.length < 2 ^ 64) (fuel i : Nat) (delta1 : List Int) (hi : i < 2 ^ 32) :
    bmMakeDelta1Loop pat pat.length fuel i delta1 = none := by
  induction fuel generalizing i delta1 with
  | zero => rfl
  | succ fuel ih =>
      have hl : sizeSub pat.length 1 = pat.length - 1 := sizeSub_eq (by omega) hsize
      simp only [bmMakeDelta1Loop, hl, show i < pat.length - 1 by omega, ite_true]
      simp only [Option.bind_eq_bind, Option.bind_eq_none_iff]
      intro idx _ stored _ next hnext
      unfold uint32Add at hnext
      split at hnext
      · rename_i hlt
        exact ih next stored (Option.some.inj hnext ▸ hlt)
      · cases hnext

-- The entries that do not fit an int are those of bytes that do not occur near
-- the end of a long pattern.
def FitsInt (pat : Bytes) : Prop :=
  pat.length < 2 ^ 31 ∨
    ∀ c : UInt8, ∃ i, i < pat.length - 1 ∧ pat[i]? = some c ∧ pat.length - 1 - i < 2 ^ 31

theorem FitsInt.lt {pat : Bytes} {c : UInt8} {value : Nat} (h : FitsInt pat)
    (hbad : IsBadCharacter pat (pat.length - 1) c value) : value < 2 ^ 31 := by
  rcases h with hshort | hoccurs
  · exact Nat.lt_of_le_of_lt hbad.le hshort
  · obtain ⟨i, hi, hc, hdistance⟩ := hoccurs c
    exact Nat.lt_of_le_of_lt (hbad.le_of_mem hi hc) hdistance

theorem fitsInt_of_table {pat : Bytes} {delta1 : List Int}
    (hstored : StoredTable pat (pat.length - 1) delta1)
    (htable : BadCharacterTable pat (pat.length - 1) delta1) : FitsInt pat := by
  by_cases hshort : pat.length < 2 ^ 31
  · exact .inl hshort
  · refine .inr fun c => ?_
    obtain ⟨value, hv, hbad⟩ := htable.2 c
    obtain ⟨other, hother, hbad'⟩ := hstored.2 c
    obtain rfl := hbad.unique hbad'
    have hint : (value : Int) = toInt value := Option.some.inj (hv.symm.trans hother)
    have hlt := toInt_lt value
    rcases hbad with ⟨hlength, -⟩ | ⟨last, hl, hm, hdistance, -⟩
    · omega
    · exact ⟨last, hl, hm, by omega⟩

-- The table is right for every pattern but the empty one and those whose
-- distances are too large for their types.
theorem bmMakeDelta1_table_iff (pat : Bytes) (hsize : pat.length < 2 ^ 64) :
    (∃ delta1, bmMakeDelta1 pat pat.length = some delta1 ∧
      BadCharacterTable pat (pat.length - 1) delta1) ↔
        0 < pat.length ∧ pat.length ≤ 2 ^ 32 ∧ FitsInt pat := by
  constructor
  · rintro ⟨delta1, hrun, htable⟩
    have hpos : 0 < pat.length := by
      refine Nat.pos_of_ne_zero fun hzero => ?_
      obtain rfl := List.length_eq_zero_iff.mp hzero
      cases bmMakeDelta1_empty.symm.trans hrun
    have hle : pat.length ≤ 2 ^ 32 := by
      refine Nat.le_of_not_lt fun hlong => ?_
      cases (bmMakeDelta1Loop_endless hlong hsize _ _ _ (by omega)).symm.trans hrun
    obtain ⟨stored, hrun', hstored⟩ := bmMakeDelta1_stored hle hpos
    obtain rfl := Option.some.inj (hrun'.symm.trans hrun)
    exact ⟨hpos, hle, fitsInt_of_table hstored htable⟩
  · rintro ⟨hpos, hle, hfits⟩
    obtain ⟨delta1, hrun, hstored⟩ := bmMakeDelta1_stored hle hpos
    exact ⟨delta1, hrun, hstored.fits fun _ _ => hfits.lt⟩

-- The first byte occurs again before the last index.
theorem bmMakeDelta1_table_abac :
    ∃ delta1, bmMakeDelta1 [97, 98, 97, 99] 4 = some delta1 ∧
      BadCharacterTable [97, 98, 97, 99] 3 delta1 :=
  (bmMakeDelta1_table_iff [97, 98, 97, 99] (by decide)).mpr
    ⟨by decide, by decide, .inl (by decide)⟩

theorem bmMakeDelta1_table_false :
    ¬∀ pat : Bytes, pat.length < 2 ^ 64 →
      ∃ delta1, bmMakeDelta1 pat pat.length = some delta1 ∧
        BadCharacterTable pat (pat.length - 1) delta1 := by
  intro h
  obtain ⟨delta1, hrun, -⟩ := h [] (by decide)
  cases hrun

end Raphael.Recovery
