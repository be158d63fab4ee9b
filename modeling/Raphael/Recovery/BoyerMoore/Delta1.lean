import Raphael.Recovery.BoyerMoore
import Raphael.Recovery.CLib.Theorems

namespace Raphael.Recovery

-- The distance from the last index to the rightmost occurrence of `c` among
-- the first `bound` symbols, or the length when it is not there.
def IsBadCharacter (pat : Bytes) (bound : Nat) (c : UInt8) (value : Nat) : Prop :=
  (value = pat.length ∧ ∀ i, i < bound → pat[i]? ≠ some c) ∨
    ∃ last, last < bound ∧ pat[last]? = some c ∧ value = pat.length - 1 - last ∧
      ∀ i, i < bound → pat[i]? = some c → i ≤ last

theorem IsBadCharacter.zero (pat : Bytes) (c : UInt8) :
    IsBadCharacter pat 0 c pat.length :=
  .inl ⟨rfl, fun i hi => absurd hi (Nat.not_lt_zero i)⟩

theorem IsBadCharacter.hit {pat : Bytes} {bound : Nat} {c : UInt8} (hc : pat[bound]? = some c) :
    IsBadCharacter pat (bound + 1) c (pat.length - 1 - bound) :=
  .inr ⟨bound, by omega, hc, rfl, fun i hi _ => by omega⟩

theorem IsBadCharacter.miss {pat : Bytes} {bound : Nat} {c : UInt8} {value : Nat}
    (hc : pat[bound]? ≠ some c) (h : IsBadCharacter pat bound c value) :
    IsBadCharacter pat (bound + 1) c value := by
  rcases h with ⟨hv, hn⟩ | ⟨last, hl, hm, hv, hlast⟩
  · refine .inl ⟨hv, fun i hi => ?_⟩
    rcases Nat.lt_succ_iff_lt_or_eq.mp hi with hlt | rfl
    · exact hn i hlt
    · exact hc
  · refine .inr ⟨last, by omega, hm, hv, fun i hi he => ?_⟩
    rcases Nat.lt_succ_iff_lt_or_eq.mp hi with hlt | rfl
    · exact hlast i hlt he
    · exact absurd he hc

theorem IsBadCharacter.le {pat : Bytes} {bound : Nat} {c : UInt8} {value : Nat}
    (h : IsBadCharacter pat bound c value) : value ≤ pat.length := by
  rcases h with ⟨hv, _⟩ | ⟨_, _, _, hv, _⟩ <;> omega

-- No occurrence of the character lies between its table entry and the end.
theorem IsBadCharacter.le_of_mem {pat : Bytes} {bound : Nat} {c : UInt8} {value i : Nat}
    (h : IsBadCharacter pat bound c value) (hi : i < bound) (hc : pat[i]? = some c) :
    value ≤ pat.length - 1 - i := by
  rcases h with ⟨_, hn⟩ | ⟨last, _, _, hv, hlast⟩
  · exact absurd hc (hn i hi)
  · have := hlast i hi hc
    omega

theorem IsBadCharacter.unique {pat : Bytes} {bound : Nat} {c : UInt8} {value other : Nat}
    (h : IsBadCharacter pat bound c value) (h' : IsBadCharacter pat bound c other) :
    value = other := by
  rcases h with ⟨hv, hn⟩ | ⟨last, hl, hm, hv, hlast⟩
  · rcases h' with ⟨hv', _⟩ | ⟨last', hl', hm', _, _⟩
    · exact hv.trans hv'.symm
    · exact absurd hm' (hn last' hl')
  · rcases h' with ⟨_, hn'⟩ | ⟨last', hl', hm', hv', hlast'⟩
    · exact absurd hm (hn' last hl)
    · have := hlast last' hl' hm'
      have := hlast' last hl hm
      omega

def BadCharacterTable (pat : Bytes) (bound : Nat) (delta1 : List Int) : Prop :=
  delta1.length = ALPHABET_LEN ∧
    ∀ c : UInt8, ∃ value : Nat, delta1[c.toNat]? = some (value : Int) ∧
      IsBadCharacter pat bound c value

-- The table as it is stored: the distances are converted to int.
def StoredTable (pat : Bytes) (bound : Nat) (delta1 : List Int) : Prop :=
  delta1.length = ALPHABET_LEN ∧
    ∀ c : UInt8, ∃ value : Nat, delta1[c.toNat]? = some (toInt value) ∧
      IsBadCharacter pat bound c value

theorem StoredTable.start (pat : Bytes) :
    StoredTable pat 0 (List.replicate ALPHABET_LEN (toInt pat.length)) := by
  refine ⟨List.length_replicate, fun c => ⟨pat.length, ?_, IsBadCharacter.zero pat c⟩⟩
  rw [List.getElem?_replicate_of_lt (by exact c.toNat_lt)]

theorem StoredTable.store {pat : Bytes} {bound : Nat} {delta1 : List Int} {idx : UInt8}
    (h : StoredTable pat bound delta1) (hi : pat[bound]? = some idx) :
    StoredTable pat (bound + 1)
      (delta1.set idx.toNat (toInt (pat.length - 1 - bound))) := by
  refine ⟨by rw [List.length_set]; exact h.1, fun c => ?_⟩
  by_cases hc : idx = c
  · subst c
    have hl : idx.toNat < delta1.length := by rw [h.1]; exact idx.toNat_lt
    exact ⟨_, List.getElem?_set_self hl, IsBadCharacter.hit hi⟩
  · obtain ⟨value, hv, hb⟩ := h.2 c
    have hne : idx.toNat ≠ c.toNat := fun he => hc (UInt8.toNat.inj he)
    refine ⟨value, by rw [List.getElem?_set_ne hne, hv], hb.miss ?_⟩
    rw [hi]
    exact fun he => hc (Option.some.inj he)

-- The conversion keeps the distances that fit an int.
theorem StoredTable.fits {pat : Bytes} {bound : Nat} {delta1 : List Int}
    (h : StoredTable pat bound delta1)
    (hfits : ∀ c value, IsBadCharacter pat bound c value → value < 2 ^ 31) :
    BadCharacterTable pat bound delta1 := by
  refine ⟨h.1, fun c => ?_⟩
  obtain ⟨value, hv, hbad⟩ := h.2 c
  exact ⟨value, by rw [hv, toInt_eq (hfits c value hbad)], hbad⟩

-- The counter reaches the end of the pattern before it wraps.
theorem bmMakeDelta1Loop_stored {pat : Bytes} (hn : pat.length ≤ 2 ^ 32) (hne : 0 < pat.length)
    (fuel i : Nat) (delta1 : List Int) (hi : i ≤ pat.length - 1) (hfuel : pat.length ≤ i + fuel)
    (htable : StoredTable pat i delta1) :
    ∃ result, bmMakeDelta1Loop pat pat.length fuel i delta1 = some result ∧
      StoredTable pat (pat.length - 1) result := by
  induction fuel generalizing i delta1 with
  | zero => omega
  | succ fuel ih =>
      have hl : sizeSub pat.length 1 = pat.length - 1 := sizeSub_eq hne (by omega)
      simp only [bmMakeDelta1Loop, hl]
      split
      · rename_i hlt
        have hidx := List.getElem?_eq_getElem (show i < pat.length by omega)
        have hr : sizeSub (pat.length - 1) i = pat.length - 1 - i := sizeSub_eq hi (by omega)
        have hs : pat[i].toNat < delta1.length := by rw [htable.1]; exact pat[i].toNat_lt
        simp only [hidx, hr, Option.bind_eq_bind, Option.bind_some, store_eq hs,
          uint32Add_eq (show i + 1 < 2 ^ 32 by omega)]
        exact ih (i + 1) _ (by omega) (by omega) (htable.store hidx)
      · rename_i hge
        have he : i = pat.length - 1 := by omega
        exact ⟨delta1, rfl, he ▸ htable⟩

theorem bmMakeDelta1_stored {pat : Bytes} (hn : pat.length ≤ 2 ^ 32) (hne : 0 < pat.length) :
    ∃ delta1, bmMakeDelta1 pat pat.length = some delta1 ∧
      StoredTable pat (pat.length - 1) delta1 :=
  bmMakeDelta1Loop_stored hn hne _ _ _ (by omega) (by omega) (.start pat)

-- Distances within a short pattern are not changed by the conversion.
theorem bmMakeDelta1_spec {pat : Bytes} (hn : pat.length < 2 ^ 31) (hne : 0 < pat.length) :
    ∃ delta1, bmMakeDelta1 pat pat.length = some delta1 ∧
      BadCharacterTable pat (pat.length - 1) delta1 := by
  obtain ⟨delta1, hrun, hstored⟩ := bmMakeDelta1_stored (by omega) hne
  exact ⟨delta1, hrun, hstored.fits fun _ _ hbad => Nat.lt_of_le_of_lt hbad.le hn⟩

end Raphael.Recovery
