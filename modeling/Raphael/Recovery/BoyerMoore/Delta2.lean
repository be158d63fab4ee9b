import Raphael.Recovery.BoyerMoore
import Raphael.Recovery.CLib.Theorems
import Raphael.Search.Theorems

namespace Raphael.Recovery

open Raphael.Search

-- What the first loop of bm_make_delta2 records for the index p: one more than
-- the start of the longest border at or after p, or the last index.
def IsLastPrefix (pat : Bytes) (p value : Nat) : Prop :=
  (value = pat.length - 1 ∧ ∀ q, p ≤ q → q < pat.length → ¬Border pat q) ∨
    ∃ q, p ≤ q ∧ q < pat.length ∧ Border pat q ∧ value = q + 1 ∧
      ∀ earlier, p ≤ earlier → earlier < q → ¬Border pat earlier

theorem IsLastPrefix.hit {pat : Bytes} {p : Nat} (hp : p < pat.length) (hb : Border pat p) :
    IsLastPrefix pat p (p + 1) :=
  .inr ⟨p, by omega, hp, hb, rfl, fun _ _ _ => by omega⟩

theorem IsLastPrefix.miss {pat : Bytes} {p value : Nat} (hb : ¬Border pat p)
    (h : IsLastPrefix pat (p + 1) value) : IsLastPrefix pat p value := by
  have hcases : ∀ q, p ≤ q → (p + 1 ≤ q ∨ q = p) := fun q _ => by omega
  rcases h with ⟨hv, hn⟩ | ⟨q, hpq, hq, hbq, hv, hleast⟩
  · refine .inl ⟨hv, fun q hpq hq => ?_⟩
    rcases hcases q hpq with hlt | rfl
    · exact hn q hlt hq
    · exact hb
  · refine .inr ⟨q, by omega, hq, hbq, hv, fun earlier hpe he => ?_⟩
    rcases hcases earlier hpe with hlt | rfl
    · exact hleast earlier hlt he
    · exact hb

theorem IsLastPrefix.pos {pat : Bytes} {p value : Nat} (hp : p < pat.length)
    (h : IsLastPrefix pat p value) : 0 < value := by
  rcases h with ⟨hv, hn⟩ | ⟨q, _, _, _, hv, _⟩
  · have hp0 : p ≠ 0 := fun h0 => hn 0 (by omega) (by omega) (border_zero pat)
    omega
  · omega

theorem IsLastPrefix.le {pat : Bytes} {p value : Nat} (h : IsLastPrefix pat p value) :
    value ≤ pat.length := by
  rcases h with ⟨hv, _⟩ | ⟨q, _, hq, _, hv, _⟩ <;> omega

def PrefixTable (pat : Bytes) (lo : Nat) (delta2 : List Int) : Prop :=
  delta2.length = pat.length ∧
    ∀ p, lo ≤ p → p < pat.length → ∃ lastPrefix, IsLastPrefix pat p lastPrefix ∧
      delta2[p]? = some (toInt (lastPrefix + (pat.length - 1 - p)))

theorem strncmp_suffix {pat : Bytes} (hnul : 0 ∉ pat) {p : Nat} (hp : p < pat.length) :
    ∃ order, strncmp (pat.drop p) pat (pat.length - p) = some order ∧
      (order = 0 ↔ Border pat p) := by
  have htake : (pat.drop p).take (pat.length - p) = pat.drop p :=
    List.take_of_length_le (by simp)
  obtain ⟨order, he, hiff⟩ := strncmp_spec (pat.drop p) pat (pat.length - p) (by simp)
    (fun hm => hnul (List.mem_of_mem_drop (htake ▸ hm))) (.inl (by omega))
  exact ⟨order, he, by rw [hiff, htake]; rfl⟩

def nextPrefix (order : Int) (p lastPrefix : Nat) : Nat := if order = 0 then p + 1 else lastPrefix

theorem nextPrefix_le {pat : Bytes} (order : Int) {p lastPrefix : Nat} (hp : p < pat.length)
    (hlast : lastPrefix ≤ pat.length) : nextPrefix order p lastPrefix ≤ pat.length := by
  unfold nextPrefix
  split <;> omega

theorem bmMakeDelta2Prefixes_turn {pat : Bytes} (hn : pat.length < 2 ^ 31) {p lastPrefix : Nat}
    {delta2 : List Int} (hp : p < pat.length) (hlast : lastPrefix ≤ pat.length)
    (hlen : delta2.length = pat.length) {order : Int}
    (horder : strncmp (pat.drop p) pat (pat.length - p) = some order) :
    bmMakeDelta2Prefixes pat pat.length (p + 1) lastPrefix delta2 =
      bmMakeDelta2Prefixes pat pat.length p (nextPrefix order p lastPrefix)
        (delta2.set p (toInt (nextPrefix order p lastPrefix + (pat.length - 1 - p)))) := by
  have hle := nextPrefix_le order hp hlast
  have hsub : sizeSub (sizeSub pat.length 1) p = pat.length - 1 - p := by
    rw [sizeSub_eq (a := pat.length) (by omega) (by omega), sizeSub_eq (by omega) (by omega)]
  have hinc : intAdd p 1 = some ((p + 1 : Nat) : Int) := intAdd_eq (by omega) (by omega)
  have hadd := sizeAdd_eq
    (show nextPrefix order p lastPrefix + (pat.length - 1 - p) < 2 ^ 64 by omega)
  simp only [bmMakeDelta2Prefixes, sizeSub_eq (show p ≤ pat.length by omega) (by omega), horder,
    hinc, Option.map_some, Int.toNat_natCast, Option.bind_eq_bind, Option.bind_some, hsub,
    store_eq (hlen.symm ▸ hp), ← hadd]
  unfold nextPrefix
  split <;> rfl

theorem bmMakeDelta2Prefixes_spec {pat : Bytes} (hn : pat.length < 2 ^ 31) (hnul : 0 ∉ pat)
    (p lastPrefix : Nat) (delta2 : List Int) (hp : p ≤ pat.length)
    (hlast : IsLastPrefix pat p lastPrefix) (htable : PrefixTable pat p delta2) :
    ∃ result, bmMakeDelta2Prefixes pat pat.length p lastPrefix delta2 = some result ∧
      PrefixTable pat 0 result := by
  induction p generalizing lastPrefix delta2 with
  | zero => exact ⟨delta2, rfl, htable⟩
  | succ p ih =>
      obtain ⟨order, horder, hborder⟩ := strncmp_suffix hnul (show p < pat.length by omega)
      have hnext : IsLastPrefix pat p (nextPrefix order p lastPrefix) := by
        unfold nextPrefix
        split
        · rename_i h0
          exact .hit (by omega) (hborder.mp h0)
        · rename_i h0
          exact hlast.miss fun hb => h0 (hborder.mpr hb)
      have hpl : p < delta2.length := by rw [htable.1]; omega
      rw [bmMakeDelta2Prefixes_turn hn (by omega) hlast.le htable.1 horder]
      refine ih _ _ (by omega) hnext ⟨by rw [List.length_set]; exact htable.1, fun q hpq hq => ?_⟩
      by_cases heq : q = p
      · subst q
        exact ⟨_, hnext, List.getElem?_set_self hpl⟩
      · obtain ⟨value, hv, hget⟩ := htable.2 q (by omega) hq
        exact ⟨value, hv, by rw [List.getElem?_set_ne (Ne.symm heq), hget]⟩

section SuffixLength

variable {pat : Bytes} {p : Nat} (hn : pat.length < 2 ^ 31) (hp : p < pat.length)

include hn hp

theorem maxSuffixLenLoop_spec (fuel i : Nat) (hi : i ≤ p) (hfuel : p + 1 ≤ i + fuel)
    (heq : ∀ k, k < i → pat[p - k]? = pat[pat.length - 1 - k]?) :
    ∃ sufLen, maxSuffixLenLoop pat pat.length p fuel i = some sufLen ∧ sufLen ≤ p ∧
      (∀ k, k < sufLen → pat[p - k]? = pat[pat.length - 1 - k]?) ∧
      (sufLen = p ∨ pat[p - sufLen]? ≠ pat[pat.length - 1 - sufLen]?) := by
  induction fuel generalizing i with
  | zero => omega
  | succ fuel ih =>
      have hl : sizeSub p i = p - i := sizeSub_eq hi (by omega)
      have hr : sizeSub (sizeSub pat.length 1) i = pat.length - 1 - i := by
        rw [sizeSub_eq (a := pat.length) (by omega) (by omega), sizeSub_eq (by omega) (by omega)]
      have hleft := List.getElem?_eq_getElem (show p - i < pat.length by omega)
      have hright := List.getElem?_eq_getElem (show pat.length - 1 - i < pat.length by omega)
      simp only [maxSuffixLenLoop, hl, hr, hleft, hright, Option.bind_eq_bind, Option.bind_some]
      split
      · rename_i hc
        rw [uint32Add_eq (by omega), Option.bind_some]
        refine ih (i + 1) hc.2 (by omega) fun k hk => ?_
        rcases Nat.lt_succ_iff_lt_or_eq.mp hk with hlt | rfl
        · exact heq k hlt
        · rw [hleft, hright, hc.1]
      · rename_i hc
        refine ⟨i, rfl, hi, heq, ?_⟩
        rw [hleft, hright]
        by_cases hip : i = p
        · exact .inl hip
        · exact .inr fun h => hc ⟨Option.some.inj h, by omega⟩

theorem maxSuffixLen_spec :
    ∃ sufLen, maxSuffixLen pat pat.length p = some sufLen ∧ sufLen ≤ p ∧
      (∀ k, k < sufLen → pat[p - k]? = pat[pat.length - 1 - k]?) ∧
      (sufLen = p ∨ pat[p - sufLen]? ≠ pat[pat.length - 1 - sufLen]?) :=
  maxSuffixLenLoop_spec hn hp (p + 1) 0 (by omega) (by omega) (fun k hk => absurd hk (by omega))

end SuffixLength

-- What the second loop leaves for the index j once it has tried the shifts from
-- `lo` on: the least of them under which the matched suffix reoccurs, and the
-- entry of the first loop when there is none.
def IsGoodSuffix (pat : Bytes) (lo j value : Nat) : Prop :=
  (∃ shift, lo ≤ shift ∧ Reoccurs pat j shift ∧ value = shift + (pat.length - 1 - j) ∧
      ∀ earlier, lo ≤ earlier → earlier < shift → ¬Reoccurs pat j earlier) ∨
    ((∀ shift, lo ≤ shift → ¬Reoccurs pat j shift) ∧
      ∃ lastPrefix, IsLastPrefix pat j lastPrefix ∧
        value = lastPrefix + (pat.length - 1 - j))

theorem IsGoodSuffix.hit {pat : Bytes} {lo j : Nat} (h : Reoccurs pat j lo) :
    IsGoodSuffix pat lo j (lo + (pat.length - 1 - j)) :=
  .inl ⟨lo, le_refl lo, h, rfl, fun _ _ _ => by omega⟩

theorem IsGoodSuffix.miss {pat : Bytes} {lo j value : Nat} (hr : ¬Reoccurs pat j lo)
    (h : IsGoodSuffix pat (lo + 1) j value) : IsGoodSuffix pat lo j value := by
  have hcases : ∀ shift, lo ≤ shift → (lo + 1 ≤ shift ∨ shift = lo) := fun shift _ => by omega
  rcases h with ⟨shift, hlo, hs, hv, hleast⟩ | ⟨hnone, hlast⟩
  · refine .inl ⟨shift, by omega, hs, hv, fun earlier hle hlt => ?_⟩
    rcases hcases earlier hle with hgt | rfl
    · exact hleast earlier hgt hlt
    · exact hr
  · refine .inr ⟨fun shift hle => ?_, hlast⟩
    rcases hcases shift hle with hgt | rfl
    · exact hnone shift hgt
    · exact hr

theorem IsGoodSuffix.pos {pat : Bytes} {j value : Nat} (hj : j < pat.length)
    (h : IsGoodSuffix pat 1 j value) : pat.length - 1 - j < value := by
  rcases h with ⟨shift, hs, _, hv, _⟩ | ⟨_, lastPrefix, hl, hv⟩
  · omega
  · have := hl.pos hj
    omega

theorem IsGoodSuffix.le {pat : Bytes} {lo j value : Nat} (hj : j < pat.length)
    (h : IsGoodSuffix pat lo j value) : value ≤ pat.length + (pat.length - 1 - j) := by
  rcases h with ⟨shift, _, hr, hv, _⟩ | ⟨_, lastPrefix, hl, hv⟩
  · have := hr.1
    omega
  · have := hl.le
    omega

-- At p the loop tries the shift pat_len - 1 - p. The suffix that ends there
-- reoccurs for one index only, the one that max_suffix_len finds.
theorem reoccurs_iff_sufLen {pat : Bytes} {p sufLen j : Nat} (hp : p + 1 < pat.length)
    (hj : j < pat.length) (hle : sufLen ≤ p)
    (heq : ∀ k, k < sufLen → pat[p - k]? = pat[pat.length - 1 - k]?)
    (hstop : sufLen = p ∨ pat[p - sufLen]? ≠ pat[pat.length - 1 - sufLen]?) :
    Reoccurs pat j (pat.length - 1 - p) ↔
      j = pat.length - 1 - sufLen ∧ pat[p - sufLen]? ≠ pat[pat.length - 1 - sufLen]? := by
  constructor
  · rintro ⟨hs, hne, hall⟩
    have hmatch : ∀ k, k < pat.length - 1 - j → pat[p - k]? = pat[pat.length - 1 - k]? := by
      intro k hk
      have h := hall (pat.length - 1 - k) (by omega) (by omega)
      rwa [show pat.length - 1 - k - (pat.length - 1 - p) = p - k by omega] at h
    have hend : pat[p - (pat.length - 1 - j)]? ≠ pat[pat.length - 1 - (pat.length - 1 - j)]? := by
      rwa [show p - (pat.length - 1 - j) = j - (pat.length - 1 - p) by omega,
        show pat.length - 1 - (pat.length - 1 - j) = j by omega]
    have hsuf : sufLen = pat.length - 1 - j := by
      rcases Nat.lt_trichotomy sufLen (pat.length - 1 - j) with hlt | he | hgt
      · rcases hstop with hp' | hd
        · omega
        · exact absurd (hmatch sufLen hlt) hd
      · exact he
      · exact absurd (heq _ hgt) hend
    exact ⟨by omega, hsuf ▸ hend⟩
  · rintro ⟨rfl, hd⟩
    refine ⟨by omega, ?_, fun i hlt hi => ?_⟩
    · rwa [show pat.length - 1 - sufLen - (pat.length - 1 - p) = p - sufLen by omega]
    · have h := heq (pat.length - 1 - i) (by omega)
      rwa [show pat.length - 1 - (pat.length - 1 - i) = i by omega,
        show p - (pat.length - 1 - i) = i - (pat.length - 1 - p) by omega] at h

def SuffixTable (pat : Bytes) (lo : Nat) (delta2 : List Int) : Prop :=
  delta2.length = pat.length ∧
    ∀ j, j < pat.length → ∃ value, IsGoodSuffix pat lo j value ∧ delta2[j]? = some (toInt value)

theorem SuffixTable.of_prefixTable {pat : Bytes} {delta2 : List Int}
    (h : PrefixTable pat 0 delta2) : SuffixTable pat pat.length delta2 := by
  refine ⟨h.1, fun j hj => ?_⟩
  obtain ⟨lastPrefix, hl, hget⟩ := h.2 j (by omega) hj
  exact ⟨_, .inr ⟨fun shift hle hr => by have := hr.1; omega, lastPrefix, hl, rfl⟩, hget⟩

theorem bmMakeDelta2Suffixes_turn {pat : Bytes} (hn : pat.length < 2 ^ 31) {p sufLen : Nat}
    {delta2 : List Int} (hp : p + 1 < pat.length) (hlen : delta2.length = pat.length)
    (hsuf : maxSuffixLen pat pat.length p = some sufLen) (hle : sufLen ≤ p) (fuel : Nat) :
    bmMakeDelta2Suffixes pat pat.length (fuel + 1) p delta2 =
      bmMakeDelta2Suffixes pat pat.length fuel (p + 1)
        (if pat[p - sufLen]? ≠ pat[pat.length - 1 - sufLen]? then
          delta2.set (pat.length - 1 - sufLen) (toInt (pat.length - 1 - p + sufLen))
        else delta2) := by
  have hone : sizeSub pat.length 1 = pat.length - 1 := sizeSub_eq (by omega) (by omega)
  have hidx : sizeSub (pat.length - 1) sufLen = pat.length - 1 - sufLen :=
    sizeSub_eq (by omega) (by omega)
  have hdist : sizeAdd (sizeSub (pat.length - 1) p) sufLen = pat.length - 1 - p + sufLen := by
    rw [sizeSub_eq (by omega) (by omega), sizeAdd_eq (by omega)]
  have hlast : intAdd (toInt pat.length) (-1) = some ((pat.length : Int) - 1) := by
    rw [toInt_eq hn]
    exact intAdd_eq (by omega) (by omega)
  have hcond : (p : Int) < (pat.length : Int) - 1 := by omega
  have hstart : intAdd p (-sufLen) = some ((p - sufLen : Nat) : Int) := by
    rw [intAdd_eq (by omega) (by omega), show (p : Int) + -sufLen = (p - sufLen : Nat) by omega]
  have hleft := List.getElem?_eq_getElem (show p - sufLen < pat.length by omega)
  have hright := List.getElem?_eq_getElem (show pat.length - 1 - sufLen < pat.length by omega)
  have hset : pat.length - 1 - sufLen < delta2.length := by omega
  simp only [bmMakeDelta2Suffixes, hlast, hcond, ite_true, hsuf, hone, hstart, readAt_natCast, hidx,
    hdist, hleft, hright, Option.bind_eq_bind, Option.bind_some, store_eq hset, ne_eq,
    Option.some.injEq]
  split <;> rfl

theorem bmMakeDelta2Suffixes_end {pat : Bytes} (hn : pat.length < 2 ^ 31) {p : Nat}
    (hp : p + 1 = pat.length) (fuel : Nat) (delta2 : List Int) :
    bmMakeDelta2Suffixes pat pat.length (fuel + 1) p delta2 = some delta2 := by
  have hlast : intAdd (toInt pat.length) (-1) = some (p : Int) := by
    rw [toInt_eq hn, intAdd_eq (by omega) (by omega), show (pat.length : Int) + -1 = p by omega]
  simp only [bmMakeDelta2Suffixes, hlast, Option.bind_eq_bind, Option.bind_some, Int.lt_irrefl,
    ite_false]

theorem SuffixTable.step {pat : Bytes} {p sufLen : Nat} {delta2 : List Int}
    (hp : p + 1 < pat.length) (hle : sufLen ≤ p)
    (heq : ∀ k, k < sufLen → pat[p - k]? = pat[pat.length - 1 - k]?)
    (hstop : sufLen = p ∨ pat[p - sufLen]? ≠ pat[pat.length - 1 - sufLen]?)
    (htable : SuffixTable pat (pat.length - p) delta2) :
    SuffixTable pat (pat.length - (p + 1))
      (if pat[p - sufLen]? ≠ pat[pat.length - 1 - sufLen]? then
        delta2.set (pat.length - 1 - sufLen) (toInt (pat.length - 1 - p + sufLen))
      else delta2) := by
  have hiff := fun j (hj : j < pat.length) => reoccurs_iff_sufLen hp hj hle heq hstop
  rw [show pat.length - p = pat.length - (p + 1) + 1 by omega] at htable
  rw [show pat.length - 1 - p = pat.length - (p + 1) by omega] at hiff ⊢
  split
  · rename_i hd
    have hset : pat.length - 1 - sufLen < delta2.length := by rw [htable.1]; omega
    refine ⟨by rw [List.length_set]; exact htable.1, fun j hj => ?_⟩
    by_cases hj0 : j = pat.length - 1 - sufLen
    · refine ⟨_, .hit ((hiff j hj).mpr ⟨hj0, hd⟩), ?_⟩
      rw [hj0, List.getElem?_set_self hset, show pat.length - (p + 1) + sufLen =
        pat.length - (p + 1) + (pat.length - 1 - (pat.length - 1 - sufLen)) by omega]
    · obtain ⟨value, hv, hget⟩ := htable.2 j hj
      refine ⟨value, hv.miss fun hr => hj0 ((hiff j hj).mp hr).1, ?_⟩
      rw [List.getElem?_set_ne (Ne.symm hj0), hget]
  · rename_i hd
    refine ⟨htable.1, fun j hj => ?_⟩
    obtain ⟨value, hv, hget⟩ := htable.2 j hj
    exact ⟨value, hv.miss fun hr => hd ((hiff j hj).mp hr).2, hget⟩

theorem bmMakeDelta2Suffixes_spec {pat : Bytes} (hn : pat.length < 2 ^ 31)
    (fuel p : Nat) (delta2 : List Int) (hp : p + 1 ≤ pat.length) (hfuel : pat.length ≤ p + fuel)
    (htable : SuffixTable pat (pat.length - p) delta2) :
    ∃ result, bmMakeDelta2Suffixes pat pat.length fuel p delta2 = some result ∧
      SuffixTable pat 1 result := by
  induction fuel generalizing p delta2 with
  | zero => omega
  | succ fuel ih =>
      by_cases hlt : p + 1 < pat.length
      · obtain ⟨sufLen, hsuf, hle, heq, hstop⟩ :=
          maxSuffixLen_spec hn (show p < pat.length by omega)
        rw [bmMakeDelta2Suffixes_turn hn hlt htable.1 hsuf hle]
        exact ih (p + 1) _ (by omega) (by omega) (htable.step hlt hle heq hstop)
      · refine ⟨delta2, bmMakeDelta2Suffixes_end hn (by omega) fuel delta2, ?_⟩
        rwa [show pat.length - p = 1 by omega] at htable

theorem bmMakeDelta2_spec {pat : Bytes} (hn : pat.length < 2 ^ 31) (hne : 0 < pat.length)
    (hnul : 0 ∉ pat) :
    ∃ delta2, bmMakeDelta2 pat pat.length = some delta2 ∧ SuffixTable pat 1 delta2 := by
  have hone : sizeSub pat.length 1 = pat.length - 1 := sizeSub_eq (by omega) (by omega)
  have hcount : (toInt (pat.length - 1) + 1).toNat = pat.length := by
    rw [toInt_eq (by omega)]; omega
  obtain ⟨first, hfirst, hprefix⟩ := bmMakeDelta2Prefixes_spec hn hnul pat.length (pat.length - 1)
    (List.replicate pat.length 0) (le_refl _) (.inl ⟨rfl, fun q _ hq => by omega⟩)
    ⟨List.length_replicate, fun p hp hlt => by omega⟩
  obtain ⟨result, hresult, htable⟩ := bmMakeDelta2Suffixes_spec hn (pat.length + 1) 0 first
    hne (by omega) (SuffixTable.of_prefixTable hprefix)
  refine ⟨result, ?_, htable⟩
  unfold bmMakeDelta2
  rw [hone, hcount, toUInt32_eq (by omega), hfirst, Option.bind_eq_bind, Option.bind_some]
  exact hresult

end Raphael.Recovery
