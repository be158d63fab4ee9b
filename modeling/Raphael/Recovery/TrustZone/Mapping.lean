import Raphael.Recovery.TrustZone.Theorems

namespace Raphael.Recovery

open Raphael.Search

def PAGE_SIZE : Nat := 4096

-- bm_search takes the size of the image as an int. It looks at the bytes up to
-- that index, and at none when the conversion makes the size negative.
def searched (data : Bytes) : Bytes := data.take (toInt data.length).toNat

theorem toInt_page {n : Nat} (hpage : PAGE_SIZE ∣ n) : toInt n ≤ 2 ^ 31 - PAGE_SIZE := by
  have := toInt_cases n
  unfold PAGE_SIZE at *
  omega

theorem readAt_take {str : Bytes} {m : Nat} {i : Int} (hi : i < m) :
    readAt (str.take m) i = readAt str i := by
  unfold readAt
  split
  · rw [List.getElem?_take_of_lt (by omega)]
  · rfl

theorem bmMatchLoop_take (str pat : Bytes) {m : Nat} (j : Nat) {i : Int} (hi : i < m) :
    bmMatchLoop (str.take m) pat i j = bmMatchLoop str pat i j := by
  induction j generalizing i with
  | zero => rfl
  | succ j ih => simp only [bmMatchLoop, readAt_take hi, ih (show i - 1 < (m : Int) by omega)]

theorem bmMatchLoop_le {str pat : Bytes} {j : Nat} {i : Int} {stop : Int × Nat}
    (h : bmMatchLoop str pat i j = some stop) : stop.1 ≤ i := by
  induction j generalizing i with
  | zero =>
      cases h
      exact Int.le_refl i
  | succ j ih =>
      simp only [bmMatchLoop, Option.bind_eq_bind, Option.bind_eq_some_iff] at h
      obtain ⟨left, _, right, _, h⟩ := h
      split at h
      · have := ih h
        omega
      · cases h
        exact Int.le_refl i

-- The loop reads below its bound only, so the bytes from there on do not matter.
theorem bmSearchLoop_take {str : Bytes} {m : Nat} (hm : toInt str.length = m) (pat : Bytes)
    (patLen : Nat) (delta1 delta2 : List Int) (fuel : Nat) (i : Int) :
    bmSearchLoop str str.length pat patLen delta1 delta2 fuel i =
      bmSearchLoop (str.take m) m pat patLen delta1 delta2 fuel i := by
  have hlt := toInt_lt str.length
  rw [hm] at hlt
  induction fuel generalizing i with
  | zero => simp only [bmSearchLoop]
  | succ fuel ih =>
      simp only [bmSearchLoop, hm, toInt_eq (show m < 2 ^ 31 by omega)]
      split
      · rename_i hi
        rw [bmMatchLoop_take str pat _ hi]
        cases hstop : bmMatchLoop str pat i (toInt (sizeSub patLen 1) + 1).toNat with
        | none => simp only [Option.bind_eq_bind, Option.bind_none]
        | some stop =>
            have hle := bmMatchLoop_le hstop
            simp only [Option.bind_eq_bind, Option.bind_some,
              readAt_take (show stop.1 < (m : Int) by omega), ih]
      · rfl

theorem bmSearch_searched {data : Bytes} (hpage : PAGE_SIZE ∣ data.length) :
    bmSearch data data.length TZ_VER_STR TZ_VER_STR_LEN =
      some (firstOccurrence TZ_VER_STR (searched data)) := by
  have hl : TZ_VER_STR.length = 27 := TZ_VER_STR_length
  have hpos : 0 < TZ_VER_STR.length := by decide
  obtain ⟨delta1, delta2, ht, hloop⟩ := bmSearch_eq_loop hpos (by decide) (by decide)
  have hbound := toInt_page hpage
  have hpages : (PAGE_SIZE : Int) = 4096 := rfl
  rw [← TZ_VER_STR_length, hloop]
  by_cases hneg : toInt data.length < 0
  · have hempty : searched data = [] := by
      unfold searched
      rw [Int.toNat_of_nonpos (by omega), List.take_zero]
    have hstop : ¬(((0 : Nat) : Int) + TZ_VER_STR.length - 1 < toInt data.length) := by omega
    rw [hempty, bmSearchLoop, if_neg hstop]
    decide
  · obtain ⟨m, hm⟩ := Int.eq_ofNat_of_zero_le (show 0 ≤ toInt data.length by omega)
    have hle := toInt_le data.length
    have htake : searched data = data.take m := by
      unfold searched
      rw [hm]
      rfl
    have hlen : (data.take m).length = m := by
      rw [List.length_take]
      omega
    rw [bmSearchLoop_take hm, htake]
    have hlong : (data.take m).length + TZ_VER_STR.length ≤ 2 ^ 31 := by omega
    have hfirst := bmSearchLoop_first hpos hlong ht
      (.inr fun q hq hle hb => absurd hb (TZ_VER_STR_unbordered q hq hle))
      (data.length + 1) 0 (by omega) (by omega) (NoneBefore.zero _ _)
    rwa [hlen] at hfirst

-- The scan of %s stays inside when a NUL comes before the end.
theorem snprintfString_isSome (len : Nat) (source : Bytes) :
    (snprintfString len source).isSome ↔ 0 ∈ source := by
  unfold snprintfString
  by_cases h : 0 ∈ source
  · simp [cString_of_mem h, h]
  · simp [cString_of_notMem h, h]

theorem getInfo_not_readable {part : PartitionFile} (hread : ¬part.Readable) (len : Nat)
    (lookupStr : Bytes) (lookupStrLen : Nat) :
    (getInfo len lookupStr lookupStrLen part).isSome := by
  unfold getInfo
  cases hopen : part.openErrno with
  | some errno => rfl
  | none =>
      cases hseek : part.lseekErrno with
      | some errno => rfl
      | none =>
          cases hmap : part.mmapErrno with
          | some errno => rfl
          | none => exact absurd ⟨hopen, hseek, hmap⟩ hread

theorem getInfo_readable {part : PartitionFile} (hread : part.Readable)
    (hpage : PAGE_SIZE ∣ part.data.length) :
    (getInfo TZ_VER_BUF_LEN TZ_VER_STR TZ_VER_STR_LEN part).isSome ↔
      ∀ first, firstOccurrence TZ_VER_STR (searched part.data) = some first →
        0 ∈ part.data.drop (first + TZ_VER_STR_LEN) := by
  rw [getInfo_of_search hread (bmSearch_searched hpage)]
  cases firstOccurrence TZ_VER_STR (searched part.data) with
  | none => simp
  | some first =>
      simp only [Option.elim_some, Option.some.injEq, forall_eq',
        ← snprintfString_isSome TZ_VER_BUF_LEN]
      cases snprintfString TZ_VER_BUF_LEN (part.data.drop (first + TZ_VER_STR_LEN)) <;> simp

-- Every read of the mapping is inside exactly when the version text behind the
-- first marker that the search can see is terminated inside the image.
theorem getInfo_inside_iff (part : PartitionFile) (hpage : PAGE_SIZE ∣ part.data.length) :
    (getInfo TZ_VER_BUF_LEN TZ_VER_STR TZ_VER_STR_LEN part).isSome ↔
      (part.Readable → ∀ first, firstOccurrence TZ_VER_STR (searched part.data) = some first →
        0 ∈ part.data.drop (first + TZ_VER_STR_LEN)) := by
  by_cases hread : part.Readable
  · rw [getInfo_readable hread hpage]
    exact ⟨fun h _ => h, fun h => h hread⟩
  · exact ⟨fun _ h => absurd h hread, fun _ => getInfo_not_readable hread _ _ _⟩

-- One page that ends with the marker.
def imageEndingInMarker : PartitionFile :=
  { openErrno := none, lseekErrno := none, mmapErrno := none
    data := List.replicate (PAGE_SIZE - 27) 1 ++ TZ_VER_STR }

theorem imageEndingInMarker_length : imageEndingInMarker.data.length = PAGE_SIZE := by
  have hones : (List.replicate (PAGE_SIZE - 27) (1 : UInt8)).length = PAGE_SIZE - 27 :=
    List.length_replicate
  have hsum : PAGE_SIZE - 27 + 27 = PAGE_SIZE := rfl
  exact List.length_append.trans ((congrArg₂ (· + ·) hones TZ_VER_STR_length).trans hsum)

theorem imageEndingInMarker_page : PAGE_SIZE ∣ imageEndingInMarker.data.length :=
  ⟨1, imageEndingInMarker_length.trans (Nat.mul_one PAGE_SIZE).symm⟩

theorem getInfo_inside_iff_imageEndingInMarker :
    (getInfo TZ_VER_BUF_LEN TZ_VER_STR TZ_VER_STR_LEN imageEndingInMarker).isSome ↔
      (imageEndingInMarker.Readable → ∀ first,
        firstOccurrence TZ_VER_STR (searched imageEndingInMarker.data) = some first →
        0 ∈ imageEndingInMarker.data.drop (first + TZ_VER_STR_LEN)) :=
  getInfo_inside_iff imageEndingInMarker imageEndingInMarker_page

theorem getInfo_reads_past_end :
    ¬∀ part : PartitionFile, part.Readable → PAGE_SIZE ∣ part.data.length →
      (getInfo TZ_VER_BUF_LEN TZ_VER_STR TZ_VER_STR_LEN part).isSome := by
  intro h
  have hread : imageEndingInMarker.Readable := ⟨rfl, rfl, rfl⟩
  have hpage := imageEndingInMarker_page
  have hsmall : imageEndingInMarker.data.length < 2 ^ 31 := by
    rw [imageEndingInMarker_length, PAGE_SIZE]
    omega
  have hinside := (getInfo_readable hread hpage).mp (h imageEndingInMarker hread hpage)
  have hsearched : searched imageEndingInMarker.data = imageEndingInMarker.data := by
    unfold searched
    rw [toInt_eq hsmall, Int.toNat_natCast, List.take_length]
  have hocc : OccursAt TZ_VER_STR imageEndingInMarker.data (PAGE_SIZE - 27) := by
    unfold OccursAt imageEndingInMarker
    rw [List.drop_left' List.length_replicate]
  obtain ⟨first, _, hfirst⟩ := firstOccurrence_le (by decide) hocc
  have hnul : 0 ∉ imageEndingInMarker.data := by
    intro hmem
    rcases List.mem_append.mp hmem with hm | hm
    · exact absurd (List.eq_of_mem_replicate hm) (by decide)
    · exact absurd hm (by decide)
  rw [hsearched] at hinside
  exact hnul (List.mem_of_mem_drop (hinside first hfirst))

end Raphael.Recovery
