import Raphael.Recovery.TrustZone
import Raphael.Recovery.BoyerMoore.Theorems

namespace Raphael.Recovery

open Raphael.Search

-- The shipped marker ends in a byte that it does not start with.
theorem TZ_VER_STR_unbordered : Unbordered TZ_VER_STR := by
  have h : ∀ start, start < TZ_VER_STR.length → 0 < start → ¬Border TZ_VER_STR start := by decide
  exact fun start hpos hlt => h start hlt hpos

theorem TZ_VER_STR_length : TZ_VER_STR.length = TZ_VER_STR_LEN := by decide

theorem bmSearch_marker {data : Bytes} (hlen : data.length ≤ 2 ^ 31 - 28) :
    bmSearch data data.length TZ_VER_STR TZ_VER_STR_LEN =
      some (firstOccurrence TZ_VER_STR data) := by
  have hl : TZ_VER_STR.length = 27 := TZ_VER_STR_length
  rw [← TZ_VER_STR_length]
  exact bmSearch_eq_first (by decide) (by decide) (by omega) (by omega)
    (.inr fun q hpos hq hb => absurd hb (TZ_VER_STR_unbordered q hpos hq))

theorem cString_of_mem {bytes : Bytes} (h : 0 ∈ bytes) :
    cString bytes = some (bytes.takeWhile (· ≠ 0)) := by
  induction bytes with
  | nil => simp at h
  | cons c rest ih =>
      by_cases hc : c = 0
      · simp [cString, hc]
      · have hm : 0 ∈ rest := (List.mem_cons.mp h).resolve_left (Ne.symm hc)
        simp [cString, hc, ih hm]

theorem cString_of_notMem {bytes : Bytes} (h : 0 ∉ bytes) : cString bytes = none := by
  induction bytes with
  | nil => rfl
  | cons c rest ih =>
      obtain ⟨hc, hrest⟩ := List.ne_and_not_mem_of_not_mem_cons h
      simp only [cString, Ne.symm hc, ite_false, ih hrest, Option.map_none]

-- The version text in the image: what the buffer of get_info has room for of
-- the C string behind the marker.
def versionText (data : Bytes) (first : Nat) : Bytes :=
  ((data.drop (first + TZ_VER_STR_LEN)).takeWhile (· ≠ 0)).take (TZ_VER_BUF_LEN - 1)

theorem getInfo_of_search {part : PartitionFile} (hread : part.Readable) {offset : Option Nat}
    (hsearch : bmSearch part.data part.data.length TZ_VER_STR TZ_VER_STR_LEN = some offset) :
    getInfo TZ_VER_BUF_LEN TZ_VER_STR TZ_VER_STR_LEN part =
      offset.elim (some (-ENOENT, none)) fun first =>
        (snprintfString TZ_VER_BUF_LEN (part.data.drop (first + TZ_VER_STR_LEN))).bind
          fun str => some (0, some str) := by
  obtain ⟨hopen, hseek, hmap⟩ := hread
  simp only [getInfo, hopen, hseek, hmap, hsearch, Option.bind_eq_bind, Option.bind_some]
  cases offset with
  | none => rfl
  | some first => rfl

theorem snprintfString_version {data : Bytes} {first : Nat}
    (hnul : 0 ∈ data.drop (first + TZ_VER_STR_LEN)) :
    snprintfString TZ_VER_BUF_LEN (data.drop (first + TZ_VER_STR_LEN)) =
      some (versionText data first ++ [0]) := by
  rw [snprintfString, cString_of_mem hnul]
  rfl

theorem strncmp_version {tzVersion : Bytes} (current : Bytes) (hnul : 0 ∉ tzVersion) :
    ∃ order, strncmp (tzVersion ++ [0]) (current ++ [0]) tzVersion.length = some order ∧
      (order = 0 ↔ tzVersion <+: current) := by
  have htake : (tzVersion ++ [0]).take tzVersion.length = tzVersion := by simp
  obtain ⟨order, he, hiff⟩ := strncmp_spec (tzVersion ++ [0]) (current ++ [0]) tzVersion.length
    (by simp) (by rwa [htake]) (.inr (by simp))
  refine ⟨order, he, hiff.trans ?_⟩
  rw [htake]
  exact ⟨prefix_of_append_nul hnul, fun h => h.trans (List.prefix_append _ _)⟩

theorem matchesVersion_spec (current : Bytes) (args : List Bytes)
    (hnul : ∀ tzVersion ∈ args, 0 ∉ tzVersion) :
    ∃ found, matchesVersion (current ++ [0]) args = some found ∧
      (found = true ↔ ∃ tzVersion ∈ args, tzVersion <+: current) := by
  induction args with
  | nil => exact ⟨false, rfl, by simp⟩
  | cons tzVersion rest ih =>
      obtain ⟨order, he, hiff⟩ := strncmp_version current
        (hnul tzVersion List.mem_cons_self)
      simp only [matchesVersion, he, Option.bind_eq_bind, Option.bind_some]
      by_cases h0 : order = 0
      · exact ⟨true, by simp [h0], by simp [hiff.mp h0]⟩
      · obtain ⟨found, hf, hspec⟩ := ih fun other hm => hnul other (List.mem_cons_of_mem _ hm)
        have hno : ¬tzVersion <+: current := fun h => h0 (hiff.mpr h)
        exact ⟨found, by simp [h0, hf], by simp [hspec, hno]⟩

theorem verifyTrustZoneFn_missing {device : String → PartitionFile} (name : String)
    (args : Option (List Bytes)) (hread : (device XBL_PART_PATH).Readable)
    (hlen : (device XBL_PART_PATH).data.length ≤ 2 ^ 31 - 28)
    (hnone : firstOccurrence TZ_VER_STR (device XBL_PART_PATH).data = none) :
    ∃ message, verifyTrustZoneFn device name args =
      some (.errorAbort .kFreadFailure message) := by
  have hret : -ENOENT ≠ 0 := by decide
  refine ⟨s!"{name}() failed to read current TZ version: {-ENOENT}", ?_⟩
  simp only [verifyTrustZoneFn, getInfo_of_search hread (bmSearch_marker hlen), hnone,
    Option.elim_none, Option.bind_eq_bind, Option.bind_some, if_pos hret]

theorem verifyTrustZoneFn_found {device : String → PartitionFile} (name : String)
    {args : List Bytes} (hread : (device XBL_PART_PATH).Readable)
    (hlen : (device XBL_PART_PATH).data.length ≤ 2 ^ 31 - 28)
    (hargs : ∀ tzVersion ∈ args, 0 ∉ tzVersion) {first : Nat}
    (hfirst : firstOccurrence TZ_VER_STR (device XBL_PART_PATH).data = some first)
    (hnul : 0 ∈ (device XBL_PART_PATH).data.drop (first + TZ_VER_STR_LEN)) :
    ∃ found : Bool, verifyTrustZoneFn device name (some args) =
        some (.stringValue (if found then "1" else "0")) ∧
      (found = true ↔
        ∃ tzVersion ∈ args, tzVersion <+: versionText (device XBL_PART_PATH).data first) := by
  obtain ⟨found, he, hspec⟩ := matchesVersion_spec
    (versionText (device XBL_PART_PATH).data first) args hargs
  refine ⟨found, ?_, hspec⟩
  simp only [verifyTrustZoneFn, getInfo_of_search hread (bmSearch_marker hlen), hfirst,
    Option.elim_some, snprintfString_version hnul, Option.bind_eq_bind, Option.bind_some, ne_eq,
    not_true_eq_false, ite_false, he]

-- The gate reads the version behind the first marker of the image, and passes
-- when some argument is a prefix of what the buffer holds of it.
theorem verifyTrustZoneFn_gate (device : String → PartitionFile) (name : String)
    (args : List Bytes) (hread : (device XBL_PART_PATH).Readable)
    (hlen : (device XBL_PART_PATH).data.length ≤ 2 ^ 31 - 28)
    (hnul : ∀ first, firstOccurrence TZ_VER_STR (device XBL_PART_PATH).data = some first →
      0 ∈ (device XBL_PART_PATH).data.drop (first + TZ_VER_STR_LEN))
    (hargs : ∀ tzVersion ∈ args, 0 ∉ tzVersion) :
    ((∃ message, verifyTrustZoneFn device name (some args) =
        some (.errorAbort .kFreadFailure message)) ↔
      ∀ position, ¬OccursAt TZ_VER_STR (device XBL_PART_PATH).data position) ∧
    ∀ first, OccursAt TZ_VER_STR (device XBL_PART_PATH).data first →
      NoneBefore TZ_VER_STR (device XBL_PART_PATH).data first →
      (verifyTrustZoneFn device name (some args) = some (.stringValue "1") ↔
        ∃ tzVersion ∈ args, tzVersion <+:
          ((((device XBL_PART_PATH).data.drop (first + 27)).takeWhile (· ≠ 0)).take 254)) ∧
      (verifyTrustZoneFn device name (some args) = some (.stringValue "0") ↔
        ¬∃ tzVersion ∈ args, tzVersion <+:
          ((((device XBL_PART_PATH).data.drop (first + 27)).takeWhile (· ≠ 0)).take 254)) := by
  have hne : TZ_VER_STR ≠ [] := by decide
  constructor
  · rw [← firstOccurrence_eq_none hne]
    constructor
    · rintro ⟨message, habort⟩
      cases hfirst : firstOccurrence TZ_VER_STR (device XBL_PART_PATH).data with
      | none => rfl
      | some first =>
          obtain ⟨found, he, _⟩ :=
            verifyTrustZoneFn_found name hread hlen hargs hfirst (hnul first hfirst)
          rw [he] at habort
          cases habort
    · exact verifyTrustZoneFn_missing name (some args) hread hlen
  · intro first ho hb
    have hfirst := (firstOccurrence_eq_some hne).mpr ⟨ho, hb⟩
    obtain ⟨found, he, hspec⟩ :=
      verifyTrustZoneFn_found name hread hlen hargs hfirst (hnul first hfirst)
    rw [he]
    change (found = true ↔ ∃ tzVersion ∈ args, tzVersion <+:
      ((((device XBL_PART_PATH).data.drop (first + 27)).takeWhile (· ≠ 0)).take 254)) at hspec
    rw [← hspec]
    cases found <;> decide

-- An image with one byte before the marker and the version "12" behind it.
def imageOf12 : String → PartitionFile := fun _ =>
  { openErrno := none, lseekErrno := none, mmapErrno := none
    data := [7] ++ TZ_VER_STR ++ [49, 50, 0, 9] }

theorem verifyTrustZoneFn_gate_imageOf12 :
    ((∃ message, verifyTrustZoneFn imageOf12 "verify_trustzone" (some [[50], [49]]) =
        some (.errorAbort .kFreadFailure message)) ↔
      ∀ position, ¬OccursAt TZ_VER_STR (imageOf12 XBL_PART_PATH).data position) ∧
    ∀ first, OccursAt TZ_VER_STR (imageOf12 XBL_PART_PATH).data first →
      NoneBefore TZ_VER_STR (imageOf12 XBL_PART_PATH).data first →
      (verifyTrustZoneFn imageOf12 "verify_trustzone" (some [[50], [49]]) =
          some (.stringValue "1") ↔
        ∃ tzVersion ∈ [[(50 : UInt8)], [49]], tzVersion <+:
          ((((imageOf12 XBL_PART_PATH).data.drop (first + 27)).takeWhile (· ≠ 0)).take 254)) ∧
      (verifyTrustZoneFn imageOf12 "verify_trustzone" (some [[50], [49]]) =
          some (.stringValue "0") ↔
        ¬∃ tzVersion ∈ [[(50 : UInt8)], [49]], tzVersion <+:
          ((((imageOf12 XBL_PART_PATH).data.drop (first + 27)).takeWhile (· ≠ 0)).take 254)) := by
  have hfirst : firstOccurrence TZ_VER_STR (imageOf12 XBL_PART_PATH).data = some 1 := by
    decide +kernel
  refine verifyTrustZoneFn_gate imageOf12 "verify_trustzone" [[50], [49]] ⟨rfl, rfl, rfl⟩
    (by decide) ?_ (by decide)
  intro first h
  obtain rfl : 1 = first := Option.some.inj (hfirst.symm.trans h)
  decide

end Raphael.Recovery
