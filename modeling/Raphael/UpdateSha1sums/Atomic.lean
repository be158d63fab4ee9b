import Raphael.UpdateSha1sums.Hashing

namespace Raphael.UpdateSha1sums

open Sections

variable (sha1 : Bytes → Line) (blobs : Line → Option Bytes)

section Main

variable {blobs} {file : Line} (program : String)

theorem main_update :
    main sha1 blobs [program] file =
      match update sha1 blobs (readLines file) with
      | .ok lines => (none, joinLines lines)
      | .error e => (some e, file) := rfl

theorem main_of_updates (h : Updates sha1 blobs (readLines file)) :
    main sha1 blobs [program] file =
      (none, joinLines (pass mark (updated sha1 blobs) none (readLines file))) := by
  rw [main_update, update_eq h]

theorem main_of_not_updates (h : ¬Updates sha1 blobs (readLines file)) :
    ∃ e, main sha1 blobs [program] file = (some e, file) := by
  rw [main_update]
  cases hupdate : update sha1 blobs (readLines file) with
  | ok lines => exact absurd ((updates_iff _).mp ⟨lines, hupdate⟩) h
  | error e => exact ⟨e, rfl⟩

theorem completes_iff :
    (main sha1 blobs [program] file).1 = none ↔ Updates sha1 blobs (readLines file) := by
  refine ⟨fun hnone => ?_, fun h => by rw [main_of_updates sha1 program h]⟩
  by_contra h
  obtain ⟨e, he⟩ := main_of_not_updates sha1 program h
  rw [he] at hnone
  cases hnone

end Main

-- The lines that need no hash stay where they are.
structure KeepsUnpinned (before after : List Line) : Prop where
  sameLength : after.length = before.length
  unpinned : ∀ (i : Nat) (line : Line), before[i]? = some line →
    ¬(isEntry line = true ∧ InPinnedSection before i) → after[i]? = some line

theorem updated_keepsUnpinned (lines : List Line) :
    KeepsUnpinned lines (pass mark (updated sha1 blobs) none lines) where
  sameLength := pass_length mark _ none lines
  unpinned i line hi hpinned := by
    cases hentry : isEntry line with
    | false => exact (updated_preserves sha1 lines).kept i line hi hentry
    | true =>
        apply updated_of_not_pinned sha1 lines hi
        exact fun hsection => hpinned ⟨hentry, hsection⟩

-- Without arguments the file is updated as a whole, or left as it is.
structure TotalAtomic (program : String) (file : Line) : Prop where
  completes : (main sha1 blobs [program] file).1 = none ↔ Readable blobs (readLines file)
  unpinned : (main sha1 blobs [program] file).1 = none →
    ∃ after, (main sha1 blobs [program] file).2 = joinLines after ∧
      KeepsUnpinned (readLines file) after
  unchanged : (main sha1 blobs [program] file).1 ≠ none →
    (main sha1 blobs [program] file).2 = file

variable {blobs}

theorem unchanged_of_not_completes {program : String} {file : Line}
    (hsome : (main sha1 blobs [program] file).1 ≠ none) :
    (main sha1 blobs [program] file).2 = file := by
  obtain ⟨e, he⟩ := main_of_not_updates sha1 program (mt (completes_iff sha1 program).mpr hsome)
  rw [he]

-- Nothing else goes wrong with an entry before the first comment, but update has
-- no flag there.
theorem totalAtomic_iff (program : String) {file : Line} (hmanifest : Manifest (readLines file)) :
    TotalAtomic sha1 blobs program file ↔
      FirstComment (readLines file) ∨ ¬Readable blobs (readLines file) := by
  have hcompletes : (main sha1 blobs [program] file).1 = none ↔
      FirstComment (readLines file) ∧ Readable blobs (readLines file) :=
    (completes_iff sha1 program).trans (updates_iff_readable sha1 hmanifest)
  constructor
  · intro h
    by_cases hreadable : Readable blobs (readLines file)
    · exact .inl (hcompletes.mp (h.completes.mpr hreadable)).1
    · exact .inr hreadable
  · intro hcondition
    constructor
    · refine hcompletes.trans ⟨And.right, fun hreadable => ⟨?_, hreadable⟩⟩
      exact hcondition.resolve_right (not_not_intro hreadable)
    · intro hnone
      have hupdates := (completes_iff sha1 program).mp hnone
      exact ⟨_, by rw [main_of_updates sha1 program hupdates], updated_keepsUnpinned sha1 blobs _⟩
    · exact unchanged_of_not_completes sha1

def cameraFile : Line := "# camera - from cepheus\n-c|0\n".toList

theorem readLines_cameraFile : readLines cameraFile = cameraManifest := by
  decide +kernel

theorem totalAtomic_camera :
    TotalAtomic (fun _ => emptyDigest) cameraBlobs "update-sha1sums.py" cameraFile := by
  apply (totalAtomic_iff _ _ _).mpr
  · rw [readLines_cameraFile]
    exact .inl firstComment_camera
  · rw [readLines_cameraFile]
    exact manifest_camera

-- One entry and no comment: nothing needs a hash, but the run fails.
def bareFile : Line := "c\n".toList

theorem readLines_bareFile : readLines bareFile = [['c']] := by
  decide +kernel

def bareEntry : Entry :=
  { cameraEntry with
    optional := false
    digest := none
    notComment := fun _ => rfl }

theorem bareFile_not_totalAtomic :
    Manifest (readLines bareFile) ∧
      ¬TotalAtomic (fun _ => emptyDigest) cameraBlobs "update-sha1sums.py" bareFile := by
  rw [readLines_bareFile]
  constructor
  · intro line hline _
    exact ⟨bareEntry, List.mem_singleton.mp hline⟩
  · intro h
    have hreadable : Readable cameraBlobs (readLines bareFile) := by
      rw [readLines_bareFile]
      intro i entry hi hsection
      obtain ⟨comment, hcomment, -⟩ := hsection
      cases i with
      | zero => cases hcomment
      | succ i => cases hi
    have hfails : (main (fun _ => emptyDigest) cameraBlobs ["update-sha1sums.py"] bareFile).1 =
        some .unboundLocalError := by
      decide +kernel
    cases hfails.symm.trans (h.completes.mpr hreadable)

end Raphael.UpdateSha1sums
