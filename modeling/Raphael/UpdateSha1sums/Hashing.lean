import Raphael.UpdateSha1sums.Manifest

namespace Raphael.UpdateSha1sums

open Sections

-- Comments, empty lines and what stands before a hash are kept, line by line.
structure Preserves (before after : List Line) : Prop where
  sameLength : after.length = before.length
  kept : ∀ (i : Nat) (line : Line),
    before[i]? = some line → isEntry line = false → after[i]? = some line
  unpinned : ∀ (i : Nat) (line : Line), before[i]? = some line →
    ∃ line', after[i]? = some line' ∧ splitFirst '|' line' = splitFirst '|' line

theorem preserves_pass {f : Option Bool → Line → Line}
    (hkept : ∀ s line, isEntry line = false → f s line = line)
    (hunpin : ∀ s line, unpin (f s line) = unpin line) (lines : List Line) :
    Preserves lines (pass mark f none lines) where
  sameLength := pass_length mark f none lines
  kept i line hi hentry := by
    rw [pass_getElem?, hi, Option.map_some, hkept _ line hentry]
  unpinned i line hi := by
    refine ⟨_, ?_, hunpin (sectionAt mark none (lines.take i)) line⟩
    rw [pass_getElem?, hi, Option.map_some]

theorem cleanup_preserves (lines : List Line) : Preserves lines (cleanup lines) := by
  rw [cleanup_eq]
  exact preserves_pass (fun _ _ => cleanupLine_of_not_entry) (fun _ => unpin_cleanupLine) lines

section Update

variable (sha1 : Bytes → Line) {blobs : Line → Option Bytes}

theorem updated_preserves (lines : List Line) :
    Preserves lines (pass mark (updated sha1 blobs) none lines) := by
  apply preserves_pass
  · intro s line hentry
    exact updated_eq (updateLine_of_not_entry s hentry)
  · intro s line
    cases hline : updateLine sha1 blobs s line with
    | error e => rw [updated, hline]
    | ok result => rw [updated_eq hline, unpin_updateLine hline]

theorem updated_of_not_pinned (lines : List Line) {i : Nat} {line : Line}
    (hi : lines[i]? = some line) (hsection : ¬InPinnedSection lines i) :
    (pass mark (updated sha1 blobs) none lines)[i]? = some line := by
  rw [inPinnedSection_iff] at hsection
  rw [pass_getElem?, hi, Option.map_some]
  cases hline : updateLine sha1 blobs (sectionAt mark none (lines.take i)) line with
  | error e => rw [updated, hline]
  | ok result =>
      obtain ⟨rfl, -⟩ | ⟨-, hpinned, -⟩ := updateLine_cases hline
      · rw [updated_eq hline]
      · exact absurd hpinned hsection

theorem updated_of_pinned {lines : List Line} {i : Nat} {entry : Entry} {data : Bytes}
    (hi : lines[i]? = some entry.text) (hsection : InPinnedSection lines i)
    (hdata : blobs (pathJoin vendorPath entry.path) = some data) :
    (pass mark (updated sha1 blobs) none lines)[i]? =
      some (entry.base ++ '|' :: sha1 data) := by
  have hline : updateLine sha1 blobs (some true) entry.text =
      .ok (entry.base ++ '|' :: sha1 data) :=
    (updateLine_of_entry _ entry.isEntry_text).trans (pin_entry sha1 hdata)
  rw [pass_getElem?, hi, Option.map_some, (inPinnedSection_iff lines i).mp hsection,
    updated_eq hline]

end Update

-- What the two passes do to a manifest, and to what the other one leaves.
structure Hashing (sha1 : Bytes → Line) (blobs : Line → Option Bytes)
    (lines after : List Line) : Prop where
  updates : update sha1 blobs lines = .ok after
  updatesAgain : update sha1 blobs after = .ok after
  cleansAgain : cleanup (cleanup lines) = cleanup lines
  cleansUpdated : cleanup after = cleanup lines
  updatesCleaned :
    (∀ (i : Nat) (line : Line), lines[i]? = some line → isEntry line = true → '|' ∈ line →
      InPinnedSection lines i) → update sha1 blobs (cleanup lines) = .ok after
  cleanPreserves : Preserves lines (cleanup lines)
  updatePreserves : Preserves lines after
  elsewhere : ∀ (i : Nat) (line : Line),
    lines[i]? = some line → ¬InPinnedSection lines i → after[i]? = some line
  hashes : ∀ (i : Nat) (entry : Entry), lines[i]? = some entry.text → InPinnedSection lines i →
    ∃ data, blobs (pathJoin vendorPath entry.path) = some data ∧
      after[i]? = some (entry.base ++ '|' :: sha1 data)

theorem manifest_hashing (sha1 : Bytes → Line) {blobs : Line → Option Bytes} {lines : List Line}
    (hmanifest : Manifest lines) (hfirst : FirstComment lines)
    (hreadable : Readable blobs lines) : ∃ after, Hashing sha1 blobs lines after := by
  have h : Updates sha1 blobs lines := (updates_iff_readable sha1 hmanifest).mpr ⟨hfirst, hreadable⟩
  refine ⟨pass mark (updated sha1 blobs) none lines, {
    updates := update_eq h
    updatesAgain := update_update h
    cleansAgain := cleanup_cleanup lines
    cleansUpdated := cleanup_update h
    updatesCleaned := fun hsection => ?_
    cleanPreserves := cleanup_preserves lines
    updatePreserves := updated_preserves sha1 lines
    elsewhere := fun i line hi hsection => updated_of_not_pinned sha1 lines hi hsection
    hashes := fun i entry hi hsection => ?_ }⟩
  · apply update_cleanup h
    intro i line hi hentry hmem
    exact (inPinnedSection_iff lines i).mp (hsection i line hi hentry hmem)
  · obtain ⟨data, hdata⟩ := hreadable i entry hi hsection
    exact ⟨data, hdata, updated_of_pinned sha1 hi hsection hdata⟩

def cameraEntry : Entry where
  optional := true
  src := ['c']
  dst := none
  args := none
  digest := some ['0']
  isField_src := ⟨by decide, by decide, by decide, by decide⟩
  isField_dst := fun _ h => by cases h
  noBar_args := fun _ h => by cases h
  notComment := fun h => by cases h

def cameraManifest : List Line := ["# camera - from cepheus".toList, cameraEntry.text]

-- The hash of an empty file.
def emptyDigest : Line := "da39a3ee5e6b4b0d3255bfef95601890afd80709".toList

def cameraBlobs (path : Line) : Option Bytes :=
  if path = pathJoin vendorPath ['c'] then some [] else none

theorem manifest_camera : Manifest cameraManifest := by
  intro line hline hentry
  obtain rfl | rfl := List.mem_pair.mp hline
  · exact absurd hentry (by decide +kernel)
  · exact ⟨cameraEntry, rfl⟩

theorem firstComment_camera : FirstComment cameraManifest := by
  intro line hline
  obtain rfl : _ = line := Option.some.inj hline
  decide +kernel

theorem readable_camera : Readable cameraBlobs cameraManifest := by
  intro i entry hi _
  have htext : entry.text = cameraEntry.text := by
    obtain hcomment | htext := List.mem_pair.mp (List.mem_of_getElem? hi)
    · exact absurd (hcomment ▸ entry.isEntry_text) (by decide +kernel)
    · exact htext
  have hpath : entry.path = ['c'] := by
    have hfile := entry.filePath_base
    rw [← entry.unpin_text, htext, cameraEntry.unpin_text, cameraEntry.filePath_base] at hfile
    exact (Except.ok.inj hfile).symm
  exact ⟨[], by rw [hpath, cameraBlobs, if_pos rfl]⟩

theorem manifest_hashing_camera :
    ∃ after, Hashing (fun _ => emptyDigest) cameraBlobs cameraManifest after :=
  manifest_hashing (fun _ => emptyDigest) manifest_camera firstComment_camera readable_camera

end Raphael.UpdateSha1sums
