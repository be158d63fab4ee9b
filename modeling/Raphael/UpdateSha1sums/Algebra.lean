import Raphael.UpdateSha1sums.Theorems

namespace Raphael.UpdateSha1sums

open Sections

variable (sha1 : Bytes → Line) (blobs : Line → Option Bytes)

-- The line that update leaves, also where it would fail.
def updated (needSHA1 : Option Bool) (line : Line) : Line :=
  match updateLine sha1 blobs needSHA1 line with
  | .ok result => result
  | .error _ => line

-- No line makes update fail.
def Updates (lines : List Line) : Prop :=
  Everywhere mark (fun s line => ∃ result, updateLine sha1 blobs s line = .ok result) none lines

variable {sha1 blobs}

theorem updated_eq {needSHA1 : Option Bool} {line result : Line}
    (h : updateLine sha1 blobs needSHA1 line = .ok result) :
    updated sha1 blobs needSHA1 line = result := by
  rw [updated, h]

theorem mark_updated (needSHA1 : Option Bool) (line : Line) :
    mark (updated sha1 blobs needSHA1 line) = mark line := by
  cases hline : updateLine sha1 blobs needSHA1 line with
  | error e => rw [updated, hline]
  | ok result => rw [updated_eq hline, mark_updateLine hline]

theorem cleanup_eq (lines : List Line) :
    cleanup lines = pass mark (fun _ => cleanupLine) none lines :=
  (pass_const mark cleanupLine none lines).symm

theorem updates_iff (lines : List Line) :
    (∃ result, update sha1 blobs lines = .ok result) ↔ Updates sha1 blobs lines := by
  rw [update, updateLoop_eq]
  exact passM_ok_iff mark _ none lines

section Algebra

variable {lines : List Line} (h : Updates sha1 blobs lines)
include h

theorem update_eq : update sha1 blobs lines = .ok (pass mark (updated sha1 blobs) none lines) := by
  rw [update, updateLoop_eq]
  apply passM_eq_ok
  intro i line hi
  obtain ⟨result, hline⟩ := h i line hi
  rw [hline, updated_eq hline]

theorem update_update :
    update sha1 blobs (pass mark (updated sha1 blobs) none lines) =
      .ok (pass mark (updated sha1 blobs) none lines) := by
  rw [update, updateLoop_eq, passM_pass mark _ mark_updated]
  apply passM_eq_ok
  intro i line hi
  obtain ⟨result, hline⟩ := h i line hi
  rw [updated_eq hline]
  exact updateLine_updateLine hline

theorem cleanup_update :
    cleanup (pass mark (updated sha1 blobs) none lines) = cleanup lines := by
  rw [cleanup_eq, cleanup_eq, pass_pass mark _ mark_updated]
  apply pass_congr
  intro i line hi
  obtain ⟨result, hline⟩ := h i line hi
  rw [updated_eq hline]
  exact cleanupLine_updateLine hline

theorem update_cleanup
    (hsection : Everywhere mark
      (fun s line => isEntry line = true → '|' ∈ line → s = some true) none lines) :
    update sha1 blobs (cleanup lines) = .ok (pass mark (updated sha1 blobs) none lines) := by
  rw [cleanup_eq, update, updateLoop_eq, passM_pass mark _ fun _ => mark_cleanupLine]
  apply passM_eq_ok
  intro i line hi
  obtain ⟨result, hline⟩ := h i line hi
  rw [updated_eq hline]
  exact updateLine_cleanupLine hline (hsection i line hi)

end Algebra

theorem cleanup_cleanup (lines : List Line) : cleanup (cleanup lines) = cleanup lines := by
  rw [cleanup, cleanup, List.map_map]
  exact List.map_congr_left fun line _ => cleanupLine_cleanupLine line

end Raphael.UpdateSha1sums
