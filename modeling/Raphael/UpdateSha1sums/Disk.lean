import Raphael.UpdateSha1sums.Hashing

namespace Raphael.UpdateSha1sums

open Sections

def Unbroken (line : Line) : Prop := ∀ c ∈ line, isLineBreak c = false

section Split

theorem splitOnP_unbroken (text : Line) : ∀ part ∈ text.splitOnP isLineBreak, Unbroken part := by
  induction text with
  | nil => simp [Unbroken]
  | cons c rest ih =>
      rw [List.splitOnP_cons_eq_if_modifyHead]
      split
      · exact List.forall_mem_cons.mpr ⟨nofun, ih⟩
      · rename_i hbreak
        cases hparts : rest.splitOnP isLineBreak with
        | nil => exact absurd hparts (List.splitOnP_ne_nil _ _)
        | cons first parts =>
            rw [hparts] at ih
            obtain ⟨hfirst, hothers⟩ := List.forall_mem_cons.mp ih
            rw [List.modifyHead_cons]
            exact List.forall_mem_cons.mpr
              ⟨List.forall_mem_cons.mpr ⟨Bool.eq_false_iff.mpr hbreak, hfirst⟩, hothers⟩

theorem splitlines_unbroken (text : Line) : ∀ line ∈ splitlines text, Unbroken line := by
  intro line hline
  unfold splitlines at hline
  dsimp only at hline
  split at hline
  · exact splitOnP_unbroken text line (List.mem_of_mem_dropLast hline)
  · exact splitOnP_unbroken text line hline

theorem readLines_unbroken (file : Line) : ∀ line ∈ readLines file, Unbroken line :=
  splitlines_unbroken (universalNewlines file)

theorem joinLines_singleton (line : Line) : joinLines [line] = line ++ ['\n'] := by
  simp [joinLines]

theorem joinLines_cons_cons (line next : Line) (rest : List Line) :
    joinLines (line :: next :: rest) = line ++ '\n' :: joinLines (next :: rest) := by
  simp [joinLines, List.intercalate]

theorem mem_joinLines {c : Char} {lines : List Line} (h : c ∈ joinLines lines) :
    c = '\n' ∨ ∃ line ∈ lines, c ∈ line := by
  induction lines with
  | nil => exact .inl (by simpa [joinLines] using h)
  | cons line rest ih =>
      cases rest with
      | nil =>
          rw [joinLines_singleton] at h
          rcases List.mem_append.mp h with hmem | hmem
          · exact .inr ⟨line, List.mem_cons_self, hmem⟩
          · exact .inl (List.mem_singleton.mp hmem)
      | cons next others =>
          rw [joinLines_cons_cons] at h
          rcases List.mem_append.mp h with hmem | hmem
          · exact .inr ⟨line, List.mem_cons_self, hmem⟩
          · rcases List.mem_cons.mp hmem with hmem | hmem
            · exact .inl hmem
            · refine (ih hmem).imp_right fun hfound => ?_
              obtain ⟨found, hfound, hc⟩ := hfound
              exact ⟨found, List.mem_cons_of_mem _ hfound, hc⟩

-- Splitting undoes joining, apart from the break at the end.
theorem splitOnP_joinLines {lines : List Line} (hne : lines ≠ [])
    (h : ∀ line ∈ lines, Unbroken line) :
    (joinLines lines).splitOnP isLineBreak = lines ++ [[]] := by
  induction lines with
  | nil => exact absurd rfl hne
  | cons line rest ih =>
      obtain ⟨hline, hrest⟩ := List.forall_mem_cons.mp h
      cases rest with
      | nil =>
          rw [joinLines_singleton,
            List.splitOnP_append_cons_of_forall_mem hline '\n' (by decide)]
          rfl
      | cons next others =>
          rw [joinLines_cons_cons,
            List.splitOnP_append_cons_of_forall_mem hline '\n' (by decide),
            ih (List.cons_ne_nil _ _) hrest]
          rfl

theorem universalNewlines_of_not_mem {text : Line} (h : '\r' ∉ text) :
    universalNewlines text = text := by
  induction text with
  | nil => rfl
  | cons c rest ih =>
      have hc : c ≠ '\r' := fun hc => h (hc ▸ List.mem_cons_self)
      have hrest := ih fun hmem => h (List.mem_cons_of_mem _ hmem)
      unfold universalNewlines
      split <;> simp_all

theorem readLines_joinLines {lines : List Line} (hne : lines ≠ [])
    (h : ∀ line ∈ lines, Unbroken line) : readLines (joinLines lines) = lines := by
  have hreturn : '\r' ∉ joinLines lines := by
    intro hmem
    rcases mem_joinLines hmem with hbreak | ⟨line, hline, hc⟩
    · cases hbreak
    · have hunbroken := h line hline _ hc
      cases hunbroken
  rw [readLines, universalNewlines_of_not_mem hreturn, splitlines, splitOnP_joinLines hne h]
  simp

end Split

section Lines

variable {sha1 : Bytes → Line} {blobs : Line → Option Bytes}

theorem Unbroken.splitFirst {line : Line} (h : Unbroken line) (sep : Char) :
    Unbroken (splitFirst sep line) := by
  intro c hc
  obtain hline | ⟨rest, hline⟩ := (splitFirst_cases sep line).2
  · exact h c (hline ▸ hc)
  · apply h
    rw [hline]
    exact List.mem_append_left _ hc

theorem Unbroken.cleanupLine {line : Line} (h : Unbroken line) : Unbroken (cleanupLine line) := by
  unfold UpdateSha1sums.cleanupLine
  split
  · exact h
  · exact h.splitFirst '|'

theorem Unbroken.pin (hdigest : ∀ data, Unbroken (sha1 data)) {line result : Line}
    (h : Unbroken line) (hpin : pin sha1 blobs line = .ok result) : Unbroken result := by
  obtain ⟨_, data, _, _, rfl⟩ := pin_eq_ok.mp hpin
  intro c hc
  rcases List.mem_append.mp hc with hc | hc
  · exact h.splitFirst '|' c hc
  · rcases List.mem_cons.mp hc with rfl | hc
    · decide
    · exact hdigest data c hc

theorem Unbroken.updateLine (hdigest : ∀ data, Unbroken (sha1 data)) {needSHA1 : Option Bool}
    {line result : Line} (h : Unbroken line)
    (hline : updateLine sha1 blobs needSHA1 line = .ok result) : Unbroken result := by
  unfold UpdateSha1sums.updateLine at hline
  split at hline
  · exact Except.ok.inj hline ▸ h
  · split at hline
    · cases hline
    · exact Except.ok.inj hline ▸ h
    · exact h.pin hdigest hline

end Lines

section Disk

variable (sha1 : Bytes → Line) (blobs : Line → Option Bytes) (argv : List String)

-- What the program makes of the lines.
def process (lines : List Line) : Except PyError (List Line) :=
  if argv.length = 2 ∧ argv[1]? = some "-c" then .ok (cleanup lines) else update sha1 blobs lines

def written (file : Line) : Except PyError (List Line) → Option PyError × Line
  | .ok lines => (none, joinLines lines)
  | .error e => (some e, file)

theorem main_eq (file : Line) :
    main sha1 blobs argv file = written file (process sha1 blobs argv (readLines file)) := rfl

variable {sha1 blobs argv}

theorem process_process {lines after : List Line} (h : process sha1 blobs argv lines = .ok after) :
    process sha1 blobs argv after = .ok after := by
  unfold process at h ⊢
  split at h
  · rw [if_pos ‹_›, ← Except.ok.inj h, cleanup_cleanup]
  · have hupdates := (updates_iff lines).mp ⟨after, h⟩
    rw [update_eq hupdates] at h
    rw [if_neg ‹_›, ← Except.ok.inj h, update_update hupdates]

theorem process_unbroken (hdigest : ∀ data, Unbroken (sha1 data)) {lines after : List Line}
    (hlines : ∀ line ∈ lines, Unbroken line) (h : process sha1 blobs argv lines = .ok after) :
    ∀ line ∈ after, Unbroken line := by
  intro result hresult
  unfold process at h
  split at h
  · rw [← Except.ok.inj h, cleanup] at hresult
    obtain ⟨line, hline, rfl⟩ := List.mem_map.mp hresult
    exact (hlines line hline).cleanupLine
  · have hupdates := (updates_iff lines).mp ⟨after, h⟩
    rw [update_eq hupdates] at h
    rw [← Except.ok.inj h] at hresult
    obtain ⟨i, hi⟩ := List.getElem?_of_mem hresult
    rw [pass_getElem?] at hi
    obtain ⟨line, hline, hupdated⟩ := Option.map_eq_some_iff.mp hi
    obtain ⟨pinned, hpinned⟩ := hupdates i line hline
    rw [updated_eq hpinned] at hupdated
    rw [← hupdated]
    exact (hlines line (List.mem_of_getElem? hline)).updateLine hdigest hpinned

-- A written file is read back as the lines it was written from. The empty file
-- alone gets a line by it, an empty one.
theorem main_joinLines {lines : List Line} (h : ∀ line ∈ lines, Unbroken line) :
    main sha1 blobs argv (joinLines lines) =
      written (joinLines lines) (process sha1 blobs argv lines) := by
  rw [main_eq]
  by_cases hne : lines = []
  · have hread : readLines (joinLines lines) = [[]] := by
      rw [hne]
      decide
    have hblank : process sha1 blobs argv [[]] = .ok [[]] := by
      unfold process
      split <;> rfl
    have hnone : process sha1 blobs argv lines = .ok [] := by
      rw [hne]
      unfold process
      split <;> rfl
    rw [hread, hblank, hnone]
    rfl
  · rw [readLines_joinLines hne h]

-- On disk too, a run that is repeated changes nothing more, whatever its
-- arguments and outcome; cleaning up loses nothing but what an update writes,
-- and an update gets back everything that cleaning up loses.
theorem disk_algebra (hdigest : ∀ data, Unbroken (sha1 data)) (program : String) (file : Line) :
    (∀ argv, main sha1 blobs argv (main sha1 blobs argv file).2 = main sha1 blobs argv file) ∧
      ((main sha1 blobs [program] file).1 = none →
        main sha1 blobs [program, "-c"] (main sha1 blobs [program] file).2 =
            main sha1 blobs [program, "-c"] file ∧
          ((∀ i line, (readLines file)[i]? = some line → isEntry line = true → '|' ∈ line →
              InPinnedSection (readLines file) i) →
            main sha1 blobs [program] (main sha1 blobs [program, "-c"] file).2 =
              main sha1 blobs [program] file)) := by
  have hread := readLines_unbroken file
  refine ⟨fun argv => ?_, fun hnone => ?_⟩
  · rw [main_eq sha1 blobs argv file]
    cases hprocess : process sha1 blobs argv (readLines file) with
    | error e =>
        change main sha1 blobs argv file = _
        rw [main_eq, hprocess]
    | ok after =>
        change main sha1 blobs argv (joinLines after) = _
        rw [main_joinLines (process_unbroken hdigest hread hprocess), process_process hprocess]
        rfl
  · have hclean : ∀ lines, process sha1 blobs [program, "-c"] lines = .ok (cleanup lines) :=
      fun _ => rfl
    have hupdate : process sha1 blobs [program] = update sha1 blobs := rfl
    have hupdates : Updates sha1 blobs (readLines file) := by
      rw [← updates_iff]
      rw [main_eq, hupdate] at hnone
      cases hresult : update sha1 blobs (readLines file) with
      | ok after => exact ⟨after, rfl⟩
      | error e =>
          rw [hresult] at hnone
          cases hnone
    have hafter := update_eq hupdates
    have hmain : main sha1 blobs [program] file =
        (none, joinLines (pass mark (updated sha1 blobs) none (readLines file))) := by
      rw [main_eq, hupdate, hafter]
      rfl
    constructor
    · rw [hmain, main_joinLines (process_unbroken hdigest hread (hupdate ▸ hafter)), main_eq,
        hclean, hclean, cleanup_update hupdates]
      rfl
    · intro hpinned
      have hcleaned : ∀ line ∈ cleanup (readLines file), Unbroken line := by
        intro result hresult
        obtain ⟨line, hline, rfl⟩ := List.mem_map.mp hresult
        exact (hread line hline).cleanupLine
      have hrestored := update_cleanup hupdates fun i line hi hentry hmem =>
        (inPinnedSection_iff (readLines file) i).mp (hpinned i line hi hentry hmem)
      have hcleanMain : main sha1 blobs [program, "-c"] file =
          (none, joinLines (cleanup (readLines file))) := by
        rw [main_eq, hclean]
        rfl
      rw [hmain, hcleanMain, main_joinLines hcleaned, hupdate, hrestored]
      rfl

-- A hash that is out of date, with the line ends of Windows.
def cameraText : Line := "# camera - from cepheus\r\n-c|0".toList

def cameraMain : List String → Line → Option PyError × Line :=
  main (fun _ => emptyDigest) cameraBlobs

theorem disk_algebra_camera :
    cameraMain ["update-sha1sums.py"] (cameraMain ["update-sha1sums.py"] cameraText).2 =
        cameraMain ["update-sha1sums.py"] cameraText ∧
      cameraMain ["update-sha1sums.py", "-c"] (cameraMain ["update-sha1sums.py"] cameraText).2 =
        cameraMain ["update-sha1sums.py", "-c"] cameraText ∧
      cameraMain ["update-sha1sums.py"] (cameraMain ["update-sha1sums.py", "-c"] cameraText).2 =
        cameraMain ["update-sha1sums.py"] cameraText := by
  have hall : emptyDigest.all (fun c => !isLineBreak c) = true := by decide +kernel
  have hdigest : ∀ _ : Bytes, Unbroken emptyDigest := by
    intro _ c hc
    exact Bool.not_eq_true' (isLineBreak c) ▸ List.all_eq_true.mp hall c hc
  have hread : readLines cameraText = ["# camera - from cepheus".toList, "-c|0".toList] := by
    decide +kernel
  have hupdated : (cameraMain ["update-sha1sums.py"] cameraText).1 = none := by decide +kernel
  have hpinned : ∀ i line, (readLines cameraText)[i]? = some line → isEntry line = true →
      '|' ∈ line → InPinnedSection (readLines cameraText) i := by
    rw [hread]
    intro i line hi hentry _
    match i with
    | 0 =>
        obtain rfl := Option.some.inj hi
        exact absurd hentry (by decide +kernel)
    | 1 => exact ⟨"# camera - from cepheus".toList, by decide +kernel, by decide +kernel⟩
    | _ + 2 => cases hi
  obtain ⟨hrepeated, hothers⟩ := @disk_algebra (fun _ => emptyDigest) cameraBlobs hdigest
    "update-sha1sums.py" cameraText
  obtain ⟨hcleaned, hrestored⟩ := hothers hupdated
  exact ⟨hrepeated _, hcleaned, hrestored hpinned⟩

end Disk

end Raphael.UpdateSha1sums
