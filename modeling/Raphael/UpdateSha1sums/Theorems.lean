import Raphael.Sections
import Raphael.UpdateSha1sums

namespace Raphael.UpdateSha1sums

open Sections

theorem splitFirst_of_not_mem {sep : Char} {line : Line} (h : sep ∉ line) :
    splitFirst sep line = line := by
  rw [splitFirst, List.splitOn_eq_singleton h, List.headD_cons]

theorem splitFirst_append {sep : Char} {field : Line} (rest : Line) (h : sep ∉ field) :
    splitFirst sep (field ++ sep :: rest) = field := by
  rw [splitFirst, List.splitOn_append_cons_self_of_not_mem h, List.headD_cons]

-- A line is its first field, alone or with a separator behind it.
theorem splitFirst_cases (sep : Char) (line : Line) :
    sep ∉ splitFirst sep line ∧
      (line = splitFirst sep line ∨ ∃ rest, line = splitFirst sep line ++ sep :: rest) := by
  by_cases hmem : sep ∈ line
  · obtain ⟨field, rest, rfl, hfield⟩ := List.eq_append_cons_of_mem hmem
    rw [splitFirst_append rest hfield]
    exact ⟨hfield, .inr ⟨rest, rfl⟩⟩
  · rw [splitFirst_of_not_mem hmem]
    exact ⟨hmem, .inl rfl⟩

theorem splitFirst_splitFirst (sep : Char) (line : Line) :
    splitFirst sep (splitFirst sep line) = splitFirst sep line :=
  splitFirst_of_not_mem (splitFirst_cases sep line).1

-- A field in front of the others decides what kind of line it is.
theorem isComment_append {field : Line} (rest : Line) (h : field ≠ []) :
    isComment (field ++ rest) = isComment field := by
  cases field with
  | nil => exact absurd rfl h
  | cons c field => rfl

theorem isComment_splitFirst {sep : Char} {line : Line} (h : splitFirst sep line ≠ []) :
    isComment (splitFirst sep line) = isComment line := by
  obtain ⟨-, heq | ⟨rest, heq⟩⟩ := splitFirst_cases sep line
  · rw [← heq]
  · conv_rhs => rw [heq]
    exact (isComment_append (sep :: rest) h).symm

-- The lines that cleanup and update may change.
def isEntry (line : Line) : Bool := line ≠ [] ∧ isComment line = false

theorem isEntry_eq_true {line : Line} :
    isEntry line = true ↔ line ≠ [] ∧ isComment line = false := by
  rw [isEntry, decide_eq_true_eq]

theorem isEntry_append {field : Line} (rest : Line) (h : isEntry field = true) :
    isEntry (field ++ rest) = true := by
  obtain ⟨hne, hcomment⟩ := isEntry_eq_true.mp h
  refine isEntry_eq_true.mpr ⟨fun hnil => hne (List.append_eq_nil_iff.mp hnil).1, ?_⟩
  rw [isComment_append rest hne, hcomment]

-- The line without its hash.
def unpin (line : Line) : Line := splitFirst '|' line

theorem unpin_unpin (line : Line) : unpin (unpin line) = unpin line :=
  splitFirst_splitFirst '|' line

theorem unpin_append (line digest : Line) : unpin (unpin line ++ '|' :: digest) = unpin line :=
  splitFirst_append digest (splitFirst_cases '|' line).1

theorem isEntry_unpin {line : Line} (h : isEntry line = true) (hne : unpin line ≠ []) :
    isEntry (unpin line) = true := by
  refine isEntry_eq_true.mpr ⟨hne, ?_⟩
  rw [unpin, isComment_splitFirst hne]
  exact (isEntry_eq_true.mp h).2

section Cleanup

theorem cleanupLine_of_not_entry {line : Line} (h : isEntry line = false) :
    cleanupLine line = line := by
  rw [cleanupLine, if_pos]
  by_contra hor
  simp only [not_or, Bool.not_eq_true] at hor
  rw [isEntry_eq_true.mpr ⟨hor.1, hor.2.1⟩] at h
  cases h

theorem cleanupLine_of_not_mem {line : Line} (h : '|' ∉ line) : cleanupLine line = line := by
  rw [cleanupLine, if_pos (.inr (.inr h))]

theorem cleanupLine_of_entry {line : Line} (h : isEntry line = true) :
    cleanupLine line = unpin line := by
  obtain ⟨hne, hcomment⟩ := isEntry_eq_true.mp h
  by_cases hmem : '|' ∈ line
  · rw [cleanupLine, if_neg (by simp [hne, hcomment, hmem]), unpin]
  · rw [cleanupLine_of_not_mem hmem, unpin, splitFirst_of_not_mem hmem]

theorem unpin_cleanupLine (line : Line) : unpin (cleanupLine line) = unpin line := by
  cases hentry : isEntry line with
  | false => rw [cleanupLine_of_not_entry hentry]
  | true => rw [cleanupLine_of_entry hentry, unpin_unpin]

theorem cleanupLine_cleanupLine (line : Line) :
    cleanupLine (cleanupLine line) = cleanupLine line := by
  cases hentry : isEntry line with
  | false => rw [cleanupLine_of_not_entry hentry, cleanupLine_of_not_entry hentry]
  | true =>
      rw [cleanupLine_of_entry hentry]
      exact cleanupLine_of_not_mem (splitFirst_cases '|' line).1

end Cleanup

-- A comment says whether the lines after it need a hash.
def mark (line : Line) : Option (Option Bool) :=
  if isComment line then some (some (isPinned line)) else none

theorem mark_of_not_comment {line : Line} (h : isComment line = false) : mark line = none := by
  rw [mark, h]
  rfl

theorem mark_of_entry {line : Line} (h : isEntry line = true) : mark line = none :=
  mark_of_not_comment (isEntry_eq_true.mp h).2

theorem mark_cleanupLine (line : Line) : mark (cleanupLine line) = mark line := by
  cases hentry : isEntry line with
  | false => rw [cleanupLine_of_not_entry hentry]
  | true =>
      rw [mark_of_entry hentry, cleanupLine_of_entry hentry]
      by_cases hne : unpin line = []
      · rw [hne]
        rfl
      · exact mark_of_entry (isEntry_unpin hentry hne)

section Update

variable (sha1 : Bytes → Line) (blobs : Line → Option Bytes)

theorem filePath_nil : filePath [] = .error .indexError := rfl

theorem pin_eq (line : Line) : pin sha1 blobs line =
    (filePath (unpin line)).bind fun path =>
      match blobs (pathJoin vendorPath path) with
      | none => .error (.ioError (pathJoin vendorPath path))
      | some data => .ok (unpin line ++ '|' :: sha1 data) := rfl

variable {sha1 blobs}

theorem pin_eq_ok {line result : Line} :
    pin sha1 blobs line = .ok result ↔
      ∃ path data, filePath (unpin line) = .ok path ∧
        blobs (pathJoin vendorPath path) = some data ∧ result = unpin line ++ '|' :: sha1 data := by
  rw [pin_eq]
  cases hpath : filePath (unpin line) with
  | error e => simp [Except.bind]
  | ok path =>
      cases hdata : blobs (pathJoin vendorPath path) with
      | none => simp [Except.bind, hdata]
      | some data => simp [Except.bind, hdata, eq_comm]

theorem unpin_ne_nil {line path : Line} (h : filePath (unpin line) = .ok path) :
    unpin line ≠ [] := by
  intro hnil
  rw [hnil, filePath_nil] at h
  cases h

theorem unpin_pin {line result : Line} (h : pin sha1 blobs line = .ok result) :
    unpin result = unpin line := by
  obtain ⟨path, data, -, -, rfl⟩ := pin_eq_ok.mp h
  exact unpin_append line (sha1 data)

theorem isEntry_pin {line result : Line} (hentry : isEntry line = true)
    (h : pin sha1 blobs line = .ok result) : isEntry result = true := by
  obtain ⟨path, data, hpath, -, rfl⟩ := pin_eq_ok.mp h
  exact isEntry_append _ (isEntry_unpin hentry (unpin_ne_nil hpath))

-- The hash depends only on the line without one.
theorem pin_congr {line other : Line} (h : unpin line = unpin other) :
    pin sha1 blobs line = pin sha1 blobs other := by
  rw [pin_eq, pin_eq, h]

end Update

-- What update makes of one line, in a section with the given flag.
def updateLine (sha1 : Bytes → Line) (blobs : Line → Option Bytes) (needSHA1 : Option Bool)
    (line : Line) : Except PyError Line :=
  if isEntry line = false then .ok line
  else
    match needSHA1 with
    | none => .error .unboundLocalError
    | some false => .ok line
    | some true => pin sha1 blobs line

section Section

variable {sha1 : Bytes → Line} {blobs : Line → Option Bytes}

theorem updateLine_of_not_entry (needSHA1 : Option Bool) {line : Line}
    (h : isEntry line = false) : updateLine sha1 blobs needSHA1 line = .ok line := by
  unfold updateLine
  rw [if_pos h]

theorem updateLine_of_entry (needSHA1 : Option Bool) {line : Line} (h : isEntry line = true) :
    updateLine sha1 blobs needSHA1 line =
      match needSHA1 with
      | none => .error .unboundLocalError
      | some false => .ok line
      | some true => pin sha1 blobs line := by
  unfold updateLine
  rw [if_neg (by simp [h])]

theorem isEntry_nil : isEntry [] = false := rfl

theorem isEntry_of_comment {line : Line} (h : isComment line = true) : isEntry line = false := by
  simp [isEntry, h]

-- The loop is a pass over the lines, whose flag is set by the comments.
theorem updateLoop_eq (needSHA1 : Option Bool) (lines : List Line) :
    updateLoop sha1 blobs needSHA1 lines =
      passM mark (updateLine sha1 blobs) needSHA1 lines := by
  induction lines generalizing needSHA1 with
  | nil => rfl
  | cons line rest ih =>
      unfold updateLoop
      by_cases hnil : line = []
      · subst hnil
        rw [if_pos rfl, passM_cons_ok mark (updateLine_of_not_entry needSHA1 isEntry_nil), ih]
        rfl
      · rw [if_neg hnil]
        cases hcomment : isComment line with
        | true =>
            have henter : enter mark needSHA1 line = some (isPinned line) := by
              rw [enter, mark, hcomment]
              rfl
            rw [if_pos rfl, ih, passM_cons_ok mark
              (updateLine_of_not_entry needSHA1 (isEntry_of_comment hcomment)), henter]
        | false =>
            have hentry : isEntry line = true := isEntry_eq_true.mpr ⟨hnil, hcomment⟩
            have hline := @updateLine_of_entry sha1 blobs needSHA1 line hentry
            have henter : enter mark needSHA1 line = needSHA1 := by
              rw [enter, mark_of_entry hentry]
              rfl
            rw [if_neg Bool.false_ne_true]
            obtain _ | _ | _ := needSHA1
            · rw [passM_cons_error mark hline]
            · rw [passM_cons_ok mark hline, henter, ih]
            · dsimp only at hline ⊢
              cases hpin : pin sha1 blobs line with
              | error e =>
                  rw [passM_cons_error mark (hline.trans hpin)]
                  rfl
              | ok result =>
                  rw [passM_cons_ok mark (hline.trans hpin), henter, ← ih]
                  rfl

-- A line is kept, or gets a hash in a section that asks for one.
theorem updateLine_cases {needSHA1 : Option Bool} {line result : Line}
    (h : updateLine sha1 blobs needSHA1 line = .ok result) :
    (result = line ∧ (isEntry line = true → needSHA1 = some false)) ∨
      (isEntry line = true ∧ needSHA1 = some true ∧ pin sha1 blobs line = .ok result) := by
  cases hentry : isEntry line with
  | false =>
      rw [updateLine_of_not_entry needSHA1 hentry] at h
      exact .inl ⟨(Except.ok.inj h).symm, fun hfalse => nomatch hfalse⟩
  | true =>
      rw [updateLine_of_entry needSHA1 hentry] at h
      obtain _ | _ | _ := needSHA1
      · cases h
      · exact .inl ⟨(Except.ok.inj h).symm, fun _ => rfl⟩
      · exact .inr ⟨rfl, rfl, h⟩

section Updated

variable {needSHA1 : Option Bool} {line result : Line}
  (h : updateLine sha1 blobs needSHA1 line = .ok result)
include h

theorem unpin_updateLine : unpin result = unpin line := by
  obtain ⟨rfl, -⟩ | ⟨-, -, hpin⟩ := updateLine_cases h
  · rfl
  · exact unpin_pin hpin

theorem mark_updateLine : mark result = mark line := by
  obtain ⟨rfl, -⟩ | ⟨hentry, -, hpin⟩ := updateLine_cases h
  · rfl
  · rw [mark_of_entry hentry, mark_of_entry (isEntry_pin hentry hpin)]

theorem updateLine_updateLine : updateLine sha1 blobs needSHA1 result = .ok result := by
  obtain ⟨rfl, -⟩ | ⟨hentry, rfl, hpin⟩ := updateLine_cases h
  · exact h
  · rw [updateLine_of_entry _ (isEntry_pin hentry hpin)]
    exact (pin_congr (unpin_pin hpin)).trans hpin

theorem cleanupLine_updateLine : cleanupLine result = cleanupLine line := by
  obtain ⟨rfl, -⟩ | ⟨hentry, -, hpin⟩ := updateLine_cases h
  · rfl
  · rw [cleanupLine_of_entry hentry, cleanupLine_of_entry (isEntry_pin hentry hpin),
      unpin_pin hpin]

-- What cleanup removes is written again, where update writes at all.
theorem updateLine_cleanupLine
    (hsection : isEntry line = true → '|' ∈ line → needSHA1 = some true) :
    updateLine sha1 blobs needSHA1 (cleanupLine line) = .ok result := by
  by_cases hmem : '|' ∈ line
  · cases hentry : isEntry line with
    | false => rwa [cleanupLine_of_not_entry hentry]
    | true =>
        obtain rfl := hsection hentry hmem
        rw [updateLine_of_entry _ hentry] at h
        obtain ⟨path, data, hpath, -, -⟩ := pin_eq_ok.mp h
        rw [cleanupLine_of_entry hentry,
          updateLine_of_entry _ (isEntry_unpin hentry (unpin_ne_nil hpath))]
        exact (pin_congr (unpin_unpin line)).trans h
  · rwa [cleanupLine_of_not_mem hmem]

end Updated

end Section

end Raphael.UpdateSha1sums
