import Raphael.UpdateSha1sums.Algebra

namespace Raphael.UpdateSha1sums

open Sections

def suffix (sep : Char) : Option Line → Line
  | none => []
  | some field => sep :: field

theorem splitFirst_suffix {sep : Char} {field : Line} (rest : Option Line) (h : sep ∉ field) :
    splitFirst sep (field ++ suffix sep rest) = field := by
  cases rest with
  | none => rw [suffix, List.append_nil, splitFirst_of_not_mem h]
  | some rest => exact splitFirst_append rest h

theorem splitLast_suffix {sep : Char} {field : Line} {rest : Option Line} (h : sep ∉ field)
    (hrest : ∀ last ∈ rest, sep ∉ last) :
    splitLast sep (field ++ suffix sep rest) = rest.getD field := by
  cases rest with
  | none => rw [suffix, List.append_nil, splitLast, List.splitOn_eq_singleton h]; rfl
  | some last =>
      rw [suffix, splitLast, List.splitOn_append_cons_self_of_not_mem h,
        List.splitOn_eq_singleton (hrest last rfl)]
      rfl

theorem not_mem_suffix {c sep : Char} {field : Option Line} (hsep : c ≠ sep)
    (h : ∀ text ∈ field, c ∉ text) : c ∉ suffix sep field := by
  cases field with
  | none => exact List.not_mem_nil
  | some text => exact List.not_mem_cons_of_ne_of_not_mem hsep (h text rfl)

def dropDash : Line → Line
  | '-' :: path => path
  | path => path

theorem filePath_eq {line : Line} (h : splitLast ':' (splitFirst ';' line) ≠ []) :
    filePath line = .ok (dropDash (splitLast ':' (splitFirst ';' line))) := by
  unfold filePath dropDash
  split
  · rename_i hnil
    exact absurd hnil h
  · rename_i path hdash
    rw [hdash]
    rfl
  · rename_i hdash
    split
    · rename_i path heq
      exact absurd heq (hdash path)
    · rfl

-- A path without the characters that end a field.
structure IsField (path : Line) : Prop where
  nonempty : path ≠ []
  noBar : '|' ∉ path
  noSemicolon : ';' ∉ path
  noColon : ':' ∉ path

-- [-]src[:dst][;args][|sha1], where a line that starts with a hash sign would be
-- a comment.
structure Entry where
  optional : Bool
  src : Line
  dst : Option Line
  args : Option Line
  digest : Option Line
  isField_src : IsField src
  isField_dst : ∀ path ∈ dst, IsField path
  noBar_args : ∀ text ∈ args, '|' ∉ text
  notComment : optional = false → isComment src = false

namespace Entry

variable (entry : Entry)

def source : Line := if entry.optional then '-' :: entry.src else entry.src

def location : Line := entry.source ++ suffix ':' entry.dst

def base : Line := entry.location ++ suffix ';' entry.args

def text : Line := entry.base ++ suffix '|' entry.digest

-- The file whose hash is taken: dst if it is there, else src, without the dash.
def path : Line := dropDash (entry.dst.getD entry.source)

theorem not_mem_source {c : Char} (hdash : c ≠ '-') (hsrc : c ∉ entry.src) : c ∉ entry.source := by
  unfold source
  split
  · exact List.not_mem_cons_of_ne_of_not_mem hdash hsrc
  · exact hsrc

theorem source_ne_nil : entry.source ≠ [] := by
  unfold source
  split
  · exact List.cons_ne_nil _ _
  · exact entry.isField_src.nonempty

theorem noSemicolon_location : ';' ∉ entry.location := by
  refine fun hmem => (List.mem_append.mp hmem).elim ?_ ?_
  · exact entry.not_mem_source (by decide) entry.isField_src.noSemicolon
  · exact not_mem_suffix (by decide) fun path h => (entry.isField_dst path h).noSemicolon

theorem noBar_base : '|' ∉ entry.base := by
  refine fun hmem => (List.mem_append.mp hmem).elim
    (fun hlocation => (List.mem_append.mp hlocation).elim ?_ ?_) ?_
  · exact entry.not_mem_source (by decide) entry.isField_src.noBar
  · exact not_mem_suffix (by decide) fun path h => (entry.isField_dst path h).noBar
  · exact not_mem_suffix (by decide) entry.noBar_args

theorem unpin_text : unpin entry.text = entry.base :=
  splitFirst_suffix entry.digest entry.noBar_base

theorem filePath_base : filePath entry.base = .ok entry.path := by
  have hcolon : ':' ∉ entry.source :=
    entry.not_mem_source (by decide) entry.isField_src.noColon
  have hlast : splitLast ':' (splitFirst ';' entry.base) = entry.dst.getD entry.source := by
    rw [base, splitFirst_suffix entry.args entry.noSemicolon_location, location,
      splitLast_suffix hcolon fun path h => (entry.isField_dst path h).noColon]
  have hne : entry.dst.getD entry.source ≠ [] := by
    cases hdst : entry.dst with
    | none => exact entry.source_ne_nil
    | some path => exact (entry.isField_dst path hdst).nonempty
  rw [filePath_eq (by rwa [hlast]), hlast, path]

theorem isEntry_text : isEntry entry.text = true := by
  have hsource : isEntry entry.source = true := by
    refine isEntry_eq_true.mpr ⟨entry.source_ne_nil, ?_⟩
    unfold source
    split
    · rfl
    · rename_i hoptional
      exact entry.notComment (Bool.eq_false_iff.mpr hoptional)
  rw [text, base, location, List.append_assoc, List.append_assoc]
  exact isEntry_append _ hsource

end Entry

def Manifest (lines : List Line) : Prop :=
  ∀ line ∈ lines, isEntry line = true → ∃ entry : Entry, line = entry.text

def FirstComment (lines : List Line) : Prop :=
  ∀ line, lines.find? (· ≠ []) = some line → isComment line = true

def nearestComment (lines : List Line) (i : Nat) : Option Line :=
  (lines.take i).reverse.find? isComment

def InPinnedSection (lines : List Line) (i : Nat) : Prop :=
  ∃ comment, nearestComment lines i = some comment ∧ isPinned comment = true

theorem findSome?_mark (lines : List Line) :
    lines.findSome? mark = (lines.find? isComment).map fun comment => some (isPinned comment) := by
  induction lines with
  | nil => rfl
  | cons line rest ih =>
      cases hcomment : isComment line with
      | true => simp [mark, hcomment]
      | false => simp [mark, hcomment, ih]

-- The flag is the one that the nearest comment sets.
theorem sectionAt_mark (lines : List Line) (i : Nat) :
    sectionAt mark none (lines.take i) = (nearestComment lines i).map isPinned := by
  rw [sectionAt_eq, findSome?_mark, nearestComment]
  cases (lines.take i).reverse.find? isComment <;> rfl

theorem inPinnedSection_iff (lines : List Line) (i : Nat) :
    InPinnedSection lines i ↔ sectionAt mark none (lines.take i) = some true := by
  rw [sectionAt_mark, Option.map_eq_some_iff]
  rfl

-- Once it is set, the flag stays set.
theorem everywhere_set (b : Bool) (lines : List Line) :
    Everywhere mark (fun s line => isEntry line = true → s ≠ none) (some b) lines := by
  induction lines generalizing b with
  | nil => exact everywhere_nil mark _ _
  | cons line rest ih =>
      refine (everywhere_cons mark _ _ line rest).mpr ⟨fun _ => Option.some_ne_none b, ?_⟩
      rw [enter, mark]
      split
      · exact ih _
      · exact ih _

theorem firstComment_iff (lines : List Line) :
    FirstComment lines ↔
      Everywhere mark (fun s line => isEntry line = true → s ≠ none) none lines := by
  induction lines with
  | nil => exact iff_of_true (fun _ h => nomatch h) (everywhere_nil mark _ none)
  | cons line rest ih =>
      rw [everywhere_cons]
      by_cases hnil : line = []
      · subst hnil
        have hfind : FirstComment ([] :: rest) ↔ FirstComment rest := by
          simp [FirstComment]
        rw [hfind, ih]
        exact (and_iff_right fun h => nomatch h).symm
      · have hfind : FirstComment (line :: rest) ↔ isComment line = true := by
          simp [FirstComment, hnil]
        rw [hfind]
        cases hcomment : isComment line with
        | true =>
            refine iff_of_true rfl ⟨fun h => ?_, ?_⟩
            · rw [isEntry_of_comment hcomment] at h
              cases h
            · rw [enter, mark, hcomment]
              exact everywhere_set (isPinned line) rest
        | false =>
            have hentry : isEntry line = true := isEntry_eq_true.mpr ⟨hnil, hcomment⟩
            exact iff_of_false Bool.false_ne_true fun h => h.1 hentry rfl

section Readable

variable (sha1 : Bytes → Line) (blobs : Line → Option Bytes)

-- Every file whose hash is needed can be read.
def Readable (lines : List Line) : Prop :=
  ∀ i (entry : Entry), lines[i]? = some entry.text → InPinnedSection lines i →
    ∃ data, blobs (pathJoin vendorPath entry.path) = some data

variable {blobs}

theorem pin_entry {entry : Entry} {data : Bytes}
    (hdata : blobs (pathJoin vendorPath entry.path) = some data) :
    pin sha1 blobs entry.text = .ok (entry.base ++ '|' :: sha1 data) := by
  refine pin_eq_ok.mpr ⟨entry.path, data, ?_, hdata, ?_⟩
  · rw [entry.unpin_text, entry.filePath_base]
  · rw [entry.unpin_text]

theorem readable_of_pin {entry : Entry} {result : Line}
    (h : pin sha1 blobs entry.text = .ok result) :
    ∃ data, blobs (pathJoin vendorPath entry.path) = some data := by
  obtain ⟨path, data, hpath, hdata, -⟩ := pin_eq_ok.mp h
  rw [entry.unpin_text, entry.filePath_base] at hpath
  obtain rfl := Except.ok.inj hpath
  exact ⟨data, hdata⟩

-- Updates fail at an entry before the first comment, and at a file that cannot
-- be read.
theorem updates_iff_readable {lines : List Line} (hmanifest : Manifest lines) :
    Updates sha1 blobs lines ↔ FirstComment lines ∧ Readable blobs lines := by
  rw [firstComment_iff]
  constructor
  · intro h
    refine ⟨fun i line hi hentry hnone => ?_, fun i entry hi hsection => ?_⟩
    · obtain ⟨result, hresult⟩ := h i line hi
      rw [hnone, updateLine_of_entry _ hentry] at hresult
      cases hresult
    · obtain ⟨result, hresult⟩ := h i entry.text hi
      rw [(inPinnedSection_iff lines i).mp hsection,
        updateLine_of_entry _ entry.isEntry_text] at hresult
      exact readable_of_pin sha1 hresult
  · rintro ⟨hset, hreadable⟩ i line hi
    cases hentry : isEntry line with
    | false => exact ⟨line, updateLine_of_not_entry _ hentry⟩
    | true =>
        rw [updateLine_of_entry _ hentry]
        have hstate := hset i line hi hentry
        cases hsection : sectionAt mark none (lines.take i) with
        | none => exact absurd hsection hstate
        | some needSHA1 =>
            cases needSHA1 with
            | false => exact ⟨line, rfl⟩
            | true =>
                obtain ⟨entry, rfl⟩ := hmanifest line (List.mem_of_getElem? hi) hentry
                obtain ⟨data, hdata⟩ :=
                  hreadable i entry hi ((inPinnedSection_iff lines i).mpr hsection)
                exact ⟨_, pin_entry sha1 hdata⟩

end Readable

end Raphael.UpdateSha1sums
