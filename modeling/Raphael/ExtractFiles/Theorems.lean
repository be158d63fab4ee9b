import Mathlib.Data.List.Basic
import Raphael.ExtractFiles

namespace Raphael.ExtractFiles

-- One request on the command line, with the word that it is made by.
inductive Item where
  | noCleanup (word : String)
  | kang (word : String)
  | blobSection (word value : String)
  | source (path : String)
  deriving DecidableEq, Repr

def noCleanupWords : List String := ["-n", "--no-cleanup"]
def kangWords : List String := ["-k", "--kang"]
def sectionWords : List String := ["-s", "--section"]

namespace Item

def words : Item → List String
  | noCleanup word => [word]
  | kang word => [word]
  | blobSection word value => [word, value]
  | source path => [path]

-- A section may be called anything, a source nothing that is an option.
def WellFormed : Item → Prop
  | noCleanup word => word ∈ noCleanupWords
  | kang word => word ∈ kangWords
  | blobSection word _ => word ∈ sectionWords
  | source path => path ∉ noCleanupWords ∧ path ∉ kangWords ∧ path ∉ sectionWords

def keepsVendor : Item → Bool
  | noCleanup _ => true
  | blobSection _ _ => true
  | _ => false

def isKang : Item → Bool
  | kang _ => true
  | _ => false

def sectionValue : Item → Option String
  | blobSection _ value => some value
  | _ => none

def path : Item → Option String
  | source path => some path
  | _ => none

end Item

-- What a command line asks for: of two sections or sources the last one.
def requested (before : Options) (items : List Item) : Options where
  cleanVendor := before.cleanVendor && !items.any Item.keepsVendor
  kang := if items.any Item.isKang then "--kang" else before.kang
  sectionName := (items.filterMap Item.sectionValue).getLastD before.sectionName
  src := (items.filterMap Item.path).getLastD before.src

section Reading

variable {item other : Item} {items others : List Item} {args : List String} {options : Options}

theorem parseArgs_cons (hitem : item.WellFormed) (rest : List String) :
    parseArgs options (item.words ++ rest) = parseArgs (requested options [item]) rest := by
  cases item with
  | noCleanup word =>
      simp only [Item.WellFormed, noCleanupWords, List.mem_cons, List.not_mem_nil, or_false]
        at hitem
      rw [Item.words, List.singleton_append, parseArgs.eq_def]
      simp [hitem, requested, Item.keepsVendor, Item.isKang, Item.sectionValue, Item.path]
  | kang word =>
      simp only [Item.WellFormed, kangWords, List.mem_cons, List.not_mem_nil, or_false] at hitem
      rw [Item.words, List.singleton_append, parseArgs.eq_def]
      obtain rfl | rfl := hitem <;>
        simp [requested, Item.keepsVendor, Item.isKang, Item.sectionValue, Item.path]
  | blobSection word value =>
      simp only [Item.WellFormed, sectionWords, List.mem_cons, List.not_mem_nil, or_false] at hitem
      rw [Item.words, List.cons_append, List.singleton_append, parseArgs.eq_def]
      obtain rfl | rfl := hitem <;>
        simp [requested, Item.keepsVendor, Item.isKang, Item.sectionValue, Item.path]
  | source path =>
      simp only [Item.WellFormed, noCleanupWords, kangWords, sectionWords, List.mem_cons,
        List.not_mem_nil, or_false] at hitem
      rw [Item.words, List.singleton_append, parseArgs.eq_def]
      simp [hitem, requested, Item.keepsVendor, Item.isKang, Item.sectionValue, Item.path]

theorem requested_cons (options : Options) (item : Item) (items : List Item) :
    requested options (item :: items) = requested (requested options [item]) items := by
  cases item <;>
    simp only [requested, List.any_cons, List.any_nil, List.filterMap_cons, List.filterMap_nil,
      List.getLastD_cons, List.getLastD_nil, Item.keepsVendor, Item.isKang, Item.sectionValue,
      Item.path, Bool.or_false, Bool.not_false, Bool.and_true, Bool.true_or, Bool.false_or,
      Bool.not_true, Bool.and_false, Bool.false_and, if_true, ite_self, Bool.false_eq_true,
      if_false]

theorem parseArgs_items (hitems : ∀ item ∈ items, item.WellFormed) (rest : List String) :
    parseArgs options (items.flatMap Item.words ++ rest) =
      parseArgs (requested options items) rest := by
  induction items generalizing options with
  | nil => simp [requested]
  | cons item items ih =>
      obtain ⟨hitem, hrest⟩ := List.forall_mem_cons.mp hitems
      rw [List.flatMap_cons, List.append_assoc, parseArgs_cons hitem, ih hrest, ← requested_cons]

theorem words_disjoint : (∀ word ∈ noCleanupWords, word ∉ kangWords ∧ word ∉ sectionWords) ∧
    ∀ word ∈ kangWords, word ∉ sectionWords := by
  decide

-- The first word of a line tells which request it begins.
theorem item_unique (hitem : item.WellFormed) (hother : other.WellFormed) {rest rest' : List String}
    (h : item.words ++ rest = other.words ++ rest') : item = other ∧ rest = rest' := by
  obtain ⟨hcleanup, hkang⟩ := words_disjoint
  cases item <;> cases other <;>
    simp only [Item.words, List.cons_append, List.nil_append, List.cons.injEq] at h <;>
    grind [Item.WellFormed]

theorem words_injective (hitems : ∀ item ∈ items, item.WellFormed)
    (hothers : ∀ item ∈ others, item.WellFormed)
    (h : items.flatMap Item.words = others.flatMap Item.words) : items = others := by
  have hwords : ∀ item : Item, item.words ≠ [] := by
    intro item
    cases item <;> simp [Item.words]
  induction items generalizing others with
  | nil =>
      cases others with
      | nil => rfl
      | cons other others => simp [hwords other] at h
  | cons item items ih =>
      obtain ⟨hitem, hrest⟩ := List.forall_mem_cons.mp hitems
      cases others with
      | nil => simp [hwords item] at h
      | cons other others =>
          obtain ⟨hother, hrest'⟩ := List.forall_mem_cons.mp hothers
          obtain ⟨rfl, htail⟩ := item_unique hitem hother h
          rw [ih hrest hrest' htail]

-- A line that is made of requests, but for a last word that wants a section.
def Made (items : List Item) (args : List String) : Prop :=
  (∀ item ∈ items, item.WellFormed) ∧
    (args = items.flatMap Item.words ∨
      ∃ word ∈ sectionWords, args = items.flatMap Item.words ++ [word])

theorem Made.cons {rest : List String} (hitem : item.WellFormed) (h : ∃ items, Made items rest) :
    ∃ items, Made items (item.words ++ rest) := by
  obtain ⟨items, hitems, hrest⟩ := h
  refine ⟨item :: items, List.forall_mem_cons.mpr ⟨hitem, hitems⟩, ?_⟩
  obtain rfl | ⟨word, hword, rfl⟩ := hrest
  · exact .inl rfl
  · exact .inr ⟨word, hword, by simp⟩

theorem exists_made (options : Options) (args : List String) : ∃ items, Made items args := by
  fun_induction parseArgs options args with
  | case1 => exact ⟨[], by simp, .inl rfl⟩
  | case2 options word rest hword ih =>
      exact @Made.cons (.noCleanup word) rest
        (by simpa [Item.WellFormed, noCleanupWords] using hword) ih
  | case3 options word rest _ hword ih =>
      exact @Made.cons (.kang word) rest (by simpa [Item.WellFormed, kangWords] using hword) ih
  | case4 options word _ _ hword =>
      exact ⟨[], by simp, .inr ⟨word, by simpa [sectionWords] using hword, rfl⟩⟩
  | case5 options word _ _ hword value rest ih =>
      exact @Made.cons (.blobSection word value) rest
        (by simpa [Item.WellFormed, sectionWords] using hword) ih
  | case6 options word rest hcleanup hkang hsection ih =>
      refine @Made.cons (.source word) rest ?_ ih
      simp only [Item.WellFormed, noCleanupWords, kangWords, sectionWords, List.mem_cons,
        List.not_mem_nil, or_false]
      exact ⟨hcleanup, hkang, hsection⟩

-- What the command line asks the helper for: the vendor folder is cleaned unless
-- something is said against it, and the last section and the last source count.
def requestedCalls (myDir androidRoot environmentSrc : String) (items : List Item) :
    List (List String) :=
  let cleanVendor := if items.any Item.keepsVendor then "false" else "true"
  let kang := if items.any Item.isKang then "--kang" else ""
  let sectionName := (items.filterMap Item.sectionValue).getLast?.getD ""
  let src := (items.filterMap Item.path).getLast?.getD environmentSrc
  [["setup_vendor", "raphael", "xiaomi", androidRoot, "false", cleanVendor],
    ["extract", myDir ++ "/proprietary-files.txt", if src = "" then "adb" else src, kang,
      "--section", sectionName],
    [myDir ++ "/setup-makefiles.sh"]]

theorem calls_requested (myDir androidRoot environmentSrc : String) (items : List Item) :
    calls myDir androidRoot (requested (initial environmentSrc) items) =
      requestedCalls myDir androidRoot environmentSrc items := by
  simp only [calls, requestedCalls, requested, initial, List.getLastD_eq_getLast?, Bool.true_and,
    DEVICE, VENDOR]
  cases items.any Item.keepsVendor <;> rfl

-- A command line has one reading, which the calls follow, and the only one
-- that is refused ends where a section should follow.
theorem extractFiles_reads (myDir androidRoot environmentSrc : String) (args : List String) :
    (∃ items : List Item, (∀ item ∈ items, item.WellFormed) ∧ args = items.flatMap Item.words ∧
      (∀ others : List Item, (∀ item ∈ others, item.WellFormed) → args = others.flatMap Item.words →
        others = items) ∧
      extractFiles myDir androidRoot environmentSrc args =
        some (requestedCalls myDir androidRoot environmentSrc items)) ∨
    ∃ (items : List Item) (word : String), (∀ item ∈ items, item.WellFormed) ∧
      word ∈ sectionWords ∧
      args = items.flatMap Item.words ++ [word] ∧
      extractFiles myDir androidRoot environmentSrc args = none := by
  obtain ⟨items, hitems, rfl | ⟨word, hword, rfl⟩⟩ := exists_made (initial environmentSrc) args
  · left
    refine ⟨items, hitems, rfl, ?_, ?_⟩
    · exact fun others hothers h => words_injective hothers hitems h.symm
    · have hparse := @parseArgs_items items (initial environmentSrc) hitems []
      rw [List.append_nil] at hparse
      rw [extractFiles, hparse, ← calls_requested]
      rfl
  · right
    refine ⟨items, word, hitems, hword, rfl, ?_⟩
    rw [extractFiles, parseArgs_items hitems]
    simp only [sectionWords, List.mem_cons, List.not_mem_nil, or_false] at hword
    obtain rfl | rfl := hword <;> rfl

end Reading

end Raphael.ExtractFiles
