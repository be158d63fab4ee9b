import Raphael.Search
import Mathlib.Data.List.Infix
import Mathlib.Data.Nat.Find

namespace Raphael.Search

variable {α : Type*}

theorem occursAt_iff (pat text : List α) (position : Nat) :
    OccursAt pat text position ↔ ∀ i, i < pat.length → text[position + i]? = pat[i]? := by
  unfold OccursAt
  rw [List.prefix_iff_getElem?]
  constructor <;> intro h i hi
  · rw [← List.getElem?_drop, h i hi, List.getElem?_eq_getElem hi]
  · rw [List.getElem?_drop, h i hi, List.getElem?_eq_getElem hi]

theorem border_iff (pat : List α) (start : Nat) :
    Border pat start ↔ ∀ i, start + i < pat.length → pat[i]? = pat[start + i]? := by
  unfold Border
  rw [List.prefix_iff_getElem?]
  constructor
  · intro h i hi
    have hd : i < (pat.drop start).length := by simp only [List.length_drop]; omega
    rw [h i hd, List.getElem_drop, List.getElem?_eq_getElem hi]
  · intro h i hi
    have hb : start + i < pat.length := by simp only [List.length_drop] at hi; omega
    rw [h i hb, List.getElem_drop, List.getElem?_eq_getElem hb]

theorem border_zero (pat : List α) : Border pat 0 := List.prefix_refl pat

theorem Uniform.border {pat : List α} (h : Uniform pat) (start : Nat) : Border pat start := by
  rw [border_iff]
  intro i hi
  rw [List.getElem?_eq_getElem (show i < pat.length by omega), List.getElem?_eq_getElem hi]
  exact congrArg some (h _ (List.getElem_mem _) _ (List.getElem_mem _))

-- A pattern that agrees with itself one place on repeats one symbol.
theorem uniform_of_border_one {pat : List α} (h : Border pat 1) : Uniform pat := by
  rw [border_iff] at h
  have hfirst : ∀ i, i < pat.length → pat[i]? = pat[0]? := by
    intro i
    induction i with
    | zero => exact fun _ => rfl
    | succ i ih =>
        intro hi
        have hs := h i (by omega)
        rw [show 1 + i = i + 1 by omega] at hs
        rw [← hs, ih (by omega)]
  intro a ha b hb
  obtain ⟨i, hi, rfl⟩ := List.getElem_of_mem ha
  obtain ⟨j, hj, rfl⟩ := List.getElem_of_mem hb
  have h := (hfirst i hi).trans (hfirst j hj).symm
  rw [List.getElem?_eq_getElem hi, List.getElem?_eq_getElem hj] at h
  exact Option.some.inj h

-- A pattern that overlaps itself and is not uniform has a least overlap of
-- two places or more, and its tail after the index 1 does not reoccur.
theorem exists_least_border {pat : List α} (hu : ¬Uniform pat) {start : Nat} (hpos : 0 < start)
    (hlt : start < pat.length) (hb : Border pat start) :
    ∃ least, 1 < least ∧ least ≤ start ∧ Border pat least ∧
      (∀ earlier, 0 < earlier → earlier < least → ¬Border pat earlier) ∧
      ∀ shift, 1 ≤ shift → ¬Reoccurs pat 1 shift := by
  classical
  have hex : ∃ q, 0 < q ∧ Border pat q := ⟨start, hpos, hb⟩
  obtain ⟨hq, hbq⟩ := Nat.find_spec hex
  have hle : Nat.find hex ≤ start := Nat.find_min' hex ⟨hpos, hb⟩
  have hne1 : Nat.find hex ≠ 1 := fun h1 => hu (uniform_of_border_one (h1 ▸ hbq))
  refine ⟨Nat.find hex, by omega, hle, hbq, fun earlier he hlt' hbe =>
    Nat.find_min hex hlt' ⟨he, hbe⟩, ?_⟩
  rintro shift hs ⟨hshift, hdiff, hall⟩
  have h1 : shift = 1 := by omega
  subst shift
  apply hdiff
  -- The tail from the index 1 on repeats one symbol, and the border starts in it.
  have htail : ∀ i, 1 ≤ i → i < pat.length → pat[i]? = pat[1]? := by
    intro i hi
    induction i, hi using Nat.le_induction with
    | base => exact fun _ => rfl
    | succ i hi ih =>
        intro hlen
        have h := hall (i + 1) (by omega) hlen
        rw [Nat.add_sub_cancel] at h
        rw [← h, ih (by omega)]
  have h0 := (border_iff _ _).mp hbq 0 (by omega)
  rw [Nat.add_zero] at h0
  rw [show (1 - 1 : Nat) = 0 from rfl, h0, htail _ (by omega) (by omega)]

theorem OccursAt.le_length {pat text : List α} {position : Nat} (hne : pat ≠ [])
    (h : OccursAt pat text position) : position + pat.length ≤ text.length := by
  have hl := List.IsPrefix.length_le h
  have hp := List.length_pos_of_ne_nil hne
  simp only [List.length_drop] at hl
  omega

theorem Mismatch.not_occursAt {pat text : List α} {window index : Nat}
    (hm : Mismatch pat text window index) : ¬OccursAt pat text window := fun ho =>
  hm.differs ((occursAt_iff _ _ _).mp ho index hm.index_lt)

theorem Mismatch.unique {pat text : List α} {window index other : Nat}
    (hm : Mismatch pat text window index) (ho : Mismatch pat text window other) :
    index = other := by
  rcases Nat.lt_trichotomy index other with hlt | he | hgt
  · exact absurd (hm.agrees other hlt ho.index_lt) ho.differs
  · exact he
  · exact absurd (ho.agrees index hgt hm.index_lt) hm.differs

-- Inside a mismatch an occurrence further right repeats what was matched.
theorem Mismatch.reoccurs {pat text : List α} {window index shift : Nat}
    (hm : Mismatch pat text window index) (ho : OccursAt pat text (window + shift))
    (hs : shift ≤ index) : Reoccurs pat index shift := by
  rw [occursAt_iff] at ho
  have hi := hm.index_lt
  refine ⟨hs, ?_, ?_⟩
  · intro he
    apply hm.differs
    have h := ho (index - shift) (by omega)
    rw [show window + shift + (index - shift) = window + index by omega] at h
    rw [h, he]
  · intro i hlt hn
    have h := ho (i - shift) (by omega)
    rw [show window + shift + (i - shift) = window + i by omega] at h
    rw [← h, hm.agrees i hlt hn]

theorem Mismatch.border {pat text : List α} {window index shift : Nat}
    (hm : Mismatch pat text window index) (ho : OccursAt pat text (window + shift))
    (hs : index < shift) : Border pat shift := by
  rw [occursAt_iff] at ho
  rw [border_iff]
  intro i hi
  have h := ho i (by omega)
  rw [show window + shift + i = window + (shift + i) by omega] at h
  rw [← h, hm.agrees (shift + i) (by omega) hi]

theorem Mismatch.bad_symbol {pat text : List α} {window index shift : Nat}
    (hm : Mismatch pat text window index) (ho : OccursAt pat text (window + shift))
    (hs : shift ≤ index) : pat[index - shift]? = text[window + index]? := by
  have h := (occursAt_iff _ _ _).mp ho (index - shift) (by have := hm.index_lt; omega)
  rw [← h]
  congr 1
  omega

theorem NoneBefore.zero (pat text : List α) : NoneBefore pat text 0 :=
  fun _ h => absurd h (Nat.not_lt_zero _)

-- A shift is safe when it passes no occurrence.
theorem NoneBefore.shift {pat text : List α} {window shift : Nat}
    (hb : NoneBefore pat text window) (hw : ¬OccursAt pat text window)
    (hs : ∀ s, 0 < s → s < shift → ¬OccursAt pat text (window + s)) :
    NoneBefore pat text (window + shift) := by
  intro earlier he
  rcases Nat.lt_trichotomy earlier window with hlt | heq | hgt
  · exact hb earlier hlt
  · exact heq ▸ hw
  · have h := hs (earlier - window) (by omega) (by omega)
    rwa [show window + (earlier - window) = earlier by omega] at h

section Scan

variable [DecidableEq α]

theorem firstOccurrence_eq_some {pat text : List α} {position : Nat} (hne : pat ≠ []) :
    firstOccurrence pat text = some position ↔
      OccursAt pat text position ∧ NoneBefore pat text position := by
  unfold firstOccurrence
  rw [List.find?_range_eq_some]
  constructor
  · rintro ⟨ho, _, hb⟩
    exact ⟨of_decide_eq_true ho, fun earlier he => by simpa using hb earlier he⟩
  · rintro ⟨ho, hb⟩
    have hl := ho.le_length hne
    exact ⟨decide_eq_true ho, List.mem_range.mpr (by omega),
      fun earlier he => by simpa using hb earlier he⟩

theorem firstOccurrence_eq_none {pat text : List α} (hne : pat ≠ []) :
    firstOccurrence pat text = none ↔ ∀ position, ¬OccursAt pat text position := by
  unfold firstOccurrence
  rw [List.find?_eq_none]
  constructor
  · intro h position ho
    have hl := ho.le_length hne
    exact h position (List.mem_range.mpr (by omega)) (decide_eq_true ho)
  · intro h position _ ho
    exact h position (of_decide_eq_true ho)

theorem firstOccurrence_le {pat text : List α} {position : Nat} (hne : pat ≠ [])
    (ho : OccursAt pat text position) :
    ∃ first, first ≤ position ∧ firstOccurrence pat text = some first := by
  cases h : firstOccurrence pat text with
  | none => exact absurd ho ((firstOccurrence_eq_none hne).mp h position)
  | some first =>
      refine ⟨first, ?_, rfl⟩
      by_contra hlt
      exact ((firstOccurrence_eq_some hne).mp h).2 position (by omega) ho

end Scan

end Raphael.Search
