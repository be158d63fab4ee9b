import Raphael.Regex
import Mathlib.Data.List.Infix
import Mathlib.Data.List.TakeWhile

namespace Raphael.Regex

variable {α : Type*}

theorem take_of_le_takeWhile (accepts : α → Bool) {text : List α} {count : Nat}
    (h : count ≤ (text.takeWhile accepts).length) :
    (text.take count).length = count ∧ ∀ symbol ∈ text.take count, accepts symbol = true := by
  have hp : text.takeWhile accepts <+: text := List.takeWhile_prefix accepts
  refine ⟨List.length_take_of_le (h.trans hp.length_le), fun symbol hm => ?_⟩
  have hsub : text.take count <+: text.takeWhile accepts :=
    List.prefix_of_prefix_length_le (List.take_prefix _ _) hp
      (by rw [List.length_take]; exact (Nat.min_le_left _ _).trans h)
  exact List.mem_takeWhile_imp (hsub.subset hm)

theorem length_le_takeWhile (accepts : α → Bool) {piece : List α} (rest : List α)
    (h : ∀ symbol ∈ piece, accepts symbol = true) :
    piece.length ≤ ((piece ++ rest).takeWhile accepts).length := by
  rw [List.takeWhile_append_of_pos h, List.length_append]
  exact Nat.le_add_right _ _

theorem matchHere_sound {pattern : List (Item α)} {text : List α} {pieces : List (List α)}
    (h : matchHere pattern text = some pieces) :
    Spells pattern pieces ∧ pieces.flatten <+: text := by
  induction pattern generalizing text pieces with
  | nil =>
      obtain rfl : [] = pieces := Option.some.inj h
      exact ⟨.nil, List.nil_prefix⟩
  | cons item items ih =>
      obtain ⟨count, hm, hc⟩ := List.exists_of_findSome?_eq_some h
      rw [List.mem_reverse, List.mem_range] at hm
      split at hc
      · rename_i hallows
        obtain ⟨rest, hr, rfl⟩ := Option.map_eq_some_iff.mp hc
        obtain ⟨hs, hp⟩ := ih hr
        obtain ⟨hl, ha⟩ := take_of_le_takeWhile item.accepts (Nat.lt_succ_iff.mp hm)
        refine ⟨.cons ⟨by rw [hl]; exact hallows, ha⟩ hs, ?_⟩
        rw [List.flatten_cons]
        conv_rhs => rw [← List.take_append_drop count text]
        exact (List.prefix_append_right_inj _).mpr hp
      · cases hc

-- Backtracking finds a match wherever a word of the language starts.
theorem matchHere_complete {pattern : List (Item α)} {text : List α} {pieces : List (List α)}
    (hs : Spells pattern pieces) (hp : pieces.flatten <+: text) :
    (matchHere pattern text).isSome := by
  induction hs generalizing text with
  | nil => rfl
  | @cons item piece items pieces hitem hs ih =>
      obtain ⟨rest, rfl⟩ := hp
      rw [List.flatten_cons, List.append_assoc]
      rw [matchHere, List.findSome?_isSome_iff]
      refine ⟨piece.length, ?_, ?_⟩
      · rw [List.mem_reverse, List.mem_range]
        have := length_le_takeWhile item.accepts (pieces.flatten ++ rest) hitem.2
        omega
      · have hi : (matchHere items (pieces.flatten ++ rest)).isSome := ih (List.prefix_append _ _)
        simpa [hitem.1] using hi

theorem search_isSome_iff (pattern : List (Item α)) (text : List α) :
    (search pattern text).isSome ↔ ∃ pieces, Spells pattern pieces ∧ pieces.flatten <:+: text := by
  unfold search
  rw [List.findSome?_isSome_iff]
  constructor
  · rintro ⟨start, _, h⟩
    obtain ⟨pieces, hm⟩ := Option.isSome_iff_exists.mp h
    obtain ⟨hs, hp⟩ := matchHere_sound hm
    exact ⟨pieces, hs, hp.isInfix.trans (List.drop_suffix start text).isInfix⟩
  · rintro ⟨pieces, hs, before, after, rfl⟩
    refine ⟨before.length, ?_, ?_⟩
    · rw [List.mem_range, List.append_assoc, List.length_append]
      omega
    · apply matchHere_complete hs
      rw [List.append_assoc, List.drop_left]
      exact List.prefix_append _ _

theorem search_eq_none_iff (pattern : List (Item α)) (text : List α) :
    search pattern text = none ↔
      ∀ pieces, Spells pattern pieces → ¬pieces.flatten <:+: text := by
  rw [← Option.not_isSome_iff_eq_none, search_isSome_iff]
  simp only [not_exists, not_and]

end Raphael.Regex
