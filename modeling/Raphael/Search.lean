import Mathlib.Data.List.Basic

namespace Raphael.Search

variable {α : Type*}

-- The pattern stands in the text at this position.
def OccursAt (pat text : List α) (position : Nat) : Prop :=
  pat <+: text.drop position

instance [DecidableEq α] (pat text : List α) (position : Nat) :
    Decidable (OccursAt pat text position) :=
  inferInstanceAs (Decidable (pat <+: text.drop position))

def NoneBefore (pat text : List α) (position : Nat) : Prop :=
  ∀ earlier, earlier < position → ¬OccursAt pat text earlier

-- The naive left-to-right scan.
def firstOccurrence [DecidableEq α] (pat text : List α) : Option Nat :=
  (List.range (text.length + 1)).find? fun position => decide (OccursAt pat text position)

-- The suffix that starts at `start` is also a prefix. Every pattern has the
-- border at 0, and a border strictly inside makes the pattern overlap itself.
def Border (pat : List α) (start : Nat) : Prop :=
  pat.drop start <+: pat

instance [DecidableEq α] (pat : List α) (start : Nat) : Decidable (Border pat start) :=
  inferInstanceAs (Decidable (pat.drop start <+: pat))

def Unbordered (pat : List α) : Prop :=
  ∀ start, 0 < start → start < pat.length → ¬Border pat start

def Uniform (pat : List α) : Prop :=
  ∀ a ∈ pat, ∀ b ∈ pat, a = b

-- The part of the pattern after `index` stands once more `shift` places to
-- the left, and there another symbol comes before it.
def Reoccurs (pat : List α) (index shift : Nat) : Prop :=
  shift ≤ index ∧ pat[index - shift]? ≠ pat[index]? ∧
    ∀ i, index < i → i < pat.length → pat[i - shift]? = pat[i]?

-- A window of the text that agrees with the pattern after `index`, and
-- differs from it at `index`.
structure Mismatch (pat text : List α) (window index : Nat) : Prop where
  index_lt : index < pat.length
  differs : text[window + index]? ≠ pat[index]?
  agrees : ∀ i, index < i → i < pat.length → text[window + i]? = pat[i]?

end Raphael.Search
