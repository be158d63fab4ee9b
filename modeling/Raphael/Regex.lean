import Mathlib.Data.List.Basic
import Mathlib.Data.List.Forall2

namespace Raphael.Regex

variable {α : Type*}

-- A symbol class with a repetition: once, `+` or `*`.
inductive Item (α : Type*)
  | one (accepts : α → Bool)
  | plus (accepts : α → Bool)
  | star (accepts : α → Bool)

def Item.accepts : Item α → α → Bool
  | one accepts | plus accepts | star accepts => accepts

def Item.allows : Item α → Nat → Bool
  | one _, count => count == 1
  | plus _, count => 0 < count
  | star _, _ => true

def literal [BEq α] (text : List α) : List (Item α) :=
  text.map fun symbol => .one (· == symbol)

-- The pieces of the text that the items take, one for each item. Repetitions
-- are greedy, and a repetition gives symbols back when the rest fails.
def matchHere : List (Item α) → List α → Option (List (List α))
  | [], _ => some []
  | item :: items, text =>
      (List.range ((text.takeWhile item.accepts).length + 1)).reverse.findSome? fun count =>
        if item.allows count then
          (matchHere items (text.drop count)).map (text.take count :: ·)
        else none

-- The leftmost match.
def search (pattern : List (Item α)) (text : List α) : Option (List (List α)) :=
  (List.range (text.length + 1)).findSome? fun start => matchHere pattern (text.drop start)

-- The pieces are a word of the pattern's language.
def Spells (pattern : List (Item α)) (pieces : List (List α)) : Prop :=
  List.Forall₂ (fun item piece =>
    item.allows piece.length = true ∧ ∀ symbol ∈ piece, item.accepts symbol = true) pattern pieces

end Raphael.Regex
