import Mathlib.Algebra.Ring.Int.Defs
import Mathlib.Algebra.Ring.Nat
import Mathlib.Data.List.Basic

namespace Raphael.Recovery

-- The bytes that a `char*` may be read at. A read outside the list is an
-- out-of-bounds access and makes the whole computation `none`, as signed
-- overflow, a uint32_t counter that wraps and a loop that does not come to its
-- end do.
abbrev Bytes := List UInt8

def ascii (text : String) : Bytes := text.toList.map fun c => c.toNat.toUInt8

-- `a - b` in size_t.
def sizeSub (a b : Nat) : Nat := (a + 2 ^ 64 - b) % 2 ^ 64

def sizeAdd (a b : Nat) : Nat := (a + b) % 2 ^ 64

def toUInt32 (n : Nat) : Nat := n % 2 ^ 32

def uint32Add (a b : Nat) : Option Nat := if a + b < 2 ^ 32 then some (a + b) else none

-- The conversion of a size_t to int keeps the low 32 bits.
def toInt (n : Nat) : Int := (n : Int).bmod (2 ^ 32)

def intAdd (a b : Int) : Option Int :=
  if -2 ^ 31 ≤ a + b ∧ a + b < 2 ^ 31 then some (a + b) else none

def readAt (str : Bytes) (i : Int) : Option UInt8 :=
  if 0 ≤ i then str[i.toNat]? else none

def store (table : List Int) (index : Nat) (value : Int) : Option (List Int) :=
  if index < table.length then some (table.set index value) else none

-- The difference of the first two bytes that differ, 0 when there are none
-- before a common NUL or among the first `n`.
def strncmp : Bytes → Bytes → Nat → Option Int
  | _, _, 0 => some 0
  | a :: s, b :: t, n + 1 =>
      if a ≠ b then some (a.toNat - b.toNat)
      else if a = 0 then some 0
      else strncmp s t n
  | _, _, _ + 1 => none

-- The C string at the start of the bytes, when a NUL ends it.
def cString : Bytes → Option Bytes
  | [] => none
  | c :: rest => if c = 0 then some [] else (cString rest).map (c :: ·)

-- snprintf(str, len, "%s", source): the bytes stored in `str`, the NUL included.
def snprintfString (len : Nat) (source : Bytes) : Option Bytes :=
  (cString source).map fun text => if len = 0 then [] else text.take (len - 1) ++ [0]

end Raphael.Recovery
