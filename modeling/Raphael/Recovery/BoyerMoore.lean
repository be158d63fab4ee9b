import Raphael.Recovery.CLib

namespace Raphael.Recovery

def ALPHABET_LEN : Nat := 256

-- The fuel of each loop is a bound on its iterations, so that running out of
-- it stands for a loop that does not end.
def maxSuffixLenLoop (str : Bytes) (strLen p : Nat) : Nat → Nat → Option Nat
  | 0, _ => none
  | fuel + 1, i => do
      let left ← str[sizeSub p i]?
      let right ← str[sizeSub (sizeSub strLen 1) i]?
      if left = right ∧ i < p then do
        let i ← uint32Add i 1
        maxSuffixLenLoop str strLen p fuel i
      else some i

def maxSuffixLen (str : Bytes) (strLen p : Nat) : Option Nat :=
  maxSuffixLenLoop str strLen p (p + 1) 0

def bmMakeDelta1Loop (pat : Bytes) (patLen : Nat) : Nat → Nat → List Int → Option (List Int)
  | 0, _, _ => none
  | fuel + 1, i, delta1 =>
      if i < sizeSub patLen 1 then do
        let idx ← pat[i]?
        let delta1 ← store delta1 idx.toNat (toInt (sizeSub (sizeSub patLen 1) i))
        let i ← uint32Add i 1
        bmMakeDelta1Loop pat patLen fuel i delta1
      else some delta1

def bmMakeDelta1 (pat : Bytes) (patLen : Nat) : Option (List Int) :=
  bmMakeDelta1Loop pat patLen (pat.length + 1) 0 (List.replicate ALPHABET_LEN (toInt patLen))

-- The first loop of bm_make_delta2. It counts p down, and the first argument
-- is p + 1.
def bmMakeDelta2Prefixes (pat : Bytes) (patLen : Nat) :
    Nat → Nat → List Int → Option (List Int)
  | 0, _, delta2 => some delta2
  | p + 1, lastPrefix, delta2 => do
      let order ← strncmp (pat.drop p) pat (sizeSub patLen p)
      let lastPrefix ← if order = 0 then (intAdd p 1).map Int.toNat else some lastPrefix
      let delta2 ← store delta2 p
        (toInt (sizeAdd lastPrefix (sizeSub (sizeSub patLen 1) p)))
      bmMakeDelta2Prefixes pat patLen p lastPrefix delta2

-- The second loop of bm_make_delta2. Its counter stays below an int.
def bmMakeDelta2Suffixes (pat : Bytes) (patLen : Nat) :
    Nat → Nat → List Int → Option (List Int)
  | 0, _, _ => none
  | fuel + 1, p, delta2 => do
      let last ← intAdd (toInt patLen) (-1)
      if (p : Int) < last then do
        let sufLen ← maxSuffixLen pat patLen p
        let start ← intAdd p (-sufLen)
        let left ← readAt pat start
        let right ← pat[sizeSub (sizeSub patLen 1) sufLen]?
        let delta2 ←
          if left ≠ right then
            store delta2 (sizeSub (sizeSub patLen 1) sufLen)
              (toInt (sizeAdd (sizeSub (sizeSub patLen 1) p) sufLen))
          else some delta2
        bmMakeDelta2Suffixes pat patLen fuel (p + 1) delta2
      else some delta2

-- The array that the caller leaves uninitialised is filled by the first loop.
def bmMakeDelta2 (pat : Bytes) (patLen : Nat) : Option (List Int) := do
  let delta2 ← bmMakeDelta2Prefixes pat patLen (toInt (sizeSub patLen 1) + 1).toNat
    (toUInt32 (sizeSub patLen 1)) (List.replicate patLen 0)
  bmMakeDelta2Suffixes pat patLen (patLen + 1) 0 delta2

-- The inner loop of bm_search. It counts i and j down together, and the
-- last argument is j + 1.
def bmMatchLoop (str pat : Bytes) : Int → Nat → Option (Int × Nat)
  | i, 0 => some (i, 0)
  | i, j + 1 => do
      let left ← readAt str i
      let right ← pat[j]?
      if left = right then bmMatchLoop str pat (i - 1) j else some (i, j + 1)

def bmSearchLoop (str : Bytes) (strLen : Nat) (pat : Bytes) (patLen : Nat)
    (delta1 delta2 : List Int) : Nat → Int → Option (Option Nat)
  | 0, _ => none
  | fuel + 1, i =>
      if i < toInt strLen then do
        let (i, j) ← bmMatchLoop str pat i (toInt (sizeSub patLen 1) + 1).toNat
        if j = 0 then some (some (i + 1).toNat)
        else do
          let c ← readAt str i
          let shift1 ← delta1[c.toNat]?
          let shift2 ← delta2[j - 1]?
          let i ← intAdd i (max shift1 shift2)
          bmSearchLoop str strLen pat patLen delta1 delta2 fuel i
      else some none

-- The result is the offset of the returned pointer in `str`, or none for NULL.
def bmSearch (str : Bytes) (strLen : Nat) (pat : Bytes) (patLen : Nat) :
    Option (Option Nat) := do
  let delta1 ← bmMakeDelta1 pat patLen
  let delta2 ← bmMakeDelta2 pat patLen
  if patLen = 0 then some (some 0)
  else bmSearchLoop str strLen pat patLen delta1 delta2 (strLen + 1) (toInt (sizeSub patLen 1))

end Raphael.Recovery
