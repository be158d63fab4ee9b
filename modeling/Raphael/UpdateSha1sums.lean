import Mathlib.Data.List.Infix

namespace Raphael.UpdateSha1sums

-- A str, by its characters.
abbrev Line := List Char
abbrev Bytes := List UInt8

def device : String := "raphael"
def vendor : String := "xiaomi"

def vendorPath : Line :=
  ("../../../vendor/" ++ vendor ++ "/" ++ device ++ "/proprietary").toList

inductive PyError where
  | unboundLocalError
  | indexError
  | ioError (path : Line)
  deriving DecidableEq, Repr

-- Text mode reads "\r\n" and "\r" as "\n".
def universalNewlines : Line → Line
  | [] => []
  | '\r' :: '\n' :: rest => '\n' :: universalNewlines rest
  | '\r' :: rest => '\n' :: universalNewlines rest
  | c :: rest => c :: universalNewlines rest

def isLineBreak (c : Char) : Bool :=
  c ∈ ['\n', '\r', '\x0b', '\x0c', '\x1c', '\x1d', '\x1e', '\x85', '\u2028', '\u2029']

-- A break at the end of the text does not start another line.
def splitlines (text : Line) : List Line :=
  let parts := text.splitOnP isLineBreak
  if parts.getLast? = some [] then parts.dropLast else parts

def readLines (file : Line) : List Line := splitlines (universalNewlines file)

-- '\n'.join(lines) + '\n'
def joinLines (lines : List Line) : Line := ['\n'].intercalate lines ++ ['\n']

-- line.split(sep)[0] and line.split(sep)[-1]
def splitFirst (sep : Char) (line : Line) : Line := (line.splitOn sep).headD []
def splitLast (sep : Char) (line : Line) : Line := (line.splitOn sep).getLastD []

-- os.path.join
def pathJoin (path name : Line) : Line :=
  if name.head? = some '/' then name
  else if path = [] ∨ path.getLast? = some '/' then path ++ name
  else path ++ '/' :: name

def isComment (line : Line) : Bool := line.head? = some '#'

def isPinned (line : Line) : Bool := " - from".toList <:+: line

def cleanupLine (line : Line) : Line :=
  -- Skip empty or commented lines
  if line = [] ∨ isComment line ∨ '|' ∉ line then line
  -- Drop SHA1 hash, if existing
  else splitFirst '|' line

def cleanup (lines : List Line) : List Line := lines.map cleanupLine

section Update

variable (sha1 : Bytes → Line) (blobs : Line → Option Bytes)

def filePath (line : Line) : Except PyError Line :=
  match splitLast ':' (splitFirst ';' line) with
  | [] => .error .indexError
  | '-' :: path => .ok path
  | path => .ok path

-- What update makes of a line that needs a hash. The digest is in hex.
def pin (line : Line) : Except PyError Line := do
  -- Remove existing SHA1 hash
  let line := splitFirst '|' line
  let path ← filePath line
  match blobs (pathJoin vendorPath path) with
  | none => .error (.ioError (pathJoin vendorPath path))
  | some data => .ok (line ++ '|' :: sha1 data)

-- The loop assigns needSHA1, so it is a local variable of update, which has no
-- value before the first comment.
def updateLoop (needSHA1 : Option Bool) : List Line → Except PyError (List Line)
  | [] => .ok []
  | line :: rest =>
      -- Skip empty lines
      if line = [] then (updateLoop needSHA1 rest).map (line :: ·)
      -- Check if we need to set SHA1 hash for the next files
      else if isComment line then (updateLoop (some (isPinned line)) rest).map (line :: ·)
      else
        match needSHA1 with
        | none => .error .unboundLocalError
        | some false => (updateLoop needSHA1 rest).map (line :: ·)
        | some true => do
            let line' ← pin sha1 blobs line
            (updateLoop needSHA1 rest).map (line' :: ·)

def update (lines : List Line) : Except PyError (List Line) := updateLoop sha1 blobs none lines

-- The file is opened for writing only after the lines are done.
def main (argv : List String) (file : Line) : Option PyError × Line :=
  let lines := readLines file
  let result := if argv.length = 2 ∧ argv[1]? = some "-c" then .ok (cleanup lines)
    else update sha1 blobs lines
  match result with
  | .ok lines => (none, joinLines lines)
  | .error e => (some e, file)

end Update

end Raphael.UpdateSha1sums
