import Mathlib.Data.List.Basic

namespace Raphael.FileUtils

-- What the file system does with one access.
inductive Access where
  | ok | fileNotFound | ioException
  deriving DecidableEq, Repr

-- The line of the file, and null on failure or at the end of the file.
def readOneLine (access : Access) (line : Option String) : Option String :=
  match access with
  | .ok => line
  | .fileNotFound | .ioException => none

inductive WriteResult where
  | written (line : String)
  | failed
  | nullPointerException
  deriving DecidableEq, Repr

-- The file is opened before the value is looked at, so a null value throws
-- only behind an open that succeeds.
def writeLine (access : Access) (value : Option String) : WriteResult :=
  match access, value with
  | .fileNotFound, _ => .failed
  | _, none => .nullPointerException
  | .ok, some line => .written line
  | .ioException, some _ => .failed

end Raphael.FileUtils
