import Mathlib.Data.List.DropRight
import Raphael.Lights
import Raphael.Trace

namespace Raphael.LiveDisplay

open Lights (isSpace stoi)

-- What the sysfs node does in one call: it can fail to open, and to give or
-- take the text.
structure Access where
  opens : Bool
  transfers : Bool
  deriving DecidableEq, Repr

def Access.succeeds (access : Access) : Bool := access.opens && access.transfers

-- A failed stream takes no more output. The rest is kept until the stream is
-- closed.
structure OFStream where
  fail : Bool
  buffer : String

def OFStream.open (opens : Bool) : OFStream := ⟨!opens, ""⟩

def OFStream.put (text : String) (file : OFStream) : OFStream :=
  if file.fail then file else { file with buffer := file.buffer ++ text }

-- The node after the stream is closed.
def OFStream.close (transfers : Bool) (node : String) (file : OFStream) : String :=
  if file.fail = false ∧ transfers then file.buffer else node

-- What `file >> result` extracts, if it does not fail. The text of a number is
-- read as by std::stoi.
def extractInt (access : Access) (node : String) : Option Int :=
  if access.succeeds then stoi node else none

def readFileToString (access : Access) (node : String) : Option String :=
  if access.succeeds then some node else none

def writeStringToFile (access : Access) (content node : String) : Bool × String :=
  if access.succeeds then (true, content) else (false, node)

def trim (text : String) : String :=
  String.ofList ((text.toList.dropWhile isSpace).rdropWhile isSpace)

namespace AntiFlicker

def isEnabled (access : Access) (node : String) : Bool :=
  match extractInt access node with
  | some result => 0 < result
  | none => false

-- The stream is tested before it is closed.
def setEnabled (enabled : Bool) (access : Access) (node : String) : Bool × String :=
  let file := (OFStream.open access.opens).put (if enabled then "1" else "0")
  (!file.fail, file.close access.transfers node)

end AntiFlicker

namespace SunlightEnhancement

-- The result is none when std::stoi throws.
def isEnabled (access : Access) (node : String) : Option Bool :=
  match readFileToString access node with
  | some buf => (stoi (trim buf)).map fun value => value = 1
  | none => some false

def setEnabled (enabled : Bool) (access : Access) (node : String) : Bool × String :=
  writeStringToFile access (if enabled then "1" else "0") node

end SunlightEnhancement

-- A toggle over a node. An exception in isEnabled leaves no result.
structure Toggle where
  isEnabled : Access → String → Option Bool
  setEnabled : Bool → Access → String → Bool × String

def antiFlicker : Toggle :=
  ⟨fun access node => some (AntiFlicker.isEnabled access node), AntiFlicker.setEnabled⟩

def sunlightEnhancement : Toggle :=
  ⟨SunlightEnhancement.isEnabled, SunlightEnhancement.setEnabled⟩

inductive Call where
  | isEnabled (access : Access)
  | setEnabled (enabled : Bool) (access : Access)
  deriving DecidableEq, Repr

-- The value that the call before has reported as set.
structure State where
  node : String
  reported : Option Bool
  deriving DecidableEq, Repr

-- An exception that nothing catches ends the service.
def step (toggle : Toggle) (s : State) : Call → Option State
  | .isEnabled access => (toggle.isEnabled access s.node).map fun _ => { s with reported := none }
  | .setEnabled enabled access =>
      let (result, node) := toggle.setEnabled enabled access s.node
      some ⟨node, if result then some enabled else none⟩

end Raphael.LiveDisplay
