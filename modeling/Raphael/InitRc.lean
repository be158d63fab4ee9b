import Mathlib.Logic.Function.Basic
import Raphael.Properties
import Raphael.Trace

namespace Raphael.InitRc

open Properties (Store)

-- The language of init's scripts: actions with property triggers, and the
-- commands that they consist of. An argument is text with ${property} in it.
inductive Piece where
  | text (text : String)
  | prop (name : String)
  deriving DecidableEq, Repr

abbrev Arg := List Piece

inductive Command where
  | write (path content : Arg)
  | rm (path : String)
  | symlink (target : Arg) (path : String)
  | setprop (name : String) (value : Arg)
  | start (service : String)
  deriving DecidableEq, Repr

-- Every condition has to hold. The value * stands for every value.
structure Action where
  conditions : List (String × String)
  commands : List Command
  deriving DecidableEq, Repr

-- A property that does not exist reads as the empty string.
def current (props : Store) (name : String) : String := (props name).getD ""

-- An empty property does not expand, and a command whose arguments do not
-- expand is not executed.
def expand (props : Store) : Arg → Option String
  | [] => some ""
  | .text text :: rest => (expand props rest).map (text ++ ·)
  | .prop name :: rest =>
      if current props name = "" then none
      else (expand props rest).map (current props name ++ ·)

-- What the commands work on: the properties, the texts last written to files,
-- and the targets of the symbolic links. Accessible are the files that can be
-- written, the directories that can be linked to and the places for links, which
-- no command here makes or removes.
structure World where
  props : Store
  files : String → Option String
  links : String → Option String
  accessible : String → Bool

def World.setProperty (name value : String) (world : World) : World :=
  { world with props := world.props.set name value }

def World.writeFile (path content : String) (world : World) : World :=
  { world with files := Function.update world.files path (some content) }

def World.setLink (path : String) (target : Option String) (world : World) : World :=
  { world with links := Function.update world.links path target }

-- A write to a file that is not there fails, and so does a link to a directory
-- that is not there, or in the place of another link. What a started service
-- does comes from outside.
def Command.run (command : Command) (world : World) : World :=
  match command with
  | .write path content =>
      match expand world.props path, expand world.props content with
      | some path, some content =>
          if world.accessible path then world.writeFile path content else world
      | _, _ => world
  | .rm path => world.setLink path none
  | .symlink target path =>
      match expand world.props target with
      | some target =>
          if world.links path = none ∧ world.accessible path ∧ world.accessible target then
            world.setLink path (some target)
          else world
      | none => world
  | .setprop name value =>
      match expand world.props value with
      | some value => world.setProperty name value
      | none => world
  | .start _ => world

-- The change that a command announces.
def Command.changes (command : Command) (world : World) : List (String × String) :=
  match command with
  | .setprop name value => ((expand world.props value).map fun value => (name, value)).toList
  | _ => []

def admits (pattern value : String) : Bool :=
  if pattern = "*" then value ≠ "" else pattern = value

def Action.names (action : Action) : List String := action.conditions.map Prod.fst

def Action.holds (action : Action) (props : Store) : Bool :=
  action.conditions.all fun condition => admits condition.2 (current props condition.1)

-- A change triggers the actions that name its property. The property is taken
-- to have the value of the change, the others have their current values.
def Action.triggered (action : Action) (props : Store) (change : String × String) : Bool :=
  change.1 ∈ action.names && action.conditions.all fun condition =>
    if condition.1 = change.1 then condition.2 = "*" || condition.2 = change.2
    else admits condition.2 (current props condition.1)

-- The changes wait until all commands of the actions before are executed.
structure State where
  world : World
  queue : List (String × String)
  commands : List Command

inductive Event where
  | setProperty (name value : String)
  | turn
  deriving DecidableEq, Repr

-- Properties are set at any time and from anywhere. In its turn init executes
-- one command, or else looks at one change.
def step (rc : List Action) (s : State) : Event → Option State
  | .setProperty name value =>
      some { s with
        world := s.world.setProperty name value
        queue := s.queue ++ [(name, value)] }
  | .turn =>
      match s.commands, s.queue with
      | command :: rest, queue =>
          some ⟨command.run s.world, queue ++ command.changes s.world, rest⟩
      | [], change :: rest =>
          some ⟨s.world, rest,
            (rc.filter fun action => action.triggered s.world.props change).flatMap Action.commands⟩
      | [], [] => none

def State.Idle (s : State) : Prop := s.queue = [] ∧ s.commands = []

end Raphael.InitRc
