/-
Registries: the commands of a session by name.

A command is filed under its listing name. A second command of the same listing replaces the first
in its place; one that was removed and comes back goes to the end.
-/
import SceneLang.Command.Transform

namespace SceneLang

/-- Commands under the names they are listed by. -/
structure Registry where
  commands : OrderedMap Command := ∅

namespace Registry

/-- The registry with a command. -/
def register (r : Registry) (c : Command) : Registry := ⟨r.commands.insert c.listing c⟩

/-- The registry without the command of a name. -/
def unregister (r : Registry) (name : String) : Registry := ⟨r.commands.erase name⟩

/-- The registry without commands. -/
def clear (_ : Registry) : Registry := {}

/-- The command of a name. -/
def get? (r : Registry) (name : String) : Option Command := r.commands.get? name

/-- Takes the command of a name out of the registry, and says whether there was one. -/
def withdraw (r : Registry) (name : String) : Bool × Registry := ((r.get? name).isSome, r.unregister name)

/-- Whether there is a command of a name. -/
def has (r : Registry) (name : String) : Bool := r.commands.contains name

/-- The names there are commands of, in order. -/
def names (r : Registry) : List String := r.commands.keys

/-- The number of commands. -/
def size (r : Registry) : Nat := r.commands.size

/-- The commands, in the order of their names. -/
def toList (r : Registry) : List Command := r.commands.entries.map (·.2)

/-- The registry of some commands, registered one after the other. -/
def ofList (commands : List Command) : Registry := commands.foldl register {}

/-- What the commands are called and declare. -/
def describe (r : Registry) : Except Fault (List Description) := r.toList.mapM Command.describe

/-- The commands that every session can have. -/
def builtins : List Command :=
  [.createElement, .deleteElement, .setProperty, .getProperty, .transform]

/-- The registry of those commands. -/
def default : Registry := ofList builtins

end Registry

end SceneLang
