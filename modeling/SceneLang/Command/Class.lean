/-
Classes of commands, and how commands come by their names.

The name of a command is held by its class. A class is set up with a name of its own: the one that its
body sets, or, if it sets none or the empty one, the one that its class name stands for. A name is
looked up in the class itself and then in the classes it inherits from.
-/
import SceneLang.Text.SnakeCase

namespace SceneLang

/-- A class of commands. -/
structure CommandClass where
  className : String
  /-- the name that its body sets, if it sets one -/
  ownName : Option String
  /-- what the classes it inherits from hold as a name, nearest first -/
  inherited : List (Option String)

namespace CommandClass

/-- The name that a class is set up with. -/
def heldName (c : CommandClass) : String :=
  (c.ownName.filter (· ≠ "")).getD (Text.commandName c.className)

/-- What a class and the classes it inherits from hold as a name, nearest first. -/
def resolution (c : CommandClass) : List (Option String) := some c.heldName :: c.inherited

/-- The name of the commands of a class. -/
def name (c : CommandClass) : String := (c.resolution.findSome? id).getD ""

/-- What the class of all commands holds as a name. -/
def root : List (Option String) := [some ""]

/-- Classes of the given class names and names of their own, each of which inherits from the one before
it and the first one from the class of all commands. -/
def chain (inherited : List (Option String)) : List (String × Option String) → List CommandClass
  | [] => []
  | (className, ownName) :: links =>
    let c : CommandClass := ⟨className, ownName, inherited⟩
    c :: chain c.resolution links

end CommandClass

end SceneLang
