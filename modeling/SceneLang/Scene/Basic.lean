/-
Scenes: what the commands of a session share.

A scene is a flat map of variables and may have an active scene id. Elements live in the variables
under the keys `element.ID.PROPERTY`, and an element exists while its `type` is there.

* `hasElement_iff`: existence in terms of the variables.
-/
import SceneLang.OrderedMap
import SceneLang.Text.Pieces
import SceneLang.Value.Basic

namespace SceneLang

/-- What the commands of a session share. -/
structure Scene where
  vars : OrderedMap Value := ∅
  /-- the id of the active scene -/
  active : Option String := none
  deriving DecidableEq

namespace Scene

/-! ## Variables -/

/-- The scene with a variable written. -/
def set (s : Scene) (name : String) (value : Value) : Scene :=
  { s with vars := s.vars.insert name value }

/-- The scene with variables written one after the other. -/
def setAll (s : Scene) (entries : List (String × Value)) : Scene :=
  entries.foldl (fun s e => s.set e.1 e.2) s

/-- The value of a variable, or the given value if there is no such variable. -/
def get (s : Scene) (name : String) (default : Value) : Value := (s.vars.get? name).getD default

/-- Whether there is a variable of a name. -/
def has (s : Scene) (name : String) : Bool := s.vars.contains name

/-- The scene without a variable. -/
def remove (s : Scene) (name : String) : Scene := { s with vars := s.vars.erase name }

/-- Whether a name starts with a stem. -/
def startsWith (stem name : String) : Bool := stem.toList.isPrefixOf name.toList

/-- The names of the variables that start with a stem, in order. -/
def namesStarting (s : Scene) (stem : String) : List String := s.vars.keys.filter (startsWith stem)

/-- The scene without the variables whose names start with a stem. -/
def removeStarting (s : Scene) (stem : String) : Scene :=
  { s with vars := s.vars.filterKeys (!startsWith stem ·) }

/-- Takes the variables whose names start with a stem out of the scene, and says how many there were. -/
def withdraw (s : Scene) (stem : String) : Nat × Scene := ((s.namesStarting stem).length, s.removeStarting stem)

/-- The scene without variables. -/
def clearVariables (s : Scene) : Scene := { s with vars := ∅ }

/-! ## The active scene -/

/-- The scene with a scene id made active. -/
def activate (s : Scene) (id : String) : Scene := { s with active := some id }

/-- The scene without an active scene id. -/
def deactivate (s : Scene) : Scene := { s with active := none }

/-! ## Elements -/

/-- The word that the keys of elements start with. -/
def elementWord : String := "element"

/-- What the keys of an element's properties start with. -/
def elementStem (id : String) : String := s!"{elementWord}.{id}."

/-- The key of a property of an element. -/
def elementKey (id property : String) : String := elementStem id ++ property

/-- The property that an element exists by. -/
def typeProperty : String := "type"

/-- Whether there is an element of an id. -/
def hasElement (s : Scene) (id : String) : Bool := s.has (elementKey id typeProperty)

/-- The id of the element whose `type` a variable name is the key of. -/
def elementId? (name : String) : Option String :=
  let parts := Text.splitAt '.' name.toList
  if 3 ≤ parts.length ∧ parts.head? = some elementWord.toList ∧
      parts.getLast? = some typeProperty.toList then
    some (String.ofList (Text.join '.' (parts.drop 1).dropLast))
  else none

/-- The ids of the elements, in the order of their `type` variables. -/
def elementIds (s : Scene) : List String := s.vars.keys.filterMap elementId?

/-- The properties of an element with their values, in order. -/
def elementProperties (s : Scene) (id : String) : List (String × Value) :=
  let stem := elementStem id
  (s.vars.entries.filter fun e => startsWith stem e.1).map fun e =>
    (String.ofList (e.1.toList.drop stem.length), e.2)

/-! ## First facts -/

theorem hasElement_iff {s : Scene} {id : String} :
    s.hasElement id = true ↔ elementKey id typeProperty ∈ s.vars.keys :=
  OrderedMap.contains_iff

@[simp] theorem active_set (s : Scene) (name : String) (value : Value) : (s.set name value).active = s.active :=
  rfl

end Scene

end SceneLang
