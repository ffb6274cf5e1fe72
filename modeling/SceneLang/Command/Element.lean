/-
The commands that create and delete elements and read and write their properties.

All of them work on the flat variables of the scene through the keys of elements. An element id
becomes part of a key when the element is created, so it is checked then; a property name is
checked whenever it is given.
-/
import SceneLang.Command.Basic

namespace SceneLang

namespace Parameters

/-- The value of a parameter, which has to be there. -/
def fetch (supplied : Parameters) (name : String) : Except Fault Value :=
  match supplied.get? name with
  | some v => .ok v
  | none => .error (.missingKey name)

/-- The text of a parameter, which has to be there. -/
def fetchText (supplied : Parameters) (name : String) : Except Fault String :=
  (supplied.fetch name).map Value.plain

variable {supplied : Parameters} {name : String}

theorem fetch_eq_ok {v : Value} (h : supplied.get? name = some v) : supplied.fetch name = .ok v := by
  rw [fetch, h]

theorem fetchText_eq_ok {s : String} (h : supplied.get? name = some (.text s)) :
    supplied.fetchText name = .ok s := by
  rw [fetchText, fetch_eq_ok h]
  rfl

end Parameters

namespace Command

/-- The fault of a command that cannot do what it is asked to. -/
def refuse {α : Type} (command reason : String) : Except Fault α :=
  .error (.scene (.execution command reason))

/-- Passes if there is an element of an id. -/
def requireElement (command : String) (s : Scene) (id : String) : Except Fault Unit :=
  if s.hasElement id then .ok () else refuse command s!"Element '{id}' does not exist"

theorem requireElement_of_hasElement {s : Scene} {id : String} (h : s.hasElement id = true)
    (command : String) : requireElement command s id = .ok () := if_pos h

theorem requireElement_of_not_hasElement {s : Scene} {id : String} (h : s.hasElement id = false)
    (command : String) : requireElement command s id = refuse command s!"Element '{id}' does not exist" := by
  rw [requireElement, h]
  rfl

/-- A run that changes the scene only if it succeeds. -/
def attempt (s : Scene) (answer : Except Fault (Outcome × Scene)) : Except Fault Outcome × Scene :=
  match answer with
  | .ok (outcome, after) => (.ok outcome, after)
  | .error f => (.error f, s)

/-- Whether a text can be one part of a key. -/
def isKeyPart (part : String) : Bool := part ≠ "" && !part.toList.contains '.'

/-- Passes if a parameter can be one part of a key. -/
def requireKeyPart (command name : String) (supplied : Parameters) : Except Fault Outcome :=
  (supplied.fetchText name).map fun part =>
    if isKeyPart part then .done
    else .failure s!"Parameter '{name}' of '{command}' must be non-empty and contain no '.'" .validation

/-- The axes of space. -/
def axes : List String := ["x", "y", "z"]

theorem isIdentifier_x : Text.isIdentifier "x" = true := by decide

theorem isIdentifier_y : Text.isIdentifier "y" = true := by decide

/-- The parameter that says which element is meant. -/
def idParameter : Parameter := { name := "id", type := .string, description := "Element ID" }

/-! ## Creating and deleting -/

namespace CreateElement

/-- What the command that creates elements is called. -/
def name : String := "create_element"

/-- What creating an element takes: its type and name, and a place, which is the origin unless it is given. -/
def schema : Schema :=
  [{ name := "type", type := .string, description := "Element type" },
   { name := "name", type := .string, description := "Element name" },
   { name := "x", type := .number, required := false, default := .number (.zero false),
     description := "X coordinate", named := isIdentifier_x },
   { name := "y", type := .number, required := false, default := .number (.zero false),
     description := "Y coordinate", named := isIdentifier_y }]

/-- The properties of a new element: those given, a place at height zero, no rotation, its natural
size, and the scene it belongs to if one is active. -/
def properties (type id x y : Value) (active : Option String) : List (String × Value) :=
  [("type", type), ("name", id), ("x", x), ("y", y), ("z", .number (.zero false))] ++
    axes.flatMap (fun axis => [("rotation_" ++ axis, .number (.zero false)),
      ("scale_" ++ axis, .number (.ofNat 1))]) ++
    active.toList.map fun scene => ("scene", .text scene)

/-- Creates an element, unless there is one of its id. -/
def create (supplied : Parameters) (s : Scene) : Except Fault (Outcome × Scene) := do
  let idValue ← supplied.fetch "name"
  let id := idValue.plain
  if s.hasElement id then refuse name s!"Element '{id}' already exists"
  let type ← supplied.fetch "type"
  let x ← supplied.fetch "x"
  let y ← supplied.fetch "y"
  let entries := (properties type idValue x y s.active).map fun e => (Scene.elementKey id e.1, e.2)
  return (.ok s!"Created {type.plain} '{id}'" idValue, s.setAll entries)

end CreateElement

/-- Creates an element of a type and name, at a place. -/
def createElement : Command :=
  (standard CreateElement.name "Create a new scene element" (.ok CreateElement.schema)
    fun supplied s => attempt s (CreateElement.create supplied s)).requiring
    (requireKeyPart CreateElement.name "name")

namespace DeleteElement

/-- What the command that deletes elements is called. -/
def name : String := "delete_element"

/-- What deleting an element takes: the element. -/
def schema : Schema := [idParameter]

/-- Deletes an element with all its properties. -/
def delete (supplied : Parameters) (s : Scene) : Except Fault (Outcome × Scene) := do
  let idValue ← supplied.fetch "id"
  let id := idValue.plain
  requireElement name s id
  return (.ok s!"Deleted element '{id}'" idValue, s.removeStarting (Scene.elementStem id))

end DeleteElement

/-- Deletes an element. -/
def deleteElement : Command :=
  standard DeleteElement.name "Delete a scene element" (.ok DeleteElement.schema)
    fun supplied s => attempt s (DeleteElement.delete supplied s)

/-! ## Properties -/

namespace SetProperty

/-- What the command that writes properties is called. -/
def name : String := "set_property"

/-- What writing a property takes: the element, the property and a value of any type. -/
def schema : Schema :=
  [idParameter,
   { name := "property", type := .string, description := "Property name" },
   { name := "value", type := .any, description := "Property value" }]

/-- The element, the property and the value that are meant, if the element exists. -/
def target (supplied : Parameters) (s : Scene) : Except Fault (String × String × Value) := do
  let id ← supplied.fetchText "id"
  let property ← supplied.fetchText "property"
  requireElement name s id
  let value ← supplied.fetch "value"
  return (id, property, value)

/-- Writes a property and reports it. The property is written before its value is put into words,
so a value without words faults with the property written. -/
def write (supplied : Parameters) (s : Scene) : Except Fault Outcome × Scene :=
  match target supplied s with
  | .error f => (.error f, s)
  | .ok (id, property, value) =>
    (value.shown.map fun shown => .ok s!"Set {id}.{property} = {shown}" value,
      s.set (Scene.elementKey id property) value)

end SetProperty

/-- Writes a property of an element. -/
def setProperty : Command :=
  (standard SetProperty.name "Set a property of a scene element" (.ok SetProperty.schema)
    SetProperty.write).requiring (requireKeyPart SetProperty.name "property")

namespace GetProperty

/-- What the command that reads properties is called. -/
def name : String := "get_property"

/-- What reading a property takes: the element and the property. -/
def schema : Schema :=
  [idParameter,
   { name := "property", type := .string, description := "Property name" }]

/-- Reads a property, which has to be there. -/
def read (supplied : Parameters) (s : Scene) : Except Fault (Outcome × Scene) := do
  let id ← supplied.fetchText "id"
  let property ← supplied.fetchText "property"
  requireElement name s id
  match s.vars.get? (Scene.elementKey id property) with
  | none => refuse name s!"Element '{id}' has no property '{property}'"
  | some value =>
    let shown ← value.shown
    return (.ok s!"{id}.{property} = {shown}" value, s)

end GetProperty

/-- Reads a property of an element. -/
def getProperty : Command :=
  (standard GetProperty.name "Get a property of a scene element" (.ok GetProperty.schema)
    fun supplied s => attempt s (GetProperty.read supplied s)).requiring
    (requireKeyPart GetProperty.name "property")

end Command

end SceneLang
