/-
A scene as a store of elements.

A store holds elements by their ids, and an element holds values by the names of its properties;
there are no keys and no variables. A call is taken as a request, which says which command is meant
and has the texts and numbers that the command asks for. A store answers a request with a value or
not at all, and goes through a session as a scene does: the same texts and the same host actions.

Nothing here is taken from the commands themselves: the names of commands, parameters and
properties, what is omitted and what a transformation makes of a number are all written out.
-/
import SceneLang.Proofs.Session

namespace SceneLang

/-- The properties of an element by name. -/
abbrev Element := OrderedMap Value

/-- Elements by id, and the id of the active scene. -/
structure Store where
  elements : OrderedMap Element := ∅
  active : Option String := none

namespace Element

/-- The element with properties written one after the other. -/
def setAll (e : Element) (properties : List (String × Value)) : Element :=
  properties.foldl (fun e p => e.insert p.1 p.2) e

/-- The properties that an element is created with. -/
def initial (type id : String) (x y : Binary64) (active : Option String) : List (String × Value) :=
  [("type", .text type), ("name", .text id), ("x", .number x), ("y", .number y),
    ("z", .number (.zero false)),
    ("rotation_x", .number (.zero false)), ("scale_x", .number (.ofNat 1)),
    ("rotation_y", .number (.zero false)), ("scale_y", .number (.ofNat 1)),
    ("rotation_z", .number (.zero false)), ("scale_z", .number (.ofNat 1))] ++
  match active with
  | some scene => [("scene", .text scene)]
  | none => []

/-- The numeric reading of a property, if it has one; an absent property reads as the given number. -/
def reading? (e : Element) (property : String) (absent : Binary64) : Option Binary64 :=
  match e.get? property with
  | none => some absent
  | some v =>
    match v.toNumber with
    | .ok x => x
    | .error _ => none

end Element

/-! ## Transformations -/

/-- What can be done to an element in space. -/
inductive Transformation where
  | move
  | rotate
  | scale

namespace Transformation

/-- The transformation of a name. -/
def ofName? : String → Option Transformation
  | "move" => some .move
  | "rotate" => some .rotate
  | "scale" => some .scale
  | _ => none

/-- The three properties that a transformation changes. -/
def family : Transformation → List String
  | .move => ["x", "y", "z"]
  | .rotate => ["rotation_x", "rotation_y", "rotation_z"]
  | .scale => ["scale_x", "scale_y", "scale_z"]

/-- What an absent property and an omitted amount count as. -/
def absent : Transformation → Binary64
  | .move => .zero false
  | .rotate => .zero false
  | .scale => .ofNat 1

/-- What a number becomes under an amount. -/
def result : Transformation → Binary64 → Binary64 → Binary64
  | .move, current, amount => current + amount
  | .rotate, current, amount => current + amount
  | .scale, current, amount => current * amount

/-- What the three properties of an element become, if each of them has a numeric reading. -/
def updates (t : Transformation) (e : Element) (amounts : List Binary64) : Option (List (String × Value)) :=
  (t.family.zip amounts).mapM fun (property, amount) =>
    (e.reading? property t.absent).map fun current => (property, .number (t.result current amount))

end Transformation

/-! ## Requests -/

/-- What a call asks for. -/
inductive Request where
  | create (type id : String) (x y : Binary64)
  | delete (id : String)
  | set (id property : String) (value : Value)
  | get (id property : String)
  | transform (t : Transformation) (id : String) (x y z : Binary64)

/-- The answer to a request and the store after it; none if it cannot be done. -/
def Request.perform : Request → Store → Option (Value × Store)
  | .create type id x y, a =>
    if a.elements.contains id then none
    else
      let e := Element.setAll ∅ (Element.initial type id x y a.active)
      some (.text id, { a with elements := a.elements.insert id e })
  | .delete id, a =>
    if a.elements.contains id then some (.text id, { a with elements := a.elements.erase id }) else none
  | .set id property value, a => do
    let e ← a.elements.get? id
    return (value, { a with elements := a.elements.insert id (e.insert property value) })
  | .get id property, a => do
    let e ← a.elements.get? id
    let value ← e.get? property
    return (value, a)
  | .transform t id x y z, a => do
    let e ← a.elements.get? id
    let updates ← t.updates e [x, y, z]
    return (.null, { a with elements := a.elements.insert id (e.setAll updates) })

/-! ## Calls as requests -/

namespace Parameters

/-- The text of a parameter. -/
def text? (supplied : Parameters) (name : String) : Option String :=
  match supplied.get? name with
  | some (.text s) => some s
  | _ => none

/-- The text of a parameter that is not empty and has no dots. -/
def part? (supplied : Parameters) (name : String) : Option String :=
  (supplied.text? name).filter fun part => part ≠ "" ∧ '.' ∉ part.toList

/-- The number of a parameter, or the given one if it is omitted. -/
def number? (supplied : Parameters) (name : String) (omitted : Binary64) : Option Binary64 :=
  match supplied.get? name with
  | none => some omitted
  | some (.number x) => some x
  | some _ => none

end Parameters

/-- How the calls of a command are taken: the names of the parameters, and the request. -/
structure Form where
  names : List String
  read? : Parameters → Option Request

namespace Form

/-- Creating takes a type and a name, and a place at zero where none is given. -/
def createElement : Form where
  names := ["type", "name", "x", "y"]
  read? supplied := do
    let type ← supplied.text? "type"
    let id ← supplied.part? "name"
    let x ← supplied.number? "x" (.zero false)
    let y ← supplied.number? "y" (.zero false)
    return .create type id x y

/-- Deleting takes an id. -/
def deleteElement : Form where
  names := ["id"]
  read? supplied := (supplied.text? "id").map .delete

/-- Setting takes an id, a property and any value. -/
def setProperty : Form where
  names := ["id", "property", "value"]
  read? supplied := do
    let id ← supplied.text? "id"
    let property ← supplied.part? "property"
    let value ← supplied.get? "value"
    return .set id property value

/-- Getting takes an id and a property. -/
def getProperty : Form where
  names := ["id", "property"]
  read? supplied := do
    let id ← supplied.text? "id"
    let property ← supplied.part? "property"
    return .get id property

/-- Transforming takes an id and the name of a transformation, and an amount along each axis. -/
def transform : Form where
  names := ["id", "operation", "x", "y", "z"]
  read? supplied := do
    let id ← supplied.text? "id"
    let t ← (supplied.text? "operation").bind Transformation.ofName?
    let x ← supplied.number? "x" t.absent
    let y ← supplied.number? "y" t.absent
    let z ← supplied.number? "z" t.absent
    return .transform t id x y z

/-- The forms by the names of the commands. -/
def all : List (String × Form) :=
  [("create_element", createElement), ("delete_element", deleteElement), ("set_property", setProperty),
    ("get_property", getProperty), ("transform", transform)]

end Form

/-- The request of a call, or the kind of error if it makes none. -/
def Request.ofCall (strict : Bool) (call : Call) : Except ErrorKind Request :=
  match Form.all.lookup call.name with
  | none => .error .unknownCommand
  | some form =>
    match form.read? call.parameters with
    | none => .error .validation
    | some request =>
      if strict && call.parameters.keys.any (· ∉ form.names) then .error .validation else .ok request

/-! ## Sessions -/

/-- What is answered to an invocation: an outcome, its message apart. -/
structure Answer where
  isOk : Bool
  value : Value
  kind? : Option ErrorKind

/-- The answer that something is done, with a value. -/
def Answer.done (value : Value) : Answer := ⟨true, value, none⟩

/-- The answer that something is not done, for a kind of reason. -/
def Answer.refused (kind : ErrorKind) : Answer := ⟨false, .null, some kind⟩

/-- The answer that an outcome gives. -/
def Outcome.answer (outcome : Outcome) : Answer := ⟨outcome.isOk, outcome.value, outcome.kind?⟩

namespace Store

/-- The answer to an invocation and the store after it. -/
def run (options : Options) (invocation : Invocation) (a : Store) : Answer × Store :=
  match invocation.reading with
  | .error r => (.refused (r.kind.getD .grammar), a)
  | .ok call =>
    match Request.ofCall options.isStrict call with
    | .error kind => (.refused kind, a)
    | .ok request =>
      match request.perform a with
      | none => (.refused .execution, a)
      | some (value, after) => (.done value, after)

/-- The answers to invocations one after the other. -/
def runAll (options : Options) : List Invocation → Store → List Answer × Store
  | [], a => ([], a)
  | invocation :: rest, a =>
    let (answer, a) := run options invocation a
    let (answers, a) := runAll options rest a
    (answer :: answers, a)

/-- The answers of a step and the store that it leaves. -/
def perform : TextStep → Store → List Answer × Store
  | .execute options text, a =>
    let (answer, a) := run options (Invocation.parse options.isLenient text) a
    ([answer], a)
  | .executeBatch options text, a => runAll options (Invocation.parseAll options.isLenient text) a
  | .activate id, a => ([], { a with active := some id })
  | .deactivate, a => ([], { a with active := none })
  | .clearVariables, a => ([], { a with elements := ∅ })

/-- The answers of steps one after the other, and the store that they leave. -/
def play : List TextStep → Store → List (List Answer) × Store
  | [], a => ([], a)
  | step :: rest, a =>
    let (answers, a) := perform step a
    let (more, a) := play rest a
    (answers :: more, a)

end Store

end SceneLang
