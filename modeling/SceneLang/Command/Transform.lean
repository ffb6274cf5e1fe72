/-
The command that moves, rotates or scales an element.

Moving adds to the position, rotating adds to the rotation, scaling multiplies the scale; an
omitted amount is one that changes nothing. All three axes are read before the first is written,
so an element is transformed as a whole or not at all.
-/
import SceneLang.Command.Element

namespace SceneLang.Command

/-- What can be done to an element in space. -/
inductive Operation where
  | move
  | rotate
  | scale
  deriving DecidableEq, Repr

namespace Operation

/-- All operations, in the order in which messages list them. -/
def all : List Operation := [.move, .rotate, .scale]

/-- The name of an operation. -/
def name : Operation → String
  | .move => "move"
  | .rotate => "rotate"
  | .scale => "scale"

/-- The operation of a name. -/
def ofName? (name : String) : Option Operation := all.find? (·.name = name)

/-- The property that an operation changes along an axis. -/
def property : Operation → String → String
  | .move, axis => axis
  | .rotate, axis => "rotation_" ++ axis
  | .scale, axis => "scale_" ++ axis

/-- The amount that changes nothing, which also stands for a missing property. -/
def neutral : Operation → Binary64
  | .move | .rotate => .zero false
  | .scale => .ofNat 1

/-- What a property becomes under an amount. -/
def combine : Operation → Binary64 → Binary64 → Binary64
  | .move, current, amount | .rotate, current, amount => current + amount
  | .scale, current, amount => current * amount

end Operation

namespace Transform

/-- What the command that transforms elements is called. -/
def name : String := "transform"

/-- What transforming an element takes: the element, the operation and an amount along each axis. The
amounts declared here for those omitted are those of moving and rotating. -/
def schema : Schema :=
  [idParameter,
   { name := "operation", type := .string, description := "Transform operation (move, rotate, scale)" },
   { name := "x", type := .number, required := false, default := .number (.zero false),
     description := "X parameter", named := isIdentifier_x },
   { name := "y", type := .number, required := false, default := .number (.zero false),
     description := "Y parameter", named := isIdentifier_y },
   { name := "z", type := .number, required := false, default := .number (.zero false),
     description := "Z parameter" }]

/-- The parameter that says what is to be done. -/
def operationName : String := "operation"

/-- Passes if the operation is one of those there are. -/
def requireOperation (supplied : Parameters) : Except Fault Outcome := do
  let operation ← supplied.fetch operationName
  if (Operation.ofName? operation.plain).isSome then return .done
  let shown ← operation.shown
  let known := ", ".intercalate (Operation.all.map Operation.name)
  return .failure s!"Parameter '{operationName}' of '{name}' must be one of {known}, got {shown}" .validation

/-- The parameters with the amounts that are omitted: one for scaling, else as declared. -/
def fillAmounts (supplied : Parameters) : Except Fault Parameters :=
  if supplied.get? operationName = some (.text Operation.scale.name) then
    .ok (axes.foldl (fun filled axis =>
      if filled.contains axis then filled else filled.insert axis (.number Operation.scale.neutral)) supplied)
  else fillDefaults (.ok schema) supplied

/-- The number that a variable holds, or the given one if there is no such variable. -/
def readNumber (s : Scene) (key : String) (fallback : Binary64) : Except Fault Binary64 :=
  match s.vars.get? key with
  | none => .ok fallback
  | some v =>
    match v.toNumber with
    | .error f => .error f
    | .ok (some x) => .ok x
    | .ok none => refuse name s!"Property '{key}' is not numeric and cannot be transformed"

/-- The number of an amount. -/
def amountOf : Value → Except Fault Binary64
  | .number x => .ok x
  | .integer n => Value.widen n
  | v => .error (.notReal v)

/-- What the property of an axis becomes. -/
def update (operation : Operation) (id : String) (supplied : Parameters) (s : Scene) (axis : String) :
    Except Fault (String × Value) := do
  let amount ← supplied.fetch axis
  let key := Scene.elementKey id (operation.property axis)
  let current ← readNumber s key operation.neutral
  let amount ← amountOf amount
  return (key, .number (operation.combine current amount))

/-- The element and the operation that are meant and what the three properties become, if the
element exists. -/
def plan (supplied : Parameters) (s : Scene) : Except Fault (String × String × List (String × Value)) := do
  let id ← supplied.fetchText "id"
  let operation ← supplied.fetchText operationName
  requireElement name s id
  let updates ← axes.mapM (update ((Operation.ofName? operation).getD .scale) id supplied s)
  return (id, operation, updates)

/-- The report of a transformation. -/
def report (id operation : String) (supplied : Parameters) : Except Fault Outcome := do
  let amounts ← axes.mapM fun axis => supplied.fetch axis
  let shown := ", ".intercalate (← amounts.mapM Value.shown)
  return .ok s!"Applied {operation}({shown}) to '{id}'" .null

/-- Transforms an element and reports it. -/
def apply (supplied : Parameters) (s : Scene) : Except Fault Outcome × Scene :=
  match plan supplied s with
  | .error f => (.error f, s)
  | .ok (id, operation, updates) => (report id operation supplied, s.setAll updates)

end Transform

/-- Moves, rotates or scales an element. -/
def transform : Command :=
  { (standard Transform.name "Apply transformation to an element" (.ok Transform.schema)
      Transform.apply).requiring Transform.requireOperation with
    applyDefaults := Transform.fillAmounts }

end SceneLang.Command
