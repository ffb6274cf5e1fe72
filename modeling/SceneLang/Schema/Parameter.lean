/-
The parameters that a command declares.

A schema is a list of parameters in the order in which they are described and checked. Names are
identifiers by construction; a name may be declared more than once.
-/
import SceneLang.OrderedMap
import SceneLang.Text.Identifier
import SceneLang.Value.Basic

namespace SceneLang

/-- What a parameter accepts: one kind of value, or any value. -/
inductive ParameterType where
  | number
  | string
  | bool
  | any
  deriving DecidableEq, Repr

namespace ParameterType

/-- The name of a type. -/
def name : ParameterType → String
  | .number => "number"
  | .string => "string"
  | .bool => "bool"
  | .any => "any"

/-- The type of a name. -/
def ofName? : String → Option ParameterType
  | "number" => some .number
  | "string" => some .string
  | "bool" => some .bool
  | "any" => some .any
  | _ => none

@[simp] theorem ofName?_name (t : ParameterType) : ofName? t.name = some t := by cases t <;> rfl

/-- Whether a type accepts a kind of value. -/
def accepts : ParameterType → Kind → Bool
  | .any, _ => true
  | .number, k => k = .number
  | .string, k => k = .string
  | .bool, k => k = .bool

end ParameterType

/-- A declared parameter. -/
structure Parameter where
  name : String
  type : ParameterType := .any
  required : Bool := true
  /-- what an omitted optional parameter stands for -/
  default : Value := .null
  description : String := ""
  named : Text.isIdentifier name = true := by decide

/-- What is supplied to a command: values under parameter names. -/
abbrev Parameters := OrderedMap Value

/-- The declared parameters of a command, in order. -/
abbrev Schema := List Parameter

/-- Whether a schema declares a name. -/
def Schema.declares (schema : Schema) (name : String) : Bool := schema.any (·.name = name)

end SceneLang
