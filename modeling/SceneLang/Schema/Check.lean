/-
What is supplied, against what is declared.

Checking goes through the schema in order and stops at the first parameter that is required and
missing, or supplied with a value that its type does not accept. Strict checking then looks for a
supplied name that is not declared. Filling gives omitted optional parameters their defaults.

* `firstViolation?_nil`, `firstViolation?_cons`: the order of checking.
-/
import SceneLang.Value.Convert

namespace SceneLang

/-- What is wrong with a supplied or missing parameter. -/
inductive Violation.Reason where
  | missing
  | mismatch (declared : ParameterType) (found : Kind)
  | undeclared
  deriving DecidableEq

/-- A parameter that does not fit the schema, and why. -/
structure Violation where
  parameter : String
  reason : Violation.Reason
  deriving DecidableEq

/-- The reason in words. -/
def Violation.Reason.message : Violation.Reason → String
  | .missing => "is required"
  | .mismatch declared found => s!"must be {declared.name}, got {found.name}"
  | .undeclared => "is not a declared parameter"

/-- The error of the language that a violation is reported as. -/
def Violation.toSceneError (command : String) (v : Violation) : SceneError :=
  .parameter command v.parameter v.reason.message

/-- What is wrong with the value supplied for a parameter, if anything is. -/
def Parameter.mismatch? (p : Parameter) (v : Value) : Except Fault (Option Violation) :=
  if p.type = .any then .ok none
  else match v.kind with
    | .error f => .error f
    | .ok kind => .ok (if p.type.accepts kind then none else some ⟨p.name, .mismatch p.type kind⟩)

/-- What is wrong with a parameter, given what is supplied. -/
def Parameter.violation? (supplied : Parameters) (p : Parameter) : Except Fault (Option Violation) :=
  match supplied.get? p.name with
  | none => .ok (if p.required then some ⟨p.name, .missing⟩ else none)
  | some v => p.mismatch? v

namespace Schema

/-- The first parameter of a schema that is violated. -/
def firstViolation? (supplied : Parameters) : Schema → Except Fault (Option Violation)
  | [] => .ok none
  | p :: rest =>
    match p.violation? supplied with
    | .ok none => firstViolation? supplied rest
    | answer => answer

/-- The first supplied name that a schema does not declare. -/
def undeclared? (schema : Schema) (supplied : Parameters) : Option Violation :=
  (supplied.keys.find? (!schema.declares ·)).map (⟨·, .undeclared⟩)

/-- The first violation of a schema; undeclared names count if the check is strict. -/
def violation? (schema : Schema) (supplied : Parameters) (strict : Bool) : Except Fault (Option Violation) :=
  match firstViolation? supplied schema with
  | .ok none => .ok (if strict then schema.undeclared? supplied else none)
  | answer => answer

/-- Passes if what is supplied to a command fits its schema. -/
def check (command : String) (schema : Schema) (supplied : Parameters) (strict : Bool) : Except Fault Unit :=
  match schema.violation? supplied strict with
  | .ok none => .ok ()
  | .ok (some v) => .error (.scene (v.toSceneError command))
  | .error f => .error f

/-- The parameters with the default of a parameter that is optional and omitted. -/
def fillOne (filled : Parameters) (p : Parameter) : Parameters :=
  if filled.contains p.name || p.required then filled else filled.insert p.name p.default

/-- What is supplied, with the defaults of the optional parameters that are omitted. -/
def fill (schema : Schema) (supplied : Parameters) : Parameters := schema.foldl fillOne supplied

/-! ## First facts -/

@[simp] theorem firstViolation?_nil (supplied : Parameters) : firstViolation? supplied [] = .ok none := rfl

theorem firstViolation?_cons (supplied : Parameters) (p : Parameter) (rest : Schema) :
    firstViolation? supplied (p :: rest) =
      match p.violation? supplied with
      | .ok none => firstViolation? supplied rest
      | answer => answer := rfl

end Schema

end SceneLang
