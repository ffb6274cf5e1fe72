/-
Declaring a parameter.

A host writes a declaration field by field, and any field may be left out or hold a value that
does not fit. `Declaration.parameter` gives the parameter that the declaration stands for, or
every problem with it in the order of the fields.
-/
import SceneLang.Schema.Parameter

namespace SceneLang

/-- Why a field of a declaration cannot be used. -/
inductive Problem.Cause where
  | missing
  | notText
  | unknownType
  | notBool
  | unreadableBool
  | notNumber
  /-- a text that is no identifier, where a name is asked for -/
  | badName (name : String)
  /-- a declared parameter does not change -/
  | fixed
  deriving DecidableEq

/-- A field of a declaration that cannot be used, and why. -/
structure Problem where
  field : String
  cause : Problem.Cause
  deriving DecidableEq

/-- What a problem is called where its cause needs words. -/
def Problem.Cause.message? : Problem.Cause → Option String
  | .badName name => some ("Value error, Invalid parameter name: " ++ Text.quoted name)
  | _ => none

/-- A parameter as a host declares it. -/
structure Declaration where
  name : Option Value := none
  type : Option Value := none
  required : Option Value := none
  default : Option Value := none
  description : Option Value := none

namespace Declaration

/-- What was found in a field: a part of the parameter, or every reason why there is none. -/
abbrev Reading (α : Type) := Except (List Problem.Cause) α

/-- The name of a parameter, which has no default. -/
def readName : Option Value → Reading { name : String // Text.isIdentifier name = true }
  | none => .error [.missing]
  | some (.text name) => if h : Text.isIdentifier name = true then .ok ⟨name, h⟩ else .error [.badName name]
  | some _ => .error [.notText]

/-- The type of a parameter. -/
def readType : Option Value → Reading ParameterType
  | none => .ok .any
  | some (.text name) =>
    match ParameterType.ofName? name with
    | some t => .ok t
    | none => .error [.unknownType]
  | some _ => .error [.unknownType]

/-- The texts that stand for true, in lower case. -/
def affirmations : List String := ["1", "on", "t", "true", "y", "yes"]

/-- The texts that stand for false, in lower case. -/
def denials : List String := ["0", "off", "f", "false", "n", "no"]

/-- A boolean that a whole number stands for. -/
def readBit (n : Int) : Reading Bool :=
  if n = 1 then .ok true else if n = 0 then .ok false else .error [.unreadableBool]

/-- What the whole numbers of 64 bits stay below; the smallest of them is its negation. -/
def wordBound : Int := Int.pow 2 63

/-- Whether a whole number has at most 64 bits; a larger one is not looked at as a boolean. -/
def fitsWord (n : Int) : Bool := -wordBound ≤ n && n < wordBound

/-- Whether a parameter is required. -/
def readRequired : Option Value → Reading Bool
  | none => .ok true
  | some (.bool flag) => .ok flag
  | some (.text s) =>
    let word := s.map Char.toLower
    if affirmations.contains word then .ok true
    else if denials.contains word then .ok false
    else .error [.unreadableBool]
  | some (.integer n) => if fitsWord n then readBit n else .error [.notBool]
  | some (.number x) =>
    match x.toInt? with
    | some n => if fitsWord n && n ≠ -wordBound then readBit n else .error [.notBool]
    | none => .error [.notBool]
  | some _ => .error [.notBool]

/-- Why a value can be no default: it is not a number, nor a boolean, nor text. -/
def noDefault : List Problem.Cause := [.notNumber, .notBool, .notText]

/-- The default of a parameter; a whole number becomes a number. -/
def readDefault : Option Value → Reading Value
  | none => .ok .null
  | some (.integer n) =>
    match Binary64.ofInt? n with
    | some x => .ok (.number x)
    | none => .error noDefault
  | some (.list _) => .error noDefault
  | some v => .ok v

/-- The description of a parameter. -/
def readDescription : Option Value → Reading String
  | none => .ok ""
  | some (.text s) => .ok s
  | some _ => .error [.notText]

/-- The problems of a field. -/
def problemsOf {α : Type} (field : String) : Reading α → List Problem
  | .ok _ => []
  | .error causes => causes.map (⟨field, ·⟩)

/-- The parameter that a declaration stands for, or its problems in the order of the fields. -/
def parameter (d : Declaration) : Except (List Problem) Parameter :=
  match readName d.name, readType d.type, readRequired d.required, readDefault d.default,
    readDescription d.description with
  | .ok name, .ok type, .ok required, .ok default, .ok description =>
    .ok ⟨name.1, type, required, default, description, name.2⟩
  | name, type, required, default, description =>
    .error (problemsOf "name" name ++ problemsOf "type" type ++ problemsOf "required" required ++
      problemsOf "default" default ++ problemsOf "description" description)

end Declaration

/-- A declared parameter does not change: the problem of assigning to one of its fields. -/
def Parameter.assignment (_ : Parameter) (field : String) : Problem := ⟨field, .fixed⟩

end SceneLang
