/-
Conversions between the kinds of value.

A conversion that has no answer gives nothing; it faults only on what is no value of the language:
a list, or a whole number beyond the largest number. Text reads as a number exactly when all of it
is a numeral.
-/
import SceneLang.Error
import SceneLang.Number.Numeral

namespace SceneLang.Value

/-- The kind of a value. -/
def kind (v : Value) : Except Fault Kind :=
  match v.kind? with
  | some k => .ok k
  | none => .error (.noKind v)

/-- Whether a value is of the kind of the given name; every value is of the kind `any`. -/
def isOf (v : Value) (declared : String) : Except Fault Bool :=
  if declared = ParameterType.any.name then .ok true
  else match v.kind with
    | .ok k => .ok (k.name = declared)
    | .error f => .error f

/-- The number nearest a whole number. -/
def widen (n : Int) : Except Fault Binary64 :=
  match Binary64.ofInt? n with
  | some x => .ok x
  | none => .error .tooLarge

/-- A value as the language holds it: whole numbers become numbers. -/
def normalise : Value → Except Fault Value
  | .integer n => (widen n).map .number
  | .list items => .error (.noValue (.list items))
  | v => .ok v

/-- A number as messages show it: whole ones digit by digit without a point, others with the
fewest digits that read back. -/
def numberText (x : Binary64) : String :=
  match x.toInt? with
  | some n => integerText n
  | none => x.toText

/-- The text of a value that counts as a number. -/
def formatNumber : Value → Except Fault String
  | .number x => .ok (numberText x)
  | .integer n => (widen n).map fun _ => integerText n
  | .bool flag => .ok (if flag then "1" else "0")
  | v => .error (.notReal v)

/-- The spelling of a boolean. -/
def boolText (flag : Bool) : String := if flag then "true" else "false"

/-- A value as text. Null has none and stays null; a list is handed back as it is. -/
def toText : Value → Except Fault Value
  | .null => .ok .null
  | .bool flag => .ok (.text (boolText flag))
  | .number x => .ok (.text (numberText x))
  | .integer n => (formatNumber (.integer n)).map .text
  | .text s => .ok (.text s)
  | .list items => .ok (.list items)

/-- A value as text that says what it is: null by name and text between double quotes. -/
def format : Value → Except Fault Value
  | .null => .ok (.text "null")
  | .text s => .ok (.text ("\"" ++ s ++ "\""))
  | v => v.toText

/-- A value formatted for a message. -/
def shown (v : Value) : Except Fault String := (format v).map plain

/-- A value as a number, if it has a numeric reading. -/
def toNumber : Value → Except Fault (Option Binary64)
  | .null => .ok none
  | .bool flag => .ok (some (Binary64.ofNat (if flag then 1 else 0)))
  | .number x => .ok (some x)
  | .integer n => (widen n).map some
  | .text s => .ok (if Numeral.isNumeral s.toList then some (Numeral.value s.toList) else none)
  | .list items => .error (.noNumeral (.list items))

/-- A value as a boolean, if it has such a reading: numbers by whether they are zero, text by its
two spellings. -/
def toBool : Value → Option Bool
  | .null => none
  | .bool flag => some flag
  | .number x => some (!x.isZero)
  | .integer n => some (n ≠ 0)
  | .text s => if s = boolText true then some true else if s = boolText false then some false else none
  | .list _ => none

/-- The text value of whatever a host hands in. -/
def ofHostText (v : Value) : Value := .text v.plain

/-- The number of whatever a host hands in: text is read as a host's numbers are. -/
def ofHostNumber : Value → Except Fault Value
  | .number x => .ok (.number x)
  | .integer n => (widen n).map .number
  | .bool flag => .ok (.number (Binary64.ofNat (if flag then 1 else 0)))
  | .text s =>
    match Numeral.readNumber? s with
    | some x => .ok (.number x)
    | none => .error (.unreadable s)
  | v => .error (.noNumber v)

/-- The boolean of whatever a host hands in. -/
def ofHostBool (v : Value) : Value := .bool v.isTruthy

end SceneLang.Value
