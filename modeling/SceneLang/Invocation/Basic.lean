/-
Invocations: what a command text was read as.

A text is read either as a call, a command name with parameters, or as nothing, with the kind of
the error and a diagnostic. A call never comes with an error and a rejection never with a name or
parameters.
-/
import SceneLang.OrderedMap
import SceneLang.Schema.Parameter
import SceneLang.Value.Convert

namespace SceneLang

/-- A command name and the parameters supplied to it. -/
structure Call where
  name : String
  parameters : Parameters

/-- Why a text is no call. A host's own rejection may leave either part open. -/
structure Rejection where
  kind : Option ErrorKind
  diagnostic : Option String

/-- A command text and what it was read as. -/
structure Invocation where
  source : String
  reading : Except Rejection Call

namespace Call

/-- One parameter of a call in text. -/
def parameterText (entry : String × Value) : Except Fault String :=
  entry.2.shown.map fun value => s!"{entry.1}: {value}"

/-- A call in text: the name, then the parameters in parentheses. -/
def toText (call : Call) : Except Fault String :=
  (call.parameters.entries.mapM parameterText).map fun parameters =>
    call.name ++ "(" ++ ", ".intercalate parameters ++ ")"

end Call

/-- The diagnostic of a rejection, by name if it has none. -/
def Rejection.diagnosticText (r : Rejection) : String := r.diagnostic.getD "None"

namespace Invocation

/-- Whether a text was read as a call. -/
def isValid (x : Invocation) : Bool := x.reading.isOk

/-- The name of the command, empty if the text is no call. -/
def commandName (x : Invocation) : String :=
  match x.reading with
  | .ok call => call.name
  | .error _ => ""

/-- The parameters that are supplied, none if the text is no call. -/
def parameters (x : Invocation) : Parameters :=
  match x.reading with
  | .ok call => call.parameters
  | .error _ => ∅

/-- What is wrong with a text that is no call. -/
def diagnostic? (x : Invocation) : Option String :=
  match x.reading with
  | .ok _ => none
  | .error r => r.diagnostic

/-- The kind of what is wrong with a text that is no call. -/
def kind? (x : Invocation) : Option ErrorKind :=
  match x.reading with
  | .ok _ => none
  | .error r => r.kind

/-- An invocation in text. -/
def toText (x : Invocation) : Except Fault String :=
  match x.reading with
  | .ok call => call.toText
  | .error r => .ok s!"<invalid: {r.diagnosticText}>"

end Invocation

end SceneLang
