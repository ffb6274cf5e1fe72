/-
Commands.

A command is a name, a description and four hooks: its schema, the check of what is supplied, the
filling of defaults and the run. Any hook may fault. `Command.standard` gives the checking and
filling that follow from the schema alone; a command may replace either.
-/
import SceneLang.Outcome
import SceneLang.Scene.Basic
import SceneLang.Schema.Check

namespace SceneLang

/-- A command. -/
structure Command where
  name : String
  /-- the name it is registered under, as a rule its own -/
  listing : String
  description : String
  schema : Except Fault Schema
  validate : Parameters → Except Fault Outcome
  applyDefaults : Parameters → Except Fault Parameters
  /-- what it does to the scene; what it has done before a fault stays done -/
  run : Parameters → Scene → Except Fault Outcome × Scene

/-- What a command is called and declares. -/
structure Description where
  name : String
  description : String
  parameters : Schema

namespace Command

/-- The check that follows from a schema. Errors of the language become the outcome; any other
fault stays one. -/
def checkSchema (name : String) (schema : Except Fault Schema) (supplied : Parameters) : Except Fault Outcome :=
  match schema.bind fun schema => schema.check name supplied false with
  | .ok () => .ok .done
  | .error (.scene e) => .ok (.ofError e)
  | .error f => .error f

/-- The filling of defaults that follows from a schema. -/
def fillDefaults (schema : Except Fault Schema) (supplied : Parameters) : Except Fault Parameters :=
  schema.map (·.fill supplied)

/-- The command with the checking and filling that follow from its schema. -/
def standard (name description : String) (schema : Except Fault Schema)
    (run : Parameters → Scene → Except Fault Outcome × Scene) : Command where
  name := name
  listing := name
  description := description
  schema := schema
  validate := checkSchema name schema
  applyDefaults := fillDefaults schema
  run := run

/-- The command with a further check of what passes its own. -/
def requiring (c : Command) (further : Parameters → Except Fault Outcome) : Command :=
  { c with validate := fun supplied =>
      match c.validate supplied with
      | .error f => .error f
      | .ok validation => if validation.isOk then further supplied else .ok validation }

/-- What a command is called and declares. -/
def describe (c : Command) : Except Fault Description :=
  c.schema.map fun parameters => ⟨c.name, c.description, parameters⟩

end Command

end SceneLang
