/-
Help on a command: a usage line, the description, and a line for each parameter.

Optional parameters stand in brackets in the usage line, and their lines show the default.
-/
import SceneLang.Command.Basic

namespace SceneLang

namespace Parameter

/-- A parameter in the usage line. -/
def usage (p : Parameter) : String :=
  if p.required then s!"{p.name}: {p.type.name}" else s!"[{p.name}: {p.type.name}]"

/-- Whether a parameter is required, and if not what it defaults to. -/
def detail (p : Parameter) : Except Fault String :=
  if p.required then .ok "required" else p.default.shown.map ("default " ++ ·)

/-- The line on a parameter. -/
def helpLine (p : Parameter) : Except Fault String :=
  p.detail.map fun detail => s!"    {p.name} ({p.type.name}, {detail}): {p.description}"

end Parameter

/-- Help on a command. -/
def Command.help (c : Command) : Except Fault String := do
  let parameters ← c.schema
  let usage := ", ".intercalate (parameters.map Parameter.usage)
  let description := if c.description = "" then [] else ["  " ++ c.description]
  let lines ← parameters.mapM Parameter.helpLine
  return "\n".intercalate (s!"{c.name}({usage})" :: description ++ lines)

end SceneLang
