/-
Running command texts.

An invocation goes through the same stages every time: it has to be a call, its command has to be
registered, the command has to accept the parameters, strict checking has to find no undeclared
name, and the defaults have to be filled in. `prepare` goes through these stages and gives the
command with its parameters or the outcome of the first stage that stops; only then does the
command run. No fault gets out: every one becomes a failure.
-/
import SceneLang.Invocation.Parser
import SceneLang.Registry

namespace SceneLang

/-- How invocations are read and checked. An option keeps what a host sets it to and is on if that
counts as true. -/
structure Options where
  /-- on if supplied names have to be declared -/
  strictParameters : Value := .bool false
  /-- on if a token that is no literal stands for null -/
  lenientValues : Value := .bool true
  deriving DecidableEq

namespace Options

/-- Whether supplied names have to be declared. -/
def isStrict (options : Options) : Bool := options.strictParameters.isTruthy

/-- Whether a token that is no literal stands for null. -/
def isLenient (options : Options) : Bool := options.lenientValues.isTruthy

/-- The options with one of them set by name. -/
def set (options : Options) : String × Value → Except Fault Options
  | ("strict_parameters", setting) => .ok { options with strictParameters := setting }
  | ("lenient_values", setting) => .ok { options with lenientValues := setting }
  | (name, _) => .error (.unknownOption name)

/-- The options that some settings by name make. -/
def ofSettings (settings : List (String × Value)) : Except Fault Options := settings.foldlM set {}

end Options

/-- What runs invocations: the commands there are, and the options. -/
structure Executor where
  registry : Registry
  options : Options := {}

namespace Executor

/-- The failure of an invocation that is no call. -/
def rejectionOutcome (r : Rejection) : Outcome :=
  let kind := r.kind.getD .grammar
  let label := if kind = .lexical then "Lexical error" else "Syntax error"
  .failure s!"{label}: {r.diagnosticText}" kind

/-- The failure that a fault in a command comes to. -/
def faultOutcome (command : String) : Fault → Outcome
  | .scene e => .ofError e
  | f => .failure s!"{command}: internal error: {f.message}" .execution

/-- The check that strict options add: no undeclared names. -/
def strictCheck (x : Executor) (call : Call) (c : Command) : Except Fault Unit :=
  if x.options.isStrict then
    c.schema.bind fun schema => schema.check call.name call.parameters true
  else .ok ()

/-- The parameters that a command runs with, or the outcome that stops the call before. -/
def ready (x : Executor) (call : Call) (c : Command) : Except Outcome Parameters :=
  match c.validate call.parameters with
  | .error f => .error (faultOutcome call.name f)
  | .ok validation =>
    if validation.isOk then
      match x.strictCheck call c with
      | .error f => .error (faultOutcome call.name f)
      | .ok () =>
        match c.applyDefaults call.parameters with
        | .error f => .error (faultOutcome call.name f)
        | .ok parameters => .ok parameters
    else .error validation

/-- The command of a call and the parameters it runs with, or the outcome that stops the call. -/
def prepare (x : Executor) (call : Call) : Except Outcome (Command × Parameters) :=
  match x.registry.get? call.name with
  | none => .error (.ofError (.unknownCommand call.name))
  | some c => (x.ready call c).map (c, ·)

/-- Runs a call. -/
def runCall (x : Executor) (call : Call) (s : Scene) : Outcome × Scene :=
  match x.prepare call with
  | .error outcome => (outcome, s)
  | .ok (c, parameters) =>
    match c.run parameters s with
    | (.ok outcome, after) => (outcome, after)
    | (.error f, after) => (faultOutcome call.name f, after)

/-- Runs an invocation. -/
def run (x : Executor) (invocation : Invocation) (s : Scene) : Outcome × Scene :=
  match invocation.reading with
  | .error r => (rejectionOutcome r, s)
  | .ok call => x.runCall call s

/-- Reads a command text and runs it. -/
def execute (x : Executor) (text : String) (s : Scene) : Outcome × Scene :=
  x.run (Invocation.parse x.options.isLenient text) s

/-- Runs invocations one after the other in the scene that each one leaves. -/
def runAll (x : Executor) : List Invocation → Scene → List Outcome × Scene
  | [], s => ([], s)
  | invocation :: rest, s =>
    let (outcome, s) := x.run invocation s
    let (outcomes, s) := x.runAll rest s
    (outcome :: outcomes, s)

/-- Reads the statements of a batch text and runs them in order; a failure stops none of those
after it. -/
def executeBatch (x : Executor) (text : String) (s : Scene) : List Outcome × Scene :=
  x.runAll (Invocation.parseAll x.options.isLenient text) s

end Executor

end SceneLang
