/-
Sessions: what a host does with one scene and the built-in commands.

A host runs texts, single or in batches, and invocations that it made itself, each under options of
its choice; in between it sets and clears the active scene id and clears the variables. A session
is any list of such steps. It starts from a scene without variables.
-/
import SceneLang.Executor

namespace SceneLang

/-- The executor of the built-in commands. -/
def Executor.builtin (options : Options) : Executor := ⟨.default, options⟩

/-- A step of a session in which commands come as texts. -/
inductive TextStep where
  | execute (options : Options) (text : String)
  | executeBatch (options : Options) (text : String)
  | activate (id : String)
  | deactivate
  | clearVariables

/-- A step of a session. -/
inductive Step where
  | text (step : TextStep)
  /-- runs an invocation that need not have been read from a text -/
  | run (options : Options) (invocation : Invocation)

/-- The outcomes of a step and the scene that it leaves. -/
def TextStep.perform : TextStep → Scene → List Outcome × Scene
  | .execute options text, s =>
    let (outcome, s) := (Executor.builtin options).execute text s
    ([outcome], s)
  | .executeBatch options text, s => (Executor.builtin options).executeBatch text s
  | .activate id, s => ([], s.activate id)
  | .deactivate, s => ([], s.deactivate)
  | .clearVariables, s => ([], s.clearVariables)

/-- The invocations of a step, one for each outcome. -/
def TextStep.invocations : TextStep → List Invocation
  | .execute options text => [Invocation.parse options.isLenient text]
  | .executeBatch options text => Invocation.parseAll options.isLenient text
  | _ => []

namespace Step

/-- The outcomes of a step and the scene that it leaves. -/
def perform : Step → Scene → List Outcome × Scene
  | .text step, s => step.perform s
  | .run options invocation, s =>
    let (outcome, s) := (Executor.builtin options).run invocation s
    ([outcome], s)

/-- The invocations of a step, one for each outcome. -/
def invocations : Step → List Invocation
  | .text step => step.invocations
  | .run _ invocation => [invocation]

end Step

/-- The id of the element that an invocation has created, going by its outcome. -/
def createdBy (invocation : Invocation) (outcome : Outcome) : Option String :=
  if invocation.commandName = Command.CreateElement.name ∧ outcome.isOk then
    (invocation.parameters.get? "name").map Value.plain
  else none

theorem createdBy_of_ne (invocation : Invocation) (h : invocation.commandName ≠ Command.CreateElement.name)
    (outcome : Outcome) : createdBy invocation outcome = none := by
  rw [createdBy, if_neg fun hc => h hc.1]

theorem createdBy_of_failure (invocation : Invocation) {outcome : Outcome} (h : outcome.isOk = false) :
    createdBy invocation outcome = none := by
  rw [createdBy, if_neg (by simp [h])]

theorem createdBy_of_ok (invocation : Invocation) {outcome : Outcome} {id : String}
    (hc : invocation.commandName = Command.CreateElement.name) (h : outcome.isOk = true)
    (hn : invocation.parameters.get? "name" = some (.text id)) : createdBy invocation outcome = some id := by
  rw [createdBy, if_pos ⟨hc, h⟩, hn]
  rfl

/-- The ids of the elements that invocations have created, in order. -/
def createdByAll (invocations : List Invocation) (outcomes : List Outcome) : List String :=
  (invocations.zip outcomes).filterMap fun e => createdBy e.1 e.2

theorem createdByAll_cons (invocation : Invocation) (rest : List Invocation) (outcome : Outcome)
    (outcomes : List Outcome) : createdByAll (invocation :: rest) (outcome :: outcomes) =
      (createdBy invocation outcome).toList ++ createdByAll rest outcomes := by
  rw [createdByAll, List.zip_cons_cons, List.filterMap_cons]
  cases createdBy invocation outcome <;> rfl

namespace Session

/-- The scene that a session starts from. -/
def start (active : Option String) : Scene := { active := active }

/-- The outcomes of steps in which commands come as texts, and the scene that they leave. -/
def play : List TextStep → Scene → List (List Outcome) × Scene
  | [], s => ([], s)
  | step :: rest, s =>
    let (outcomes, s) := step.perform s
    let (more, s) := play rest s
    (outcomes :: more, s)

/-- The scene that steps leave. -/
def after (steps : List Step) (s : Scene) : Scene := steps.foldl (fun s step => (step.perform s).2) s

/-- The ids of the elements that steps create, in order, an id as often as it is created. -/
def created : List Step → Scene → List String
  | [], _ => []
  | step :: rest, s =>
    let (outcomes, after) := step.perform s
    createdByAll step.invocations outcomes ++ created rest after

end Session

end SceneLang
