/-
Outcomes: what validating or running a command comes to.

An outcome has four fields, and a host's own command may fill in each of them as it likes. The
language itself makes outcomes in two ways: a success has a message and may have a value, and a
failure has a message and a kind, and no value.
-/
import SceneLang.Error

namespace SceneLang

/-- What an operation comes to. -/
structure Outcome where
  /-- whether it succeeded -/
  isOk : Bool := true
  /-- what it says; a host may leave it out -/
  message? : Option String := some ""
  /-- what it gives, null if nothing -/
  value : Value := .null
  /-- what kind of failure it is -/
  kind? : Option ErrorKind := none
  deriving DecidableEq

namespace Outcome

/-- Success with a message and a value. -/
def ok (message : Option String) (value : Value) : Outcome := ⟨true, message, value, none⟩

/-- Failure with a message and a kind. -/
def failure (message : Option String) (kind : ErrorKind) : Outcome := ⟨false, message, .null, some kind⟩

/-- Success without a word. -/
def done : Outcome := .ok (some "") .null

/-- The failure that an error of the language comes to. -/
def ofError (e : SceneError) : Outcome := .failure e.message e.kind

variable {message other : Option String} {value : Value} {kind otherKind : ErrorKind} {e : SceneError}

@[simp] theorem isOk_ok : (ok message value).isOk = true := rfl

@[simp] theorem isOk_failure : (failure message kind).isOk = false := rfl

@[simp] theorem isOk_done : done.isOk = true := rfl

@[simp] theorem isOk_ofError : (ofError e).isOk = false := rfl

@[simp] theorem failure_inj :
    failure message kind = failure other otherKind ↔ message = other ∧ kind = otherKind := by
  simp [failure]

end Outcome

end SceneLang
