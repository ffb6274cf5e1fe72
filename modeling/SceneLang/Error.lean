/-
What can go wrong, and how it is put into words.

`SceneError` holds the errors that the language declares; each has a kind and a message. `Fault`
holds them together with everything else that can stop an operation: a whole number too large for
a number, a list where a value is asked for, a key that is not there, and what a host's own
commands raise.
-/
import SceneLang.Schema.Declaration

namespace SceneLang

/-- The category that a failure is reported under. -/
inductive ErrorKind where
  | lexical
  | grammar
  | unknownCommand
  | validation
  | execution
  deriving DecidableEq, Repr

/-- The errors that the language declares and those that a host derives from them. Their details are
values: the language's own errors give texts and offsets, and an error that a host makes may leave
any of them out, or say something else altogether under a category of its own. -/
inductive SceneError where
  /-- a character that starts no token, or another reason why no token can be read -/
  | lexical (position character reason : Value)
  /-- tokens that make no invocation -/
  | grammar (message position : Value)
  /-- a name that no command is registered under -/
  | unknownCommand (command : Value)
  /-- a parameter that does not fit what the command declares -/
  | parameter (command parameter reason : Value)
  /-- a command that cannot do what it is asked to -/
  | execution (command reason : Value)
  /-- an error without further detail: what it says and its category are up to whoever makes it -/
  | plain (message : Value) (kind : ErrorKind)
  deriving DecidableEq

namespace SceneError

/-- A message with the offset it is about. -/
def atOffset (message position : Value) : String := message.plain ++ " at offset " ++ position.plain

/-- What is wrong with a character: the reason given, if it says anything. -/
def characterReason (character reason : Value) : Value :=
  if reason.isTruthy then reason else "Unexpected character " ++ character.display

/-- The error in words. -/
def message : SceneError → String
  | .lexical position character reason => atOffset (characterReason character reason) position
  | .grammar message .null => message.plain
  | .grammar message position => atOffset message position
  | .unknownCommand command => s!"Unknown command '{command.plain}'"
  | .parameter command name reason => s!"Parameter '{name.plain}' of '{command.plain}' {reason.plain}"
  | .execution command reason => s!"{command.plain}: {reason.plain}"
  | .plain message _ => message.plain

/-- The category of the error. -/
def kind : SceneError → ErrorKind
  | .lexical .. => .lexical
  | .grammar .. => .grammar
  | .unknownCommand _ => .unknownCommand
  | .parameter .. => .validation
  | .execution .. => .execution
  | .plain _ kind => kind

end SceneError

/-- What a host calls the type of a value. -/
def Value.typeNoun : Value → String
  | .null => "NoneType"
  | .bool _ => "bool"
  | .number _ => "float"
  | .text _ => "str"
  | .integer _ => "int"
  | .list _ => "list"

/-- Everything that can stop an operation. -/
inductive Fault where
  | scene (error : SceneError)
  /-- a whole number beyond the largest number -/
  | tooLarge
  /-- the kind of what has no kind -/
  | noKind (v : Value)
  /-- the value of what is no value -/
  | noValue (v : Value)
  /-- the numeral of what is no text -/
  | noNumeral (v : Value)
  /-- the number of what is neither number nor text -/
  | noNumber (v : Value)
  /-- the printed number of what is no number -/
  | notReal (v : Value)
  /-- a text that says no number -/
  | unreadable (content : String)
  /-- a key that is not there -/
  | missingKey (key : Value)
  /-- a place outside a list -/
  | outOfRange
  /-- an option that does not exist -/
  | unknownOption (option : String)
  /-- a parameter that cannot be declared -/
  | declaration (problems : List Problem)
  /-- a host's command that fails while it runs -/
  | hostFailure (message : Value)
  /-- a host's command that refuses a value -/
  | hostRefusal (message : Value)
  deriving DecidableEq

/-- The fault in words. -/
def Fault.message : Fault → String
  | .scene error => error.message
  | .tooLarge => "int too large to convert to float"
  | .noKind v => "Not a value: " ++ v.display
  | .noValue v => s!"Cannot represent {v.typeNoun} as a value: {v.display}"
  | .noNumeral v => s!"expected string or bytes-like object, got '{v.typeNoun}'"
  | .noNumber v => s!"float() argument must be a string or a real number, not '{v.typeNoun}'"
  | .notReal v => s!"must be real number, not {v.typeNoun}"
  | .unreadable content => "could not convert string to float: " ++ Text.quoted content
  | .missingKey key => key.display
  | .outOfRange => "list index out of range"
  | .unknownOption option => s!"ExecutorConfig.__init__() got an unexpected keyword argument '{option}'"
  | .declaration problems =>
    "\n".intercalate (problems.map fun p => p.field ++ ": " ++ p.cause.message?.getD "Invalid field")
  | .hostFailure message | .hostRefusal message => message.plain

/-! ## Operations that can stop -/

theorem ok_bind {ε α β : Type} (a : α) (f : α → Except ε β) : (Except.ok a >>= f) = f a := rfl

theorem error_bind {ε α β : Type} (e : ε) (f : α → Except ε β) : (Except.error e >>= f) = .error e := rfl

theorem map_eq_ok_iff {ε α β : Type} {f : α → β} {x : Except ε α} {b : β} :
    x.map f = .ok b ↔ ∃ a, x = .ok a ∧ f a = b := by
  cases x <;> simp [Except.map]

theorem map_eq_error_iff {ε α β : Type} {f : α → β} {x : Except ε α} {e : ε} :
    x.map f = .error e ↔ x = .error e := by
  cases x <;> simp [Except.map]

theorem bind_eq_ok_iff {ε α β : Type} {f : α → Except ε β} {x : Except ε α} {b : β} :
    (x >>= f) = .ok b ↔ ∃ a, x = .ok a ∧ f a = .ok b := by
  cases x <;> simp [bind, Except.bind]

theorem pure_eq_ok_iff {ε α : Type} {a b : α} : (pure a : Except ε α) = .ok b ↔ a = b := by
  simp [pure, Except.pure]

end SceneLang
