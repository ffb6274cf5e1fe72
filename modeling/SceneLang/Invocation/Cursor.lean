/-
A cursor over the tokens of a text.

The cursor holds the tokens ahead of it and knows how many lie behind; behind the last token it
sees the end of the text, however far it looks. Reading from it gives what was read and the cursor
behind it, or an error; there is no cursor behind an error, so a failed reading moves nothing.

* `ahead_advance`: `advance` passes one token, and none at the end.
* `tokens_getElem?`, `lookAhead_of_le`: looking ahead sees a token however far it looks.
* `accept_eq_some_iff`: what `accept` passes.
* `expect_eq_ok_iff`: what `expect` passes.
-/
import SceneLang.Error
import SceneLang.Number.Numeral
import SceneLang.Token.Lexer

namespace SceneLang

/-- Why tokens make no invocation. -/
inductive GrammarError.Cause where
  /-- something else was expected than the token found -/
  | expected (what : String) (found : Token)
  /-- the name of a parameter is not followed by a separator -/
  | noSeparator (parameter : String)
  /-- a parameter is given twice -/
  | duplicate (parameter : String)
  /-- a parameter has no value -/
  | noValue (parameter : String)
  /-- a parameter is given a token that is no literal -/
  | notLiteral (found : Token) (parameter : String)
  /-- something stands behind the invocation -/
  | trailing (found : Token)
  deriving DecidableEq

/-- Where tokens make no invocation, and why. -/
structure GrammarError where
  cause : GrammarError.Cause
  position : Nat
  deriving DecidableEq

/-- A token as messages name it. -/
def Token.found (t : Token) : String :=
  if t.kind = .endOfText then "end of input" else Text.quoted t.text

/-- The cause in words. -/
def GrammarError.Cause.message : GrammarError.Cause → String
  | .expected what found => s!"Expected {what}, found {found.found}"
  | .noSeparator parameter => s!"Expected ':' or '=' after parameter '{parameter}'"
  | .duplicate parameter => s!"Duplicate parameter '{parameter}'"
  | .noValue parameter => s!"Expected value for parameter '{parameter}'"
  | .notLiteral found parameter =>
    "Invalid value " ++ Text.quoted found.text ++ s!" for parameter '{parameter}'"
  | .trailing found => "Unexpected " ++ Text.quoted found.text ++ " after invocation"

/-- The error of the language that a failed reading is reported as. -/
def GrammarError.toSceneError (e : GrammarError) : SceneError :=
  .grammar e.cause.message (.integer e.position)

/-- A place among the tokens of a text. -/
structure Cursor where
  /-- the tokens behind it, the nearest first -/
  behind : List Token
  /-- the tokens before it -/
  ahead : List Token
  /-- the length of the text -/
  length : Nat
  deriving DecidableEq

namespace Cursor

/-- A reading: what was read and the cursor behind it, or an error. -/
abbrev Reading (α : Type) := Except GrammarError (α × Cursor)

/-- The cursor before the first token of a text. -/
def start (text : List Char) : Except LexError Cursor :=
  match Token.scan 0 text with
  | .error e => .error e
  | .ok tokens => .ok ⟨[], tokens, text.length⟩

/-- The number of tokens behind the cursor. -/
def passed (c : Cursor) : Nat := c.behind.length

/-- All tokens of the text, and the end of the text after them. -/
def tokens (c : Cursor) : List Token := c.behind.reverse ++ (c.ahead ++ [Token.atEnd c.length])

/-- The token that many tokens ahead; past the last one, the end of the text. -/
def lookAhead (c : Cursor) (count : Nat) : Token := c.ahead.getD count (Token.atEnd c.length)

/-- The next token. -/
def peek (c : Cursor) : Token := c.lookAhead 0

/-- The token of a number in the text, counted from the end if it is negative. -/
def tokenAt? (c : Cursor) : Int → Option Token
  | .ofNat i => c.tokens[i]?
  | .negSucc i => c.tokens.reverse[i]?

/-- The token at an offset, which may be negative and look back. Past the last token it is the end
of the text; before the first one the count goes on from the end, once around. -/
def peekAt (c : Cursor) (offset : Int) : Except Fault Token :=
  match c.tokenAt? (min (c.passed + offset) (c.tokens.length - 1)) with
  | some t => .ok t
  | none => .error .outOfRange

/-- The cursor behind the next token, or the same one at the end. -/
def advance (c : Cursor) : Cursor :=
  match c.ahead with
  | [] => c
  | t :: rest => { c with behind := t :: c.behind, ahead := rest }

/-- Whether the next token is of a kind. -/
def check (c : Cursor) (kind : Token.Kind) : Bool := c.peek.kind = kind

/-- The cursor behind the next token, if that is of a kind. -/
def accept (c : Cursor) (kind : Token.Kind) : Option Cursor := if c.check kind then some c.advance else none

/-- An error about the next token. -/
def fail {α : Type} (c : Cursor) (cause : GrammarError.Cause) : Except GrammarError α :=
  .error ⟨cause, c.peek.position⟩

/-- The next token, which has to be of a kind. -/
def expect (c : Cursor) (kind : Token.Kind) (what : String) : Reading Token :=
  if c.check kind then .ok (c.peek, c.advance) else c.fail (.expected what c.peek)

/-- The next token as an identifier. -/
def identifier (c : Cursor) (what : String) : Reading String :=
  (c.expect .identifier what).map fun (token, c) => (token.text, c)

/-- What an identifier is called where nothing else is said. -/
def anyIdentifier : String := "identifier"

/-- The next token as a number. -/
def number (c : Cursor) : Reading Binary64 :=
  (c.expect .number "number").map fun (token, c) => (Numeral.value token.text.toList, c)

/-- The next token as a text. -/
def string (c : Cursor) : Reading String :=
  (c.expect .string "string").map fun (token, c) => (token.text, c)

/-- The value of a keyword. -/
def keywordValue (word : String) : Value :=
  if word = "true" then .bool true else if word = "false" then .bool false else .null

/-- Whether a token closes an argument, so that a value is missing where it stands. -/
def closesArgument (kind : Token.Kind) : Bool :=
  kind = .closeParen || kind = .comma || kind = .semicolon || kind = .endOfText

/-- The next value of a parameter: a literal, or a number behind a minus. Any other token that
closes no argument stands for null if the reading is lenient. -/
def value (lenient : Bool) (parameter : String) (c : Cursor) : Reading Value :=
  match c.peek.kind with
  | .number => c.number.map fun (x, c) => (.number x, c)
  | .string => c.string.map fun (s, c) => (.text s, c)
  | .keyword => .ok (keywordValue c.peek.text, c.advance)
  | kind =>
    if kind = .minus && (c.lookAhead 1).kind = .number then
      c.advance.number.map fun (x, c) => (.number (-x), c)
    else if closesArgument kind then c.fail (.noValue parameter)
    else if lenient then .ok (.null, c.advance)
    else c.fail (.notLiteral c.peek parameter)

/-! ## How far readings go -/

theorem length_tokens (c : Cursor) : c.tokens.length = c.passed + c.ahead.length + 1 := by
  simp only [tokens, passed, List.length_append, List.length_reverse, List.length_cons, List.length_nil]
  omega

theorem tokens_getElem? (c : Cursor) {count : Nat} (h : count ≤ c.ahead.length) :
    c.tokens[c.passed + count]? = some (c.lookAhead count) := by
  have hr : c.behind.reverse.length = c.passed := List.length_reverse
  rw [tokens, List.getElem?_append_right (by omega), hr, Nat.add_sub_cancel_left, lookAhead,
    List.getD_eq_getElem?_getD]
  rcases Nat.lt_or_eq_of_le h with hlt | rfl
  · rw [List.getElem?_append_left hlt, List.getElem?_eq_getElem hlt, Option.getD_some]
  · rw [List.getElem?_append_right (Nat.le_refl _), Nat.sub_self, List.getElem?_eq_none (Nat.le_refl _)]
    rfl

theorem lookAhead_of_le (c : Cursor) {count : Nat} (h : c.ahead.length ≤ count) :
    c.lookAhead count = c.lookAhead c.ahead.length := by
  simp only [lookAhead, List.getD_eq_getElem?_getD]
  rw [List.getElem?_eq_none (Nat.le_refl _), List.getElem?_eq_none h]

theorem ahead_advance (c : Cursor) : c.advance.ahead = c.ahead.tail := by
  unfold advance
  split <;> simp_all

theorem length_advance_le (c : Cursor) : c.advance.ahead.length ≤ c.ahead.length := by
  rw [ahead_advance, List.length_tail]; omega

theorem ahead_ne_nil_of_kind {c : Cursor} (h : c.peek.kind ≠ .endOfText) : c.ahead ≠ [] := by
  intro he
  apply h
  simp [peek, lookAhead, he, Token.atEnd]

theorem length_advance_lt {c : Cursor} (h : c.peek.kind ≠ .endOfText) :
    c.advance.ahead.length < c.ahead.length := by
  rw [ahead_advance, List.length_tail]
  have := List.length_pos_iff.2 (ahead_ne_nil_of_kind h)
  omega

theorem accept_eq_some_iff {c d : Cursor} {kind : Token.Kind} :
    c.accept kind = some d ↔ c.peek.kind = kind ∧ d = c.advance := by
  simp only [accept, check, decide_eq_true_eq]
  split <;> simp_all [eq_comm]

theorem expect_eq_ok_iff {c d : Cursor} {kind : Token.Kind} {what : String} {t : Token} :
    c.expect kind what = .ok (t, d) ↔ c.peek.kind = kind ∧ t = c.peek ∧ d = c.advance := by
  simp only [expect, check, decide_eq_true_eq, fail]
  split <;> simp_all [eq_comm]

end Cursor

end SceneLang
