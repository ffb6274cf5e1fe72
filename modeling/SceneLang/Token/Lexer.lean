/-
Reading a text into tokens.

A lexeme is what one token takes from the text: the kind and text of the token and how many
characters it is written with. `Lexeme.read` takes the longest lexeme at the head of a text, and
`scan` takes one lexeme after the other, passing over blanks, until the text ends or no lexeme can
be read.

* `length_drop_lt`: a lexeme takes at least one character, so the reading ends.
* `tokenize`: the tokens of a text and, after them, the end of the text.
-/
import SceneLang.Error
import SceneLang.Text.Blank
import SceneLang.Token.Basic

namespace SceneLang

/-- Why no token can be read. -/
inductive LexError.Cause where
  /-- the character starts no token -/
  | unexpected (c : Char)
  /-- the quote opens a string token that is not closed -/
  | unterminated (quote : Char)
  deriving DecidableEq

/-- Where no token can be read, and why. -/
structure LexError where
  cause : LexError.Cause
  position : Nat
  deriving DecidableEq

/-- The error of the language that a failed reading is reported as. -/
def LexError.toSceneError (e : LexError) : SceneError :=
  match e.cause with
  | .unexpected c => .lexical (.integer e.position) (String.singleton c) .null
  | .unterminated quote =>
    .lexical (.integer e.position) (String.singleton quote) "Unterminated string literal"

/-- What one token takes from a text. -/
structure Lexeme where
  kind : Token.Kind
  text : String
  /-- the number of characters it is written with -/
  width : Nat
  width_pos : 0 < width := by exact Nat.succ_pos _
  deriving DecidableEq

namespace Lexeme

open Token

/-- A word: its first character and all that continue it. -/
def word (c : Char) (rest : List Char) : Lexeme :=
  let tail := rest.takeWhile continuesWord
  let word := String.ofList (c :: tail)
  { kind := kindOfWord word, text := word, width := tail.length + 1 }

/-- What continues a number after its first digit: digits, and a point with the digits behind it. -/
def numberTail (rest : List Char) : List Char :=
  let digits := rest.takeWhile isDigit
  match rest.dropWhile isDigit with
  | '.' :: fraction => digits ++ '.' :: fraction.takeWhile isDigit
  | _ => digits

/-- A number: its first digit and all that continues it. -/
def number (c : Char) (rest : List Char) : Lexeme :=
  let tail := numberTail rest
  { kind := .number, text := String.ofList (c :: tail), width := tail.length + 1 }

/-- The content of a string token after its opening quote and the number of characters up to and
with the closing one; nothing if there is none. -/
def quotedContent? (quote : Char) : List Char → Option (List Char × Nat)
  | [] => none
  | '\\' :: c :: rest =>
    (quotedContent? quote rest).map fun (content, width) => (unescape c ++ content, width + 2)
  | c :: rest =>
    if c = quote then some ([], 1)
    else (quotedContent? quote rest).map fun (content, width) => (c :: content, width + 1)

/-- A string token: from a quote to the next one that no backslash precedes. -/
def string? (quote : Char) (rest : List Char) : Option Lexeme :=
  (quotedContent? quote rest).map fun (content, width) =>
    { kind := .string, text := String.ofList content, width := width + 1 }

/-- Punctuation: the arrow of two characters, or one character. -/
def punctuation? (c : Char) (rest : List Char) : Option Lexeme :=
  if c = '-' && rest.head? = some '>' then some { kind := .arrow, text := "->", width := 2 }
  else (kindOfChar? c).map fun kind => { kind, text := String.singleton c, width := 1 }

/-- The longest lexeme at the head of a text. -/
def read (c : Char) (rest : List Char) : Except LexError.Cause Lexeme :=
  if startsWord c then .ok (word c rest)
  else if isDigit c then .ok (number c rest)
  else if isQuote c then
    match string? c rest with
    | some lexeme => .ok lexeme
    | none => .error (.unterminated c)
  else
    match punctuation? c rest with
    | some lexeme => .ok lexeme
    | none => .error (.unexpected c)

/-- What is left of a text after a lexeme is shorter than the text. -/
theorem length_drop_lt (x : Lexeme) (c : Char) (rest : List Char) :
    ((c :: rest).drop x.width).length < (c :: rest).length := by
  have := x.width_pos
  simp only [List.length_drop, List.length_cons]
  omega

end Lexeme

namespace Token

open Text

/-- The tokens of a text whose first character has the given offset, without the end of the text. -/
def scan (position : Nat) : List Char → Except LexError (List Token)
  | [] => .ok []
  | c :: rest =>
    if isBlank c then scan (position + 1) rest
    else
      match Lexeme.read c rest with
      | .error cause => .error ⟨cause, position⟩
      | .ok x =>
        match scan (position + x.width) ((c :: rest).drop x.width) with
        | .error e => .error e
        | .ok tokens => .ok (⟨x.kind, x.text, position⟩ :: tokens)
termination_by text => text.length
decreasing_by
  · simp
  · exact x.length_drop_lt c rest

/-- The tokens of a text, and the end of the text after them. -/
def tokenize (text : List Char) : Except LexError (List Token) :=
  match scan 0 text with
  | .error e => .error e
  | .ok tokens => .ok (tokens ++ [atEnd text.length])

end Token

end SceneLang
