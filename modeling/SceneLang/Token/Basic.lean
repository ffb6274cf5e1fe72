/-
The tokens of a command text.

A token has a kind, the text it stands for and the offset it starts at. The text of a string token
is its content with the escapes resolved; that of any other token is what is written. The words
`true`, `false` and `null` are keywords, every other word is an identifier.
-/

namespace SceneLang

namespace Token

/-- The kinds of token. -/
inductive Kind where
  /-- what stands after the last token -/
  | endOfText
  | identifier
  | number
  | string
  | openParen
  | closeParen
  | openBrace
  | closeBrace
  | comma
  | colon
  | equals
  | semicolon
  | arrow
  | plus
  | minus
  | star
  | slash
  | keyword
  deriving DecidableEq, Repr

end Token

/-- A token and where it starts, counted in characters. -/
structure Token where
  kind : Token.Kind
  text : String
  position : Nat
  deriving DecidableEq, Repr

namespace Token

/-- What stands at the end of a text of the given length. -/
def atEnd (length : Nat) : Token := ⟨.endOfText, "", length⟩

/-! ## Classes of characters -/

/-- Whether a character may start a word: an ASCII letter or the underscore. -/
def startsWord (c : Char) : Bool := c = '_' || c.isAlpha

/-- Whether a character is one of the ten ASCII digits. -/
def isDigit (c : Char) : Bool := c.isDigit

/-- Whether a character may stand in a word after its first. -/
def continuesWord (c : Char) : Bool := startsWord c || isDigit c

/-- Whether a character opens and closes string tokens. -/
def isQuote (c : Char) : Bool := c = '"' || c = '\x27'

/-! ## Words and punctuation -/

/-- The keywords. -/
def keywords : List String := ["true", "false", "null"]

/-- Whether a word is a keyword or an identifier. -/
def kindOfWord (word : String) : Kind := if keywords.contains word then .keyword else .identifier

/-- The kind of a token that is one punctuation character. -/
def kindOfChar? : Char → Option Kind
  | '(' => some .openParen
  | ')' => some .closeParen
  | '{' => some .openBrace
  | '}' => some .closeBrace
  | ',' => some .comma
  | ':' => some .colon
  | '=' => some .equals
  | ';' => some .semicolon
  | '+' => some .plus
  | '-' => some .minus
  | '*' => some .star
  | '/' => some .slash
  | _ => none

/-- What a backslash and a character stand for inside a string token. A character without a
meaning of its own keeps its backslash. -/
def unescape : Char → List Char
  | 'n' => ['\n']
  | 't' => ['\t']
  | '\\' => ['\\']
  | '"' => ['"']
  | '\x27' => ['\x27']
  | c => ['\\', c]

end Token

end SceneLang
