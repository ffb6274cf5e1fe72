/-
Command names derived from class names.

A name such as `CreateElementCommand` loses one `Command` at its end and is written as its words
in lower case with underscores between them. A word starts at a capital after a small letter or
a digit, and at the last capital of several when a small letter follows it, so `HTTPServer` is
`http_server`.
-/
import SceneLang.Text.Digit
import SceneLang.Text.LowerCase

namespace SceneLang.Text

/-- Whether a character is one of the capitals that start words. -/
def isCapital (c : Char) : Bool := 'A' ≤ c && c ≤ 'Z'

/-- Whether a character is one of the small letters that continue words. -/
def isSmall (c : Char) : Bool := 'a' ≤ c && c ≤ 'z'

/-- Whether a word starts at `c`, which stands between `before` and `after`. -/
def startsWord (before c : Char) (after : List Char) : Bool :=
  isCapital c &&
    (isSmall before || isDecimalDigit before || isCapital before && after.head?.any isSmall)

/-- A text that follows the character `before`, with an underscore at the start of each word. -/
def separateAfter (before : Char) : List Char → List Char
  | [] => []
  | c :: after =>
    if startsWord before c after then '_' :: c :: separateAfter c after
    else c :: separateAfter c after

/-- A text with an underscore before each word but the first. -/
def separateWords : List Char → List Char
  | [] => []
  | c :: after => c :: separateAfter c after

/-- The words of a text in lower case, with underscores between them and for its hyphens. -/
def snakeCase (text : List Char) : List Char :=
  lower ((separateWords text).map fun c => if c = '-' then '_' else c)

/-- What a class name ends in by convention; the command name leaves it out. -/
def commandSuffix : List Char := "Command".toList

/-- A text without one given ending. -/
def dropEnding (ending text : List Char) : List Char :=
  if ending.isSuffixOf text then text.take (text.length - ending.length) else text

/-- The command name that a class name stands for. -/
def commandName (className : String) : String :=
  String.ofList (snakeCase (dropEnding commandSuffix className.toList))

end SceneLang.Text
