/-
Numerals: decimal numbers written in text.

`isNumeral` says which texts the language reads as numbers: an optional sign, then digits with an
optional point and more digits, or a point and digits. `numeralValue` is the number nearest what
such a text says. `readNumber?` is the wider reading a host's texts get: surrounding blanks,
underscores between digits, exponents, and the names of infinity and of what is no number.
-/
import SceneLang.Number.Decimal
import SceneLang.Text.Blank
import SceneLang.Text.Digit

namespace SceneLang.Numeral

open Text

/-- The number that a row of digits writes. -/
def ofDigits (digits : List Char) : Nat :=
  digits.foldl (fun n c => 10 * n + (digitValue? c).getD 0) 0

/-- A text without its sign, and whether the sign was a minus. -/
def splitSign : List Char → Bool × List Char
  | '-' :: body => (true, body)
  | '+' :: body => (false, body)
  | body => (false, body)

/-- Whether a text is digits with an optional point and more digits, or a point and digits. -/
def isUnsigned (body : List Char) : Bool :=
  match body.dropWhile isDecimalDigit with
  | [] => !body.isEmpty
  | c :: fraction =>
    c = '.' && fraction.all isDecimalDigit && !(fraction.isEmpty && (body.takeWhile isDecimalDigit).isEmpty)

/-- Whether a text is a numeral. -/
def isNumeral (text : List Char) : Bool := isUnsigned (splitSign text).2

/-- What digits with an optional point and more digits say. -/
def decimalOf (body : List Char) : Decimal :=
  let whole := body.takeWhile isDecimalDigit
  let fraction := (body.drop (whole.length + 1)).takeWhile isDecimalDigit
  ⟨ofDigits (whole ++ fraction), -fraction.length⟩

/-- The number nearest what a numeral says. -/
def value (text : List Char) : Binary64 :=
  let (negative, body) := splitSign text
  (decimalOf body).toBinary64 negative

/-! ## Numbers in a host's texts -/

/-- A text without its underscores, if each stands between two digits; `before` says whether a
digit stands before the text. -/
def dropUnderscores? (before : Bool) : List Char → Option (List Char)
  | [] => some []
  | '_' :: c :: rest =>
    if before && isDecimalDigit c then (dropUnderscores? true rest).map (c :: ·) else none
  | '_' :: [] => none
  | c :: rest => (dropUnderscores? (isDecimalDigit c) rest).map (c :: ·)

/-- The whole number that an exponent writes: an optional sign and digits. -/
def exponent? (text : List Char) : Option Int :=
  let (negative, digits) := splitSign text
  if digits.isEmpty || !digits.all isDecimalDigit then none
  else some (if negative then -(ofDigits digits : Int) else ofDigits digits)

/-- The exponents beyond which a decimal of `count` digits is surely infinite or zero. -/
def clampExponent (count : Nat) (e : Int) : Int :=
  max (-(count + 1000 : Int)) (min (count + 1000 : Int) e)

/-- A numeral without sign and with an optional exponent. -/
def scientific? (negative : Bool) (body : List Char) : Option Binary64 :=
  let isMark := fun c => c = 'e' || c = 'E'
  let digits := body.takeWhile (!isMark ·)
  if !isUnsigned digits then none
  else
    let x := decimalOf digits
    match body.dropWhile (!isMark ·) with
    | [] => some (x.toBinary64 negative)
    | _ :: mark =>
      (exponent? mark).map fun e =>
        (Decimal.mk x.digits (x.exponent + clampExponent digits.length e)).toBinary64 negative

/-- The blanks that may stand around a host's number: all but the four separators of records. -/
def isPadding (c : Char) : Bool := isBlank c && !(28 ≤ c.toNat && c.toNat ≤ 31)

/-- The number that a host's text says. -/
def readNumber? (text : String) : Option Binary64 :=
  let inner := ((text.toList.dropWhile isPadding).reverse.dropWhile isPadding).reverse
  let (negative, body) := splitSign inner
  let name := body.map Char.toLower
  if name = "inf".toList || name = "infinity".toList then some (.infinite negative)
  else if name = "nan".toList then some .nan
  else (dropUnderscores? false body).bind (scientific? negative)

end SceneLang.Numeral
