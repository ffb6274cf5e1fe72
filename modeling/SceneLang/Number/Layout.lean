/-
How numbers are laid out in text.

The digits are the shortest that read back. The point is put where it belongs as long as the
first digit stands at `10 ^ -4` to `10 ^ 15`; beyond that one digit stands before the point and
an exponent follows. A whole number shows its point and a zero.
-/
import SceneLang.Number.Decimal

namespace SceneLang

/-- Which decimal exponents are written out by position, and how wide an exponent is at least. -/
structure NumberLayout where
  leastPositional : Int
  mostPositional : Int
  exponentWidth : Nat

/-- The layout of numbers in messages and answers. -/
def numberLayout : NumberLayout := ⟨-4, 15, 2⟩

namespace NumberLayout

/-- An exponent with its sign. -/
def exponent (layout : NumberLayout) (e : Int) : List Char :=
  let digits := Decimal.digitsOf e.natAbs
  (if e < 0 then '-' else '+') :: (List.replicate (layout.exponentWidth - digits.length) '0' ++ digits)

/-- Digits with the point after the first `point` of them, filled with zeros where none stand. -/
def positional (digits : List Char) (point : Int) : List Char :=
  if point ≤ 0 then '0' :: '.' :: (List.replicate (-point).toNat '0' ++ digits)
  else
    let n := point.toNat
    if digits.length ≤ n then digits ++ List.replicate (n - digits.length) '0' ++ ['.', '0']
    else digits.take n ++ '.' :: digits.drop n

/-- Digits with one of them before the point, and the exponent that puts it right. -/
def scientific (layout : NumberLayout) (digits : List Char) (point : Int) : List Char :=
  let whole := digits.take 1
  let fraction := digits.drop 1
  whole ++ (if fraction.isEmpty then [] else '.' :: fraction) ++ 'e' :: layout.exponent (point - 1)

/-- A decimal in text. -/
def ofDecimal (layout : NumberLayout) (x : Decimal) : List Char :=
  let all := Decimal.digitsOf x.digits
  let digits := (all.reverse.dropWhile (· = '0')).reverse
  let point := all.length + x.exponent
  if layout.leastPositional ≤ point - 1 && point - 1 ≤ layout.mostPositional then positional digits point
  else layout.scientific digits point

end NumberLayout

/-- A whole number in text. -/
def integerText (n : Int) : String :=
  let digits := Decimal.digitsOf n.natAbs
  String.ofList (if n < 0 then '-' :: digits else digits)

/-- A number in text, with the fewest digits that read back. -/
def Binary64.toText : Binary64 → String
  | .nan => "nan"
  | .infinite s => if s then "-inf" else "inf"
  | .finite s m p _ =>
    let digits := if m = 0 then ['0', '.', '0'] else numberLayout.ofDecimal (Decimal.shortest m p)
    String.ofList (if s then '-' :: digits else digits)

end SceneLang
