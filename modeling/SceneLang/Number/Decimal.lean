/-
Decimals, and the shortest one that reads back as a given number.

A decimal is a whole number of digits times a power of ten. `toBinary64` rounds it to the nearest
number of the language. In the other direction `shortest` looks for the fewest digits that read
back: for one digit, two digits and so on it tries the two decimals next to the number, the nearer
one first, and takes the first that reads back.
-/
import SceneLang.Number.Binary64

namespace SceneLang

/-- `digits * 10 ^ exponent`. -/
structure Decimal where
  digits : Nat
  exponent : Int
  deriving DecidableEq, Repr

namespace Decimal

/-- The number nearest a decimal, with a sign. -/
def toBinary64 (negative : Bool) (x : Decimal) : Binary64 :=
  if 0 ≤ x.exponent then Binary64.ofUnits negative (x.digits * Nat.pow 10 x.exponent.toNat * Binary64.one) 1
  else Binary64.ofUnits negative (x.digits * Binary64.one) (Nat.pow 10 (-x.exponent).toNat)

/-- The decimal digits of a whole number, the first one first. -/
def digitsOf (n : Nat) : List Char := Nat.toDigits 10 n

/-- The power of ten just above a positive number of units: `units < 10 ^ k` ones, and not for a
smaller `k`. No number is below `10 ^ -400`. -/
def magnitudeOrder (units : Nat) : Int :=
  (digitsOf (units * Nat.pow 10 400 / Binary64.one)).length - 400

/-- The decimals of `count` digits next to a number of units of the given order, the nearer one
first. -/
def neighbours (units : Nat) (order : Int) (count : Nat) : List Decimal :=
  let exponent := order - count
  let a := units * Nat.pow 10 (-exponent).toNat
  let d := Binary64.one * Nat.pow 10 exponent.toNat
  let low := ⟨a / d, exponent⟩
  let high := ⟨a / d + 1, exponent⟩
  let r := a % d
  if r = 0 then [low]
  else if 2 * r < d || 2 * r = d && (a / d) % 2 = 0 then [low, high]
  else [high, low]

/-- Whether a decimal reads back as the number of a significand and an exponent. -/
def readsAs (m p : Nat) (x : Decimal) : Bool := x.toBinary64 false = Binary64.make false m p

/-- All the digits of a number of units. -/
def exact (units : Nat) : Decimal := ⟨units * Nat.pow 5 1074, -1074⟩

/-- The shortest decimal that reads back as the given number, the nearest of those of its length.
Seventeen digits are always enough. The sign plays no part. -/
def shortest (m p : Nat) : Decimal :=
  let units := Binary64.magnitude m p
  let order := magnitudeOrder units
  ((List.range' 1 17).findSome? fun count => (neighbours units order count).find? (readsAs m p)).getD
    (exact units)

end Decimal

end SceneLang
