/-
The numbers of the language: binary floating point with 53 significant bits.

A finite number is a sign, a significand `m` and an exponent `p`, and stands for `m * 2 ^ p`
units, a unit being the smallest positive number, `2 ^ -1074`. Every number has one such form
(`Valid`), so equality of values is equality of forms, zeros apart, which carry a sign.

Rounding is exact arithmetic on natural numbers: `ofUnits` gives the number nearest a quotient of
units, a tie going to the even significand, and every operation is its exact result so rounded.
-/

namespace SceneLang

/-- `a / d` to the nearest whole number, a tie going to the even one. -/
def roundQuotient (a d : Nat) : Nat :=
  let q := a / d
  let r := a % d
  if 2 * r < d then q else if d < 2 * r then q + 1 else q + q % 2

namespace Binary64

/-- The significands and exponents of finite numbers: 53 bits, all of them in use unless the
exponent is the smallest. -/
def Valid (m p : Nat) : Prop := m < Nat.pow 2 53 ∧ (Nat.pow 2 52 ≤ m ∨ p = 0) ∧ p ≤ 2045

instance (m p : Nat) : Decidable (Valid m p) := inferInstanceAs (Decidable (_ ∧ _))

end Binary64

/-- A number of the language. -/
inductive Binary64 where
  /-- `m * 2 ^ p` units, negated if `negative` -/
  | finite (negative : Bool) (m p : Nat) (valid : Binary64.Valid m p)
  | infinite (negative : Bool)
  | nan
  deriving DecidableEq

namespace Binary64

/-- How many units make one. -/
def one : Nat := Nat.pow 2 1074

/-- The number of sign, significand and exponent, infinite if the exponent is too large. -/
def make (negative : Bool) (m p : Nat) : Binary64 :=
  if h : Valid m p then .finite negative m p h else .infinite negative

/-- The number nearest `a / d` units. -/
def ofUnits (negative : Bool) (a d : Nat) : Binary64 :=
  let p := (a / d).log2 - 52
  let m := roundQuotient a (d * Nat.pow 2 p)
  if m < Nat.pow 2 53 then make negative m p else make negative (Nat.pow 2 52) (p + 1)

/-- Zero with a sign. -/
def zero (negative : Bool) : Binary64 := .finite negative 0 0 (by decide)

instance : Inhabited Binary64 := ⟨zero false⟩

/-- A number if it is finite. -/
def finite? : Binary64 → Option Binary64
  | .finite s m p h => some (.finite s m p h)
  | _ => none

/-- The number nearest a whole number, and nothing beyond the largest finite number. -/
def ofInt? : Int → Option Binary64
  | .ofNat n => (ofUnits false (n * one) 1).finite?
  | .negSucc n => (ofUnits true ((n + 1) * one) 1).finite?

/-- A whole number of at most 53 bits. -/
def ofNat (n : Nat) : Binary64 := ofUnits false (n * one) 1

/-- The units of a finite number, without its sign. -/
def magnitude (m p : Nat) : Nat := m * Nat.pow 2 p

/-- The units of a finite number. -/
def units (negative : Bool) (m p : Nat) : Int :=
  if negative then -(magnitude m p : Int) else magnitude m p

/-- Whether a number is neither infinite nor the one that is no number. -/
def isFinite : Binary64 → Bool
  | .finite .. => true
  | _ => false

/-- Whether a number is zero, of either sign. -/
def isZero : Binary64 → Bool
  | .finite _ m _ _ => m == 0
  | _ => false

/-- The number of the other sign. -/
def neg : Binary64 → Binary64
  | .finite s m p h => .finite (!s) m p h
  | .infinite s => .infinite (!s)
  | .nan => .nan

/-- The sum. Two zeros give a negative zero if both are negative; numbers that cancel give a
positive one. -/
def add : Binary64 → Binary64 → Binary64
  | .nan, _ | _, .nan => .nan
  | .infinite s, .infinite t => if s = t then .infinite s else .nan
  | .infinite s, .finite .. | .finite .., .infinite s => .infinite s
  | .finite s m p _, .finite t n q _ =>
    let sum := units s m p + units t n q
    if sum = 0 then zero (s && t) else ofUnits (sum < 0) sum.natAbs 1

/-- The product. -/
def mul : Binary64 → Binary64 → Binary64
  | .nan, _ | _, .nan => .nan
  | .infinite s, .infinite t => .infinite (s ^^ t)
  | .infinite s, .finite t m _ _ | .finite t m _ _, .infinite s =>
    if m = 0 then .nan else .infinite (s ^^ t)
  | .finite s m p _, .finite t n q _ => ofUnits (s ^^ t) (magnitude m p * magnitude n q) one

/-- The whole number that a number is, if it is one. -/
def toInt? : Binary64 → Option Int
  | .finite s m p _ =>
    if magnitude m p % one = 0 then
      some (if s then -((magnitude m p / one : Nat) : Int) else (magnitude m p / one : Nat))
    else none
  | _ => none

instance : Neg Binary64 := ⟨neg⟩
instance : Add Binary64 := ⟨add⟩
instance : Mul Binary64 := ⟨mul⟩

/-! ## First facts -/

theorem zero_valid : Valid 0 0 := by decide

theorem make_of_valid {m p : Nat} (negative : Bool) (h : Valid m p) :
    make negative m p = .finite negative m p h := by
  simp only [make, h, dif_pos]

theorem isFinite_iff {x : Binary64} : x.isFinite = true ↔ ∃ s m p h, x = .finite s m p h := by
  cases x with
  | finite s m p h => exact ⟨fun _ => ⟨s, m, p, h, rfl⟩, fun _ => rfl⟩
  | infinite s => simp [isFinite]
  | nan => simp [isFinite]

end Binary64

end SceneLang
