/-
Rounding.

The number nearest `a / d` units depends on the quotient alone, goes up with it, and is the quotient
itself where that is a number. A decimal that is written with more zeros is therefore the same
number, and the shortest decimal of a number, whichever that is, reads back as it.

* `Binary64.ofUnits_congr`, `magnitude_le_of_ofUnits`, `ofUnits_exact`: what rounding depends on.
* `Decimal.toBinary64_mul_pow`: moving zeros between the digits of a decimal and its exponent.
* `Decimal.toBinary64_shortest`: the shortest decimal of a number reads back.
-/
import Mathlib.Algebra.Group.Nat.Defs
import SceneLang.Number.Decimal

namespace SceneLang

/-! ## The nearest whole number -/

theorem roundQuotient_mul_right {c : Nat} (hc : 0 < c) (a d : Nat) :
    roundQuotient (a * c) (d * c) = roundQuotient a d := by
  have hbelow : 2 * (a % d * c) < d * c ↔ 2 * (a % d) < d := by
    rw [← Nat.mul_assoc, Nat.mul_lt_mul_right hc]
  have habove : d * c < 2 * (a % d * c) ↔ d < 2 * (a % d) := by
    rw [← Nat.mul_assoc, Nat.mul_lt_mul_right hc]
  simp only [roundQuotient, Nat.mul_div_mul_right _ _ hc, Nat.mul_mod_mul_right, hbelow, habove]

theorem roundQuotient_mul {d : Nat} (hd : 0 < d) (k : Nat) : roundQuotient (k * d) d = k := by
  simp [roundQuotient, Nat.mul_div_cancel _ hd, hd]

/-- It is one of the two whole numbers next to the quotient. -/
theorem roundQuotient_bounds (a d : Nat) : a / d ≤ roundQuotient a d ∧ roundQuotient a d ≤ a / d + 1 := by
  simp only [roundQuotient]
  split
  · omega
  · split <;> omega

theorem roundQuotient_le {a b : Nat} (h : a ≤ b) (d : Nat) : roundQuotient a d ≤ roundQuotient b d := by
  rcases Nat.lt_or_eq_of_le (Nat.div_le_div_right (c := d) h) with hlt | heq
  · have ha := (roundQuotient_bounds a d).2
    have hb := (roundQuotient_bounds b d).1
    omega
  · -- between the same two whole numbers, the remainders decide
    have ha := Nat.div_add_mod a d
    have hb := Nat.div_add_mod b d
    rw [heq] at ha
    simp only [roundQuotient, heq]
    (repeat' split) <;> omega

theorem roundQuotient_mono {a d a' d' : Nat} (hd : 0 < d) (hd' : 0 < d') (h : a * d' ≤ a' * d) :
    roundQuotient a d ≤ roundQuotient a' d' := by
  calc roundQuotient a d = roundQuotient (a * d') (d * d') := (roundQuotient_mul_right hd' a d).symm
    _ ≤ roundQuotient (a' * d) (d * d') := roundQuotient_le h _
    _ = roundQuotient (a' * d) (d' * d) := by rw [Nat.mul_comm d d']
    _ = roundQuotient a' d' := roundQuotient_mul_right hd a' d'

namespace Binary64

/-! ## The nearest number -/

/-- The exponent of the number nearest `a / d` units, as long as its significand does not overflow. -/
def scale (a d : Nat) : Nat := (a / d).log2 - 52

/-- The number of units nearest `a / d` among those that 53 significant bits can hold. -/
def rounded (a d : Nat) : Nat := roundQuotient a (d * 2 ^ scale a d) * 2 ^ scale a d

theorem ofUnits_eq (negative : Bool) (a d : Nat) :
    ofUnits negative a d =
      if roundQuotient a (d * 2 ^ scale a d) < 2 ^ 53 then
        make negative (roundQuotient a (d * 2 ^ scale a d)) (scale a d)
      else make negative (2 ^ 52) (scale a d + 1) := rfl

theorem ofUnits_mul_right {c : Nat} (hc : 0 < c) (negative : Bool) (a d : Nat) :
    ofUnits negative (a * c) (d * c) = ofUnits negative a d := by
  have hscale : scale (a * c) (d * c) = scale a d := by rw [scale, Nat.mul_div_mul_right _ _ hc, scale]
  have hround : roundQuotient (a * c) (d * c * 2 ^ scale a d) = roundQuotient a (d * 2 ^ scale a d) := by
    rw [Nat.mul_right_comm d c, roundQuotient_mul_right hc]
  simp only [ofUnits_eq, hscale, hround]

/-- What is rounded to depends on the quotient alone. -/
theorem ofUnits_congr {a d a' d' : Nat} (hd : 0 < d) (hd' : 0 < d') (h : a * d' = a' * d) (negative : Bool) :
    ofUnits negative a d = ofUnits negative a' d' := by
  rw [← ofUnits_mul_right hd' negative a d, h, Nat.mul_comm d d', ofUnits_mul_right hd]

theorem ofUnits_neg (a d : Nat) : ofUnits true a d = -ofUnits false a d := by
  have hmake : ∀ m p, make true m p = -make false m p := by
    intro m p
    unfold make
    split <;> rfl
  simp only [ofUnits_eq, hmake]
  split <;> rfl

/-- The exponent of a number is the one that its magnitude has under rounding. -/
theorem scale_of_valid {m p : Nat} (h : Valid m p) : scale (magnitude m p) 1 = p := by
  obtain ⟨hlt, hnorm, -⟩ := h
  have hlt : m < 2 ^ 53 := hlt
  rw [scale, Nat.div_one]
  by_cases hfull : 2 ^ 52 ≤ m
  · have hlower : 2 ^ (52 + p) ≤ magnitude m p := by
      rw [Nat.pow_add]
      exact Nat.mul_le_mul_right _ hfull
    have hupper : magnitude m p < 2 ^ (52 + p + 1) := by
      rw [Nat.add_right_comm, Nat.pow_add]
      exact Nat.mul_lt_mul_of_pos_right hlt (Nat.two_pow_pos p)
    have hne : magnitude m p ≠ 0 := Nat.ne_of_gt (Nat.lt_of_lt_of_le (Nat.two_pow_pos _) hlower)
    rw [(Nat.log2_eq_iff hne).2 ⟨hlower, hupper⟩]
    omega
  · have hp : p = 0 := hnorm.resolve_left hfull
    subst hp
    have hm : magnitude m 0 = m := Nat.mul_one m
    rw [hm]
    by_cases hzero : m = 0
    · rw [hzero]
      rfl
    · have hlog := (Nat.log2_lt hzero).2 (Nat.lt_of_not_le hfull)
      omega

/-- A number is nearest itself. -/
theorem ofUnits_exact {m p : Nat} (h : Valid m p) (negative : Bool) :
    ofUnits negative (magnitude m p) 1 = .finite negative m p h := by
  have hscale := scale_of_valid h
  have hround : roundQuotient (magnitude m p) (1 * 2 ^ p) = m := by
    rw [Nat.one_mul]
    exact roundQuotient_mul (Nat.two_pow_pos p) m
  have hlt : m < 2 ^ 53 := h.1
  rw [ofUnits_eq, hscale, hround, if_pos hlt, make_of_valid negative h]

theorem magnitude_inj {m p m' p' : Nat} (h : Valid m p) (h' : Valid m' p')
    (hunits : magnitude m p = magnitude m' p') : m = m' ∧ p = p' := by
  have hsame := ofUnits_exact h false
  rw [hunits, ofUnits_exact h' false] at hsame
  cases hsame
  exact ⟨rfl, rfl⟩

/-! ## Larger quotients, larger numbers -/

/-- The significand never exceeds 53 bits by more than one, and uses them all if there are more units
than they can count. -/
theorem significand_bounds {a d : Nat} (hd : 0 < d) :
    roundQuotient a (d * 2 ^ scale a d) ≤ 2 ^ 53 ∧
      (0 < scale a d → 2 ^ 52 ≤ roundQuotient a (d * 2 ^ scale a d)) := by
  have hpos : 0 < d * 2 ^ scale a d := Nat.mul_pos hd (Nat.two_pow_pos _)
  constructor
  · have hlog : (a / d).log2 + 1 ≤ 53 + scale a d := by
      rw [scale]
      omega
    have hquotient : a / d < 2 ^ (53 + scale a d) :=
      Nat.lt_of_lt_of_le Nat.lt_log2_self (Nat.pow_le_pow_right (by decide) hlog)
    have ha : a ≤ 2 ^ 53 * (d * 2 ^ scale a d) := by
      have hlt := (Nat.div_lt_iff_lt_mul hd).1 hquotient
      rw [Nat.pow_add, Nat.mul_assoc, Nat.mul_comm (2 ^ scale a d)] at hlt
      exact Nat.le_of_lt hlt
    calc roundQuotient a (d * 2 ^ scale a d)
        ≤ roundQuotient (2 ^ 53 * (d * 2 ^ scale a d)) (d * 2 ^ scale a d) := roundQuotient_le ha _
      _ = 2 ^ 53 := roundQuotient_mul hpos _
  · intro hscale
    have hlog : (a / d).log2 = 52 + scale a d := by
      rw [scale] at hscale ⊢
      omega
    have hne : a / d ≠ 0 := by
      intro hzero
      rw [hzero, Nat.log2_zero] at hlog
      omega
    have ha : 2 ^ 52 * (d * 2 ^ scale a d) ≤ a := by
      have hle := Nat.log2_self_le hne
      rw [hlog, Nat.le_div_iff_mul_le hd, Nat.pow_add, Nat.mul_assoc, Nat.mul_comm (2 ^ scale a d)] at hle
      exact hle
    calc 2 ^ 52 = roundQuotient (2 ^ 52 * (d * 2 ^ scale a d)) (d * 2 ^ scale a d) :=
          (roundQuotient_mul hpos _).symm
      _ ≤ roundQuotient a (d * 2 ^ scale a d) := roundQuotient_le ha _

/-- A significand that overflows by one is the least one of the next exponent. -/
theorem carry (p : Nat) : 2 ^ 53 * 2 ^ p = 2 ^ 52 * 2 ^ (p + 1) := by
  have hexponent : 53 + p = 52 + (p + 1) := by omega
  rw [← Nat.pow_add, ← Nat.pow_add, hexponent]

theorem eq_of_make {negative s : Bool} {m p m' p' : Nat} {h : Valid m' p'}
    (hmake : make negative m p = .finite s m' p' h) : m' = m ∧ p' = p := by
  unfold make at hmake
  split at hmake
  · cases hmake
    exact ⟨rfl, rfl⟩
  · cases hmake

/-- The units of a number that something is rounded to. -/
theorem magnitude_of_ofUnits {negative s : Bool} {a d m p : Nat} {h : Valid m p} (hd : 0 < d)
    (hround : ofUnits negative a d = .finite s m p h) : magnitude m p = rounded a d := by
  rw [ofUnits_eq] at hround
  split at hround
  · obtain ⟨rfl, rfl⟩ := eq_of_make hround
    rfl
  · next hover =>
    obtain ⟨rfl, rfl⟩ := eq_of_make hround
    -- the significand overflows by one
    have hfull : roundQuotient a (d * 2 ^ scale a d) = 2 ^ 53 :=
      Nat.le_antisymm (significand_bounds hd).1 (Nat.le_of_not_lt hover)
    have hunits : magnitude (2 ^ 52) (scale a d + 1) = 2 ^ 52 * 2 ^ (scale a d + 1) := rfl
    rw [hunits, rounded, hfull, carry]

theorem div_le_div_of_mul_le {a d a' d' : Nat} (hd : 0 < d) (hd' : 0 < d') (h : a * d' ≤ a' * d) :
    a / d ≤ a' / d' := by
  rw [Nat.le_div_iff_mul_le hd']
  refine Nat.le_of_mul_le_mul_right ?_ hd
  calc a / d * d' * d = a / d * d * d' := Nat.mul_right_comm _ _ _
    _ ≤ a * d' := Nat.mul_le_mul_right _ (Nat.div_mul_le_self a d)
    _ ≤ a' * d := h

theorem scale_le {a d a' d' : Nat} (h : a / d ≤ a' / d') : scale a d ≤ scale a' d' := by
  have hlog : (a / d).log2 ≤ (a' / d').log2 := by
    by_cases hzero : a / d = 0
    · rw [hzero, Nat.log2_zero]
      exact Nat.zero_le _
    · have hne : a' / d' ≠ 0 := Nat.ne_of_gt (Nat.lt_of_lt_of_le (Nat.pos_of_ne_zero hzero) h)
      exact (Nat.le_log2 hne).2 (Nat.le_trans (Nat.log2_self_le hzero) h)
  rw [scale, scale]
  omega

theorem rounded_le {a d a' d' : Nat} (hd : 0 < d) (hd' : 0 < d') (h : a * d' ≤ a' * d) :
    rounded a d ≤ rounded a' d' := by
  rcases Nat.lt_or_eq_of_le (scale_le (div_le_div_of_mul_le hd hd' h)) with hlt | heq
  · -- with a larger exponent the least significand counts for more than any with a smaller one
    have hlow := (significand_bounds (a := a) hd).1
    have hhigh := (significand_bounds (a := a') hd').2 (by omega)
    calc rounded a d ≤ 2 ^ 53 * 2 ^ scale a d := Nat.mul_le_mul_right _ hlow
      _ = 2 ^ 52 * 2 ^ (scale a d + 1) := carry _
      _ ≤ 2 ^ 52 * 2 ^ scale a' d' := Nat.mul_le_mul_left _ (Nat.pow_le_pow_right (by decide) hlt)
      _ ≤ rounded a' d' := Nat.mul_le_mul_right _ hhigh
  · have hpos := Nat.two_pow_pos (scale a' d')
    rw [rounded, rounded, heq]
    refine Nat.mul_le_mul_right _ (roundQuotient_mono (Nat.mul_pos hd hpos) (Nat.mul_pos hd' hpos) ?_)
    rw [← Nat.mul_assoc, ← Nat.mul_assoc]
    exact Nat.mul_le_mul_right _ h

/-- Rounding goes up with the quotient. -/
theorem magnitude_le_of_ofUnits {negative negative' s s' : Bool} {a d m p a' d' m' p' : Nat} {hv : Valid m p}
    {hv' : Valid m' p'} (hround : ofUnits negative a d = .finite s m p hv)
    (hround' : ofUnits negative' a' d' = .finite s' m' p' hv') (hd : 0 < d) (hd' : 0 < d')
    (h : a * d' ≤ a' * d) : magnitude m p ≤ magnitude m' p' := by
  rw [magnitude_of_ofUnits hd hround, magnitude_of_ofUnits hd' hround']
  exact rounded_le hd hd' h

end Binary64

namespace Decimal

open Binary64

/-! ## Decimals -/

/-- The units of a decimal, and what they are to be divided by. -/
def numerator (x : Decimal) : Nat := x.digits * 10 ^ x.exponent.toNat * one

def denominator (x : Decimal) : Nat := 10 ^ (-x.exponent).toNat

theorem denominator_pos (x : Decimal) : 0 < x.denominator := Nat.pow_pos (by decide)

theorem toBinary64_eq (negative : Bool) (x : Decimal) :
    x.toBinary64 negative = ofUnits negative x.numerator x.denominator := by
  obtain ⟨digits, exponent⟩ := x
  simp only [toBinary64, numerator, denominator]
  split
  · have hnone : (-exponent).toNat = 0 := by omega
    rw [hnone, Nat.pow_zero, Nat.pow_eq]
  · have hnone : exponent.toNat = 0 := by omega
    rw [hnone, Nat.pow_zero, Nat.mul_one, Nat.pow_eq]

/-- Zeros behind the digits of a decimal make up for a smaller exponent. -/
theorem toBinary64_mul_pow (negative : Bool) (digits k : Nat) (exponent : Int) :
    toBinary64 negative ⟨digits * 10 ^ k, exponent⟩ = toBinary64 negative ⟨digits, exponent + k⟩ := by
  have hexponent : k + exponent.toNat + (-(exponent + k)).toNat = (exponent + k).toNat + (-exponent).toNat := by
    omega
  have hpow := congrArg (10 ^ ·) hexponent
  simp only [Nat.pow_add] at hpow
  rw [toBinary64_eq, toBinary64_eq]
  refine ofUnits_congr (denominator_pos _) (denominator_pos _) ?_ negative
  simp only [numerator, denominator]
  generalize one = unit
  calc digits * 10 ^ k * 10 ^ exponent.toNat * unit * 10 ^ (-(exponent + k)).toNat
      = digits * unit * (10 ^ k * 10 ^ exponent.toNat * 10 ^ (-(exponent + k)).toNat) := by ac_rfl
    _ = digits * unit * (10 ^ (exponent + k).toNat * 10 ^ (-exponent).toNat) := by rw [hpow]
    _ = digits * 10 ^ (exponent + k).toNat * unit * 10 ^ (-exponent).toNat := by ac_rfl

/-- Whether a decimal is at most another. -/
def Le (x y : Decimal) : Prop := x.numerator * y.denominator ≤ y.numerator * x.denominator

/-- A larger decimal is read as no smaller number. -/
theorem Le.magnitude_le {x y : Decimal} (h : x.Le y) {m p m' p' : Nat} {hv : Valid m p} {hv' : Valid m' p'}
    (hx : x.toBinary64 false = .finite false m p hv) (hy : y.toBinary64 false = .finite false m' p' hv') :
    magnitude m p ≤ magnitude m' p' := by
  rw [toBinary64_eq] at hx hy
  exact magnitude_le_of_ofUnits hx hy x.denominator_pos y.denominator_pos h

theorem toBinary64_zero {x : Decimal} (h : x.digits = 0) : x.toBinary64 false = .zero false := by
  have hnumerator : x.numerator = 0 := by rw [numerator, h, Nat.zero_mul, Nat.zero_mul]
  have hquotient : 0 * 1 = magnitude 0 0 * x.denominator := by rw [magnitude, Nat.zero_mul, Nat.zero_mul]
  rw [toBinary64_eq, hnumerator, ofUnits_congr x.denominator_pos Nat.one_pos hquotient, ofUnits_exact zero_valid]
  rfl

theorem toBinary64_neg (x : Decimal) : x.toBinary64 true = -x.toBinary64 false := by
  rw [toBinary64_eq, toBinary64_eq, ofUnits_neg]

/-- A decimal with as many digits behind its point as a power of two has. -/
theorem toBinary64_halves (negative : Bool) (n k : Nat) :
    toBinary64 negative ⟨n * Nat.pow 5 k, -(k : Int)⟩ = ofUnits negative (n * one) (2 ^ k) := by
  have hnumerator : numerator ⟨n * Nat.pow 5 k, -(k : Int)⟩ = n * one * 5 ^ k := by
    have hnone : (-(k : Int)).toNat = 0 := by omega
    rw [numerator, hnone, Nat.pow_zero, Nat.mul_one, Nat.pow_eq, Nat.mul_right_comm]
  have hdenominator : denominator ⟨n * Nat.pow 5 k, -(k : Int)⟩ = 2 ^ k * 5 ^ k := by
    rw [denominator, Int.neg_neg, Int.toNat_natCast, ← Nat.mul_pow]
  rw [toBinary64_eq, hnumerator, hdenominator, ofUnits_mul_right (Nat.pow_pos (by decide))]

theorem exists_one : ∃ k, one = Nat.pow 2 k ∧ k = 1074 := by
  delta one
  exact ⟨_, Eq.refl _, rfl⟩

/-- One is a power of two in units, and a number of units has as many digits behind its point. -/
theorem exists_places (units : Nat) :
    ∃ k : Nat, one = Nat.pow 2 k ∧ exact units = ⟨units * Nat.pow 5 k, -(k : Int)⟩ := by
  delta one exact
  exact ⟨_, Eq.refl _, Eq.refl _⟩

/-- All the digits of a number are enough for it. -/
theorem toBinary64_exact {m p : Nat} (h : Valid m p) :
    (exact (magnitude m p)).toBinary64 false = .finite false m p h := by
  obtain ⟨k, hone, hexact⟩ := exists_places (magnitude m p)
  rw [Nat.pow_eq] at hone
  have hscaled : ofUnits false (magnitude m p * one) (1 * one) = ofUnits false (magnitude m p) 1 :=
    ofUnits_mul_right (hone ▸ Nat.two_pow_pos k) false _ _
  rw [hexact, toBinary64_halves, ← hone, ← ofUnits_exact h, ← hscaled, Nat.one_mul]

/-- The shortest decimal of a number reads back as it. -/
theorem toBinary64_shortest {m p : Nat} (h : Valid m p) : (shortest m p).toBinary64 false = .finite false m p h := by
  rw [shortest]
  cases hfound : (List.range' 1 17).findSome? fun count =>
      (neighbours (magnitude m p) (magnitudeOrder (magnitude m p)) count).find? (readsAs m p) with
  | none => exact toBinary64_exact h
  | some x =>
    obtain ⟨count, -, hcount⟩ := List.exists_of_findSome?_eq_some hfound
    have hreads := List.find?_some hcount
    rw [readsAs, decide_eq_true_eq, make_of_valid false h] at hreads
    exact hreads

end Decimal

end SceneLang
