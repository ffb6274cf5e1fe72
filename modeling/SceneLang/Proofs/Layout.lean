/-
Numbers in text, digit by digit.

The digits of a whole number say that number again; zeros behind the digits of a decimal, and the
point among them, change how the decimal is written and not what it says. So a decimal that is
written out by position says the same number as the decimal. Where the first digit has to stand for
that is settled by rounding: a decimal on one side of `10 ^ -4` or of `10 ^ 16` does not read back as a
number on the other.

* `Numeral.ofDigits_digitsOf`: the digits of a whole number.
* `NumberLayout.exists_positional`: a decimal written out by position.
* `Decimal.point_shortest_le`, `Decimal.lt_point_shortest_iff`: where the shortest decimal of a number
  begins.
-/
import SceneLang.Number.Layout
import SceneLang.Number.Numeral
import SceneLang.Proofs.Rounding
import SceneLang.Proofs.Writing

namespace SceneLang

open Text

/-! ## Digits -/

namespace Numeral

theorem foldl_digits (digits : List Char) (n : Nat) :
    digits.foldl (fun n c => 10 * n + (digitValue? c).getD 0) n = n * 10 ^ digits.length + ofDigits digits := by
  induction digits generalizing n with
  | nil => simp [ofDigits]
  | cons c digits ih =>
    rw [ofDigits, List.foldl_cons, List.foldl_cons, ih, ih (10 * 0 + _), List.length_cons, Nat.pow_succ]
    grind

theorem ofDigits_append (digits more : List Char) :
    ofDigits (digits ++ more) = ofDigits digits * 10 ^ more.length + ofDigits more := by
  rw [ofDigits, List.foldl_append, foldl_digits, ← ofDigits]

theorem ofDigits_zeros (count : Nat) : ofDigits (List.replicate count '0') = 0 := by
  induction count with
  | zero => rfl
  | succ count ih =>
    have hzero : ofDigits ['0'] = 0 := by decide
    rw [List.replicate_succ', ofDigits_append, ih, hzero]
    simp

theorem digitValue?_digitChar {d : Nat} (h : d < 10) : digitValue? (Nat.digitChar d) = some d := by
  have hall : ∀ d : Fin 10, digitValue? (Nat.digitChar d) = some d.1 := by decide
  exact hall ⟨d, h⟩

/-- The digits of a whole number say it. -/
theorem ofDigits_digitsOf (n : Nat) : ofDigits (Decimal.digitsOf n) = n := by
  induction n using Nat.strongRecOn with
  | ind n ih =>
    have hdigit : ∀ d < 10, ofDigits [Nat.digitChar d] = d := by
      intro d hd
      simp [ofDigits, digitValue?_digitChar hd]
    rw [Decimal.digitsOf, Nat.toDigits_eq_if (by decide)]
    split
    · next h => exact hdigit n h
    · next h =>
      have hrest := ih (n / 10) (by omega)
      rw [Decimal.digitsOf] at hrest
      rw [ofDigits_append, hrest, hdigit _ (Nat.mod_lt _ (by decide)), List.length_singleton]
      omega

theorem isDigit_of_mem_digitsOf {n : Nat} : ∀ c ∈ Decimal.digitsOf n, Token.isDigit c = true :=
  fun _ hc => Nat.isDigit_of_mem_toDigits (by decide) (by decide) hc

theorem isDigit_of_mem_zeros {count : Nat} : ∀ c ∈ List.replicate count '0', Token.isDigit c = true := by
  intro c hc
  rw [List.eq_of_mem_replicate hc]
  decide

/-- Digits are those without the zeros behind them, and the zeros. -/
theorem exists_zeros (digits : List Char) :
    ∃ count, digits = (digits.reverse.dropWhile (· = '0')).reverse ++ List.replicate count '0' := by
  have hzeros : ∀ c ∈ digits.reverse.takeWhile (· = '0'), c = '0' := by
    intro c hc
    simpa using List.all_eq_true.1 List.all_takeWhile c hc
  refine ⟨(digits.reverse.takeWhile (· = '0')).length, ?_⟩
  rw [← List.reverse_replicate, ← List.eq_replicate_of_mem hzeros, ← List.reverse_append,
    List.takeWhile_append_dropWhile, List.reverse_reverse]

end Numeral

/-! ## Decimals written out by position -/

namespace NumberLayout

open Numeral Decimal

/-- A decimal that is written out by position is digits, a point and digits, and they say the same. -/
theorem exists_positional {digits : List Char} (hd : ∀ c ∈ digits, Token.isDigit c = true) (hne : digits ≠ [])
    (point : Int) :
    ∃ whole fraction, positional digits point = whole ++ '.' :: fraction ∧ whole ≠ [] ∧
      (∀ c ∈ whole, Token.isDigit c = true) ∧ (∀ c ∈ fraction, Token.isDigit c = true) ∧
      ∀ negative, toBinary64 negative ⟨ofDigits (whole ++ fraction), -fraction.length⟩ =
        toBinary64 negative ⟨ofDigits digits, point - digits.length⟩ := by
  rw [positional]
  split
  · next hpoint =>
    -- zeros in front of the digits
    refine ⟨['0'], List.replicate (-point).toNat '0' ++ digits, rfl, by simp, ?_, ?_, fun negative => ?_⟩
    · exact List.forall_mem_singleton.2 (by decide)
    · exact List.forall_mem_append.2 ⟨isDigit_of_mem_zeros, hd⟩
    · have hsame : ofDigits (['0'] ++ (List.replicate (-point).toNat '0' ++ digits)) = ofDigits digits := by
        have hzero : ofDigits ['0'] = 0 := by decide
        rw [ofDigits_append, ofDigits_append, ofDigits_zeros, hzero]
        simp
      have hexponent : -((List.replicate (-point).toNat '0' ++ digits).length : Int) = point - digits.length := by
        rw [List.length_append, List.length_replicate]
        omega
      rw [hsame, hexponent]
  · next hpoint =>
    dsimp only
    split
    · next hlong =>
      -- zeros between the digits and the point, and one behind it
      refine ⟨digits ++ List.replicate (point.toNat - digits.length) '0', ['0'], by simp, by simp [hne], ?_,
        ?_, fun negative => ?_⟩
      · exact List.forall_mem_append.2 ⟨hd, isDigit_of_mem_zeros⟩
      · exact List.forall_mem_singleton.2 (by decide)
      · have hsame : ofDigits (digits ++ List.replicate (point.toNat - digits.length) '0' ++ ['0']) =
            ofDigits digits * 10 ^ (point.toNat - digits.length + 1) := by
          rw [List.append_assoc, ← List.replicate_succ', ofDigits_append, ofDigits_zeros, List.length_replicate,
            Nat.add_zero]
        have hexponent : -(['0'].length : Int) + (point.toNat - digits.length + 1 : Nat) = point - digits.length := by
          rw [List.length_singleton]
          omega
        rw [hsame, toBinary64_mul_pow, hexponent]
    · next hshort =>
      -- the point among the digits
      refine ⟨digits.take point.toNat, digits.drop point.toNat, rfl, ?_, ?_, ?_, fun negative => ?_⟩
      · simp [hne]
        omega
      · exact fun c hc => hd c (List.mem_of_mem_take hc)
      · exact fun c hc => hd c (List.mem_of_mem_drop hc)
      · have hexponent : -((digits.drop point.toNat).length : Int) = point - digits.length := by
          rw [List.length_drop]
          omega
        rw [List.take_append_drop, hexponent]

end NumberLayout

/-! ## Where the first digit stands -/

namespace Decimal

open Binary64 Numeral

/-- The place of the point among the digits of a decimal, counted from the first of them. -/
def point (x : Decimal) : Int := (digitsOf x.digits).length + x.exponent

/-- The digits of a decimal without the zeros behind them. -/
def significant (x : Decimal) : List Char := ((digitsOf x.digits).reverse.dropWhile (· = '0')).reverse

/-- The digits of a decimal without the zeros behind them, at the place of its point, say the decimal. -/
theorem toBinary64_significant {x : Decimal} (hx : x.digits ≠ 0) :
    x.significant ≠ [] ∧ (∀ c ∈ x.significant, Token.isDigit c = true) ∧
      ∀ negative, toBinary64 negative ⟨ofDigits x.significant, x.point - x.significant.length⟩ =
        x.toBinary64 negative := by
  obtain ⟨count, hcount⟩ := exists_zeros (digitsOf x.digits)
  rw [← significant] at hcount
  have hvalue : x.digits = ofDigits x.significant * 10 ^ count := by
    rw [← ofDigits_digitsOf x.digits, hcount, ofDigits_append, ofDigits_zeros, List.length_replicate, Nat.add_zero]
  have hlength : (digitsOf x.digits).length = x.significant.length + count := by
    rw [hcount, List.length_append, List.length_replicate]
  refine ⟨fun hnil => ?_, fun c hc => ?_, fun negative => ?_⟩
  · rw [hnil] at hvalue
    exact hx (by rw [hvalue]; exact Nat.zero_mul _)
  · refine isDigit_of_mem_digitsOf (n := x.digits) c ?_
    rw [hcount]
    exact List.mem_append_left _ hc
  · have hexponent : x.point - x.significant.length = x.exponent + count := by
      rw [point]
      omega
    rw [hexponent, ← toBinary64_mul_pow, ← hvalue]

theorem lt_pow_length (n : Nat) : n < 10 ^ (digitsOf n).length :=
  (Nat.length_toDigits_le_iff (by decide) Nat.length_toDigits_pos).1 (Nat.le_refl _)

theorem pow_length_le {n : Nat} (hn : n ≠ 0) : 10 ^ ((digitsOf n).length - 1) ≤ n := by
  by_cases hone : (digitsOf n).length - 1 = 0
  · rw [hone]
    exact Nat.one_le_iff_ne_zero.2 hn
  · have hlength : (digitsOf n).length ≤ (digitsOf n).length - 1 ↔ n < 10 ^ ((digitsOf n).length - 1) :=
      Nat.length_toDigits_le_iff (by decide) (Nat.pos_of_ne_zero hone)
    omega

/-- A decimal is at least the power of ten that its first digit stands for. -/
theorem le_of_lt_point {x : Decimal} (hx : x.digits ≠ 0) {e : Int} (h : e < x.point) : Le ⟨1, e⟩ x := by
  rw [point] at h
  have hexponent : e.toNat + (-x.exponent).toNat ≤
      (digitsOf x.digits).length - 1 + x.exponent.toNat + (-e).toNat := by omega
  have hpow := Nat.pow_le_pow_right (n := 10) (by decide) hexponent
  have hdigits := pow_length_le hx
  simp only [Nat.pow_add] at hpow
  simp only [Le, numerator, denominator, Nat.one_mul]
  generalize one = unit
  calc 10 ^ e.toNat * unit * 10 ^ (-x.exponent).toNat
      = 10 ^ e.toNat * 10 ^ (-x.exponent).toNat * unit := Nat.mul_right_comm _ _ _
    _ ≤ 10 ^ ((digitsOf x.digits).length - 1) * 10 ^ x.exponent.toNat * 10 ^ (-e).toNat * unit :=
        Nat.mul_le_mul_right _ hpow
    _ ≤ x.digits * 10 ^ x.exponent.toNat * 10 ^ (-e).toNat * unit :=
        Nat.mul_le_mul_right _ (Nat.mul_le_mul_right _ (Nat.mul_le_mul_right _ hdigits))
    _ = x.digits * 10 ^ x.exponent.toNat * unit * 10 ^ (-e).toNat := Nat.mul_right_comm _ _ _

/-- And at most the next power of ten. -/
theorem le_of_point_le {x : Decimal} {e : Int} (h : x.point ≤ e) : x.Le ⟨1, e⟩ := by
  rw [point] at h
  have hexponent : (digitsOf x.digits).length + x.exponent.toNat + (-e).toNat ≤
      e.toNat + (-x.exponent).toNat := by omega
  have hpow := Nat.pow_le_pow_right (n := 10) (by decide) hexponent
  have hdigits := Nat.le_of_lt (lt_pow_length x.digits)
  simp only [Nat.pow_add] at hpow
  simp only [Le, numerator, denominator, Nat.one_mul]
  generalize one = unit
  calc x.digits * 10 ^ x.exponent.toNat * unit * 10 ^ (-e).toNat
      = x.digits * 10 ^ x.exponent.toNat * 10 ^ (-e).toNat * unit := Nat.mul_right_comm _ _ _
    _ ≤ 10 ^ (digitsOf x.digits).length * 10 ^ x.exponent.toNat * 10 ^ (-e).toNat * unit :=
        Nat.mul_le_mul_right _ (Nat.mul_le_mul_right _ (Nat.mul_le_mul_right _ hdigits))
    _ ≤ 10 ^ e.toNat * 10 ^ (-x.exponent).toNat * unit := Nat.mul_le_mul_right _ hpow
    _ = 10 ^ e.toNat * unit * 10 ^ (-x.exponent).toNat := Nat.mul_right_comm _ _ _

/-! ### The two ends -/

/-- The number nearest `10 ^ -4`, and its shortest decimal. -/
theorem least_positional :
    ∃ h : Valid 7378697629483821 1008, toBinary64 false ⟨1, -4⟩ = .finite false 7378697629483821 1008 h ∧
      shortest 7378697629483821 1008 = ⟨1, -4⟩ ∧ one ≤ magnitude 7378697629483821 1008 * 10000 := by
  refine ⟨by decide +kernel, ?_, ?_, ?_⟩ <;> decide +kernel

theorem most_positional :
    ∃ h : Valid 5000000000000000 1075, toBinary64 false ⟨1, 16⟩ = .finite false 5000000000000000 1075 h := by
  refine ⟨by decide +kernel, ?_⟩
  decide +kernel

/-- A number that is at least another with all its significant bits has no smaller exponent. -/
theorem exponent_le_of_magnitude_le {m p m' p' : Nat} (h : Valid m p) (hfull : 2 ^ 52 ≤ m')
    (hle : magnitude m' p' ≤ magnitude m p) : p' ≤ p := by
  have hlt : m < 2 ^ 53 := h.1
  have hunits : 2 ^ (52 + p') < 2 ^ (53 + p) := by
    calc 2 ^ (52 + p') = 2 ^ 52 * 2 ^ p' := Nat.pow_add ..
      _ ≤ magnitude m' p' := Nat.mul_le_mul_right _ hfull
      _ ≤ magnitude m p := hle
      _ < 2 ^ 53 * 2 ^ p := Nat.mul_lt_mul_of_pos_right hlt (Nat.two_pow_pos p)
      _ = 2 ^ (53 + p) := (Nat.pow_add ..).symm
  have hexponent := (Nat.pow_lt_pow_iff_right (by decide)).1 hunits
  omega

theorem digits_shortest {m p : Nat} (h : Valid m p) (hm : m ≠ 0) : (shortest m p).digits ≠ 0 := by
  intro hzero
  have hreads := toBinary64_shortest h
  rw [toBinary64_zero hzero] at hreads
  cases hreads
  exact hm rfl

/-- A number that is not whole is below `10 ^ 16`, and so is its shortest decimal. -/
theorem point_shortest_le {m p : Nat} (h : Valid m p) (hm : m ≠ 0) (hwhole : magnitude m p % one ≠ 0) :
    (shortest m p).point ≤ 16 := by
  obtain ⟨hmost, hreads⟩ := most_positional
  refine Int.not_lt.1 fun hlarge => hwhole ?_
  have hle := (le_of_lt_point (digits_shortest h hm) hlarge).magnitude_le hreads (toBinary64_shortest h)
  have hp := exponent_le_of_magnitude_le h (by decide) hle
  obtain ⟨k, hone, hk⟩ := exists_one
  have hdvd : Nat.pow 2 k ∣ Nat.pow 2 p := Nat.pow_dvd_pow 2 (by omega)
  rw [hone]
  exact Nat.mod_eq_zero_of_dvd (Nat.dvd_mul_left_of_dvd hdvd m)

/-- The shortest decimal of a number begins at `10 ^ -4` or before exactly if the number does. -/
theorem lt_point_shortest_iff {m p : Nat} (h : Valid m p) (hm : m ≠ 0) :
    -4 < (shortest m p).point ↔ one ≤ magnitude m p * 10000 := by
  obtain ⟨hleast, hreads, hshortest, hunits⟩ := least_positional
  have hback := toBinary64_shortest h
  constructor
  · intro hpoint
    have hle := (le_of_lt_point (digits_shortest h hm) hpoint).magnitude_le hreads hback
    exact Nat.le_trans hunits (Nat.mul_le_mul_right _ hle)
  · intro hlarge
    refine Int.not_le.1 fun hpoint => ?_
    -- the number is then the one nearest `10 ^ -4`, which is written as `10 ^ -4`
    have hupper := (le_of_point_le hpoint).magnitude_le hback hreads
    have hlower : magnitude 7378697629483821 1008 ≤ magnitude m p := by
      rw [toBinary64_eq] at hreads
      refine magnitude_le_of_ofUnits hreads (ofUnits_exact h false) (denominator_pos _) Nat.one_pos ?_
      simpa [numerator, denominator] using hlarge
    obtain ⟨rfl, rfl⟩ := magnitude_inj h hleast (Nat.le_antisymm hupper hlower)
    rw [hshortest] at hpoint
    revert hpoint
    decide

end Decimal

namespace NumberLayout

open Decimal

/-- A decimal is written out by position if its first digit stands where it can be. -/
theorem ofDecimal_eq (x : Decimal) :
    numberLayout.ofDecimal x =
      if -4 < x.point ∧ x.point ≤ 16 then positional x.significant x.point
      else numberLayout.scientific x.significant x.point := by
  have hrange : (-4 ≤ x.point - 1 && x.point - 1 ≤ 15) = true ↔ -4 < x.point ∧ x.point ≤ 16 := by
    simp only [Bool.and_eq_true, decide_eq_true_eq]
    omega
  rw [← ite_cond_congr (propext hrange)]
  rfl

end NumberLayout

end SceneLang
