/-
Numbers, written and read back.

A number that is whole, or at least `10 ^ -4` in magnitude, is written as a numeral. Read as a text or
as a literal, the numeral is the number again; only the sign of a zero is lost. A number of smaller
magnitude is written with an exponent, which no numeral has: neither reading takes it.

* `Writing.IsNumeralOf`: the numerals that a number is nearest to.
* `Binary64.numberText_of_writtenOut`, `Binary64.numberText_of_not_writtenOut`: how a number is written.
* `Invocation.readsNumber_toText`: what becomes of a literal that is written out and read again.
-/
import SceneLang.Proofs.Layout
import SceneLang.Proofs.Numerals
import SceneLang.Proofs.Permissive

namespace SceneLang

open Text

/-! ## Numerals of a number -/

namespace Writing

/-- Whether a text is digits, maybe with a point and digits behind it, that a number is nearest to. -/
def IsNumeralOf (text : List Char) (x : Binary64) : Prop :=
  ∃ (first : { c : Char // Token.isDigit c = true }) (more : Digits) (fraction : Option Digits),
    text = Literal.numeral first.1 more.1 fraction ∧
      Literal.magnitude first.1 more.1 (Literal.fractionDigits fraction) = x

theorem isNumeralOf_digits {digits : List Char} (hd : ∀ c ∈ digits, Token.isDigit c = true)
    (hne : digits ≠ []) : IsNumeralOf digits (Decimal.toBinary64 false ⟨Numeral.ofDigits digits, 0⟩) := by
  obtain ⟨first, more, rfl⟩ := List.exists_cons_of_ne_nil hne
  obtain ⟨hfirst, hmore⟩ := List.forall_mem_cons.1 hd
  refine ⟨⟨first, hfirst⟩, ⟨more, hmore⟩, none, ?_, ?_⟩
  · simp [Literal.numeral, Lexeme.pointed]
  · simp [Literal.magnitude, Literal.fractionDigits]

theorem isNumeralOf_pointed {whole fraction : List Char} (hw : ∀ c ∈ whole, Token.isDigit c = true)
    (hne : whole ≠ []) (hf : ∀ c ∈ fraction, Token.isDigit c = true) :
    IsNumeralOf (whole ++ '.' :: fraction)
      (Decimal.toBinary64 false ⟨Numeral.ofDigits (whole ++ fraction), -fraction.length⟩) := by
  obtain ⟨first, more, rfl⟩ := List.exists_cons_of_ne_nil hne
  obtain ⟨hfirst, hmore⟩ := List.forall_mem_cons.1 hw
  exact ⟨⟨first, hfirst⟩, ⟨more, hmore⟩, some ⟨fraction, hf⟩, rfl, rfl⟩

/-- A text behind a minus, or without one. -/
def signed (negative : Bool) (text : List Char) : List Char := if negative then '-' :: text else text

/-- A number of the other sign, or the number. -/
def signedNumber (negative : Bool) (x : Binary64) : Binary64 := if negative then -x else x

theorem IsNumeralOf.splitSign {text : List Char} {x : Binary64} (h : IsNumeralOf text x) (negative : Bool)
    (behind : List Char) : Numeral.splitSign (signed negative (text ++ behind)) = (negative, text ++ behind) := by
  obtain ⟨first, more, fraction, rfl, -⟩ := h
  cases negative with
  | false => exact splitSign_of_isDigit first.2 _
  | true => rfl

/-- As a text, a numeral of a number is read as the number. -/
theorem IsNumeralOf.toNumber {text : List Char} {x : Binary64} (h : IsNumeralOf text x) (negative : Bool) :
    (Value.text (String.ofList (signed negative text))).toNumber = .ok (some (signedNumber negative x)) := by
  have hsplit := h.splitSign negative []
  rw [List.append_nil] at hsplit
  obtain ⟨first, more, fraction, rfl, rfl⟩ := h
  have hnumeral : Numeral.isNumeral (signed negative (Literal.numeral first.1 more.1 fraction)) = true := by
    rw [Numeral.isNumeral, hsplit]
    exact Numeral.isUnsigned_of_digits first.2 more.2 isDigit_of_mem_fraction
  have hwhole : ∀ c ∈ first.1 :: more.1, Token.isDigit c = true := List.forall_mem_cons.2 ⟨first.2, more.2⟩
  have hvalue : Numeral.value (signed negative (Literal.numeral first.1 more.1 fraction)) =
      signedNumber negative (Literal.magnitude first.1 more.1 (Literal.fractionDigits fraction)) := by
    have hdecimal := decimalOf_append hwhole fraction
    rw [List.cons_append, ← Literal.numeral] at hdecimal
    simp only [Numeral.value, hsplit, hdecimal]
    cases negative with
    | false => simp only [signedNumber, Literal.magnitude, List.cons_append, Bool.false_eq_true, if_false]
    | true =>
      simp only [signedNumber, Literal.magnitude, List.cons_append, if_true]
      exact Decimal.toBinary64_neg _
  rw [Value.toNumber, String.toList_ofList, if_pos hnumeral, hvalue]

/-- As a literal, too. -/
theorem IsNumeralOf.exists_literal {text : List Char} {x : Binary64} (h : IsNumeralOf text x) (negative : Bool) :
    ∃ minus first more fraction, (Literal.number minus first more fraction).spelling = signed negative text ∧
      (Literal.number minus first more fraction).value = .number (signedNumber negative x) := by
  obtain ⟨first, more, fraction, rfl, rfl⟩ := h
  cases negative with
  | false =>
    refine ⟨none, first, more, fraction, rfl, ?_⟩
    simp only [Literal.value, signedNumber, Bool.false_eq_true, if_false]
  | true =>
    refine ⟨some ⟨[], by simp⟩, first, more, fraction, rfl, ?_⟩
    simp only [Literal.value, signedNumber, if_true]

end Writing

/-! ## How numbers are written -/

namespace Binary64

open Writing Decimal

/-- Whether a number is whole, or at least `10 ^ -4` in magnitude. -/
def WrittenOut : Binary64 → Prop
  | .finite _ m p _ => magnitude m p % one = 0 ∨ one ≤ magnitude m p * 10000
  | _ => False

instance : (x : Binary64) → Decidable x.WrittenOut
  | .finite _ _ _ _ => inferInstanceAs (Decidable (_ ∨ _))
  | .infinite _ | .nan => isFalse id

theorem magnitude_eq_zero {m p : Nat} (h : magnitude m p = 0) : m = 0 := by
  have hpos : 0 < Nat.pow 2 p := Nat.two_pow_pos p
  rcases Nat.mul_eq_zero.1 h with hm | hp
  · exact hm
  · omega

/-- A whole number is written digit by digit, and zero without its sign. -/
theorem numberText_of_whole {s : Bool} {m p : Nat} (h : Valid m p) (hwhole : magnitude m p % one = 0) :
    ∃ negative text, Value.numberText (.finite s m p h) = String.ofList (signed negative text) ∧
      IsNumeralOf text (.finite false m p h) ∧ (negative = s ∨ m = 0) := by
  obtain ⟨k, hk⟩ : ∃ k, magnitude m p / one = k := ⟨_, rfl⟩
  have hunits : magnitude m p = k * one := by
    have hdiv := Nat.div_add_mod (magnitude m p) one
    rw [hk, hwhole, Nat.add_zero, Nat.mul_comm] at hdiv
    exact hdiv.symm
  have hdigits : IsNumeralOf (digitsOf k) (.finite false m p h) := by
    have hread : toBinary64 false ⟨k, 0⟩ = .finite false m p h := by
      have hnumerator : numerator ⟨k, 0⟩ = magnitude m p := by
        rw [numerator, hunits]
        exact congrArg (· * one) (Nat.mul_one k)
      have hdenominator : denominator ⟨k, 0⟩ = 1 := rfl
      rw [toBinary64_eq, hnumerator, hdenominator, ofUnits_exact h]
    have hnumeral := isNumeralOf_digits (Numeral.isDigit_of_mem_digitsOf (n := k)) Nat.toDigits_ne_nil
    rwa [Numeral.ofDigits_digitsOf, hread] at hnumeral
  have htext : ∀ n : Int, toInt? (.finite s m p h) = some n → n.natAbs = k →
      Value.numberText (.finite s m p h) = String.ofList (signed (decide (n < 0)) (digitsOf k)) := by
    intro n hn hk
    rw [Value.numberText, hn]
    simp only [integerText, hk, signed, decide_eq_true_eq]
  have hint : toInt? (.finite s m p h) = some (if s then -(k : Int) else k) := by
    rw [toInt?, if_pos hwhole, hk]
  cases s with
  | false => exact ⟨_, _, htext _ hint (by simp), hdigits, .inl (by simp)⟩
  | true =>
    refine ⟨_, _, htext _ hint (by simp), hdigits, ?_⟩
    by_cases hzero : k = 0
    · exact .inr (magnitude_eq_zero (by rw [hunits, hzero, Nat.zero_mul]))
    · refine .inl (decide_eq_true ?_)
      simp only [if_true]
      omega

/-- Any other number has its shortest digits. -/
theorem numberText_of_not_whole {s : Bool} {m p : Nat} (h : Valid m p) (hwhole : magnitude m p % one ≠ 0) :
    m ≠ 0 ∧ Value.numberText (.finite s m p h) =
      String.ofList (signed s (numberLayout.ofDecimal (shortest m p))) := by
  have hm : m ≠ 0 := by
    rintro rfl
    exact hwhole (by rw [magnitude, Nat.zero_mul, Nat.zero_mod])
  have hint : toInt? (.finite s m p h) = none := if_neg hwhole
  refine ⟨hm, ?_⟩
  rw [Value.numberText, hint]
  simp only [toText, if_neg hm, signed]

/-- With the point among them, if it is not too small. -/
theorem isNumeralOf_shortest {m p : Nat} (h : Valid m p) (hm : m ≠ 0) (hwhole : magnitude m p % one ≠ 0)
    (hlarge : one ≤ magnitude m p * 10000) :
    IsNumeralOf (numberLayout.ofDecimal (shortest m p)) (.finite false m p h) := by
  obtain ⟨hne, hd, hvalue⟩ := toBinary64_significant (digits_shortest h hm)
  obtain ⟨whole, fraction, htext, hw, hwhole', hfraction, hsame⟩ :=
    NumberLayout.exists_positional hd hne (shortest m p).point
  have hnumeral := isNumeralOf_pointed hwhole' hw hfraction
  rw [hsame, hvalue, toBinary64_shortest h] at hnumeral
  have hrange := And.intro ((lt_point_shortest_iff h hm).2 hlarge) (point_shortest_le h hm hwhole)
  rw [NumberLayout.ofDecimal_eq, if_pos hrange, htext]
  exact hnumeral

/-- Digits before an exponent: one, or one with a point and the others behind it. -/
theorem exists_scientific {digits : List Char} (hd : ∀ c ∈ digits, Token.isDigit c = true) (hne : digits ≠ [])
    (layout : NumberLayout) (point : Int) :
    ∃ numeral x c rest, layout.scientific digits point = numeral ++ 'e' :: c :: rest ∧
      IsNumeralOf numeral x ∧ (c = '-' ∨ c = '+') := by
  obtain ⟨c, rest, hexponent, hc⟩ :
      ∃ c rest, layout.exponent (point - 1) = c :: rest ∧ (c = '-' ∨ c = '+') := by
    refine ⟨_, _, rfl, ?_⟩
    split
    · exact .inl rfl
    · exact .inr rfl
  obtain ⟨first, more, rfl⟩ := List.exists_cons_of_ne_nil hne
  have hfirst : ∀ c ∈ [first], Token.isDigit c = true :=
    List.forall_mem_singleton.2 (hd first (List.mem_cons_self ..))
  cases more with
  | nil =>
    refine ⟨_, _, c, rest, ?_, isNumeralOf_digits hfirst (by simp), hc⟩
    simp [NumberLayout.scientific, hexponent]
  | cons second more =>
    have hmore : ∀ c ∈ second :: more, Token.isDigit c = true := fun c hm => hd c (List.mem_cons_of_mem _ hm)
    refine ⟨_, _, c, rest, ?_, isNumeralOf_pointed hfirst (by simp) hmore, hc⟩
    simp [NumberLayout.scientific, hexponent]

/-- A number that is written out is written as a numeral of it, with its sign unless it is zero. -/
theorem numberText_of_writtenOut {x : Binary64} (hx : x.WrittenOut) :
    ∃ negative text y, Value.numberText x = String.ofList (signed negative text) ∧ IsNumeralOf text y ∧
      (signedNumber negative y = x ∨ (signedNumber negative y).isZero = true ∧ x.isZero = true) := by
  obtain ⟨s, m, p, h⟩ | _ | _ := x
  · have hsigned : ∀ negative, signedNumber negative (.finite false m p h) = .finite negative m p h := by
      intro negative
      cases negative <;> rfl
    by_cases hwhole : magnitude m p % one = 0
    · obtain ⟨negative, text, htext, hnumeral, hsame⟩ := numberText_of_whole (s := s) h hwhole
      refine ⟨negative, text, _, htext, hnumeral, ?_⟩
      rw [hsigned]
      rcases hsame with rfl | rfl
      · exact .inl rfl
      · exact .inr ⟨rfl, rfl⟩
    · obtain ⟨hm, htext⟩ := numberText_of_not_whole (s := s) h hwhole
      exact ⟨s, _, _, htext, isNumeralOf_shortest h hm hwhole (hx.resolve_left hwhole), .inl (hsigned s)⟩
  · cases hx
  · cases hx

/-- Any other finite number is written with an exponent. -/
theorem numberText_of_not_writtenOut {x : Binary64} (hfinite : x.isFinite = true) (hx : ¬x.WrittenOut) :
    ∃ negative numeral y c rest,
      Value.numberText x = String.ofList (signed negative (numeral ++ 'e' :: c :: rest)) ∧
        IsNumeralOf numeral y ∧ (c = '-' ∨ c = '+') := by
  obtain ⟨s, m, p, h, rfl⟩ := isFinite_iff.1 hfinite
  obtain ⟨hwhole, hsmall⟩ := not_or.1 hx
  obtain ⟨hm, htext⟩ := numberText_of_not_whole (s := s) h hwhole
  obtain ⟨hne, hd, -⟩ := toBinary64_significant (digits_shortest h hm)
  have hpoint : ¬(-4 < (shortest m p).point ∧ (shortest m p).point ≤ 16) :=
    fun hrange => hsmall ((lt_point_shortest_iff h hm).1 hrange.1)
  obtain ⟨numeral, y, c, rest, hscientific, hnumeral, hc⟩ :=
    exists_scientific hd hne numberLayout (shortest m p).point
  refine ⟨s, numeral, y, c, rest, ?_, hnumeral, hc⟩
  rw [htext, NumberLayout.ofDecimal_eq, if_neg hpoint, hscientific]

end Binary64

/-! ## Reading back -/

open Grammar in
/-- A value takes the same tokens however it is read. -/
theorem Grammar.IsValue.rest_unique {lenient : Bool} {tokens rest rest' : List Token} {v v' : Value}
    (h : IsValue lenient tokens v rest) (h' : IsValue lenient tokens v' rest') : rest = rest' := by
  cases h <;> cases h' <;> simp_all [IsStray]

open Grammar in
/-- Where neither a comma nor a parenthesis stands behind the value of an argument, there is no
invocation. -/
theorem Grammar.not_isInvocation {lenient : Bool} {first opening name separator after : Token}
    {value more : List Token} {v : Value} (hname : name.kind = .identifier)
    (hv : IsValue lenient (value ++ after :: more) v (after :: more)) (hcomma : after.kind ≠ .comma)
    (hclosing : after.kind ≠ .closeParen) (n : String) (entries : List (String × Value)) :
    ¬IsInvocation lenient (first :: opening :: name :: separator :: (value ++ after :: more)) n entries := by
  intro h
  cases h with
  | intro _ _ hlist hk _ _ =>
    cases hlist with
    | none =>
      rw [hname] at hk
      cases hk
    | some hargs =>
      cases hargs with
      | last harg =>
        cases harg with
        | intro _ _ hvalue =>
          cases hvalue.rest_unique hv
          exact hclosing hk
      | more harg hk' _ =>
        cases harg with
        | intro _ _ hvalue =>
          cases hvalue.rest_unique hv
          exact hcomma hk'

namespace Writing

/-- The gap without blanks. -/
def noGap : Gap := ⟨[], by simp⟩

/-- A blank. -/
def blank : Gap := ⟨[' '], List.forall_mem_singleton.2 (by decide)⟩

/-- A command and a parameter of one letter. -/
def commandF : Name := ⟨'f', [], by decide, by simp, by decide⟩

def parameterV : Name := ⟨'v', [], by decide, by simp, by decide⟩

/-- The command with a literal as its only argument. -/
def single (literal : Literal) : Writing where
  before := noGap
  name := commandF
  behindName := noGap
  behindOpening := noGap
  arguments := [⟨noGap, parameterV, noGap, false, blank, literal, noGap⟩]
  distinct := by simp
  behindClosing := noGap
  semicolon := none

theorem toList_opening : "f(v: ".toList = ['f', '(', 'v', ':', ' '] := by decide

theorem spelling_single (literal : Literal) :
    (single literal).spelling = "f(v: ".toList ++ (literal.spelling ++ ")".toList) := by
  simp [single, spelling, Argument.spelling, ending, commandF, parameterV, Name.spelling, noGap, blank, join,
    Argument.separator, toList_opening]

/-- The tokens up to an exponent behind a number that is the value of an argument. -/
theorem scans_exponent (lenient : Bool) (minus : Option Gap) (first : { c : Char // Token.isDigit c = true })
    (more : Digits) (fraction : Option Digits) {c : Char} (hc : c = '-' ∨ c = '+') (rest : List Char) :
    Scans (commandF.spelling ++ '(' :: (parameterV.spelling ++ ':' :: (blank.1 ++
        ((Literal.number minus first more fraction).spelling ++ ['e'])))) (c :: rest) fun t =>
      ∃ command opening name separator value after,
        t = command :: opening :: name :: separator :: (value ++ [after]) ∧
        name.kind = .identifier ∧ after.kind = .identifier ∧ ∀ behind,
          Grammar.IsValue lenient (value ++ behind) (Literal.number minus first more fraction).value behind := by
  have hends : ∀ d ∈ (c :: rest).head?, Token.continuesWord d = false := by
    intro d hd
    cases hd
    rcases hc with rfl | rfl <;> decide
  have hword : Scans ['e'] (c :: rest) fun t => ∃ after : Token, t = [after] ∧ after.kind = .identifier :=
    .spelled (Lexeme.spells_word (by decide) (by simp) hends) fun position => ⟨_, rfl, rfl⟩
  have hstop : EndsNumber fraction (['e'] ++ c :: rest) := by
    intro d hd
    cases hd
    exact ⟨by decide, fun _ => by decide⟩
  have hnumber := scans_number lenient minus first more fraction hstop
  have hvalue := hnumber.append (R := fun t => ∃ value after, t = value ++ [after] ∧ after.kind = .identifier ∧
      ∀ behind, Grammar.IsValue lenient (value ++ behind) (Literal.number minus first more fraction).value behind)
    hword fun value t hv ⟨after, ht, hk⟩ => ⟨value, after, by rw [ht], hk, hv⟩
  have hseparator := scans_sign (c := ':') rfl (by decide) (.gap blank hvalue)
  have hparameter := scans_name (b := ':' :: _) parameterV (.sign rfl) hseparator
    (P := Headed .identifier (Headed .colon _)) fun _ t ht => ⟨_, t, rfl, rfl, ht⟩
  have hopening := scans_sign (c := '(') rfl (by decide) hparameter
  refine scans_name commandF (.sign rfl) hopening ?_
  rintro position _ ⟨opening, _, rfl, -, name, _, rfl, hname, separator, _, rfl, -, value, after, rfl, hafter, hv⟩
  exact ⟨_, opening, name, separator, value, after, rfl, hname, hafter, hv⟩

end Writing

namespace Invocation

open Writing Binary64

/-- Whether a text, as the value of a parameter, is read as a number. -/
def ReadsNumber (lenient : Bool) (text : String) (x : Binary64) : Prop :=
  ∃ parameters : Parameters, parameters.entries = [("v", .number x)] ∧
    parse lenient ("f(v: " ++ text ++ ")") = ⟨"f(v: " ++ text ++ ")", .ok ⟨"f", parameters⟩⟩

theorem readsNumber_literal (lenient : Bool) {minus : Option Gap} {first : { c : Char // Token.isDigit c = true }}
    {more : Digits} {fraction : Option Digits} {x : Binary64}
    (hx : (Literal.number minus first more fraction).value = .number x) :
    ReadsNumber lenient (String.ofList (Literal.number minus first more fraction).spelling) x := by
  obtain ⟨tokens, ht, hinvocation⟩ := tokenize_spelling lenient (single (.number minus first more fraction))
  have hentries : (single (.number minus first more fraction)).entries = [("v", .number x)] := by
    rw [← hx]
    rfl
  rw [spelling_single] at ht
  have htext : Token.tokenize ("f(v: " ++
      String.ofList (Literal.number minus first more fraction).spelling ++ ")").toList = .ok tokens := by
    rw [← ht]
    simp
  obtain ⟨⟨name, parameters⟩, hp, rfl, he⟩ := parse_of_isInvocation htext hinvocation
  exact ⟨parameters, he.trans hentries, hp⟩

/-- A number with an exponent behind it is no value. -/
theorem isValid_of_exponent (lenient : Bool) {numeral : List Char} {x : Binary64} (h : IsNumeralOf numeral x)
    (negative : Bool) {c : Char} (hc : c = '-' ∨ c = '+') (rest : List Char) :
    (parse lenient ("f(v: " ++ String.ofList (signed negative (numeral ++ 'e' :: c :: rest)) ++ ")")).isValid =
      false := by
  obtain ⟨minus, first, more, fraction, hspelling, -⟩ := h.exists_literal negative
  rw [Bool.eq_false_iff]
  intro hvalid
  obtain ⟨call, hcall⟩ := exists_call_of_isValid hvalid
  obtain ⟨tokens, ht, hinvocation⟩ := isInvocation_of_reading hcall
  obtain ⟨_, ⟨command, opening, name, separator, value, after, rfl, hname, hafter, hv⟩, hscan⟩ :=
    scans_exponent lenient minus first more fraction hc (rest ++ [')']) 0
  have htext : ("f(v: " ++ String.ofList (signed negative (numeral ++ 'e' :: c :: rest)) ++ ")").toList =
      commandF.spelling ++ '(' :: (parameterV.spelling ++ ':' :: (blank.1 ++
        ((Literal.number minus first more fraction).spelling ++ ['e']))) ++ c :: (rest ++ [')']) := by
    have hsigned : signed negative (numeral ++ 'e' :: c :: rest) = signed negative numeral ++ 'e' :: c :: rest := by
      cases negative <;> rfl
    simp [hspelling, hsigned, commandF, parameterV, Name.spelling, blank, toList_opening]
  rw [Token.tokenize, htext, hscan] at ht
  cases hbehind : Token.scan (0 + _) (c :: (rest ++ [')'])) with
  | error e =>
    rw [hbehind] at ht
    cases ht
  | ok more' =>
    rw [hbehind] at ht
    cases ht
    simp only [List.cons_append, List.append_assoc, List.nil_append] at hinvocation
    exact Grammar.not_isInvocation hname (hv _) (by simp [hafter]) (by simp [hafter]) _ _ hinvocation

/-- As a text, it is no number. -/
theorem toNumber_of_exponent {numeral : List Char} {x : Binary64} (h : IsNumeralOf numeral x) (negative : Bool)
    (c : Char) (rest : List Char) :
    (Value.text (String.ofList (signed negative (numeral ++ 'e' :: c :: rest)))).toNumber = .ok none := by
  have hnumeral : Numeral.isNumeral (signed negative (numeral ++ 'e' :: c :: rest)) ≠ true := by
    intro hnumeral
    rw [Numeral.isNumeral, h.splitSign] at hnumeral
    have he : isDecimalDigit 'e' = true ∨ 'e' = '.' := Numeral.mem_of_isUnsigned hnumeral 'e' (by simp)
    revert he
    decide
  rw [Value.toNumber, String.toList_ofList, if_neg hnumeral]

/-- **Numbers read back.** A number that is read from a literal and is finite is written as a text. If
it is whole or at least `10 ^ -4` in magnitude, the text is read as a number again, and as a literal
too, in either mode: the same number, but for the sign of a zero. If not, the text has an exponent,
and neither is read. -/
theorem readsNumber_toText (lenient : Bool) (minus : Option Gap) (first : { c : Char // Token.isDigit c = true })
    (more : Digits) (fraction : Option Digits) :
    let literal := Literal.number minus first more fraction
    ∃ x, literal.value = .number x ∧ ReadsNumber lenient (String.ofList literal.spelling) x ∧
      (x.isFinite = true → ∃ t, (Value.number x).toText = .ok (.text t) ∧
        (x.WrittenOut → ∃ y, (y = x ∨ y.isZero = true ∧ x.isZero = true) ∧
          (Value.text t).toNumber = .ok (some y) ∧ ReadsNumber lenient t y) ∧
        (¬x.WrittenOut → (Value.text t).toNumber = .ok none ∧
          (parse lenient ("f(v: " ++ t ++ ")")).isValid = false)) := by
  intro literal
  obtain ⟨x, hx⟩ : ∃ x, literal.value = .number x := by
    cases minus <;> exact ⟨_, rfl⟩
  refine ⟨x, hx, readsNumber_literal lenient hx, fun hfinite => ⟨_, rfl, fun hw => ?_, fun hw => ?_⟩⟩
  · obtain ⟨negative, text, y, htext, hnumeral, hsame⟩ := numberText_of_writtenOut hw
    obtain ⟨minus', first', more', fraction', hspelling, hvalue⟩ := hnumeral.exists_literal negative
    refine ⟨signedNumber negative y, hsame, ?_, ?_⟩
    · rw [htext, hnumeral.toNumber]
    · rw [htext, ← hspelling]
      exact readsNumber_literal lenient hvalue
  · obtain ⟨negative, numeral, y, c, rest, htext, hnumeral, hc⟩ := numberText_of_not_writtenOut hfinite hw
    rw [htext]
    exact ⟨toNumber_of_exponent hnumeral negative c rest, isValid_of_exponent lenient hnumeral negative hc rest⟩

/-- A negative tenth is read, written out and read back. -/
theorem readsNumber_toText_tenth :
    ∃ x t y, ReadsNumber true "-0.1" x ∧ x.WrittenOut ∧ (Value.number x).toText = .ok (.text t) ∧
      (Value.text t).toNumber = .ok (some y) ∧ ReadsNumber true t y := by
  obtain ⟨x, hx, hread, hback⟩ :=
    readsNumber_toText true (some noGap) ⟨'0', by decide⟩ ⟨[], by simp⟩ (some ⟨['1'], List.forall_mem_singleton.2 (by decide)⟩)
  have hvalue : x = -Literal.magnitude '0' [] ['1'] := (Value.number.inj hx).symm
  have hfinite : x.isFinite = true := by
    rw [hvalue]
    decide +kernel
  have hw : x.WrittenOut := by
    rw [hvalue]
    decide +kernel
  obtain ⟨t, ht, hout, -⟩ := hback hfinite
  obtain ⟨y, -, hy, hagain⟩ := hout hw
  exact ⟨x, t, y, hread, hw, ht, hy, hagain⟩

/-- A hundred-thousandth is read and written, but what is written is read as no number. -/
theorem not_readsNumber_toText :
    ¬∀ (lenient : Bool) (minus : Option Gap) (first : { c : Char // Token.isDigit c = true }) (more : Digits)
        (fraction : Option Digits) (x : Binary64),
        (Literal.number minus first more fraction).value = .number x → x.isFinite = true →
        ∃ t y, (Value.number x).toText = .ok (.text t) ∧ (Value.text t).toNumber = .ok (some y) ∧
          (y = x ∨ y.isZero = true ∧ x.isZero = true) ∧ ReadsNumber lenient t y := by
  intro h
  obtain ⟨t, y, ht, hy, -⟩ := h true none ⟨'0', by decide⟩ ⟨[], by simp⟩
    (some ⟨['0', '0', '0', '0', '1'], List.all_eq_true.1 (by decide)⟩)
    (Literal.magnitude '0' [] ['0', '0', '0', '0', '1']) rfl (by decide +kernel)
  have hshown : Value.numberText (Literal.magnitude '0' [] ['0', '0', '0', '0', '1']) = "1e-05" := by decide +kernel
  have hnumeral : Numeral.isNumeral "1e-05".toList = false := by decide +kernel
  rw [Value.toText, hshown] at ht
  cases ht
  rw [Value.toNumber, hnumeral] at hy
  cases hy

end Invocation

end SceneLang
