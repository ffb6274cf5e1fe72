/-
Numerals and number tokens.

Two readers take numbers from a text. One looks at a text value as a whole and takes the digits of
every script, a sign, and a point without digits before it. The other scans a command text: it takes
the ten digits of ASCII, has the first of them before the point, and stops at a second point.
`Numeral.Writes` is the grammar of the first, each numeral with the decimal that it writes. The second
reads as one token those numerals in ASCII that begin with a digit, and as the same number.

* `unsigned_iff`, `writes_iff`: the grammar against the test.
* `toNumber_eq_some_iff`: the texts that are numbers, and which.
* `isNumberToken_iff`: the texts that are one number token.
* `readers_agree`: what the two make of one text.
-/
import SceneLang.Proofs.Numerals

namespace SceneLang

open Text

namespace Numeral

/-! ## The grammar of numerals -/

/-- The numerals without a sign, each with the decimal it writes: digits, digits with a point and
any digits behind it, and a point with digits behind it. -/
inductive Unsigned : List Char → Decimal → Prop
  | whole {digits} : digits ≠ [] → (∀ d ∈ digits, isDecimalDigit d = true) → Unsigned digits ⟨ofDigits digits, 0⟩
  | pointed {whole fraction} : whole ≠ [] → (∀ d ∈ whole, isDecimalDigit d = true) →
      (∀ d ∈ fraction, isDecimalDigit d = true) →
      Unsigned (whole ++ '.' :: fraction) ⟨ofDigits (whole ++ fraction), -fraction.length⟩
  | fraction {fraction} : fraction ≠ [] → (∀ d ∈ fraction, isDecimalDigit d = true) →
      Unsigned ('.' :: fraction) ⟨ofDigits fraction, -fraction.length⟩

/-- The numerals, each with whether it is negative and the decimal it writes. -/
inductive Writes : List Char → Bool → Decimal → Prop
  | bare {body d} : Unsigned body d → Writes body false d
  | plus {body d} : Unsigned body d → Writes ('+' :: body) false d
  | minus {body d} : Unsigned body d → Writes ('-' :: body) true d

variable {body text : List Char} {d : Decimal} {negative : Bool}

theorem unsigned_iff : Unsigned body d ↔ isUnsigned body = true ∧ d = decimalOf body := by
  constructor
  · intro h
    cases h with
    | whole hne hw =>
      have hbody : body = body ++ Lexeme.pointed none := (List.append_nil _).symm
      have hnone : ∀ f ∈ (none : Option (List Char)), ∀ d ∈ f, isDecimalDigit d = true := nofun
      have hdecimal := decimalOf_pointed hw hnone
      rw [← hbody] at hdecimal
      refine ⟨isUnsigned_iff.2 ⟨body, none, hbody, hw, hnone, fun hnil => absurd hnil hne⟩, ?_⟩
      simpa using hdecimal.symm
    | @pointed whole fraction hne hw hf =>
      have hsome : ∀ f ∈ some fraction, ∀ d ∈ f, isDecimalDigit d = true := by simpa using hf
      refine ⟨isUnsigned_iff.2 ⟨whole, some fraction, rfl, hw, hsome, fun hnil => absurd hnil hne⟩, ?_⟩
      exact (decimalOf_pointed hw hsome).symm
    | @fraction fraction hne hf =>
      have hnil : ∀ d ∈ ([] : List Char), isDecimalDigit d = true := nofun
      have hsome : ∀ f ∈ some fraction, ∀ d ∈ f, isDecimalDigit d = true := by simpa using hf
      obtain ⟨c, more, rfl⟩ := List.exists_cons_of_ne_nil hne
      exact ⟨isUnsigned_iff.2 ⟨[], some (c :: more), rfl, hnil, hsome, fun _ => ⟨c, more, rfl⟩⟩,
        (decimalOf_pointed hnil hsome).symm⟩
  · rintro ⟨h, rfl⟩
    obtain ⟨whole, fraction, rfl, hw, hf, hsome⟩ := isUnsigned_iff.1 h
    rw [decimalOf_pointed hw hf]
    cases fraction with
    | none =>
      have hne : whole ≠ [] := fun hnil => by simpa using hsome hnil
      simpa [Lexeme.pointed] using Unsigned.whole hne hw
    | some fraction =>
      cases whole with
      | nil =>
        obtain ⟨c, more, hcons⟩ := hsome rfl
        cases hcons
        exact .fraction (List.cons_ne_nil _ _) (hf _ rfl)
      | cons c whole => exact .pointed (List.cons_ne_nil _ _) hw (hf _ rfl)

/-- No numeral without a sign begins with one. -/
theorem splitSign_of_isUnsigned (h : isUnsigned body = true) : splitSign body = (false, body) := by
  unfold splitSign
  split
  · cases h
  · cases h
  · rfl

theorem writes_iff : Writes text negative d ↔
    isNumeral text = true ∧ (splitSign text).1 = negative ∧ d = decimalOf (splitSign text).2 := by
  constructor
  · intro h
    cases h with
    | bare hbody =>
      obtain ⟨hu, rfl⟩ := unsigned_iff.1 hbody
      rw [isNumeral, splitSign_of_isUnsigned hu]
      exact ⟨hu, rfl, rfl⟩
    | plus hbody | minus hbody =>
      obtain ⟨hu, rfl⟩ := unsigned_iff.1 hbody
      exact ⟨hu, rfl, rfl⟩
  · rintro ⟨h, rfl, rfl⟩
    unfold isNumeral splitSign at h
    unfold splitSign
    split at h
    · exact .minus (unsigned_iff.2 ⟨h, rfl⟩)
    · exact .plus (unsigned_iff.2 ⟨h, rfl⟩)
    · exact .bare (unsigned_iff.2 ⟨h, rfl⟩)

theorem exists_writes_iff : (∃ negative d, Writes text negative d) ↔ isNumeral text = true := by
  constructor
  · rintro ⟨negative, d, h⟩
    exact (writes_iff.1 h).1
  · intro h
    exact ⟨_, _, writes_iff.2 ⟨h, rfl, rfl⟩⟩

/-- A text is a number exactly if it is a numeral, and then it is the number nearest its decimal. -/
theorem toNumber_eq_some_iff {s : String} {x : Binary64} : (Value.text s).toNumber = .ok (some x) ↔
    ∃ negative d, Writes s.toList negative d ∧ x = d.toBinary64 negative := by
  rw [Value.toNumber]
  by_cases hs : isNumeral s.toList = true
  · rw [if_pos hs]
    constructor
    · rintro ⟨⟩
      exact ⟨_, _, writes_iff.2 ⟨hs, rfl, rfl⟩, rfl⟩
    · rintro ⟨negative, d, h, rfl⟩
      obtain ⟨-, rfl, rfl⟩ := writes_iff.1 h
      rfl
  · rw [if_neg hs]
    constructor
    · rintro ⟨⟩
    · rintro ⟨negative, d, h, -⟩
      exact absurd (exists_writes_iff.1 ⟨negative, d, h⟩) hs

theorem toNumber_eq_none_iff {s : String} :
    (Value.text s).toNumber = .ok none ↔ ¬∃ negative d, Writes s.toList negative d := by
  rw [exists_writes_iff, Value.toNumber]
  by_cases hs : isNumeral s.toList = true <;> simp [hs]

end Numeral

/-! ## Number tokens -/

/-- Whether a text is one number token and nothing else. -/
def IsNumberToken (s : String) : Prop :=
  ∃ position, Token.tokenize s.toList = .ok [⟨.number, s, position⟩, Token.atEnd s.toList.length]

namespace Numeral

open Writing

variable {s : String}

theorem isDigit_of_isDecimalDigit {c : Char} (h : isDecimalDigit c = true) (hc : c.toNat < 128) :
    Token.isDigit c = true := by
  have := toNat_of_isDecimalDigit h
  exact Token.isDigit_iff.2 (by omega)

/-- Scanned as one number token are a first digit, more digits, and maybe a point and digits behind it. -/
theorem isNumberToken_iff_isNumeral : IsNumberToken s ↔ Literal.IsNumeral s.toList := by
  constructor
  · rintro ⟨position, h⟩
    exact isNumeral_literal_of_tokenize h (List.mem_cons_self ..) rfl
  · rintro ⟨first, more, fraction, hs⟩
    have hends : EndsNumber fraction [] := nofun
    obtain ⟨tokens, ⟨position, rfl⟩, hscan⟩ := scans_numeral first more fraction hends 0
    rw [List.append_nil, Token.scan_nil, ← hs, String.ofList_toList] at hscan
    exact ⟨position, Token.tokenize_of_scan hscan⟩

/-- These are the numerals in ASCII that begin with a digit. -/
theorem isNumberToken_iff : IsNumberToken s ↔ isUnsigned s.toList = true ∧
    (∃ c ∈ s.toList.head?, isDecimalDigit c = true) ∧ ∀ c ∈ s.toList, c.toNat < 128 := by
  rw [isNumberToken_iff_isNumeral]
  constructor
  · rintro ⟨first, more, fraction, hs⟩
    have hascii {c : Char} (hc : Token.isDigit c = true) : c.toNat < 128 := by
      have := Token.isDigit_iff.1 hc
      omega
    rw [hs, Literal.numeral]
    refine ⟨isUnsigned_of_digits first.2 more.2 isDigit_of_mem_fraction,
      ⟨first.1, rfl, isDecimalDigit_of_isDigit first.2⟩, List.forall_mem_cons.2 ⟨hascii first.2, ?_⟩⟩
    exact Lexeme.forall_mem_pointed (fun c hc => hascii (more.2 c hc)) (by decide)
      fun f hf c hc => hascii (isDigit_of_mem_fraction f hf c hc)
  · rintro ⟨hunsigned, ⟨c, hhead, hc⟩, hascii⟩
    obtain ⟨whole, fraction, hs, hwhole, hfraction, -⟩ := isUnsigned_iff.1 hunsigned
    rw [hs] at hhead
    rw [hs, List.forall_mem_append] at hascii
    cases whole with
    | nil =>
      -- what begins with a point does not begin with a digit
      cases fraction with
      | none => cases hhead
      | some f =>
        cases hhead
        cases hc
    | cons first more =>
      have hdigits : ∀ d ∈ first :: more, Token.isDigit d = true :=
        fun d hd => isDigit_of_isDecimalDigit (hwhole d hd) (hascii.1 d hd)
      rw [hs]
      refine Literal.isNumeral_of_digits hdigits fun f hf d hd => ?_
      obtain rfl : fraction = some f := hf
      exact isDigit_of_isDecimalDigit (hfraction f rfl d hd) (hascii.2 d (List.mem_cons_of_mem _ hd))

/-- What a text that is one number token is read as, wherever a value may stand. -/
theorem exists_value_of_isNumberToken (h : IsNumberToken s) (lenient : Bool) (parameter : String) :
    ∃ c behind, Cursor.start s.toList = .ok c ∧
      c.value lenient parameter = .ok (.number (value s.toList), behind) := by
  obtain ⟨position, htokens⟩ := h
  obtain ⟨inner, hscan, hinner⟩ := Token.exists_scan_of_tokenize htokens
  have htoken : [⟨.number, s, position⟩] = inner := (List.append_inj' hinner rfl).1
  rw [← htoken] at hscan
  exact ⟨_, _, by rw [Cursor.start, hscan], rfl⟩

/-- **The readers agree.** A text value is a number exactly if the whole of it is a numeral, and then
the number nearest the decimal that is written, which is what a host reads the text as too; every
other text has no numeric reading. A text is one number token exactly if it is in ASCII and a numeral
without sign that begins with a digit, and the number that an argument of it denotes is that of the
text value. -/
theorem readers_agree (s : String) :
    (∃ x?, (Value.text s).toNumber = .ok x? ∧
      (∀ x, x? = some x ↔ ∃ negative d, Writes s.toList negative d ∧ x = d.toBinary64 negative) ∧
      (x? = none ↔ ¬∃ negative d, Writes s.toList negative d) ∧ ∀ x, x? = some x → readNumber? s = some x) ∧
    (IsNumberToken s ↔ (∃ d, Unsigned s.toList d) ∧ (∃ c ∈ s.toList.head?, isDecimalDigit c = true) ∧
      ∀ c ∈ s.toList, c.toNat < 128) ∧
    (IsNumberToken s → ∀ lenient parameter, ∃ c x behind, Cursor.start s.toList = .ok c ∧
      c.value lenient parameter = .ok (.number x, behind) ∧ (Value.text s).toNumber = .ok (some x)) := by
  have hunsigned : (∃ d, Unsigned s.toList d) ↔ isUnsigned s.toList = true := by
    simp only [unsigned_iff, exists_and_left, exists_eq, and_true]
  refine ⟨?_, ?_, fun h lenient parameter => ?_⟩
  · obtain ⟨x?, hx?⟩ : ∃ x?, (Value.text s).toNumber = .ok x? := ⟨_, rfl⟩
    have hsome : ∀ x, x? = some x ↔ (Value.text s).toNumber = .ok (some x) := by simp [hx?]
    refine ⟨x?, hx?, fun x => ?_, ?_, fun x hx => ?_⟩
    · rw [hsome, toNumber_eq_some_iff]
    · rw [← toNumber_eq_none_iff, hx?, Except.ok.injEq]
    · obtain ⟨negative, d, h, rfl⟩ := toNumber_eq_some_iff.1 ((hsome x).1 hx)
      obtain ⟨hnumeral, rfl, rfl⟩ := writes_iff.1 h
      exact readNumber?_of_isNumeral hnumeral
  · rw [hunsigned, isNumberToken_iff]
  · obtain ⟨d, hd⟩ := hunsigned.2 (isNumberToken_iff.1 h).1
    obtain ⟨c, behind, hstart, hvalue⟩ := exists_value_of_isNumberToken h lenient parameter
    obtain ⟨hnumeral, -⟩ := writes_iff.1 (Writes.bare hd)
    exact ⟨c, _, behind, hstart, hvalue, by rw [Value.toNumber, if_pos hnumeral]⟩

end Numeral

end SceneLang
