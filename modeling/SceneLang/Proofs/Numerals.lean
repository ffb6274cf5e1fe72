/-
Numerals, and the readings that agree on them.

A numeral is digits with at most one point among them, behind a sign or not. The language reads its
own numerals only; a host's texts get a wider reading, with blanks around the number, underscores,
exponents and names. None of these stands in a numeral, so the wider reading reads every numeral,
and as the same number. The text of a number token is a numeral as well.

* `isUnsigned_iff`: what a numeral without a sign is.
* `readNumber?_of_isNumeral`: a numeral has a number under the wider reading, the one it says.
* `isNumeral_of_tokenize`: number tokens are numerals.
-/
import SceneLang.Proofs.Spans
import SceneLang.Proofs.Writing

namespace SceneLang

open Text

/-! ## Characters -/

namespace Text

theorem isDecimalDigit_iff {c : Char} :
    isDecimalDigit c = true ↔ ∃ z ∈ zeros, z ≤ c.toNat ∧ c.toNat < z + 10 := by
  simp [isDecimalDigit, digitValue?]

/-- Decimal digits are the ten of ASCII or far beyond it. -/
theorem toNat_of_isDecimalDigit {c : Char} (h : isDecimalDigit c = true) :
    48 ≤ c.toNat ∧ c.toNat ≤ 57 ∨ 0x660 ≤ c.toNat := by
  obtain ⟨z, hz, hle, hlt⟩ := isDecimalDigit_iff.1 h
  have hrows : ∀ z ∈ zeros, z = 48 ∨ 0x660 ≤ z := by decide
  rcases hrows z hz with rfl | hfar
  · exact .inl ⟨hle, by omega⟩
  · exact .inr (by omega)

theorem isBlank_of_isDecimalDigit {c : Char} (h : isDecimalDigit c = true) : isBlank c = false := by
  obtain ⟨z, hz, hle, hlt⟩ := isDecimalDigit_iff.1 h
  have hincreasing : Ranges.Increasing blanks := by
    unfold Ranges.Increasing
    decide
  have hordered : ∀ r ∈ blanks, r.1 ≤ r.2 := by decide
  have hapart : ∀ z ∈ zeros, ∀ r ∈ blanks, z + 10 ≤ r.1 ∨ r.2 < z := by decide
  rw [isBlank, Bool.eq_false_iff, ne_eq, Ranges.contains_iff hincreasing hordered]
  rintro ⟨r, hr, hfirst, hlast⟩
  have := hapart z hz r hr
  omega

/-- What is no ASCII capital is its own small letter. -/
theorem toLower_eq_self {c : Char} (h : c.toNat < 65 ∨ 90 < c.toNat) : c.toLower = c := by
  have hcapital : ¬(c.val ≥ 'A'.val ∧ c.val ≤ 'Z'.val) := by
    rintro ⟨hfirst, hlast⟩
    have hfirst : 65 ≤ c.toNat := UInt32.le_iff_toNat_le.1 hfirst
    have hlast : c.toNat ≤ 90 := UInt32.le_iff_toNat_le.1 hlast
    omega
  exact dif_neg hcapital

end Text

namespace Numeral

/-! ## What numerals are -/

/-- A numeral without a sign is digits, and maybe a point and digits behind it; one digit at least. -/
theorem isUnsigned_iff {body : List Char} :
    isUnsigned body = true ↔ ∃ whole fraction, body = whole ++ Lexeme.pointed fraction ∧
      (∀ d ∈ whole, isDecimalDigit d = true) ∧ (∀ f ∈ fraction, ∀ d ∈ f, isDecimalDigit d = true) ∧
      (whole = [] → ∃ d f, fraction = some (d :: f)) := by
  constructor
  · intro h
    have hwhole : ∀ d ∈ body.takeWhile isDecimalDigit, isDecimalDigit d = true :=
      List.all_eq_true.1 List.all_takeWhile
    have hbody : body = body.takeWhile isDecimalDigit ++ body.dropWhile isDecimalDigit :=
      List.takeWhile_append_dropWhile.symm
    unfold isUnsigned at h
    split at h
    · next hnil =>
      rw [hnil] at hbody
      refine ⟨_, none, hbody, hwhole, by simp, fun hempty => ?_⟩
      rw [hempty] at hbody
      simp [hbody] at h
    · next c fraction hpoint =>
      simp only [Bool.and_eq_true, decide_eq_true_eq, List.all_eq_true, Bool.not_eq_true',
        Bool.and_eq_false_iff] at h
      obtain ⟨⟨rfl, hfraction⟩, hsome⟩ := h
      rw [hpoint] at hbody
      refine ⟨_, some fraction, hbody, hwhole, by simpa using hfraction, fun hempty => ?_⟩
      cases fraction with
      | nil => simp [hempty] at hsome
      | cons d f => exact ⟨d, f, rfl⟩
  · rintro ⟨whole, fraction, rfl, hwhole, hfraction, hsome⟩
    obtain ⟨htake, hdrop⟩ := takeWhile_pointed hwhole fraction
    rw [isUnsigned, hdrop, htake]
    cases fraction with
    | none =>
      have hne : whole ≠ [] := by
        rintro rfl
        obtain ⟨d, f, hf⟩ := hsome rfl
        cases hf
      simpa [Lexeme.pointed] using hne
    | some f =>
      have hdigits : f.all isDecimalDigit = true := List.all_eq_true.2 (hfraction f rfl)
      have hne : (f.isEmpty && whole.isEmpty) = false := by
        rw [Bool.eq_false_iff, ne_eq, Bool.and_eq_true, List.isEmpty_iff, List.isEmpty_iff]
        rintro ⟨rfl, rfl⟩
        obtain ⟨d, f, hf⟩ := hsome rfl
        cases hf
      simp [Lexeme.pointed, hdigits, hne]

/-- The characters of a numeral without a sign. -/
theorem mem_of_isUnsigned {body : List Char} (h : isUnsigned body = true) :
    ∀ c ∈ body, isDecimalDigit c = true ∨ c = '.' := by
  obtain ⟨whole, fraction, rfl, hwhole, hfraction, -⟩ := isUnsigned_iff.1 h
  exact Lexeme.forall_mem_pointed (fun c hc => .inl (hwhole c hc)) (.inr rfl)
    fun f hf c hc => .inl (hfraction f hf c hc)

theorem ne_nil_of_isUnsigned {body : List Char} (h : isUnsigned body = true) : body ≠ [] := by
  rintro rfl
  cases h

/-- A sign is all that a text has before its body. -/
theorem exists_sign (text : List Char) :
    ∃ sign, text = sign ++ (splitSign text).2 ∧ ∀ c ∈ sign, c = '-' ∨ c = '+' := by
  unfold splitSign
  split
  · exact ⟨['-'], rfl, by simp⟩
  · exact ⟨['+'], rfl, by simp⟩
  · exact ⟨[], rfl, by simp⟩

/-! ## The wider reading -/

theorem isPadding_of_isBlank_eq_false {c : Char} (h : isBlank c = false) : isPadding c = false := by
  rw [isPadding, h, Bool.false_and]

/-- No blank stands in a numeral. -/
theorem isPadding_of_mem {text : List Char} (h : isNumeral text = true) : ∀ c ∈ text, isPadding c = false := by
  obtain ⟨sign, htext, hsign⟩ := exists_sign text
  intro c hc
  rw [htext] at hc
  rcases List.mem_append.1 hc with hc | hc
  · rcases hsign c hc with rfl | rfl <;> decide
  · rcases mem_of_isUnsigned h c hc with hd | rfl
    · exact isPadding_of_isBlank_eq_false (isBlank_of_isDecimalDigit hd)
    · decide

theorem dropWhile_isPadding {text : List Char} (h : ∀ c ∈ text, isPadding c = false) :
    text.dropWhile isPadding = text := by
  have hhead : ∀ c ∈ text.head?, isPadding c = false := fun c hc => h c (List.mem_of_mem_head? hc)
  have hrun : ∀ c ∈ ([] : List Char), isPadding c = true := by simp
  exact Lexeme.dropWhile_append_of_head? hrun hhead

/-- No numeral is a name: it begins with a digit or a point. -/
theorem map_toLower_ne {body name : List Char} (h : isUnsigned body = true)
    (hname : ∃ c ∈ name.head?, 97 ≤ c.toNat ∧ c.toNat ≤ 122) : body.map Char.toLower ≠ name := by
  cases body with
  | nil => exact absurd rfl (ne_nil_of_isUnsigned h)
  | cons c body =>
    have hc : c.toNat < 65 ∨ 0x660 ≤ c.toNat := by
      rcases mem_of_isUnsigned h c (List.mem_cons_self ..) with hd | rfl
      · have := toNat_of_isDecimalDigit hd
        omega
      · exact .inl (by decide)
    rw [List.map_cons, toLower_eq_self (by omega)]
    rintro rfl
    obtain ⟨letter, hletter, hsmall⟩ := hname
    cases hletter
    omega

theorem dropUnderscores?_eq_self {body : List Char} (h : '_' ∉ body) (before : Bool) :
    dropUnderscores? before body = some body := by
  induction body generalizing before with
  | nil => rfl
  | cons c body ih =>
    have hc : c ≠ '_' := fun hc => h (by simp [hc])
    have hrest := ih (fun hm => h (List.mem_cons_of_mem _ hm)) (isDecimalDigit c)
    rw [dropUnderscores?, hrest, Option.map_some]
    · intro d rest he _
      exact hc he
    · intro he _
      exact hc he

/-- A numeral without a sign has no exponent and no underscores. -/
theorem scientific?_of_isUnsigned {body : List Char} (h : isUnsigned body = true) (negative : Bool) :
    (dropUnderscores? false body).bind (scientific? negative) = some ((decimalOf body).toBinary64 negative) := by
  have hchars : ∀ c ∈ body, c ≠ '_' ∧ c ≠ 'e' ∧ c ≠ 'E' := by
    intro c hc
    rcases mem_of_isUnsigned h c hc with hd | rfl
    · have hnat := toNat_of_isDecimalDigit hd
      refine ⟨?_, ?_, ?_⟩ <;>
        · rintro rfl
          revert hnat
          decide
    · decide
  have hunderscore : '_' ∉ body := fun hm => (hchars _ hm).1 rfl
  have hmark : ∀ c ∈ body, (!(decide (c = 'e') || decide (c = 'E'))) = true := by
    intro c hc
    simp [hchars c hc]
  rw [dropUnderscores?_eq_self hunderscore, Option.bind_some]
  simp only [scientific?, List.takeWhile_eq_self_iff.2 hmark, List.dropWhile_eq_nil_iff.2 hmark, h,
    Bool.not_true, Bool.false_eq_true, if_false]

/-- The wider reading reads a numeral as the number that it says. -/
theorem readNumber?_of_isNumeral {text : String} (h : isNumeral text.toList = true) :
    readNumber? text = some (value text.toList) := by
  have hpadding := isPadding_of_mem h
  have hreverse : ∀ c ∈ text.toList.reverse, isPadding c = false := by
    intro c hc
    exact hpadding c (List.mem_reverse.1 hc)
  have hinner : ((text.toList.dropWhile isPadding).reverse.dropWhile isPadding).reverse = text.toList := by
    rw [dropWhile_isPadding hpadding, dropWhile_isPadding hreverse, List.reverse_reverse]
  have hbody : isUnsigned (splitSign text.toList).2 = true := h
  have hinf : (splitSign text.toList).2.map Char.toLower ≠ "inf".toList :=
    map_toLower_ne hbody ⟨'i', rfl, by decide⟩
  have hinfinity : (splitSign text.toList).2.map Char.toLower ≠ "infinity".toList :=
    map_toLower_ne hbody ⟨'i', rfl, by decide⟩
  have hnan : (splitSign text.toList).2.map Char.toLower ≠ "nan".toList :=
    map_toLower_ne hbody ⟨'n', rfl, by decide⟩
  rw [readNumber?, hinner]
  dsimp only
  rw [if_neg (by simp only [hinf, hinfinity, decide_false, Bool.or_false, Bool.false_eq_true, not_false_eq_true]),
    if_neg hnan, scientific?_of_isUnsigned hbody]
  rfl

/-! ## Number tokens -/

/-- Digits of ASCII, maybe with a point and more behind them, are a numeral. -/
theorem isUnsigned_of_digits {c : Char} {run : List Char} {fraction : Option (List Char)}
    (hc : Token.isDigit c = true) (hrun : ∀ d ∈ run, Token.isDigit d = true)
    (hf : ∀ f ∈ fraction, ∀ d ∈ f, Token.isDigit d = true) :
    isUnsigned (c :: (run ++ Lexeme.pointed fraction)) = true := by
  refine isUnsigned_iff.2 ⟨c :: run, fraction, rfl, ?_, fun f hm d hd => ?_, by simp⟩
  · intro d hd
    rcases List.mem_cons.1 hd with rfl | hd
    · exact Writing.isDecimalDigit_of_isDigit hc
    · exact Writing.isDecimalDigit_of_isDigit (hrun d hd)
  · exact Writing.isDecimalDigit_of_isDigit (hf f hm d hd)

/-- The text of a number token is the number of a literal. -/
theorem isNumeral_literal_of_tokenize {text : List Char} {tokens : List Token}
    (h : Token.tokenize text = .ok tokens) {t : Token} (ht : t ∈ tokens) (hk : t.kind = .number) :
    Writing.Literal.IsNumeral t.text.toList := by
  -- what stands at the end of the text is no number
  have hend : t.kind ≠ .endOfText := by
    rw [hk]
    decide
  refine Token.forall_of_tokenize (P := fun t => t.kind = .number → Writing.Literal.IsNumeral t.text.toList)
    (fun {c rest x} _ hx hk => ?_) h t ht hend hk
  obtain ⟨tail, behind, -, hwritten⟩ := Lexeme.exists_written hx
  have hreads := Token.reads_of_written hwritten
  rw [show x.kind = .number from hk] at hreads
  obtain ⟨htext, first, run, fraction, hspelling, hdigits, hf, -⟩ := hreads
  rw [htext, String.toList_ofList, hspelling]
  exact Writing.Literal.isNumeral_of_digits hdigits hf

/-- It is a numeral. -/
theorem isNumeral_of_tokenize {text : List Char} {tokens : List Token}
    (h : Token.tokenize text = .ok tokens) {t : Token} (ht : t ∈ tokens) (hk : t.kind = .number) :
    isNumeral t.text.toList = true := by
  obtain ⟨first, more, fraction, htext⟩ := isNumeral_literal_of_tokenize h ht hk
  rw [htext, isNumeral, Writing.Literal.numeral, Writing.splitSign_of_isDigit first.2]
  exact isUnsigned_of_digits first.2 more.2 Writing.isDigit_of_mem_fraction

end Numeral

end SceneLang
