/-
How lexemes are spelled, and that each spelling is read as the lexeme.

`Spells x spelling rest` says that in front of `rest` the characters of `spelling` are read as the
lexeme `x`, no more and no fewer of them. There is one lemma for each class of lexeme, and what it
asks of `rest` is what longest match asks: that `rest` does not go on with the word, the number or
the arrow. `scan_spelled` turns a spelling into a token at its place.
-/
import SceneLang.Proofs.Scanning

namespace SceneLang

open Text

namespace Token

/-! ## Classes of characters by code point -/

theorem isDigit_iff {c : Char} : isDigit c = true ↔ 48 ≤ c.toNat ∧ c.toNat ≤ 57 := by
  simp only [isDigit, Char.isDigit, Bool.and_eq_true, decide_eq_true_eq, ge_iff_le,
    UInt32.le_iff_toNat_le]
  rfl

theorem startsWord_iff {c : Char} :
    startsWord c = true ↔ c.toNat = 95 ∨ (65 ≤ c.toNat ∧ c.toNat ≤ 90) ∨ (97 ≤ c.toNat ∧ c.toNat ≤ 122) := by
  have h95 : c = '_' ↔ c.toNat = 95 := ⟨fun h => h ▸ rfl, fun h => Char.ext (UInt32.toNat_inj.1 h)⟩
  have halpha : c.isAlpha =
      (decide (c.val ≥ 'A'.val ∧ c.val ≤ 'Z'.val) ||
        (decide (c.val ≥ 'a'.val) && decide (c.val ≤ 'z'.val))) := rfl
  simp only [startsWord, halpha, Bool.or_eq_true, Bool.and_eq_true, decide_eq_true_eq, ge_iff_le,
    UInt32.le_iff_toNat_le, h95]
  rfl

theorem isBlank_eq_false {c : Char} (h : 33 ≤ c.toNat) (h' : c.toNat ≤ 126) : isBlank c = false := by
  simp only [isBlank, blanks, Ranges.contains]
  have h1 : ¬c.toNat < 9 := by omega
  have h2 : ¬c.toNat ≤ 13 := by omega
  have h3 : ¬c.toNat < 28 := by omega
  have h4 : ¬c.toNat ≤ 32 := by omega
  have h5 : c.toNat < 0x85 := by omega
  simp only [h1, h2, h3, h4, h5, if_true, if_false, decide_false, Bool.false_or]

theorem isBlank_of_startsWord {c : Char} (h : startsWord c = true) : isBlank c = false := by
  have := startsWord_iff.1 h
  exact isBlank_eq_false (by omega) (by omega)

theorem isBlank_of_isDigit {c : Char} (h : isDigit c = true) : isBlank c = false := by
  have := isDigit_iff.1 h
  exact isBlank_eq_false (by omega) (by omega)

theorem startsWord_of_isDigit {c : Char} (h : isDigit c = true) : startsWord c = false := by
  rw [Bool.eq_false_iff, ne_eq, startsWord_iff]
  have := isDigit_iff.1 h
  omega

theorem isQuote_iff {c : Char} : isQuote c = true ↔ c = '"' ∨ c = '\x27' := by
  simp [isQuote]

/-- The characters that are tokens by themselves, each with the kind of its token. -/
def signs : List (Char × Kind) :=
  [('(', .openParen), (')', .closeParen), ('{', .openBrace), ('}', .closeBrace), (',', .comma), (':', .colon),
    ('=', .equals), (';', .semicolon), ('+', .plus), ('-', .minus), ('*', .star), ('/', .slash)]

theorem mem_signs_iff {c : Char} {kind : Kind} : (c, kind) ∈ signs ↔ kindOfChar? c = some kind := by
  constructor
  · intro h
    simp only [signs, List.mem_cons, List.not_mem_nil, or_false, Prod.mk.injEq] at h
    rcases h with ⟨rfl, rfl⟩ | ⟨rfl, rfl⟩ | ⟨rfl, rfl⟩ | ⟨rfl, rfl⟩ | ⟨rfl, rfl⟩ | ⟨rfl, rfl⟩ | ⟨rfl, rfl⟩ |
      ⟨rfl, rfl⟩ | ⟨rfl, rfl⟩ | ⟨rfl, rfl⟩ | ⟨rfl, rfl⟩ | ⟨rfl, rfl⟩ <;> rfl
  · intro h
    unfold kindOfChar? at h
    split at h <;> cases h <;> decide

/-- A punctuation character begins no other lexeme. -/
theorem class_of_kindOfChar {c : Char} {kind : Kind} (h : kindOfChar? c = some kind) :
    isBlank c = false ∧ startsWord c = false ∧ isDigit c = false ∧ isQuote c = false := by
  unfold kindOfChar? at h
  split at h <;> first | decide | cases h

end Token

/-! ## Spellings -/

namespace Lexeme

open Token

/-- In front of `rest` the characters of `spelling` are read as the lexeme. -/
def Spells (x : Lexeme) (spelling rest : List Char) : Prop :=
  x.width = spelling.length ∧
    ∃ c tail, spelling = c :: tail ∧ isBlank c = false ∧ Lexeme.read c (tail ++ rest) = .ok x

theorem takeWhile_append_of_head? {p : Char → Bool} {run rest : List Char} (h : ∀ c ∈ run, p c = true)
    (hr : ∀ c ∈ rest.head?, p c = false) : (run ++ rest).takeWhile p = run := by
  rw [List.takeWhile_append_of_pos h]
  cases rest with
  | nil => simp
  | cons c rest => simp [hr c rfl]

theorem dropWhile_append_of_head? {p : Char → Bool} {run rest : List Char} (h : ∀ c ∈ run, p c = true)
    (hr : ∀ c ∈ rest.head?, p c = false) : (run ++ rest).dropWhile p = rest := by
  rw [List.dropWhile_append_of_pos h]
  cases rest with
  | nil => simp
  | cons c rest => simp [hr c rfl]

/-- A word that does not go on is read whole. -/
theorem spells_word {c : Char} {tail rest : List Char} (hc : Token.startsWord c = true)
    (ht : ∀ d ∈ tail, continuesWord d = true) (hr : ∀ d ∈ rest.head?, continuesWord d = false) :
    Spells { kind := kindOfWord (String.ofList (c :: tail)), text := String.ofList (c :: tail),
             width := tail.length + 1 }
      (c :: tail) rest := by
  refine ⟨rfl, c, tail, rfl, isBlank_of_startsWord hc, ?_⟩
  simp only [read, hc, if_true, word, takeWhile_append_of_head? ht hr]

/-- A character of punctuation is read alone, a minus unless it makes an arrow. -/
theorem spells_sign {c : Char} {kind : Token.Kind} {rest : List Char} (hk : kindOfChar? c = some kind)
    (hr : c = '-' → rest.head? ≠ some '>') :
    Spells { kind, text := String.singleton c, width := 1 } [c] rest := by
  obtain ⟨hb, hw, hd, hq⟩ := class_of_kindOfChar hk
  have harrow : ¬(decide (c = '-') && decide (rest.head? = some '>')) = true := by
    simpa using hr
  refine ⟨rfl, c, [], rfl, hb, ?_⟩
  simp only [read, hw, hd, hq, Bool.false_eq_true, if_false, List.nil_append, punctuation?, harrow, hk,
    Option.map_some]

/-! ### Numbers -/

/-- The digits behind the point of a number, with the point. -/
def pointed : Option (List Char) → List Char
  | none => []
  | some fraction => '.' :: fraction

/-- What holds of the digits and of the point holds of every character of a number. -/
theorem forall_mem_pointed {p : Char → Prop} {whole : List Char} {fraction : Option (List Char)}
    (hw : ∀ c ∈ whole, p c) (hpoint : p '.') (hf : ∀ f ∈ fraction, ∀ c ∈ f, p c) :
    ∀ c ∈ whole ++ pointed fraction, p c := by
  rw [List.forall_mem_append]
  cases fraction with
  | none => exact ⟨hw, nofun⟩
  | some f => exact ⟨hw, List.forall_mem_cons.2 ⟨hpoint, hf f rfl⟩⟩

theorem numberTail_append {run rest : List Char} {fraction : Option (List Char)}
    (hrun : ∀ c ∈ run, isDigit c = true) (hf : ∀ f ∈ fraction, ∀ c ∈ f, isDigit c = true)
    (hr : ∀ c ∈ rest.head?, isDigit c = false ∧ (fraction = none → c ≠ '.')) :
    numberTail (run ++ (pointed fraction ++ rest)) = run ++ pointed fraction := by
  have hd : ∀ c ∈ rest.head?, isDigit c = false := fun c hc => (hr c hc).1
  cases fraction with
  | none =>
    have hpoint : ∀ more, rest ≠ '.' :: more := by
      intro more h
      exact (hr '.' (by simp [h])).2 rfl rfl
    simp only [numberTail, pointed, List.nil_append, takeWhile_append_of_head? hrun hd,
      dropWhile_append_of_head? hrun hd, List.append_nil]
  | some f =>
    have hdot : ∀ c ∈ (pointed (some f) ++ rest).head?, isDigit c = false := by
      intro c hc
      cases hc
      decide
    simp only [numberTail, takeWhile_append_of_head? hrun hdot, dropWhile_append_of_head? hrun hdot]
    simp only [pointed, List.cons_append, takeWhile_append_of_head? (hf f rfl) hd]

/-- A number that does not go on is read whole. -/
theorem spells_number {c : Char} {run rest : List Char} {fraction : Option (List Char)}
    (hc : isDigit c = true) (hrun : ∀ d ∈ run, isDigit d = true)
    (hf : ∀ f ∈ fraction, ∀ d ∈ f, isDigit d = true)
    (hr : ∀ d ∈ rest.head?, isDigit d = false ∧ (fraction = none → d ≠ '.')) :
    Spells { kind := .number, text := String.ofList (c :: (run ++ pointed fraction)),
             width := (run ++ pointed fraction).length + 1 }
      (c :: (run ++ pointed fraction)) rest := by
  refine ⟨rfl, c, _, rfl, isBlank_of_isDigit hc, ?_⟩
  have hw : ¬Token.startsWord c = true := by simp [startsWord_of_isDigit hc]
  rw [List.append_assoc, read, if_neg hw, if_pos hc]
  simp only [number, numberTail_append hrun hf hr]

/-! ### Strings -/

/-- What a newline or a tab is written with behind a backslash. -/
def letter? : Char → Option Char
  | '\n' => some 'n'
  | '\t' => some 't'
  | _ => none

/-- A character between quotes. A backslash and the quote in use stand behind a backslash; a newline
and a tab are written by their letter or as they are. -/
def quotedForm (quote : Char) (c : Char) (byLetter : Bool) : List Char :=
  if c = '\\' ∨ c = quote then ['\\', c]
  else if byLetter then (letter? c).elim [c] (['\\', ·]) else [c]

/-- Characters between quotes, each with whether it is written by its letter if it has one. -/
def quotedForms (quote : Char) (content : List (Char × Bool)) : List Char :=
  content.flatMap fun c => quotedForm quote c.1 c.2

theorem quotedContent?_escape (quote c : Char) (rest : List Char) :
    quotedContent? quote ('\\' :: c :: rest) =
      (quotedContent? quote rest).map fun x => (unescape c ++ x.1, x.2 + 2) := rfl

theorem quotedContent?_plain {quote c : Char} (hq : c ≠ quote) (hb : c ≠ '\\') (rest : List Char) :
    quotedContent? quote (c :: rest) = (quotedContent? quote rest).map fun x => (c :: x.1, x.2 + 1) := by
  rw [quotedContent?]
  · rw [if_neg hq]
  · intro d more he _
    exact hb he

theorem unescape_self {quote c : Char} (hq : isQuote quote = true) (hc : c = '\\' ∨ c = quote) :
    unescape c = [c] := by
  rcases hc with rfl | rfl
  · rfl
  · rcases isQuote_iff.1 hq with rfl | rfl <;> rfl

theorem unescape_letter {c l : Char} (h : letter? c = some l) : unescape l = [c] := by
  unfold letter? at h
  split at h <;> cases h <;> rfl

/-- What is written for one character is read as that character. -/
theorem quotedContent?_quotedForm {quote : Char} (hq : isQuote quote = true) (c : Char) (byLetter : Bool)
    (rest : List Char) :
    quotedContent? quote (quotedForm quote c byLetter ++ rest) =
      (quotedContent? quote rest).map fun x => (c :: x.1, x.2 + (quotedForm quote c byLetter).length) := by
  unfold quotedForm
  split
  · next hc =>
    rw [List.cons_append, List.cons_append, List.nil_append, quotedContent?_escape, unescape_self hq hc]
    rfl
  next hc =>
  obtain ⟨hb, hne⟩ := not_or.1 hc
  split
  · cases hl : letter? c with
    | none => exact quotedContent?_plain hne hb rest
    | some l =>
      simp only [Option.elim_some, List.cons_append, List.nil_append]
      rw [quotedContent?_escape, unescape_letter hl]
      rfl
  · exact quotedContent?_plain hne hb rest

theorem quotedContent?_quotedForms {quote : Char} (hq : isQuote quote = true) (content : List (Char × Bool))
    (rest : List Char) :
    quotedContent? quote (quotedForms quote content ++ quote :: rest) =
      some (content.map (·.1), (quotedForms quote content).length + 1) := by
  induction content with
  | nil =>
    have hb : quote ≠ '\\' := by rcases isQuote_iff.1 hq with rfl | rfl <;> decide
    simp only [quotedForms, List.flatMap_nil, List.nil_append, List.map_nil, List.length_nil]
    rw [quotedContent?, if_pos rfl]
    intro d more he _
    exact hb he
  | cons c content ih =>
    rw [quotedForms, List.flatMap_cons, ← quotedForms, List.append_assoc, quotedContent?_quotedForm hq, ih]
    simp only [Option.map_some, List.map_cons, List.length_append]
    congr 2
    omega

/-- Text between quotes is read whole, whatever stands in it and behind it. -/
theorem spells_string {quote : Char} (hq : isQuote quote = true) (content : List (Char × Bool))
    (rest : List Char) :
    Spells { kind := .string, text := String.ofList (content.map (·.1)),
             width := (quotedForms quote content).length + 2 }
      (quote :: (quotedForms quote content ++ [quote])) rest := by
  have hclass : isBlank quote = false ∧ Token.startsWord quote = false ∧ isDigit quote = false := by
    rcases isQuote_iff.1 hq with rfl | rfl <;> decide
  obtain ⟨hb, hw, hd⟩ := hclass
  refine ⟨by simp, quote, _, rfl, hb, ?_⟩
  simp only [read, hw, hd, hq, Bool.false_eq_true, if_false, if_true, string?, List.append_assoc,
    List.cons_append, List.nil_append, quotedContent?_quotedForms hq, Option.map_some]

/-! ### From spellings to tokens -/

theorem scan_spelled {x : Lexeme} {spelling rest : List Char} (h : Spells x spelling rest) (position : Nat) :
    scan position (spelling ++ rest) =
      (scan (position + spelling.length) rest).map (⟨x.kind, x.text, position⟩ :: ·) := by
  obtain ⟨hlen, c, tail, rfl, hb, hx⟩ := h
  rw [List.cons_append, scan_of_read hb hx, hlen, ← List.cons_append, List.drop_left]

end Lexeme

end SceneLang
