/-
Where the tokens of a text stand.

Each token takes up a span of the text. The spans follow each other in the order of the tokens and
never overlap, and what they leave out is blank. What stands in a span is what its token stands for,
as it is written or, between quotes, with the escapes resolved, and the character behind a span never
goes on with the token.

* `Lexeme.exists_pieces`: what stands behind an opening quote, cut at its escapes.
* `Token.Reads`: what stands in the span of a token, and what does not stand behind it.
* `Token.tokenize_tiles`: the spans of the tokens of a text.
-/
import Mathlib.Data.List.Forall2
import SceneLang.Proofs.Lexemes

namespace SceneLang

open Text Token

namespace Lexeme

/-! ## Between quotes -/

/-- What stands behind an opening quote: a character, or a backslash with the character behind it. -/
inductive Piece where
  | plain (c : Char)
  | pair (c : Char)

namespace Piece

/-- A piece as it is written. -/
def spelling : Piece → List Char
  | .plain c => [c]
  | .pair c => ['\\', c]

/-- The characters that a backslash gives a meaning, each with the character that they mean. -/
def escapes : List (Char × Char) := [('n', '\n'), ('t', '\t'), ('\\', '\\'), ('"', '"'), ('\x27', '\x27')]

/-- What a piece stands for. A backslash in front of any other character is kept with it. -/
def meaning : Piece → List Char
  | .plain c => [c]
  | .pair c =>
    match escapes.lookup c with
    | some d => [d]
    | none => ['\\', c]

/-- Whether the string goes on behind a piece: a backslash and the quote in use never stand alone. -/
def GoesOn (quote : Char) : Piece → Prop
  | .plain c => c ≠ quote ∧ c ≠ '\\'
  | .pair _ => True

theorem meaning_pair (c : Char) : (pair c).meaning = unescape c := by
  unfold unescape
  split
  · rfl
  · rfl
  · rfl
  · rfl
  · rfl
  · next h1 h2 h3 h4 h5 =>
    have hnone : escapes.lookup c = none := by
      simp only [escapes, List.lookup_eq_none_iff, List.forall_mem_cons, bne_iff_ne]
      exact ⟨h1, h2, h3, h4, h5, by simp⟩
    simp only [meaning, hnone]

end Piece

/-- Pieces as they are written. -/
def spelled (pieces : List Piece) : List Char := pieces.flatMap Piece.spelling

/-- What pieces stand for. -/
def meant (pieces : List Piece) : List Char := pieces.flatMap Piece.meaning

/-- Pieces that leave a string open are part of what the next quote closes. -/
theorem quotedContent?_spelled {quote : Char} {pieces : List Piece} (h : ∀ p ∈ pieces, p.GoesOn quote)
    (rest : List Char) : quotedContent? quote (spelled pieces ++ rest) =
      (quotedContent? quote rest).map fun x => (meant pieces ++ x.1, (spelled pieces).length + x.2) := by
  induction pieces with
  | nil =>
    simp only [spelled, meant, List.flatMap_nil, List.nil_append, List.length_nil, Nat.zero_add]
    exact Option.map_id'.symm
  | cons p pieces ih =>
    obtain ⟨hp, hpieces⟩ := List.forall_mem_cons.1 h
    rw [spelled, List.flatMap_cons, ← spelled, List.append_assoc, meant, List.flatMap_cons, ← meant]
    cases p with
    | plain c =>
      simp only [Piece.spelling, Piece.meaning, List.singleton_append]
      rw [quotedContent?_plain hp.1 hp.2, ih hpieces, Option.map_map]
      congr 1
      funext x
      simp only [Function.comp, List.cons_append, List.length_cons]
      congr 1
      omega
    | pair c =>
      rw [Piece.meaning_pair]
      simp only [Piece.spelling, List.cons_append, List.nil_append]
      rw [quotedContent?_escape, ih hpieces, Option.map_map]
      congr 1
      funext x
      simp only [Function.comp, List.append_assoc, List.length_cons]
      congr 1
      omega

/-- A quote behind pieces that leave the string open closes it. -/
theorem quotedContent?_closed {quote : Char} {pieces : List Piece} (hb : quote ≠ '\\')
    (h : ∀ p ∈ pieces, p.GoesOn quote) : quotedContent? quote (spelled pieces ++ [quote]) =
      some (meant pieces, (spelled pieces ++ [quote]).length) := by
  rw [quotedContent?_spelled h, quotedContent?_close hb]
  simp

/-- What stands behind an opening quote: pieces that leave the string open, and then the end of the
text, a backslash at the end of the text, or the quote. -/
theorem exists_pieces (quote : Char) (text : List Char) : ∃ pieces tail,
    (∀ p ∈ pieces, Piece.GoesOn quote p) ∧ text = spelled pieces ++ tail ∧
      ((tail = [] ∨ tail = ['\\']) ∨ ∃ rest, tail = quote :: rest) := by
  fun_induction quotedContent? quote text with
  | case1 => exact ⟨[], [], by simp, rfl, .inl (.inl rfl)⟩
  | case2 c rest ih =>
    obtain ⟨pieces, tail, hpieces, rfl, htail⟩ := ih
    exact ⟨.pair c :: pieces, tail, List.forall_mem_cons.2 ⟨trivial, hpieces⟩, rfl, htail⟩
  | case3 rest => exact ⟨[], quote :: rest, by simp, rfl, .inr ⟨rest, rfl⟩⟩
  | case4 c rest hnot hne ih =>
    by_cases hc : c = '\\'
    · subst hc
      cases rest with
      | nil => exact ⟨[], ['\\'], by simp, rfl, .inl (.inr rfl)⟩
      | cons d rest => exact absurd rfl (hnot d rest rfl)
    · obtain ⟨pieces, tail, hpieces, rfl, htail⟩ := ih
      exact ⟨.plain c :: pieces, tail, List.forall_mem_cons.2 ⟨⟨hne, hc⟩, hpieces⟩, rfl, htail⟩

/-- A quote that nothing closes has only pieces behind it, and a backslash at the end of the text at
most. -/
theorem exists_open {quote : Char} {text : List Char} (hb : quote ≠ '\\')
    (h : quotedContent? quote text = none) : ∃ pieces tail,
      (∀ p ∈ pieces, Piece.GoesOn quote p) ∧ text = spelled pieces ++ tail ∧ (tail = [] ∨ tail = ['\\']) := by
  obtain ⟨pieces, tail, hpieces, rfl, htail | ⟨rest, rfl⟩⟩ := exists_pieces quote text
  · exact ⟨pieces, tail, hpieces, rfl, htail⟩
  · rw [quotedContent?_spelled hpieces, quotedContent?_close hb] at h
    cases h

/-- What a quote closes is pieces and the quote, and its content is what the pieces stand for. -/
theorem exists_closed {quote : Char} {inner content : List Char} (hb : quote ≠ '\\')
    (h : quotedContent? quote inner = some (content, inner.length)) : ∃ pieces,
      (∀ p ∈ pieces, Piece.GoesOn quote p) ∧ inner = spelled pieces ++ [quote] ∧ content = meant pieces := by
  obtain ⟨pieces, tail, hpieces, rfl, (rfl | rfl) | ⟨rest, rfl⟩⟩ := exists_pieces quote inner
  · rw [quotedContent?_spelled hpieces, quotedContent?] at h
    cases h
  · have hnone : quotedContent? quote ['\\'] = none := quotedContent?_of_not_mem (by simpa using hb)
    rw [quotedContent?_spelled hpieces, hnone] at h
    cases h
  · rw [quotedContent?_spelled hpieces, quotedContent?_close hb] at h
    obtain ⟨hcontent, hlength⟩ := Prod.mk.inj (Option.some.inj h)
    have hrest : rest = [] := by
      rw [List.length_append, List.length_cons] at hlength
      exact List.eq_nil_of_length_eq_zero (by omega)
    subst hrest
    exact ⟨pieces, hpieces, rfl, by simpa using hcontent.symm⟩

end Lexeme

namespace Token

open Lexeme

/-! ## Spans -/

/-- The part of a text from one offset up to another. -/
structure Span where
  start : Nat
  stop : Nat

/-- A word, and a character behind it that it does not go on with. -/
def IsWord (spelling : List Char) (next : Option Char) : Prop :=
  (∃ first tail, spelling = first :: tail ∧ startsWord first = true ∧ ∀ d ∈ tail, continuesWord d = true) ∧
    ∀ d ∈ next, continuesWord d = false

/-- Digits, with one point behind the first of them at most, and a character behind them that they do
not go on with. -/
def IsNumber (spelling : List Char) (next : Option Char) : Prop :=
  ∃ first run fraction, spelling = first :: (run ++ pointed fraction) ∧
    (∀ d ∈ first :: run, isDigit d = true) ∧ (∀ f ∈ fraction, ∀ d ∈ f, isDigit d = true) ∧
      ∀ d ∈ next, isDigit d = false ∧ (fraction = none → d ≠ '.')

/-- Two quotes of one kind with nothing between them that closes the first, and what is between them
means. -/
def IsQuotation (text : String) (spelling : List Char) : Prop :=
  ∃ quote pieces, isQuote quote = true ∧ (∀ p ∈ pieces, Piece.GoesOn quote p) ∧
    spelling = quote :: (spelled pieces ++ [quote]) ∧ text = String.ofList (meant pieces)

/-- What is written where a token of some kind stands, and what does not stand behind it. All tokens
but strings stand for what is written. -/
def Reads (text : String) (spelling : List Char) (next : Option Char) : Kind → Prop
  | .endOfText => False
  | .identifier => text = String.ofList spelling ∧ IsWord spelling next ∧ text ∉ ["true", "false", "null"]
  | .keyword => text = String.ofList spelling ∧ IsWord spelling next ∧ text ∈ ["true", "false", "null"]
  | .number => text = String.ofList spelling ∧ IsNumber spelling next
  | .string => IsQuotation text spelling
  | .arrow => text = String.ofList spelling ∧ spelling = ['-', '>']
  | .minus => text = String.ofList spelling ∧ spelling = ['-'] ∧ next ≠ some '>'
  | kind => text = String.ofList spelling ∧ ∃ c, spelling = [c] ∧ (c, kind) ∈ signs

/-- A token stands in a span of a text. -/
structure Stands (text : List Char) (t : Token) (s : Span) : Prop where
  start_eq : s.start = t.position
  start_lt : s.start < s.stop
  stop_le : s.stop ≤ text.length
  reads : Reads t.text (text.extract s.start s.stop) text[s.stop]? t.kind

/-- From an offset on, tokens stand in spans of a text, one behind the other, with only blanks outside
of them. -/
structure Tiles (text : List Char) (start : Nat) (tokens : List Token) (spans : List Span) : Prop where
  stands : List.Forall₂ (Stands text) tokens spans
  ordered : spans.Pairwise (·.stop ≤ ·.start)
  start_le : ∀ s ∈ spans, start ≤ s.start
  blank : ∀ i c, start ≤ i → text[i]? = some c → (∀ s ∈ spans, ¬(s.start ≤ i ∧ i < s.stop)) → isBlank c = true

/-! ## What is read as a lexeme -/

/-- What is read as a lexeme is what its token reads. -/
theorem reads_of_written {x : Lexeme} {spelling rest : List Char} (h : Written x spelling rest) :
    Reads x.text spelling rest.head? x.kind := by
  cases h with
  | @word c tail _ hc ht hr =>
    have hword : IsWord (c :: tail) rest.head? := ⟨⟨c, tail, rfl, hc, ht⟩, hr⟩
    by_cases hk : String.ofList (c :: tail) ∈ keywords
    · rw [kindOfWord, if_pos (List.contains_iff_mem.2 hk)]
      exact ⟨rfl, hword, hk⟩
    · rw [kindOfWord, if_neg (by simpa using hk)]
      exact ⟨rfl, hword, hk⟩
  | @number c run fraction _ hc hrun hf hr =>
    exact ⟨rfl, c, run, fraction, rfl, List.forall_mem_cons.2 ⟨hc, hrun⟩, hf, hr⟩
  | @string quote inner content _ hq hinner =>
    obtain ⟨pieces, hpieces, rfl, rfl⟩ := exists_closed (ne_backslash hq) hinner
    exact ⟨quote, pieces, hq, hpieces, rfl, rfl⟩
  | arrow => exact ⟨rfl, rfl⟩
  | @sign c kind _ hk hr =>
    have htext : String.singleton c = String.ofList [c] := String.singleton_eq_ofList
    have hsign := mem_signs_iff.2 hk
    unfold kindOfChar? at hk
    split at hk <;> cases hk
    all_goals first | exact ⟨htext, _, rfl, hsign⟩ | exact ⟨htext, rfl, hr rfl⟩

/-! ## From spans to texts -/

theorem Tiles.nil (front : List Char) : Tiles front front.length [] [] where
  stands := .nil
  ordered := .nil
  start_le := by simp
  blank i c hi hc _ := by
    rw [List.getElem?_eq_none hi] at hc
    cases hc

/-- Blanks in front of the first span are outside of all of them. -/
theorem Tiles.cons_blank {front rest : List Char} {c : Char} {tokens : List Token} {spans : List Span}
    (hb : isBlank c = true) (h : Tiles (front ++ c :: rest) (front.length + 1) tokens spans) :
    Tiles (front ++ c :: rest) front.length tokens spans where
  stands := h.stands
  ordered := h.ordered
  start_le s hs := Nat.le_of_succ_le (h.start_le s hs)
  blank i d hi hd hout := by
    rcases Nat.eq_or_lt_of_le hi with rfl | hi
    · rw [List.getElem?_append_right (Nat.le_refl _), Nat.sub_self, List.getElem?_cons_zero] at hd
      cases hd
      exact hb
    · exact h.blank i d hi hd hout

/-- A token in front of others takes up the span in front of theirs. -/
theorem Tiles.cons {front spelling rest : List Char} {t : Token} {tokens : List Token} {spans : List Span}
    (hne : spelling ≠ []) (hposition : t.position = front.length) (ht : Reads t.text spelling rest.head? t.kind)
    (h : Tiles (front ++ (spelling ++ rest)) (front.length + spelling.length) tokens spans) :
    Tiles (front ++ (spelling ++ rest)) front.length (t :: tokens)
      (⟨front.length, front.length + spelling.length⟩ :: spans) := by
  have hlength : 0 < spelling.length := List.length_pos_iff.2 hne
  have hspan : (front ++ (spelling ++ rest)).extract front.length (front.length + spelling.length) = spelling := by
    simp [List.extract]
  have hnext : (front ++ (spelling ++ rest))[front.length + spelling.length]? = rest.head? := by
    simp [List.getElem?_append_right, List.head?_eq_getElem?]
  refine ⟨.cons ⟨hposition.symm, ?_, ?_, ?_⟩ h.stands, List.pairwise_cons.2 ⟨h.start_le, h.ordered⟩, ?_, ?_⟩
  · dsimp only
    omega
  · simp only [List.length_append]
    omega
  · rw [hspan, hnext]
    exact ht
  · refine List.forall_mem_cons.2 ⟨Nat.le_refl _, fun s hs => ?_⟩
    have := h.start_le s hs
    omega
  · intro i c hi hc hout
    obtain ⟨hfirst, hothers⟩ := List.forall_mem_cons.1 hout
    dsimp only at hfirst
    exact h.blank i c (by omega) hc hothers

/-- The tokens that are scanned behind a part of a text stand in spans behind it. -/
theorem exists_tiles {front rest : List Char} {tokens : List Token} (h : scan front.length rest = .ok tokens) :
    ∃ spans, Tiles (front ++ rest) front.length tokens spans := by
  induction rest using scan_induction generalizing front tokens with
  | nil =>
    rw [scan_nil] at h
    cases h
    rw [List.append_nil]
    exact ⟨[], .nil front⟩
  | blank c rest hb ih =>
    have hlength : front.length + 1 = (front ++ [c]).length := by simp
    rw [scan_blank hb, hlength] at h
    obtain ⟨spans, hspans⟩ := ih h
    rw [← hlength, List.append_assoc] at hspans
    exact ⟨spans, hspans.cons_blank hb⟩
  | unreadable c rest cause hb hcause =>
    rw [scan_of_error hb hcause] at h
    cases h
  | lexeme c tail rest x hb hx ih =>
    rw [Lexeme.scan_spelled hx.spells, ← List.length_append] at h
    obtain ⟨more, hmore, rfl⟩ := map_eq_ok_iff.1 h
    obtain ⟨spans, hspans⟩ := ih hmore
    rw [List.append_assoc, List.length_append] at hspans
    exact ⟨_, hspans.cons (by simp) rfl (reads_of_written hx)⟩

/-- Spans that do not overlap are no more than the characters they are in. -/
theorem Tiles.length_le {text : List Char} {start : Nat} {tokens : List Token} {spans : List Span}
    (h : Tiles text start tokens spans) (hs : start ≤ text.length) : tokens.length + start ≤ text.length := by
  obtain ⟨hstands, hordered, hstart, -⟩ := h
  induction hstands generalizing start with
  | nil => simpa using hs
  | @cons t s tokens spans hts _ ih =>
    obtain ⟨hbehind, hordered⟩ := List.pairwise_cons.1 hordered
    have hcount := ih hts.stop_le hordered hbehind
    have hlt := hts.start_lt
    have hle := hstart s (List.mem_cons_self ..)
    rw [List.length_cons]
    omega

/-- **Where tokens stand.** If a text has tokens, all but the last of them stand in spans of the text,
in order and with only blanks outside of them. The last is the end of the text, which is none of the
others. So there is at most one token more than there are characters. -/
theorem tokenize_tiles {text : List Char} {tokens : List Token} (h : tokenize text = .ok tokens) :
    ∃ inner spans, tokens = inner ++ [atEnd text.length] ∧ Tiles text 0 inner spans ∧
      (∀ t ∈ inner, t.kind ≠ .endOfText) ∧ tokens.length ≤ text.length + 1 := by
  obtain ⟨inner, hscan, rfl⟩ := exists_scan_of_tokenize h
  have hfront : scan ([] : List Char).length text = .ok inner := hscan
  obtain ⟨spans, hspans⟩ := exists_tiles hfront
  have hcount := hspans.length_le (Nat.zero_le _)
  refine ⟨inner, spans, rfl, hspans, kind_of_mem_scan hscan, ?_⟩
  simpa using hcount

/-- An arrow behind a word, a string with a backslash at its end, and a number with its point at the end. -/
theorem tokenize_tiles_backslash : ∃ text tokens inner spans, tokenize text = .ok tokens ∧
    tokens = inner ++ [atEnd text.length] ∧ Tiles text 0 inner spans ∧ inner.length = 4 := by
  have h : tokenize "x->'a\\\\' 1.".toList =
      .ok [⟨.identifier, "x", 0⟩, ⟨.arrow, "->", 1⟩, ⟨.string, "a\\", 3⟩, ⟨.number, "1.", 9⟩, atEnd 11] := by
    decide +kernel
  obtain ⟨inner, spans, hinner, hspans, -⟩ := tokenize_tiles h
  have hlength := congrArg List.length hinner
  rw [List.length_append, List.length_singleton] at hlength
  exact ⟨_, _, inner, spans, h, hinner, hspans, (Nat.succ.inj hlength).symm⟩

end Token

end SceneLang
