/-
Where a text stops being tokens.

A text that has no tokens is tokens up to the offset of the error. There stands a character that
starts no token, and then nothing behind it changes the error; or a quote that nothing closes, and
then closing it adds the one token that was missing.

* `Token.exists_stop`: up to an error, what is scanned depends on nothing behind it.
* `Token.tokenize_error`: the error of a text that has no tokens.
-/
import SceneLang.Proofs.Spans

namespace SceneLang

open Text Token
open Lexeme (Written Unreadable Piece spelled meant)

/-- The character that an error is about. -/
def LexError.character (e : LexError) : Char :=
  match e.cause with
  | .unexpected c => c
  | .unterminated quote => quote

namespace Token

/-- The error of a text is that a character starts no token. Whatever stands behind the character, the
error is the same. -/
structure Unexpected (text : List Char) (e : LexError) : Prop where
  cause_eq : e.cause = .unexpected e.character
  not_startsWord : startsWord e.character = false
  not_isDigit : isDigit e.character = false
  not_isQuote : isQuote e.character = false
  not_sign : ∀ kind, (e.character, kind) ∉ signs
  stays : ∀ more, tokenize (text.take (e.position + 1) ++ more) = .error e

/-- The error of a text is that a quote is not closed. No such quote stands behind it but behind a
backslash; unless the text ends within an escape, one more quote makes a string of it, the last token
behind those that stand before it. -/
structure Unterminated (text : List Char) (e : LexError) (before : List Token) : Prop where
  cause_eq : e.cause = .unterminated e.character
  isQuote : isQuote e.character = true
  goesOn : ∃ pieces tail, (∀ p ∈ pieces, Piece.GoesOn e.character p) ∧
    text.drop (e.position + 1) = spelled pieces ++ tail ∧ (tail = [] ∨ tail = ['\\']) ∧
      (tail = [] → tokenize (text ++ [e.character]) =
        .ok (before ++ [⟨.string, String.ofList (meant pieces), e.position⟩, atEnd (text.length + 1)]))

/-- The beginning of a text is scanned as the same tokens in front of every text that begins with a
character or is empty. -/
def Settled (position : Nat) (front : List Char) (c : Char) (before : List Token) : Prop :=
  ∀ other, (∀ d ∈ other.head?, d = c) →
    scan position (front ++ other) = (scan (position + front.length) other).map (before ++ ·)

/-- Where a scan stops, what stands before is settled. -/
theorem exists_stop {position : Nat} {text : List Char} {e : LexError} (h : scan position text = .error e) :
    ∃ front c rest before, text = front ++ c :: rest ∧ e.position = position + front.length ∧
      isBlank c = false ∧ Unreadable e.cause c rest ∧ Settled position front c before := by
  induction text using scan_induction generalizing position with
  | nil =>
    rw [scan_nil] at h
    cases h
  | blank c rest hb ih =>
    rw [scan_blank hb] at h
    obtain ⟨front, d, rest, before, rfl, hposition, hd, hcause, hfront⟩ := ih h
    refine ⟨c :: front, d, rest, before, rfl, ?_, hd, hcause, fun other ho => ?_⟩
    · rw [hposition, List.length_cons]
      omega
    · rw [List.cons_append, scan_blank hb, hfront other ho, List.length_cons, Nat.add_right_comm, Nat.add_assoc]
  | unreadable c rest cause hb hcause =>
    rw [scan_of_error hb hcause] at h
    cases h
    refine ⟨[], c, rest, [], rfl, rfl, hb, Lexeme.read_eq_error_iff.1 hcause, fun other _ => ?_⟩
    simp only [List.nil_append, List.length_nil, Nat.add_zero]
    cases scan position other <;> rfl
  | lexeme c tail rest x hb hx ih =>
    rw [Lexeme.scan_spelled hx.spells] at h
    obtain ⟨front, d, rest, before, rfl, hposition, hd, hcause, hfront⟩ := ih (map_eq_error_iff.1 h)
    refine ⟨c :: tail ++ front, d, rest, ⟨x.kind, x.text, position⟩ :: before, by simp, ?_, hd, hcause,
      fun other ho => ?_⟩
    · rw [hposition, List.length_append, Nat.add_assoc]
    · -- what stands behind the lexeme begins as before
      have hbefore : Written x (c :: tail) (front ++ other) := by
        refine hx.before fun a ha => ?_
        cases front with
        | nil => exact .inl (by rw [ho a ha]; rfl)
        | cons f front => exact .inl ha
      rw [List.append_assoc, Lexeme.scan_spelled hbefore.spells, hfront other ho, List.length_append, ← Nat.add_assoc]
      cases scan (position + (c :: tail).length + front.length) other <;> rfl

variable {front rest : List Char} {c : Char} {before : List Token}

theorem tokenize_of_settled (h : Settled 0 front c before) :
    tokenize front = .ok (before ++ [atEnd front.length]) := by
  have hempty := h [] (by simp)
  rw [List.append_nil, scan_nil] at hempty
  rw [tokenize_of_scan hempty]
  simp

theorem unexpected_of_settled (h : Settled 0 front c before) (hb : isBlank c = false)
    (hc : Unreadable (.unexpected c) c rest) :
    Unexpected (front ++ c :: rest) ⟨.unexpected c, front.length⟩ := by
  cases hc with
  | unexpected hw hd hq hk =>
    have hsign : ∀ kind, (c, kind) ∉ signs := fun kind hm => by simp [mem_signs_iff.1 hm] at hk
    refine ⟨rfl, hw, hd, hq, hsign, fun more => ?_⟩
    have htake : (front ++ c :: rest).take (front.length + 1) ++ more = front ++ c :: more := by
      rw [List.append_cons, List.take_left' (by simp), ← List.append_cons]
    have hagain := h (c :: more) (by simp)
    rw [scan_of_error hb (Lexeme.read_eq_error_iff.2 (.unexpected hw hd hq hk)), Nat.zero_add] at hagain
    rw [htake, tokenize_of_scan_error hagain]

/-- One more quote of the kind that is open makes a string of all that stands behind the first. -/
theorem scan_closed {quote : Char} {pieces : List Piece} (hq : Token.isQuote quote = true)
    (h : ∀ p ∈ pieces, p.GoesOn quote) (position : Nat) :
    scan position (quote :: (spelled pieces ++ [quote])) =
      .ok [⟨.string, String.ofList (meant pieces), position⟩] := by
  have hwritten : Written _ (quote :: (spelled pieces ++ [quote])) [] :=
    .string hq (Lexeme.quotedContent?_closed (Lexeme.ne_backslash hq) h)
  have hscan := Lexeme.scan_spelled hwritten.spells position
  rw [List.append_nil, scan_nil] at hscan
  exact hscan

theorem unterminated_of_settled (h : Settled 0 front c before) (hc : Unreadable (.unterminated c) c rest) :
    Unterminated (front ++ c :: rest) ⟨.unterminated c, front.length⟩ before := by
  cases hc with
  | unterminated hq hs =>
    obtain ⟨pieces, tail, hpieces, rfl, htail⟩ := Lexeme.exists_open (Lexeme.ne_backslash hq) hs
    refine ⟨rfl, hq, pieces, tail, hpieces, by simp, htail, ?_⟩
    rintro rfl
    have htext : front ++ c :: (spelled pieces ++ []) ++ [c] = front ++ c :: (spelled pieces ++ [c]) := by simp
    have hclosed := h (c :: (spelled pieces ++ [c])) (by simp)
    rw [scan_closed hq hpieces, Nat.zero_add] at hclosed
    simp only [LexError.character]
    rw [htext, tokenize_of_scan hclosed]
    simp [Nat.add_assoc]

/-- **Where a text stops being tokens.** If a text has no tokens, the error is at one of its characters,
which is not blank, and the text up to it has tokens. The character starts no token, or it is a quote
that is not closed. -/
theorem tokenize_error {text : List Char} {e : LexError} (h : tokenize text = .error e) :
    text[e.position]? = some e.character ∧ isBlank e.character = false ∧
      ∃ before, tokenize (text.take e.position) = .ok (before ++ [atEnd e.position]) ∧
        (Unexpected text e ∨ Unterminated text e before) := by
  obtain ⟨front, c, rest, before, rfl, hposition, hb, hcause, hfront⟩ := exists_stop (scan_of_tokenize_error h)
  obtain ⟨cause, position⟩ := e
  rw [Nat.zero_add] at hposition
  dsimp only at hposition hcause
  subst hposition
  have hbefore : tokenize ((front ++ c :: rest).take front.length) = .ok (before ++ [atEnd front.length]) := by
    rw [List.take_left, tokenize_of_settled hfront]
  have hat : (front ++ c :: rest)[front.length]? = some c := by simp
  cases hcause with
  | unexpected hw hd hq hk =>
    exact ⟨hat, hb, before, hbefore, .inl (unexpected_of_settled hfront hb (.unexpected hw hd hq hk))⟩
  | unterminated hq hs =>
    exact ⟨hat, hb, before, hbefore, .inr (unterminated_of_settled hfront (.unterminated hq hs))⟩

/-- A quote with an escaped one behind it, and a character that starts no token. -/
theorem tokenize_error_escaped :
    (∃ text e before, tokenize text = .error e ∧ Unterminated text e before ∧ e.position = 2) ∧
      ∃ text e, tokenize text = .error e ∧ Unexpected text e ∧ e.position = 4 := by
  have hquote : tokenize "f('a\\'".toList = .error ⟨.unterminated '\x27', 2⟩ := by decide +kernel
  have hdot : tokenize "1.2 .3".toList = .error ⟨.unexpected '.', 4⟩ := by decide +kernel
  refine ⟨?_, ?_⟩
  · obtain ⟨-, -, before, -, hunexpected | hopen⟩ := tokenize_error hquote
    · cases hunexpected.cause_eq
    · exact ⟨_, _, before, hquote, hopen, rfl⟩
  · obtain ⟨-, -, before, -, hunexpected | hopen⟩ := tokenize_error hdot
    · exact ⟨_, _, hdot, hunexpected, rfl⟩
    · cases hopen.cause_eq

end Token

end SceneLang
