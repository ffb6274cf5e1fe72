/-
Statements and tokens end at the same places.

The statements of a text are cut off by a state that knows quotes and backslashes and nothing of
tokens. Where the text has tokens, each statement has those between two semicolons, counted from
its own start; where it has none, one of the statements has none either.

* `cut_of_written`: no lexeme but the semicolon is cut, and none leaves a quote open.
* `scanEach_cut`: scanning the pieces of a text, each where it stands, is scanning the text.
* `tokenize_split`: the statements of a text are the groups of tokens between its semicolons.
-/
import Mathlib.Data.List.Forall2
import SceneLang.Proofs.Lexemes
import SceneLang.Statement

namespace SceneLang

/-- Whether a token stands between two statements. -/
def Token.separates (t : Token) : Bool := t.kind = .semicolon

open Text Token
open Lexeme (Written Unreadable)

namespace Statement

/-! ## Lexemes are not cut -/

/-- Characters in front of a text go to its first piece. -/
theorem foldr_consFirst (spelling first : List Char) (others : List (List Char)) :
    spelling.foldr consFirst (first :: others) = (spelling ++ first) :: others := by
  induction spelling with
  | nil => rfl
  | cons c spelling ih => rw [List.foldr_cons, ih, List.cons_append, consFirst]

theorem exists_cut (state : Quoting) (text : List Char) :
    ∃ first others, cut state text = first :: others :=
  List.exists_cons_of_ne_nil (cut_ne_nil state text)

/-- The first piece begins as the text does, unless it is empty. -/
theorem head?_of_cut {text first : List Char} {others : List (List Char)}
    (h : cut .outside text = first :: others) : ∀ c ∈ first.head?, c ∈ text.head? := by
  intro c hc
  cases text with
  | nil =>
    cases h
    cases hc
  | cons d rest =>
    rw [cut] at h
    split at h
    · cases h
      cases hc
    · obtain ⟨first', others', hcut⟩ := exists_cut (Quoting.outside.next d) rest
      rw [hcut, consFirst] at h
      cases h
      exact hc

/-- A character that neither opens a quote nor separates statements. -/
def Plain (c : Char) : Prop := isQuote c = false ∧ c ≠ separator

/-- A class of characters is plain if the three that are not are outside it. -/
theorem plain_of_class {p : Char → Bool} (hdouble : p '"' = false) (hsingle : p '\x27' = false)
    (hseparator : p separator = false) {c : Char} (h : p c = true) : Plain c := by
  constructor
  · rw [Bool.eq_false_iff]
    intro hq
    rcases isQuote_iff.1 hq with rfl | rfl
    · rw [hdouble] at h; cases h
    · rw [hsingle] at h; cases h
  · rintro rfl
    rw [hseparator] at h
    cases h

theorem plain_of_isBlank {c : Char} (h : isBlank c = true) : Plain c :=
  plain_of_class (by decide) (by decide) (by decide) h

theorem plain_of_continuesWord {c : Char} (h : continuesWord c = true) : Plain c :=
  plain_of_class (by decide) (by decide) (by decide) h

theorem plain_of_isDigit {c : Char} (h : isDigit c = true) : Plain c :=
  plain_of_class (by decide) (by decide) (by decide) h

theorem cut_separator (rest : List Char) : cut .outside (separator :: rest) = [] :: cut .outside rest := by
  simp [cut]

theorem cut_plain {c : Char} (h : Plain c) (rest : List Char) :
    cut .outside (c :: rest) = consFirst c (cut .outside rest) := by
  simp [cut, Quoting.next, h.1, h.2]

theorem cut_quote {quote : Char} (hq : isQuote quote = true) (rest : List Char) :
    cut .outside (quote :: rest) = consFirst quote (cut (.inside quote) rest) := by
  have hs : quote ≠ separator := by rcases isQuote_iff.1 hq with rfl | rfl <;> decide
  simp [cut, Quoting.next, hq, hs]

/-- Behind an opening quote nothing is cut up to the quote that closes it, if there is one. -/
theorem cut_inside {quote : Char} (hb : quote ≠ '\\') (text : List Char) :
    cut (.inside quote) text =
      match Lexeme.quotedContent? quote text with
      | none => [text]
      | some (_, width) => (text.take width).foldr consFirst (cut .outside (text.drop width)) := by
  fun_induction Lexeme.quotedContent? quote text with
  | case1 => rfl
  | case2 c rest ih =>
    simp only [cut, Quoting.next, reduceCtorEq, false_and, if_false, if_true, ih]
    cases Lexeme.quotedContent? quote rest <;> rfl
  | case3 rest =>
    simp [cut, Quoting.next, hb]
  | case4 c rest hnot hne ih =>
    by_cases hc : c = '\\'
    · subst hc
      cases rest with
      | nil => rfl
      | cons d rest => exact absurd rfl (hnot d rest rfl)
    · simp only [cut, Quoting.next, reduceCtorEq, false_and, if_false, hc, hne, ih]
      cases Lexeme.quotedContent? quote rest <;> rfl

theorem cut_append_of_plain {spelling : List Char} (h : ∀ c ∈ spelling, Plain c) (rest : List Char) :
    cut .outside (spelling ++ rest) = spelling.foldr consFirst (cut .outside rest) := by
  induction spelling with
  | nil => rfl
  | cons c spelling ih =>
    rw [List.forall_mem_cons] at h
    rw [List.cons_append, cut_plain h.1, ih h.2, List.foldr_cons]

/-- All lexemes but strings and the semicolon are written with plain characters. -/
theorem plain_of_written {x : Lexeme} {spelling rest : List Char} (h : Written x spelling rest)
    (hstring : x.kind ≠ .string) (hx : x.kind ≠ .semicolon) : ∀ c ∈ spelling, Plain c := by
  cases h with
  | word hc ht _ =>
    refine List.forall_mem_cons.2 ⟨?_, fun d hd => plain_of_continuesWord (ht d hd)⟩
    exact plain_of_continuesWord (by simp [continuesWord, hc])
  | number hc hrun hf _ =>
    refine List.forall_mem_cons.2 ⟨plain_of_isDigit hc, Lexeme.forall_mem_pointed ?_ ?_ ?_⟩
    · exact fun d hd => plain_of_isDigit (hrun d hd)
    · exact ⟨by decide, by decide⟩
    · exact fun f hm d hd => plain_of_isDigit (hf f hm d hd)
  | string => exact absurd rfl hstring
  | arrow =>
    intro c hc
    rcases List.mem_pair.1 hc with rfl | rfl <;> exact ⟨by decide, by decide⟩
  | sign hk _ =>
    refine List.forall_mem_singleton.2 ⟨(class_of_kindOfChar hk).2.2.2, ?_⟩
    rintro rfl
    cases hk
    exact hx rfl

/-- A string is written with a quote in front and what that quote closes. -/
theorem spelling_of_string {x : Lexeme} {spelling rest : List Char} (h : Written x spelling rest)
    (hx : x.kind = .string) : ∃ quote inner content, isQuote quote = true ∧ spelling = quote :: inner ∧
      Lexeme.quotedContent? quote inner = some (content, inner.length) := by
  cases h with
  | string hq hinner => exact ⟨_, _, _, hq, rfl, hinner⟩
  | word =>
    exfalso
    revert hx
    unfold kindOfWord
    split <;> simp
  | number | arrow => cases hx
  | @sign c kind _ hk _ =>
    exfalso
    have hkind : kind = .string := hx
    subst hkind
    unfold kindOfChar? at hk
    split at hk <;> cases hk

/-- Only a semicolon is cut, and behind any other lexeme no quote is open. -/
theorem cut_of_written {x : Lexeme} {spelling rest : List Char} (h : Written x spelling rest)
    (hx : x.kind ≠ .semicolon) :
    cut .outside (spelling ++ rest) = spelling.foldr consFirst (cut .outside rest) := by
  by_cases hstring : x.kind = .string
  · obtain ⟨quote, inner, content, hq, rfl, hinner⟩ := spelling_of_string h hstring
    have hb := Lexeme.ne_backslash hq
    rw [List.cons_append, cut_quote hq, cut_inside hb, Lexeme.quotedContent?_append hb hinner]
    simp
  · exact cut_append_of_plain (plain_of_written h hstring hx) _

/-- A semicolon is written with the separator alone. -/
theorem spelling_of_semicolon {x : Lexeme} {spelling rest : List Char} (h : Written x spelling rest)
    (hx : x.kind = .semicolon) : spelling = [separator] := by
  cases h with
  | word =>
    exfalso
    revert hx
    unfold kindOfWord
    split <;> simp
  | number | string | arrow => cases hx
  | @sign c kind _ hk _ =>
    have hkind : kind = .semicolon := hx
    subst hkind
    unfold kindOfChar? at hk
    split at hk <;> first | rfl | cases hk

/-- What cannot be read stays at the head of a piece, and cannot be read there either. -/
theorem exists_cut_of_unreadable {cause : LexError.Cause} {c : Char} {rest : List Char}
    (h : Unreadable cause c rest) :
    ∃ first others, cut .outside (c :: rest) = (c :: first) :: others ∧ Unreadable cause c first := by
  cases h with
  | unterminated hq hs =>
    refine ⟨rest, [], ?_, .unterminated hq hs⟩
    rw [cut_quote hq, cut_inside (Lexeme.ne_backslash hq), hs]
    rfl
  | unexpected hw hd hq hk =>
    have hc : Plain c := by
      refine ⟨hq, ?_⟩
      rintro rfl
      cases hk
    obtain ⟨first, others, hcut⟩ := exists_cut .outside rest
    refine ⟨first, others, ?_, .unexpected hw hd hq hk⟩
    rw [cut_plain hc, hcut, consFirst]

/-! ## Scanning piece by piece -/

/-- The tokens of pieces of a text, the first piece at a position and a separator behind each. -/
def scanEach : Nat → List (List Char) → Except LexError (List (List Token))
  | _, [] => .ok []
  | position, piece :: pieces =>
    match scan position piece with
    | .error e => .error e
    | .ok tokens => (scanEach (position + piece.length + 1) pieces).map (tokens :: ·)

theorem scanEach_cons_of_ok {position : Nat} {piece : List Char} {tokens : List Token}
    (h : scan position piece = .ok tokens) (pieces : List (List Char)) :
    scanEach position (piece :: pieces) =
      (scanEach (position + piece.length + 1) pieces).map (tokens :: ·) := by
  rw [scanEach, h]

theorem scanEach_cons_of_error {position : Nat} {piece : List Char} {e : LexError}
    (h : scan position piece = .error e) (pieces : List (List Char)) :
    scanEach position (piece :: pieces) = .error e := by
  rw [scanEach, h]

theorem scanEach_blank {c : Char} (hb : isBlank c = true) (position : Nat) (first : List Char)
    (others : List (List Char)) :
    scanEach position ((c :: first) :: others) = scanEach (position + 1) (first :: others) := by
  have hbehind : position + (first.length + 1) + 1 = position + 1 + first.length + 1 := by omega
  rw [scanEach, scanEach, scan_blank hb, List.length_cons, hbehind]

/-- A lexeme in front of the pieces makes a token in front of the first group. -/
theorem scanEach_written {x : Lexeme} {spelling first : List Char} (hx : Written x spelling first)
    (position : Nat) (others : List (List Char)) :
    scanEach position ((spelling ++ first) :: others) =
      (scanEach (position + spelling.length) (first :: others)).map
        (List.modifyHead (⟨x.kind, x.text, position⟩ :: ·)) := by
  rw [scanEach, scanEach, Lexeme.scan_spelled hx.spells, List.length_append, ← Nat.add_assoc]
  cases scan (position + spelling.length) first with
  | error e => rfl
  | ok tokens => cases scanEach (position + spelling.length + first.length + 1) others <;> rfl

theorem splitOnP_of_separates {t : Token} (h : t.separates = true) (tokens : List Token) :
    (t :: tokens).splitOnP Token.separates = [] :: tokens.splitOnP Token.separates := by
  rw [List.splitOnP_cons_eq_if_modifyHead, if_pos h]

theorem splitOnP_of_not_separates {t : Token} (h : t.separates = false) (tokens : List Token) :
    (t :: tokens).splitOnP Token.separates = (tokens.splitOnP Token.separates).modifyHead (t :: ·) := by
  rw [List.splitOnP_cons_eq_if_modifyHead, if_neg (by simp [h])]

/-- Scanning the pieces of a text, each where it stands, is scanning the text: with the same error, or
with the tokens between the semicolons. -/
theorem scanEach_cut (position : Nat) (text : List Char) :
    scanEach position (cut .outside text) = (scan position text).map (List.splitOnP Token.separates) := by
  induction text using scan_induction generalizing position with
  | nil =>
    rw [cut, scanEach_cons_of_ok (scan_nil position), scan_nil]
    rfl
  | blank c rest hb ih =>
    obtain ⟨first, others, hcut⟩ := exists_cut .outside rest
    rw [scan_blank hb, ← ih, cut_plain (plain_of_isBlank hb), hcut, consFirst, scanEach_blank hb]
  | unreadable c rest cause hb h =>
    obtain ⟨first, others, hcut, hfirst⟩ := exists_cut_of_unreadable (Lexeme.read_eq_error_iff.1 h)
    have hscan := scan_of_error hb (Lexeme.read_eq_error_iff.2 hfirst) position
    rw [hcut, scanEach_cons_of_error hscan, scan_of_error hb h]
    rfl
  | lexeme c tail rest x hb hx ih =>
    rw [Lexeme.scan_spelled hx.spells]
    by_cases hk : x.kind = .semicolon
    · have hspelling := spelling_of_semicolon hx hk
      rw [hspelling, List.singleton_append, cut_separator, scanEach_cons_of_ok (scan_nil position)]
      rw [List.length_nil, Nat.add_zero, List.length_singleton, ih]
      cases scan (position + 1) rest with
      | error e => rfl
      | ok tokens =>
        have hsep : Token.separates ⟨x.kind, x.text, position⟩ = true := decide_eq_true hk
        exact congrArg Except.ok (splitOnP_of_separates hsep tokens).symm
    · obtain ⟨first, others, hcut⟩ := exists_cut .outside rest
      have hfirst : Written x (c :: tail) first := hx.before fun d hd => .inl (head?_of_cut hcut d hd)
      rw [cut_of_written hx hk, hcut, foldr_consFirst, scanEach_written hfirst, ← hcut, ih]
      cases scan (position + (c :: tail).length) rest with
      | error e => rfl
      | ok tokens =>
        have hsep : Token.separates ⟨x.kind, x.text, position⟩ = false := decide_eq_false hk
        exact congrArg Except.ok (splitOnP_of_not_separates hsep tokens).symm

/-! ## Groups of tokens and statements -/

/-- The tokens between two semicolons, wherever there are some. -/
def groups (tokens : List Token) : List (List Token) :=
  (tokens.splitOnP Token.separates).filter (!·.isEmpty)

/-- A statement has the tokens of a group, each counted from the first of them, and no more. -/
def ReadsAs (statement : List Char) (group : List Token) : Prop :=
  ∃ first tokens, group.head? = some first ∧
    tokenize statement = .ok (tokens ++ [atEnd statement.length]) ∧ group = tokens.map (·.moved first.position)

/-- If the pieces can be scanned, each of them without its blanks has the tokens of its group. -/
theorem forall₂_of_scanEach {position : Nat} {pieces : List (List Char)} {found : List (List Token)}
    (h : scanEach position pieces = .ok found) :
    List.Forall₂ (fun s group => ∃ start, scan start s = .ok group) (pieces.map trim) found := by
  fun_induction scanEach position pieces generalizing found with
  | case1 =>
    cases h
    exact .nil
  | case2 position piece pieces e hscan => cases h
  | case3 position piece pieces tokens hscan ih =>
    obtain ⟨more, hmore, rfl⟩ := map_eq_ok_iff.1 h
    obtain ⟨count, htrim⟩ := scan_trim position piece
    exact .cons ⟨position + count, htrim ▸ hscan⟩ (ih hmore)

/-- If they cannot, one of them without its blanks cannot either. -/
theorem exists_of_scanEach {position : Nat} {pieces : List (List Char)} {e : LexError}
    (h : scanEach position pieces = .error e) : ∃ s ∈ pieces.map trim, ∃ start, scan start s = .error e := by
  fun_induction scanEach position pieces with
  | case1 => cases h
  | case2 position piece pieces e' hscan =>
    cases h
    obtain ⟨count, htrim⟩ := scan_trim position piece
    exact ⟨trim piece, List.mem_cons_self .., position + count, htrim ▸ hscan⟩
  | case3 position piece pieces tokens hscan ih =>
    obtain ⟨s, hs, hfail⟩ := ih (map_eq_error_iff.1 h)
    exact ⟨s, List.mem_cons_of_mem _ hs, hfail⟩

/-- A text that does not begin with a blank has a token where it begins. -/
theorem exists_first {c : Char} {rest : List Char} {tokens : List Token} {position : Nat}
    (hb : isBlank c = false) (h : scan position (c :: rest) = .ok tokens) :
    ∃ first more, tokens = first :: more ∧ first.position = position := by
  cases hx : Lexeme.read c rest with
  | error cause =>
    rw [scan_of_error hb hx] at h
    cases h
  | ok x =>
    rw [scan_of_read hb hx] at h
    obtain ⟨more, -, rfl⟩ := map_eq_ok_iff.1 h
    exact ⟨_, more, rfl, rfl⟩

/-- A text that scans somewhere scans at the beginning, to tokens that were moved. -/
theorem exists_scan_zero {start : Nat} {s : List Char} {group : List Token} (h : scan start s = .ok group) :
    ∃ tokens, scan 0 s = .ok tokens ∧ group = tokens.map (·.moved start) := by
  have hadd := scan_add 0 start s
  rw [Nat.zero_add, h] at hadd
  cases hscan : scan 0 s with
  | error e =>
    rw [hscan] at hadd
    cases hadd
  | ok tokens =>
    rw [hscan] at hadd
    cases hadd
    exact ⟨tokens, rfl, rfl⟩

theorem exists_error_zero {start : Nat} {s : List Char} {e : LexError} (h : scan start s = .error e) :
    ∃ e', scan 0 s = .error e' := by
  have hadd := scan_add 0 start s
  rw [Nat.zero_add, h] at hadd
  cases hscan : scan 0 s with
  | error e' => exact ⟨e', rfl⟩
  | ok tokens =>
    rw [hscan] at hadd
    cases hadd

/-- A piece without its blanks is empty exactly if its group is, and has its tokens otherwise. -/
theorem readsAs_of_scan {piece : List Char} {group : List Token}
    (h : ∃ start, scan start (trim piece) = .ok group) :
    (trim piece = [] ↔ group = []) ∧ (trim piece ≠ [] → ReadsAs (trim piece) group) := by
  obtain ⟨start, hstart⟩ := h
  obtain ⟨before, behind, -, -, -, hhead⟩ := exists_trim piece
  cases htrim : trim piece with
  | nil =>
    rw [htrim, scan_nil] at hstart
    cases hstart
    simp
  | cons c rest =>
    rw [htrim] at hstart hhead
    obtain ⟨first, more, rfl, hfirst⟩ := exists_first (hhead c rfl) hstart
    obtain ⟨tokens, htokens, hmoved⟩ := exists_scan_zero hstart
    refine ⟨by simp, fun _ => ⟨first, tokens, rfl, ?_, ?_⟩⟩
    · rw [tokenize, htokens]
    · rw [hfirst, hmoved]

/-- The statements of a text that scans have the tokens of the groups, one by one. -/
theorem forall₂_readsAs {text : List Char} {tokens : List Token} (h : scan 0 text = .ok tokens) :
    List.Forall₂ ReadsAs (split text) (groups tokens) := by
  have hscan : scanEach 0 (cut .outside text) = .ok (tokens.splitOnP Token.separates) := by
    rw [scanEach_cut, h]
    rfl
  have hreads : List.Forall₂ (fun s group => (s = [] ↔ group = []) ∧ (s ≠ [] → ReadsAs s group))
      ((cut .outside text).map trim) (tokens.splitOnP Token.separates) := by
    rw [List.forall₂_map_left_iff]
    exact (List.forall₂_map_left_iff.1 (forall₂_of_scanEach hscan)).imp fun _ _ => readsAs_of_scan
  -- what is left out on the one side is left out on the other
  have hfilter := List.rel_filter (p := (!·.isEmpty)) (q := (!·.isEmpty)) (fun s group hs => by simp [hs.1]) hreads
  have hsplit : ∀ s ∈ split text, s ≠ [] := fun s hs => by simpa using (List.mem_filter.1 hs).2
  refine ((List.forall₂_and_left _ _).2 ⟨hsplit, hfilter⟩).imp fun s group hs => ?_
  exact hs.2.2 hs.1

/-- Some statement of a text that does not scan does not scan. -/
theorem exists_statement_of_error {text : List Char} {e : LexError} (h : scan 0 text = .error e) :
    ∃ s ∈ split text, ∃ e', scan 0 s = .error e' := by
  have hscan : scanEach 0 (cut .outside text) = .error e := by
    rw [scanEach_cut, h]
    rfl
  obtain ⟨s, hs, start, hfail⟩ := exists_of_scanEach hscan
  obtain ⟨e', he'⟩ := exists_error_zero hfail
  have hne : s ≠ [] := by
    rintro rfl
    rw [scan_nil] at he'
    cases he'
  exact ⟨s, List.mem_filter.2 ⟨hs, by simpa using hne⟩, e', he'⟩

theorem exists_readsAs {statements : List (List Char)} {found : List (List Token)}
    (h : List.Forall₂ ReadsAs statements found) : ∀ s ∈ statements, ∃ tokens, tokenize s = .ok tokens := by
  induction h with
  | nil => simp
  | cons hs _ ih =>
    obtain ⟨first, tokens, -, htokens, -⟩ := hs
    exact List.forall_mem_cons.2 ⟨⟨_, htokens⟩, ih⟩

/-- A text has tokens exactly if each of its statements has. The statements are then, one by one and in
order, the groups of tokens between the semicolons: each has the tokens of its group, counted from the
first of them. -/
theorem tokenize_split (text : List Char) :
    ((∃ tokens, tokenize text = .ok tokens) ↔ ∀ s ∈ split text, ∃ tokens, tokenize s = .ok tokens) ∧
      ∀ tokens, tokenize text = .ok tokens →
        List.Forall₂ ReadsAs (split text) (groups tokens.dropLast) := by
  cases h : scan 0 text with
  | error e =>
    have hnone : ¬∃ tokens, tokenize text = .ok tokens := by simp [tokenize_of_scan_error h]
    refine ⟨⟨fun hall => absurd hall hnone, fun hall => ?_⟩, fun tokens ht => absurd ⟨tokens, ht⟩ hnone⟩
    obtain ⟨s, hs, e', he'⟩ := exists_statement_of_error h
    obtain ⟨tokens, ht⟩ := hall s hs
    rw [tokenize_of_scan_error he'] at ht
    cases ht
  | ok tokens =>
    have hreads := forall₂_readsAs h
    refine ⟨⟨fun _ => exists_readsAs hreads, fun _ => ⟨_, tokenize_of_scan h⟩⟩, fun found hfound => ?_⟩
    rw [tokenize_of_scan h] at hfound
    cases hfound
    rwa [List.dropLast_concat]

/-- A semicolon between quotes ends no statement, and two together make none. -/
theorem tokenize_split_quoted :
    tokenize "f(';');; g".toList =
      .ok [⟨.identifier, "f", 0⟩, ⟨.openParen, "(", 1⟩, ⟨.string, ";", 2⟩, ⟨.closeParen, ")", 5⟩,
        ⟨.semicolon, ";", 6⟩, ⟨.semicolon, ";", 7⟩, ⟨.identifier, "g", 9⟩, atEnd 10] ∧
    List.Forall₂ ReadsAs ["f(';')".toList, "g".toList]
      [[⟨.identifier, "f", 0⟩, ⟨.openParen, "(", 1⟩, ⟨.string, ";", 2⟩, ⟨.closeParen, ")", 5⟩],
        [⟨.identifier, "g", 9⟩]] := by
  have h : tokenize "f(';');; g".toList =
      .ok [⟨.identifier, "f", 0⟩, ⟨.openParen, "(", 1⟩, ⟨.string, ";", 2⟩, ⟨.closeParen, ")", 5⟩,
        ⟨.semicolon, ";", 6⟩, ⟨.semicolon, ";", 7⟩, ⟨.identifier, "g", 9⟩, atEnd 10] := by decide +kernel
  exact ⟨h, (tokenize_split _).2 _ h⟩

end Statement
end SceneLang
