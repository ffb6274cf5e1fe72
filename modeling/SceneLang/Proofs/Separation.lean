/-
Two texts with blanks between them.

A text that has tokens has the same tokens in front of anything that begins with a character that no
lexeme goes on with (`scan_append`): the end of a text and such a character stop every reader alike.
A blank is one, so blanks part what is before them from what is behind them (`tokenize_append_gap`):
the tokens are those of the two texts, the second moved on by the length of what stands before it,
and an error in the second is the same error as far on.
-/
import Mathlib.Data.List.Basic
import SceneLang.Proofs.Lexemes

namespace SceneLang

open Text Token
open Lexeme (Ends)

/-- The same error further on in a text. -/
def LexError.moved (e : LexError) (count : Nat) : LexError :=
  { e with position := e.position + count }

namespace Token

variable {text gap : List Char} {tokens : List Token}

/-- A text that has tokens has the same in front of what ends its last lexeme. -/
theorem scan_append {position : Nat} (h : scan position text = .ok tokens) {more : List Char}
    (hm : ∀ d ∈ more.head?, Ends d) :
    scan position (text ++ more) = (scan (position + text.length) more).map (tokens ++ ·) := by
  induction text using scan_induction generalizing position tokens with
  | nil =>
    rw [scan_nil] at h
    cases h
    rw [List.nil_append, List.length_nil, Nat.add_zero]
    cases scan position more <;> rfl
  | blank c rest hb ih =>
    rw [scan_blank hb] at h
    rw [List.cons_append, scan_blank hb, ih h, List.length_cons, Nat.add_right_comm, Nat.add_assoc]
  | unreadable c rest cause hb hcause =>
    rw [scan_of_error hb hcause] at h
    cases h
  | lexeme c tail rest x hb hx ih =>
    rw [Lexeme.scan_spelled hx.spells] at h
    obtain ⟨behind, hbehind, rfl⟩ := map_eq_ok_iff.1 h
    -- only the last lexeme stands in front of other characters than before
    rw [List.append_assoc, Lexeme.scan_spelled (hx.append hm).spells, ih hbehind, List.length_append,
      ← Nat.add_assoc]
    cases scan (position + (c :: tail).length + rest.length) more <;> rfl

theorem ends_of_gap (hne : gap ≠ []) (hg : ∀ c ∈ gap, isBlank c = true) (more : List Char) :
    ∀ d ∈ (gap ++ more).head?, Ends d := by
  obtain ⟨c, rest, rfl⟩ := List.exists_cons_of_ne_nil hne
  rintro d ⟨⟩
  exact Lexeme.ends_of_isBlank (hg c (List.mem_cons_self ..))

/-- What is scanned of a text in front of blanks, and of what stands behind them. -/
theorem scan_append_gap {position : Nat} (h : scan position text = .ok tokens) (hne : gap ≠ [])
    (hg : ∀ c ∈ gap, isBlank c = true) (more : List Char) :
    scan position (text ++ gap ++ more) =
      (scan (position + (text.length + gap.length)) more).map (tokens ++ ·) := by
  rw [List.append_assoc, scan_append h (ends_of_gap hne hg more), scan_blanks gap hg, Nat.add_assoc]

/-- **Blanks part a text**: if a text has tokens, then with blanks and another text behind it it has
those tokens but the end, and behind them the tokens of the other text with the end, all as far on
as the text and the blanks are long. If the other text has an error, the whole has it as far on. -/
theorem tokenize_append_gap (h : tokenize text = .ok tokens) (hne : gap ≠ [])
    (hg : ∀ c ∈ gap, isBlank c = true) (more : List Char) :
    ∃ before, tokens = before ++ [atEnd text.length] ∧
      tokenize (text ++ gap ++ more) =
        match tokenize more with
        | .ok behind => .ok (before ++ behind.map (·.moved (text.length + gap.length)))
        | .error e => .error (e.moved (text.length + gap.length)) := by
  obtain ⟨before, hscan, rfl⟩ := exists_scan_of_tokenize h
  refine ⟨before, rfl, ?_⟩
  rw [tokenize, scan_append_gap hscan hne hg more, scan_add, tokenize]
  cases scan 0 more with
  | error e => rfl
  | ok behind =>
    have hend : atEnd (text ++ gap ++ more).length = (atEnd more.length).moved (text.length + gap.length) := by
      simp only [atEnd, moved, List.length_append, Nat.add_comm]
    rw [hend]
    simp only [Except.map, List.map_append, List.map_cons, List.map_nil, List.append_assoc]

/-- A line break in an arrow leaves a minus, and a character that starts no token. -/
theorem tokenize_append_gap_arrow :
    tokenize "f -".toList = .ok [⟨.identifier, "f", 0⟩, ⟨.minus, "-", 2⟩, atEnd 3] ∧
      tokenize "> 1".toList = .error ⟨.unexpected '>', 0⟩ ∧
      tokenize ("f -".toList ++ ['\n'] ++ "> 1".toList) = .error ⟨.unexpected '>', 4⟩ := by
  have htext : tokenize "f -".toList = .ok [⟨.identifier, "f", 0⟩, ⟨.minus, "-", 2⟩, atEnd 3] := by
    decide +kernel
  have hmore : tokenize "> 1".toList = .error ⟨.unexpected '>', 0⟩ := by decide +kernel
  refine ⟨htext, hmore, ?_⟩
  obtain ⟨_, -, hwhole⟩ := tokenize_append_gap htext (List.cons_ne_nil '\n' [])
    (List.forall_mem_singleton.2 (by decide)) "> 1".toList
  rw [hwhole, hmore]
  rfl

end Token

end SceneLang
