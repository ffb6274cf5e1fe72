/-
The normal form of a batch text.

The statements of a text, with a separator between them, have the same statements again, whatever the
text is. Quotes are followed over the text as it stands and the blanks are taken off afterwards, so a
statement has to have the quotes of the piece it was trimmed from: none is open where the blanks in
front of it end, and the blanks behind it close none, even where a backslash escapes the first of them.

* `Quoting.leaves_iff`: the state behind a text is the quotation that the text leaves open.
* `Statement.uncut_or_cut`: a text is one piece, or its first piece ends outside of quotes at a separator.
* `Statement.split_join`: statements that end outside of quotes can be joined and split again.
* `Statement.split_normal`: the statements of any text are in normal form.
-/
import Mathlib.Data.List.Induction
import SceneLang.Proofs.Single
import SceneLang.Proofs.Spans

namespace SceneLang

open Text Token

/-- Blanks close no quote. -/
theorem Quoting.Proper.outside_of_blanks {state : Quoting} (h : state.Proper) {gap : List Char}
    (hgap : ∀ c ∈ gap, isBlank c = true) (hafter : state.after gap = .outside) : state = .outside := by
  induction gap generalizing state with
  | nil => exact hafter
  | cons c gap ih =>
    rw [List.forall_mem_cons] at hgap
    have hquote := (Statement.plain_of_isBlank hgap.1).1
    exact h.outside_of_next hquote (ih (h.next c) hgap.2 hafter)

/-! ## What is left open -/

namespace Quoting

open Lexeme (Piece spelled)

/-- A text of quotations and of characters that are no quotes. -/
inductive Closed : List Char → Prop
  | nil : Closed []
  | plain {c rest} : isQuote c = false → Closed rest → Closed (c :: rest)
  | quotation {content spelling rest} : IsQuotation content spelling → Closed rest → Closed (spelling ++ rest)

/-- What a text leaves open: nothing, the quotation that begins with its last quote, or an escape in
that. -/
inductive Leaves : List Char → Quoting → Prop
  | outside {text} : Closed text → Leaves text .outside
  | inside {front quote pieces} : Closed front → isQuote quote = true → (∀ p ∈ pieces, Piece.GoesOn quote p) →
      Leaves (front ++ quote :: spelled pieces) (.inside quote)
  | escaped {front quote pieces} : Closed front → isQuote quote = true → (∀ p ∈ pieces, Piece.GoesOn quote p) →
      Leaves (front ++ quote :: (spelled pieces ++ ['\\'])) (.escaped quote)

theorem Closed.append {front rest : List Char} (h : Closed front) (hr : Closed rest) : Closed (front ++ rest) := by
  induction h with
  | nil => exact hr
  | plain hc _ ih => exact .plain hc ih
  | quotation hq _ ih =>
    rw [List.append_assoc]
    exact .quotation hq ih

/-- One more character goes on with what is open, closes it, or opens a quotation. -/
theorem Leaves.next {text : List Char} {state : Quoting} (h : Leaves text state) (c : Char) :
    Leaves (text ++ [c]) (state.next c) := by
  cases h with
  | outside hclosed =>
    rw [Quoting.next]
    by_cases hc : isQuote c = true
    · rw [if_pos hc]
      have hopened : Leaves (text ++ c :: spelled []) (.inside c) := .inside hclosed hc (List.forall_mem_nil _)
      exact hopened
    · rw [if_neg hc]
      exact .outside (hclosed.append (.plain (Bool.eq_false_iff.2 hc) .nil))
  | @inside front quote pieces hclosed hq hpieces =>
    rw [Quoting.next, List.append_assoc, List.cons_append]
    by_cases hb : c = '\\'
    · rw [if_pos hb, hb]
      exact .escaped hclosed hq hpieces
    rw [if_neg hb]
    by_cases hc : c = quote
    · rw [if_pos hc, hc]
      have hquotation : IsQuotation _ (quote :: (spelled pieces ++ [quote])) := ⟨quote, pieces, hq, hpieces, rfl, rfl⟩
      have hlast := Closed.quotation hquotation .nil
      rw [List.append_nil] at hlast
      exact .outside (hclosed.append hlast)
    · rw [if_neg hc]
      have hmore : spelled pieces ++ [c] = spelled (pieces ++ [.plain c]) := by simp [spelled, Piece.spelling]
      rw [hmore]
      exact .inside hclosed hq (List.forall_mem_append.2 ⟨hpieces, List.forall_mem_singleton.2 ⟨hc, hb⟩⟩)
  | @escaped front quote pieces hclosed hq hpieces =>
    have hmore : front ++ quote :: (spelled pieces ++ ['\\']) ++ [c] =
        front ++ quote :: spelled (pieces ++ [.pair c]) := by simp [spelled, Piece.spelling]
    rw [Quoting.next, hmore]
    exact .inside hclosed hq (List.forall_mem_append.2 ⟨hpieces, List.forall_mem_singleton.2 trivial⟩)

theorem leaves_after (text : List Char) : Leaves text (outside.after text) := by
  induction text using List.reverseRecOn with
  | nil => exact .outside .nil
  | append_singleton text c ih =>
    rw [after_append]
    exact ih.next c

theorem after_spelled {quote : Char} {pieces : List Piece} (h : ∀ p ∈ pieces, Piece.GoesOn quote p) :
    (inside quote).after (spelled pieces) = .inside quote := by
  induction pieces with
  | nil => rfl
  | cons p pieces ih =>
    obtain ⟨hp, hpieces⟩ := List.forall_mem_cons.1 h
    rw [spelled, List.flatMap_cons, after_append, ← spelled]
    cases p with
    | plain c => rw [Piece.spelling, after_cons, after_nil, Quoting.next, if_neg hp.2, if_neg hp.1, ih hpieces]
    | pair c => exact ih hpieces

theorem Closed.after_eq {text : List Char} (h : Closed text) : outside.after text = .outside := by
  induction h with
  | nil => rfl
  | plain hc _ ih => rw [after_cons, Quoting.next, if_neg (by simp [hc]), ih]
  | quotation hquotation _ ih =>
    obtain ⟨quote, pieces, hq, hpieces, rfl, -⟩ := hquotation
    rw [List.cons_append, after_cons, Quoting.next, if_pos hq, List.append_assoc, after_append, after_spelled hpieces,
      List.singleton_append, after_cons, Quoting.next, if_neg (Lexeme.ne_backslash hq), if_pos rfl, ih]

/-- The state behind a text is what the text leaves open, and in particular it is outside of quotes exactly
behind quotations and characters that are no quotes. -/
theorem leaves_iff {text : List Char} {state : Quoting} : Leaves text state ↔ outside.after text = state := by
  refine ⟨fun h => ?_, fun h => h ▸ leaves_after text⟩
  cases h with
  | outside h => exact h.after_eq
  | inside h hq hpieces => rw [after_append, h.after_eq, after_cons, Quoting.next, if_pos hq, after_spelled hpieces]
  | escaped h hq hpieces =>
    rw [after_append, h.after_eq, after_cons, Quoting.next, if_pos hq, after_append, after_spelled hpieces,
      after_cons, after_nil, Quoting.next, if_pos rfl]

end Quoting

namespace Statement

/-! ## Texts of one piece -/

/-- No separator stands outside of quotes. -/
def Uncut (state : Quoting) (text : List Char) : Prop :=
  ∀ front rest, text = front ++ separator :: rest → state.after front ≠ .outside

theorem cut_of_uncut {state : Quoting} {text : List Char} (h : Uncut state text) : cut state text = [text] := by
  induction text generalizing state with
  | nil => rfl
  | cons c rest ih =>
    have hc : ¬(state = .outside ∧ c = separator) := fun hc => h [] rest (by rw [hc.2]; rfl) hc.1
    have hrest : Uncut (state.next c) rest := fun front more hmore => h (c :: front) more (by rw [hmore]; rfl)
    rw [cut, if_neg hc, ih hrest, consFirst]

/-- A text is one piece, or its first piece ends outside of quotes and a separator stands behind it. -/
theorem uncut_or_cut (state : Quoting) (text : List Char) : Uncut state text ∨
    ∃ first rest, text = first ++ separator :: rest ∧ Uncut state first ∧ state.after first = .outside := by
  induction text generalizing state with
  | nil => exact .inl fun front rest h => by simp at h
  | cons c rest ih =>
    by_cases hc : state = .outside ∧ c = separator
    · exact .inr ⟨[], rest, by rw [hc.2]; rfl, fun front more h => by simp at h, hc.1⟩
    · rcases ih (state.next c) with h | ⟨first, more, rfl, hfirst, hafter⟩
      · refine .inl fun front more hmore hfront => ?_
        cases front with
        | nil => exact hc ⟨hfront, (List.cons.inj hmore).1⟩
        | cons d front =>
          obtain ⟨rfl, hrest⟩ := List.cons.inj hmore
          exact h front more hrest hfront
      · refine .inr ⟨c :: first, more, rfl, fun front behind hbehind hfront => ?_, hafter⟩
        cases front with
        | nil => exact hc ⟨hfront, (List.cons.inj hbehind).1⟩
        | cons d front =>
          obtain ⟨rfl, hrest⟩ := List.cons.inj hbehind
          exact hfirst front behind hrest hfront

/-- The pieces of a text are not cut any further, and each that has another behind it ends outside of
quotes. -/
theorem uncut_of_cut (text : List Char) : (∀ piece ∈ cut .outside text, Uncut .outside piece) ∧
    (cut .outside text).Pairwise fun piece _ => Quoting.outside.after piece = .outside := by
  -- a piece is cut off the front as long as there is a separator, so the induction is on the length
  generalize hn : text.length = n
  induction n using Nat.strongRecOn generalizing text with
  | ind n ih =>
    rcases uncut_or_cut .outside text with h | ⟨first, rest, rfl, hfirst, hafter⟩
    · rw [cut_of_uncut h]
      exact ⟨List.forall_mem_singleton.2 h, List.pairwise_singleton _ _⟩
    · have hlength : rest.length < n := by
        rw [← hn, List.length_append, List.length_cons]
        omega
      obtain ⟨huncut, hpairwise⟩ := ih _ hlength rest rfl
      rw [cut_append hafter, cut_of_uncut hfirst, List.singleton_append]
      exact ⟨List.forall_mem_cons.2 ⟨hfirst, huncut⟩, List.pairwise_cons.2 ⟨fun _ _ => hafter, hpairwise⟩⟩

/-! ## Without the blanks -/

theorem after_blanks {gap : List Char} (h : ∀ c ∈ gap, isBlank c = true) : Quoting.outside.after gap = .outside :=
  after_of_plain fun c hc => plain_of_isBlank (h c hc)

theorem Uncut.trim {text : List Char} (h : Uncut .outside text) : Uncut .outside (trim text) := by
  intro front rest hrest hfront
  obtain ⟨before, behind, htext, hbefore, -, -⟩ := exists_trim text
  refine h (before ++ front) (rest ++ behind) ?_ ?_
  · rw [htext, hrest]
    simp
  · rw [Quoting.after_append, after_blanks hbefore, hfront]

theorem after_trim {text : List Char} (h : Quoting.outside.after text = .outside) :
    Quoting.outside.after (trim text) = .outside := by
  obtain ⟨before, behind, htext, hbefore, hbehind, -⟩ := exists_trim text
  have hstart : Quoting.outside.Proper := trivial
  rw [htext, Quoting.after_append, Quoting.after_append, after_blanks hbefore] at h
  exact (hstart.after (trim text)).outside_of_blanks hbehind h

/-! ## Statements -/

/-- A statement in normal form: it is not empty, no blanks stand around it, and it has no statement but
itself. -/
structure Normal (s : List Char) : Prop where
  ne_nil : s ≠ []
  trim_eq : trim s = s
  split_eq : split s = [s]

theorem normal_of_uncut {s : List Char} (hne : s ≠ []) (htrim : trim s = s) (h : Uncut .outside s) : Normal s := by
  refine ⟨hne, htrim, ?_⟩
  rw [split, cut_of_uncut h]
  simp [htrim, hne]

theorem normal_of_mem_split {text s : List Char} (h : s ∈ split text) : Normal s := by
  obtain ⟨hmem, hne⟩ := List.mem_filter.1 h
  obtain ⟨piece, hpiece, rfl⟩ := List.mem_map.1 hmem
  exact normal_of_uncut (by simpa using hne) (trim_trim piece) ((uncut_of_cut text).1 piece hpiece).trim

/-- A statement with another behind it ends outside of quotes. -/
theorem pairwise_split (text : List Char) :
    (split text).Pairwise fun s _ => Quoting.outside.after s = .outside := by
  have htrimmed : ((cut .outside text).map trim).Pairwise fun s _ => Quoting.outside.after s = .outside :=
    List.pairwise_map.2 ((uncut_of_cut text).2.imp after_trim)
  exact htrimmed.filter _

/-- Statements that end outside of quotes, but for the last of them, are those of the text in which
they stand with separators between them. -/
theorem split_join {statements : List (List Char)} (hsplit : ∀ s ∈ statements, split s = [s])
    (hafter : statements.Pairwise fun s _ => Quoting.outside.after s = .outside) :
    split (join separator statements) = statements := by
  induction statements with
  | nil => rfl
  | cons s rest ih =>
    rw [List.forall_mem_cons] at hsplit
    rw [List.pairwise_cons] at hafter
    cases rest with
    | nil => exact hsplit.1
    | cons next rest =>
      have hs := hafter.1 next (List.mem_cons_self ..)
      rw [join_cons _ _ (List.cons_ne_nil next rest), split_append hs, hsplit.1, ih hsplit.2 hafter.2,
        List.singleton_append]

/-- **The normal form of a text.** Whatever a text is, each of its statements is not empty, has no
blanks around it and is its own only statement. Each that has another behind it ends outside of
quotes, so it leaves no quotation open (`Quoting.leaves_iff`), and all of them with separators between
them have the same statements again. -/
theorem split_normal (text : List Char) :
    (∀ s ∈ split text, Normal s) ∧
      ((split text).Pairwise fun s _ => Quoting.outside.after s = .outside) ∧
      split (join separator (split text)) = split text := by
  have hnormal : ∀ s ∈ split text, Normal s := fun s hs => normal_of_mem_split hs
  have hafter := pairwise_split text
  exact ⟨hnormal, hafter, split_join (fun s hs => (hnormal s hs).split_eq) hafter⟩

/-- A quote that stays open takes the separators and an escaped blank behind it into the last statement,
which loses that blank. -/
example : split "a ;; 'b;\\ ".toList = ["a".toList, "'b;\\".toList] := by decide +kernel

end Statement

end SceneLang
