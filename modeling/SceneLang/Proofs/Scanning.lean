/-
What the scanner makes of a text.

Blanks are passed over (`scan_blanks`), and a lexeme that is read at the head of a text gives one
token and leaves the rest to be scanned from behind it (`scan_of_read`). What holds of every lexeme
that is read holds of every token (`forall_of_scan`), so the end of the text is never among the
tokens that are scanned (`kind_of_mem_scan`), and every keyword is one of three (`text_of_keyword`).
The tokens of a text are those and the end of the text behind them (`exists_scan_of_tokenize`), and each
begins behind the one before it (`position_of_tokenize`).
-/
import SceneLang.Token.Lexer

namespace SceneLang.Token

open Text

/-! ## One step -/

@[simp] theorem scan_nil (position : Nat) : scan position [] = .ok [] := by
  rw [scan]

theorem scan_blank {c : Char} (h : isBlank c = true) (position : Nat) (rest : List Char) :
    scan position (c :: rest) = scan (position + 1) rest := by
  rw [scan, if_pos h]

theorem scan_blanks (gap : List Char) (h : ∀ c ∈ gap, isBlank c = true) (position : Nat) (rest : List Char) :
    scan position (gap ++ rest) = scan (position + gap.length) rest := by
  induction gap generalizing position with
  | nil => rfl
  | cons c gap ih =>
    rw [List.cons_append, scan_blank (h c (List.mem_cons_self ..)),
      ih (fun d hd => h d (List.mem_cons_of_mem _ hd)), List.length_cons, Nat.add_right_comm,
      Nat.add_assoc]

theorem scan_of_read {c : Char} {rest : List Char} {x : Lexeme} (hb : isBlank c = false)
    (hx : Lexeme.read c rest = .ok x) (position : Nat) :
    scan position (c :: rest) =
      (scan (position + x.width) ((c :: rest).drop x.width)).map (⟨x.kind, x.text, position⟩ :: ·) := by
  rw [scan, if_neg (by simp [hb]), hx]
  dsimp only
  cases scan (position + x.width) ((c :: rest).drop x.width) <;> rfl

/-! ## Every token -/

/-- What holds of every lexeme, wherever it is read, holds of every token that is scanned. -/
theorem forall_of_scan {P : Token → Prop}
    (hP : ∀ {c rest x} (position : Nat), Lexeme.read c rest = .ok x → P ⟨x.kind, x.text, position⟩)
    {position : Nat} {text : List Char} {tokens : List Token} (h : scan position text = .ok tokens) :
    ∀ t ∈ tokens, P t := by
  fun_induction scan position text generalizing tokens with
  | case1 => cases h; simp
  | case2 position c rest hb ih => exact ih h
  | case3 => cases h
  | case4 => cases h
  | case5 position c rest hb x hx more hmore ih =>
    cases h
    intro t ht
    rcases List.mem_cons.1 ht with rfl | ht
    · exact hP position hx
    · exact ih hmore t ht

theorem kindOfChar?_ne_endOfText (c : Char) : kindOfChar? c ≠ some .endOfText := by
  unfold kindOfChar?
  split <;> simp

theorem kindOfWord_ne_endOfText (word : String) : kindOfWord word ≠ .endOfText := by
  unfold kindOfWord
  split <;> simp

theorem kind_of_read {c : Char} {rest : List Char} {x : Lexeme} (h : Lexeme.read c rest = .ok x) :
    x.kind ≠ .endOfText := by
  unfold Lexeme.read at h
  split at h
  · cases h
    exact kindOfWord_ne_endOfText _
  split at h
  · cases h
    simp [Lexeme.number]
  split at h
  · split at h
    · next y hy =>
      cases h
      obtain ⟨_, _, rfl⟩ := Option.map_eq_some_iff.1 hy
      simp
    · cases h
  · split at h
    · next y hy =>
      cases h
      unfold Lexeme.punctuation? at hy
      split at hy
      · cases hy
        simp
      · obtain ⟨kind, hk, rfl⟩ := Option.map_eq_some_iff.1 hy
        intro he
        exact kindOfChar?_ne_endOfText c (he ▸ hk)
    · cases h

/-- There are three keywords. -/
theorem text_of_keyword {c : Char} {rest : List Char} {x : Lexeme} (h : Lexeme.read c rest = .ok x)
    (hk : x.kind = .keyword) : x.text ∈ ["true", "false", "null"] := by
  unfold Lexeme.read at h
  split at h
  · cases h
    by_cases hword : (Lexeme.word c rest).text ∈ keywords
    · exact hword
    · have hidentifier : (Lexeme.word c rest).kind = .identifier := 
        if_neg fun hc => hword (List.contains_iff_mem.1 hc)
      rw [hidentifier] at hk
      cases hk
  split at h
  · cases h
    cases hk
  split at h
  · split at h
    · next y hy =>
      cases h
      obtain ⟨_, _, rfl⟩ := Option.map_eq_some_iff.1 hy
      cases hk
    · cases h
  · split at h
    · next y hy =>
      cases h
      unfold Lexeme.punctuation? at hy
      split at hy
      · cases hy
        cases hk
      · obtain ⟨kind, hkind, rfl⟩ := Option.map_eq_some_iff.1 hy
        dsimp only at hk
        subst hk
        unfold kindOfChar? at hkind
        split at hkind <;> cases hkind
    · cases h

/-- The end of the text is none of the tokens in it. -/
theorem kind_of_mem_scan {position : Nat} {text : List Char} {tokens : List Token}
    (h : scan position text = .ok tokens) : ∀ t ∈ tokens, t.kind ≠ .endOfText :=
  forall_of_scan (P := fun t => t.kind ≠ .endOfText) (fun _ hx => kind_of_read hx) h

/-- The tokens that are scanned begin one behind the other, within the text. -/
theorem position_of_scan {position : Nat} {text : List Char} {tokens : List Token}
    (h : scan position text = .ok tokens) :
    (∀ t ∈ tokens, position ≤ t.position ∧ t.position < position + text.length) ∧
      tokens.Pairwise (·.position < ·.position) := by
  fun_induction scan position text generalizing tokens with
  | case1 =>
    cases h
    simp
  | case2 position c rest hb ih =>
    obtain ⟨hbounds, hpairwise⟩ := ih h
    refine ⟨fun t ht => ?_, hpairwise⟩
    have := hbounds t ht
    simp only [List.length_cons]
    omega
  | case3 => cases h
  | case4 => cases h
  | case5 position c rest hb x hx more hmore ih =>
    cases h
    obtain ⟨hbounds, hpairwise⟩ := ih hmore
    have hwidth := x.width_pos
    simp only [List.length_drop, List.length_cons] at hbounds ⊢
    refine ⟨List.forall_mem_cons.2 ⟨by dsimp only; omega, fun t ht => ?_⟩, List.pairwise_cons.2 ⟨fun t ht => ?_, hpairwise⟩⟩
    · have := hbounds t ht
      omega
    · have := hbounds t ht
      dsimp only
      omega

/-! ## The whole text -/

theorem tokenize_of_scan {text : List Char} {tokens : List Token} (h : scan 0 text = .ok tokens) :
    tokenize text = .ok (tokens ++ [atEnd text.length]) := by
  rw [tokenize, h]

theorem tokenize_of_scan_error {text : List Char} {e : LexError} (h : scan 0 text = .error e) :
    tokenize text = .error e := by
  rw [tokenize, h]

theorem exists_scan_of_tokenize {text : List Char} {tokens : List Token} (h : tokenize text = .ok tokens) :
    ∃ inner, scan 0 text = .ok inner ∧ tokens = inner ++ [atEnd text.length] := by
  cases hscan : scan 0 text with
  | error e =>
    rw [tokenize_of_scan_error hscan] at h
    cases h
  | ok inner =>
    rw [tokenize_of_scan hscan] at h
    exact ⟨inner, rfl, (Except.ok.inj h).symm⟩

theorem scan_of_tokenize_error {text : List Char} {e : LexError} (h : tokenize text = .error e) :
    scan 0 text = .error e := by
  cases hscan : scan 0 text with
  | error e' =>
    rw [tokenize_of_scan_error hscan] at h
    rw [Except.error.inj h]
  | ok inner =>
    rw [tokenize_of_scan hscan] at h
    cases h

/-- The tokens of a text begin one behind the other, and the last of them is where the text ends. -/
theorem position_of_tokenize {text : List Char} {tokens : List Token} (h : tokenize text = .ok tokens) :
    (∀ t ∈ tokens, t.position ≤ text.length) ∧ tokens.Pairwise (·.position < ·.position) := by
  obtain ⟨inner, hscan, rfl⟩ := exists_scan_of_tokenize h
  obtain ⟨hbounds, hpairwise⟩ := position_of_scan hscan
  have hinner : ∀ t ∈ inner, t.position < text.length := fun t ht => by simpa using (hbounds t ht).2
  constructor
  · intro t ht
    rcases List.mem_append.1 ht with ht | ht
    · exact Nat.le_of_lt (hinner t ht)
    · rw [List.mem_singleton.1 ht]
      exact Nat.le_refl _
  · refine List.pairwise_append.2 ⟨hpairwise, List.pairwise_singleton _ _, fun t ht s hs => ?_⟩
    rw [List.mem_singleton.1 hs]
    exact hinner t ht

/-- What holds of every lexeme holds of every token of a text but the end. -/
theorem forall_of_tokenize {P : Token → Prop}
    (hP : ∀ {c rest x} (position : Nat), Lexeme.read c rest = .ok x → P ⟨x.kind, x.text, position⟩)
    {text : List Char} {tokens : List Token} (h : tokenize text = .ok tokens) :
    ∀ t ∈ tokens, t.kind ≠ .endOfText → P t := by
  obtain ⟨inner, hscan, rfl⟩ := exists_scan_of_tokenize h
  intro t ht hk
  rcases List.mem_append.1 ht with ht | ht
  · exact forall_of_scan hP hscan t ht
  · rw [List.mem_singleton.1 ht] at hk
    exact absurd rfl hk

end SceneLang.Token
