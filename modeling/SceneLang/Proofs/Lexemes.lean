/-
What is read as a lexeme.

`Written x spelling rest` lists the lexemes there are: the characters that each is written with and
what may not stand behind them, so that the longest match ends there. The scanner reads these and no
others (`exists_written`, `Written.spells`). A lexeme therefore depends on what follows it through
the next character alone (`Written.before`), and the blanks around a text and the place where it
stands change nothing about its tokens but their positions (`scan_trim`, `scan_add`).
-/
import SceneLang.Proofs.Spelling

namespace SceneLang.Text

theorem exists_trimRight (text : List Char) :
    ∃ behind, text = trimRight text ++ behind ∧ ∀ c ∈ behind, isBlank c = true := by
  refine ⟨(text.reverse.takeWhile isBlank).reverse, ?_, fun c hc => ?_⟩
  · rw [trimRight, ← List.reverse_append, List.takeWhile_append_dropWhile, List.reverse_reverse]
  · exact List.all_eq_true.1 List.all_takeWhile c (List.mem_reverse.1 hc)

/-- A trimmed text is the text without some blanks around it, and does not begin with one. -/
theorem exists_trim (text : List Char) : ∃ before behind, text = before ++ trim text ++ behind ∧
    (∀ c ∈ before, isBlank c = true) ∧ (∀ c ∈ behind, isBlank c = true) ∧
    ∀ c ∈ (trim text).head?, isBlank c = false := by
  obtain ⟨behind, hright, hbehind⟩ := exists_trimRight (trimLeft text)
  refine ⟨text.takeWhile isBlank, behind, ?_, List.all_eq_true.1 List.all_takeWhile, hbehind, head_trim text⟩
  rw [List.append_assoc, trim, ← hright, trimLeft, List.takeWhile_append_dropWhile]

end SceneLang.Text

namespace SceneLang

open Text Token

namespace Lexeme

/-! ## The lexemes there are -/

/-- The characters that a lexeme is written with in front of others that it does not go on with. -/
inductive Written : Lexeme → List Char → List Char → Prop
  | word {c tail rest} : Token.startsWord c = true → (∀ d ∈ tail, continuesWord d = true) →
      (∀ d ∈ rest.head?, continuesWord d = false) →
      Written { kind := kindOfWord (String.ofList (c :: tail)), text := String.ofList (c :: tail),
                width := tail.length + 1 } (c :: tail) rest
  | number {c run fraction rest} : isDigit c = true → (∀ d ∈ run, isDigit d = true) →
      (∀ f ∈ fraction, ∀ d ∈ f, isDigit d = true) →
      (∀ d ∈ rest.head?, isDigit d = false ∧ (fraction = none → d ≠ '.')) →
      Written { kind := .number, text := String.ofList (c :: (run ++ pointed fraction)),
                width := (run ++ pointed fraction).length + 1 } (c :: (run ++ pointed fraction)) rest
  /-- a quote and all up to the one that closes it -/
  | string {quote inner content rest} : isQuote quote = true →
      quotedContent? quote inner = some (content, inner.length) →
      Written { kind := .string, text := String.ofList content, width := inner.length + 1 }
        (quote :: inner) rest
  | arrow {rest} : Written { kind := .arrow, text := "->", width := 2 } ['-', '>'] rest
  | sign {c kind rest} : kindOfChar? c = some kind → (c = '-' → rest.head? ≠ some '>') →
      Written { kind, text := String.singleton c, width := 1 } [c] rest

/-! ### Runs of characters -/

theorem head?_dropWhile {p : Char → Bool} (text : List Char) :
    ∀ c ∈ (text.dropWhile p).head?, p c = false := by
  intro c hc
  have h := List.head?_dropWhile_not p text
  rw [Option.mem_def] at hc
  rw [hc] at h
  simpa using h

theorem exists_numberTail (text : List Char) : ∃ run fraction rest,
    text = run ++ pointed fraction ++ rest ∧ numberTail text = run ++ pointed fraction ∧
    (∀ d ∈ run, isDigit d = true) ∧ (∀ f ∈ fraction, ∀ d ∈ f, isDigit d = true) ∧
    ∀ d ∈ rest.head?, isDigit d = false ∧ (fraction = none → d ≠ '.') := by
  have hrun : ∀ d ∈ text.takeWhile isDigit, isDigit d = true := List.all_eq_true.1 List.all_takeWhile
  have htext : text = text.takeWhile isDigit ++ text.dropWhile isDigit := List.takeWhile_append_dropWhile.symm
  by_cases hpoint : ∃ more, text.dropWhile isDigit = '.' :: more
  · obtain ⟨more, hmore⟩ := hpoint
    have hf : ∀ d ∈ more.takeWhile isDigit, isDigit d = true := List.all_eq_true.1 List.all_takeWhile
    refine ⟨_, some (more.takeWhile isDigit), more.dropWhile isDigit, ?_, ?_, hrun, by simpa using hf, ?_⟩
    · rw [hmore] at htext
      simpa [pointed] using htext
    · simp only [numberTail, hmore, pointed]
    · exact fun d hd => ⟨head?_dropWhile _ d hd, by simp⟩
  · refine ⟨_, none, text.dropWhile isDigit, by simp [pointed], ?_, hrun, by simp, ?_⟩
    · unfold numberTail
      split
      · next more hmore => exact absurd ⟨more, hmore⟩ hpoint
      · simp [pointed]
    · intro d hd
      refine ⟨head?_dropWhile _ d hd, fun _ hdot => hpoint ?_⟩
      obtain ⟨more, hmore⟩ := List.head?_eq_some_iff.1 hd
      exact ⟨more, hdot ▸ hmore⟩

/-! ### Between quotes -/

theorem ne_backslash {quote : Char} (hq : isQuote quote = true) : quote ≠ '\\' := by
  rcases isQuote_iff.1 hq with rfl | rfl <;> decide

theorem quotedContent?_close {quote : Char} (hb : quote ≠ '\\') (rest : List Char) :
    quotedContent? quote (quote :: rest) = some ([], 1) := by
  rw [quotedContent?, if_pos rfl]
  intro d more he _
  exact hb he

/-- The content of a string token is settled by the characters up to the closing quote. -/
theorem exists_inner {quote : Char} (hb : quote ≠ '\\') {text content : List Char} {width : Nat}
    (h : quotedContent? quote text = some (content, width)) :
    ∃ inner rest, text = inner ++ rest ∧ inner.length = width ∧
      ∀ more, quotedContent? quote (inner ++ more) = some (content, width) := by
  fun_induction quotedContent? quote text generalizing content width with
  | case1 => cases h
  | case2 c rest ih =>
    obtain ⟨⟨content', width'⟩, h', heq⟩ := Option.map_eq_some_iff.1 h
    cases heq
    obtain ⟨inner, rest', rfl, rfl, hinner⟩ := ih h'
    refine ⟨'\\' :: c :: inner, rest', rfl, rfl, fun more => ?_⟩
    simp only [List.cons_append, quotedContent?_escape, hinner, Option.map_some]
  | case3 rest =>
    cases h
    exact ⟨[quote], rest, rfl, rfl, quotedContent?_close hb⟩
  | case4 c rest hnot hne ih =>
    obtain ⟨⟨content', width'⟩, h', heq⟩ := Option.map_eq_some_iff.1 h
    cases heq
    -- a backslash with nothing behind it closes nothing
    have hc : c ≠ '\\' := by
      intro hc
      cases rest with
      | nil => cases h'
      | cons d rest => exact hnot d rest hc rfl
    obtain ⟨inner, rest', rfl, rfl, hinner⟩ := ih h'
    refine ⟨c :: inner, rest', rfl, rfl, fun more => ?_⟩
    rw [List.cons_append, quotedContent?_plain hne hc, hinner]
    rfl

/-- What closes a string token closes it whatever stands behind. -/
theorem quotedContent?_append {quote : Char} (hb : quote ≠ '\\') {inner content : List Char}
    (h : quotedContent? quote inner = some (content, inner.length)) (more : List Char) :
    quotedContent? quote (inner ++ more) = some (content, inner.length) := by
  obtain ⟨inner', rest, heq, hlen, hinner⟩ := exists_inner hb h
  have hrest : rest = [] := by
    have hlength := congrArg List.length heq
    rw [List.length_append] at hlength
    exact List.eq_nil_of_length_eq_zero (by omega)
  rw [hrest, List.append_nil] at heq
  rw [heq, ← heq]
  exact heq ▸ hinner more

theorem quotedContent?_of_not_mem {quote : Char} {text : List Char} (h : quote ∉ text) :
    quotedContent? quote text = none := by
  fun_induction quotedContent? quote text with
  | case1 => rfl
  | case2 c rest ih => rw [ih (fun hm => h (by simp [hm])), Option.map_none]
  | case3 rest => exact absurd (List.mem_cons_self ..) h
  | case4 c rest hnot hne ih => rw [ih (fun hm => h (by simp [hm])), Option.map_none]

/-- A string token that is not closed is not closed by what has no quote. -/
theorem quotedContent?_append_of_not_mem {quote : Char} {text gap : List Char}
    (h : quotedContent? quote text = none) (hg : quote ∉ gap) : quotedContent? quote (text ++ gap) = none := by
  fun_induction quotedContent? quote text with
  | case1 => exact quotedContent?_of_not_mem hg
  | case2 c rest ih =>
    rw [List.cons_append, List.cons_append, quotedContent?_escape, ih (Option.map_eq_none_iff.1 h),
      Option.map_none]
  | case3 rest => cases h
  | case4 c rest hnot hne ih =>
    by_cases hc : c = '\\'
    · subst hc
      cases rest with
      | cons d rest => exact absurd rfl (hnot d rest rfl)
      | nil => exact quotedContent?_of_not_mem (by simp [hg, Ne.symm hne])
    · rw [List.cons_append, quotedContent?_plain hne hc, ih (Option.map_eq_none_iff.1 h), Option.map_none]

/-! ### Reading -/

/-- Every lexeme that is read is one of those there are. -/
theorem exists_written {c : Char} {text : List Char} {x : Lexeme} (h : read c text = .ok x) :
    ∃ tail rest, text = tail ++ rest ∧ Written x (c :: tail) rest := by
  unfold read at h
  split at h
  · next hc =>
    cases h
    refine ⟨_, _, List.takeWhile_append_dropWhile.symm, .word hc ?_ (head?_dropWhile _)⟩
    exact List.all_eq_true.1 List.all_takeWhile
  split at h
  · next hc =>
    cases h
    obtain ⟨run, fraction, rest, htext, htail, hrun, hf, hr⟩ := exists_numberTail text
    refine ⟨_, rest, htext, ?_⟩
    have hwritten : Written _ (c :: (run ++ pointed fraction)) rest := .number hc hrun hf hr
    simpa only [number, htail] using hwritten
  split at h
  · next hq =>
    split at h
    · next y hy =>
      cases h
      obtain ⟨⟨content, width⟩, hcontent, rfl⟩ := Option.map_eq_some_iff.1 hy
      obtain ⟨inner, rest, rfl, rfl, hinner⟩ := exists_inner (ne_backslash hq) hcontent
      have hclosed := hinner []
      rw [List.append_nil] at hclosed
      exact ⟨inner, rest, rfl, .string hq hclosed⟩
    · cases h
  · split at h
    · next y hy =>
      cases h
      unfold punctuation? at hy
      split at hy
      · next harrow =>
        simp only [Bool.and_eq_true, decide_eq_true_eq] at harrow
        obtain ⟨rfl, hhead⟩ := harrow
        obtain ⟨rest, rfl⟩ := List.head?_eq_some_iff.1 hhead
        cases hy
        exact ⟨['>'], rest, rfl, .arrow⟩
      · next harrow =>
        obtain ⟨kind, hk, rfl⟩ := Option.map_eq_some_iff.1 hy
        exact ⟨[], text, rfl, .sign hk (by simpa using harrow)⟩
    · cases h

/-- Every lexeme there is is read. -/
theorem Written.spells {x : Lexeme} {spelling rest : List Char} (h : Written x spelling rest) :
    Spells x spelling rest := by
  cases h with
  | word hc ht hr => exact spells_word hc ht hr
  | number hc hrun hf hr => exact spells_number hc hrun hf hr
  | @string quote inner content _ hq hinner =>
    have hclass : isBlank quote = false ∧ Token.startsWord quote = false ∧ isDigit quote = false := by
      rcases isQuote_iff.1 hq with rfl | rfl <;> decide
    obtain ⟨hb, hw, hd⟩ := hclass
    refine ⟨rfl, quote, inner, rfl, hb, ?_⟩
    simp only [read, hw, hd, hq, Bool.false_eq_true, if_false, if_true, string?,
      quotedContent?_append (ne_backslash hq) hinner, Option.map_some]
  | arrow => exact ⟨rfl, '-', ['>'], rfl, by decide, rfl⟩
  | sign hk hr => exact spells_sign hk hr

/-- A character that no lexeme goes on with. -/
def Ends (d : Char) : Prop := continuesWord d = false ∧ d ≠ '.' ∧ d ≠ '>'

theorem ends_of_isBlank {d : Char} (h : isBlank d = true) : Ends d := by
  refine ⟨?_, ?_, ?_⟩
  · rw [Bool.eq_false_iff]
    intro hw
    rcases Bool.or_eq_true_iff.1 hw with hw | hw
    · rw [isBlank_of_startsWord hw] at h; cases h
    · rw [isBlank_of_isDigit hw] at h; cases h
  · rintro rfl
    revert h
    decide
  · rintro rfl
    revert h
    decide

/-- A lexeme is the same in front of other characters that begin as before or that end it. -/
theorem Written.before {x : Lexeme} {spelling rest other : List Char} (h : Written x spelling rest)
    (ho : ∀ d ∈ other.head?, d ∈ rest.head? ∨ Ends d) : Written x spelling other := by
  cases h with
  | word hc ht hr => exact .word hc ht fun d hd => (ho d hd).elim (hr d) (·.1)
  | number hc hrun hf hr =>
    refine .number hc hrun hf fun d hd => (ho d hd).elim (hr d) fun he => ⟨?_, fun _ => he.2.1⟩
    exact (Bool.or_eq_false_iff.1 he.1).2
  | string hq hinner => exact .string hq hinner
  | arrow => exact .arrow
  | sign hk hr =>
    refine .sign hk fun hc hd => ?_
    rcases ho _ hd with hd | he
    · exact hr hc hd
    · exact he.2.2 rfl

/-- What no lexeme can be read from, and why. -/
inductive Unreadable : LexError.Cause → Char → List Char → Prop
  | unterminated {quote text} : isQuote quote = true → quotedContent? quote text = none →
      Unreadable (.unterminated quote) quote text
  | unexpected {c text} : Token.startsWord c = false → isDigit c = false → isQuote c = false →
      kindOfChar? c = none → Unreadable (.unexpected c) c text

theorem read_eq_error_iff {c : Char} {text : List Char} {cause : LexError.Cause} :
    read c text = .error cause ↔ Unreadable cause c text := by
  constructor
  · intro h
    unfold read at h
    split at h
    · cases h
    next hw =>
    split at h
    · cases h
    next hd =>
    split at h
    · next hq =>
      split at h
      · cases h
      · next hs =>
        cases h
        exact .unterminated hq (Option.map_eq_none_iff.1 hs)
    · next hq =>
      split at h
      · cases h
      · next hp =>
        cases h
        unfold punctuation? at hp
        split at hp
        · cases hp
        · exact .unexpected (by simpa using hw) (by simpa using hd) (by simpa using hq)
            (Option.map_eq_none_iff.1 hp)
  · intro h
    cases h with
    | unterminated hq hs =>
      have hclass : Token.startsWord c = false ∧ isDigit c = false := by
        rcases isQuote_iff.1 hq with rfl | rfl <;> decide
      simp only [read, hclass.1, hclass.2, hq, Bool.false_eq_true, if_false, if_true, string?, hs,
        Option.map_none]
    | unexpected hw hd hq hk =>
      have hminus : c ≠ '-' := by
        rintro rfl
        cases hk
      simp [read, hw, hd, hq, punctuation?, hminus, hk]

/-! ## More behind a text -/

/-- A lexeme of a text is the same in front of what ends it, if it is the last of the text. -/
theorem Written.append {x : Lexeme} {spelling rest : List Char} (h : Written x spelling rest)
    {more : List Char} (hm : ∀ d ∈ more.head?, Ends d) : Written x spelling (rest ++ more) := by
  refine h.before fun d hd => ?_
  cases rest with
  | nil => exact .inr (hm d hd)
  | cons r rest => exact .inl hd

/-- Blanks behind a text make nothing readable. -/
theorem Unreadable.append_blanks {cause : LexError.Cause} {c : Char} {text : List Char}
    {gap : List Char} (h : Unreadable cause c text) (hg : ∀ d ∈ gap, isBlank d = true) :
    Unreadable cause c (text ++ gap) := by
  cases h with
  | unexpected hw hd hq hk => exact .unexpected hw hd hq hk
  | unterminated hq hs =>
    have hgap : c ∉ gap := by
      intro hm
      have hb := hg c hm
      rcases isQuote_iff.1 hq with rfl | rfl <;> revert hb <;> decide
    exact .unterminated hq (quotedContent?_append_of_not_mem hs hgap)

end Lexeme

/-! ## Scanning in other surroundings -/

namespace Token

open Lexeme (Written exists_written)

theorem scan_of_error {c : Char} {rest : List Char} {cause : LexError.Cause} (hb : isBlank c = false)
    (h : Lexeme.read c rest = .error cause) (position : Nat) :
    scan position (c :: rest) = .error ⟨cause, position⟩ := by
  rw [scan, if_neg (by simp [hb]), h]

/-- What holds of a text if it does of all that the scanner leaves of it, from the end on. -/
theorem scan_induction {P : List Char → Prop} (nil : P [])
    (blank : ∀ c rest, isBlank c = true → P rest → P (c :: rest))
    (unreadable : ∀ c rest cause, isBlank c = false → Lexeme.read c rest = .error cause → P (c :: rest))
    (lexeme : ∀ c tail rest x, isBlank c = false → Written x (c :: tail) rest → P rest →
      P (c :: tail ++ rest)) (text : List Char) : P text := by
  induction h : text.length using Nat.strongRecOn generalizing text with
  | ind n ih =>
    subst h
    cases text with
    | nil => exact nil
    | cons c rest =>
      cases hb : isBlank c with
      | true => exact blank c rest hb (ih rest.length (by simp) rest rfl)
      | false =>
        cases hx : Lexeme.read c rest with
        | error cause => exact unreadable c rest cause hb hx
        | ok x =>
          obtain ⟨tail, rest', rfl, hwritten⟩ := exists_written hx
          have hshorter : rest'.length < (c :: (tail ++ rest')).length := by
            simp only [List.length_cons, List.length_append]
            omega
          exact lexeme c tail rest' x hb hwritten (ih _ hshorter rest' rfl)

/-- Blanks behind a text make no tokens. -/
theorem scan_append_blanks {gap : List Char} (hg : ∀ d ∈ gap, isBlank d = true) (text : List Char)
    (position : Nat) : scan position (text ++ gap) = scan position text := by
  induction text using scan_induction generalizing position with
  | nil =>
    have hgap := scan_blanks gap hg position []
    rw [List.append_nil, scan_nil] at hgap
    rw [List.nil_append, hgap, scan_nil]
  | blank c rest hb ih => rw [List.cons_append, scan_blank hb, scan_blank hb, ih]
  | unreadable c rest cause hb h =>
    have hgap := Lexeme.read_eq_error_iff.2 ((Lexeme.read_eq_error_iff.1 h).append_blanks hg)
    rw [List.cons_append, scan_of_error hb hgap, scan_of_error hb h]
  | lexeme c tail rest x hb hx ih =>
    have happend := hx.append fun d hd => Lexeme.ends_of_isBlank (hg d (List.mem_of_head? hd))
    rw [List.append_assoc, Lexeme.scan_spelled happend.spells, Lexeme.scan_spelled hx.spells, ih]

/-- A token further on in a text. -/
def moved (t : Token) (count : Nat) : Token := { t with position := t.position + count }

/-- A text further on has the same tokens further on, or fails in the same way. -/
theorem scan_add (position count : Nat) (text : List Char) :
    scan (position + count) text =
      match scan position text with
      | .ok tokens => .ok (tokens.map (·.moved count))
      | .error e => .error ⟨e.cause, e.position + count⟩ := by
  induction text using scan_induction generalizing position with
  | nil => simp
  | blank c rest hb ih => rw [scan_blank hb, scan_blank hb, Nat.add_right_comm, ih]
  | unreadable c rest cause hb h => rw [scan_of_error hb h, scan_of_error hb h]
  | lexeme c tail rest x hb hx ih =>
    rw [Lexeme.scan_spelled hx.spells, Lexeme.scan_spelled hx.spells, Nat.add_right_comm, ih]
    cases scan (position + (c :: tail).length) rest <;> rfl

/-- A text has the tokens that it has without the blanks around it, as far on as these begin. -/
theorem scan_trim (position : Nat) (text : List Char) :
    ∃ count, scan position text = scan (position + count) (trim text) := by
  obtain ⟨before, behind, htext, hbefore, hbehind, -⟩ := exists_trim text
  refine ⟨before.length, ?_⟩
  have hscan : scan position (before ++ (trim text ++ behind)) = scan (position + before.length) (trim text) := by
    rw [scan_blanks before hbefore, scan_append_blanks hbehind]
  rwa [← List.append_assoc, ← htext] at hscan

end Token

end SceneLang
