/-
Tokens written out, and read back.

A `Rendering` is a list of tokens together with every choice that a text of them leaves open: the
quotes and the escapes of each string, the blanks between any two tokens, of which there is at least
one, and the blanks around them all. The main statement is that reading its text gives back the
tokens, each where it was written.

* `Rendering.IsForm`: what a token of a kind and a text is written as.
* `Rendering.tokenize_text`: the tokens of the text of a rendering.
* `Rendering.exists_rendering`: no text has other tokens.
-/
import SceneLang.Proofs.Lexemes

namespace SceneLang

open Text Token

namespace Rendering

/-- What tokens are written as, by kind and text. Each character of a string comes with whether it is
written by its letter if it has one. -/
inductive IsForm : Token.Kind → String → List Char → Prop
  | identifier {first tail} : Token.startsWord first = true → (∀ d ∈ tail, continuesWord d = true) →
      String.ofList (first :: tail) ∉ ["true", "false", "null"] →
      IsForm .identifier (String.ofList (first :: tail)) (first :: tail)
  | keyword {word} : word ∈ ["true", "false", "null"] → IsForm .keyword word word.toList
  | number {first run fraction} : isDigit first = true → (∀ d ∈ run, isDigit d = true) →
      (∀ f ∈ fraction, ∀ d ∈ f, isDigit d = true) →
      IsForm .number (String.ofList (first :: (run ++ Lexeme.pointed fraction)))
        (first :: (run ++ Lexeme.pointed fraction))
  | string {quote} (content : List (Char × Bool)) : isQuote quote = true →
      IsForm .string (String.ofList (content.map (·.1))) (quote :: (Lexeme.quotedForms quote content ++ [quote]))
  | arrow : IsForm .arrow "->" ['-', '>']
  | sign {c kind} : (c, kind) ∈ signs → IsForm kind (String.singleton c) [c]

/-- A token as it is written, and the blanks in front of it. -/
structure Item where
  kind : Token.Kind
  text : String
  spelling : List Char
  isForm : IsForm kind text spelling
  before : List Char
  isBlank_before : ∀ c ∈ before, isBlank c = true

/-- Tokens as they are written, one after the other. -/
def written (items : List Item) : List Char := items.flatMap fun x => x.before ++ x.spelling

/-- The tokens that are written from an offset on, each where it is written. -/
def placed (position : Nat) : List Item → List Token
  | [] => []
  | x :: items =>
    ⟨x.kind, x.text, position + x.before.length⟩ ::
      placed (position + x.before.length + x.spelling.length) items

end Rendering

/-- Tokens as they are written, with blanks between any two, and the blanks behind the last. -/
structure Rendering where
  items : List Rendering.Item
  apart : ∀ x ∈ items.tail, x.before ≠ []
  behind : List Char
  isBlank_behind : ∀ c ∈ behind, isBlank c = true

namespace Rendering

/-- The text of a rendering. -/
def text (r : Rendering) : List Char := written r.items ++ r.behind

/-- The tokens of a rendering. -/
def tokens (r : Rendering) : List Token := placed 0 r.items

/-! ## One token -/

theorem exists_word_of_keyword {word : String} (h : word ∈ ["true", "false", "null"]) : ∃ first tail,
    word.toList = first :: tail ∧ Token.startsWord first = true ∧ ∀ d ∈ tail, continuesWord d = true := by
  simp only [List.mem_cons, List.not_mem_nil, or_false] at h
  rcases h with rfl | rfl | rfl
  · exact ⟨'t', ['r', 'u', 'e'], by decide, by decide, List.all_eq_true.1 (by decide)⟩
  · exact ⟨'f', ['a', 'l', 's', 'e'], by decide, by decide, List.all_eq_true.1 (by decide)⟩
  · exact ⟨'n', ['u', 'l', 'l'], by decide, by decide, List.all_eq_true.1 (by decide)⟩

/-- What a token is written as is read as the token, in front of all that ends it. -/
theorem IsForm.spells {kind : Token.Kind} {text : String} {spelling rest : List Char} (h : IsForm kind text spelling)
    (hr : ∀ d ∈ rest.head?, Lexeme.Ends d) :
    ∃ x : Lexeme, x.kind = kind ∧ x.text = text ∧ x.Spells spelling rest := by
  cases h with
  | identifier hc ht hfree =>
    refine ⟨_, ?_, rfl, Lexeme.spells_word hc ht fun d hd => (hr d hd).1⟩
    exact if_neg (mt List.contains_iff_mem.1 hfree)
  | keyword hk =>
    obtain ⟨first, tail, hword, hc, ht⟩ := exists_word_of_keyword hk
    have htext : String.ofList (first :: tail) = text := by rw [← hword, String.ofList_toList]
    rw [hword]
    refine ⟨_, ?_, htext, Lexeme.spells_word hc ht fun d hd => (hr d hd).1⟩
    exact if_pos (htext ▸ List.contains_iff_mem.2 hk)
  | number hc hrun hf =>
    refine ⟨_, rfl, rfl, Lexeme.spells_number hc hrun hf fun d hd => ?_⟩
    obtain ⟨hword, hpoint, -⟩ := hr d hd
    exact ⟨(Bool.or_eq_false_iff.1 hword).2, fun _ => hpoint⟩
  | string content hq => exact ⟨_, rfl, rfl, Lexeme.spells_string hq content rest⟩
  | arrow => exact ⟨_, rfl, rfl, Lexeme.Written.arrow.spells⟩
  | sign hk =>
    refine ⟨_, rfl, rfl, Lexeme.spells_sign (mem_signs_iff.1 hk) fun _ hd => ?_⟩
    exact (hr _ hd).2.2 rfl

/-! ## All tokens -/

/-- What is written behind a token begins with a blank. -/
theorem isBlank_of_head? {items : List Item} {behind : List Char} (hi : ∀ x ∈ items, x.before ≠ [])
    (hb : ∀ c ∈ behind, isBlank c = true) : ∀ d ∈ (written items ++ behind).head?, isBlank d = true := by
  intro d hd
  cases items with
  | nil => exact hb d (List.mem_of_head? hd)
  | cons x items =>
    obtain ⟨c, before, hx⟩ := List.exists_cons_of_ne_nil (hi x (List.mem_cons_self ..))
    have hdc : c = d := by simpa [written, hx] using hd
    exact x.isBlank_before d (by simp [hx, hdc])

theorem scan_written {items : List Item} {behind : List Char} (hi : ∀ x ∈ items.tail, x.before ≠ [])
    (hb : ∀ c ∈ behind, isBlank c = true) (position : Nat) :
    scan position (written items ++ behind) = .ok (placed position items) := by
  induction items generalizing position with
  | nil =>
    have hscan := scan_blanks behind hb position []
    rw [List.append_nil, scan_nil] at hscan
    exact hscan
  | cons x items ih =>
    have hends : ∀ d ∈ (written items ++ behind).head?, Lexeme.Ends d := fun d hd =>
      Lexeme.ends_of_isBlank (isBlank_of_head? hi hb d hd)
    obtain ⟨lexeme, hkind, htext, hspells⟩ := x.isForm.spells hends
    have hwritten : written (x :: items) ++ behind = x.before ++ (x.spelling ++ (written items ++ behind)) := by
      simp [written]
    rw [hwritten, scan_blanks _ x.isBlank_before, Lexeme.scan_spelled hspells,
      ih fun y hy => hi y (List.mem_of_mem_tail hy), hkind, htext]
    rfl

/-- **Writing tokens and reading them back.** However tokens are written, with blanks between any two,
their text is read as the same tokens in the same order, each where it was written. -/
theorem tokenize_text (r : Rendering) : tokenize r.text = .ok (r.tokens ++ [atEnd r.text.length]) := by
  have hscan : scan 0 r.text = .ok r.tokens := scan_written r.apart r.isBlank_behind 0
  exact tokenize_of_scan hscan

/-! ## The tokens of texts -/

/-- What is read as a lexeme can be written. -/
theorem exists_isForm {x : Lexeme} {spelling rest : List Char} (h : Lexeme.Written x spelling rest) :
    ∃ form, IsForm x.kind x.text form := by
  cases h with
  | @word c tail _ hc ht _ =>
    by_cases hk : String.ofList (c :: tail) ∈ keywords
    · rw [kindOfWord, if_pos (List.contains_iff_mem.2 hk)]
      exact ⟨_, .keyword hk⟩
    · rw [kindOfWord, if_neg (by simpa using hk)]
      exact ⟨_, .identifier hc ht hk⟩
  | number hc hrun hf _ => exact ⟨_, .number hc hrun hf⟩
  | @string quote _ content _ hq _ =>
    have hform := IsForm.string (content.map (·, false)) hq
    rw [List.map_map, Function.comp_def, List.map_id'] at hform
    exact ⟨_, hform⟩
  | arrow => exact ⟨_, .arrow⟩
  | sign hk _ => exact ⟨_, .sign (mem_signs_iff.2 hk)⟩

theorem map_placed (position : Nat) (items : List Item) :
    (placed position items).map (fun t => (t.kind, t.text)) = items.map fun x => (x.kind, x.text) := by
  induction items generalizing position with
  | nil => rfl
  | cons x items ih => rw [placed, List.map_cons, List.map_cons, ih]

/-- Tokens that can be written one by one can be written with a blank in front of each. -/
theorem exists_items {tokens : List Token} (h : ∀ t ∈ tokens, ∃ form, IsForm t.kind t.text form) :
    ∃ items : List Item, (∀ x ∈ items, x.before ≠ []) ∧
      items.map (fun x => (x.kind, x.text)) = tokens.map fun t => (t.kind, t.text) := by
  induction tokens with
  | nil => exact ⟨[], by simp, rfl⟩
  | cons t tokens ih =>
    obtain ⟨⟨form, hform⟩, hforms⟩ := List.forall_mem_cons.1 h
    obtain ⟨items, hapart, hmap⟩ := ih hforms
    refine ⟨⟨t.kind, t.text, form, hform, [' '], List.forall_mem_singleton.2 (by decide)⟩ :: items, ?_, ?_⟩
    · exact List.forall_mem_cons.2 ⟨by simp, hapart⟩
    · rw [List.map_cons, List.map_cons, hmap]

/-- The tokens of every text are those of a rendering, apart from where they stand. -/
theorem exists_rendering {text : List Char} {tokens : List Token} (h : scan 0 text = .ok tokens) :
    ∃ r : Rendering, r.tokens.map (fun t => (t.kind, t.text)) = tokens.map fun t => (t.kind, t.text) := by
  have hforms : ∀ t ∈ tokens, ∃ form, IsForm t.kind t.text form := by
    refine forall_of_scan (fun {c rest x} _ hx => ?_) h
    obtain ⟨tail, rest, rfl, hwritten⟩ := Lexeme.exists_written hx
    exact exists_isForm hwritten
  obtain ⟨items, hapart, hmap⟩ := exists_items hforms
  refine ⟨⟨items, fun x hx => hapart x (List.mem_of_mem_tail hx), [], by simp⟩, ?_⟩
  rw [Rendering.tokens, map_placed, hmap]

end Rendering

end SceneLang
