/-
Writing an invocation, and reading it back.

A `Writing` is an invocation together with every choice that its text leaves open: the blanks
between any two tokens, the separator of each argument, the quotes and the escapes of each text, the
point and the minus of each number, and the semicolon at the end. `Writing.text` is the text, and
the main statement is that reading it in either mode gives back the name and the arguments.

`Scans` says of a piece of text which tokens it is scanned as in front of what follows it. It is
proved for each part of a writing, from the literals up, with the relation of the grammar as what
the tokens are.
-/
import Mathlib.Data.List.TakeWhile
import SceneLang.Proofs.Grammar
import SceneLang.Proofs.Spelling

namespace SceneLang

open Text

/-! ## Digits around a point -/

namespace Numeral

variable {whole : List Char} {fraction : Option (List Char)}

theorem takeWhile_pointed (hw : ∀ d ∈ whole, isDecimalDigit d = true) (fraction : Option (List Char)) :
    (whole ++ Lexeme.pointed fraction).takeWhile isDecimalDigit = whole ∧
      (whole ++ Lexeme.pointed fraction).dropWhile isDecimalDigit = Lexeme.pointed fraction := by
  have hpoint : ∀ c ∈ (Lexeme.pointed fraction).head?, isDecimalDigit c = false := by
    intro c hc
    cases fraction with
    | none => cases hc
    | some f => cases hc; decide
  exact ⟨Lexeme.takeWhile_append_of_head? hw hpoint, Lexeme.dropWhile_append_of_head? hw hpoint⟩

/-- The point says how many of the digits stand behind it. -/
theorem decimalOf_pointed (hw : ∀ d ∈ whole, isDecimalDigit d = true)
    (hf : ∀ f ∈ fraction, ∀ d ∈ f, isDecimalDigit d = true) :
    decimalOf (whole ++ Lexeme.pointed fraction) =
      ⟨ofDigits (whole ++ fraction.getD []), -(fraction.getD []).length⟩ := by
  have hbehind : ((whole ++ Lexeme.pointed fraction).drop (whole.length + 1)).takeWhile isDecimalDigit =
      fraction.getD [] := by
    rw [List.drop_length_add_append]
    cases fraction with
    | none => rfl
    | some f => exact List.takeWhile_eq_self_iff.2 (hf f rfl)
  simp only [decimalOf, (takeWhile_pointed hw fraction).1, hbehind]

end Numeral

/-! ## Writings -/

/-- A run of blanks, possibly empty. -/
abbrev Gap := { gap : List Char // ∀ c ∈ gap, isBlank c = true }

/-- A row of digits, possibly empty. -/
abbrev Digits := { digits : List Char // ∀ c ∈ digits, Token.isDigit c = true }

/-- A word that is no keyword. -/
structure Name where
  first : Char
  tail : List Char
  starts : Token.startsWord first = true
  continues : ∀ c ∈ tail, Token.continuesWord c = true
  free : String.ofList (first :: tail) ∉ Token.keywords

/-- A name as it is written. -/
def Name.spelling (name : Name) : List Char := name.first :: name.tail

/-- A name as a text. -/
def Name.text (name : Name) : String := String.ofList name.spelling

namespace Writing

/-- A literal with the choices of how it is written. -/
inductive Literal where
  /-- a minus with the blanks behind it, a first digit, more digits, and digits behind a point -/
  | number (minus : Option Gap) (first : { c : Char // Token.isDigit c = true }) (more : Digits)
      (fraction : Option Digits)
  /-- the characters of a text, each with whether it is written by its letter if it has one -/
  | text (quote : { c : Char // Token.isQuote c = true }) (content : List (Char × Bool))
  | bool (flag : Bool)
  | null

namespace Literal

/-- The digits of a number behind its point. -/
def fractionDigits (fraction : Option Digits) : List Char := (fraction.map (·.1)).getD []

/-- A number without its minus, as it is written. -/
def numeral (first : Char) (more : List Char) (fraction : Option Digits) : List Char :=
  first :: (more ++ Lexeme.pointed (fraction.map (·.1)))

/-- A literal as it is written. -/
def spelling : Literal → List Char
  | .number minus first more fraction =>
    minus.elim [] (fun gap => '-' :: gap.1) ++ numeral first.1 more.1 fraction
  | .text quote content => quote.1 :: (Lexeme.quotedForms quote.1 content ++ [quote.1])
  | .bool true => ['t', 'r', 'u', 'e']
  | .bool false => ['f', 'a', 'l', 's', 'e']
  | .null => ['n', 'u', 'l', 'l']

/-- The number nearest the decimal that the digits write. -/
def magnitude (first : Char) (more : List Char) (fraction : List Char) : Binary64 :=
  (Decimal.mk (Numeral.ofDigits (first :: (more ++ fraction))) (-fraction.length)).toBinary64 false

/-- What a literal denotes. -/
def value : Literal → Value
  | .number none first more fraction => .number (magnitude first.1 more.1 (fractionDigits fraction))
  | .number (some _) first more fraction => .number (-magnitude first.1 more.1 (fractionDigits fraction))
  | .text _ content => .text (String.ofList (content.map (·.1)))
  | .bool flag => .bool flag
  | .null => .null

end Literal

/-- An argument with the choices of how it is written. -/
structure Argument where
  before : Gap
  name : Name
  behindName : Gap
  /-- an equals sign stands between name and value, not a colon -/
  equals : Bool
  behindSeparator : Gap
  literal : Literal
  behind : Gap

namespace Argument

/-- What stands between name and value. -/
def separator (a : Argument) : Char := if a.equals then '=' else ':'

/-- An argument as it is written. -/
def spelling (a : Argument) : List Char :=
  a.before.1 ++ (a.name.spelling ++ (a.behindName.1 ++
    (a.separator :: (a.behindSeparator.1 ++ (a.literal.spelling ++ a.behind.1)))))

/-- The name of an argument and what its literal denotes. -/
def entry (a : Argument) : String × Value := (a.name.text, a.literal.value)

end Argument

end Writing

/-- An invocation with the choices of how it is written. -/
structure Writing where
  before : Gap
  name : Name
  behindName : Gap
  behindOpening : Gap
  arguments : List Writing.Argument
  distinct : (arguments.map (·.name.text)).Nodup
  behindClosing : Gap
  /-- the blanks behind the semicolon at the end, if there is one -/
  semicolon : Option Gap

namespace Writing

/-- What an invocation ends in: the closing parenthesis, and a semicolon or nothing. -/
def ending (w : Writing) : List Char :=
  ')' :: (w.behindClosing.1 ++ w.semicolon.elim [] (fun gap => ';' :: gap.1))

/-- An invocation as it is written. -/
def spelling (w : Writing) : List Char :=
  w.before.1 ++ (w.name.spelling ++ (w.behindName.1 ++ ('(' :: (w.behindOpening.1 ++
    (join ',' (w.arguments.map Argument.spelling) ++ w.ending)))))

/-- The text of an invocation. -/
def text (w : Writing) : String := String.ofList w.spelling

/-- The arguments in order, each with what it denotes. -/
def entries (w : Writing) : List (String × Value) := w.arguments.map Argument.entry

/-! ## What literals denote -/

theorem isDecimalDigit_of_isDigit {c : Char} (h : Token.isDigit c = true) : isDecimalDigit c = true := by
  obtain ⟨h1, h2⟩ := Token.isDigit_iff.1 h
  have h3 : c.toNat < 48 + 10 := by omega
  simp [isDecimalDigit, digitValue?, zeros, h1, h3]

theorem splitSign_of_isDigit {c : Char} (h : Token.isDigit c = true) (rest : List Char) :
    Numeral.splitSign (c :: rest) = (false, c :: rest) := by
  unfold Numeral.splitSign
  split
  · next heq => cases heq; cases h
  · next heq => cases heq; cases h
  · rfl

theorem decimalOf_append {whole : List Char} (hw : ∀ c ∈ whole, Token.isDigit c = true)
    (fraction : Option Digits) :
    Numeral.decimalOf (whole ++ Lexeme.pointed (fraction.map (·.1))) =
      ⟨Numeral.ofDigits (whole ++ Literal.fractionDigits fraction),
        -(Literal.fractionDigits fraction).length⟩ := by
  refine Numeral.decimalOf_pointed (fun c hc => isDecimalDigit_of_isDigit (hw c hc)) fun f hf d hd => ?_
  obtain ⟨g, -, rfl⟩ := Option.map_eq_some_iff.1 hf
  exact isDecimalDigit_of_isDigit (g.2 d hd)

theorem value_number (first : { c : Char // Token.isDigit c = true }) (more : Digits)
    (fraction : Option Digits) :
    Numeral.value (String.ofList (Literal.numeral first.1 more.1 fraction)).toList =
      Literal.magnitude first.1 more.1 (Literal.fractionDigits fraction) := by
  have hw : ∀ c ∈ first.1 :: more.1, Token.isDigit c = true := by
    intro c hc
    rcases List.mem_cons.1 hc with rfl | hc
    · exact first.2
    · exact more.2 c hc
  rw [String.toList_ofList]
  simp only [Numeral.value, Literal.numeral, splitSign_of_isDigit first.2]
  rw [← List.cons_append, decimalOf_append hw]
  rfl

/-! ## Pieces of text and their tokens -/

/-- In front of `rest`, a piece of text is scanned as tokens with a property, wherever it stands. -/
def Scans (piece rest : List Char) (P : List Token → Prop) : Prop :=
  ∀ position, ∃ tokens, P tokens ∧
    Token.scan position (piece ++ rest) =
      (Token.scan (position + piece.length) rest).map (tokens ++ ·)

variable {a b rest : List Char} {P Q R : List Token → Prop}

theorem Scans.append (ha : Scans a (b ++ rest) P) (hb : Scans b rest Q)
    (h : ∀ s t, P s → Q t → R (s ++ t)) : Scans (a ++ b) rest R := by
  intro position
  obtain ⟨s, hs, h1⟩ := ha position
  obtain ⟨t, ht, h2⟩ := hb (position + a.length)
  refine ⟨s ++ t, h s t hs ht, ?_⟩
  rw [List.append_assoc, h1, h2, List.length_append, Nat.add_assoc]
  cases Token.scan (position + (a.length + b.length)) rest with
  | error e => rfl
  | ok tokens => simp [Except.map]

theorem Scans.imp (ha : Scans a rest P) (h : ∀ t, P t → Q t) : Scans a rest Q := fun position =>
  let ⟨t, ht, hscan⟩ := ha position
  ⟨t, h t ht, hscan⟩

theorem Scans.gap (gap : Gap) (hb : Scans b rest P) : Scans (gap.1 ++ b) rest P := by
  intro position
  obtain ⟨t, ht, h⟩ := hb (position + gap.1.length)
  refine ⟨t, ht, ?_⟩
  rw [List.append_assoc, Token.scan_blanks _ gap.2, h, List.length_append, Nat.add_assoc]

theorem Scans.gap_end (gap : Gap) (h : P []) : Scans gap.1 rest P := by
  intro position
  refine ⟨[], h, ?_⟩
  rw [Token.scan_blanks _ gap.2]
  cases Token.scan (position + gap.1.length) rest <;> rfl

theorem Scans.spelled {x : Lexeme} (hx : x.Spells a rest)
    (h : ∀ position, P [⟨x.kind, x.text, position⟩]) : Scans a rest P :=
  fun position => ⟨_, h position, Lexeme.scan_spelled hx position⟩

/-- One token in front of others. -/
theorem Scans.cons {x : Lexeme} (hx : x.Spells a (b ++ rest)) (hb : Scans b rest Q)
    (h : ∀ position t, Q t → P (⟨x.kind, x.text, position⟩ :: t)) : Scans (a ++ b) rest P :=
  .append (P := fun s => ∃ position, s = [⟨x.kind, x.text, position⟩])
    (.spelled hx fun position => ⟨position, rfl⟩) hb fun _ t ⟨position, hs⟩ ht => hs ▸ h position t ht

/-! ## What ends words and numbers -/

/-- What neither goes on with a word nor with a number. -/
def Delimited (rest : List Char) : Prop :=
  ∀ d ∈ rest.head?, Token.continuesWord d = false ∧ d ≠ '.'

theorem Delimited.word (h : Delimited rest) : ∀ d ∈ rest.head?, Token.continuesWord d = false :=
  fun d hd => (h d hd).1

theorem Delimited.number (h : Delimited rest) (fraction : Option (List Char)) :
    ∀ d ∈ rest.head?, Token.isDigit d = false ∧ (fraction = none → d ≠ '.') := by
  intro d hd
  obtain ⟨hw, hp⟩ := h d hd
  simp only [Token.continuesWord, Bool.or_eq_false_iff] at hw
  exact ⟨hw.2, fun _ => hp⟩

theorem Delimited.sign {c : Char} (h : (Token.kindOfChar? c).isSome = true) : Delimited (c :: rest) := by
  intro d hd
  cases hd
  obtain ⟨kind, hk⟩ := Option.isSome_iff_exists.1 h
  obtain ⟨-, hw, hd, -⟩ := Token.class_of_kindOfChar hk
  refine ⟨by simp [Token.continuesWord, hw, hd], fun hp => ?_⟩
  subst hp
  cases hk

theorem Delimited.gap (gap : Gap) (h : Delimited rest) : Delimited (gap.1 ++ rest) := by
  obtain ⟨gap, hgap⟩ := gap
  cases gap with
  | nil => exact h
  | cons c gap =>
    intro d hd
    cases hd
    have hb := hgap c (List.mem_cons_self ..)
    refine ⟨?_, fun hp => ?_⟩
    · rw [Bool.eq_false_iff]
      intro hw
      rcases Bool.or_eq_true_iff.1 hw with hw | hw
      · rw [Token.isBlank_of_startsWord hw] at hb; cases hb
      · rw [Token.isBlank_of_isDigit hw] at hb; cases hb
    · subst hp
      revert hb
      decide

theorem head?_gap_ne (gap : Gap) {c d : Char} (hb : isBlank d = false) (hne : c ≠ d) :
    (gap.1 ++ c :: rest).head? ≠ some d := by
  obtain ⟨gap, hgap⟩ := gap
  cases gap with
  | nil => simpa using hne
  | cons e gap =>
    intro h
    cases h
    rw [hgap _ (List.mem_cons_self ..)] at hb
    cases hb

/-! ## From literals to arguments -/

open Grammar

variable (lenient : Bool)

/-- What ends a number: no digit, and no point unless it has one already. -/
def EndsNumber (fraction : Option Digits) (rest : List Char) : Prop :=
  ∀ d ∈ rest.head?, Token.isDigit d = false ∧ (fraction.map (·.1) = none → d ≠ '.')

theorem isDigit_of_mem_fraction {fraction : Option Digits} :
    ∀ f ∈ fraction.map (·.1), ∀ d ∈ f, Token.isDigit d = true := by
  intro f hf
  obtain ⟨g, -, rfl⟩ := Option.map_eq_some_iff.1 hf
  exact g.2

/-- Whether a text is the number of a literal without its minus. -/
def Literal.IsNumeral (text : List Char) : Prop :=
  ∃ (first : { c : Char // Token.isDigit c = true }) (more : Digits) (fraction : Option Digits),
    text = numeral first.1 more.1 fraction

theorem Literal.isNumeral_of_digits {c : Char} {run : List Char} {fraction : Option (List Char)}
    (hdigits : ∀ d ∈ c :: run, Token.isDigit d = true) (hf : ∀ f ∈ fraction, ∀ d ∈ f, Token.isDigit d = true) :
    IsNumeral (c :: (run ++ Lexeme.pointed fraction)) := by
  obtain ⟨hc, hrun⟩ := List.forall_mem_cons.1 hdigits
  cases fraction with
  | none => exact ⟨⟨c, hc⟩, ⟨run, hrun⟩, none, rfl⟩
  | some f => exact ⟨⟨c, hc⟩, ⟨run, hrun⟩, some ⟨f, hf f rfl⟩, rfl⟩

theorem scans_numeral (first : { c : Char // Token.isDigit c = true }) (more : Digits)
    (fraction : Option Digits) (hr : EndsNumber fraction rest) :
    Scans (Literal.numeral first.1 more.1 fraction) rest fun t =>
      ∃ position, t = [⟨.number, String.ofList (Literal.numeral first.1 more.1 fraction), position⟩] := by
  exact .spelled (Lexeme.spells_number first.2 more.2 isDigit_of_mem_fraction hr) fun position => ⟨position, rfl⟩

theorem scans_number (minus : Option Gap) (first : { c : Char // Token.isDigit c = true }) (more : Digits)
    (fraction : Option Digits) (hr : EndsNumber fraction rest) :
    Scans (Literal.number minus first more fraction).spelling rest fun t =>
      ∀ behind, IsValue lenient (t ++ behind) (Literal.number minus first more fraction).value behind := by
  have hv := value_number first more fraction
  have hnumeral := scans_numeral first more fraction hr
  cases minus with
  | none =>
    refine hnumeral.imp ?_
    rintro _ ⟨position, rfl⟩ behind
    rw [Literal.value, ← hv]
    exact .number rfl
  | some gap =>
    have hgt : first.1 ≠ '>' := by
      intro h
      exact absurd (h ▸ first.2) (by decide)
    show Scans (['-'] ++ (gap.1 ++ Literal.numeral first.1 more.1 fraction)) rest _
    refine .cons (Lexeme.spells_sign rfl fun _ => ?_) (.gap gap hnumeral) ?_
    · rw [List.append_assoc]
      exact head?_gap_ne gap (by decide) hgt
    · rintro position _ ⟨position', rfl⟩ behind
      rw [Literal.value, ← hv]
      exact .negated rfl rfl

/-- A keyword is one token, whose text is what is written. -/
theorem scans_keyword {c : Char} {tail : List Char} (hr : Delimited rest)
    (hv : ∀ t : Token, t.kind = .keyword → t.text = String.ofList (c :: tail) → ∀ more,
      IsValue lenient (t :: more) v more)
    (hc : Token.startsWord c = true := by decide) (ht : tail.all Token.continuesWord = true := by decide)
    (hk : Token.kindOfWord (String.ofList (c :: tail)) = .keyword := by decide) :
    Scans (c :: tail) rest fun t => ∀ more, IsValue lenient (t ++ more) v more :=
  .spelled (Lexeme.spells_word hc (List.all_eq_true.1 ht) hr.word) fun position more => hv _ hk rfl more

theorem scans_literal (l : Literal) (hr : Delimited rest) :
    Scans l.spelling rest fun t => ∀ more, IsValue lenient (t ++ more) l.value more := by
  cases l with
  | number minus first more fraction => exact scans_number lenient minus first more fraction (hr.number _)
  | text quote content =>
    exact .spelled (Lexeme.spells_string quote.2 content rest) fun _ _ => .string rfl
  | bool flag =>
    cases flag with
    | true => exact scans_keyword lenient hr fun t hk ht _ => .isTrue hk ht
    | false => exact scans_keyword lenient hr fun t hk hf _ => .isFalse hk hf
  | null => exact scans_keyword lenient hr fun t hk hn _ => .isNull hk hn

theorem kindOfWord_name (name : Name) : Token.kindOfWord name.text = .identifier := by
  have hfree : Token.keywords.contains name.text = false := by
    rw [Bool.eq_false_iff, ne_eq, List.contains_iff_mem]
    exact name.free
  rw [Token.kindOfWord, hfree]
  rfl

/-- One token of a kind, and behind it tokens with a property. -/
def Headed (kind : Token.Kind) (Q : List Token → Prop) (tokens : List Token) : Prop :=
  ∃ first tail, tokens = first :: tail ∧ first.kind = kind ∧ Q tail

theorem scans_name (name : Name) (hr : Delimited (b ++ rest)) (hb : Scans b rest Q)
    (h : ∀ position t, Q t → P (⟨.identifier, name.text, position⟩ :: t)) :
    Scans (name.spelling ++ b) rest P :=
  .cons (Lexeme.spells_word name.starts name.continues hr.word) hb fun position t ht =>
    kindOfWord_name name ▸ h position t ht

theorem scans_sign {c : Char} {kind : Token.Kind} (hk : Token.kindOfChar? c = some kind) (hc : c ≠ '-')
    (hb : Scans b rest Q) : Scans (c :: b) rest (Headed kind Q) :=
  .cons (a := [c]) (Lexeme.spells_sign hk fun he => absurd he hc) hb fun _ _ ht => ⟨_, _, rfl, rfl, ht⟩

theorem kind_separator (a : Argument) :
    ∃ kind, Token.kindOfChar? a.separator = some kind ∧ (kind = .colon ∨ kind = .equals) := by
  unfold Argument.separator
  split
  · exact ⟨.equals, rfl, .inr rfl⟩
  · exact ⟨.colon, rfl, .inl rfl⟩

theorem separator_ne_minus (a : Argument) : a.separator ≠ '-' := by
  unfold Argument.separator
  split <;> decide

theorem scans_argument (a : Argument) (hr : Delimited rest) :
    Scans a.spelling rest fun t => ∀ more, IsArgument lenient (t ++ more) a.entry more := by
  obtain ⟨kind, hk, hkind⟩ := kind_separator a
  have hvalue : Scans (a.literal.spelling ++ a.behind.1) rest fun t =>
      ∀ more, IsValue lenient (t ++ more) a.literal.value more :=
    (scans_literal lenient a.literal (hr.gap a.behind)).append (.gap_end a.behind rfl) fun s t hs ht => by
      subst ht
      simpa using hs
  have hsign := scans_sign hk (separator_ne_minus a) (.gap a.behindSeparator hvalue)
  refine .gap a.before (scans_name a.name ?_ (.gap a.behindName hsign) ?_)
  · rw [List.append_assoc]
    exact .gap a.behindName (.sign (by rw [hk]; rfl))
  · rintro position _ ⟨sign, tail, rfl, hs, hv⟩ more
    exact .intro rfl (hs ▸ hkind) (hv more)

theorem scans_arguments (a : Argument) (others : List Argument) (hr : Delimited rest) :
    Scans (join ',' ((a :: others).map Argument.spelling)) rest fun t =>
      ∀ more, IsArguments lenient (t ++ more) ((a :: others).map Argument.entry) more := by
  induction others generalizing a with
  | nil => exact (scans_argument lenient a hr).imp fun t ht more => .last (ht more)
  | cons b others ih =>
    refine (scans_argument lenient a (.sign rfl)).append (scans_sign rfl (by decide) (ih b)) ?_
    rintro s _ hs ⟨comma, tail, rfl, hk, ht⟩ more
    rw [List.append_assoc]
    exact .more (hs _) hk (ht more)

/-! ## Whole invocations -/

theorem scans_ending (w : Writing) :
    Scans w.ending [] (Headed .closeParen fun t => ∀ e, e.kind = .endOfText → IsEnd (t ++ [e])) := by
  have hend : Scans (w.semicolon.elim [] (fun gap => ';' :: gap.1)) [] fun t =>
      ∀ e, e.kind = .endOfText → IsEnd (t ++ [e]) := by
    cases w.semicolon with
    | none => exact .gap_end ⟨[], by simp⟩ fun _ he => .bare he
    | some gap =>
      refine (scans_sign (Q := (· = [])) rfl (by decide) (.gap_end gap rfl)).imp ?_
      rintro _ ⟨semicolon, _, rfl, hk, rfl⟩ e he
      exact .semicolon hk he
  exact scans_sign rfl (by decide) (.gap w.behindClosing hend)

theorem scans_list (w : Writing) :
    Scans (join ',' (w.arguments.map Argument.spelling) ++ w.ending) [] fun t =>
      ∀ e, e.kind = .endOfText → ∃ closing tail, IsList lenient (t ++ [e]) w.entries (closing :: tail) ∧
        closing.kind = .closeParen ∧ IsEnd tail := by
  unfold entries
  cases w.arguments with
  | nil =>
    refine (scans_ending w).imp ?_
    rintro _ ⟨closing, tail, rfl, hk, htail⟩ e he
    exact ⟨closing, tail ++ [e], .none, hk, htail e he⟩
  | cons a others =>
    refine (scans_arguments lenient a others (.sign rfl)).append (scans_ending w) ?_
    rintro s _ hs ⟨closing, tail, rfl, hk, htail⟩ e he
    refine ⟨closing, tail ++ [e], ?_, hk, htail e he⟩
    rw [List.append_assoc]
    exact .some (hs _)

theorem scans_spelling (w : Writing) :
    Scans w.spelling [] fun t =>
      ∀ e, e.kind = .endOfText → IsInvocation lenient (t ++ [e]) w.name.text w.entries := by
  have hopening : Scans ('(' :: _) [] (Headed .openParen _) :=
    scans_sign rfl (by decide) (.gap w.behindOpening (scans_list lenient w))
  have hdistinct : (w.entries.map (·.1)).Nodup := by
    rw [entries, List.map_map]
    exact w.distinct
  refine .gap w.before (scans_name w.name ?_ (.gap w.behindName hopening) ?_)
  · rw [List.append_assoc]
    exact .gap w.behindName (.sign rfl)
  · rintro position _ ⟨opening, inner, rfl, hk, hinner⟩ e he
    obtain ⟨closing, tail, hlist, hc, hend⟩ := hinner e he
    exact .intro rfl hk hlist hc hend hdistinct

theorem tokenize_spelling (w : Writing) :
    ∃ tokens, Token.tokenize w.spelling = .ok tokens ∧ IsInvocation lenient tokens w.name.text w.entries := by
  obtain ⟨t, ht, hscan⟩ := scans_spelling lenient w 0
  refine ⟨t ++ [Token.atEnd w.spelling.length], ?_, ht _ rfl⟩
  rw [List.append_nil, Token.scan_nil] at hscan
  simp [Token.tokenize, hscan, Except.map]

/-- **Writing and reading back.** However an invocation is written, in either mode its text is read as
that name with those arguments, in their order. -/
theorem parse_text (w : Writing) :
    ∃ parameters : Parameters, parameters.entries = w.entries ∧
      Invocation.parse lenient w.text = ⟨w.text, .ok ⟨w.name.text, parameters⟩⟩ := by
  obtain ⟨tokens, ht, h⟩ := tokenize_spelling lenient w
  have ht' : Token.tokenize w.text.toList = .ok tokens := by rw [text, String.toList_ofList, ht]
  obtain ⟨⟨name, parameters⟩, hp, rfl, he⟩ := Invocation.parse_of_isInvocation ht' h
  exact ⟨parameters, he, hp⟩

end Writing

end SceneLang
