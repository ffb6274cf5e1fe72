/-
Names that are declared and names that are written.

In a text a parameter is supplied under a word of ASCII that is no keyword (`Name`). Every such name
can be declared, and of the names that can be declared it is the only kind that a text can supply. A
declaration takes more: a keyword, and identifiers beyond ASCII. A required parameter of such a name
is supplied by no text.

* `Text.startsIdentifier_eq`, `Text.continuesIdentifier_eq`: the two notions of a name agree on ASCII.
* `Invocation.exists_name`: whatever text supplies a parameter, its name is a `Name`.
* `Invocation.writable_iff`: the names that can be written.
-/
import SceneLang.Proofs.NumberText
import SceneLang.Proofs.Spans
import SceneLang.Schema.Declaration

namespace SceneLang

open Text

/-! ## Identifiers in ASCII -/

namespace Text

/-- What holds of every code point of ASCII holds of every character of ASCII. -/
theorem of_ascii {p : Char → Bool} (h : (List.range 128).all (fun n => p (Char.ofNat n)) = true) {c : Char}
    (hc : c.toNat < 128) : p c = true := by
  have hat := List.all_eq_true.1 h c.toNat (List.mem_range.2 hc)
  rwa [Char.ofNat_toNat] at hat

theorem startsIdentifier_eq {c : Char} (hc : c.toNat < 128) : startsIdentifier c = Token.startsWord c :=
  beq_iff_eq.1 (of_ascii (p := fun c => startsIdentifier c == Token.startsWord c) (by decide +kernel) hc)

theorem continuesIdentifier_eq {c : Char} (hc : c.toNat < 128) :
    continuesIdentifier c = Token.continuesWord c :=
  beq_iff_eq.1 (of_ascii (p := fun c => continuesIdentifier c == Token.continuesWord c) (by decide +kernel) hc)

end Text

theorem Token.toNat_of_continuesWord {c : Char} (h : continuesWord c = true) : c.toNat < 128 := by
  rcases Bool.or_eq_true_iff.1 h with hw | hd
  · have := startsWord_iff.1 hw
    omega
  · have := isDigit_iff.1 hd
    omega

/-- The names that can be written are the identifiers of ASCII that are no keywords. -/
theorem exists_name_iff (name : String) : (∃ n : Name, n.text = name) ↔
    isIdentifier name = true ∧ (∀ c ∈ name.toList, c.toNat < 128) ∧ name ∉ Token.keywords := by
  constructor
  · rintro ⟨n, rfl⟩
    have hall : ∀ c ∈ n.text.toList, Token.continuesWord c = true := by
      rw [Name.text, String.toList_ofList]
      exact List.forall_mem_cons.2 ⟨by simp [Token.continuesWord, n.starts], n.continues⟩
    have hascii : ∀ c ∈ n.text.toList, c.toNat < 128 := fun c hc => Token.toNat_of_continuesWord (hall c hc)
    refine ⟨?_, hascii, n.free⟩
    rw [Name.text, Name.spelling, String.toList_ofList, List.forall_mem_cons] at hascii
    simp only [isIdentifier, Name.text, Name.spelling, String.toList_ofList, Bool.and_eq_true, List.all_eq_true]
    refine ⟨?_, fun c hc => ?_⟩
    · rw [startsIdentifier_eq hascii.1, n.starts]
    · rw [continuesIdentifier_eq (hascii.2 c hc), n.continues c hc]
  · rintro ⟨hidentifier, hascii, hfree⟩
    cases hname : name.toList with
    | nil => simp [isIdentifier, hname] at hidentifier
    | cons first tail =>
      have htext : String.ofList (first :: tail) = name := by rw [← hname, String.ofList_toList]
      rw [hname, List.forall_mem_cons] at hascii
      simp only [isIdentifier, hname, Bool.and_eq_true, List.all_eq_true] at hidentifier
      refine ⟨⟨first, tail, ?_, fun c hc => ?_, htext ▸ hfree⟩, htext⟩
      · rw [← startsIdentifier_eq hascii.1, hidentifier.1]
      · rw [← continuesIdentifier_eq (hascii.2 c hc), hidentifier.2 c hc]

/-! ## Declaring a name -/

/-- Whether a parameter can be declared under a name. -/
def Declarable (name : String) : Prop :=
  ∃ p : Parameter, ({ name := some (.text name) } : Declaration).parameter = .ok p ∧ p.name = name

theorem declarable_iff (name : String) : Declarable name ↔ isIdentifier name = true := by
  constructor
  · rintro ⟨p, -, rfl⟩
    exact p.named
  · intro h
    refine ⟨⟨name, .any, true, .null, "", h⟩, ?_, rfl⟩
    simp only [Declaration.parameter, Declaration.readName, dif_pos h, Declaration.readType,
      Declaration.readRequired, Declaration.readDefault, Declaration.readDescription]

/-! ## Writing a name -/

/-- Whether a text is one identifier and nothing else. -/
def Writable (name : String) : Prop :=
  Token.tokenize name.toList = .ok [⟨.identifier, name, 0⟩, Token.atEnd name.toList.length]

theorem Name.writable (n : Name) : Writable n.text := by
  have hk : Token.kindOfWord (String.ofList (n.first :: n.tail)) = .identifier := Writing.kindOfWord_name n
  have hspells : Lexeme.Spells _ n.spelling [] := Lexeme.spells_word n.starts n.continues (by simp)
  have hscan := Lexeme.scan_spelled hspells 0
  rw [List.append_nil, Token.scan_nil] at hscan
  rw [Writable, Name.text, String.toList_ofList, Token.tokenize_of_scan hscan, hk]
  rfl

/-- An identifier in a text is a name. -/
theorem exists_name_of_tokenize {text : List Char} {tokens : List Token} (h : Token.tokenize text = .ok tokens)
    {t : Token} (ht : t ∈ tokens) (hk : t.kind = .identifier) : ∃ n : Name, n.text = t.text := by
  have hend : t.kind ≠ .endOfText := by
    rw [hk]
    decide
  refine Token.forall_of_tokenize (P := fun t => t.kind = .identifier → ∃ n : Name, n.text = t.text)
    (fun {c rest x} _ hx hkind => ?_) h t ht hend hk
  obtain ⟨tail, rest, rfl, hwritten⟩ := Lexeme.exists_written hx
  have hreads := Token.reads_of_written hwritten
  rw [show x.kind = .identifier from hkind] at hreads
  obtain ⟨htext, ⟨⟨first, tail, hspelling, hfirst, htail⟩, -⟩, hfree⟩ := hreads
  rw [hspelling] at htext
  exact ⟨⟨first, tail, hfirst, htail, htext ▸ hfree⟩, htext.symm⟩

/-! ## Supplying a parameter -/

namespace Grammar

variable {lenient : Bool} {tokens rest : List Token}

theorem IsArgument.exists_name {entry : String × Value} (h : IsArgument lenient tokens entry rest) :
    ∃ t ∈ tokens, t.kind = .identifier ∧ t.text = entry.1 := by
  cases h with
  | intro hk _ _ => exact ⟨_, List.mem_cons_self .., hk, rfl⟩

theorem IsArguments.exists_name {entries : List (String × Value)} (h : IsArguments lenient tokens entries rest) :
    ∀ entry ∈ entries, ∃ t ∈ tokens, t.kind = .identifier ∧ t.text = entry.1 := by
  induction h with
  | last harg => exact List.forall_mem_singleton.2 harg.exists_name
  | more harg _ _ ih =>
    refine List.forall_mem_cons.2 ⟨harg.exists_name, fun entry hentry => ?_⟩
    obtain ⟨t, ht, hname⟩ := ih entry hentry
    exact ⟨t, harg.suffix.subset (List.mem_cons_of_mem _ ht), hname⟩

/-- The parameters of an invocation are named by identifiers in it. -/
theorem IsInvocation.exists_name {name : String} {entries : List (String × Value)}
    (h : IsInvocation lenient tokens name entries) :
    ∀ entry ∈ entries, ∃ t ∈ tokens, t.kind = .identifier ∧ t.text = entry.1 := by
  cases h with
  | intro _ _ hlist _ _ _ =>
    cases hlist with
    | none => simp
    | some hargs =>
      intro entry hentry
      obtain ⟨t, ht, hname⟩ := hargs.exists_name entry hentry
      exact ⟨t, List.mem_cons_of_mem _ (List.mem_cons_of_mem _ ht), hname⟩

end Grammar

namespace Writing

/-- The command with a literal under a name as its only argument. -/
def supplying (parameter : Name) (literal : Literal) : Writing :=
  { single literal with
    arguments := [⟨noGap, parameter, noGap, false, blank, literal, noGap⟩]
    distinct := by simp }

/-- The digit one. -/
def one : Literal := .number none ⟨'1', by decide⟩ ⟨[], by simp⟩ none

theorem text_supplying (parameter : Name) : (supplying parameter one).text = "f(" ++ parameter.text ++ ": 1)" := by
  rw [← String.toList_inj, text, String.toList_ofList]
  simp [supplying, one, single, spelling, Argument.spelling, ending, commandF, Name.text, Name.spelling, noGap, blank, join,
    Argument.separator, Literal.spelling, Literal.numeral, Lexeme.pointed]

end Writing

namespace Invocation

open Grammar Writing

variable {lenient : Bool} {name : String}

/-- Whether a text supplies a parameter of a name. -/
def Supplies (lenient : Bool) (text name : String) : Prop :=
  ∃ call, (parse lenient text).reading = .ok call ∧ name ∈ call.parameters.keys

/-- Whether a name is that of the only parameter of the text that has it in front of a value. -/
def SuppliedAlone (lenient : Bool) (name : String) : Prop :=
  ∃ call, (parse lenient ("f(" ++ name ++ ": 1)")).reading = .ok call ∧ call.parameters.keys = [name]

/-- Whatever text supplies a parameter, it is under a name. -/
theorem Supplies.exists_name {text : String} (h : Supplies lenient text name) : ∃ n : Name, n.text = name := by
  obtain ⟨call, hcall, hname⟩ := h
  obtain ⟨tokens, ht, hinvocation⟩ := isInvocation_of_reading hcall
  obtain ⟨entry, hentry, rfl⟩ := List.mem_map.1 hname
  obtain ⟨t, hmem, hk, htext⟩ := hinvocation.exists_name entry hentry
  exact htext ▸ exists_name_of_tokenize ht hmem hk

theorem SuppliedAlone.supplies (h : SuppliedAlone lenient name) : Supplies lenient ("f(" ++ name ++ ": 1)") name := by
  obtain ⟨call, hcall, hkeys⟩ := h
  exact ⟨call, hcall, hkeys ▸ List.mem_singleton_self name⟩

/-- Every name is supplied by its text. -/
theorem suppliedAlone_of_name (lenient : Bool) (n : Name) : SuppliedAlone lenient n.text := by
  obtain ⟨parameters, hentries, hparse⟩ := parse_text lenient (supplying n one)
  rw [text_supplying] at hparse
  refine ⟨_, by rw [hparse], ?_⟩
  rw [OrderedMap.keys, hentries]
  rfl

/-- **The names that can be written.** A text is one identifier exactly if a parameter can be declared
under it and it is in ASCII and no keyword. These are the names under which a text can supply a
parameter, in either mode, and for each of them the text that has it in front of a value does. -/
theorem writable_iff (lenient : Bool) (name : String) :
    (Writable name ↔ Declarable name ∧ (∀ c ∈ name.toList, c.toNat < 128) ∧ name ∉ Token.keywords) ∧
      (Writable name ↔ SuppliedAlone lenient name) ∧ (Writable name ↔ ∃ text, Supplies lenient text name) := by
  have hwritable : Writable name ↔ ∃ n : Name, n.text = name := by
    constructor
    · intro h
      exact exists_name_of_tokenize h (List.mem_cons_self ..) rfl
    · rintro ⟨n, rfl⟩
      exact n.writable
  rw [hwritable]
  refine ⟨?_, ⟨?_, fun h => h.supplies.exists_name⟩, ⟨?_, fun ⟨_, h⟩ => h.exists_name⟩⟩
  · rw [exists_name_iff, declarable_iff]
  · rintro ⟨n, rfl⟩
    exact suppliedAlone_of_name lenient n
  · rintro ⟨n, rfl⟩
    exact ⟨_, (suppliedAlone_of_name lenient n).supplies⟩

/-- A keyword can be declared, and so can an identifier beyond ASCII, but no text supplies a parameter
under either. -/
theorem not_supplies_of_declarable :
    (Declarable "true" ∧ ¬Writable "true" ∧ ∀ lenient text, ¬Supplies lenient text "true") ∧
      (Declarable "\u00e9" ∧ ¬Writable "\u00e9" ∧ ∀ lenient text, ¬Supplies lenient text "\u00e9") := by
  have hno {name : String} (h : ¬∃ n : Name, n.text = name) :
      ¬Writable name ∧ ∀ lenient text, ¬Supplies lenient text name :=
    ⟨fun hw => h (exists_name_of_tokenize hw (List.mem_cons_self ..) rfl), fun _ _ hs => h hs.exists_name⟩
  refine ⟨⟨(declarable_iff _).2 (by decide +kernel), hno ?_⟩, (declarable_iff _).2 (by decide +kernel), hno ?_⟩
  · rw [exists_name_iff]
    exact fun h => h.2.2 (by decide)
  · rw [exists_name_iff]
    exact fun h => absurd (h.2.1 '\u00e9' (by simp)) (by decide)

end Invocation

end SceneLang
