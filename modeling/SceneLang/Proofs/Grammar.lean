/-
The grammar of invocations, and that the parser reads exactly it.

The grammar is a family of relations on tokens: `IsValue`, `IsArgument` and `IsArguments` say which
tokens stand at the head of a list, what they denote and which tokens are left behind them, and
`IsInvocation` says it of all the tokens of a text. They know of no cursor and of no error.

Each reading of the cursor is then tied to its relation in both directions: what is read is in the
grammar, and what is in the grammar is read. The tokens that the cursor still has before it
(`Cursor.remaining`) are where the two sides meet.

* `Invocation.reading_eq_ok_iff`: a text is read as a call exactly if its tokens are that invocation.
* `Invocation.rejected_of_isValid`: what there is of a text that is no call.
-/
import SceneLang.Invocation.Parser
import SceneLang.Proofs.Scanning

namespace SceneLang

namespace Grammar

/-- The kinds of token that are no literal and close no argument. -/
def IsStray (kind : Token.Kind) : Prop :=
  kind ∉ [.number, .string, .keyword, .closeParen, .comma, .semicolon, .endOfText]

/-- A value at the head of some tokens, and the tokens behind it. In lenient mode a stray token
stands for null, a minus only if it is not the sign of a number. -/
inductive IsValue (lenient : Bool) : List Token → Value → List Token → Prop
  | number {t rest} : t.kind = .number →
      IsValue lenient (t :: rest) (.number (Numeral.value t.text.toList)) rest
  | string {t rest} : t.kind = .string → IsValue lenient (t :: rest) (.text t.text) rest
  | isTrue {t rest} : t.kind = .keyword → t.text = "true" → IsValue lenient (t :: rest) (.bool true) rest
  | isFalse {t rest} : t.kind = .keyword → t.text = "false" → IsValue lenient (t :: rest) (.bool false) rest
  | isNull {t rest} : t.kind = .keyword → t.text = "null" → IsValue lenient (t :: rest) .null rest
  | negated {m t rest} : m.kind = .minus → t.kind = .number →
      IsValue lenient (m :: t :: rest) (.number (-Numeral.value t.text.toList)) rest
  | stray {t rest} : lenient = true → IsStray t.kind →
      (t.kind = .minus → ∀ n ∈ rest.head?, n.kind ≠ .number) → IsValue lenient (t :: rest) .null rest

/-- A name, a colon or an equals sign, and a value. -/
inductive IsArgument (lenient : Bool) : List Token → String × Value → List Token → Prop
  | intro {name separator tokens v rest} : name.kind = .identifier →
      separator.kind = .colon ∨ separator.kind = .equals → IsValue lenient tokens v rest →
      IsArgument lenient (name :: separator :: tokens) (name.text, v) rest

/-- One argument or more, with commas between them. -/
inductive IsArguments (lenient : Bool) : List Token → List (String × Value) → List Token → Prop
  | last {tokens entry rest} : IsArgument lenient tokens entry rest →
      IsArguments lenient tokens [entry] rest
  | more {tokens entry comma others entries rest} : IsArgument lenient tokens entry (comma :: others) →
      comma.kind = .comma → IsArguments lenient others entries rest →
      IsArguments lenient tokens (entry :: entries) rest

/-- What stands between the parentheses: nothing, or arguments. -/
inductive IsList (lenient : Bool) : List Token → List (String × Value) → List Token → Prop
  | none {rest} : IsList lenient rest [] rest
  | some {tokens entries rest} : IsArguments lenient tokens entries rest → IsList lenient tokens entries rest

/-- What stands behind the closing parenthesis: a semicolon or nothing, and the end of the text. -/
inductive IsEnd : List Token → Prop
  | bare {e} : e.kind = .endOfText → IsEnd [e]
  | semicolon {s e} : s.kind = .semicolon → e.kind = .endOfText → IsEnd [s, e]

/-- All the tokens of an invocation, its name, and the arguments with what they denote. -/
inductive IsInvocation (lenient : Bool) : List Token → String → List (String × Value) → Prop
  | intro {name opening tokens entries closing rest} : name.kind = .identifier →
      opening.kind = .openParen → IsList lenient tokens entries (closing :: rest) →
      closing.kind = .closeParen → IsEnd rest → (entries.map (·.1)).Nodup →
      IsInvocation lenient (name :: opening :: tokens) name.text entries

/-- Whether all keywords among some tokens are `true`, `false` and `null`. -/
def Worded (tokens : List Token) : Prop := ∀ t ∈ tokens, t.kind = .keyword → t.text ∈ ["true", "false", "null"]

/-! ## What is left is part of what there was -/

variable {lenient : Bool} {tokens rest : List Token}

theorem Worded.of_suffix (h : Worded tokens) (hs : rest <:+ tokens) : Worded rest := fun t ht => h t (hs.subset ht)

theorem IsValue.suffix {v : Value} (h : IsValue lenient tokens v rest) : rest <:+ tokens := by
  cases h with
  | number | string | isTrue | isFalse | isNull | stray => exact List.suffix_cons _ _
  | negated => exact (List.suffix_cons _ _).trans (List.suffix_cons _ _)

theorem IsArgument.suffix {entry : String × Value} (h : IsArgument lenient tokens entry rest) :
    rest <:+ tokens := by
  cases h with
  | intro _ _ hv => exact (hv.suffix.trans (List.suffix_cons _ _)).trans (List.suffix_cons _ _)

theorem IsArguments.suffix {entries : List (String × Value)} (h : IsArguments lenient tokens entries rest) :
    rest <:+ tokens := by
  induction h with
  | last h => exact h.suffix
  | more h _ _ ih => exact (ih.trans (List.suffix_cons _ _)).trans h.suffix

theorem IsArguments.head {entries : List (String × Value)} (h : IsArguments lenient tokens entries rest) :
    ∃ t ∈ tokens.head?, t.kind = .identifier := by
  cases h with
  | last h | more h => cases h with | intro hk => exact ⟨_, rfl, hk⟩

theorem IsList.suffix {entries : List (String × Value)} (h : IsList lenient tokens entries rest) :
    rest <:+ tokens := by
  cases h with
  | none => exact List.suffix_refl _
  | some h => exact h.suffix

end Grammar

/-! ## The tokens before a cursor -/

namespace Cursor

open Grammar

/-- The tokens before a cursor, and the end of the text after them. -/
def remaining (c : Cursor) : List Token := c.ahead ++ [Token.atEnd c.length]

theorem head?_remaining (c : Cursor) : c.remaining.head? = some c.peek := by
  obtain ⟨behind, ahead, length⟩ := c
  cases ahead <;> rfl

theorem peek_advance (c : Cursor) : c.advance.peek = c.lookAhead 1 := by
  obtain ⟨behind, ahead, length⟩ := c
  cases ahead <;> rfl

theorem remaining_of_kind {c : Cursor} (h : c.peek.kind ≠ .endOfText) :
    c.remaining = c.peek :: c.advance.remaining := by
  obtain ⟨behind, ahead, length⟩ := c
  cases ahead with
  | nil => exact absurd rfl h
  | cons t ahead => rfl

theorem remaining_advance (c : Cursor) : c.advance.remaining <:+ c.remaining := by
  obtain ⟨behind, ahead, length⟩ := c
  cases ahead with
  | nil => exact List.suffix_refl _
  | cons t ahead => exact List.suffix_cons _ _

/-- A cursor before a token other than the end sees it and moves behind it. -/
theorem step_of_remaining {c : Cursor} {t : Token} {rest : List Token} (h : c.remaining = t :: rest)
    (hk : t.kind ≠ .endOfText) : c.peek = t ∧ c.advance.remaining = rest := by
  have hp : c.peek = t := by simpa [h] using (head?_remaining c).symm
  rw [remaining_of_kind (hp ▸ hk)] at h
  exact List.cons.inj h

theorem worded_peek {c : Cursor} (hw : Worded c.remaining) (hk : c.peek.kind = .keyword) :
    c.peek.text ∈ ["true", "false", "null"] :=
  hw c.peek (List.mem_of_mem_head? (head?_remaining c)) hk

/-! ## One token -/

theorem map_expect_eq_ok_iff {α : Type} {c d : Cursor} {kind : Token.Kind} {what : String} {f : Token → α}
    {a : α} :
    (c.expect kind what).map (fun x => (f x.1, x.2)) = .ok (a, d) ↔
      c.peek.kind = kind ∧ f c.peek = a ∧ d = c.advance := by
  simp only [map_eq_ok_iff, Prod.exists, expect_eq_ok_iff, Prod.mk.injEq]
  constructor
  · intro h
    obtain ⟨_, _, ⟨hk, rfl, rfl⟩, ha, rfl⟩ := h
    exact ⟨hk, ha, rfl⟩
  · intro h
    obtain ⟨hk, ha, rfl⟩ := h
    exact ⟨_, _, ⟨hk, rfl, rfl⟩, ha, rfl⟩

theorem identifier_eq_ok_iff {c d : Cursor} {what name : String} :
    c.identifier what = .ok (name, d) ↔ c.peek.kind = .identifier ∧ c.peek.text = name ∧ d = c.advance :=
  map_expect_eq_ok_iff

theorem number_eq_ok_iff {c d : Cursor} {x : Binary64} :
    c.number = .ok (x, d) ↔ c.peek.kind = .number ∧ Numeral.value c.peek.text.toList = x ∧ d = c.advance :=
  map_expect_eq_ok_iff (f := fun t => Numeral.value t.text.toList)

theorem string_eq_ok_iff {c d : Cursor} {s : String} :
    c.string = .ok (s, d) ↔ c.peek.kind = .string ∧ c.peek.text = s ∧ d = c.advance :=
  map_expect_eq_ok_iff

theorem separator_eq_ok_iff {c d : Cursor} {parameter : String} :
    c.separator parameter = .ok d ↔ (c.peek.kind = .colon ∨ c.peek.kind = .equals) ∧ d = c.advance := by
  simp only [separator, accept, check, decide_eq_true_eq, fail]
  by_cases hc : c.peek.kind = .colon
  · simp [hc, eq_comm]
  · by_cases he : c.peek.kind = .equals
    · simp [he, eq_comm]
    · simp [hc, he]

/-! ## Values -/

/-- A number behind a minus is before the cursor. -/
def atNegative (c : Cursor) : Bool := c.peek.kind = .minus && (c.lookAhead 1).kind = .number

theorem kind_of_atNegative {c : Cursor} (h : c.atNegative = true) :
    c.peek.kind = .minus ∧ c.advance.peek.kind = .number := by
  rw [peek_advance]
  simpa [atNegative] using h

/-- A value in the order in which its kinds are looked for. -/
theorem value_eq (c : Cursor) (lenient : Bool) (parameter : String) :
    c.value lenient parameter =
      if c.peek.kind = .number then c.number.map fun x => (.number x.1, x.2)
      else if c.peek.kind = .string then c.string.map fun x => (.text x.1, x.2)
      else if c.atNegative then c.advance.number.map fun x => (.number (-x.1), x.2)
      else if c.peek.kind = .keyword then .ok (keywordValue c.peek.text, c.advance)
      else if closesArgument c.peek.kind then .error ⟨.noValue parameter, c.peek.position⟩
      else if lenient then .ok (.null, c.advance)
      else .error ⟨.notLiteral c.peek parameter, c.peek.position⟩ := by
  rw [value]
  split
  · next hk =>
    rw [if_pos hk]
  · next hk =>
    rw [if_neg (by simp [hk]), if_pos hk]
  · next hk =>
    simp [hk, atNegative]
  · next h1 h2 h3 =>
    rw [if_neg h1, if_neg h2, if_neg h3]
    rfl

theorem value_of_keyword {c : Cursor} (hk : c.peek.kind = .keyword) (lenient : Bool) (parameter : String) :
    c.value lenient parameter = .ok (keywordValue c.peek.text, c.advance) := by
  simp only [value, hk]

theorem isStray_iff {kind : Token.Kind} :
    IsStray kind ↔ kind ≠ .number ∧ kind ≠ .string ∧ kind ≠ .keyword ∧ closesArgument kind = false := by
  cases kind <;> simp [IsStray, closesArgument]

/-- What is read as a value is one, unless it is a keyword of another text than the three there are. -/
theorem isValue_of_value {lenient : Bool} {parameter : String} {c d : Cursor} {v : Value}
    (hw : c.peek.kind = .keyword → c.peek.text ∈ ["true", "false", "null"])
    (h : c.value lenient parameter = .ok (v, d)) : IsValue lenient c.remaining v d.remaining := by
  unfold value at h
  split at h
  · next hk =>
    obtain ⟨⟨x, d'⟩, hx, he⟩ := map_eq_ok_iff.1 h
    cases he
    obtain ⟨-, rfl, rfl⟩ := number_eq_ok_iff.1 hx
    rw [remaining_of_kind (by simp [hk])]
    exact .number hk
  · next hk =>
    obtain ⟨⟨s, d'⟩, hs, he⟩ := map_eq_ok_iff.1 h
    cases he
    obtain ⟨-, rfl, rfl⟩ := string_eq_ok_iff.1 hs
    rw [remaining_of_kind (by simp [hk])]
    exact .string hk
  · next hk =>
    cases h
    rw [remaining_of_kind (by simp [hk])]
    have hword := hw hk
    simp only [List.mem_cons, List.not_mem_nil, or_false] at hword
    rcases hword with ht | hf | hn
    · rw [ht]
      exact .isTrue hk ht
    · rw [hf]
      exact .isFalse hk hf
    · rw [hn]
      exact .isNull hk hn
  · next h1 h2 h3 =>
    split at h
    · next hm =>
      simp only [Bool.and_eq_true, decide_eq_true_eq] at hm
      obtain ⟨⟨x, d'⟩, hx, he⟩ := map_eq_ok_iff.1 h
      cases he
      obtain ⟨hk, rfl, rfl⟩ := number_eq_ok_iff.1 hx
      rw [remaining_of_kind (by simp [hm.1]), remaining_of_kind (by simp [hk])]
      exact .negated hm.1 hk
    · next hm =>
      split at h
      · cases h
      · next hc =>
        split at h
        · next hl =>
          cases h
          have hs : IsStray c.peek.kind := isStray_iff.2 ⟨h1, h2, h3, by simpa using hc⟩
          rw [remaining_of_kind (by intro he; simp [he, closesArgument] at hc)]
          refine .stray hl hs fun hk n hn => ?_
          rw [head?_remaining, peek_advance, Option.mem_some_iff] at hn
          subst hn
          simpa [hk] using hm
        · cases h

theorem value_of_isValue {lenient : Bool} (parameter : String) {c : Cursor} {tokens rest : List Token}
    {v : Value} (h : IsValue lenient tokens v rest) (hc : c.remaining = tokens) :
    ∃ d, c.value lenient parameter = .ok (v, d) ∧ d.remaining = rest := by
  cases h with
  | number hk =>
    obtain ⟨rfl, hr⟩ := step_of_remaining hc (by simp [hk])
    refine ⟨_, ?_, hr⟩
    simp only [value, hk]
    exact map_eq_ok_iff.2 ⟨_, number_eq_ok_iff.2 ⟨hk, rfl, rfl⟩, rfl⟩
  | string hk =>
    obtain ⟨rfl, hr⟩ := step_of_remaining hc (by simp [hk])
    refine ⟨_, ?_, hr⟩
    simp only [value, hk]
    exact map_eq_ok_iff.2 ⟨_, string_eq_ok_iff.2 ⟨hk, rfl, rfl⟩, rfl⟩
  | isTrue hk hword | isFalse hk hword | isNull hk hword =>
    obtain ⟨rfl, hr⟩ := step_of_remaining hc (by simp [hk])
    exact ⟨_, by rw [value_of_keyword hk, hword]; rfl, hr⟩
  | negated hm hk =>
    obtain ⟨rfl, hr⟩ := step_of_remaining hc (by simp [hm])
    obtain ⟨rfl, hr'⟩ := step_of_remaining hr (by simp [hk])
    refine ⟨_, ?_, hr'⟩
    have hn : (c.lookAhead 1).kind = .number := peek_advance c ▸ hk
    simp only [value, hm, hn, decide_true, Bool.and_self, if_true]
    exact map_eq_ok_iff.2 ⟨_, number_eq_ok_iff.2 ⟨hk, rfl, rfl⟩, rfl⟩
  | @stray t _ hl hs hn =>
    have hs' := isStray_iff.1 hs
    have hend : t.kind ≠ .endOfText := by
      intro he
      simp [IsStray, he] at hs
    obtain ⟨rfl, hr⟩ := step_of_remaining hc hend
    refine ⟨_, ?_, hr⟩
    have hnot : ¬(decide (c.peek.kind = .minus) && decide ((c.lookAhead 1).kind = .number)) = true := by
      simp only [Bool.and_eq_true, decide_eq_true_eq, not_and]
      intro hk
      exact hn hk _ (by rw [← hr, head?_remaining, peek_advance, Option.mem_some_iff])
    unfold value
    split
    · next hk => exact absurd hk hs'.1
    · next hk => exact absurd hk hs'.2.1
    · next hk => exact absurd hk hs'.2.2.1
    · rw [if_neg hnot, if_neg (by simp [hs'.2.2.2]), if_pos hl]

/-! ## Arguments -/

theorem isArgument_of_argument {lenient : Bool} {parameters after : Parameters} {c d : Cursor}
    (hw : Worded c.remaining) (h : c.argument lenient parameters = .ok (after, d)) :
    ∃ entry, IsArgument lenient c.remaining entry d.remaining ∧
      after.entries = parameters.entries ++ [entry] := by
  unfold argument at h
  split at h
  · cases h
  next name c1 h1 =>
  split at h
  · cases h
  next c2 h2 =>
  split at h
  · cases h
  next hn =>
  obtain ⟨⟨v, c3⟩, h3, he⟩ := map_eq_ok_iff.1 h
  cases he
  obtain ⟨hk, rfl, rfl⟩ := identifier_eq_ok_iff.1 h1
  obtain ⟨hs, rfl⟩ := separator_eq_ok_iff.1 h2
  have hname : c.peek.text ∉ parameters.keys := fun hm => hn (OrderedMap.contains_iff.2 hm)
  refine ⟨(c.peek.text, v), ?_, OrderedMap.entries_insert hname v⟩
  rw [remaining_of_kind (by simp [hk]),
    remaining_of_kind (c := c.advance) (by rcases hs with hs | hs <;> simp [hs])]
  have hvalue : c.advance.advance.remaining <:+ c.remaining :=
    c.advance.remaining_advance.trans c.remaining_advance
  exact .intro hk hs (isValue_of_value (worded_peek (hw.of_suffix hvalue)) h3)

theorem argument_of_isArgument {lenient : Bool} {parameters : Parameters} {c : Cursor}
    {tokens rest : List Token} {entry : String × Value} (h : IsArgument lenient tokens entry rest)
    (hc : c.remaining = tokens) (hn : entry.1 ∉ parameters.keys) :
    ∃ d, c.argument lenient parameters = .ok (parameters.insert entry.1 entry.2, d) ∧ d.remaining = rest := by
  cases h with
  | intro hk hs hv =>
    obtain ⟨rfl, h1⟩ := step_of_remaining hc (by simp [hk])
    obtain ⟨rfl, h2⟩ := step_of_remaining h1 (by rcases hs with hs | hs <;> simp [hs])
    obtain ⟨d, h3, hd⟩ := value_of_isValue c.peek.text hv h2
    refine ⟨d, ?_, hd⟩
    have hnot : ¬parameters.contains c.peek.text = true := fun hm => hn (OrderedMap.contains_iff.1 hm)
    have hname : c.identifier "parameter name" = .ok (c.peek.text, c.advance) :=
      identifier_eq_ok_iff.2 ⟨hk, rfl, rfl⟩
    have hsep : c.advance.separator c.peek.text = .ok c.advance.advance :=
      separator_eq_ok_iff.2 ⟨hs, rfl⟩
    simp only [argument, hname, hsep, if_neg hnot, h3]
    rfl

/-- One round of the loop over arguments. -/
theorem arguments_eq (lenient : Bool) (parameters : Parameters) (c : Cursor) :
    c.arguments lenient parameters =
      match c.argument lenient parameters with
      | .error e => .error e
      | .ok (after, d) =>
        match d.accept .comma with
        | none => .ok (after, d)
        | some e => e.arguments lenient after := by
  rw [arguments]
  split
  · next h => simp only [h]
  · next after d h =>
    simp only [h]
    split
    · next hd => simp only [hd]
    · next e hd => simp only [hd]

theorem isArguments_of_arguments {lenient : Bool} {parameters after : Parameters} {c d : Cursor}
    (hw : Worded c.remaining) (h : c.arguments lenient parameters = .ok (after, d)) :
    ∃ entries, IsArguments lenient c.remaining entries d.remaining ∧
      after.entries = parameters.entries ++ entries := by
  -- The loop ends because every argument takes a token, so the induction is on the tokens ahead.
  generalize hn : c.ahead.length = n
  induction n using Nat.strongRecOn generalizing c parameters with
  | ind n ih =>
    rw [arguments_eq] at h
    split at h
    · cases h
    next more c1 h1 =>
    obtain ⟨entry, harg, hmore⟩ := isArgument_of_argument hw h1
    split at h
    · cases h
      exact ⟨[entry], .last harg, hmore⟩
    next c2 h2 =>
    obtain ⟨hk, rfl⟩ := accept_eq_some_iff.1 h2
    have hw2 := hw.of_suffix (c1.remaining_advance.trans harg.suffix)
    obtain ⟨entries, hargs, hafter⟩ := ih _ (hn ▸ ahead_lt_of_accept h1 h2) hw2 h rfl
    rw [remaining_of_kind (c := c1) (by simp [hk])] at harg
    exact ⟨entry :: entries, .more harg hk hargs, by rw [hafter, hmore, List.append_assoc]; rfl⟩

theorem arguments_of_isArguments {lenient : Bool} {parameters : Parameters} {c : Cursor}
    {tokens rest : List Token} {entries : List (String × Value)}
    (h : IsArguments lenient tokens entries rest) (hc : c.remaining = tokens)
    (hrest : ∀ t ∈ rest.head?, t.kind ≠ .comma)
    (hn : ((parameters.entries ++ entries).map (·.1)).Nodup) :
    ∃ after d, c.arguments lenient parameters = .ok (after, d) ∧ d.remaining = rest ∧
      after.entries = parameters.entries ++ entries := by
  induction h generalizing c parameters with
  | last h =>
    have hkey := OrderedMap.not_mem_keys_of_nodup hn
    obtain ⟨d, h1, hd⟩ := argument_of_isArgument h hc hkey
    have hcomma : d.accept .comma = none := by
      rw [accept, check, if_neg]
      simpa using hrest _ (hd ▸ head?_remaining d)
    refine ⟨_, d, ?_, hd, OrderedMap.entries_insert hkey _⟩
    rw [arguments_eq, h1]
    simp only [hcomma]
  | @more tokens entry comma others entries rest h hk hmore ih =>
    have hkey := OrderedMap.not_mem_keys_of_nodup hn
    obtain ⟨d, h1, hd⟩ := argument_of_isArgument h hc hkey
    obtain ⟨rfl, hd'⟩ := step_of_remaining hd (by simp [hk])
    have hentries := OrderedMap.entries_insert hkey entry.2
    have hn' : (((parameters.insert entry.1 entry.2).entries ++ entries).map (·.1)).Nodup := by
      rw [hentries, List.append_assoc]
      exact hn
    obtain ⟨after, e, h2, he, hafter⟩ := ih hd' hrest hn'
    refine ⟨after, e, ?_, he, by rw [hafter, hentries, List.append_assoc]; rfl⟩
    have hcomma : d.accept .comma = some d.advance := accept_eq_some_iff.2 ⟨hk, rfl⟩
    rw [arguments_eq, h1]
    simp only [hcomma, h2]

/-! ## Whole invocations -/

theorem isList_of_list {lenient : Bool} {parameters : Parameters} {c d : Cursor}
    (hw : Worded c.remaining) (h : c.list lenient = .ok (parameters, d)) :
    IsList lenient c.remaining parameters.entries d.remaining := by
  unfold list at h
  split at h
  · cases h
    exact .none
  · obtain ⟨entries, hargs, he⟩ := isArguments_of_arguments hw h
    rw [he]
    exact .some hargs

theorem list_of_isList {lenient : Bool} {c : Cursor} {tokens rest : List Token} {closing : Token}
    {entries : List (String × Value)} (h : IsList lenient tokens entries (closing :: rest))
    (hc : c.remaining = tokens) (hk : closing.kind = .closeParen) (hn : (entries.map (·.1)).Nodup) :
    ∃ parameters d, c.list lenient = .ok (parameters, d) ∧ d.remaining = closing :: rest ∧
      parameters.entries = entries := by
  have hp := head?_remaining c
  cases h with
  | none =>
    have hcheck : c.check .closeParen = true := by
      rw [hc, List.head?_cons, Option.some_inj] at hp
      simp [check, ← hp, hk]
    exact ⟨∅, c, by rw [list, if_pos hcheck], hc, rfl⟩
  | some h =>
    obtain ⟨t, ht, htk⟩ := h.head
    have hcheck : ¬c.check .closeParen = true := by
      rw [hc, Option.mem_def.1 ht, Option.some_inj] at hp
      simp [check, ← hp, htk]
    have hn' : (((∅ : Parameters).entries ++ entries).map (·.1)).Nodup := hn
    obtain ⟨parameters, d, h1, hd, he⟩ := arguments_of_isArguments h hc (by simp [hk]) hn'
    exact ⟨parameters, d, by rw [list, if_neg hcheck, h1], hd, he⟩

/-- A cursor that sees the end of the text has no more tokens before it. -/
theorem remaining_of_end {c d : Cursor} (hc : ∀ t ∈ c.ahead, t.kind ≠ .endOfText)
    (hs : d.remaining <:+ c.remaining) (hk : d.peek.kind = .endOfText) : d.remaining = [d.peek] := by
  obtain ⟨behind, ahead, length⟩ := d
  cases ahead with
  | nil => rfl
  | cons t ahead =>
    obtain ⟨passed, hp⟩ := hs
    have hp' : (passed ++ t :: ahead) ++ [Token.atEnd length] = c.ahead ++ [Token.atEnd c.length] := by
      simpa [remaining] using hp
    have hmem : t ∈ c.ahead := by simp [← (List.append_inj' hp' rfl).1]
    exact absurd hk (hc t hmem)

/-- A cursor takes what is left for the end of an invocation if a semicolon is all that is left. -/
theorem isEnd_of_check {c d : Cursor} (hc : ∀ t ∈ c.ahead, t.kind ≠ .endOfText)
    (hs : d.remaining <:+ c.remaining) (h : ((d.accept .semicolon).getD d).check .endOfText = true) :
    IsEnd d.remaining := by
  simp only [check, decide_eq_true_eq] at h
  by_cases hsemi : d.peek.kind = .semicolon
  · rw [accept_eq_some_iff.2 ⟨hsemi, rfl⟩, Option.getD_some] at h
    have hr := remaining_of_kind (c := d) (by simp [hsemi])
    have hs' : d.advance.remaining <:+ c.remaining := by
      refine List.IsSuffix.trans ?_ hs
      rw [hr]
      exact List.suffix_cons _ _
    rw [hr, remaining_of_end hc hs' h]
    exact .semicolon hsemi h
  · have hnone : d.accept .semicolon = none := by simp [accept, check, hsemi]
    rw [hnone, Option.getD_none] at h
    rw [remaining_of_end hc hs h]
    exact .bare h

theorem check_of_isEnd {d : Cursor} (h : IsEnd d.remaining) :
    ((d.accept .semicolon).getD d).check .endOfText = true := by
  have hp := head?_remaining d
  generalize hr : d.remaining = rest at h hp
  cases h with
  | bare hk =>
    cases hp
    simp [accept, check, hk]
  | semicolon hs hk =>
    cases hp
    obtain ⟨-, hr'⟩ := step_of_remaining hr (by simp [hs])
    have hp' := head?_remaining d.advance
    rw [hr'] at hp'
    cases hp'
    simp [accept, check, hs, hk]

theorem isList_of_call {lenient : Bool} {c d : Cursor} {call : Call} (hw : Worded c.remaining)
    (h : c.call lenient = .ok (call, d)) :
    ∃ opening tokens closing, c.remaining = c.peek :: opening :: tokens ∧ c.peek.kind = .identifier ∧
      c.peek.text = call.name ∧ opening.kind = .openParen ∧
      IsList lenient tokens call.parameters.entries (closing :: d.remaining) ∧ closing.kind = .closeParen := by
  obtain ⟨⟨name, c1⟩, h1, h⟩ := bind_eq_ok_iff.1 h
  obtain ⟨⟨_, c2⟩, h2, h⟩ := bind_eq_ok_iff.1 h
  obtain ⟨⟨parameters, c3⟩, h3, h⟩ := bind_eq_ok_iff.1 h
  obtain ⟨⟨_, c4⟩, h4, h⟩ := bind_eq_ok_iff.1 h
  cases pure_eq_ok_iff.1 h
  obtain ⟨hk1, rfl, rfl⟩ := identifier_eq_ok_iff.1 h1
  obtain ⟨hk2, -, rfl⟩ := expect_eq_ok_iff.1 h2
  obtain ⟨hk4, -, rfl⟩ := expect_eq_ok_iff.1 h4
  have hw2 := hw.of_suffix (c.advance.remaining_advance.trans c.remaining_advance)
  have hlist := isList_of_list hw2 h3
  rw [remaining_of_kind (c := c3) (by simp [hk4])] at hlist
  refine ⟨c.advance.peek, c.advance.advance.remaining, c3.peek, ?_, hk1, rfl, hk2, hlist, hk4⟩
  rw [remaining_of_kind (c := c) (by simp [hk1]), remaining_of_kind (c := c.advance) (by simp [hk2])]

theorem isInvocation_of_wholeCall {lenient : Bool} {c : Cursor} {call : Call}
    (hc : ∀ t ∈ c.ahead, t.kind ≠ .endOfText) (hw : Worded c.remaining) (h : c.wholeCall lenient = .ok call) :
    IsInvocation lenient c.remaining call.name call.parameters.entries := by
  obtain ⟨⟨call', d⟩, hcall, hlast⟩ := bind_eq_ok_iff.1 h
  obtain ⟨opening, tokens, closing, hr, hk, hname, ho, hlist, hclosing⟩ := isList_of_call hw hcall
  dsimp only at hlast
  split at hlast
  · next hcheck =>
    cases pure_eq_ok_iff.1 hlast
    have hs : d.remaining <:+ c.remaining := by
      rw [hr]
      refine List.IsSuffix.trans ?_ ((List.suffix_cons _ _).trans (List.suffix_cons _ _))
      exact (List.suffix_cons _ _).trans hlist.suffix
    have hend := isEnd_of_check hc hs hcheck
    rw [hr, ← hname]
    exact .intro hk ho hlist hclosing hend call.parameters.nodup
  · cases hlast

theorem call_of_isList {lenient : Bool} {c : Cursor} {name opening closing : Token} {tokens rest : List Token}
    {entries : List (String × Value)} (hc : c.remaining = name :: opening :: tokens)
    (hk : name.kind = .identifier) (ho : opening.kind = .openParen)
    (hlist : IsList lenient tokens entries (closing :: rest)) (hclosing : closing.kind = .closeParen)
    (hn : (entries.map (·.1)).Nodup) :
    ∃ parameters d, c.call lenient = .ok (⟨name.text, parameters⟩, d) ∧ d.remaining = rest ∧
      parameters.entries = entries := by
  obtain ⟨rfl, h1⟩ := step_of_remaining hc (by simp [hk])
  obtain ⟨rfl, h2⟩ := step_of_remaining h1 (by simp [ho])
  obtain ⟨parameters, d, h3, hd, he⟩ := list_of_isList hlist h2 hclosing hn
  obtain ⟨rfl, h4⟩ := step_of_remaining hd (by simp [hclosing])
  refine ⟨parameters, d.advance, ?_, h4, he⟩
  refine bind_eq_ok_iff.2 ⟨_, identifier_eq_ok_iff.2 ⟨hk, rfl, rfl⟩, ?_⟩
  refine bind_eq_ok_iff.2 ⟨_, expect_eq_ok_iff.2 ⟨ho, rfl, rfl⟩, ?_⟩
  refine bind_eq_ok_iff.2 ⟨_, h3, ?_⟩
  exact bind_eq_ok_iff.2 ⟨_, expect_eq_ok_iff.2 ⟨hclosing, rfl, rfl⟩, rfl⟩

theorem wholeCall_of_isInvocation {lenient : Bool} {c : Cursor} {tokens : List Token} {name : String}
    {entries : List (String × Value)} (h : IsInvocation lenient tokens name entries)
    (hc : c.remaining = tokens) :
    ∃ call, c.wholeCall lenient = .ok call ∧ call.name = name ∧ call.parameters.entries = entries := by
  cases h with
  | @intro first opening inner _ closing rest hk ho hlist hclosing hend hn =>
    obtain ⟨parameters, d, hcall, hd, he⟩ := call_of_isList hc hk ho hlist hclosing hn
    refine ⟨⟨first.text, parameters⟩, bind_eq_ok_iff.2 ⟨_, hcall, ?_⟩, rfl, he⟩
    dsimp only
    rw [if_pos (check_of_isEnd (hd ▸ hend))]
    rfl

end Cursor

/-! ## Texts -/

theorem Call.ext_entries {a b : Call} (hn : a.name = b.name)
    (he : a.parameters.entries = b.parameters.entries) : a = b := by
  cases a
  cases b
  cases hn
  cases OrderedMap.ext_entries he
  rfl

namespace Invocation

open Grammar

theorem start_of_tokenize {text : List Char} {tokens : List Token} (h : Token.tokenize text = .ok tokens) :
    ∃ c, Cursor.start text = .ok c ∧ c.remaining = tokens ∧ ∀ t ∈ c.ahead, t.kind ≠ .endOfText := by
  obtain ⟨ahead, hscan, rfl⟩ := Token.exists_scan_of_tokenize h
  exact ⟨⟨[], ahead, text.length⟩, by rw [Cursor.start, hscan], rfl, Token.kind_of_mem_scan hscan⟩

theorem worded_of_tokenize {text : List Char} {tokens : List Token} (h : Token.tokenize text = .ok tokens) :
    Worded tokens := by
  intro t ht hk
  exact Token.forall_of_tokenize (P := fun t => t.kind = .keyword → t.text ∈ ["true", "false", "null"])
    (fun _ hx => Token.text_of_keyword hx) h t ht (by simp [hk]) hk

theorem start_of_tokenize_error {text : List Char} {e : LexError} (h : Token.tokenize text = .error e) :
    Cursor.start text = .error e := by
  rw [Cursor.start, Token.scan_of_tokenize_error h]

/-- A text whose tokens are an invocation is read as that invocation. -/
theorem parse_of_isInvocation {lenient : Bool} {text : String} {tokens : List Token} {name : String}
    {entries : List (String × Value)} (ht : Token.tokenize text.toList = .ok tokens)
    (h : IsInvocation lenient tokens name entries) :
    ∃ call, parse lenient text = ⟨text, .ok call⟩ ∧ call.name = name ∧ call.parameters.entries = entries := by
  obtain ⟨c, hc, hr, -⟩ := start_of_tokenize ht
  obtain ⟨call, hcall, hname, he⟩ := Cursor.wholeCall_of_isInvocation h hr
  exact ⟨call, by simp only [parse, hc, hcall], hname, he⟩

/-- What is read as a call is an invocation. -/
theorem isInvocation_of_reading {lenient : Bool} {text : String} {call : Call}
    (h : (parse lenient text).reading = .ok call) :
    ∃ tokens, Token.tokenize text.toList = .ok tokens ∧
      IsInvocation lenient tokens call.name call.parameters.entries := by
  cases ht : Token.tokenize text.toList with
  | error e => simp [parse, start_of_tokenize_error ht, reject] at h
  | ok tokens =>
    obtain ⟨c, hc, rfl, hend⟩ := start_of_tokenize ht
    simp only [parse, hc] at h
    split at h
    · cases h
    · next hcall =>
      cases h
      exact ⟨_, rfl, Cursor.isInvocation_of_wholeCall hend (worded_of_tokenize ht) hcall⟩

theorem kind_toSceneError (e : LexError) : e.toSceneError.kind = .lexical := by
  unfold LexError.toSceneError
  split <;> rfl

theorem diagnostic_reject (text : String) (e : SceneError) (position : Nat) :
    ∃ d, (reject text e position).diagnostic? = some d ∧ d ≠ "" := by
  refine ⟨_, rfl, fun h => ?_⟩
  have hl := congrArg String.length h
  simp [Location.annotate, Location.render] at hl

/-- Every text is read as a call or rejected, as a lexical error exactly if it has no tokens. -/
theorem parse_cases (lenient : Bool) (text : String) :
    (∃ tokens call, Token.tokenize text.toList = .ok tokens ∧ parse lenient text = ⟨text, .ok call⟩) ∨
    (∃ tokens e position, Token.tokenize text.toList = .ok tokens ∧
      parse lenient text = reject text e position ∧ e.kind = .grammar) ∨
    (∃ error e position, Token.tokenize text.toList = .error error ∧
      parse lenient text = reject text e position ∧ e.kind = .lexical) := by
  cases ht : Token.tokenize text.toList with
  | error e =>
    exact .inr (.inr ⟨e, e.toSceneError, e.position, rfl, by simp only [parse, start_of_tokenize_error ht],
      kind_toSceneError e⟩)
  | ok tokens =>
    obtain ⟨c, hc, -, -⟩ := start_of_tokenize ht
    cases hcall : c.wholeCall lenient with
    | error e =>
      exact .inr (.inl ⟨tokens, e.toSceneError, e.position, rfl, by simp only [parse, hc, hcall], rfl⟩)
    | ok call => exact .inl ⟨tokens, call, rfl, by simp only [parse, hc, hcall]⟩

/-- A text is read as a call exactly if its tokens are that invocation. -/
theorem reading_eq_ok_iff {lenient : Bool} {text : String} {call : Call} :
    (parse lenient text).reading = .ok call ↔
      ∃ tokens, Token.tokenize text.toList = .ok tokens ∧
        IsInvocation lenient tokens call.name call.parameters.entries := by
  refine ⟨isInvocation_of_reading, fun h => ?_⟩
  obtain ⟨tokens, ht, h⟩ := h
  obtain ⟨call', hp, hname, he⟩ := parse_of_isInvocation ht h
  rw [hp, Call.ext_entries hname he]

theorem isValid_parse_iff {lenient : Bool} {text : String} :
    (parse lenient text).isValid = true ↔
      ∃ tokens name entries, Token.tokenize text.toList = .ok tokens ∧ IsInvocation lenient tokens name entries := by
  constructor
  · intro hv
    cases hr : (parse lenient text).reading with
    | error r => simp [isValid, hr, Except.isOk, Except.toBool] at hv
    | ok call =>
      obtain ⟨tokens, ht, h⟩ := isInvocation_of_reading hr
      exact ⟨tokens, _, _, ht, h⟩
  · intro h
    obtain ⟨tokens, name, entries, ht, h⟩ := h
    obtain ⟨call, hp, -⟩ := parse_of_isInvocation ht h
    rw [hp]
    rfl

/-- A text that is no call gives no part of one, and says why: it has no tokens, or they are no
invocation. -/
theorem rejected_of_isValid {lenient : Bool} {text : String} (hv : (parse lenient text).isValid = false) :
    (parse lenient text).commandName = "" ∧ (parse lenient text).parameters = ∅ ∧
      (∃ d, (parse lenient text).diagnostic? = some d ∧ d ≠ "") ∧
      ((parse lenient text).kind? = some .lexical ↔ ∃ e, Token.tokenize text.toList = .error e) ∧
      ((parse lenient text).kind? = some .grammar ↔ ∃ tokens, Token.tokenize text.toList = .ok tokens) := by
  rcases parse_cases lenient text with ⟨_, _, _, hp⟩ | ⟨tokens, e, p, ht, hp, hk⟩ | ⟨error, e, p, ht, hp, hk⟩
  · rw [hp] at hv
    cases hv
  all_goals
    rw [hp, ht]
    refine ⟨rfl, rfl, diagnostic_reject text e p, ?_, ?_⟩ <;> simp [kind?, reject, hk]

theorem source_parse (lenient : Bool) (text : String) : (parse lenient text).source = text := by
  rcases parse_cases lenient text with ⟨_, _, _, hp⟩ | ⟨_, _, _, _, hp, _⟩ | ⟨_, _, _, _, hp, _⟩
  · rw [hp]
  · rw [hp]
    rfl
  · rw [hp]
    rfl

end Invocation

end SceneLang
