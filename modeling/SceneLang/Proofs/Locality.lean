/-
Errors in the grammar are local.

A text that has tokens and is no call is rejected at one of its tokens, and nothing behind the token
that follows that one plays a part: with any tokens that are the same up to there, the error is the same.

Readings are put together from smaller ones, so two facts about each are carried along: what it does
where it fails (`Stops`), and that it takes the same tokens wherever the same token stands behind them
(`Takes`). The second looks one token ahead because a minus does.

* `Cursor.LocalAt.bind`: one reading behind another is local if both are.
* `Cursor.stops_wholeCall`: a call that cannot be read stops at one of its tokens.
* `Invocation.reject_of_agree`: a text that is rejected, and every text that begins with its tokens.
-/
import SceneLang.Proofs.Diagnostics
import SceneLang.Proofs.Single

namespace SceneLang

namespace Cursor

open Grammar

variable {α β γ : Type}

/-- A reading fails at one of the tokens before the cursor, and fails in the same way with any tokens
that are the same up to the one behind that. -/
def Stops (reading : Cursor → Except GrammarError α) (c : Cursor) (e : GrammarError) : Prop :=
  ∃ before t behind, c.remaining = before ++ t :: behind ∧ e.position = t.position ∧
    ∀ d : Cursor, before ++ t :: behind.take 1 <+: d.remaining → reading d = .error e

/-- A reading takes the tokens between two cursors, and takes them in the same way wherever they stand
and the same token stands behind them. -/
def Takes (reading : Cursor → Reading α) (c : Cursor) (a : α) (d : Cursor) : Prop :=
  ∃ front, c.remaining = front ++ d.remaining ∧
    ∀ (c' : Cursor) (other : List Token), c'.remaining = front ++ other → other.head? = d.remaining.head? →
      ∃ d', reading c' = .ok (a, d') ∧ d'.remaining = other

/-- What a reading makes of the tokens before a cursor goes by those it takes and one more. -/
structure LocalAt (reading : Cursor → Reading α) (c : Cursor) : Prop where
  takes : ∀ {a d}, reading c = .ok (a, d) → Takes reading c a d
  stops : ∀ {e}, reading c = .error e → Stops reading c e

/-! ## The next two tokens -/

variable {c d : Cursor}

theorem remaining_eq (c : Cursor) : c.remaining = c.peek :: c.remaining.tail := by
  obtain ⟨behind, ahead, length⟩ := c
  cases ahead <;> rfl

theorem peek_of_head? (h : d.remaining.head? = c.remaining.head?) : d.peek = c.peek := by
  rw [head?_remaining, head?_remaining] at h
  exact Option.some.inj h

theorem peek_of_front {before more behind : List Token} {t : Token} (hc : c.remaining = before ++ t :: behind)
    (hd : before ++ t :: more <+: d.remaining) : d.peek = c.peek := by
  obtain ⟨tail, hd⟩ := hd
  refine peek_of_head? ?_
  rw [hc, ← hd]
  cases before <;> rfl

/-- Two tokens before a cursor are the next one and the one that it sees behind that. -/
theorem pair_of_remaining {s t : Token} {tail : List Token} (h : c.remaining = s :: t :: tail) :
    c.peek = s ∧ c.lookAhead 1 = t ∧ c.advance.remaining = t :: tail := by
  obtain ⟨behind, ahead, length⟩ := c
  match ahead, h with
  | [_], h =>
    cases h
    exact ⟨rfl, rfl, rfl⟩
  | _ :: _ :: _, h =>
    cases h
    exact ⟨rfl, rfl, rfl⟩

theorem remaining_pair (h : c.peek.kind ≠ .endOfText) :
    c.remaining = c.peek :: c.lookAhead 1 :: c.advance.remaining.tail := by
  rw [remaining_of_kind h, ← peek_advance, ← remaining_eq]

/-! ## Readings that fail at the next token -/

/-- A reading that goes by the next token stops there. -/
theorem stops_peek {reading : Cursor → Except GrammarError α} {e : GrammarError}
    (hp : e.position = c.peek.position) (h : ∀ d, d.peek = c.peek → reading d = .error e) : Stops reading c e := by
  have hc : c.remaining = [] ++ c.peek :: c.remaining.tail := c.remaining_eq
  exact ⟨[], c.peek, _, hc, hp, fun d hd => h d (peek_of_front hc hd)⟩

/-- One that goes by the token behind that too stops at one of them. -/
theorem stops_pair {reading : Cursor → Except GrammarError α} {e : GrammarError} (hk : c.peek.kind ≠ .endOfText)
    (hp : e.position = c.peek.position ∨ e.position = (c.lookAhead 1).position)
    (h : ∀ d, d.peek = c.peek → d.lookAhead 1 = c.lookAhead 1 → reading d = .error e) : Stops reading c e := by
  have hread : ∀ (d : Cursor) (tail : List Token), c.peek :: c.lookAhead 1 :: tail = d.remaining →
      reading d = .error e := by
    intro d tail hd
    obtain ⟨hpeek, hnext, -⟩ := pair_of_remaining hd.symm
    exact h d hpeek hnext
  rcases hp with hp | hp
  · exact ⟨[], c.peek, _, remaining_pair hk, hp, fun d ⟨tail, hd⟩ => hread d tail hd⟩
  · refine ⟨[c.peek], c.lookAhead 1, _, remaining_pair hk, hp, fun d hd => ?_⟩
    obtain ⟨tail, hd⟩ := hd
    exact hread d _ hd

theorem localAt_fail (cause : Token → GrammarError.Cause) (c : Cursor) :
    LocalAt (fun c => (c.fail (cause c.peek) : Reading α)) c where
  takes h := by cases h
  stops h := by
    cases h
    exact stops_peek rfl fun d hd => by rw [fail, hd]

/-! ## One reading behind another -/

theorem localAt_ok (a : α) (c : Cursor) : LocalAt (fun c => .ok (a, c)) c where
  takes h := by
    cases h
    exact ⟨[], rfl, fun c' other hc' _ => ⟨c', rfl, hc'⟩⟩
  stops h := by cases h

/-- What takes the next token. -/
def pass (c : Cursor) : Reading Token := .ok (c.peek, c.advance)

theorem localAt_pass (hk : c.peek.kind ≠ .endOfText) : LocalAt pass c where
  takes h := by
    cases h
    refine ⟨[c.peek], remaining_of_kind hk, fun c' other hc' _ => ?_⟩
    obtain ⟨hpeek, hrest⟩ := step_of_remaining hc' hk
    exact ⟨c'.advance, by rw [pass, hpeek], hrest⟩
  stops h := by cases h

/-- One reading, and behind what it takes another. -/
def andThen (p : Cursor → Reading α) (q : α × Cursor → Except GrammarError γ) (c : Cursor) :
    Except GrammarError γ := (p c).bind q

theorem andThen_of_ok {p : Cursor → Reading α} {a : α} (h : p c = .ok (a, d))
    (q : α × Cursor → Except GrammarError γ) : andThen p q c = q (a, d) := by
  rw [andThen, h, Except.bind]

theorem andThen_of_error {p : Cursor → Reading α} {e : GrammarError} (h : p c = .error e)
    (q : α × Cursor → Except GrammarError γ) : andThen p q c = .error e := by
  rw [andThen, h, Except.bind]

section

variable {p : Cursor → Reading α} {a : α} {e : GrammarError}

theorem Stops.andThen {q : α × Cursor → Except GrammarError γ} (h : Stops p c e) : Stops (andThen p q) c e := by
  obtain ⟨before, t, behind, hc, hp, hagree⟩ := h
  exact ⟨before, t, behind, hc, hp, fun d hd => andThen_of_error (hagree d hd) q⟩

/-- Behind tokens that are taken, what stops a reading stops both. -/
theorem Takes.andThen_stops {q : α × Cursor → Except GrammarError γ} (h : Takes p c a d)
    (hq : Stops (fun d => q (a, d)) d e) : Stops (andThen p q) c e := by
  obtain ⟨front, hc, htake⟩ := h
  obtain ⟨before, t, behind, hd, hp, hagree⟩ := hq
  refine ⟨front ++ before, t, behind, by rw [hc, hd, List.append_assoc], hp, fun c' hc' => ?_⟩
  obtain ⟨tail, hc'⟩ := hc'
  have hother : (before ++ t :: behind.take 1 ++ tail).head? = d.remaining.head? := by
    rw [hd]
    cases before <;> rfl
  obtain ⟨d', hread, hd'⟩ := htake c' (before ++ t :: behind.take 1 ++ tail) (by rw [← hc']; simp) hother
  rw [andThen_of_ok hread]
  exact hagree d' (hd' ▸ List.prefix_append _ _)

theorem Takes.andThen {q : α × Cursor → Reading β} {b : β} {rest : Cursor} (h : Takes p c a d)
    (hq : Takes (fun d => q (a, d)) d b rest) : Takes (andThen p q) c b rest := by
  obtain ⟨front, hc, htake⟩ := h
  obtain ⟨more, hd, hmore⟩ := hq
  refine ⟨front ++ more, by rw [hc, hd, List.append_assoc], fun c' other hc' hother => ?_⟩
  rw [List.append_assoc] at hc'
  obtain ⟨d', hread, hd'⟩ := htake c' (more ++ other) hc' (by rw [hd, List.head?_append, List.head?_append, hother])
  rw [andThen_of_ok hread]
  exact hmore d' other hd' hother

theorem LocalAt.andThen {q : α × Cursor → Reading β} (hp : LocalAt p c)
    (hq : ∀ a d, p c = .ok (a, d) → LocalAt (fun d => q (a, d)) d) : LocalAt (andThen p q) c := by
  cases h : p c with
  | error e =>
    have hall := andThen_of_error h q
    refine ⟨fun hread => ?_, fun hread => ?_⟩
    · rw [hall] at hread
      cases hread
    · rw [hall] at hread
      cases hread
      exact (hp.stops h).andThen
  | ok x =>
    obtain ⟨a, d⟩ := x
    have hall := andThen_of_ok h q
    refine ⟨fun hread => ?_, fun hread => ?_⟩
    · exact (hp.takes h).andThen ((hq a d h).takes (hall ▸ hread))
    · exact (hp.takes h).andThen_stops ((hq a d h).stops (hall ▸ hread))

theorem LocalAt.map (hp : LocalAt p c) (f : α → β) : LocalAt (fun c => (p c).map fun x => (f x.1, x.2)) c := by
  have hmap : (fun c => (p c).map fun x => (f x.1, x.2)) = Cursor.andThen p fun x => .ok (f x.1, x.2) := by
    funext c
    cases h : p c with
    | error e => rw [andThen_of_error h]; rfl
    | ok x => rw [andThen_of_ok h]; rfl
  rw [hmap]
  exact hp.andThen fun a d _ => localAt_ok (f a) d

end

/-- A reading that does the same as another wherever the next token is the same. -/
theorem LocalAt.congr {p q : Cursor → Reading α} (h : ∀ d, d.peek = c.peek → q d = p d) (hp : LocalAt p c) :
    LocalAt q c where
  takes hread := by
    obtain ⟨front, hc, htake⟩ := hp.takes (h c rfl ▸ hread)
    refine ⟨front, hc, fun c' other hc' hother => ?_⟩
    rw [h c' (peek_of_head? (by rw [hc', hc, List.head?_append, List.head?_append, hother]))]
    exact htake c' other hc' hother
  stops hread := by
    obtain ⟨before, t, behind, hc, hposition, hagree⟩ := hp.stops (h c rfl ▸ hread)
    exact ⟨before, t, behind, hc, hposition, fun d hd => by rw [h d (peek_of_front hc hd), hagree d hd]⟩

/-- One of two readings, chosen by the next token. -/
theorem LocalAt.ite {p q : Cursor → Reading α} (kind : Token.Kind) (hp : c.peek.kind = kind → LocalAt p c)
    (hq : c.peek.kind ≠ kind → LocalAt q c) : LocalAt (fun c => if c.check kind then p c else q c) c := by
  by_cases hk : c.peek.kind = kind
  · exact (hp hk).congr fun d hd => by rw [check, hd, if_pos (decide_eq_true hk)]
  · exact (hq hk).congr fun d hd => by rw [check, hd, if_neg (by simp [hk])]

/-! ## The readings of the grammar -/

theorem localAt_expect {kind : Token.Kind} (hk : kind ≠ .endOfText) (what : String) (c : Cursor) :
    LocalAt (fun c => c.expect kind what) c :=
  LocalAt.ite kind (fun h => localAt_pass (h ▸ hk)) fun _ => localAt_fail (.expected what) c

theorem localAt_identifier (what : String) (c : Cursor) : LocalAt (fun c => c.identifier what) c :=
  (localAt_expect (by decide) what c).map Token.text

/-- Why a value cannot be read: it is missing, or strict mode finds no literal. -/
theorem value_eq_error_iff {lenient : Bool} {parameter : String} {e : GrammarError} :
    c.value lenient parameter = .error e ↔
      (closesArgument c.peek.kind = true ∧ e = ⟨.noValue parameter, c.peek.position⟩) ∨
      (lenient = false ∧ IsStray c.peek.kind ∧ c.atNegative = false ∧
        e = ⟨.notLiteral c.peek parameter, c.peek.position⟩) := by
  rw [value_eq]
  split
  · next hk =>
    rw [number_eq_ok_iff.2 ⟨hk, rfl, rfl⟩]
    simp [Except.map, hk, closesArgument, IsStray]
  split
  · next hk =>
    rw [string_eq_ok_iff.2 ⟨hk, rfl, rfl⟩]
    simp [Except.map, hk, closesArgument, IsStray]
  split
  · next hminus =>
    obtain ⟨hm, hk⟩ := kind_of_atNegative hminus
    rw [number_eq_ok_iff.2 ⟨hk, rfl, rfl⟩]
    simp [Except.map, hm, hminus, closesArgument]
  split
  · next hk => simp [hk, closesArgument, IsStray]
  split
  · next hclose =>
    have hs : ¬IsStray c.peek.kind := fun h => by simp [(isStray_iff.1 h).2.2.2] at hclose
    simp only [hclose, hs, Except.error.injEq, true_and, false_and, and_false, or_false]
    exact eq_comm
  · next hnumber hstring hminus hkeyword hclose =>
    have hs : IsStray c.peek.kind := isStray_iff.2 ⟨hnumber, hstring, hkeyword, by simpa using hclose⟩
    cases lenient <;> simp [hclose, hs, hminus, eq_comm (b := e)]

theorem localAt_value (lenient : Bool) (parameter : String) (c : Cursor) :
    LocalAt (value lenient parameter) c := by
  by_cases hkeyword : c.peek.kind = .keyword
  · -- a keyword is read by itself, whatever its text is
    refine ((localAt_pass (by simp [hkeyword])).map fun t => keywordValue t.text).congr fun d hd => ?_
    rw [value_of_keyword (hd ▸ hkeyword)]
    rfl
  · refine ⟨fun h => ?_, fun h => ?_⟩
    · obtain ⟨front, hc, -, hread⟩ := (isValue_of_value (fun hk => absurd hk hkeyword) h).front
      refine ⟨front, hc, fun c' other hc' hother => ?_⟩
      have hvalue := hread id ⟨fun _ => rfl, fun _ => rfl⟩ other (by rw [hother])
      rw [List.map_id] at hvalue
      exact value_of_isValue parameter hvalue hc'
    · rcases value_eq_error_iff.1 h with ⟨hk, rfl⟩ | ⟨hl, hs, hminus, rfl⟩
      · exact stops_peek rfl fun d hd => value_eq_error_iff.2 (.inl ⟨by rw [hd, hk], by rw [hd]⟩)
      · have hend : c.peek.kind ≠ .endOfText := fun he => by simp [IsStray, he] at hs
        refine stops_pair hend (.inl rfl) fun d hd hnext => value_eq_error_iff.2 (.inr ?_)
        rw [atNegative, hnext, hd, ← atNegative]
        exact ⟨hl, hs, hminus, rfl⟩

/-- The separator behind the name of a parameter, as a reading. -/
def separated (parameter : String) (c : Cursor) : Reading Token :=
  if c.check .colon then c.pass else if c.check .equals then c.pass else c.fail (.noSeparator parameter)

theorem separator_eq (c : Cursor) (parameter : String) : c.separator parameter = (c.separated parameter).map (·.2) := by
  rw [separator, separated, accept, accept]
  by_cases hcolon : c.check .colon = true
  · simp [hcolon, pass, Except.map]
  · by_cases hequals : c.check .equals = true
    · simp [hcolon, hequals, pass, Except.map]
    · simp [hcolon, hequals, fail, Except.map]

theorem localAt_separated (parameter : String) (c : Cursor) : LocalAt (separated parameter) c := by
  refine LocalAt.ite .colon (fun hk => localAt_pass (by simp [hk])) fun _ => ?_
  refine LocalAt.ite .equals (fun hk => localAt_pass (by simp [hk])) fun _ => ?_
  exact localAt_fail (fun _ => .noSeparator parameter) c

/-- A name, a separator and a value, whether or not there is a parameter of that name. -/
def assignment (lenient : Bool) (parameters : Parameters) : Cursor → Reading Parameters :=
  andThen (fun c => c.identifier "parameter name") fun (name, d) =>
    andThen (separated name) (fun (_, d) => (d.value lenient name).map fun (v, d) => (parameters.insert name v, d)) d

theorem localAt_assignment (lenient : Bool) (parameters : Parameters) (c : Cursor) :
    LocalAt (assignment lenient parameters) c := by
  refine (localAt_identifier "parameter name" c).andThen fun name d _ => ?_
  refine (localAt_separated name d).andThen fun _ d _ => ?_
  exact (localAt_value lenient name d).map (parameters.insert name)

theorem argument_of_new {lenient : Bool} {parameters : Parameters} (hn : parameters.contains c.peek.text = false) :
    c.argument lenient parameters = c.assignment lenient parameters := by
  rw [argument, assignment]
  cases hname : c.identifier "parameter name" with
  | error e => rw [andThen_of_error hname]
  | ok x =>
    obtain ⟨name, d⟩ := x
    obtain ⟨-, rfl, rfl⟩ := identifier_eq_ok_iff.1 hname
    rw [andThen_of_ok hname]
    simp only [separator_eq, hn, andThen]
    cases c.advance.separated c.peek.text <;> rfl

/-- A parameter that is there is given twice, unless its name is none or no separator follows. -/
theorem argument_of_known {lenient : Bool} {parameters : Parameters} (hn : parameters.contains c.peek.text = true) :
    c.argument lenient parameters = .error (
      if c.peek.kind = .identifier then
        if (c.lookAhead 1).kind = .colon ∨ (c.lookAhead 1).kind = .equals then
          ⟨.duplicate c.peek.text, c.peek.position⟩
        else ⟨.noSeparator c.peek.text, (c.lookAhead 1).position⟩
      else ⟨.expected "parameter name" c.peek, c.peek.position⟩) := by
  by_cases hk : c.peek.kind = .identifier
  · have hname : c.identifier "parameter name" = .ok (c.peek.text, c.advance) := identifier_eq_ok_iff.2 ⟨hk, rfl, rfl⟩
    by_cases hs : (c.lookAhead 1).kind = .colon ∨ (c.lookAhead 1).kind = .equals
    · have hseparator : c.advance.separator c.peek.text = .ok c.advance.advance :=
        separator_eq_ok_iff.2 ⟨by rwa [peek_advance], rfl⟩
      simp [argument, hname, hseparator, hn, hk, hs, fail]
    · rw [not_or] at hs
      simp [argument, hname, separator, accept, check, fail, peek_advance, hk, hs]
  · simp [argument, identifier, expect, check, fail, Except.map, hk]

theorem localAt_argument (lenient : Bool) (parameters : Parameters) (c : Cursor) :
    LocalAt (argument lenient parameters) c := by
  cases hn : parameters.contains c.peek.text with
  | false => exact (localAt_assignment lenient parameters c).congr fun d hd => argument_of_new (by rw [hd, hn])
  | true =>
    refine ⟨fun h => ?_, fun h => ?_⟩
    · rw [argument_of_known hn] at h
      cases h
    · rw [argument_of_known hn] at h
      cases h
      by_cases hk : c.peek.kind = .identifier
      · refine stops_pair (by simp [hk]) ?_ fun d hd hnext => by rw [argument_of_known (by rw [hd, hn]), hd, hnext]
        -- a name that is given twice is reported where it stands, not where that is found out
        rw [if_pos hk]
        split
        · exact .inl rfl
        · exact .inr rfl
      · refine stops_peek (by rw [if_neg hk]) fun d hd => ?_
        rw [argument_of_known (by rw [hd, hn]), hd, if_neg hk, if_neg hk]

/-- What stands behind an argument: a comma and more arguments, or the end of the arguments. -/
def further (lenient : Bool) (x : Parameters × Cursor) : Reading Parameters :=
  if x.2.check .comma then x.2.advance.arguments lenient x.1 else .ok x

theorem arguments_eq_andThen (lenient : Bool) (parameters : Parameters) :
    arguments lenient parameters = andThen (argument lenient parameters) (further lenient) := by
  funext c
  rw [arguments_eq, andThen]
  cases c.argument lenient parameters with
  | error e => rfl
  | ok x =>
    simp only [Except.bind, further, accept]
    by_cases hk : x.2.check .comma = true
    · simp only [if_pos hk]
    · simp only [if_neg hk]

theorem localAt_arguments (lenient : Bool) (parameters : Parameters) (c : Cursor) :
    LocalAt (arguments lenient parameters) c := by
  -- the loop takes an argument each time round, so the induction is on the tokens ahead
  generalize hn : c.ahead.length = n
  induction n using Nat.strongRecOn generalizing c parameters with
  | ind n ih =>
    rw [arguments_eq_andThen]
    refine (localAt_argument lenient parameters c).andThen fun after d hd => ?_
    refine LocalAt.ite .comma (fun hk => ?_) fun _ => localAt_ok after d
    show LocalAt (andThen pass fun x => arguments lenient after x.2) d
    refine (localAt_pass (by simp [hk])).andThen fun t e he => ?_
    cases he
    exact ih _ (hn ▸ ahead_lt_of_accept hd (accept_eq_some_iff.2 ⟨hk, rfl⟩)) _ _ rfl

theorem localAt_list (lenient : Bool) (c : Cursor) : LocalAt (list lenient) c :=
  LocalAt.ite .closeParen (fun _ => localAt_ok ∅ c) fun _ => localAt_arguments lenient ∅ c

theorem localAt_call (lenient : Bool) (c : Cursor) : LocalAt (call lenient) c := by
  refine (localAt_identifier "command name" c).andThen fun name d _ => ?_
  refine (localAt_expect (by decide) "'(' after command name" d).andThen fun _ d _ => ?_
  refine (localAt_list lenient d).andThen fun parameters d _ => ?_
  refine (localAt_expect (by decide) "')' to close argument list" d).andThen fun _ d _ => ?_
  exact localAt_ok (⟨name, parameters⟩ : Call) d

/-- A semicolon behind a call, or nothing. -/
def ending (c : Cursor) : Reading Unit := if c.check .semicolon then .ok ((), c.advance) else .ok ((), c)

theorem localAt_ending (c : Cursor) : LocalAt ending c :=
  LocalAt.ite .semicolon (fun hk => (localAt_pass (by simp [hk])).map fun _ => ()) fun _ => localAt_ok () c

/-- A call that nothing but one semicolon follows, as a reading. -/
def entire (lenient : Bool) : Cursor → Reading Call :=
  andThen (call lenient) fun (call, d) =>
    andThen ending (fun (_, d) => if d.check .endOfText then .ok (call, d) else d.fail (.trailing d.peek)) d

theorem localAt_entire (lenient : Bool) (c : Cursor) : LocalAt (entire lenient) c := by
  refine (localAt_call lenient c).andThen fun call d _ => ?_
  refine (localAt_ending d).andThen fun _ d _ => ?_
  exact LocalAt.ite .endOfText (fun _ => localAt_ok call d) fun _ => localAt_fail .trailing d

theorem wholeCall_eq (lenient : Bool) (c : Cursor) : c.wholeCall lenient = (c.entire lenient).map (·.1) := by
  rw [wholeCall, entire]
  cases h : c.call lenient with
  | error e => rw [andThen_of_error h]; rfl
  | ok x =>
    obtain ⟨call, d⟩ := x
    rw [andThen_of_ok h, ok_bind]
    dsimp only [andThen, ending, accept]
    by_cases hs : d.check .semicolon = true
    · by_cases he : d.advance.check .endOfText = true <;> simp [hs, he, Except.bind, Except.map, fail, pure, Except.pure]
    · by_cases he : d.check .endOfText = true <;> simp [hs, he, Except.bind, Except.map, fail, pure, Except.pure]

/-- Where a call cannot be read, it cannot be read with any tokens that are the same up to the one
behind the error. -/
theorem stops_wholeCall {lenient : Bool} {e : GrammarError} (h : c.wholeCall lenient = .error e) :
    Stops (wholeCall lenient) c e := by
  rw [wholeCall_eq, map_eq_error_iff] at h
  obtain ⟨before, t, behind, hc, hp, hagree⟩ := (localAt_entire lenient c).stops h
  exact ⟨before, t, behind, hc, hp, fun d hd => by rw [wholeCall_eq, map_eq_error_iff, hagree d hd]⟩

end Cursor

/-- The place of a token among those of a text can be told from its offset. -/
theorem Token.split_inj {text : List Char} {before before' behind behind' : List Token} {t t' : Token}
    (ht : tokenize text = .ok (before ++ t :: behind)) (h : before ++ t :: behind = before' ++ t' :: behind')
    (hp : t.position = t'.position) : before = before' ∧ t = t' ∧ behind = behind' := by
  have hpairwise := (position_of_tokenize ht).2
  rw [List.pairwise_append, List.pairwise_cons] at hpairwise
  obtain ⟨-, ⟨hbehind, -⟩, hbefore⟩ := hpairwise
  refine (List.append_cons_inj_of_notMem ?_ ?_).1 h
  · intro hm
    have := hbefore t' hm t (List.mem_cons_self ..)
    omega
  · intro hm
    have := hbehind t' hm
    omega

/-- The token at the end of a text is the only one that stands for it. -/
theorem Token.position_of_endOfText {text : List Char} {tokens : List Token} (h : tokenize text = .ok tokens)
    {t : Token} (ht : t ∈ tokens) (hk : t.kind = .endOfText) : t.position = text.length := by
  obtain ⟨inner, hscan, rfl⟩ := exists_scan_of_tokenize h
  rcases List.mem_append.1 ht with ht | ht
  · exact absurd hk (kind_of_mem_scan hscan t ht)
  · rw [List.mem_singleton.1 ht, atEnd]

namespace Invocation

theorem remaining_of_start {text : List Char} {tokens : List Token} {c : Cursor} (hc : Cursor.start text = .ok c)
    (ht : Token.tokenize text = .ok tokens) : c.remaining = tokens := by
  obtain ⟨d, hd, hr, -⟩ := start_of_tokenize ht
  rw [hc] at hd
  cases hd
  exact hr

/-- A text that has tokens is rejected where these stop being a call. -/
theorem grammarError_of_rejected {lenient : Bool} {text : String} {tokens : List Token} {e : SceneError}
    {position : Nat} (ht : Token.tokenize text.toList = .ok tokens) (h : parse lenient text = reject text e position) :
    ∃ c g, Cursor.start text.toList = .ok c ∧ c.wholeCall lenient = .error g ∧
      e.kind = g.toSceneError.kind ∧ e.message = g.toSceneError.message ∧ position = g.position := by
  rcases rejected_cases h with ⟨l, hl, -⟩ | hgrammar
  · rw [hl] at ht
    cases ht
  · exact hgrammar

/-- **Errors in the grammar are local.** A text that has tokens and is no call is rejected at one of
its tokens, which may be the end of the text. Every other text whose tokens are the same up to the one
behind that, if there is one, is rejected with the same error at the same offset. -/
theorem reject_of_agree (lenient : Bool) {text : String} {tokens : List Token}
    (ht : Token.tokenize text.toList = .ok tokens) :
    ((parse lenient text).isValid = false → ∃ e position, parse lenient text = reject text e position) ∧
    ∀ e position, parse lenient text = reject text e position →
      (∃ t ∈ tokens, t.position = position ∧ (t.kind = .endOfText → position = text.length)) ∧
      ∀ before t behind, tokens = before ++ t :: behind → t.position = position →
        ∀ other others, Token.tokenize other.toList = .ok others → before ++ t :: behind.take 1 <+: others →
          parse lenient other = reject other e position := by
  refine ⟨exists_rejected, fun e position hreject => ?_⟩
  obtain ⟨c, g, hc, hg, hkind, hmessage, rfl⟩ := grammarError_of_rejected ht hreject
  obtain ⟨before, t, behind, hremaining, hp, hagree⟩ := Cursor.stops_wholeCall hg
  rw [remaining_of_start hc ht] at hremaining
  subst hremaining
  have hmem : t ∈ before ++ t :: behind := by simp
  refine ⟨⟨t, hmem, hp.symm, fun hk => ?_⟩, fun before' t' behind' htokens hposition other others hothers hfront => ?_⟩
  · rw [hp, Token.position_of_endOfText ht hmem hk, String.length_toList]
  · obtain ⟨rfl, rfl, rfl⟩ := Token.split_inj ht htokens (by rw [← hp, hposition])
    obtain ⟨d, hd, rfl, -⟩ := start_of_tokenize hothers
    rw [parse_of_wholeCall hd (hagree d hfront), reject_congr hkind hmessage]

/-- A parameter that is given twice is reported where its name stands, whatever stands behind the colon
that follows. -/
theorem reject_of_agree_duplicate :
    let text := "f(a: 1, a: 2)"
    let other := "f(a: 1, a: ; ->"
    (∃ e, parse true text = reject text e 8 ∧ parse true other = reject other e 8) ∧
      (parse true text).isValid = false := by
  intro text other
  let before : List Token := [⟨.identifier, "f", 0⟩, ⟨.openParen, "(", 1⟩, ⟨.identifier, "a", 2⟩, ⟨.colon, ":", 3⟩,
    ⟨.number, "1", 5⟩, ⟨.comma, ",", 6⟩]
  have ht : Token.tokenize text.toList = .ok (before ++ ⟨.identifier, "a", 8⟩ :: [⟨.colon, ":", 9⟩,
    ⟨.number, "2", 11⟩, ⟨.closeParen, ")", 12⟩, Token.atEnd 13]) := by decide +kernel
  have hothers : Token.tokenize other.toList = .ok (before ++ ⟨.identifier, "a", 8⟩ :: [⟨.colon, ":", 9⟩,
    ⟨.semicolon, ";", 11⟩, ⟨.arrow, "->", 13⟩, Token.atEnd 15]) := by decide +kernel
  let start : Cursor := ⟨[], before ++ [⟨.identifier, "a", 8⟩, ⟨.colon, ":", 9⟩, ⟨.number, "2", 11⟩,
    ⟨.closeParen, ")", 12⟩], 13⟩
  have hstart : Cursor.start text.toList = .ok start := by decide +kernel
  have herror : (start.wholeCall true).map (fun _ => ()) = .error ⟨.duplicate "a", 8⟩ := by decide +kernel
  have hreject : parse true text = reject text (GrammarError.toSceneError ⟨.duplicate "a", 8⟩) 8 :=
    parse_of_wholeCall hstart (map_eq_error_iff.1 herror)
  refine ⟨⟨_, hreject, ?_⟩, by rw [hreject, isValid_reject]⟩
  exact ((reject_of_agree true ht).2 _ _ hreject).2 before _ _ rfl rfl other _ hothers ⟨_, rfl⟩

end Invocation

end SceneLang
