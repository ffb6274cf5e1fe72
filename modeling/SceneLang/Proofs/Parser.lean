/-
A parser that is used again and again, and that it reads exactly the grammar.

A parser keeps its tokens and its place among them from one text to the next: it is a `Reader` on which
the calls for separators, arguments and whole invocations are made. A text that has tokens puts its own in
place of those before and starts again in front of them; a text that has none leaves the reader as it is.
An argument may fail with its name passed already, so the reader may end up anywhere behind an error, and
all that is shown of an error is that it is the same one (`Follows`).

* `Follows`: a call on the reader at a cursor gives what a reading there gives.
* `follows_arguments`: there are rounds enough for all arguments.
* `result_parse`: what a reader gives for a text does not hang on what it has read before.
* `result_parseAll`: nor does what it gives for the statements of a batch, read one after the other.
* `reading_parse_iff_isInvocation`: that is a call exactly if the tokens of the text are an invocation.
-/
import SceneLang.Proofs.Reader

namespace SceneLang

/-- An argument as its parts one after the other: a name that is new, a separator and a value. -/
theorem Cursor.argument_eq (lenient : Bool) (parameters : Parameters) (c : Cursor) :
    c.argument lenient parameters = (c.identifier "parameter name").bind fun x =>
      ((x.2.separator x.1).map fun d => ((), d)).bind fun y =>
        if parameters.contains x.1 then c.fail (.duplicate x.1)
        else (y.2.value lenient x.1).map fun z => (parameters.insert x.1 z.1, z.2) := by
  rw [argument]
  cases c.identifier "parameter name" with
  | error e => rfl
  | ok x =>
    dsimp only [Except.bind]
    cases x.2.separator x.1 <;> rfl

namespace Reader

/-! ## Calls for whole parts of an invocation -/

/-- Passes the colon or equals sign behind the name of a parameter. -/
def separator (parameter : String) : Act Unit := do
  if ← accept .colon then return
  else if ← accept .equals then return
  else
    let t ← peek 0
    throw (.grammar ⟨.noSeparator parameter, t.position⟩)

/-- The next argument, added to the parameters before it. Where its name stands is looked up before the
name is passed. -/
def argument (lenient : Bool) (parameters : Parameters) : Act Parameters := do
  let first ← peek 0
  let name ← identifier "parameter name"
  separator name
  if parameters.contains name then throw (.grammar ⟨.duplicate name, first.position⟩)
  else parameters.insert name <$> value lenient name

/-- Arguments with commas between them, one each round. With no rounds left there is no token left to
be an argument. -/
def arguments (lenient : Bool) : Nat → Parameters → Act Parameters
  | 0, _ => throw .outOfRange
  | rounds + 1, parameters => do
    let after ← argument lenient parameters
    if ← accept .comma then arguments lenient rounds after else return after

/-- What stands between the parentheses: nothing, or arguments. -/
def list (lenient : Bool) : Act Parameters := do
  if ← check .closeParen then return ∅
  else
    let r ← get
    arguments lenient r.tokens.length ∅

/-- A name and arguments in parentheses. -/
def call (lenient : Bool) : Act Call := do
  let name ← identifier "command name"
  let _ ← expect .openParen "'(' after command name"
  let parameters ← list lenient
  let _ ← expect .closeParen "')' to close argument list"
  return ⟨name, parameters⟩

/-- A call that nothing but one semicolon follows. -/
def wholeCall (lenient : Bool) : Act Call := do
  let call ← call lenient
  let _ ← accept .semicolon
  if ← check .endOfText then return call
  else
    let t ← peek 0
    throw (.grammar ⟨.trailing t, t.position⟩)

/-- What is given for a text that cannot be read to its end: an error in the grammar is reported with it,
an access to a token that is not there is not. -/
def rejected (text : String) : Stop → Act Invocation
  | .grammar e => return Invocation.reject text e.toSceneError e.position
  | .outOfRange => throw .outOfRange

/-- What a reader gives for a text. The text's own tokens are put in place of those of the text before,
unless it has none. -/
def parse (lenient : Bool) (text : String) : Act Invocation :=
  match Token.tokenize text.toList with
  | .error e => return Invocation.reject text e.toSceneError e.position
  | .ok tokens => do
    set (⟨tokens, 0⟩ : Reader)
    tryCatch ((fun call => ⟨text, .ok call⟩) <$> wholeCall lenient) (rejected text)

/-- What a reader gives for the statements of a batch, one after the other. -/
def parseAll (lenient : Bool) (text : String) : Act (List Invocation) :=
  ((Statement.split text.toList).map String.ofList).mapM (parse lenient)

/-! ## Calls that follow readings -/

variable {α β : Type}

/-- A call on the reader at a cursor gives what a reading there gives, and the reader goes on from the cursor
behind that. Behind an error it may be anywhere. -/
def Follows (act : Act α) (c : Cursor) : Cursor.Reading α → Prop
  | .ok (a, d) => d.Proper ∧ perform act (atCursor c) = (.ok a, atCursor d)
  | .error e => (perform act (atCursor c)).1 = .error (.grammar e)

theorem perform_bind_of_error {act : Act α} {r : Reader} {stop : Stop} (h : (perform act r).1 = .error stop)
    (f : α → Act β) : (perform (act >>= f) r).1 = .error stop := by
  unfold perform at *
  rw [ExceptT.run_bind, StateT.run_bind]
  generalize StateT.run (ExceptT.run act) r = x at h
  obtain ⟨result, s⟩ := x
  cases h
  rfl

theorem perform_tryCatch_of_ok {act : Act α} {r s : Reader} {a : α} (h : perform act r = (.ok a, s))
    (handle : Stop → Act α) : perform (tryCatch act handle) r = (.ok a, s) := by
  unfold perform at *
  rw [ExceptT.run_tryCatch, StateT.run_bind, h]
  rfl

/-- A handler is called with the reader as the error has left it. -/
theorem perform_tryCatch_of_error {act : Act α} {r : Reader} {stop : Stop} (h : (perform act r).1 = .error stop)
    (handle : Stop → Act α) : perform (tryCatch act handle) r = perform (handle stop) (perform act r).2 := by
  unfold perform at *
  rw [ExceptT.run_tryCatch, StateT.run_bind]
  generalize StateT.run (ExceptT.run act) r = x at h
  obtain ⟨result, s⟩ := x
  cases h
  rfl

section

variable {c d : Cursor} {act : Act α} {f : α → Act β} {a : α} {reading : Cursor.Reading β}

theorem Meets.follows {reading : Cursor.Reading α} (h : Meets act c reading)
    (hd : ∀ a d, reading = .ok (a, d) → d.Proper) : Follows act c reading := by
  cases reading with
  | ok x => exact ⟨hd x.1 x.2 rfl, h⟩
  | error e =>
    rw [Meets, outcome] at h
    rw [Follows, h]

/-- Behind a call that cannot fail, a call follows what it follows at the cursor there. -/
theorem Meets.behind (h : Meets act c (.ok (a, d))) (hf : Follows (f a) d reading) :
    Follows (act >>= f) c reading := by
  cases reading with
  | ok x => rw [Follows, perform_bind_of_ok h]; exact hf
  | error e => rw [Follows, perform_bind_of_ok h]; exact hf

theorem Follows.step (h : Follows act c (.ok (a, d))) (hf : d.Proper → Follows (f a) d reading) :
    Follows (act >>= f) c reading :=
  Meets.behind h.2 (hf h.1)

theorem Follows.map {reading : Cursor.Reading α} {g : α → β} (h : Follows act c reading) :
    Follows (g <$> act) c (reading.map fun x => (g x.1, x.2)) := by
  cases reading with
  | ok x => exact ⟨h.1, by rw [perform_map, h.2]; rfl⟩
  | error e =>
    rw [Follows] at h
    rw [Except.map, Follows, perform_map, h]
    rfl

theorem Follows.stop {e : GrammarError} (h : Follows act c (.error e)) : Follows (act >>= f) c (.error e) :=
  perform_bind_of_error h f

theorem Follows.bind {reading : Cursor.Reading α} {next : α × Cursor → Cursor.Reading β} (h : Follows act c reading)
    (hf : ∀ a d, d.Proper → Follows (f a) d (next (a, d))) : Follows (act >>= f) c (reading.bind next) := by
  cases reading with
  | ok x => exact h.step fun hd => hf x.1 x.2 hd
  | error e => exact h.stop

end

/-! ## Every part of an invocation follows its reading -/

section

variable {c : Cursor}

theorem meets_accept_of_check (hc : c.Proper) {kind : Token.Kind} (h : c.check kind = true) :
    Meets (accept kind) c (.ok (true, c.advance)) := by
  have haccept := meets_accept hc kind
  rwa [Cursor.accept, if_pos h, h, Option.getD_some] at haccept

theorem meets_accept_of_not_check (hc : c.Proper) {kind : Token.Kind} (h : ¬c.check kind = true) :
    Meets (accept kind) c (.ok (false, c)) := by
  have haccept := meets_accept hc kind
  rwa [Cursor.accept, if_neg h, Bool.eq_false_iff.2 h, Option.getD_none] at haccept

theorem follows_pure (hc : c.Proper) (a : α) : Follows (pure a) c (.ok (a, c)) := ⟨hc, rfl⟩

theorem follows_throw (g : GrammarError) (c : Cursor) : Follows (throw (.grammar g) : Act α) c (.error g) := rfl

theorem follows_expect (hc : c.Proper) (kind : Token.Kind) (what : String) :
    Follows (expect kind what) c (c.expect kind what) := by
  refine (meets_expect hc kind what).follows fun t d h => ?_
  rw [(Cursor.expect_eq_ok_iff.1 h).2.2]
  exact hc.advance

theorem follows_identifier (hc : c.Proper) (what : String) : Follows (identifier what) c (c.identifier what) := by
  refine (meets_identifier hc what).follows fun name d h => ?_
  rw [(Cursor.identifier_eq_ok_iff.1 h).2.2]
  exact hc.advance

theorem follows_value (hc : c.Proper) (lenient : Bool) (parameter : String) :
    Follows (value lenient parameter) c (c.value lenient parameter) := by
  refine (meets_value hc lenient parameter).follows fun v d h => ?_
  rcases (Cursor.passed_of_value h).1 with rfl | rfl
  · exact hc.advance
  · exact hc.advance.advance

theorem follows_separator (hc : c.Proper) (parameter : String) :
    Follows (separator parameter) c ((c.separator parameter).map fun d => ((), d)) := by
  rw [Cursor.separator, Cursor.accept, Cursor.accept]
  by_cases hcolon : c.check .colon = true
  · rw [if_pos hcolon]
    exact (meets_accept_of_check hc hcolon).behind (follows_pure hc.advance ())
  rw [if_neg hcolon]
  refine (meets_accept_of_not_check hc hcolon).behind ?_
  by_cases hequals : c.check .equals = true
  · rw [if_pos hequals]
    exact (meets_accept_of_check hc hequals).behind (follows_pure hc.advance ())
  rw [if_neg hequals]
  refine (meets_accept_of_not_check hc hequals).behind ?_
  exact (meets_next c).behind (follows_throw _ c)

theorem follows_argument (hc : c.Proper) (lenient : Bool) (parameters : Parameters) :
    Follows (argument lenient parameters) c (c.argument lenient parameters) := by
  rw [Cursor.argument_eq]
  refine (meets_next c).behind ?_
  refine (follows_identifier hc "parameter name").bind fun name d hd => ?_
  refine (follows_separator hd name).bind fun _ d hd => ?_
  by_cases hn : parameters.contains name = true
  · rw [if_pos hn, if_pos hn]
    exact follows_throw _ d
  · rw [if_neg hn, if_neg hn]
    exact (follows_value hd lenient name).map

/-- Every round takes a token, so there are rounds enough if there are more of them than tokens ahead. -/
theorem follows_arguments (hc : c.Proper) (lenient : Bool) (parameters : Parameters) {rounds : Nat}
    (h : c.ahead.length < rounds) :
    Follows (arguments lenient rounds parameters) c (c.arguments lenient parameters) := by
  induction rounds generalizing c parameters with
  | zero => exact absurd h (Nat.not_lt_zero _)
  | succ rounds ih =>
    rw [Cursor.arguments_eq]
    have hargument := follows_argument hc lenient parameters
    cases harg : c.argument lenient parameters with
    | error e =>
      rw [harg] at hargument
      exact hargument.stop
    | ok x =>
      obtain ⟨after, d⟩ := x
      rw [harg] at hargument
      refine hargument.step fun hd => ?_
      dsimp only
      by_cases hk : d.check .comma = true
      · have haccept : d.accept .comma = some d.advance := if_pos hk
        rw [haccept]
        refine (meets_accept_of_check hd hk).behind (ih hd.advance after ?_)
        exact Nat.lt_of_lt_of_le (Cursor.ahead_lt_of_accept harg haccept) (Nat.le_of_lt_succ h)
      · have haccept : d.accept .comma = none := if_neg hk
        rw [haccept]
        exact (meets_accept_of_not_check hd hk).behind (follows_pure hd after)

theorem follows_list (hc : c.Proper) (lenient : Bool) : Follows (list lenient) c (c.list lenient) := by
  refine (meets_check c .closeParen).behind ?_
  rw [Cursor.list]
  by_cases hk : c.check .closeParen = true
  · rw [if_pos hk, if_pos hk]
    exact follows_pure hc ∅
  · rw [if_neg hk, if_neg hk]
    have hget : Meets get c (.ok (atCursor c, c)) := rfl
    have hrounds : c.ahead.length < c.tokens.length := by
      rw [c.length_tokens]
      omega
    exact hget.behind (follows_arguments hc lenient ∅ hrounds)

theorem follows_call (hc : c.Proper) (lenient : Bool) : Follows (call lenient) c (c.call lenient) := by
  refine (follows_identifier hc "command name").bind fun name d hd => ?_
  refine (follows_expect hd .openParen "'(' after command name").bind fun _ d hd => ?_
  refine (follows_list hd lenient).bind fun parameters d hd => ?_
  refine (follows_expect hd .closeParen "')' to close argument list").bind fun _ d hd => ?_
  exact follows_pure hd _

/-- Nothing is read behind a whole call, so where the reader is then is not shown. -/
theorem result_wholeCall (hc : c.Proper) (lenient : Bool) :
    (perform (wholeCall lenient) (atCursor c)).1 = (c.wholeCall lenient).mapError .grammar := by
  rw [Cursor.wholeCall]
  have hcall := follows_call hc lenient
  cases hread : c.call lenient with
  | error e =>
    rw [hread] at hcall
    exact perform_bind_of_error hcall _
  | ok x =>
    obtain ⟨call, d⟩ := x
    rw [hread] at hcall
    obtain ⟨hd, hcall⟩ := hcall
    rw [wholeCall, perform_bind_of_ok hcall, perform_bind_of_ok (meets_accept hd .semicolon), ok_bind]
    dsimp only
    generalize (d.accept .semicolon).getD d = e
    rw [perform_bind_of_ok (meets_check e .endOfText)]
    by_cases hk : e.check .endOfText = true
    · rw [if_pos hk, if_pos hk]
      rfl
    · rw [if_neg hk, if_neg hk, perform_bind_of_ok (meets_next e)]
      rfl

end

/-! ## Texts, one after the other -/

/-- What a reader gives for a text does not hang on what it has read before. -/
theorem result_parse (lenient : Bool) (text : String) (r : Reader) :
    (perform (parse lenient text) r).1 = .ok (Invocation.parse lenient text) := by
  cases ht : Token.tokenize text.toList with
  | error e =>
    simp only [parse, ht, Invocation.parse, Invocation.start_of_tokenize_error ht]
    rfl
  | ok tokens =>
    obtain ⟨c, hc, hproper, -, hfirst⟩ := exists_start ht
    have hset : perform (set (⟨tokens, 0⟩ : Reader)) r = (.ok ⟨⟩, atCursor c) := by
      rw [hfirst]
      rfl
    have hwhole := result_wholeCall hproper lenient
    simp only [parse, ht, Invocation.parse, hc]
    rw [perform_bind_of_ok hset]
    cases hread : c.wholeCall lenient with
    | error e =>
      rw [hread] at hwhole
      rw [perform_tryCatch_of_error (by rw [perform_map, hwhole]; rfl)]
      rfl
    | ok call =>
      rw [hread] at hwhole
      rw [perform_tryCatch_of_ok (by rw [perform_map, hwhole]; rfl)]

/-- What a reader gives for texts one after the other, by induction on the texts, with any reader in front
of the first. -/
theorem result_mapM_parse (lenient : Bool) (texts : List String) (r : Reader) :
    (perform (texts.mapM (parse lenient)) r).1 = .ok (texts.map (Invocation.parse lenient)) := by
  induction texts generalizing r with
  | nil => rfl
  | cons text texts ih =>
    have hfirst : perform (parse lenient text) r =
        (.ok (Invocation.parse lenient text), (perform (parse lenient text) r).2) :=
      Prod.ext (result_parse lenient text r) rfl
    rw [List.mapM_cons, perform_bind_of_ok hfirst, bind_pure_comp, perform_map, ih]
    rfl

/-- The statements of a batch are read by one reader as if each had a reader of its own. -/
theorem result_parseAll (lenient : Bool) (text : String) (r : Reader) :
    (perform (parseAll lenient text) r).1 = .ok (Invocation.parseAll lenient text) := by
  rw [parseAll, result_mapM_parse, List.map_map]
  rfl

end Reader

namespace Invocation

open Grammar

/-- **The parser reads exactly the grammar.** Whatever a parser has read before, a text is read as a call
exactly if it has tokens and they are an invocation of that name with those parameters; nothing else about
the text plays a part. Any other text is rejected without name or parameters, with a diagnostic, and as a
lexical error exactly if it has no tokens. -/
theorem reading_parse_iff_isInvocation (lenient : Bool) (text : String) :
    (∀ r : Reader, (Reader.perform (Reader.parse lenient text) r).1 = .ok (parse lenient text)) ∧
    (∀ call, (parse lenient text).reading = .ok call ↔
      ∃ tokens, Token.tokenize text.toList = .ok tokens ∧
        IsInvocation lenient tokens call.name call.parameters.entries) ∧
    ((parse lenient text).isValid = true ↔
      ∃ tokens name entries, Token.tokenize text.toList = .ok tokens ∧
        IsInvocation lenient tokens name entries) ∧
    ((parse lenient text).isValid = false →
      (parse lenient text).commandName = "" ∧ (parse lenient text).parameters = ∅ ∧
      (∃ d, (parse lenient text).diagnostic? = some d ∧ d ≠ "") ∧
      ((parse lenient text).kind? = some .lexical ↔ ∃ e, Token.tokenize text.toList = .error e) ∧
      ((parse lenient text).kind? = some .grammar ↔ ∃ tokens, Token.tokenize text.toList = .ok tokens)) ∧
    (parse lenient text).source = text := by
  refine ⟨Reader.result_parse lenient text, fun call => reading_eq_ok_iff, isValid_parse_iff, rejected_of_isValid, ?_⟩
  exact source_parse lenient text

/-- A parser that has stopped in the middle of another text reads the next one from its first token. -/
example :
    let r : Reader := ⟨[⟨.identifier, "f", 0⟩, ⟨.openParen, "(", 1⟩, ⟨.identifier, "a", 2⟩, Token.atEnd 3], 2⟩
    ((Reader.perform (Reader.parse false "g()") r).1.map (·.commandName)).toOption = some "g" := by decide +kernel

end Invocation

end SceneLang
