/-
A reader of tokens never leaves them, and keeps its place where a call fails.

There is no cursor behind an error and no token behind the last one, so neither can go wrong with a
`Cursor`. A `Reader` takes nothing of that for granted: it holds all tokens and the number of the next
one, a token is accessed by its number and may not be there, and a call that fails on its way leaves
the reader where it has got to. Each call on a reader is shown to do what the reading of the cursor at
its place does; what a call keeps follows from that, and what a run of calls keeps from what one does.

* `Meets`: a call on the reader at a cursor does what a reading does there.
* `meets_request`: every call does.
* `safe_event`: what one call keeps.
* `run_safe`: what a run of calls keeps, with failed calls anywhere among them.
-/
import Mathlib.Data.List.Basic
import SceneLang.Proofs.Grammar

namespace SceneLang

/-! ## Cursors on their way -/

namespace Cursor

variable {c d : Cursor}

/-- The end of the text stands behind all tokens and nowhere among them. -/
def Proper (c : Cursor) : Prop := (∀ t ∈ c.behind, t.kind ≠ .endOfText) ∧ ∀ t ∈ c.ahead, t.kind ≠ .endOfText

theorem tokens_advance (c : Cursor) : c.advance.tokens = c.tokens := by
  obtain ⟨behind, ahead, length⟩ := c
  cases ahead <;> simp [advance, tokens]

theorem Proper.advance (h : c.Proper) : c.advance.Proper := by
  obtain ⟨behind, ahead, length⟩ := c
  cases ahead with
  | nil => exact h
  | cons t ahead =>
    obtain ⟨hb, ha⟩ := h
    refine ⟨fun s hs => ?_, fun s hs => ha s (List.mem_cons_of_mem t hs)⟩
    rcases List.mem_cons.1 hs with rfl | hs
    · exact ha s (List.mem_cons_self ..)
    · exact hb s hs

theorem passed_advance_of_kind (h : c.peek.kind ≠ .endOfText) : c.advance.passed = c.passed + 1 := by
  obtain ⟨behind, ahead, length⟩ := c
  cases ahead with
  | nil => exact absurd rfl h
  | cons t ahead => rfl

theorem advance_of_end (hc : c.Proper) (h : c.peek.kind = .endOfText) : c.advance = c := by
  obtain ⟨behind, ahead, length⟩ := c
  cases ahead with
  | nil => rfl
  | cons t ahead => exact absurd h (hc.2 t (List.mem_cons_self ..))

theorem passed_le_advance (c : Cursor) : c.passed ≤ c.advance.passed := by
  obtain ⟨behind, ahead, length⟩ := c
  cases ahead with
  | nil => exact Nat.le_refl _
  | cons t ahead => exact Nat.le_succ _

/-- What is made of what a reading gives does not move the cursor behind it. -/
theorem exists_of_map {α β : Type} {reading : Reading α} {f : α × Cursor → β} {b : β}
    (h : reading.map (fun x => (f x, x.2)) = .ok (b, d)) : ∃ a, reading = .ok (a, d) := by
  obtain ⟨⟨a, d'⟩, ha, he⟩ := map_eq_ok_iff.1 h
  cases he
  exact ⟨a, ha⟩

/-- A value is two tokens if it is a number behind a minus, and else one. -/
theorem passed_of_value {lenient : Bool} {parameter : String} {v : Value}
    (h : c.value lenient parameter = .ok (v, d)) :
    (d = c.advance ∨ d = c.advance.advance) ∧ d.passed = c.passed + if c.atNegative then 2 else 1 := by
  rw [value_eq] at h
  split at h
  · next hk =>
    obtain ⟨x, hx⟩ := exists_of_map h
    obtain ⟨-, -, rfl⟩ := number_eq_ok_iff.1 hx
    simp [atNegative, hk, passed_advance_of_kind]
  split at h
  · next hk =>
    obtain ⟨s, hs⟩ := exists_of_map h
    obtain ⟨-, -, rfl⟩ := string_eq_ok_iff.1 hs
    simp [atNegative, hk, passed_advance_of_kind]
  split at h
  · next hminus =>
    obtain ⟨hm, hk⟩ := kind_of_atNegative hminus
    obtain ⟨x, hx⟩ := exists_of_map h
    obtain ⟨-, -, rfl⟩ := number_eq_ok_iff.1 hx
    simp [hminus, passed_advance_of_kind, hk, hm]
  split at h
  · next hk =>
    cases h
    simp [atNegative, hk, passed_advance_of_kind]
  split at h
  · cases h
  split at h
  · next hminus _ hclose _ =>
    cases h
    have hk : c.peek.kind ≠ .endOfText := by
      intro he
      simp [he, closesArgument] at hclose
    simp [hminus, passed_advance_of_kind hk]
  · cases h

end Cursor

/-! ## Readers -/

/-- The tokens of a text and the number of the one that is read next. -/
structure Reader where
  tokens : List Token
  current : Nat
  deriving DecidableEq

namespace Reader

/-- Why a call stops: an error in the grammar, or an access to a token that is not there. -/
inductive Stop where
  | grammar (e : GrammarError)
  | outOfRange
  deriving DecidableEq

/-- A call on a reader. Where it stops, what it has done to the reader stays done. -/
abbrev Act (α : Type) := ExceptT Stop (StateM Reader) α

/-- The token that many tokens ahead, or the last one. -/
def peek (offset : Nat) : Act Token := do
  let r ← get
  match r.tokens[min (r.current + offset) (r.tokens.length - 1)]? with
  | some t => return t
  | none => throw .outOfRange

/-- The next token, which is passed if it is not the end of the text. -/
def advance : Act Token := do
  let t ← peek 0
  if t.kind ≠ .endOfText then
    modify fun r => { r with current := r.current + 1 }
  return t

/-- Whether the next token is of a kind. -/
def check (kind : Token.Kind) : Act Bool := do
  let t ← peek 0
  return t.kind = kind

/-- Passes the next token if it is of a kind. -/
def accept (kind : Token.Kind) : Act Bool := do
  if ← check kind then
    let _ ← advance
    return true
  else return false

/-- The next token, which has to be of a kind and is passed. -/
def expect (kind : Token.Kind) (what : String) : Act Token := do
  if ← check kind then advance
  else
    let t ← peek 0
    throw (.grammar ⟨.expected what t, t.position⟩)

/-- The next token as an identifier. -/
def identifier (what : String) : Act String := Token.text <$> expect .identifier what

/-- The next token as a number. -/
def number : Act Binary64 := (fun t => Numeral.value t.text.toList) <$> expect .number "number"

/-- The next token as a text. -/
def string : Act String := Token.text <$> expect .string "string"

/-- Whether the next token, which is given, is a minus and the one behind it a number. Only behind a minus
is there a look ahead. -/
def negates (t : Token) : Act Bool := do
  if t.kind = .minus then
    let next ← peek 1
    return next.kind = .number
  else return false

/-- The next value of a parameter. The minus of a number is passed before the number is asked for. -/
def value (lenient : Bool) (parameter : String) : Act Value := do
  let t ← peek 0
  if t.kind = .number then Value.number <$> number
  else if t.kind = .string then Value.text <$> string
  else if ← negates t then
    let _ ← advance
    (fun x => Value.number (-x)) <$> number
  else if t.kind = .keyword then
    let _ ← advance
    return Cursor.keywordValue t.text
  else if Cursor.closesArgument t.kind then throw (.grammar ⟨.noValue parameter, t.position⟩)
  else if lenient then
    let _ ← advance
    return .null
  else throw (.grammar ⟨.notLiteral t parameter, t.position⟩)

/-! ## What a call does -/

variable {α β : Type}

/-- What a call gives on a reader, and the reader after it. -/
def perform (act : Act α) (r : Reader) : Except Stop α × Reader := StateT.run (ExceptT.run act) r

theorem perform_bind_of_ok {act : Act α} {r s : Reader} {a : α} (h : perform act r = (.ok a, s)) (f : α → Act β) :
    perform (act >>= f) r = perform (f a) s := by
  unfold perform at *
  rw [ExceptT.run_bind, StateT.run_bind, h]
  rfl

theorem perform_map (f : α → β) (act : Act α) (r : Reader) :
    perform (f <$> act) r = ((perform act r).1.map f, (perform act r).2) := by
  unfold perform
  rw [ExceptT.run_map, StateT.run_map]
  rfl

/-- The reader at the place of a cursor. -/
def atCursor (c : Cursor) : Reader := ⟨c.tokens, c.passed⟩

/-- The reader in front of the first token of a text is at the cursor there. -/
theorem exists_start {text : List Char} {tokens : List Token} (ht : Token.tokenize text = .ok tokens) :
    ∃ c, Cursor.start text = .ok c ∧ c.Proper ∧ c.tokens = tokens ∧ atCursor c = ⟨tokens, 0⟩ := by
  obtain ⟨ahead, hscan, rfl⟩ := Token.exists_scan_of_tokenize ht
  refine ⟨⟨[], ahead, text.length⟩, by rw [Cursor.start, hscan], ⟨?_, Token.kind_of_mem_scan hscan⟩, rfl, rfl⟩
  exact List.forall_mem_nil _

/-- What a reading gives and the reader at the cursor behind it, or at the cursor before it where it
gives an error. -/
def outcome (c : Cursor) : Cursor.Reading α → Except Stop α × Reader
  | .ok (a, d) => (.ok a, atCursor d)
  | .error e => (.error (.grammar e), atCursor c)

/-- A call on the reader at a cursor does what a reading does there. -/
def Meets (act : Act α) (c : Cursor) (reading : Cursor.Reading α) : Prop :=
  perform act (atCursor c) = outcome c reading

section

variable {c d e : Cursor} {act : Act α} {f : α → Act β} {a : α} {b : β}

theorem meets_pure (a : α) (c : Cursor) : Meets (pure a) c (.ok (a, c)) := rfl

theorem meets_throw (g : GrammarError) (c : Cursor) : Meets (throw (.grammar g) : Act α) c (.error g) := rfl

/-- Behind a call that leaves the reader where it is, another call may fail. -/
theorem Meets.look {reading : Cursor.Reading β} (h : Meets act c (.ok (a, c))) (hf : Meets (f a) c reading) :
    Meets (act >>= f) c reading := by
  rw [Meets, perform_bind_of_ok h]
  exact hf

/-- Behind a call that moves the reader, the next one may not. -/
theorem Meets.move (h : Meets act c (.ok (a, d))) (hf : Meets (f a) d (.ok (b, e))) :
    Meets (act >>= f) c (.ok (b, e)) := by
  rw [Meets, perform_bind_of_ok h]
  exact hf

theorem Meets.map {reading : Cursor.Reading α} {f : α → β} (h : Meets act c reading) :
    Meets (f <$> act) c (reading.map fun x => (f x.1, x.2)) := by
  rw [Meets, perform_map, h]
  cases reading <;> rfl

/-- A choice is made by what is known before either call. -/
theorem Meets.ite {act' : Act α} {reading reading' : Cursor.Reading α} (p : Prop) [Decidable p]
    (h : p → Meets act c reading) (h' : ¬p → Meets act' c reading') :
    Meets (if p then act else act') c (if p then reading else reading') := by
  by_cases hp : p
  · rw [if_pos hp, if_pos hp]
    exact h hp
  · rw [if_neg hp, if_neg hp]
    exact h' hp

end

/-! ## Every call meets its reading -/

section

variable {c : Cursor}

/-- The token looked at is there: it is the last one if it would be behind that. -/
theorem meets_peek (c : Cursor) (offset : Nat) : Meets (peek offset) c (.ok (c.lookAhead offset, c)) := by
  have hlen := c.length_tokens
  have htoken : c.tokens[min (c.passed + offset) (c.tokens.length - 1)]? = some (c.lookAhead offset) := by
    rcases Nat.le_total offset c.ahead.length with h | h
    · rw [show min (c.passed + offset) (c.tokens.length - 1) = c.passed + offset by omega, c.tokens_getElem? h]
    · rw [show min (c.passed + offset) (c.tokens.length - 1) = c.passed + c.ahead.length by omega,
        c.tokens_getElem? (Nat.le_refl _), c.lookAhead_of_le h]
  have hget : perform get (atCursor c) = (.ok (atCursor c), atCursor c) := rfl
  rw [Meets, peek, perform_bind_of_ok hget]
  show perform (match c.tokens[min (c.passed + offset) (c.tokens.length - 1)]? with | some t => _ | none => _) _ = _
  rw [htoken]
  rfl

theorem meets_next (c : Cursor) : Meets (peek 0) c (.ok (c.peek, c)) := meets_peek c 0

theorem meets_advance (hc : c.Proper) : Meets advance c (.ok (c.peek, c.advance)) := by
  refine (meets_next c).look ?_
  by_cases hk : c.peek.kind = .endOfText
  · rw [Cursor.advance_of_end hc hk, if_neg (by simp [hk])]
    exact meets_pure c.peek c
  · have hmove : perform (modify fun r => { r with current := r.current + 1 }) (atCursor c) =
        (.ok ⟨⟩, atCursor c.advance) := by
      rw [atCursor, atCursor, c.tokens_advance, Cursor.passed_advance_of_kind hk]
      rfl
    rw [if_pos hk, Meets, perform_bind_of_ok hmove]
    rfl

theorem meets_check (c : Cursor) (kind : Token.Kind) : Meets (check kind) c (.ok (c.check kind, c)) :=
  (meets_next c).look (meets_pure _ c)

theorem meets_accept (hc : c.Proper) (kind : Token.Kind) :
    Meets (accept kind) c (.ok (c.check kind, (c.accept kind).getD c)) := by
  refine (meets_check c kind).look ?_
  rw [Cursor.accept]
  by_cases hk : c.check kind = true
  · rw [if_pos hk, if_pos hk, hk]
    exact (meets_advance hc).move (meets_pure true c.advance)
  · rw [if_neg hk, if_neg hk, Bool.eq_false_iff.2 hk]
    exact meets_pure false c

theorem meets_expect (hc : c.Proper) (kind : Token.Kind) (what : String) :
    Meets (expect kind what) c (c.expect kind what) := by
  refine (meets_check c kind).look ?_
  refine Meets.ite _ (fun _ => meets_advance hc) fun _ => ?_
  exact (meets_next c).look (meets_throw _ c)

theorem meets_identifier (hc : c.Proper) (what : String) : Meets (identifier what) c (c.identifier what) :=
  (meets_expect hc .identifier what).map

theorem meets_number (hc : c.Proper) : Meets number c c.number := by
  -- stated apart from the goal: to find the function in the goal, the numeral would be evaluated
  have hmap := Meets.map (f := fun t : Token => Numeral.value t.text.toList) (meets_expect hc .number "number")
  exact hmap

theorem meets_string (hc : c.Proper) : Meets string c c.string :=
  (meets_expect hc .string "string").map

theorem meets_negates (c : Cursor) : Meets (negates c.peek) c (.ok (c.atNegative, c)) := by
  rw [negates, Cursor.atNegative]
  by_cases hk : c.peek.kind = .minus
  · rw [if_pos hk, hk]
    exact (meets_peek c 1).look (meets_pure _ c)
  · rw [if_neg hk, decide_eq_false hk]
    exact meets_pure false c

/-- Nothing fails behind the minus that a value passes, since a number was seen there. -/
theorem meets_value (hc : c.Proper) (lenient : Bool) (parameter : String) :
    Meets (value lenient parameter) c (c.value lenient parameter) := by
  refine (meets_next c).look ?_
  rw [Cursor.value_eq]
  refine Meets.ite _ (fun _ => Meets.map (meets_number hc)) fun _ => ?_
  refine Meets.ite _ (fun _ => Meets.map (meets_string hc)) fun _ => ?_
  refine (meets_negates c).look ?_
  refine Meets.ite _ (fun hminus => ?_) fun _ => ?_
  · have hread := Cursor.number_eq_ok_iff.2 ⟨(Cursor.kind_of_atNegative hminus).2, rfl, rfl⟩
    have hnumber := meets_number hc.advance
    rw [hread] at hnumber ⊢
    exact (meets_advance hc).move (Meets.map hnumber)
  refine Meets.ite _ (fun _ => (meets_advance hc).move (meets_pure _ _)) fun _ => ?_
  refine Meets.ite _ (fun _ => meets_throw _ c) fun _ => ?_
  exact Meets.ite _ (fun _ => (meets_advance hc).move (meets_pure _ _)) fun _ => meets_throw _ c

end

/-! ## Runs of calls -/

/-- What a call answers. -/
inductive Answer where
  | token (t : Token)
  | flag (b : Bool)
  | value (v : Value)

/-- The calls on a reader, each with what it is given. -/
inductive Request where
  | peek (offset : Nat)
  | advance
  | check (kind : Token.Kind)
  | accept (kind : Token.Kind)
  | expect (kind : Token.Kind) (what : String)
  | identifier (what : String)
  | number
  | string
  | value (parameter : String)

/-- The call that is requested. -/
def Request.act (lenient : Bool) : Request → Act Answer
  | .peek offset => Answer.token <$> Reader.peek offset
  | .advance => Answer.token <$> Reader.advance
  | .check kind => Answer.flag <$> Reader.check kind
  | .accept kind => Answer.flag <$> Reader.accept kind
  | .expect kind what => Answer.token <$> Reader.expect kind what
  | .identifier what => (fun name => .value (.text name)) <$> Reader.identifier what
  | .number => (fun x => .value (.number x)) <$> Reader.number
  | .string => (fun text => .value (.text text)) <$> Reader.string
  | .value parameter => Answer.value <$> Reader.value lenient parameter

/-- The reading of a cursor that a call amounts to. -/
def Request.reading (lenient : Bool) (c : Cursor) : Request → Cursor.Reading Answer
  | .peek offset => .ok (.token (c.lookAhead offset), c)
  | .advance => .ok (.token c.peek, c.advance)
  | .check kind => .ok (.flag (c.check kind), c)
  | .accept kind => .ok (.flag (c.check kind), (c.accept kind).getD c)
  | .expect kind what => (c.expect kind what).map fun x => (.token x.1, x.2)
  | .identifier what => (c.identifier what).map fun x => (.value (.text x.1), x.2)
  | .number => c.number.map fun x => (.value (.number x.1), x.2)
  | .string => c.string.map fun x => (.value (.text x.1), x.2)
  | .value parameter => (c.value lenient parameter).map fun x => (.value x.1, x.2)

theorem meets_request {c : Cursor} (hc : c.Proper) (lenient : Bool) (request : Request) :
    Meets (request.act lenient) c (request.reading lenient c) := by
  cases request with
  | peek offset => exact Meets.map (meets_peek c offset)
  | advance => exact Meets.map (meets_advance hc)
  | check kind => exact Meets.map (meets_check c kind)
  | accept kind => exact Meets.map (meets_accept hc kind)
  | expect kind what => exact Meets.map (meets_expect hc kind what)
  | identifier what => exact Meets.map (meets_identifier hc what)
  | number => exact Meets.map (meets_number hc)
  | string => exact Meets.map (meets_string hc)
  | value parameter => exact Meets.map (meets_value hc lenient parameter)

/-- No call passes more than two tokens, and only a value passes two. -/
theorem cursor_of_reading {lenient : Bool} {c d : Cursor} {request : Request} {a : Answer}
    (h : request.reading lenient c = .ok (a, d)) : d = c ∨ d = c.advance ∨ d = c.advance.advance := by
  cases request with
  | peek offset | check kind =>
    cases h
    exact .inl rfl
  | advance =>
    cases h
    exact .inr (.inl rfl)
  | accept kind =>
    cases h
    rw [Cursor.accept]
    by_cases hk : c.check kind = true
    · exact .inr (.inl (by rw [if_pos hk, Option.getD_some]))
    · exact .inl (by rw [if_neg hk, Option.getD_none])
  | expect kind what =>
    obtain ⟨t, ht⟩ := Cursor.exists_of_map h
    exact .inr (.inl (Cursor.expect_eq_ok_iff.1 ht).2.2)
  | identifier what =>
    obtain ⟨name, hname⟩ := Cursor.exists_of_map h
    exact .inr (.inl (Cursor.identifier_eq_ok_iff.1 hname).2.2)
  | number =>
    obtain ⟨x, hx⟩ := Cursor.exists_of_map h
    exact .inr (.inl (Cursor.number_eq_ok_iff.1 hx).2.2)
  | string =>
    obtain ⟨text, htext⟩ := Cursor.exists_of_map h
    exact .inr (.inl (Cursor.string_eq_ok_iff.1 htext).2.2)
  | value parameter =>
    obtain ⟨v, hv⟩ := Cursor.exists_of_map h
    exact .inr (Cursor.passed_of_value hv).1

/-- A reading that succeeds goes on from its cursor among the same tokens. -/
theorem forward_of_reading {lenient : Bool} {c d : Cursor} {request : Request} {a : Answer} (hc : c.Proper)
    (h : request.reading lenient c = .ok (a, d)) : d.Proper ∧ d.tokens = c.tokens ∧ c.passed ≤ d.passed := by
  rcases cursor_of_reading h with rfl | rfl | rfl
  · exact ⟨hc, rfl, Nat.le_refl _⟩
  · exact ⟨hc.advance, c.tokens_advance, c.passed_le_advance⟩
  · refine ⟨hc.advance.advance, ?_, Nat.le_trans c.passed_le_advance c.advance.passed_le_advance⟩
    rw [Cursor.tokens_advance, Cursor.tokens_advance]

/-- A call in a run: the reader before it, what it gives, and the reader after it. -/
structure Event where
  before : Reader
  request : Request
  result : Except Stop Answer
  after : Reader

/-- One call on a reader. -/
def event (lenient : Bool) (request : Request) (r : Reader) : Event :=
  let (result, after) := perform (request.act lenient) r
  ⟨r, request, result, after⟩

/-- Calls on a reader, one after the other; the next one is made whether or not one stops. -/
def run (lenient : Bool) : List Request → Reader → List Event
  | [], _ => []
  | request :: requests, r =>
    let first := event lenient request r
    first :: run lenient requests first.after

/-- The kind of the token of a number. -/
def kindAt? (r : Reader) (index : Nat) : Option Token.Kind := r.tokens[index]?.map Token.kind

/-- The next two tokens are a minus and a number. -/
def AtNegative (r : Reader) : Prop := r.kindAt? r.current = some .minus ∧ r.kindAt? (r.current + 1) = some .number

instance (r : Reader) : Decidable r.AtNegative := inferInstanceAs (Decidable (_ ∧ _))

/-- A reader is among the tokens, and the end of the text is not behind it. -/
structure Within (tokens : List Token) (r : Reader) : Prop where
  tokens_eq : r.tokens = tokens
  current_lt : r.current < tokens.length
  end_ahead : ∀ t ∈ tokens.take r.current, t.kind ≠ .endOfText

/-- What holds of every call in a run. -/
structure Event.Safe (lenient : Bool) (tokens : List Token) (event : Event) : Prop where
  before_within : event.before.Within tokens
  after_within : event.after.Within tokens
  /-- the reader does not go back -/
  forward : event.before.current ≤ event.after.current
  /-- each token that is accessed is there -/
  in_range : event.result ≠ .error .outOfRange
  /-- a call that fails takes no token -/
  kept : ∀ stop, event.result = .error stop → event.after = event.before
  /-- a value is two tokens if it is a number behind a minus, and else one -/
  taken : ∀ parameter answer, event.request = .value parameter → event.result = .ok answer →
    event.after.current = event.before.current + if event.before.AtNegative then 2 else 1
  /-- the call does what the reading of the cursor at its place does -/
  meets : ∃ c, event.before = atCursor c ∧
    (event.result, event.after) = outcome c (event.request.reading lenient c)

theorem within_atCursor {c : Cursor} (hc : c.Proper) : (atCursor c).Within c.tokens where
  tokens_eq := rfl
  current_lt := by
    show c.passed < c.tokens.length
    rw [c.length_tokens]
    omega
  end_ahead t ht := by
    have htake : c.tokens.take c.passed = c.behind.reverse := List.take_left' List.length_reverse
    rw [atCursor, htake, List.mem_reverse] at ht
    exact hc.1 t ht

theorem atNegative_atCursor (c : Cursor) : (atCursor c).AtNegative ↔ c.atNegative = true := by
  have hnext : (atCursor c).kindAt? (atCursor c).current = some c.peek.kind := by
    have htoken : c.tokens[c.passed]? = some c.peek := c.tokens_getElem? (Nat.zero_le _)
    show c.tokens[c.passed]?.map Token.kind = _
    rw [htoken, Option.map_some]
  rw [AtNegative, hnext, Cursor.atNegative, Bool.and_eq_true, decide_eq_true_eq, decide_eq_true_eq, Option.some_inj]
  refine and_congr_right fun hm => ?_
  have hlen : 1 ≤ c.ahead.length := List.length_pos_iff.2 (Cursor.ahead_ne_nil_of_kind (by simp [hm]))
  show c.tokens[c.passed + 1]?.map Token.kind = _ ↔ _
  rw [c.tokens_getElem? hlen, Option.map_some, Option.some_inj]

/-- A call on the reader at a cursor is safe, and leaves it at a cursor among the same tokens. -/
theorem safe_event {c : Cursor} (hc : c.Proper) (lenient : Bool) (request : Request) :
    (event lenient request (atCursor c)).Safe lenient c.tokens ∧
      ∃ d : Cursor, d.Proper ∧ d.tokens = c.tokens ∧ (event lenient request (atCursor c)).after = atCursor d := by
  have hmeets : perform (request.act lenient) (atCursor c) = outcome c (request.reading lenient c) :=
    meets_request hc lenient request
  have hevent : event lenient request (atCursor c) = ⟨atCursor c, request, (outcome c (request.reading lenient c)).1,
    (outcome c (request.reading lenient c)).2⟩ := by rw [event, hmeets]
  rw [hevent]
  cases hread : request.reading lenient c with
  | error e =>
    refine ⟨?_, c, hc, rfl, rfl⟩
    exact {
      before_within := within_atCursor hc
      after_within := within_atCursor hc
      forward := Nat.le_refl _
      in_range := by simp [outcome]
      kept := fun _ _ => rfl
      taken := fun _ _ _ hresult => by simp [outcome] at hresult
      meets := ⟨c, rfl, by rw [hread]⟩ }
  | ok x =>
    obtain ⟨a, d⟩ := x
    obtain ⟨hd, htokens, hforward⟩ := forward_of_reading hc hread
    refine ⟨?_, d, hd, htokens, rfl⟩
    exact {
      before_within := within_atCursor hc
      after_within := htokens ▸ within_atCursor hd
      forward := hforward
      in_range := by simp [outcome]
      kept := fun _ hresult => by simp [outcome] at hresult
      taken := fun parameter _ hrequest _ => by
        subst hrequest
        obtain ⟨v, hv⟩ := Cursor.exists_of_map hread
        simp only [atNegative_atCursor]
        exact (Cursor.passed_of_value hv).2
      meets := ⟨c, rfl, by rw [hread]⟩ }

/-- What every call in a run from a cursor keeps, by induction on the calls. -/
theorem run_atCursor (lenient : Bool) (requests : List Request) {c : Cursor} (hc : c.Proper) :
    (∀ x ∈ run lenient requests (atCursor c), x.Safe lenient c.tokens ∧ c.passed ≤ x.before.current) ∧
      (run lenient requests (atCursor c)).Pairwise fun x y => x.after.current ≤ y.before.current := by
  induction requests generalizing c with
  | nil => exact ⟨fun x hx => by simp [run] at hx, .nil⟩
  | cons request requests ih =>
    obtain ⟨hsafe, d, hd, htokens, hafter⟩ := safe_event hc lenient request
    obtain ⟨hrun, hordered⟩ := ih hd
    have hforward : (atCursor c).current ≤ (atCursor d).current := hafter ▸ hsafe.forward
    rw [run, hafter]
    refine ⟨fun x hx => ?_, .cons (fun x hx => ?_) hordered⟩
    · rcases List.mem_cons.1 hx with rfl | hx
      · exact ⟨hsafe, Nat.le_refl _⟩
      · obtain ⟨hsafe, hpassed⟩ := hrun x hx
        exact ⟨htokens ▸ hsafe, Nat.le_trans hforward hpassed⟩
    · rw [hafter]
      exact (hrun x hx).2

/-- **A reader of tokens never leaves them.** However calls follow one another from the first token of a
text on, failed ones among them, the reader stays among the tokens, with the end of the text not behind it,
and never goes back; no token is accessed that is not there; a call that fails takes nothing, and a value
is two tokens if it is a number behind a minus, and else one. -/
theorem run_safe (lenient : Bool) {text : List Char} {tokens : List Token} (ht : Token.tokenize text = .ok tokens)
    (requests : List Request) :
    Within tokens ⟨tokens, 0⟩ ∧ (∀ x ∈ run lenient requests ⟨tokens, 0⟩, x.Safe lenient tokens) ∧
      (run lenient requests ⟨tokens, 0⟩).Pairwise fun x y => x.after.current ≤ y.before.current := by
  obtain ⟨c, -, hc, htokens, hstart⟩ := exists_start ht
  obtain ⟨hrun, hordered⟩ := run_atCursor lenient requests hc
  rw [← hstart, ← htokens]
  exact ⟨within_atCursor hc, fun x hx => (hrun x hx).1, hordered⟩

/-- A negative number read among calls that fail, and calls at the end of the text. -/
theorem run_safe_negative :
    let tokens : List Token := [⟨.identifier, "f", 0⟩, ⟨.openParen, "(", 1⟩, ⟨.minus, "-", 2⟩, ⟨.number, "1", 3⟩,
      ⟨.closeParen, ")", 4⟩, Token.atEnd 5]
    let requests : List Request := [.number, .identifier "command name", .value "x", .accept .openParen, .value "x",
      .peek 9, .advance, .expect .endOfText "end", .value "x", .advance]
    (∀ x ∈ run false requests ⟨tokens, 0⟩, x.Safe false tokens) ∧
      (run false requests ⟨tokens, 0⟩).map (fun x => (x.result.isOk, x.after.current)) =
        [(false, 0), (true, 1), (false, 1), (true, 2), (true, 4), (true, 4), (true, 5), (true, 5), (false, 5), (true, 5)] := by
  intro tokens requests
  have ht : Token.tokenize "f(-1)".toList = .ok tokens := by decide +kernel
  exact ⟨(run_safe false ht requests).2.1, by decide +kernel⟩

end Reader

end SceneLang
