/-
Reading tokens as a call.

A call is a name and, in parentheses, arguments with commas between them; an argument is a name, a
colon or an equals sign, and a value. One semicolon may follow. `Invocation.parse` reads a text as
a call or gives the diagnostic of the first error in it, with the place marked.

* `ahead_lt_of_argument`: an argument takes at least one token, so a list of arguments ends.
-/
import SceneLang.Invocation.Basic
import SceneLang.Invocation.Cursor
import SceneLang.Location
import SceneLang.Statement

namespace SceneLang

namespace Cursor

/-- Passes the colon or equals sign behind the name of a parameter. -/
def separator (c : Cursor) (parameter : String) : Except GrammarError Cursor :=
  match c.accept .colon with
  | some c => .ok c
  | none =>
    match c.accept .equals with
    | some c => .ok c
    | none => c.fail (.noSeparator parameter)

/-- The next argument, added to the parameters before it. -/
def argument (lenient : Bool) (parameters : Parameters) (c : Cursor) : Reading Parameters :=
  match c.identifier "parameter name" with
  | .error e => .error e
  | .ok (name, d) =>
    match d.separator name with
    | .error e => .error e
    | .ok d =>
      if parameters.contains name then c.fail (.duplicate name)
      else (d.value lenient name).map fun (v, d) => (parameters.insert name v, d)

/-! ## Readings move forward -/

theorem ahead_le_of_separator {c d : Cursor} {parameter : String} (h : c.separator parameter = .ok d) :
    d.ahead.length ≤ c.ahead.length := by
  simp only [separator] at h
  split at h
  · rename_i d' hc
    cases h
    rw [(accept_eq_some_iff.1 hc).2]
    exact c.length_advance_le
  · split at h
    · rename_i d' hc
      cases h
      rw [(accept_eq_some_iff.1 hc).2]
      exact c.length_advance_le
    · simp [fail] at h

theorem ahead_le_of_expect {c d : Cursor} {kind : Token.Kind} {what : String} {t : Token}
    (h : c.expect kind what = .ok (t, d)) : d.ahead.length ≤ c.ahead.length := by
  rw [(expect_eq_ok_iff.1 h).2.2]
  exact c.length_advance_le

theorem ahead_le_of_number {c d : Cursor} {x : Binary64} (h : c.number = .ok (x, d)) :
    d.ahead.length ≤ c.ahead.length := by
  obtain ⟨⟨t, d'⟩, ht, he⟩ := map_eq_ok_iff.1 h
  cases he
  exact ahead_le_of_expect ht

theorem ahead_le_of_string {c d : Cursor} {s : String} (h : c.string = .ok (s, d)) :
    d.ahead.length ≤ c.ahead.length := by
  obtain ⟨⟨t, d'⟩, ht, he⟩ := map_eq_ok_iff.1 h
  cases he
  exact ahead_le_of_expect ht

theorem ahead_le_of_value {lenient : Bool} {parameter : String} {c d : Cursor} {v : Value}
    (h : c.value lenient parameter = .ok (v, d)) : d.ahead.length ≤ c.ahead.length := by
  simp only [value] at h
  split at h
  · obtain ⟨⟨x, d'⟩, hx, he⟩ := map_eq_ok_iff.1 h
    cases he
    exact ahead_le_of_number hx
  · obtain ⟨⟨s, d'⟩, hs, he⟩ := map_eq_ok_iff.1 h
    cases he
    exact ahead_le_of_string hs
  · cases h
    exact c.length_advance_le
  · split at h
    · obtain ⟨⟨x, d'⟩, hx, he⟩ := map_eq_ok_iff.1 h
      cases he
      exact Nat.le_trans (ahead_le_of_number hx) c.length_advance_le
    · split at h
      · simp [fail] at h
      · split at h
        · cases h
          exact c.length_advance_le
        · simp [fail] at h

theorem ahead_lt_of_identifier {c d : Cursor} {what name : String} (h : c.identifier what = .ok (name, d)) :
    d.ahead.length < c.ahead.length := by
  obtain ⟨⟨t, d'⟩, ht, he⟩ := map_eq_ok_iff.1 h
  cases he
  obtain ⟨hk, -, rfl⟩ := expect_eq_ok_iff.1 ht
  exact length_advance_lt (by simp [hk])

theorem ahead_lt_of_argument {lenient : Bool} {parameters after : Parameters} {c d : Cursor}
    (h : c.argument lenient parameters = .ok (after, d)) : d.ahead.length < c.ahead.length := by
  simp only [argument] at h
  split at h
  · cases h
  · rename_i name d1 h1
    split at h
    · cases h
    · rename_i d2 h2
      split at h
      · simp [fail] at h
      · obtain ⟨⟨v, d3⟩, h3, he⟩ := map_eq_ok_iff.1 h
        cases he
        exact Nat.lt_of_le_of_lt (Nat.le_trans (ahead_le_of_value h3) (ahead_le_of_separator h2))
          (ahead_lt_of_identifier h1)

theorem ahead_lt_of_accept {lenient : Bool} {parameters after : Parameters} {c d e : Cursor}
    {kind : Token.Kind} (h : c.argument lenient parameters = .ok (after, d)) (hd : d.accept kind = some e) :
    e.ahead.length < c.ahead.length := by
  rw [(accept_eq_some_iff.1 hd).2]
  exact Nat.lt_of_le_of_lt d.length_advance_le (ahead_lt_of_argument h)

/-- Arguments with commas between them, added to the parameters before them. -/
def arguments (lenient : Bool) (parameters : Parameters) (c : Cursor) : Reading Parameters :=
  match h : c.argument lenient parameters with
  | .error e => .error e
  | .ok (parameters, d) =>
    match hd : d.accept .comma with
    | none => .ok (parameters, d)
    | some e =>
      have : e.ahead.length < c.ahead.length := ahead_lt_of_accept h hd
      arguments lenient parameters e
termination_by c.ahead.length

/-- What stands between the parentheses: nothing, or arguments. -/
def list (lenient : Bool) (c : Cursor) : Reading Parameters :=
  if c.check .closeParen then .ok (∅, c) else c.arguments lenient ∅

/-- A name and arguments in parentheses. -/
def call (lenient : Bool) (c : Cursor) : Except GrammarError (Call × Cursor) := do
  let (name, c) ← c.identifier "command name"
  let (_, c) ← c.expect .openParen "'(' after command name"
  let (parameters, c) ← c.list lenient
  let (_, c) ← c.expect .closeParen "')' to close argument list"
  return (⟨name, parameters⟩, c)

/-- A call that nothing but one semicolon follows. -/
def wholeCall (lenient : Bool) (c : Cursor) : Except GrammarError Call := do
  let (call, c) ← c.call lenient
  let c := (c.accept .semicolon).getD c
  if c.check .endOfText then return call else c.fail (.trailing c.peek)

end Cursor

namespace Invocation

/-- What a text that is no call was read as: the error with its place marked in the text. -/
def reject (text : String) (e : SceneError) (position : Nat) : Invocation :=
  ⟨text, .error ⟨some e.kind, some (Location.annotate e.message ⟨some text, some position⟩)⟩⟩

/-- What a command text is read as. -/
def parse (lenient : Bool) (text : String) : Invocation :=
  match Cursor.start text.toList with
  | .error e => reject text e.toSceneError e.position
  | .ok c =>
    match c.wholeCall lenient with
    | .error e => reject text e.toSceneError e.position
    | .ok call => ⟨text, .ok call⟩

/-- What the statements of a batch text are read as. -/
def parseAll (lenient : Bool) (text : String) : List Invocation :=
  (Statement.split text.toList).map fun statement => parse lenient (String.ofList statement)

end Invocation

end SceneLang
