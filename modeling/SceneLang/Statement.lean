/-
Cutting a batch text into statements.

Statements are separated by semicolons that stand outside quoted text. A state walks over the
characters and says whether it is inside quotes and whether a backslash came just before; it needs
no tokens, so a text that cannot be read into tokens still has its statements.

* `join_cut`: the pieces, with a semicolon between them, are the text.
* `Quoting.after_append`: the state after a text depends on the text through the state alone.
-/
import SceneLang.Text.Blank
import SceneLang.Text.Pieces
import SceneLang.Token.Basic

namespace SceneLang

/-- Where a character stands with respect to quoted text. -/
inductive Quoting where
  | outside
  | inside (quote : Char)
  /-- inside, right after a backslash -/
  | escaped (quote : Char)
  deriving DecidableEq

namespace Quoting

/-- The state behind a character. -/
def next : Quoting → Char → Quoting
  | .outside, c => if Token.isQuote c then .inside c else .outside
  | .inside quote, c => if c = '\\' then .escaped quote else if c = quote then .outside else .inside quote
  | .escaped quote, _ => .inside quote

/-- The state behind a text. -/
def after (state : Quoting) (text : List Char) : Quoting := text.foldl next state

@[simp] theorem after_nil (state : Quoting) : state.after [] = state := rfl

@[simp] theorem after_cons (state : Quoting) (c : Char) (text : List Char) :
    state.after (c :: text) = (state.next c).after text := rfl

theorem after_append (state : Quoting) (text more : List Char) :
    state.after (text ++ more) = (state.after text).after more := by
  simp [after]

end Quoting

namespace Statement

/-- What separates statements. -/
def separator : Char := ';'

/-- The pieces of a text between the separators outside quoted text. There is always one. -/
def cut (state : Quoting) : List Char → List (List Char)
  | [] => [[]]
  | c :: rest =>
    if state = .outside ∧ c = separator then [] :: cut .outside rest
    else Text.consFirst c (cut (state.next c) rest)

/-- The statements of a text: its pieces without the blanks around them, empty ones left out. -/
def split (text : List Char) : List (List Char) :=
  ((cut .outside text).map Text.trim).filter (!·.isEmpty)

/-! ## First facts -/

theorem cut_ne_nil (state : Quoting) (text : List Char) : cut state text ≠ [] := by
  cases text with
  | nil => simp [cut]
  | cons c rest =>
    simp only [cut]
    split
    · simp
    · exact Text.consFirst_ne_nil _ _

/-- Cutting loses nothing. -/
theorem join_cut (state : Quoting) (text : List Char) : Text.join separator (cut state text) = text := by
  induction text generalizing state with
  | nil => rfl
  | cons c rest ih =>
    simp only [cut]
    split
    · rename_i h
      rw [Text.join_cons _ _ (cut_ne_nil _ _), ih, h.2, List.nil_append]
    · rw [Text.join_consFirst _ _ (cut_ne_nil _ _), ih]

end Statement

end SceneLang
