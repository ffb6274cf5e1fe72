/-
Texts in pieces.

A text is cut at a character and put together again with one between its pieces.

* `join_splitAt`: cutting and joining at the same character gives the text back.
* `splitAt_append`, `join_append`: both go piece by piece.
-/

namespace SceneLang.Text

/-- Puts a character in front of the first piece. -/
def consFirst (c : Char) : List (List Char) → List (List Char)
  | [] => [[c]]
  | piece :: pieces => (c :: piece) :: pieces

/-- The pieces of a text between the places where a character stands. There is always one. -/
def splitAt (separator : Char) : List Char → List (List Char)
  | [] => [[]]
  | c :: rest => if c = separator then [] :: splitAt separator rest else consFirst c (splitAt separator rest)

/-- Pieces put together with a character between them. -/
def join (separator : Char) : List (List Char) → List Char
  | [] => []
  | [piece] => piece
  | piece :: pieces => piece ++ separator :: join separator pieces

theorem join_cons (separator : Char) (piece : List Char) {pieces : List (List Char)} (h : pieces ≠ []) :
    join separator (piece :: pieces) = piece ++ separator :: join separator pieces := by
  cases pieces with
  | nil => exact absurd rfl h
  | cons next pieces => rfl

theorem join_consFirst (separator c : Char) {pieces : List (List Char)} (h : pieces ≠ []) :
    join separator (consFirst c pieces) = c :: join separator pieces := by
  match pieces with
  | [] => exact absurd rfl h
  | [piece] => rfl
  | piece :: next :: pieces => rfl

theorem consFirst_ne_nil (c : Char) (pieces : List (List Char)) : consFirst c pieces ≠ [] := by
  cases pieces <;> simp [consFirst]

theorem splitAt_ne_nil (separator : Char) (text : List Char) : splitAt separator text ≠ [] := by
  cases text with
  | nil => simp [splitAt]
  | cons c rest =>
    simp only [splitAt]
    split
    · simp
    · exact consFirst_ne_nil _ _

theorem join_splitAt (separator : Char) (text : List Char) :
    join separator (splitAt separator text) = text := by
  induction text with
  | nil => rfl
  | cons c rest ih =>
    have hne := splitAt_ne_nil separator rest
    simp only [splitAt]
    split
    · rename_i h
      rw [join_cons _ _ hne, ih, h, List.nil_append]
    · rw [join_consFirst _ _ hne, ih]

theorem consFirst_append (c : Char) {pieces : List (List Char)} (h : pieces ≠ []) (more : List (List Char)) :
    consFirst c (pieces ++ more) = consFirst c pieces ++ more := by
  cases pieces with
  | nil => exact absurd rfl h
  | cons piece pieces => rfl

theorem splitAt_append (separator : Char) (text more : List Char) :
    splitAt separator (text ++ separator :: more) = splitAt separator text ++ splitAt separator more := by
  induction text with
  | nil => simp [splitAt]
  | cons c rest ih =>
    simp only [List.cons_append, splitAt, ih]
    split
    · rfl
    · exact consFirst_append _ (splitAt_ne_nil _ _) _

theorem join_append (separator : Char) {pieces more : List (List Char)} (h : pieces ≠ []) (hm : more ≠ []) :
    join separator (pieces ++ more) = join separator pieces ++ separator :: join separator more := by
  induction pieces with
  | nil => exact absurd rfl h
  | cons piece pieces ih =>
    cases pieces with
    | nil => exact join_cons _ _ hm
    | cons next pieces =>
      rw [List.cons_append, join_cons _ _ (by simp), join_cons _ _ (by simp), ih (by simp), List.append_assoc,
        List.cons_append]

end SceneLang.Text
