/-
Blanks: the characters that separate tokens and are trimmed from the ends of a statement.

`trim` cuts the blanks off both ends of a text; `trim_trim` says that doing it again changes
nothing.
-/
import SceneLang.Text.Ranges

namespace SceneLang.Text

/-- The blank characters: the controls that move to another place or separate records, the
space, and the spaces and line separators beyond ASCII. -/
def blanks : Ranges :=
  [(9, 13), (28, 32), (0x85, 0x85), (0xa0, 0xa0), (0x1680, 0x1680), (0x2000, 0x200a), (0x2028, 0x2029),
   (0x202f, 0x202f), (0x205f, 0x205f), (0x3000, 0x3000)]

/-- Whether a character is blank. -/
def isBlank (c : Char) : Bool := blanks.contains c.toNat

/-- A text without the blanks at its start. -/
def trimLeft (text : List Char) : List Char := text.dropWhile isBlank

/-- A text without the blanks at its end. -/
def trimRight (text : List Char) : List Char := (text.reverse.dropWhile isBlank).reverse

/-- A text without the blanks at its start and end. -/
def trim (text : List Char) : List Char := trimRight (trimLeft text)

/-! ## Trimming again -/

theorem trimLeft_of_head {text : List Char} (h : ∀ c ∈ text.head?, isBlank c = false) : trimLeft text = text := by
  cases text with
  | nil => rfl
  | cons c rest => exact List.dropWhile_cons_of_neg (by simp [h c rfl])

theorem head_trimLeft (text : List Char) : ∀ c ∈ (trimLeft text).head?, isBlank c = false := by
  intro c hc
  have h := List.head?_dropWhile_not isBlank text
  rw [← trimLeft, Option.mem_def.1 hc] at h
  simpa using h

theorem trimLeft_trimLeft (text : List Char) : trimLeft (trimLeft text) = trimLeft text :=
  trimLeft_of_head (head_trimLeft text)

theorem trimRight_trimRight (text : List Char) : trimRight (trimRight text) = trimRight text := by
  have h := trimLeft_trimLeft text.reverse
  simp only [trimLeft] at h
  simp only [trimRight, List.reverse_reverse, h]

theorem trimRight_prefix (text : List Char) : trimRight text <+: text := by
  rw [← List.reverse_suffix, trimRight, List.reverse_reverse]
  exact List.dropWhile_suffix isBlank

theorem head_trim (text : List Char) : ∀ c ∈ (trim text).head?, isBlank c = false := by
  intro c hc
  obtain ⟨behind, hbehind⟩ := trimRight_prefix (trimLeft text)
  refine head_trimLeft text c ?_
  rw [← hbehind, List.head?_append, ← trim, Option.mem_def.1 hc]
  rfl

theorem trim_trim (text : List Char) : trim (trim text) = trim text := by
  rw [trim, trimLeft_of_head (head_trim text), trim, trimRight_trimRight]

theorem trim_trimLeft (text : List Char) : trim (trimLeft text) = trim text := by
  rw [trim, trimLeft_trimLeft, trim]

/-! ## A character between blanks -/

/-- What stands behind a character that is not blank stays where blanks are trimmed in front of it. -/
theorem trimLeft_append {c : Char} (hb : isBlank c = false) (text rest : List Char) :
    trimLeft (text ++ c :: rest) = trimLeft text ++ c :: rest := by
  have hrest : (c :: rest).dropWhile isBlank = c :: rest := List.dropWhile_cons_of_neg (by simp [hb])
  simp only [trimLeft, List.dropWhile_append, hrest]
  split
  · next h => rw [List.isEmpty_iff.1 h, List.nil_append]
  · rfl

theorem trimRight_append {c : Char} (hb : isBlank c = false) (text : List Char) {gap : List Char}
    (hg : ∀ d ∈ gap, isBlank d = true) : trimRight (text ++ c :: gap) = text ++ [c] := by
  have hgap : ∀ d ∈ gap.reverse, isBlank d = true := fun d hd => hg d (List.mem_reverse.1 hd)
  have hc : (c :: text.reverse).dropWhile isBlank = c :: text.reverse := List.dropWhile_cons_of_neg (by simp [hb])
  have hreverse : (text ++ c :: gap).reverse = gap.reverse ++ c :: text.reverse := by simp
  rw [trimRight, hreverse, List.dropWhile_append_of_pos hgap, hc]
  simp

end SceneLang.Text
