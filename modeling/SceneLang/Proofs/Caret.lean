/-
Where the caret of a diagnostic stands.

A diagnostic shows the text behind a label and, on the line below, a caret as many columns in as the
label and the offset of the error take up together. So the caret is under the error where the text is
one line. Where it has more, the caret stands below the last of them and counts the characters of them
all.

* `Location.pointsAt_iff`: when the caret stands under an offset of the text.
* `Invocation.caret_points_iff`: the caret of a text that is no call.
* `Invocation.not_pointsAt_break`: an error on the second line that the caret does not stand under.
-/
import Mathlib.Data.List.DropRight
import SceneLang.Proofs.LexicalErrors
import SceneLang.Proofs.Locality

namespace SceneLang

/-! ## Lines and columns -/

namespace Text

/-- The line that an offset is in: how many line breaks stand before it. -/
def line (text : List Char) (offset : Nat) : Nat := (text.take offset).count '\n'

/-- How far into its line an offset is: how many characters stand before it and behind the last line break
before it. -/
def column (text : List Char) (offset : Nat) : Nat := ((text.take offset).rtakeWhile (· ≠ '\n')).length

/-- Characters without a line break among them are all that stands behind the last line break. -/
theorem rtakeWhile_break {text : List Char} (h : '\n' ∉ text) (front : List Char) :
    (front ++ '\n' :: text).rtakeWhile (· ≠ '\n') = text := by
  induction text using List.reverseRecOn with
  | nil => exact List.rtakeWhile_concat_neg _ _ _ (by simp)
  | append_singleton text c ih =>
    rw [List.mem_append, List.mem_singleton, not_or] at h
    have hc : c ≠ '\n' := fun he => h.2 he.symm
    rw [← List.cons_append, ← List.append_assoc, List.rtakeWhile_concat_pos _ _ _ (by simpa using hc), ih h.1]

/-- Behind a line break there are fewer characters than where the line break is one of them. -/
theorem length_rtakeWhile_lt {text : List Char} (h : '\n' ∈ text) (front : List Char) :
    ((front ++ text).rtakeWhile (· ≠ '\n')).length < text.length := by
  induction text using List.reverseRecOn with
  | nil => simp at h
  | append_singleton text c ih =>
    rw [← List.append_assoc]
    by_cases hc : c = '\n'
    · rw [List.rtakeWhile_concat_neg _ _ _ (by simp [hc])]
      simp
    · have hmem : '\n' ∈ text := by simpa [Ne.symm hc] using h
      rw [List.rtakeWhile_concat_pos _ _ _ (by simpa using hc), List.length_append, List.length_append]
      exact Nat.add_lt_add_right (ih hmem) 1

/-- Without a line break among them, they are all that there are. -/
theorem rtakeWhile_of_not_mem {text : List Char} (h : '\n' ∉ text) : text.rtakeWhile (· ≠ '\n') = text := by
  refine List.rtakeWhile_eq_self_iff.2 fun c hc => ?_
  have hne : c ≠ '\n' := fun he => h (he ▸ hc)
  simpa using hne

end Text

namespace Location

open Text

/-- The caret at the end of some lines stands right below an offset in them: one line further down and
in the same column. -/
def PointsAt (place : List Char) (offset : Nat) : Prop :=
  ∃ front, place = front ++ ['^'] ∧ line place front.length = line place offset + 1 ∧
    column place front.length = column place offset

/-- A text behind a label, and on the line below it spaces up to the column of a caret. -/
def beforeCaret (text : List Char) (position : Nat) : List Char :=
  label.toList ++ text ++ '\n' :: List.replicate (label.length + position) ' '

/-- A text with a caret below it. -/
def marked (text : List Char) (position : Nat) : List Char := beforeCaret text position ++ ['^']

variable {text : List Char} {position : Nat}

theorem not_mem_label : '\n' ∉ label.toList := by decide

theorem not_mem_spaces (count : Nat) : '\n' ∉ List.replicate count ' ' := by simp

theorem line_caret (text : List Char) (position : Nat) :
    line (marked text position) (beforeCaret text position).length = text.count '\n' + 1 := by
  rw [line, marked, List.take_left, beforeCaret]
  simp [List.count_eq_zero_of_not_mem (not_mem_spaces _), List.count_eq_zero_of_not_mem not_mem_label]

theorem column_caret (text : List Char) (position : Nat) :
    column (marked text position) (beforeCaret text position).length = label.length + position := by
  rw [column, marked, List.take_left, beforeCaret, rtakeWhile_break (not_mem_spaces _), List.length_replicate]

/-- Before an offset of the text that is marked stand the label and what stands before it in the text. -/
theorem take_marked (hle : position ≤ text.length) :
    (marked text position).take (label.length + position) = label.toList ++ text.take position := by
  have hmarked : marked text position =
      label.toList ++ (text ++ ('\n' :: List.replicate (label.length + position) ' ' ++ ['^'])) := by
    simp [marked, beforeCaret]
  rw [hmarked, ← String.length_toList, List.take_length_add_append, List.take_append_of_le_length hle]

theorem line_marked (hle : position ≤ text.length) :
    line (marked text position) (label.length + position) = (text.take position).count '\n' := by
  rw [line, take_marked hle, List.count_append, List.count_eq_zero_of_not_mem not_mem_label, Nat.zero_add]

theorem column_marked (hle : position ≤ text.length) (h : '\n' ∉ text.take position) :
    column (marked text position) (label.length + position) = label.length + position := by
  have hlabel : '\n' ∉ label.toList ++ text.take position := by
    rw [List.mem_append, not_or]
    exact ⟨not_mem_label, h⟩
  rw [column, take_marked hle, rtakeWhile_of_not_mem hlabel, List.length_append, List.length_take,
    String.length_toList, Nat.min_eq_left hle]

theorem column_marked_lt (hle : position ≤ text.length) (h : '\n' ∈ text.take position) :
    column (marked text position) (label.length + position) < position := by
  have hlt := length_rtakeWhile_lt h label.toList
  rw [← take_marked hle, List.length_take, Nat.min_eq_left hle] at hlt
  exact hlt

/-- The caret stands right below an offset of the text that it marks exactly if the text is one line. -/
theorem pointsAt_iff (hle : position ≤ text.length) :
    PointsAt (marked text position) (label.length + position) ↔ '\n' ∉ text := by
  constructor
  · intro h hmem
    obtain ⟨front, hplace, hline, hcolumn⟩ := h
    obtain rfl : beforeCaret text position = front := (List.append_inj' hplace rfl).1
    rw [line_caret, line_marked hle] at hline
    rw [column_caret] at hcolumn
    -- every line break stands before the offset, so there is one that takes columns away
    have hcount := List.count_pos_iff.2 hmem
    have hbefore : '\n' ∈ text.take position := List.count_pos_iff.1 (by omega)
    have hlt := column_marked_lt hle hbefore
    omega
  · intro hmem
    have hbefore : '\n' ∉ text.take position := fun h => hmem (List.mem_of_mem_take h)
    refine ⟨beforeCaret text position, rfl, ?_, ?_⟩
    · rw [line_caret, line_marked hle, List.count_eq_zero_of_not_mem hmem, List.count_eq_zero_of_not_mem hbefore]
    · rw [column_caret, column_marked hle hbefore]

end Location

namespace Invocation

open Location

/-- A diagnostic is a message and, below it, the text with the caret. -/
theorem diagnostic_eq_marked (text : String) (e : SceneError) (position : Nat) :
    (reject text e position).diagnostic? =
      some (e.message ++ "\n" ++ String.ofList (marked text.toList position)) := by
  have hplace : label ++ text ++ "\n" ++ caret position = String.ofList (marked text.toList position) := by
    rw [← String.toList_inj, String.toList_ofList]
    simp [marked, beforeCaret, toList_caret]
  rw [diagnostic?, reject]
  dsimp only
  rw [annotate_eq, hplace]

/-- An error is at a character of the text or at its end. -/
theorem position_le_length {lenient : Bool} {text : String} {e : SceneError} {position : Nat}
    (h : parse lenient text = reject text e position) : position ≤ text.toList.length := by
  rcases rejected_cases h with ⟨l, hl, -, -, rfl⟩ | ⟨c, g, hc, hg, -, -, rfl⟩
  · obtain ⟨front, d, rest, -, htext, hposition, -⟩ := Token.exists_stop (Token.scan_of_tokenize_error hl)
    rw [htext, hposition, List.length_append, List.length_cons]
    omega
  · cases ht : Token.tokenize text.toList with
    | error l =>
      rw [start_of_tokenize_error ht] at hc
      cases hc
    | ok tokens =>
      obtain ⟨before, t, behind, hremaining, hp, -⟩ := Cursor.stops_wholeCall hg
      rw [remaining_of_start hc ht] at hremaining
      rw [hp]
      exact (Token.position_of_tokenize ht).1 t (by simp [hremaining])

/-- The same error, once in the first line of a text and once in the second. -/
theorem reject_missing_separator :
    parse true "f(a 1)" = reject "f(a 1)" (GrammarError.toSceneError ⟨.noSeparator "a", 4⟩) 4 ∧
      parse true "f(\na 1)" = reject "f(\na 1)" (GrammarError.toSceneError ⟨.noSeparator "a", 5⟩) 5 := by
  let start (name value ending length : Nat) : Cursor := ⟨[], [⟨.identifier, "f", 0⟩, ⟨.openParen, "(", 1⟩,
    ⟨.identifier, "a", name⟩, ⟨.number, "1", value⟩, ⟨.closeParen, ")", ending⟩], length⟩
  have hone : Cursor.start "f(a 1)".toList = .ok (start 2 4 5 6) := by decide +kernel
  have htwo : Cursor.start "f(\na 1)".toList = .ok (start 3 5 6 7) := by decide +kernel
  have hone' : ((start 2 4 5 6).wholeCall true).map (fun _ => ()) = .error ⟨.noSeparator "a", 4⟩ := by decide +kernel
  have htwo' : ((start 3 5 6 7).wholeCall true).map (fun _ => ()) = .error ⟨.noSeparator "a", 5⟩ := by decide +kernel
  exact ⟨parse_of_wholeCall hone (map_eq_error_iff.1 hone'), parse_of_wholeCall htwo (map_eq_error_iff.1 htwo')⟩

/-- **Where the caret stands.** A text that is no call is rejected with an error at an offset, which the
message tells. Below the message the text is shown behind a label, and on the line below it a caret. The
caret stands right below the character at the offset, or behind the last character if that is where the
error is, exactly if the text has no line break. -/
theorem caret_points_iff (lenient : Bool) (text : String) :
    ((parse lenient text).isValid = false → ∃ e position, parse lenient text = reject text e position) ∧
    ∀ e position, parse lenient text = reject text e position →
      position ≤ text.length ∧ (∃ what, e.message = SceneError.atOffset what (.integer position)) ∧
      ∃ place : String, (parse lenient text).diagnostic? = some (e.message ++ "\n" ++ place) ∧
        place.toList = marked text.toList position ∧
        (PointsAt place.toList (label.length + position) ↔ '\n' ∉ text.toList) := by
  refine ⟨exists_rejected, fun e position hreject => ?_⟩
  have hle := position_le_length hreject
  refine ⟨by rwa [String.length_toList] at hle, message_of_rejected hreject, String.ofList (marked text.toList position), ?_,
    String.toList_ofList, ?_⟩
  · rw [hreject, diagnostic_eq_marked]
  · rw [String.toList_ofList, pointsAt_iff hle]

/-- A missing colon in a text of one line, and the same with a line break in front of it. -/
theorem caret_points_iff_lines :
    (∃ e place, parse true "f(a 1)" = reject "f(a 1)" e 4 ∧
      (parse true "f(a 1)").diagnostic? = some (e.message ++ "\n" ++ place) ∧
      PointsAt place.toList (label.length + 4)) ∧
    ∃ e place, parse true "f(\na 1)" = reject "f(\na 1)" e 5 ∧
      (parse true "f(\na 1)").diagnostic? = some (e.message ++ "\n" ++ place) ∧
      ¬PointsAt place.toList (label.length + 5) := by
  have hone := reject_missing_separator.1
  have htwo := reject_missing_separator.2
  obtain ⟨-, -, place, hplace, -, hpoints⟩ := (caret_points_iff true "f(a 1)").2 _ _ hone
  obtain ⟨-, -, place', hplace', -, hpoints'⟩ := (caret_points_iff true "f(\na 1)").2 _ _ htwo
  exact ⟨⟨_, place, hone, hplace, hpoints.2 (by decide)⟩, _, place', htwo, hplace',
    fun h => absurd (by decide) (hpoints'.1 h)⟩

/-- Below a text of two lines the caret does not stand under an error in the second. -/
theorem not_pointsAt_break :
    ¬ ∀ (lenient : Bool) (text : String) (e : SceneError) (position : Nat) (place : String),
      parse lenient text = reject text e position →
      (parse lenient text).diagnostic? = some (e.message ++ "\n" ++ place) →
      PointsAt place.toList (label.length + position) := by
  intro h
  have hreject := reject_missing_separator.2
  have hpoints := h true _ _ _ _ hreject (by rw [hreject, diagnostic_eq_marked])
  rw [String.toList_ofList, pointsAt_iff (by decide)] at hpoints
  exact hpoints (by decide)

end Invocation

end SceneLang
