/-
What a rejection says.

The diagnostic of a text that is no call is a message and, below it, the text with a caret under it.
The caret line is the last one and holds nothing but spaces in front of the caret, so the offset can
be told from the diagnostic and the message from the rest of it: a text is rejected with one message
and at one offset.

* `Location.annotate_eq`: the lines of a diagnostic.
* `Invocation.reject_inj`: what can be told from a rejection.
* `Invocation.rejected_cases`: a text is rejected because it has no tokens or because these make no call.
-/
import SceneLang.Proofs.Grammar

namespace SceneLang

/-- What stands in front of the first place of a character, and what stands behind it. -/
theorem Text.append_cons_inj {c : Char} {front front' back back' : List Char} (hc : c ∉ front) (hc' : c ∉ front')
    (h : front ++ c :: back = front' ++ c :: back') : front = front' ∧ back = back' := by
  rcases List.append_eq_append_iff.1 h with ⟨more, rfl, hback⟩ | ⟨more, rfl, hback⟩
  · cases more with
    | nil => simpa using hback
    | cons d more =>
      cases hback
      simp at hc'
  · cases more with
    | nil => simpa [eq_comm] using hback
    | cons d more =>
      cases hback
      simp at hc

namespace Location

/-- A message with the place in a text that it is about: the message, the text and the caret. -/
theorem annotate_eq (message text : String) (position : Nat) :
    annotate message ⟨some text, some position⟩ = message ++ "\n" ++ (label ++ text ++ "\n" ++ caret position) := by
  have hne : render ⟨some text, some position⟩ ≠ "" := by
    intro h
    have hlength := congrArg String.length h
    simp [render] at hlength
  rw [annotate, if_neg hne, render]

theorem toList_caret (position : Nat) :
    (caret position).toList = List.replicate (label.length + position) ' ' ++ ['^'] := by
  rw [caret, String.toList_ofList]
  rfl

theorem not_mem_caret (position : Nat) : '\n' ∉ (caret position).toList := by
  simp [toList_caret]

theorem caret_inj {position position' : Nat} (h : (caret position).toList = (caret position').toList) :
    position = position' := by
  have hlength := congrArg List.length h
  simp only [toList_caret, List.length_append, List.length_replicate] at hlength
  omega

/-- A message and a place in a text can be told from the two together. -/
theorem annotate_inj {message message' text : String} {position position' : Nat}
    (h : annotate message ⟨some text, some position⟩ = annotate message' ⟨some text, some position'⟩) :
    message = message' ∧ position = position' := by
  rw [annotate_eq, annotate_eq] at h
  have hlist := congrArg (List.reverse ∘ String.toList) h
  simp only [Function.comp, String.toList_append, List.reverse_append] at hlist
  have hbreak : "\n".toList.reverse = ['\n'] := rfl
  simp only [hbreak, List.append_assoc, List.singleton_append] at hlist
  obtain ⟨hcaret, hrest⟩ := Text.append_cons_inj (by simpa using not_mem_caret position)
    (by simpa using not_mem_caret position') hlist
  have hmessage : message.toList = message'.toList := by simpa using hrest
  exact ⟨String.toList_inj.1 hmessage, caret_inj (List.reverse_inj.1 hcaret)⟩

end Location

namespace Invocation

/-- The message and the offset that a text is rejected with can be told from the rejection. -/
theorem reject_inj {text : String} {e e' : SceneError} {position position' : Nat}
    (h : reject text e position = reject text e' position') :
    e.kind = e'.kind ∧ e.message = e'.message ∧ position = position' := by
  simp only [reject, Invocation.mk.injEq, Except.error.injEq, Rejection.mk.injEq, Option.some.injEq, true_and] at h
  exact ⟨h.1, Location.annotate_inj h.2⟩

/-- What a text is rejected with goes by the kind and the message of the error alone. -/
theorem reject_congr {e e' : SceneError} (hk : e.kind = e'.kind) (hm : e.message = e'.message) (text : String)
    (position : Nat) : reject text e position = reject text e' position := by
  rw [reject, reject, hk, hm]

theorem isValid_reject (text : String) (e : SceneError) (position : Nat) :
    (reject text e position).isValid = false := rfl

variable {lenient : Bool} {text : String}

theorem parse_of_wholeCall {c : Cursor} {e : GrammarError} (hc : Cursor.start text.toList = .ok c)
    (he : c.wholeCall lenient = .error e) : parse lenient text = reject text e.toSceneError e.position := by
  simp only [parse, hc, he]

theorem parse_of_lexError {e : LexError} (h : Token.tokenize text.toList = .error e) :
    parse lenient text = reject text e.toSceneError e.position := by
  simp only [parse, start_of_tokenize_error h]

/-- A text that is no call is rejected with an error at an offset. -/
theorem exists_rejected (hv : (parse lenient text).isValid = false) :
    ∃ e position, parse lenient text = reject text e position := by
  rcases parse_cases lenient text with ⟨_, _, -, h⟩ | ⟨_, e, position, -, h, -⟩ | ⟨_, e, position, -, h, -⟩
  · rw [h] at hv
    cases hv
  · exact ⟨e, position, h⟩
  · exact ⟨e, position, h⟩

theorem message_lexError (e : LexError) :
    ∃ what, e.toSceneError.message = SceneError.atOffset what (.integer e.position) := by
  unfold LexError.toSceneError
  split <;> exact ⟨_, rfl⟩

/-- A text is rejected at the place where it stops having tokens, or where these stop being a call. -/
theorem rejected_cases {e : SceneError} {position : Nat} (h : parse lenient text = reject text e position) :
    (∃ l, Token.tokenize text.toList = .error l ∧ e.kind = l.toSceneError.kind ∧
      e.message = l.toSceneError.message ∧ position = l.position) ∨
    ∃ c g, Cursor.start text.toList = .ok c ∧ c.wholeCall lenient = .error g ∧
      e.kind = g.toSceneError.kind ∧ e.message = g.toSceneError.message ∧ position = g.position := by
  cases ht : Token.tokenize text.toList with
  | error l =>
    rw [parse_of_lexError ht] at h
    obtain ⟨hk, hm, hp⟩ := reject_inj h
    exact .inl ⟨l, rfl, hk.symm, hm.symm, hp.symm⟩
  | ok tokens =>
    obtain ⟨c, hc, -, -⟩ := start_of_tokenize ht
    cases hg : c.wholeCall lenient with
    | error g =>
      rw [parse_of_wholeCall hc hg] at h
      obtain ⟨hk, hm, hp⟩ := reject_inj h
      exact .inr ⟨c, g, hc, hg, hk.symm, hm.symm, hp.symm⟩
    | ok call =>
      have hv := isValid_reject text e position
      rw [← h, parse, hc] at hv
      simp only [hg] at hv
      cases hv

/-- The message of an error tells its offset. -/
theorem message_of_rejected {e : SceneError} {position : Nat} (h : parse lenient text = reject text e position) :
    ∃ what, e.message = SceneError.atOffset what (.integer position) := by
  rcases rejected_cases h with ⟨l, -, -, hm, rfl⟩ | ⟨c, g, -, -, -, hm, rfl⟩
  · obtain ⟨what, hwhat⟩ := message_lexError l
    exact ⟨what, by rw [hm, hwhat]⟩
  · exact ⟨_, hm⟩

end Invocation

end SceneLang
