/-
A text with one statement.

A text that is read as a call has one statement, and that is read as the same call. Whatever tokens
stand for null, none of an invocation is a semicolon but the one behind it (`IsInvocation.front`),
and a text that has tokens leaves no quote open (`after_of_scan`). So the semicolon that the grammar
takes is the one at which the statements are cut, and without it and the blanks around it there are
the same tokens, only at other positions.

* `Grammar.Front`: what is read off the front of some tokens, wherever these stand.
* `Statement.split_of_isInvocation`: the one statement of an invocation.
* `Executor.executeBatch_single`: a command is run in the same way alone and as a batch.
-/
import SceneLang.Proofs.Batches
import SceneLang.Proofs.Permissive
import SceneLang.Proofs.Statements

namespace SceneLang

open Text Token
open Lexeme (Written)

/-! ## Invocations apart from their place -/

namespace Token

/-- Takes tokens to others that are read in the same way. -/
structure Keeps (f : Token → Token) : Prop where
  kind (t : Token) : (f t).kind = t.kind
  text (t : Token) : (f t).text = t.text

theorem separates_of_kind {t : Token} {kind : Kind} (hk : t.kind = kind) (h : kind ≠ .semicolon := by decide) :
    t.separates = false :=
  decide_eq_false (hk ▸ h)

end Token

namespace Grammar

variable {lenient : Bool} {tokens rest : List Token}

/-- A reading takes tokens from the front that do not separate statements, and takes them in the
same way wherever they stand and whatever tokens begin behind them with one of the same kind. -/
def Front (reading : List Token → List Token → Prop) (tokens rest : List Token) : Prop :=
  ∃ front, tokens = front ++ rest ∧ (∀ t ∈ front, t.separates = false) ∧
    ∀ f, Keeps f → ∀ other : List Token, other.head?.map (·.kind) = rest.head?.map (·.kind) →
      reading (front.map f ++ other) other

theorem IsValue.front {v : Value} (h : IsValue lenient tokens v rest) :
    Front (IsValue lenient · v ·) tokens rest := by
  cases h with
  | @number t _ hk =>
    refine ⟨[t], rfl, List.forall_mem_singleton.2 (separates_of_kind hk), fun f hf other _ => ?_⟩
    rw [← hf.text t]
    exact .number ((hf.kind t).trans hk)
  | @string t _ hk =>
    refine ⟨[t], rfl, List.forall_mem_singleton.2 (separates_of_kind hk), fun f hf other _ => ?_⟩
    rw [← hf.text t]
    exact .string ((hf.kind t).trans hk)
  | @isTrue t _ hk ht =>
    refine ⟨[t], rfl, List.forall_mem_singleton.2 (separates_of_kind hk), fun f hf other _ => ?_⟩
    exact .isTrue ((hf.kind t).trans hk) ((hf.text t).trans ht)
  | @isFalse t _ hk ht =>
    refine ⟨[t], rfl, List.forall_mem_singleton.2 (separates_of_kind hk), fun f hf other _ => ?_⟩
    exact .isFalse ((hf.kind t).trans hk) ((hf.text t).trans ht)
  | @isNull t _ hk ht =>
    refine ⟨[t], rfl, List.forall_mem_singleton.2 (separates_of_kind hk), fun f hf other _ => ?_⟩
    exact .isNull ((hf.kind t).trans hk) ((hf.text t).trans ht)
  | @negated m t _ hm hk =>
    refine ⟨[m, t], rfl, by simp [separates_of_kind hm, separates_of_kind hk], fun f hf other _ => ?_⟩
    rw [← hf.text t]
    exact .negated ((hf.kind m).trans hm) ((hf.kind t).trans hk)
  | @stray t _ hl hs hn =>
    have hsep : t.separates = false := by
      refine separates_of_kind rfl ?_
      intro hk
      simp [IsStray, hk] at hs
    refine ⟨[t], rfl, List.forall_mem_singleton.2 hsep, fun f hf other ho => ?_⟩
    refine .stray hl ((hf.kind t).symm ▸ hs) fun hm n hmem hnumber => ?_
    -- a number behind a minus was one before
    have hother : other.head? = some n := hmem
    rw [hother, Option.map_some, hnumber, eq_comm, Option.map_eq_some_iff] at ho
    obtain ⟨n', hn', hnumber'⟩ := ho
    exact hn ((hf.kind t).symm.trans hm) n' hn' hnumber'

theorem IsArgument.front {entry : String × Value} (h : IsArgument lenient tokens entry rest) :
    Front (IsArgument lenient · entry ·) tokens rest := by
  cases h with
  | @intro name separator _ v _ hk hs hv =>
    obtain ⟨front, rfl, hfront, hread⟩ := hv.front
    have hsep : separator.separates = false := by rcases hs with hs | hs <;> exact separates_of_kind hs
    refine ⟨name :: separator :: front, rfl, ?_, fun f hf other ho => ?_⟩
    · exact List.forall_mem_cons.2 ⟨separates_of_kind hk, List.forall_mem_cons.2 ⟨hsep, hfront⟩⟩
    · rw [← hf.text name]
      refine .intro ((hf.kind name).trans hk) ?_ (hread f hf other ho)
      rwa [hf.kind]

theorem IsArguments.front {entries : List (String × Value)} (h : IsArguments lenient tokens entries rest) :
    Front (IsArguments lenient · entries ·) tokens rest := by
  induction h with
  | last harg =>
    obtain ⟨front, rfl, hfront, hread⟩ := harg.front
    exact ⟨front, rfl, hfront, fun f hf other ho => .last (hread f hf other ho)⟩
  | @more _ _ comma _ _ _ harg hk _ ih =>
    obtain ⟨front, rfl, hfront, hread⟩ := harg.front
    obtain ⟨behind, rfl, hbehind, hmore⟩ := ih
    refine ⟨front ++ comma :: behind, by simp, ?_, fun f hf other ho => ?_⟩
    · exact List.forall_mem_append.2 ⟨hfront, List.forall_mem_cons.2 ⟨separates_of_kind hk, hbehind⟩⟩
    · rw [List.map_append, List.append_assoc]
      exact .more (hread f hf _ (by simp [hf.kind])) ((hf.kind comma).trans hk) (hmore f hf other ho)

theorem IsList.front {entries : List (String × Value)} (h : IsList lenient tokens entries rest) :
    Front (IsList lenient · entries ·) tokens rest := by
  cases h with
  | none => exact ⟨[], rfl, by simp, fun _ _ _ _ => .none⟩
  | some hargs =>
    obtain ⟨front, rfl, hfront, hread⟩ := hargs.front
    exact ⟨front, rfl, hfront, fun f hf other ho => .some (hread f hf other ho)⟩

/-- An invocation is a body without semicolons and an end. The body is the same invocation wherever
it stands and however it ends. -/
theorem IsInvocation.front {name : String} {entries : List (String × Value)}
    (h : IsInvocation lenient tokens name entries) :
    ∃ body tail, tokens = body ++ tail ∧ IsEnd tail ∧ (∀ t ∈ body, t.separates = false) ∧
      ∀ f, Keeps f → ∀ other, IsEnd other → IsInvocation lenient (body.map f ++ other) name entries := by
  cases h with
  | @intro first opening _ _ closing rest hk ho hlist hclosing hend hn =>
    obtain ⟨front, rfl, hfront, hread⟩ := hlist.front
    refine ⟨first :: opening :: (front ++ [closing]), rest, by simp, hend, ?_, fun f hf other hother => ?_⟩
    · refine List.forall_mem_cons.2 ⟨separates_of_kind hk, List.forall_mem_cons.2 ⟨separates_of_kind ho, ?_⟩⟩
      exact List.forall_mem_append.2 ⟨hfront, List.forall_mem_singleton.2 (separates_of_kind hclosing)⟩
    · have hinner := hread f hf (f closing :: other) (by simp [hf.kind])
      rw [← hf.text first]
      have hwhole := IsInvocation.intro ((hf.kind first).trans hk) ((hf.kind opening).trans ho) hinner
        ((hf.kind closing).trans hclosing) hother hn
      simpa using hwhole

end Grammar

/-! ## No quote is open behind tokens -/

namespace Quoting

/-- A state that a text can leave behind: what it is inside of is a quote. -/
def Proper : Quoting → Prop
  | .outside => True
  | .inside quote | .escaped quote => isQuote quote = true

theorem Proper.next {state : Quoting} (h : state.Proper) (c : Char) : (state.next c).Proper := by
  cases state with
  | outside =>
    by_cases hq : isQuote c = true
    · rwa [Quoting.next, if_pos hq]
    · rw [Quoting.next, if_neg hq]
      trivial
  | inside quote =>
    rw [Quoting.next]
    split
    · exact h
    · split
      · trivial
      · exact h
  | escaped quote => exact h

theorem Proper.after {state : Quoting} (h : state.Proper) (text : List Char) : (state.after text).Proper := by
  induction text generalizing state with
  | nil => exact h
  | cons c rest ih => exact ih (h.next c)

/-- What is no quote closes none. -/
theorem Proper.outside_of_next {state : Quoting} (h : state.Proper) {c : Char} (hc : isQuote c = false)
    (hnext : state.next c = .outside) : state = .outside := by
  cases state with
  | outside => rfl
  | inside quote =>
    have hne : c ≠ quote := by
      rintro rfl
      have hquote : isQuote c = true := h
      rw [hquote] at hc
      cases hc
    rw [Quoting.next, if_neg hne] at hnext
    split at hnext <;> cases hnext
  | escaped quote => cases hnext

end Quoting

namespace Statement

theorem after_of_plain {text : List Char} (h : ∀ c ∈ text, Plain c) : Quoting.outside.after text = .outside := by
  induction text with
  | nil => rfl
  | cons c rest ih =>
    rw [List.forall_mem_cons] at h
    have hnext : Quoting.outside.next c = .outside := by simp [Quoting.next, h.1.1]
    rw [Quoting.after_cons, hnext, ih h.2]

/-- A text inside quotes leaves them behind the character that closes them. -/
theorem after_inside {quote : Char} (hb : quote ≠ '\\') {text content : List Char} {width : Nat}
    (h : Lexeme.quotedContent? quote text = some (content, width)) :
    (Quoting.inside quote).after (text.take width) = .outside := by
  fun_induction Lexeme.quotedContent? quote text generalizing content width with
  | case1 => cases h
  | case2 c rest ih =>
    obtain ⟨⟨content', width'⟩, h', heq⟩ := Option.map_eq_some_iff.1 h
    cases heq
    simpa [Quoting.next] using ih h'
  | case3 rest =>
    cases h
    simp [Quoting.next, hb]
  | case4 c rest hnot hne ih =>
    obtain ⟨⟨content', width'⟩, h', heq⟩ := Option.map_eq_some_iff.1 h
    cases heq
    by_cases hc : c = '\\'
    · subst hc
      cases rest with
      | nil => cases h'
      | cons d rest => exact absurd rfl (hnot d rest rfl)
    · simpa [Quoting.next, hc, hne] using ih h'

theorem after_of_written {x : Lexeme} {spelling rest : List Char} (h : Written x spelling rest) :
    Quoting.outside.after spelling = .outside := by
  by_cases hx : x.kind = .semicolon
  · rw [spelling_of_semicolon h hx]
    rfl
  · by_cases hstring : x.kind = .string
    · obtain ⟨quote, inner, content, hq, rfl, hinner⟩ := spelling_of_string h hstring
      have hclosed := after_inside (Lexeme.ne_backslash hq) hinner
      rw [List.take_length] at hclosed
      simpa [Quoting.next, hq] using hclosed
    · exact after_of_plain (plain_of_written h hstring hx)

/-- A text that has tokens leaves no quote open. -/
theorem after_of_scan {position : Nat} {text : List Char} {tokens : List Token}
    (h : scan position text = .ok tokens) : Quoting.outside.after text = .outside := by
  induction text using scan_induction generalizing position tokens with
  | nil => rfl
  | blank c rest hb ih =>
    rw [scan_blank hb] at h
    have hnext : Quoting.outside.next c = .outside := by simp [Quoting.next, (plain_of_isBlank hb).1]
    rw [Quoting.after_cons, hnext, ih h]
  | unreadable c rest cause hb hx =>
    rw [scan_of_error hb hx] at h
    cases h
  | lexeme c tail rest x hb hx ih =>
    rw [Lexeme.scan_spelled hx.spells] at h
    obtain ⟨more, hmore, -⟩ := map_eq_ok_iff.1 h
    rw [Quoting.after_append, after_of_written hx, ih hmore]

/-! ## The statement of an invocation -/

/-- A text without a separator at its end. -/
def dropSeparator (text : List Char) : List Char :=
  if text.getLast? = some separator then text.dropLast else text

/-- A text without the blanks around it and without a separator behind it. -/
def bare (text : List Char) : List Char := trim (dropSeparator (trim text))

theorem isBlank_separator : isBlank separator = false := by decide

/-- A piece that has tokens does not end with a separator: it would have been cut there. -/
theorem getLast?_of_cut {position : Nat} {text : List Char} {tokens : List Token}
    (hscan : scan position text = .ok tokens) (hcut : cut .outside text = [text]) :
    (trim text).getLast? ≠ some separator := by
  intro hlast
  obtain ⟨front, hfront⟩ := List.getLast?_eq_some_iff.1 hlast
  obtain ⟨before, behind, htext, hbefore, -, -⟩ := exists_trim text
  have hstart : Quoting.outside.Proper := trivial
  have houtside : Quoting.outside.after front = .outside := by
    obtain ⟨count, htrim⟩ := scan_trim position text
    have hafter := after_of_scan (htrim ▸ hscan)
    rw [hfront, Quoting.after_append] at hafter
    exact (hstart.after front).outside_of_next (by decide) hafter
  have hopen : Quoting.outside.after (before ++ front) = .outside := by
    rw [Quoting.after_append, after_of_plain fun c hc => plain_of_isBlank (hbefore c hc), houtside]
  have hpieces := cut_append hopen behind
  have hwhole : before ++ front ++ separator :: behind = text := by
    rw [htext, hfront]
    simp
  rw [hwhole, hcut] at hpieces
  have hlength := congrArg List.length hpieces
  have h1 := List.length_pos_iff.2 (cut_ne_nil .outside (before ++ front))
  have h2 := List.length_pos_iff.2 (cut_ne_nil .outside behind)
  rw [List.length_singleton, List.length_append] at hlength
  omega

/-- A text that is not cut is trimmed to its statement. -/
theorem bare_of_cut {position : Nat} {text : List Char} {tokens : List Token}
    (hscan : scan position text = .ok tokens) (hcut : cut .outside text = [text]) : bare text = trim text := by
  rw [bare, dropSeparator, if_neg (getLast?_of_cut hscan hcut), trim_trim]

/-- The statement in front of a separator with nothing but blanks behind it. -/
theorem bare_append {behind : List Char} (h : trim behind = []) (text : List Char) :
    bare (text ++ separator :: behind) = trim text := by
  obtain ⟨front, back, hbehind, hfront, hback, -⟩ := exists_trim behind
  have hblank : ∀ c ∈ behind, isBlank c = true := by
    rw [hbehind, h, List.append_nil]
    exact List.forall_mem_append.2 ⟨hfront, hback⟩
  have htrim : trim (text ++ separator :: behind) = trimLeft text ++ [separator] := by
    rw [trim, trimLeft_append isBlank_separator, trimRight_append isBlank_separator _ hblank]
  rw [bare, htrim, dropSeparator, if_pos (by simp), List.dropLast_concat, trim_trimLeft]

/-- The pieces of a text have the groups of tokens between its separators. -/
theorem forall₂_of_scan {text : List Char} {tokens : List Token} (h : scan 0 text = .ok tokens) :
    List.Forall₂ (fun s group => ∃ start, scan start s = .ok group) ((cut .outside text).map trim)
      (tokens.splitOnP Token.separates) := by
  have hscan : scanEach 0 (cut .outside text) = .ok (tokens.splitOnP Token.separates) := by
    rw [scanEach_cut, h]
    rfl
  exact forall₂_of_scanEach hscan

/-- A text with no separator among its tokens is not cut. -/
theorem bare_of_scan {text : List Char} {body : List Token} (hbody : ∀ t ∈ body, t.separates = false)
    (h : scan 0 text = .ok body) :
    (∃ start, scan start (bare text) = .ok body) ∧ (cut .outside text).map trim = [bare text] := by
  have hforall := forall₂_of_scan h
  rw [List.splitOnP_eq_singleton hbody] at hforall
  match hcut : cut .outside text, hforall with
  | [piece], .cons hpiece .nil =>
    have hjoin := join_cut .outside text
    rw [hcut, join] at hjoin
    subst hjoin
    rw [bare_of_cut h hcut]
    exact ⟨hpiece, rfl⟩

/-- A text with a separator only behind its other tokens is cut there. -/
theorem bare_of_scan_concat {text : List Char} {body : List Token} {t : Token}
    (hbody : ∀ t ∈ body, t.separates = false) (ht : t.separates = true) (h : scan 0 text = .ok (body ++ [t])) :
    (∃ start, scan start (bare text) = .ok body) ∧ (cut .outside text).map trim = [bare text, []] := by
  have hforall := forall₂_of_scan h
  rw [List.splitOnP_append_cons_of_forall_mem hbody t ht, List.splitOnP_nil] at hforall
  match hcut : cut .outside text, hforall with
  | [piece, behind], .cons hpiece (.cons hbehind .nil) =>
    have hblank : trim behind = [] := (readsAs_of_scan hbehind).1.2 rfl
    have hjoin := join_cut .outside text
    rw [hcut] at hjoin
    subst hjoin
    have hbare : bare (join separator [piece, behind]) = trim piece := bare_append hblank piece
    rw [hbare]
    exact ⟨hpiece, by simp [hblank]⟩

theorem scan_of_tokenize {text : List Char} {tokens : List Token} {e : Token}
    (h : tokenize text = .ok (tokens ++ [e])) : scan 0 text = .ok tokens := by
  obtain ⟨inner, hscan, htokens⟩ := exists_scan_of_tokenize h
  rw [hscan, (List.append_inj' htokens rfl).1]

/-- The one statement of an invocation, which is the same invocation. -/
theorem split_of_isInvocation {lenient : Bool} {text : List Char} {tokens : List Token} {name : String}
    {entries : List (String × Value)} (ht : tokenize text = .ok tokens)
    (h : Grammar.IsInvocation lenient tokens name entries) :
    split text = [bare text] ∧ ∃ tokens, tokenize (bare text) = .ok tokens ∧
      Grammar.IsInvocation lenient tokens name entries := by
  obtain ⟨body, tail, rfl, hend, hbody, hread⟩ := h.front
  obtain ⟨⟨start, hstart⟩, hpieces⟩ : (∃ start, scan start (bare text) = .ok body) ∧
      ((cut .outside text).map trim = [bare text] ∨ (cut .outside text).map trim = [bare text, []]) := by
    cases hend with
    | bare hk =>
      obtain ⟨hscan, hpieces⟩ := bare_of_scan hbody (scan_of_tokenize ht)
      exact ⟨hscan, .inl hpieces⟩
    | @semicolon s e hs hk =>
      have hbehind : tokenize text = .ok ((body ++ [s]) ++ [e]) := by
        rw [ht, List.append_assoc]
        rfl
      obtain ⟨hscan, hpieces⟩ := bare_of_scan_concat hbody (decide_eq_true hs) (scan_of_tokenize hbehind)
      exact ⟨hscan, .inr hpieces⟩
  obtain ⟨tokens, hscan, rfl⟩ := exists_scan_zero hstart
  have hsame : ∀ other, Grammar.IsEnd other → Grammar.IsInvocation lenient (tokens ++ other) name entries := by
    intro other hother
    -- the tokens of the text, moved back to where those of the statement are
    have hback := hread (fun t => { t with position := t.position - start })
      ⟨fun _ => rfl, fun _ => rfl⟩ other hother
    simpa [Function.comp_def, moved] using hback
  have hne : bare text ≠ [] := by
    intro hnil
    rw [hnil, scan_nil] at hscan
    cases hscan
    cases hsame [atEnd 0] (.bare rfl)
  refine ⟨?_, _, tokenize_of_scan hscan, hsame _ (.bare rfl)⟩
  rcases hpieces with hpieces | hpieces
  all_goals
    rw [split, hpieces]
    simp [hne]

end Statement

/-! ## Reading and running -/

namespace Invocation

/-- A text that is read as a call has one statement, and that is read as the same call. -/
theorem parseAll_of_isValid {lenient : Bool} {text : String} (h : (parse lenient text).isValid = true) :
    parseAll lenient text = [⟨String.ofList (Statement.bare text.toList), (parse lenient text).reading⟩] := by
  obtain ⟨call, hcall⟩ := exists_call_of_isValid h
  obtain ⟨tokens, ht, hinvocation⟩ := isInvocation_of_reading hcall
  obtain ⟨hsplit, others, hothers, hsame⟩ := Statement.split_of_isInvocation ht hinvocation
  have hlist : Token.tokenize (String.ofList (Statement.bare text.toList)).toList = .ok others := by
    rw [String.toList_ofList, hothers]
  obtain ⟨call', hparse, hname, he⟩ := parse_of_isInvocation hlist hsame
  rw [parseAll, hsplit, hcall, List.map_singleton, hparse, Call.ext_entries hname he]

end Invocation

namespace Executor

/-- **Alone or as a batch.** A text that is read as a call has exactly one statement: the text without
the blanks around it and a semicolon behind it. The statement is read as the same call, with the same
parameters in the same order; so running the text as a batch gives the outcome and the scene that
running it alone does, whatever the commands, the options and the scene are. -/
theorem executeBatch_single (lenient : Bool) (text : String)
    (h : (Invocation.parse lenient text).isValid = true) :
    Invocation.parseAll lenient text =
        [⟨String.ofList (Statement.bare text.toList), (Invocation.parse lenient text).reading⟩] ∧
      ∀ (x : Executor) (s : Scene), x.options.isLenient = lenient →
        x.executeBatch text s = ([(x.execute text s).1], (x.execute text s).2) := by
  have hparse := Invocation.parseAll_of_isValid h
  refine ⟨hparse, fun x s hl => ?_⟩
  rw [executeBatch, hl, hparse]
  simp only [runAll, execute, run, hl]

/-- A statement with a quoted semicolon, and with a semicolon and blanks behind it. -/
theorem executeBatch_single_quoted :
    let text := " create_element(type: 'a;', name: +) ; "
    (Invocation.parse true text).isValid = true ∧
      Statement.bare text.toList = "create_element(type: 'a;', name: +)".toList ∧
      (builtin {}).executeBatch text {} =
        ([((builtin {}).execute text {}).1], ((builtin {}).execute text {}).2) := by
  intro text
  have h : (Invocation.parse true text).isValid = true := by decide +kernel
  exact ⟨h, by decide +kernel, (executeBatch_single true text h).2 (builtin {}) {} rfl⟩

end Executor

end SceneLang
