/-
Parentheses.

An invocation has one closing parenthesis, and its first opening one stands before it, so that no
part of the tokens from their start closes more than it opens. Any further opening parenthesis is
the value of an argument: lenient mode takes it for null like every other token that is no literal,
and nothing closes it. So the parentheses are balanced exactly if there is no such argument, and in
strict mode always.

* `Grammar.Opens`: what arguments have in parentheses, an opening one only as a value and none that
  closes.
* `Invocation.parentheses_of_isValid`: the parentheses of a text that is read as a call.
* `Invocation.not_balanced_of_isValid`: in lenient mode they need not be balanced.
-/
import SceneLang.Proofs.Permissive

namespace SceneLang

namespace Token

/-- How many tokens are opening parentheses. -/
def openings (tokens : List Token) : Nat := tokens.countP (·.kind = .openParen)

/-- How many tokens are closing parentheses. -/
def closings (tokens : List Token) : Nat := tokens.countP (·.kind = .closeParen)

/-- As many closing parentheses as opening ones, and never more of them up to any token. -/
def Balanced (tokens : List Token) : Prop :=
  openings tokens = closings tokens ∧ ∀ front, front <+: tokens → closings front ≤ openings front

/-- Whether a token stands between the name and the value of an argument. -/
def introducesValue (t : Token) : Bool := t.kind = .colon || t.kind = .equals

/-- How many opening parentheses stand where the value of an argument does. -/
def held : List Token → Nat
  | s :: t :: rest => (if s.introducesValue && t.kind = .openParen then 1 else 0) + held (t :: rest)
  | _ => 0

end Token

open Token

namespace Grammar

variable {lenient : Bool} {tokens rest : List Token}

/-! ## Counting token by token -/

theorem openings_cons (t : Token) (rest : List Token) :
    openings (t :: rest) = openings rest + if t.kind = .openParen then 1 else 0 := by
  simp [openings, List.countP_cons]

theorem closings_cons (t : Token) (rest : List Token) :
    closings (t :: rest) = closings rest + if t.kind = .closeParen then 1 else 0 := by
  simp [closings, List.countP_cons]

/-- No parenthesis is held behind a token that introduces no value. -/
theorem held_cons {t : Token} (h : t.introducesValue = false) (rest : List Token) :
    held (t :: rest) = held rest := by
  cases rest with
  | nil => rfl
  | cons s rest => simp [held, h]

/-- Nor is one in front of tokens that begin with something else. -/
theorem held_cons_of_head {rest : List Token} (h : ∀ s ∈ rest.head?, s.kind ≠ .openParen) (t : Token) :
    held (t :: rest) = held rest := by
  cases rest with
  | nil => rfl
  | cons s rest => simp [held, h s rfl]

theorem held_separator {s : Token} (h : s.kind = .colon ∨ s.kind = .equals) (t : Token) (rest : List Token) :
    held (s :: t :: rest) = held (t :: rest) + if t.kind = .openParen then 1 else 0 := by
  have hs : s.introducesValue = true := by simpa [introducesValue] using h
  simp [held, hs, Nat.add_comm]

/-! ## From values to arguments -/

/-- What some tokens have in parentheses over those that are left of them: no closing one, and an
opening one for each that is held, of which strict mode has none. -/
structure Opens (lenient : Bool) (tokens rest : List Token) : Prop where
  closings_eq : closings tokens = closings rest
  openings_eq : openings tokens + held rest = openings rest + held tokens
  openings_strict : lenient = false → openings tokens = openings rest

theorem Opens.refl (tokens : List Token) : Opens lenient tokens tokens := ⟨rfl, rfl, fun _ => rfl⟩

theorem Opens.trans {others : List Token} (h : Opens lenient tokens others) (h' : Opens lenient others rest) :
    Opens lenient tokens rest where
  closings_eq := h.closings_eq.trans h'.closings_eq
  openings_eq := by
    have h1 := h.openings_eq
    have h2 := h'.openings_eq
    omega
  openings_strict hl := (h.openings_strict hl).trans (h'.openings_strict hl)

/-- A token that is no parenthesis and introduces no value. -/
theorem Opens.skip {t : Token} {kind : Token.Kind} (hk : t.kind = kind) (rest : List Token)
    (h : kind ∉ [.openParen, .closeParen, .colon, .equals] := by decide) : Opens lenient (t :: rest) rest := by
  simp only [List.mem_cons, List.not_mem_nil, or_false, not_or, ← hk] at h
  obtain ⟨ho, hc, hcolon, hequals⟩ := h
  have hi : t.introducesValue = false := by simp [introducesValue, hcolon, hequals]
  refine ⟨?_, ?_, fun _ => ?_⟩
  · rw [closings_cons, if_neg hc, Nat.add_zero]
  · rw [openings_cons, if_neg ho, held_cons hi, Nat.add_zero]
  · rw [openings_cons, if_neg ho, Nat.add_zero]

/-- What introduces a value, and one token in the place of the value. -/
theorem Opens.value {s t : Token} (hs : s.kind = .colon ∨ s.kind = .equals) (hc : t.kind ≠ .closeParen)
    (hl : t.kind = .openParen → lenient = true) (hr : ∀ r ∈ rest.head?, r.kind ≠ .openParen) :
    Opens lenient (s :: t :: rest) rest := by
  have hkind : s.kind ≠ .openParen ∧ s.kind ≠ .closeParen := by
    rcases hs with hs | hs <;> simp [hs]
  refine ⟨?_, ?_, fun hstrict => ?_⟩
  · rw [closings_cons, if_neg hkind.2, closings_cons, if_neg hc, Nat.add_zero]
  · rw [openings_cons, if_neg hkind.1, openings_cons, held_separator hs, held_cons_of_head hr]
    omega
  · have ho : t.kind ≠ .openParen := fun ho => by simp [hl ho] at hstrict
    rw [openings_cons, if_neg hkind.1, openings_cons, if_neg ho, Nat.add_zero]

theorem opens_of_isValue {s : Token} {v : Value} (hs : s.kind = .colon ∨ s.kind = .equals)
    (hr : ∀ r ∈ rest.head?, r.kind ≠ .openParen) (h : IsValue lenient tokens v rest) :
    Opens lenient (s :: tokens) rest := by
  cases h with
  | number hk | string hk | isTrue hk | isFalse hk | isNull hk => exact .value hs (by simp [hk]) (by simp [hk]) hr
  | negated hm hk => exact (Opens.value hs (by simp [hm]) (by simp [hm]) (by simp [hk])).trans (.skip hk _)
  | stray hl hstray _ =>
    refine .value hs ?_ (fun _ => hl) hr
    intro hc
    simp [IsStray, hc] at hstray

theorem opens_of_isArgument {entry : String × Value} (hr : ∀ r ∈ rest.head?, r.kind ≠ .openParen)
    (h : IsArgument lenient tokens entry rest) : Opens lenient tokens rest := by
  cases h with
  | intro hk hs hv => exact (Opens.skip hk _).trans (opens_of_isValue hs hr hv)

/-- Arguments open a parenthesis only in the place of a value, and close none. -/
theorem opens_of_isArguments {entries : List (String × Value)} (hr : ∀ r ∈ rest.head?, r.kind ≠ .openParen)
    (h : IsArguments lenient tokens entries rest) : Opens lenient tokens rest := by
  induction h with
  | last harg => exact opens_of_isArgument hr harg
  | more harg hk _ ih =>
    have hbefore := opens_of_isArgument (by simp [hk]) harg
    exact (hbefore.trans (.skip hk _)).trans (ih hr)

/-! ## Whole invocations -/

theorem opens_of_isList {entries : List (String × Value)} (hr : ∀ r ∈ rest.head?, r.kind ≠ .openParen)
    (h : IsList lenient tokens entries rest) : Opens lenient tokens rest := by
  cases h with
  | none => exact .refl _
  | some hargs => exact opens_of_isArguments hr hargs

theorem opens_of_isEnd (h : IsEnd rest) : Opens lenient rest [] := by
  cases h with
  | bare hk => exact .skip hk []
  | semicolon hs hk => exact (Opens.skip hs _).trans (.skip hk [])

/-- The parentheses of an invocation: behind its name one that opens, and behind that one for each
that is held; one that closes. -/
theorem parentheses_of_isInvocation {name : String} {entries : List (String × Value)}
    (h : IsInvocation lenient tokens name entries) :
    ∃ first opening inner, tokens = first :: opening :: inner ∧ closings [first] = 0 ∧
      opening.kind = .openParen ∧ closings tokens = 1 ∧ openings tokens = 1 + held tokens ∧
      (lenient = false → held tokens = 0) := by
  cases h with
  | @intro first opening inner _ closing rest hk ho hlist hclosing hend _ =>
    have hfirst : Opens lenient (first :: opening :: inner) (opening :: inner) := .skip hk _
    have hopening : openings (opening :: inner) = openings inner + 1 ∧
        closings (opening :: inner) = closings inner ∧ held (opening :: inner) = held inner := by
      refine ⟨?_, ?_, held_cons (by simp [introducesValue, ho]) inner⟩
      · rw [openings_cons, if_pos ho]
      · rw [closings_cons, if_neg (by simp [ho]), Nat.add_zero]
    have hinner : Opens lenient inner (closing :: rest) := opens_of_isList (by simp [hclosing]) hlist
    have hclose : openings (closing :: rest) = openings rest ∧ closings (closing :: rest) = closings rest + 1 ∧
        held (closing :: rest) = held rest := by
      refine ⟨?_, ?_, held_cons (by simp [introducesValue, hclosing]) rest⟩
      · rw [openings_cons, if_neg (by simp [hclosing]), Nat.add_zero]
      · rw [closings_cons, if_pos hclosing]
    have hrest : Opens lenient rest [] := opens_of_isEnd hend
    have hname : held (first :: opening :: inner) = held (opening :: inner) :=
      held_cons (by simp [introducesValue, hk]) _
    have hnil : openings [] = 0 ∧ closings [] = 0 ∧ held [] = 0 := ⟨rfl, rfl, rfl⟩
    have hc1 := hfirst.closings_eq
    have hc2 := hinner.closings_eq
    have hc3 := hrest.closings_eq
    have ho1 := hfirst.openings_eq
    have ho2 := hinner.openings_eq
    have ho3 := hrest.openings_eq
    refine ⟨first, opening, inner, rfl, by simp [closings, hk], ho, by omega, by omega, fun hl => ?_⟩
    have hs1 := hinner.openings_strict hl
    have hs2 := hrest.openings_strict hl
    omega

/-- Up to any of its tokens an invocation has closed no more parentheses than it has opened. -/
theorem closings_le_openings {name : String} {entries : List (String × Value)}
    (h : IsInvocation lenient tokens name entries) {front : List Token} (hf : front <+: tokens) :
    closings front ≤ openings front := by
  obtain ⟨first, opening, inner, rfl, hfirst, ho, hc, -, -⟩ := parentheses_of_isInvocation h
  have hle : closings front ≤ 1 := hc ▸ hf.sublist.countP_le
  match front, hf with
  | [], _ => exact Nat.zero_le _
  | [t], hf =>
    have ht : t = first := (List.cons_prefix_cons.1 hf).1
    rw [ht, hfirst]
    exact Nat.zero_le _
  | t :: s :: more, hf =>
    have hs : s = opening := (List.cons_prefix_cons.1 (List.cons_prefix_cons.1 hf).2).1
    have hopen : 1 ≤ openings (t :: s :: more) := by
      rw [openings_cons, openings_cons, hs, if_pos ho]
      omega
    omega

end Grammar

namespace Invocation

open Grammar

/-- **The parentheses of a call.** In the tokens of a text that is read as a call there are never more
closing than opening parentheses up to any token, and over all as many, but for the opening ones that
are held as the value of an argument. So they are balanced exactly if none is, as always in strict
mode. -/
theorem parentheses_of_isValid (lenient : Bool) (text : String) (h : (parse lenient text).isValid = true) :
    ∃ tokens, Token.tokenize text.toList = .ok tokens ∧
      (∀ front, front <+: tokens → closings front ≤ openings front) ∧
      openings tokens = closings tokens + held tokens ∧
      (Token.Balanced tokens ↔ held tokens = 0) ∧ (lenient = false → Token.Balanced tokens) := by
  obtain ⟨call, hcall⟩ := exists_call_of_isValid h
  obtain ⟨tokens, ht, hinvocation⟩ := isInvocation_of_reading hcall
  obtain ⟨-, -, -, -, -, -, hclosings, hopenings, hstrict⟩ := parentheses_of_isInvocation hinvocation
  have hfront : ∀ front, front <+: tokens → closings front ≤ openings front :=
    fun _ hf => closings_le_openings hinvocation hf
  have hall : openings tokens = closings tokens + held tokens := by rw [hclosings, hopenings]
  have hbalanced : Token.Balanced tokens ↔ held tokens = 0 := by
    constructor
    · intro hb
      have hequal := hb.1
      omega
    · intro hheld
      exact ⟨by omega, hfront⟩
  exact ⟨tokens, ht, hfront, hall, hbalanced, fun hl => hbalanced.2 (hstrict hl)⟩

/-- A held parenthesis among the arguments, and the same arguments in strict mode without it. -/
theorem parentheses_of_isValid_held :
    (parse true "f(a: (, b: 1);").isValid = true ∧ (parse false "f(b: 1);").isValid = true ∧
      (∃ tokens, Token.tokenize "f(a: (, b: 1);".toList = .ok tokens ∧
        openings tokens = closings tokens + held tokens) ∧
      ∃ tokens, Token.tokenize "f(b: 1);".toList = .ok tokens ∧ Token.Balanced tokens := by
  have hlenient : (parse true "f(a: (, b: 1);").isValid = true := by decide +kernel
  have hstrict : (parse false "f(b: 1);").isValid = true := by decide +kernel
  obtain ⟨tokens, ht, -, hall, -, -⟩ := parentheses_of_isValid true "f(a: (, b: 1);" hlenient
  obtain ⟨others, hothers, -, -, -, hbalanced⟩ := parentheses_of_isValid false "f(b: 1);" hstrict
  exact ⟨hlenient, hstrict, ⟨tokens, ht, hall⟩, others, hothers, hbalanced rfl⟩

/-- A parenthesis that is held is not closed: a text that lenient mode reads as a call need not have
balanced parentheses. -/
theorem not_balanced_of_isValid :
    ¬ ∀ (lenient : Bool) (text : String), (parse lenient text).isValid = true →
      ∀ tokens, Token.tokenize text.toList = .ok tokens → Token.Balanced tokens := by
  intro h
  have hvalid : (parse true "f(a: ()").isValid = true := by decide +kernel
  have hcount : (Token.tokenize "f(a: ()".toList).toOption.map (fun tokens => (openings tokens, closings tokens)) =
      some (2, 1) := by decide +kernel
  cases ht : Token.tokenize "f(a: ()".toList with
  | error e =>
    rw [ht] at hcount
    cases hcount
  | ok tokens =>
    have hbalanced := h true "f(a: ()" hvalid tokens ht
    rw [ht] at hcount
    obtain ⟨ho, hc⟩ := Prod.mk.inj (Option.some.inj hcount)
    rw [Token.Balanced, ho, hc] at hbalanced
    exact absurd hbalanced.1 (by decide)

end Invocation

end SceneLang
