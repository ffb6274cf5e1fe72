/-
What more permissive options change.

Reading in lenient mode adds invocations to the grammar and takes none away, and no token of an
invocation that strict mode reads comes to mean something else (`IsInvocation.mono`). Checking
that declared names are all there is adds one stage that can stop a call and changes no other
(`prepare_of_within`). So what succeeds under some options succeeds in the same way under all that
are more permissive (`execute_of_within`).
-/
import SceneLang.Proofs.Checking
import SceneLang.Proofs.Grammar

namespace SceneLang

/-! ## Reading -/

namespace Grammar

variable {narrow wide : Bool} {tokens rest : List Token}

theorem IsValue.mono (hmode : narrow = true → wide = true) {v : Value} (h : IsValue narrow tokens v rest) :
    IsValue wide tokens v rest := by
  cases h with
  | number hk => exact .number hk
  | string hk => exact .string hk
  | isTrue hk ht => exact .isTrue hk ht
  | isFalse hk hf => exact .isFalse hk hf
  | isNull hk hn => exact .isNull hk hn
  | negated hm hk => exact .negated hm hk
  | stray hl hs hn => exact .stray (hmode hl) hs hn

theorem IsArgument.mono (hmode : narrow = true → wide = true) {entry : String × Value}
    (h : IsArgument narrow tokens entry rest) : IsArgument wide tokens entry rest := by
  cases h with
  | intro hk hs hv => exact .intro hk hs (hv.mono hmode)

theorem IsArguments.mono (hmode : narrow = true → wide = true) {entries : List (String × Value)}
    (h : IsArguments narrow tokens entries rest) : IsArguments wide tokens entries rest := by
  induction h with
  | last harg => exact .last (harg.mono hmode)
  | more harg hk _ ih => exact .more (harg.mono hmode) hk ih

theorem IsList.mono (hmode : narrow = true → wide = true) {entries : List (String × Value)}
    (h : IsList narrow tokens entries rest) : IsList wide tokens entries rest := by
  cases h with
  | none => exact .none
  | some hargs => exact .some (hargs.mono hmode)

/-- An invocation stays the same invocation in a more permissive mode. -/
theorem IsInvocation.mono (hmode : narrow = true → wide = true) {name : String}
    {entries : List (String × Value)} (h : IsInvocation narrow tokens name entries) :
    IsInvocation wide tokens name entries := by
  cases h with
  | intro hk ho hlist hclosing hend hn => exact .intro hk ho (hlist.mono hmode) hclosing hend hn

end Grammar

namespace Invocation

variable {narrow wide : Bool} {text : String}

theorem exists_call_of_isValid {x : Invocation} (h : x.isValid = true) : ∃ call, x.reading = .ok call := by
  cases hr : x.reading with
  | error r => simp [isValid, hr, Except.isOk, Except.toBool] at h
  | ok call => exact ⟨call, rfl⟩

/-- A text that is read as a call is read as the same call in a more permissive mode. -/
theorem parse_of_isValid (hmode : narrow = true → wide = true) (h : (parse narrow text).isValid = true) :
    parse wide text = parse narrow text := by
  obtain ⟨call, hcall⟩ := exists_call_of_isValid h
  obtain ⟨tokens, ht, hinvocation⟩ := isInvocation_of_reading hcall
  obtain ⟨narrowCall, hnarrow, hname, hentries⟩ := parse_of_isInvocation ht hinvocation
  obtain ⟨wideCall, hwide, hname', hentries'⟩ := parse_of_isInvocation ht (hinvocation.mono hmode)
  have hcalls : wideCall = narrowCall := by
    refine Call.ext_entries ?_ ?_
    · rw [hname, hname']
    · rw [hentries, hentries']
  rw [hwide, hnarrow, hcalls]

end Invocation

/-! ## Running -/

/-- Options that permit all that others permit: they ask for declared names only if those do, and
let tokens stand for null if those do. -/
structure Options.Within (narrow wide : Options) : Prop where
  strict : wide.isStrict = true → narrow.isStrict = true
  lenient : narrow.isLenient = true → wide.isLenient = true

namespace Executor

variable {registry : Registry} {narrow wide : Options} {call : Call} {c : Command}

/-- The check that strict options add passes if it passed or is left out. -/
theorem strictCheck_of_within (h : narrow.Within wide)
    (hcheck : (⟨registry, narrow⟩ : Executor).strictCheck call c = .ok ()) :
    (⟨registry, wide⟩ : Executor).strictCheck call c = .ok () := by
  unfold strictCheck at hcheck ⊢
  by_cases hwide : wide.isStrict = true
  · rw [if_pos (h.strict hwide)] at hcheck
    rw [if_pos hwide, hcheck]
  · rw [if_neg hwide]

/-- A call that no stage stops is prepared in the same way. -/
theorem prepare_of_within (h : narrow.Within wide) {parameters : Parameters}
    (hp : (⟨registry, narrow⟩ : Executor).prepare call = .ok (c, parameters)) :
    (⟨registry, wide⟩ : Executor).prepare call = .ok (c, parameters) := by
  obtain ⟨hc, ha, hcheck, hd⟩ := prepare_eq_ok_iff.1 hp
  exact prepare_eq_ok_iff.2 ⟨hc, ha, strictCheck_of_within h hcheck, hd⟩

theorem runCall_of_within (h : narrow.Within wide) {s : Scene}
    (hok : ((⟨registry, narrow⟩ : Executor).runCall call s).1.isOk = true) :
    (⟨registry, wide⟩ : Executor).runCall call s = (⟨registry, narrow⟩ : Executor).runCall call s := by
  cases hp : (⟨registry, narrow⟩ : Executor).prepare call with
  | error outcome =>
    rw [runCall_of_stopped hp, isOk_of_prepare_error hp] at hok
    cases hok
  | ok prepared =>
    rw [runCall_of_prepare hp, runCall_of_prepare (prepare_of_within h hp)]

/-- An invocation that succeeds was read as a call. -/
theorem exists_call_of_isOk {x : Executor} {invocation : Invocation} {s : Scene}
    (hok : (x.run invocation s).1.isOk = true) : ∃ call, invocation.reading = .ok call := by
  cases hr : invocation.reading with
  | error r =>
    rw [run, hr] at hok
    cases hok
  | ok call => exact ⟨call, rfl⟩

/-- **More permissive options take no success away.** A text that succeeds has the same outcome and
leaves the same scene under all options that are more permissive, whatever the commands are. A text
that strict mode reads as a call is read in lenient mode as the same one, so what lenient mode
rejects strict mode rejects too. -/
theorem execute_of_within :
    (∀ (registry : Registry) (narrow wide : Options), narrow.Within wide → ∀ (text : String) (s : Scene),
      ((⟨registry, narrow⟩ : Executor).execute text s).1.isOk = true →
      (⟨registry, wide⟩ : Executor).execute text s = (⟨registry, narrow⟩ : Executor).execute text s) ∧
    ∀ text : String,
      ((Invocation.parse false text).isValid = true → Invocation.parse true text = Invocation.parse false text) ∧
      ((Invocation.parse true text).isValid = false → (Invocation.parse false text).isValid = false) := by
  refine ⟨fun registry narrow wide h text s hok => ?_, fun text => ⟨fun hv => ?_, fun hv => ?_⟩⟩
  · obtain ⟨call, hcall⟩ := exists_call_of_isOk hok
    have hvalid : (Invocation.parse narrow.isLenient text).isValid = true := by
      rw [Invocation.isValid, hcall]
      rfl
    have hparse := Invocation.parse_of_isValid h.lenient hvalid
    simp only [execute, run, hparse, hcall] at hok ⊢
    exact runCall_of_within h hok
  · exact Invocation.parse_of_isValid (by simp) hv
  · cases hstrict : (Invocation.parse false text).isValid with
    | false => rfl
    | true =>
      rw [Invocation.parse_of_isValid (by simp) hstrict, hstrict] at hv
      cases hv

/-- The options as they are by default take nothing from the tightest ones. -/
theorem execute_of_within_default :
    let text := "create_element(type: 'cube', name: 'c1')"
    let tight : Executor := ⟨.default, ⟨.bool true, .bool false⟩⟩
    let wide : Executor := ⟨.default, {}⟩
    (tight.execute text {}).1.isOk = true ∧ wide.execute text {} = tight.execute text {} ∧
      Invocation.parse true text = Invocation.parse false text ∧
      (Invocation.parse false "create_element(type: )").isValid = false := by
  intro text tight wide
  have hwithin : Options.Within ⟨.bool true, .bool false⟩ {} := ⟨by decide, by decide⟩
  have hok : (tight.execute text {}).1.isOk = true := by decide +kernel
  have hvalid : (Invocation.parse false text).isValid = true := by decide +kernel
  have hinvalid : (Invocation.parse true "create_element(type: )").isValid = false := by decide +kernel
  exact ⟨hok, execute_of_within.1 .default _ _ hwithin text {} hok, (execute_of_within.2 text).1 hvalid,
    (execute_of_within.2 _).2 hinvalid⟩

end Executor

end SceneLang
