/-
Scenes do what stores do.

Run against a scene and against the store that it represents, the same invocation is answered in
the same way, and the scene that is left represents the store that is left (`answers_run`). The
invocations that are read off texts supply values of the language only (`native_parse`), which is
all that this needs; so every session of texts is answered as it would be by a store (`answers_play`).
-/
import SceneLang.Proofs.Grammar
import SceneLang.Proofs.Requests

namespace SceneLang

/-! ## One invocation -/

namespace Executor

/-- Run against a scene and the store that it represents, an invocation is answered in the same way
and leaves a scene that represents the store that is left. -/
theorem answers_run (options : Options) {invocation : Invocation} (hn : invocation.parameters.Native)
    {s : Scene} {a : Store} (h : s.Represents a) :
    ((builtin options).run invocation s).1.answer = (Store.run options invocation a).1 ∧
      ((builtin options).run invocation s).2.Represents (Store.run options invocation a).2 := by
  obtain ⟨source, reading⟩ := invocation
  cases reading with
  | error r => exact ⟨rfl, h⟩
  | ok call =>
    have hrun : (builtin options).run ⟨source, .ok call⟩ s = (builtin options).runCall call s := rfl
    have hprepare := prepare_eq_ofCall options call hn
    rw [hrun]
    simp only [Store.run]
    cases hr : Request.ofCall options.isStrict call with
    | error kind =>
      rw [hr] at hprepare
      obtain ⟨outcome, hp, hk⟩ := hprepare
      rw [runCall_of_stopped hp]
      exact ⟨hk, h⟩
    | ok request =>
      rw [hr] at hprepare
      obtain ⟨c, parameters, hp, hperforms⟩ := hprepare
      have hdone := hperforms s a h
      rw [runCall_of_prepare hp]
      dsimp only
      cases hq : request.perform a with
      | none =>
        rw [hq] at hdone
        obtain ⟨f, hf, hx⟩ := hdone
        rw [hf]
        exact ⟨hx call.name, h⟩
      | some answer =>
        rw [hq] at hdone
        obtain ⟨m, s', hs, hrep⟩ := hdone
        rw [hs]
        exact ⟨rfl, hrep⟩

/-- The same of invocations one after the other. -/
theorem answers_runAll (options : Options) {invocations : List Invocation}
    (hn : ∀ invocation ∈ invocations, invocation.parameters.Native) {s : Scene} {a : Store}
    (h : s.Represents a) :
    ((builtin options).runAll invocations s).1.map Outcome.answer = (Store.runAll options invocations a).1 ∧
      ((builtin options).runAll invocations s).2.Represents (Store.runAll options invocations a).2 := by
  induction invocations generalizing s a with
  | nil => exact ⟨rfl, h⟩
  | cons invocation rest ih =>
    rw [List.forall_mem_cons] at hn
    obtain ⟨hanswer, hafter⟩ := answers_run options hn.1 h
    obtain ⟨hanswers, hrep⟩ := ih hn.2 hafter
    exact ⟨by rw [runAll, Store.runAll, List.map_cons, hanswer, hanswers], hrep⟩

end Executor

/-! ## Invocations that are read off texts -/

namespace Grammar

variable {lenient : Bool} {tokens rest : List Token}

theorem IsValue.isNative {v : Value} (h : IsValue lenient tokens v rest) : v.isNative = true := by
  cases h with
  | number | string | isTrue | isFalse | isNull | negated | stray => rfl

theorem IsArguments.isNative {entries : List (String × Value)} (h : IsArguments lenient tokens entries rest) :
    ∀ entry ∈ entries, entry.2.isNative = true := by
  induction h with
  | last h =>
    cases h with
    | intro _ _ hv => simpa using hv.isNative
  | more h _ _ ih =>
    cases h with
    | intro _ _ hv => exact List.forall_mem_cons.2 ⟨hv.isNative, ih⟩

theorem IsInvocation.isNative {name : String} {entries : List (String × Value)}
    (h : IsInvocation lenient tokens name entries) : ∀ entry ∈ entries, entry.2.isNative = true := by
  cases h with
  | intro _ _ hlist _ _ _ =>
    cases hlist with
    | none => simp
    | some hargs => exact hargs.isNative

end Grammar

/-- A text supplies values of the language only. -/
theorem Invocation.native_parse (lenient : Bool) (text : String) : (parse lenient text).parameters.Native := by
  intro name v hv
  cases hr : (parse lenient text).reading with
  | error r => simp [parameters, hr] at hv
  | ok call =>
    obtain ⟨tokens, -, h⟩ := isInvocation_of_reading hr
    rw [parameters, hr] at hv
    exact h.isNative _ (OrderedMap.mem_entries_of_get? hv)

/-! ## Sessions -/

variable {s : Scene} {a : Store}

theorem Scene.Represents.clear (h : s.Represents a) : s.clearVariables.Represents { a with elements := ∅ } :=
  ⟨h.active, fun key v => by simp [clearVariables], fun id e he => by cases he⟩

/-- A step is answered as it would be by the store. -/
theorem TextStep.answers_perform (step : TextStep) (h : s.Represents a) :
    (step.perform s).1.map Outcome.answer = (Store.perform step a).1 ∧
      (step.perform s).2.Represents (Store.perform step a).2 := by
  cases step with
  | execute options text =>
    have hn := Invocation.native_parse options.isLenient text
    obtain ⟨hanswer, hafter⟩ := Executor.answers_run options hn h
    exact ⟨congrArg (fun answer => [answer]) hanswer, hafter⟩
  | executeBatch options text =>
    refine Executor.answers_runAll options (fun invocation hm => ?_) h
    obtain ⟨statement, -, rfl⟩ := List.mem_map.1 hm
    exact Invocation.native_parse _ _
  | activate id => exact ⟨rfl, rfl, h.vars, h.sound⟩
  | deactivate => exact ⟨rfl, rfl, h.vars, h.sound⟩
  | clearVariables => exact ⟨rfl, h.clear⟩

theorem Session.answers_play_of_represents (steps : List TextStep) (h : s.Represents a) :
    (play steps s).1.map (·.map Outcome.answer) = (Store.play steps a).1 ∧
      (play steps s).2.Represents (Store.play steps a).2 := by
  induction steps generalizing s a with
  | nil => exact ⟨rfl, h⟩
  | cons step rest ih =>
    obtain ⟨hanswers, hafter⟩ := step.answers_perform h
    obtain ⟨hmore, hrep⟩ := ih hafter
    exact ⟨by rw [play, Store.play, List.map_cons, hanswers, hmore], hrep⟩

/-- **A scene is a store of elements.** Whatever texts a session runs, in batches or one by one,
under whatever options, and whatever the host does in between, every command is answered as the
store of elements answers it, with the same value or the same kind of error, and the variables are
exactly the properties of the elements of the store, each under its key. -/
theorem Session.answers_play (active : Option String) (steps : List TextStep) :
    (play steps (start active)).1.map (·.map Outcome.answer) = (Store.play steps { active := active }).1 ∧
      (play steps (start active)).2.Represents (Store.play steps { active := active }).2 := by
  refine answers_play_of_represents steps ⟨rfl, fun key v => ?_, fun id e he => ?_⟩
  · simp [start]
  · cases he

end SceneLang
