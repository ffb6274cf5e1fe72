/-
Batches.

A batch is its statements, one after the other. Two texts with a semicolon between them have the
statements of both, as long as the first leaves no quote open; so the one is run after the other,
whatever the commands are. What fails leaves the scene of the built-in commands as it was, so their
batches come to the same without the statements that fail.

* `cut_append`, `runAll_append`: cutting and running go piece by piece.
* `executeBatch_append`: a batch of two texts is one batch after the other.
* `scene_of_native`: values of the language leave nothing behind where they fail.
* `executeBatch_succeeded`: a batch is what succeeds of it.
-/
import SceneLang.Proofs.Failures
import SceneLang.Proofs.Refinement

namespace SceneLang

/-! ## Two texts as one -/

namespace Statement

/-- A separator behind a text that leaves no quote open ends a piece. -/
theorem cut_append {state : Quoting} {text : List Char} (h : state.after text = .outside) (more : List Char) :
    cut state (text ++ separator :: more) = cut state text ++ cut .outside more := by
  induction text generalizing state with
  | nil =>
    have hstate : state = .outside := h
    simp [hstate, cut]
  | cons c rest ih =>
    rw [List.cons_append, cut, cut]
    by_cases hc : state = .outside ∧ c = separator
    · have hrest : Quoting.outside.after rest = .outside := by
        rw [Quoting.after_cons, hc.1, hc.2] at h
        exact h
      rw [if_pos hc, if_pos hc, ih hrest, List.cons_append]
    · have hrest : (state.next c).after rest = .outside := h
      rw [if_neg hc, if_neg hc, ih hrest, Text.consFirst_append _ (cut_ne_nil _ _)]

/-- The statements of two texts with a separator between them. -/
theorem split_append {text : List Char} (h : Quoting.outside.after text = .outside) (more : List Char) :
    split (text ++ separator :: more) = split text ++ split more := by
  simp only [split, cut_append h, List.map_append, List.filter_append]

end Statement

namespace Invocation

theorem parseAll_append (lenient : Bool) {text : String} (h : Quoting.outside.after text.toList = .outside)
    (more : String) :
    parseAll lenient (text ++ ";" ++ more) = parseAll lenient text ++ parseAll lenient more := by
  have hlist : (text ++ ";" ++ more).toList = text.toList ++ Statement.separator :: more.toList := by
    simp [Statement.separator]
  rw [parseAll, hlist, Statement.split_append h, List.map_append]
  rfl

end Invocation

namespace Executor

theorem runAll_append (x : Executor) (invocations more : List Invocation) (s : Scene) :
    let first := x.runAll invocations s
    let second := x.runAll more first.2
    x.runAll (invocations ++ more) s = (first.1 ++ second.1, second.2) := by
  induction invocations generalizing s with
  | nil => rfl
  | cons invocation rest ih =>
    have hrest := ih (x.run invocation s).2
    simp only [List.cons_append, runAll, hrest]

/-- **Batches compose.** Whatever the commands, the options and the scene are, two texts with a
semicolon between them have the invocations of both and are run one after the other, as long as the
first leaves no quote open. -/
theorem executeBatch_append (x : Executor) (text more : String)
    (h : Quoting.outside.after text.toList = .outside) (s : Scene) :
    let first := x.executeBatch text s
    let second := x.executeBatch more first.2
    x.executeBatch (text ++ ";" ++ more) s = (first.1 ++ second.1, second.2) ∧
      ∀ lenient, Invocation.parseAll lenient (text ++ ";" ++ more) =
        Invocation.parseAll lenient text ++ Invocation.parseAll lenient more := by
  have hparse := fun lenient => Invocation.parseAll_append lenient h more
  refine ⟨?_, hparse⟩
  rw [executeBatch, hparse]
  exact runAll_append x _ _ s

/-- A semicolon behind an escaped quote is still quoted, and the second text may leave one open. -/
theorem executeBatch_append_quoted :
    let text := "create_element(type: 'c\\';', name: 'a')"
    let more := "delete_element(id: 'a'); f(\""
    let first := (builtin {}).executeBatch text {}
    let second := (builtin {}).executeBatch more first.2
    Quoting.outside.after text.toList = .outside ∧
      (builtin {}).executeBatch (text ++ ";" ++ more) {} = (first.1 ++ second.1, second.2) := by
  intro text more
  have h : Quoting.outside.after text.toList = .outside := by decide +kernel
  exact ⟨h, (executeBatch_append (builtin {}) text more h {}).1⟩

/-! ## What succeeds -/

/-- Runs texts one after the other, each as a command of its own. -/
def executeEach (x : Executor) : List String → Scene → List Outcome × Scene
  | [], s => ([], s)
  | text :: rest, s =>
    let (outcome, s) := x.execute text s
    let (outcomes, s) := x.executeEach rest s
    (outcome :: outcomes, s)

theorem executeEach_eq_runAll (x : Executor) (texts : List String) (s : Scene) :
    x.executeEach texts s = x.runAll (texts.map (Invocation.parse x.options.isLenient)) s := by
  induction texts generalizing s with
  | nil => rfl
  | cons text rest ih => simp only [executeEach, List.map_cons, runAll, execute, ih]

theorem length_runAll (x : Executor) (invocations : List Invocation) (s : Scene) :
    (x.runAll invocations s).1.length = invocations.length := by
  induction invocations generalizing s with
  | nil => rfl
  | cons invocation rest ih => simp only [runAll, List.length_cons, ih]

/-- A call that supplies values of the language is one to a command that spares the scene. -/
theorem spares_of_prepare {options : Options} {call : Call} {c : Command} {parameters : Parameters}
    (hn : call.parameters.Native) (hp : (builtin options).prepare call = .ok (c, parameters)) (s : Scene) :
    c.Spares parameters s := by
  cases Command.admitted_of_prepare hp with
  | createElement _ ht hname hd => exact Command.spares_createElement ht hname.hasText hd s
  | deleteElement _ hi hd => exact Command.spares_deleteElement hi hd s
  | getProperty _ hi hproperty hd => exact Command.spares_getProperty hi hproperty.hasText hd s
  | transform _ hi ho hd => exact Command.spares_transform hi ho hd s
  | setProperty hname hi hproperty hv hd =>
    rcases Command.spares_setProperty hname hi hproperty.hasText hv hd s with h | ⟨id, property, n, hsets, -⟩
    · exact h
    · have hnative := hn _ _ hsets.writes
      simp [Value.isNative] at hnative

/-- A failure leaves the scene as it was if nothing but values of the language was supplied. -/
theorem scene_of_native (options : Options) {invocation : Invocation} (hn : invocation.parameters.Native)
    {s : Scene} (hfail : ((builtin options).run invocation s).1.isOk = false) :
    ((builtin options).run invocation s).2 = s := by
  obtain ⟨source, reading⟩ := invocation
  cases reading with
  | error r => rfl
  | ok call =>
    have hrun : (builtin options).run ⟨source, .ok call⟩ s = (builtin options).runCall call s := rfl
    rw [hrun] at hfail ⊢
    cases hp : (builtin options).prepare call with
    | error outcome => rw [runCall_of_stopped hp]
    | ok prepared => exact scene_of_spares hp (spares_of_prepare hn hp s) hfail

end Executor

/-- The items of a list whose outcomes are successes. -/
def succeeded {α : Type} (items : List α) (outcomes : List Outcome) : List α :=
  ((items.zip outcomes).filter (·.2.isOk)).map (·.1)

section

variable {α β : Type} (item : α) (items : List α) {outcome : Outcome} (outcomes : List Outcome)

theorem succeeded_cons_of_ok (h : outcome.isOk = true) :
    succeeded (item :: items) (outcome :: outcomes) = item :: succeeded items outcomes := by
  simp [succeeded, h]

theorem succeeded_cons_of_failure (h : outcome.isOk = false) :
    succeeded (item :: items) (outcome :: outcomes) = succeeded items outcomes := by
  simp [succeeded, h]

theorem map_succeeded (f : α → β) : (succeeded items outcomes).map f = succeeded (items.map f) outcomes := by
  simp [succeeded, List.zip_map_left, List.filter_map, Function.comp_def]

end

namespace Executor

/-- Invocations that fail can be left out of those that run one after the other. -/
theorem runAll_succeeded (options : Options) {invocations : List Invocation}
    (hn : ∀ invocation ∈ invocations, invocation.parameters.Native) (s : Scene) :
    let (outcomes, after) := (builtin options).runAll invocations s
    (builtin options).runAll (succeeded invocations outcomes) s = (outcomes.filter Outcome.isOk, after) := by
  induction invocations generalizing s with
  | nil => rfl
  | cons invocation rest ih =>
    rw [List.forall_mem_cons] at hn
    have hrest := ih hn.2 ((builtin options).run invocation s).2
    simp only [runAll]
    cases hok : ((builtin options).run invocation s).1.isOk with
    | true =>
      rw [succeeded_cons_of_ok _ _ _ hok, List.filter_cons_of_pos hok, runAll]
      simp only [hrest]
    | false =>
      rw [succeeded_cons_of_failure _ _ _ hok, List.filter_cons_of_neg (by simp [hok])]
      rw [scene_of_native options hn.1 hok] at hrest ⊢
      exact hrest

/-- **What fails of a batch cannot be told from what is not there.** Every statement of a batch of
built-in commands has its outcome. The statements that succeed, run alone and one after the other
from the same scene, have the same outcomes as in the batch and leave the same scene. -/
theorem executeBatch_succeeded (options : Options) (text : String) (s : Scene) :
    let statements := (Statement.split text.toList).map String.ofList
    let (outcomes, after) := (builtin options).executeBatch text s
    statements.length = outcomes.length ∧
      (builtin options).executeEach (succeeded statements outcomes) s =
        (outcomes.filter Outcome.isOk, after) := by
  intro statements
  have hbatch : (builtin options).executeBatch text s =
      (builtin options).runAll (statements.map (Invocation.parse options.isLenient)) s := by
    simp only [executeBatch, Invocation.parseAll, statements, List.map_map]
    rfl
  have hn : ∀ invocation ∈ statements.map (Invocation.parse options.isLenient), invocation.parameters.Native := by
    intro invocation hm
    obtain ⟨statement, -, rfl⟩ := List.mem_map.1 hm
    exact Invocation.native_parse _ _
  rw [hbatch]
  constructor
  · simp only [length_runAll, List.length_map, statements]
  · rw [executeEach_eq_runAll, map_succeeded]
    exact runAll_succeeded options hn s

end Executor

end SceneLang
