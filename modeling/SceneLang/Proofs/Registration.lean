/-
Registries and their histories.

A host registers commands, unregisters names and clears a registry, in any order. What the registry
answers then follows from the steps alone: `Filed` is the command that was registered last under a name
and not removed since, and `Entered` is the place in the history where a name came in, which a later
command of the same name does not move.

* `filed_concat`, `entered_concat`: what one more step does to either.
* `Follows`: a registry that answers by its history. `Follows.perform` is the step, `Follows.after` the run.
* `Executor.run_congr`, `Executor.reportsUnknown_of_run`: a call goes by the command of its name.
* `answers_after`: what any registry answers, and what an executor that has it does with a call.
-/
import Mathlib.Data.List.Induction
import SceneLang.Proofs.Refusals

namespace SceneLang

namespace Registry

/-! ## Histories -/

/-- What a host does with a registry. -/
inductive Step where
  | register (c : Command)
  | unregister (name : String)
  | clear

namespace Step

/-- The registry after a step. -/
def perform : Step → Registry → Registry
  | .register c, r => r.register c
  | .unregister name, r => (r.withdraw name).2
  | .clear, r => r.clear

/-- Whether a step registers a command under a name. -/
def Files (name : String) : Step → Prop
  | .register c => c.listing = name
  | .unregister _ | .clear => False

/-- Whether a step leaves no command under a name. -/
def Removes (name : String) : Step → Prop
  | .register _ => False
  | .unregister other => other = name
  | .clear => True

end Step

/-- The registry after steps, one after the other. -/
def after (r : Registry) (steps : List Step) : Registry := steps.foldl (fun r step => step.perform r) r

/-- The command that was registered last under a name, if the name was not removed since. -/
def Filed (history : List Step) (name : String) (c : Command) : Prop :=
  ∃ before behind, history = before ++ .register c :: behind ∧ c.listing = name ∧
    ∀ step ∈ behind, ¬step.Files name ∧ ¬step.Removes name

/-- The place in a history of the first command that was registered under a name since there was none. -/
def Entered (history : List Step) (name : String) (place : Nat) : Prop :=
  ∃ before c behind, history = before ++ .register c :: behind ∧ c.listing = name ∧ before.length = place ∧
    (¬∃ d, Filed before name d) ∧ ∀ step ∈ behind, ¬step.Removes name

/-! ### One more step -/

variable {history : List Step} {step : Step} {name : String} {c : Command} {place : Nat}

/-- What stands in a list with one more element is that element or stands in the list. -/
theorem concat_eq_append_cons_iff {α : Type} {xs before behind : List α} {x y : α} :
    xs ++ [x] = before ++ y :: behind ↔
      (xs = before ∧ x = y ∧ behind = []) ∨ ∃ more, behind = more ++ [x] ∧ xs = before ++ y :: more := by
  constructor
  · intro h
    rcases List.eq_nil_or_concat' behind with rfl | ⟨more, z, rfl⟩
    · obtain ⟨rfl, hx⟩ := List.append_inj' h rfl
      cases hx
      exact .inl ⟨rfl, rfl, rfl⟩
    · rw [← List.cons_append, ← List.append_assoc] at h
      obtain ⟨rfl, hx⟩ := List.append_inj' h rfl
      cases hx
      exact .inr ⟨more, rfl, rfl⟩
  · rintro (⟨rfl, rfl, rfl⟩ | ⟨more, rfl, rfl⟩)
    · rfl
    · simp

theorem filed_concat : Filed (history ++ [step]) name c ↔
    (step = .register c ∧ c.listing = name) ∨ Filed history name c ∧ ¬step.Files name ∧ ¬step.Removes name := by
  simp only [Filed, concat_eq_append_cons_iff]
  constructor
  · rintro ⟨before, behind, ⟨rfl, rfl, rfl⟩ | ⟨more, rfl, rfl⟩, hname, hbehind⟩
    · exact .inl ⟨rfl, hname⟩
    · rw [List.forall_mem_append, List.forall_mem_singleton] at hbehind
      exact .inr ⟨⟨before, more, rfl, hname, hbehind.1⟩, hbehind.2⟩
  · rintro (⟨rfl, hname⟩ | ⟨⟨before, behind, rfl, hname, hbehind⟩, hstep⟩)
    · exact ⟨history, [], .inl ⟨rfl, rfl, rfl⟩, hname, by simp⟩
    · refine ⟨before, behind ++ [step], .inr ⟨behind, rfl, rfl⟩, hname, ?_⟩
      rw [List.forall_mem_append, List.forall_mem_singleton]
      exact ⟨hbehind, hstep⟩

theorem entered_concat : Entered (history ++ [step]) name place ↔
    (step.Files name ∧ place = history.length ∧ ¬∃ c, Filed history name c) ∨
      Entered history name place ∧ ¬step.Removes name := by
  simp only [Entered, concat_eq_append_cons_iff]
  constructor
  · rintro ⟨before, c, behind, ⟨rfl, rfl, rfl⟩ | ⟨more, rfl, rfl⟩, hname, rfl, hnone, hbehind⟩
    · exact .inl ⟨hname, rfl, hnone⟩
    · rw [List.forall_mem_append, List.forall_mem_singleton] at hbehind
      exact .inr ⟨⟨before, c, more, rfl, hname, rfl, hnone, hbehind.1⟩, hbehind.2⟩
  · rintro (⟨hfiles, rfl, hnone⟩ | ⟨⟨before, c, behind, rfl, hname, rfl, hnone, hbehind⟩, hstep⟩)
    · cases step with
      | register c => exact ⟨history, c, [], .inl ⟨rfl, rfl, rfl⟩, hfiles, rfl, hnone, by simp⟩
      | unregister _ | clear => exact hfiles.elim
    · refine ⟨before, c, behind ++ [step], .inr ⟨behind, rfl, rfl⟩, hname, rfl, hnone, ?_⟩
      rw [List.forall_mem_append, List.forall_mem_singleton]
      exact ⟨hbehind, hstep⟩

theorem Step.files_iff : step.Files name ↔ ∃ c, step = .register c ∧ c.listing = name := by
  cases step <;> simp [Files]

theorem Step.Files.not_removes (h : step.Files name) : ¬step.Removes name := by
  cases step <;> simp_all [Files, Removes]

/-- A command is filed under a name exactly if the name has a place. -/
theorem exists_entered_iff : (∃ place, Entered history name place) ↔ ∃ c, Filed history name c := by
  induction history using List.reverseRecOn with
  | nil => simp [Entered, Filed]
  | append_singleton history step ih =>
    have hentered : (∃ place, Entered (history ++ [step]) name place) ↔
        (step.Files name ∧ ¬∃ c, Filed history name c) ∨ (∃ c, Filed history name c) ∧ ¬step.Removes name := by
      simp only [entered_concat, exists_or, exists_and_left, exists_and_right, exists_eq, true_and, ih]
    have hfiled : (∃ c, Filed (history ++ [step]) name c) ↔
        step.Files name ∨ (∃ c, Filed history name c) ∧ ¬step.Files name ∧ ¬step.Removes name := by
      simp only [filed_concat, exists_or, exists_and_right, ← Step.files_iff]
    rw [hentered, hfiled]
    by_cases hfiles : step.Files name
    · simp only [hfiles, hfiles.not_removes, not_false_eq_true, true_and, and_true, true_or, iff_true]
      exact (Classical.em _).symm
    · simp only [hfiles, false_and, false_or, not_false_eq_true, true_and]

theorem Entered.lt_length (h : Entered history name place) : place < history.length := by
  obtain ⟨before, c, behind, rfl, -, rfl, -⟩ := h
  simp

/-! ## What a registry answers -/

variable {r : Registry}

theorem get?_register (r : Registry) (c : Command) (name : String) :
    (r.register c).get? name = if name = c.listing then some c else r.get? name :=
  OrderedMap.get?_insert ..

theorem names_register (r : Registry) (c : Command) :
    (r.register c).names = if c.listing ∈ r.names then r.names else r.names ++ [c.listing] :=
  OrderedMap.keys_insert ..

theorem get?_ofList_singleton (c : Command) : (ofList [c]).get? c.listing = some c := by
  rw [ofList, List.foldl_cons, List.foldl_nil, get?_register, if_pos rfl]

theorem get?_withdraw (r : Registry) (name other : String) :
    (r.withdraw name).2.get? other = if other = name then none else r.get? other := by
  rw [get?, withdraw, unregister, OrderedMap.erase, OrderedMap.get?_filterKeys]
  by_cases hn : other = name <;> simp [hn, get?]

theorem names_withdraw (r : Registry) (name : String) :
    (r.withdraw name).2.names = r.names.filter (· ≠ name) :=
  OrderedMap.keys_filterKeys ..

theorem mem_names_iff : name ∈ r.names ↔ (r.get? name).isSome = true := by
  rw [get?, ← OrderedMap.contains_eq_isSome, OrderedMap.contains_iff, names]

/-- The names resolve to the commands, one by one. -/
theorem names_getElem?_bind (r : Registry) (i : Nat) : (r.names[i]?).bind r.get? = r.toList[i]? := by
  simp only [names, OrderedMap.keys, toList, List.getElem?_map]
  cases he : r.commands.entries[i]? with
  | none => rfl
  | some e => exact OrderedMap.get?_of_mem_entries (List.mem_of_getElem? he)

/-! ## Registries that follow a history -/

/-- Whether a registry has the commands that a history has filed, under names in the order in which
they came in. -/
structure Follows (r : Registry) (history : List Step) : Prop where
  get?_iff : ∀ name c, r.get? name = some c ↔ Filed history name c
  ordered : r.names.Pairwise fun m n => ∀ i j, Entered history m i → Entered history n j → i < j

theorem Follows.mem_names_iff (h : r.Follows history) : name ∈ r.names ↔ ∃ c, Filed history name c := by
  rw [Registry.mem_names_iff, Option.isSome_iff_exists]
  exact exists_congr fun c => h.get?_iff name c

theorem follows_nil : ({} : Registry).Follows [] where
  get?_iff name c := ⟨nofun, fun ⟨_, _, h, _⟩ => by simp at h⟩
  ordered := .nil

theorem Follows.get?_perform (h : r.Follows history) (step : Step) (name : String) (c : Command) :
    (step.perform r).get? name = some c ↔ Filed (history ++ [step]) name c := by
  rw [filed_concat, ← h.get?_iff]
  cases step with
  | register d =>
    rw [Step.perform, get?_register]
    by_cases hn : name = d.listing
    · rw [if_pos hn]
      constructor
      · rintro ⟨⟩
        exact .inl ⟨rfl, hn.symm⟩
      · rintro (⟨⟨⟩, -⟩ | ⟨-, hfiles, -⟩)
        · rfl
        · exact absurd hn.symm hfiles
    · rw [if_neg hn]
      constructor
      · intro hc
        exact .inr ⟨hc, Ne.symm hn, id⟩
      · rintro (⟨⟨⟩, hname⟩ | ⟨hc, -⟩)
        · exact absurd hname.symm hn
        · exact hc
  | unregister other =>
    rw [Step.perform, get?_withdraw]
    by_cases hn : name = other
    · simp [Step.Removes, hn]
    · simp [Step.Files, Step.Removes, hn, Ne.symm hn]
  | clear => simp [Step.perform, clear, Step.Removes, get?]

/-- A name that is there stays in its place. -/
theorem Follows.entered_of_concat (h : r.Follows history) (hn : name ∈ r.names)
    (hplace : Entered (history ++ [step]) name place) : Entered history name place := by
  rcases entered_concat.1 hplace with ⟨-, -, hnone⟩ | ⟨hplace, -⟩
  · exact absurd (h.mem_names_iff.1 hn) hnone
  · exact hplace

/-- A name that comes in goes to the end. -/
theorem Follows.entered_of_not_mem (h : r.Follows history) (hn : name ∉ r.names)
    (hplace : Entered (history ++ [step]) name place) : place = history.length := by
  rcases entered_concat.1 hplace with ⟨-, hplace, -⟩ | ⟨hplace, -⟩
  · exact hplace
  · exact absurd (h.mem_names_iff.2 (exists_entered_iff.1 ⟨place, hplace⟩)) hn

/-- A registry that follows a history still does after one more step. -/
theorem Follows.perform (h : r.Follows history) (step : Step) : (step.perform r).Follows (history ++ [step]) where
  get?_iff := h.get?_perform step
  ordered := by
    have hold : r.names.Pairwise fun m n =>
        ∀ i j, Entered (history ++ [step]) m i → Entered (history ++ [step]) n j → i < j :=
      h.ordered.imp_of_mem fun hm hn hlt i j hi hj =>
        hlt i j (h.entered_of_concat hm hi) (h.entered_of_concat hn hj)
    cases step with
    | register c =>
      rw [Step.perform, names_register]
      split
      · exact hold
      · next hc =>
        refine List.pairwise_append.2 ⟨hold, List.pairwise_singleton .., fun m hm n hn i j hi hj => ?_⟩
        rw [List.mem_singleton.1 hn] at hj
        rw [h.entered_of_not_mem hc hj]
        exact (h.entered_of_concat hm hi).lt_length
    | unregister name =>
      rw [Step.perform, names_withdraw]
      exact hold.sublist List.filter_sublist
    | clear => exact .nil

/-- A registry that follows a history follows it through any steps. -/
theorem Follows.after (h : r.Follows history) (steps : List Step) : (r.after steps).Follows (history ++ steps) := by
  induction steps generalizing r history with
  | nil => rwa [List.append_nil]
  | cons step rest ih =>
    have hrest := ih (h.perform step)
    rwa [List.append_assoc, List.singleton_append] at hrest

theorem after_append (r : Registry) (steps more : List Step) :
    r.after (steps ++ more) = (r.after steps).after more :=
  List.foldl_append

/-- The registry of some commands is what registering them makes of the empty one. -/
theorem ofList_eq (commands : List Command) : ofList commands = after {} (commands.map .register) := by
  rw [ofList, Registry.after, List.foldl_map]
  rfl

end Registry

/-! ## Calls -/

/-- The errors of the language that a hook of a command raises. -/
inductive Command.Throws (c : Command) (e : SceneError) : Prop
  | validating {supplied} : c.validate supplied = .error (.scene e) → Throws c e
  | declaring : c.schema = .error (.scene e) → Throws c e
  | filling {supplied} : c.applyDefaults supplied = .error (.scene e) → Throws c e
  | running {parameters s} : (c.run parameters s).1 = .error (.scene e) → Throws c e

/-- Whether a command itself says, in an answer or in an error, that a command is unknown. -/
inductive Command.ReportsUnknown (c : Command) : Prop
  | refuses {supplied validation} : c.validate supplied = .ok validation → validation.isOk = false →
      validation.kind? = some .unknownCommand → ReportsUnknown c
  | answers {parameters s outcome} : (c.run parameters s).1 = .ok outcome →
      outcome.kind? = some .unknownCommand → ReportsUnknown c
  | throws {e} : c.Throws e → e.kind = .unknownCommand → ReportsUnknown c

namespace Executor

variable {x : Executor} {invocation : Invocation} {call : Call} {c : Command} {s : Scene}

/-- A call goes by the options and by the command of its name, whatever other commands there are. -/
theorem run_congr {r r' : Registry} (hcall : invocation.reading = .ok call)
    (h : r.get? call.name = r'.get? call.name) (options : Options) (s : Scene) :
    (Executor.mk r options).run invocation s = (Executor.mk r' options).run invocation s := by
  have hprepare : (Executor.mk r options).prepare call = (Executor.mk r' options).prepare call := by
    simp only [prepare, ready, strictCheck, h]
  rw [run_of_reading hcall, run_of_reading hcall, runCall, runCall, hprepare]

/-- An error of the language that is raised in a call is thrown by its command or is one of validation. -/
theorem throws_of_raises {e : SceneError} (hcall : invocation.reading = .ok call)
    (hc : x.registry.get? call.name = some c) (h : x.Raises invocation s (.scene e)) :
    c.Throws e ∨ e.kind = .validation := by
  have hsame {call' : Call} {c' : Command} (hcall' : invocation.reading = .ok call')
      (hc' : x.registry.get? call'.name = some c') : c' = c := by
    cases hcall.symm.trans hcall'
    exact Option.some.inj (hc'.symm.trans hc)
  cases h with
  | validating hcall' hc' hv => exact .inl (hsame hcall' hc' ▸ .validating hv)
  | checking hcall' hc' _ hcheck =>
    obtain ⟨-, hschema | ⟨schema, -, hviolation⟩⟩ := strictCheck_eq_error_iff.1 hcheck
    · exact .inl (hsame hcall' hc' ▸ .declaring hschema)
    · exact .inr (Schema.kind_of_check hviolation)
  | filling hcall' hc' _ _ hd => exact .inl (hsame hcall' hc' ▸ .filling hd)
  | running hcall' hp hrun => exact .inl (hsame hcall' hp.registered ▸ .running hrun)

/-- If there is a command of its name, a call is reported as unknown only by that command itself. -/
theorem reportsUnknown_of_run (hcall : invocation.reading = .ok call) (hc : x.registry.get? call.name = some c)
    (h : (x.run invocation s).1.kind? = some .unknownCommand) : c.ReportsUnknown := by
  rcases exists_raises_or_answers hcall hc s with ⟨f, hf⟩ | ⟨hv, hrefused⟩ | ⟨parameters, -, hrun⟩
  · have hreported := reported_of_raises hf
    generalize (x.run invocation s).1 = outcome at h hreported
    cases hreported with
    | declared =>
      rcases throws_of_raises hcall hc hf with hthrows | hkind
      · exact .throws hthrows (Option.some.inj h)
      · rw [hkind] at h
        cases h
    | internal => cases h
  · exact .refuses hv hrefused h
  · exact .answers hrun h

end Executor

namespace Registry

/-- **What a registry answers.** Whatever commands a registry is made of and whatever is registered,
unregistered and cleared afterwards, the command of a name is the one that was registered last under
it and not removed since, and all that a registry says of a name agrees with that. Its names are
distinct and stand in the order in which they came in, each with its command in the same place. An
executor that has the registry runs a call of a name as if that command were the only one, and
reports the call as unknown if there is none. -/
theorem answers_after (commands : List Command) (steps : List Step) :
    let r := (ofList commands).after steps
    let history := commands.map .register ++ steps
    (∀ name, (∀ c, r.get? name = some c ↔ Filed history name c) ∧
      (r.get? name = none ↔ ¬∃ c, Filed history name c) ∧ (r.has name = true ↔ name ∈ r.names) ∧
      (name ∈ r.names ↔ (r.get? name).isSome = true) ∧
      ((r.withdraw name).1 = true ↔ ∃ c, Filed history name c)) ∧
    r.names.Nodup ∧ (∀ name ∈ r.names, ∃ place, Entered history name place) ∧
    (r.names.Pairwise fun m n => ∀ i j, Entered history m i → Entered history n j → i < j) ∧
    (∀ i : Nat, (r.names[i]?).bind r.get? = r.toList[i]?) ∧ r.size = r.names.length ∧
    ∀ (x : Executor) (invocation : Invocation) (call : Call) (s : Scene), x.registry = r →
      invocation.reading = .ok call →
        (∀ c, Filed history call.name c →
          x.run invocation s = (Executor.mk (ofList [c]) x.options).run invocation s ∧
          ((x.run invocation s).1.kind? = some .unknownCommand → c.ReportsUnknown)) ∧
        ((¬∃ c, Filed history call.name c) →
          x.run invocation s = (.failure s!"Unknown command '{call.name}'" .unknownCommand, s)) := by
  intro r history
  have h : r.Follows history := by
    have hsteps := follows_nil.after (commands.map .register ++ steps)
    rwa [after_append, ← ofList_eq] at hsteps
  have hnone : ∀ name, r.get? name = none ↔ ¬∃ c, Filed history name c := by
    intro name
    rw [← h.mem_names_iff, mem_names_iff, Bool.not_eq_true, Option.isSome_eq_false_iff, Option.isNone_iff_eq_none]
  refine ⟨fun name => ⟨h.get?_iff name, hnone name, OrderedMap.contains_iff, mem_names_iff, ?_⟩,
    r.commands.nodup, fun name hn => ?_, h.ordered, r.names_getElem?_bind, ?_, ?_⟩
  · rw [withdraw, ← mem_names_iff, h.mem_names_iff]
  · exact exists_entered_iff.2 (h.mem_names_iff.1 hn)
  · rw [size, OrderedMap.size, names, OrderedMap.keys, List.length_map]
  · rintro ⟨_, options⟩ invocation call s rfl hcall
    refine ⟨fun c hc => ?_, fun hno => ?_⟩
    · have hget : r.get? call.name = some c := (h.get?_iff call.name c).2 hc
      obtain ⟨-, -, -, hlisting, -⟩ := hc
      have halone : r.get? call.name = (ofList [c]).get? call.name := by
        rw [hget, ← hlisting, get?_ofList_singleton]
      exact ⟨Executor.run_congr hcall halone options s, Executor.reportsUnknown_of_run hcall hget⟩
    · exact Executor.run_of_stops (.unregistered hcall ((hnone call.name).2 hno)) s

/-- A name that is registered again keeps its place, and goes to the end if it was removed before. -/
example :
    let r := ofList [Command.createElement, Command.deleteElement]
    (r.after [.register Command.createElement]).names = ["create_element", "delete_element"] ∧
      (r.after [.unregister "create_element", .register Command.createElement]).names =
        ["delete_element", "create_element"] := by
  decide +kernel

end Registry

end SceneLang
