/-
The life of an element.

An element is created, commands write and read its properties, and it is deleted. In between the
scene is what it was before with the element added: without the variables under the element's stem
it is that scene again (`Grown`). Creating brings this about in a tidy scene, and no command about the
element that does not delete it can end it, whether it succeeds or fails. So deleting the element
gives back the scene that there was before, with the variables in the order in which they were.

* `Scene.Grown.writes`: what is written to an element is taken away with it.
* `Executor.grown_of_creates`: creating adds an element and changes nothing else.
* `Session.grown_after`: handling an element changes nothing else.
* `Session.life_leaves_no_trace`: from the creation to the deletion.
-/
import SceneLang.Proofs.Invariant

namespace SceneLang

open Command

/-! ## A scene with an element more -/

namespace Scene

variable {s t u : Scene} {id property : String}

/-- Removing an element takes back what is written to it. -/
theorem removeStarting_set (v : Value) :
    (s.set (elementKey id property) v).removeStarting (elementStem id) = s.removeStarting (elementStem id) := by
  have hremoved : (!startsWith (elementStem id) (elementKey id property)) = false := by
    rw [startsWith_elementStem_iff.2 ⟨property, rfl⟩, Bool.not_true]
  rw [Scene.removeStarting, Scene.removeStarting, set, OrderedMap.filterKeys_insert hremoved]

theorem removeStarting_setProperties (properties : List (String × Value)) :
    (s.setProperties id properties).removeStarting (elementStem id) = s.removeStarting (elementStem id) := by
  induction properties generalizing s with
  | nil => rfl
  | cons e others ih => rw [setProperties_cons, ih, removeStarting_set]

theorem hasElement_set_of_hasElement (h : s.hasElement id = true) (name : String) (v : Value) :
    (s.set name v).hasElement id = true :=
  hasElement_iff.2 (mem_keys_set.2 (.inl (hasElement_iff.1 h)))

theorem hasElement_setProperties_of_hasElement (h : s.hasElement id = true) (properties : List (String × Value)) :
    (s.setProperties id properties).hasElement id = true := by
  induction properties generalizing s with
  | nil => exact h
  | cons e others ih => exact ih (hasElement_set_of_hasElement h _ e.2)

/-- In a tidy scene no variable is under the stem of an element that is not there. -/
theorem Tidy.startsWith_eq_false (ht : s.Tidy) (h : s.hasElement id = false) :
    ∀ name ∈ s.vars.keys, startsWith (elementStem id) name = false := by
  intro name hname
  obtain ⟨id', property, hi, hp, rfl⟩ := ht.keyed name hname
  rw [Bool.eq_false_iff]
  intro hstem
  rw [startsWith_elementKey_iff (dotless hi) (dotless hp)] at hstem
  subst hstem
  rw [ht.typed id' property hname] at h
  cases h

theorem Tidy.removeStarting_eq_self (ht : s.Tidy) (h : s.hasElement id = false) :
    s.removeStarting (elementStem id) = s := by
  have hkept : s.vars.filterKeys (!startsWith (elementStem id) ·) = s.vars :=
    OrderedMap.filterKeys_eq_self fun name hname => by rw [ht.startsWith_eq_false h name hname, Bool.not_false]
  rw [Scene.removeStarting, hkept]

/-- Whether a scene is another one with an element added: the element is there, and without it the
scene is the other one. -/
structure Grown (s : Scene) (id : String) (t : Scene) : Prop where
  hasElement : t.hasElement id = true
  without : t.removeStarting (elementStem id) = s

/-- What is written to an element is taken away with it. -/
theorem Grown.writes (h : s.Grown id t) (hw : t.Writes id u) : s.Grown id u := by
  cases hw with
  | keep => exact h
  | write _ _ =>
    refine ⟨hasElement_setProperties_of_hasElement h.hasElement _, ?_⟩
    rw [removeStarting_setProperties, h.without]

/-- Creating adds an element to a tidy scene. -/
theorem Change.grown (ht : s.Tidy) (h : s.Change t (some id)) : s.hasElement id = false ∧ s.Grown id t := by
  cases h with
  | @create _ v others hi hn hp =>
    refine ⟨hn, ?_, ?_⟩
    · rw [setProperties_cons]
      refine hasElement_setProperties_of_hasElement ?_ others
      exact hasElement_iff.2 (mem_keys_set.2 (.inr rfl))
    · rw [removeStarting_setProperties, ht.removeStarting_eq_self hn]

end Scene

/-! ## Creating, handling and deleting -/

namespace Invocation

/-- Whether an invocation is about creating an element. -/
structure Creates (x : Invocation) (id : String) : Prop where
  command : x.commandName = "create_element"
  names : x.parameters.get? "name" = some (.text id)

/-- Whether an invocation is about what an element is like: if it is a call at all, it is one that
writes or reads properties, and gives the id of no other element. -/
def Handles (x : Invocation) (id : String) : Prop :=
  ∀ call, x.reading = .ok call → call.name ∈ ["set_property", "get_property", "transform"] ∧
    ∀ other, call.parameters.get? "id" = some (.text other) → other = id

/-- Whether an invocation is about deleting an element, and supplies nothing that is not declared if
that matters. -/
structure Deletes (x : Invocation) (options : Options) (id : String) : Prop where
  command : x.commandName = "delete_element"
  names : x.parameters.get? "id" = some (.text id)
  declared : options.isStrict = true → ∀ name ∈ x.parameters.keys, name = "id"

/-- A call that writes or reads properties is about the element of the id that it gives. -/
theorem handles_of_commandName {x : Invocation} {id : String}
    (hname : x.commandName ∈ ["set_property", "get_property", "transform"])
    (hi : x.parameters.get? "id" = some (.text id)) : x.Handles id := by
  obtain ⟨source, reading⟩ := x
  rintro call rfl
  have hid : call.parameters.get? "id" = some (.text id) := hi
  refine ⟨hname, fun other hother => ?_⟩
  rw [hid] at hother
  cases hother
  rfl

theorem Deletes.exists_call {x : Invocation} {options : Options} {id : String} (h : x.Deletes options id) :
    ∃ call, x.reading = .ok call ∧ call.name = DeleteElement.name ∧
      call.parameters.get? "id" = some (.text id) ∧
      (options.isStrict = true → ∀ name ∈ call.parameters.keys, name = "id") := by
  obtain ⟨source, reading⟩ := x
  cases reading with
  | error r => exact absurd h.command (by simp [commandName])
  | ok call => exact ⟨call, rfl, h.command, h.names, h.declared⟩

end Invocation

/-- Whether a step does nothing but run texts that are about what an element is like. -/
def TextStep.Handles (id : String) : TextStep → Prop
  | .execute options text => (Invocation.parse options.isLenient text).Handles id
  | .executeBatch options text => ∀ x ∈ Invocation.parseAll options.isLenient text, x.Handles id
  | .activate _ | .deactivate | .clearVariables => False

/-- Whether a step does nothing but run invocations that are about what an element is like. -/
def Step.Handles (id : String) : Step → Prop
  | .text step => step.Handles id
  | .run _ invocation => invocation.Handles id

namespace Executor

open Scene (Grown)

variable {s t : Scene} {id : String} {options : Options} {invocation : Invocation}

/-- Handling an element writes properties of it or changes nothing. -/
theorem writes_run (h : invocation.Handles id) : t.Writes id ((builtin options).run invocation t).2 := by
  cases hcall : invocation.reading with
  | error r =>
    simp only [run, hcall]
    exact .keep
  | ok call =>
    obtain ⟨hname, hid⟩ := h call hcall
    rw [run_of_reading hcall]
    cases hp : (builtin options).prepare call with
    | error outcome =>
      rw [runCall_of_stopped hp]
      exact .keep
    | ok prepared =>
      obtain ⟨c, parameters⟩ := prepared
      rw [runCall_of_prepare hp]
      cases admitted_of_prepare hp with
      | createElement h1 => simp [h1, CreateElement.name] at hname
      | deleteElement h2 => simp [h2, DeleteElement.name] at hname
      | setProperty _ hi hproperty hv hd =>
        obtain ⟨other, hi⟩ := hi
        exact writes_setProperty (hid other hi ▸ hi) hproperty hv hd
      | getProperty _ hi hproperty hd =>
        obtain ⟨other, hi⟩ := hi
        exact writes_getProperty (hid other hi ▸ hi) hproperty hd
      | transform _ hi ho hd =>
        obtain ⟨other, hi⟩ := hi
        exact writes_transform (hid other hi ▸ hi) ho hd

theorem grown_run (hg : s.Grown id t) (h : invocation.Handles id) :
    s.Grown id ((builtin options).run invocation t).2 :=
  hg.writes (writes_run h)

theorem grown_runAll {invocations : List Invocation} (hg : s.Grown id t) (h : ∀ x ∈ invocations, x.Handles id) :
    s.Grown id ((builtin options).runAll invocations t).2 := by
  induction invocations generalizing t with
  | nil => exact hg
  | cons invocation rest ih =>
    obtain ⟨hfirst, hrest⟩ := List.forall_mem_cons.1 h
    exact ih (grown_run hg hfirst) hrest

/-- Creating adds an element to a tidy scene, where it was not. -/
theorem grown_of_creates (ht : s.Tidy) (h : invocation.Creates id)
    (hok : ((builtin options).run invocation s).1.isOk = true) :
    s.hasElement id = false ∧ s.Grown id ((builtin options).run invocation s).2 := by
  have hchange := change_run options invocation s
  rw [createdBy_of_ok invocation h.command hok h.names] at hchange
  exact hchange.grown ht

/-- Deleting passes every stage. -/
theorem passes_delete {call : Call} (hname : call.name = DeleteElement.name)
    (hi : call.parameters.get? "id" = some (.text id))
    (hdeclared : options.isStrict = true → ∀ name ∈ call.parameters.keys, name = "id") :
    (builtin options).prepare call = .ok (deleteElement, DeleteElement.schema.fill call.parameters) := by
  have haccepts : deleteElement.Accepts call.parameters := accepts_deleteElement_iff.2 ⟨id, hi⟩
  refine prepare_eq_ok_iff.2 ⟨by rw [hname]; rfl, haccepts, (strictCheck_eq_ok_iff rfl).2 fun hstrict => ?_, rfl⟩
  refine Schema.check_eq_ok_iff.2 ⟨accepts_standard_iff.1 haccepts, fun _ name hmem => ?_⟩
  rw [hdeclared hstrict name hmem]
  rfl

/-- Deleting removes an element that is there. -/
theorem run_of_deletes (h : invocation.Deletes options id) (hpresent : t.hasElement id = true) :
    ((builtin options).run invocation t).1.isOk = true ∧
      ((builtin options).run invocation t).2 = t.removeStarting (Scene.elementStem id) := by
  obtain ⟨call, hcall, hname, hi, hdeclared⟩ := h.exists_call
  have hfilled := Schema.get?_fill_of_some DeleteElement.schema hi
  rw [run_of_reading hcall, runCall_of_prepare (passes_delete hname hi hdeclared), run_deleteElement hfilled, hpresent]
  exact ⟨rfl, rfl⟩

end Executor

open Scene (Grown)

theorem TextStep.grown_perform {s t : Scene} {id : String} {step : TextStep} (hg : s.Grown id t)
    (h : step.Handles id) : s.Grown id (step.perform t).2 := by
  cases step with
  | execute options text =>
    have hhandles : (Invocation.parse options.isLenient text).Handles id := h
    exact Executor.grown_run hg hhandles
  | executeBatch options text =>
    have hhandles : ∀ x ∈ Invocation.parseAll options.isLenient text, x.Handles id := h
    exact Executor.grown_runAll hg hhandles
  | activate _ | deactivate | clearVariables => exact h.elim

/-- Handling an element changes nothing else. -/
theorem Step.grown_perform {s t : Scene} {id : String} {step : Step} (hg : s.Grown id t) (h : step.Handles id) :
    s.Grown id (step.perform t).2 := by
  cases step with
  | run options invocation =>
    have hhandles : invocation.Handles id := h
    exact Executor.grown_run hg hhandles
  | text step => exact TextStep.grown_perform hg h

namespace Session

/-- Handling an element, however often, changes nothing else. -/
theorem grown_after {life : List Step} {s t : Scene} {id : String} (hg : s.Grown id t)
    (h : ∀ step ∈ life, step.Handles id) : s.Grown id (after life t) := by
  induction life generalizing t with
  | nil => exact hg
  | cons step rest ih =>
    obtain ⟨hfirst, hrest⟩ := List.forall_mem_cons.1 h
    exact ih (Step.grown_perform hg hfirst) hrest

/-- **The life of an element leaves no trace.** If an element is created in a scene that a session has
reached, then handled in any number of steps, whether they succeed or fail, and then deleted, the
deletion succeeds and leaves the scene as it was before the creation: the same variables with the
same values in the same order. The element is not there, nor is anything under its stem. -/
theorem life_leaves_no_trace (active : Option String) (steps : List Step) (options options' : Options)
    {id : String} {creation deletion : Invocation} {life : List Step} (hcreates : creation.Creates id)
    (hhandles : ∀ step ∈ life, step.Handles id) (hdeletes : deletion.Deletes options' id) :
    let s := after steps (start active)
    let created := (Executor.builtin options).run creation s
    let deleted := (Executor.builtin options').run deletion (after life created.2)
    created.1.isOk = true →
      deleted.1.isOk = true ∧ deleted.2 = s ∧ deleted.2.hasElement id = false ∧
        ∀ name ∈ deleted.2.vars.keys, Scene.startsWith (Scene.elementStem id) name = false := by
  intro s created deleted hok
  have ht : s.Tidy := (orderly_after steps (Scene.orderly_start active)).1
  obtain ⟨habsent, hcreated⟩ := Executor.grown_of_creates ht hcreates hok
  have hlife : s.Grown id (after life created.2) := grown_after hcreated hhandles
  obtain ⟨hdeleted, hscene⟩ := Executor.run_of_deletes hdeletes hlife.hasElement
  have hback : deleted.2 = s := hscene.trans hlife.without
  rw [hback]
  exact ⟨hdeleted, rfl, habsent, ht.startsWith_eq_false habsent⟩

/-- An element whose id another one begins with, and a command that fails on it. -/
theorem life_leaves_no_trace_longer :
    let lamp : Step := .run {} ⟨"", .ok ⟨"create_element", .ofList [("type", .text "lamp"), ("name", .text "c10")]⟩⟩
    let s := after [lamp] (start none)
    let creation := Invocation.parse true "create_element(type: 'cube', name: 'c1')"
    let writing : Invocation :=
      ⟨"", .ok ⟨"set_property", .ofList [("id", .text "c1"), ("property", .text "x"), ("value", .text "far")]⟩⟩
    let move := "transform(id: 'c1', operation: 'move')"
    let deletion := Invocation.parse true "delete_element(id: 'c1')"
    let created := (Executor.builtin {}).run creation s
    let deleted := (Executor.builtin {}).run deletion (after [.run {} writing, .text (.execute {} move)] created.2)
    ((Executor.builtin {}).execute move (after [.run {} writing] created.2)).1.isOk = false ∧
      deleted.1.isOk = true ∧ deleted.2 = s := by
  intro lamp s creation writing move deletion created deleted
  have hcreates : creation.Creates "c1" := ⟨by decide +kernel, by decide +kernel⟩
  have hwriting : writing.Handles "c1" := Invocation.handles_of_commandName (by decide) rfl
  have hmove : (Invocation.parse true move).Handles "c1" :=
    Invocation.handles_of_commandName (by decide +kernel) (by decide +kernel)
  have hhandles : ∀ step ∈ [Step.run {} writing, .text (.execute {} move)], step.Handles "c1" :=
    List.forall_mem_cons.2 ⟨hwriting, List.forall_mem_singleton.2 hmove⟩
  have hdeletes : deletion.Deletes {} "c1" := ⟨by decide +kernel, by decide +kernel, fun h => absurd h (by decide)⟩
  obtain ⟨hdeleted, hback, -⟩ :=
    life_leaves_no_trace none [lamp] {} {} hcreates hhandles hdeletes (by decide +kernel)
  exact ⟨by decide +kernel, hdeleted, hback⟩

end Session

end SceneLang
