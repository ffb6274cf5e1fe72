/-
What holds of every scene that a session reaches.

A scene is tidy if its variables are properties of elements and nothing else: every name is the key
of an id and a property without dots, and no element has a property but no `type`. Nothing else
keeps the ids of `delete_element`, `set_property`, `get_property` and `transform` in their place:
they are looked up as they come, and an id with a dot in it never names an element of a tidy scene.

* `Tidy.change`, `Lists.change`: every change keeps a scene tidy and its elements in order.
* `orderly_run`, `orderly_after`: so does every invocation, and every session.
-/
import SceneLang.Proofs.Change
import Mathlib.Data.List.Dedup

namespace SceneLang

open Command (isKeyPart isKeyPart_iff)

namespace Scene

/-- Whether the variables of a scene are properties of elements and nothing else. -/
structure Tidy (s : Scene) : Prop where
  keyed : ∀ key ∈ s.vars.keys, ∃ id property, isKeyPart id = true ∧ isKeyPart property = true ∧
    key = elementKey id property
  typed : ∀ id property, elementKey id property ∈ s.vars.keys → s.hasElement id = true

variable {s : Scene} {id property : String} {v : Value}

theorem dotless (h : isKeyPart id = true) : '.' ∉ id.toList := (isKeyPart_iff.1 h).2

/-- An id that names an element of a tidy scene can be part of a key. -/
theorem Tidy.isKeyPart_of_hasElement (ht : s.Tidy) (h : s.hasElement id = true) : isKeyPart id = true := by
  obtain ⟨id', property', hi, hp, hkey⟩ := ht.keyed _ (hasElement_iff.1 h)
  rw [((elementKey_inj (dotless hi) (dotless hp)).1 hkey.symm).1] at hi
  exact hi

/-! ## Writes -/

theorem keys_set (name : String) :
    (s.set name v).vars.keys = if name ∈ s.vars.keys then s.vars.keys else s.vars.keys ++ [name] :=
  OrderedMap.keys_insert _ _ _

theorem mem_keys_set {key name : String} :
    key ∈ (s.set name v).vars.keys ↔ key ∈ s.vars.keys ∨ key = name := by
  rw [keys_set]
  split
  · next h => exact ⟨.inl, fun hk => hk.elim (fun hk => hk) fun hk => hk ▸ h⟩
  · rw [List.mem_append, List.mem_singleton]

theorem get?_set (key name : String) :
    (s.set key v).vars.get? name = if name = key then some v else s.vars.get? name :=
  OrderedMap.get?_insert _ _ _ _

/-- A write to a property keeps a scene tidy if the element is there, or if the property is the one
that makes it be there. -/
theorem Tidy.set (ht : s.Tidy) (hi : isKeyPart id = true) (hp : isKeyPart property = true)
    (h : s.hasElement id = true ∨ property = typeProperty) (v : Value) :
    (s.set (elementKey id property) v).Tidy := by
  have helement := hasElement_set (dotless hi) (dotless hp) (s := s) v
  refine ⟨fun key hk => ?_, fun id' property' hk => (helement id').2 ?_⟩
  · rcases mem_keys_set.1 hk with hk | rfl
    · exact ht.keyed key hk
    · exact ⟨id, property, hi, hp, rfl⟩
  · rcases mem_keys_set.1 hk with hk | hk
    · exact .inl (ht.typed id' property' hk)
    · obtain ⟨rfl, rfl⟩ := (elementKey_inj (dotless hi) (dotless hp)).1 hk.symm
      exact h.imp_right fun h => ⟨rfl, h⟩

theorem setProperties_cons (e : String × Value) (others : List (String × Value)) :
    s.setProperties id (e :: others) = (s.set (elementKey id e.1) e.2).setProperties id others := rfl

@[simp] theorem active_setProperties (properties : List (String × Value)) :
    (s.setProperties id properties).active = s.active := by
  induction properties generalizing s with
  | nil => rfl
  | cons first rest ih => rw [setProperties_cons, ih, active_set]

/-- Writing properties of an element that is there changes nothing about which elements there are. -/
theorem setProperties_of_hasElement {properties : List (String × Value)} (ht : s.Tidy)
    (h : s.hasElement id = true) (hp : ∀ e ∈ properties, isKeyPart e.1 = true) :
    (s.setProperties id properties).Tidy ∧ (s.setProperties id properties).elementIds = s.elementIds := by
  induction properties generalizing s with
  | nil => exact ⟨ht, rfl⟩
  | cons e others ih =>
    rw [List.forall_mem_cons] at hp
    have hi := ht.isKeyPart_of_hasElement h
    have hset := hasElement_set (dotless hi) (dotless hp.1) (s := s) e.2
    rw [setProperties_cons, ← elementIds_set (dotless hi) (dotless hp.1) h e.2]
    exact ih (ht.set hi hp.1 (.inl h) e.2) ((hset id).2 (.inl h)) hp.2

/-- Writing the properties of a new element puts its id at the end. -/
theorem setProperties_of_not_hasElement {others : List (String × Value)} (ht : s.Tidy)
    (hi : isKeyPart id = true) (h : s.hasElement id = false) (hp : ∀ e ∈ others, isKeyPart e.1 = true) :
    (s.setProperties id ((typeProperty, v) :: others)).Tidy ∧
      (s.setProperties id ((typeProperty, v) :: others)).elementIds = s.elementIds ++ [id] := by
  have htype : isKeyPart typeProperty = true := by decide
  rw [setProperties_cons, ← elementIds_birth h v]
  exact setProperties_of_hasElement (ht.set hi htype (.inr rfl) v)
    ((hasElement_set (dotless hi) (dotless htype) v id).2 (.inr ⟨rfl, rfl⟩)) hp

/-! ## Removals -/

theorem keys_removeStarting (stem : String) :
    (s.removeStarting stem).vars.keys = s.vars.keys.filter (!startsWith stem ·) :=
  OrderedMap.keys_filterKeys _ _

/-- Deleting an element takes all of it and nothing else. -/
theorem mem_keys_removeStarting {id' : String} (hi : isKeyPart id = true) (hp : isKeyPart property = true) :
    elementKey id property ∈ (s.removeStarting (elementStem id')).vars.keys ↔
      elementKey id property ∈ s.vars.keys ∧ id ≠ id' := by
  rw [keys_removeStarting, List.mem_filter, Bool.not_eq_true', ← Bool.not_eq_true,
    startsWith_elementKey_iff (dotless hi) (dotless hp)]

theorem Tidy.removeStarting (ht : s.Tidy) (id' : String) : (s.removeStarting (elementStem id')).Tidy := by
  refine ⟨fun key hk => ?_, fun id property hk => ?_⟩
  · rw [keys_removeStarting, List.mem_filter] at hk
    exact ht.keyed key hk.1
  · have hk' := hk
    rw [keys_removeStarting, List.mem_filter] at hk'
    obtain ⟨id1, property1, hi, hp, hkey⟩ := ht.keyed _ hk'.1
    obtain ⟨rfl, rfl⟩ := (elementKey_inj (dotless hi) (dotless hp)).1 hkey.symm
    rw [mem_keys_removeStarting hi hp] at hk
    rw [hasElement_iff, mem_keys_removeStarting hi (by decide)]
    exact ⟨hasElement_iff.1 (ht.typed _ _ hk.1), hk.2⟩

theorem elementIds_removeStarting (ht : s.Tidy) (id : String) :
    (s.removeStarting (elementStem id)).elementIds = s.elementIds.filter (· ≠ id) := by
  rw [elementIds, elementIds, keys_removeStarting, List.filterMap_filter, List.filter_filterMap]
  refine List.filterMap_congr fun key hk => ?_
  obtain ⟨id', property, hi, hp, rfl⟩ := ht.keyed key hk
  have hstem : startsWith (elementStem id) (elementKey id' property) = decide (id' = id) := by
    rw [Bool.eq_iff_iff, startsWith_elementKey_iff (dotless hi) (dotless hp), decide_eq_true_iff]
  rw [hstem, elementId?_elementKey (dotless hi) (dotless hp)]
  by_cases hid : id' = id <;> by_cases hproperty : property = typeProperty <;>
    simp [hid, hproperty, Option.filter_some]

/-! ## Changes -/

theorem tidy_of_keys_nil (h : s.vars.keys = []) : s.Tidy :=
  ⟨fun key hk => absurd hk (by simp [h]), fun id property hk => absurd hk (by simp [h])⟩

/-- A change keeps a scene tidy. -/
theorem Tidy.change {s' : Scene} {born : Option String} (ht : s.Tidy) (h : s.Change s' born) : s'.Tidy := by
  cases h with
  | keep => exact ht
  | create hi hn hp => exact (setProperties_of_not_hasElement ht hi hn hp).1
  | write h hp => exact (setProperties_of_hasElement ht h hp).1
  | delete => exact ht.removeStarting _

/-- Whether the elements of a scene are listed in the order in which they were last created. -/
def Lists (s : Scene) (created : List String) : Prop := s.elementIds = created.dedup.filter s.hasElement

theorem dedup_concat (created : List String) (id : String) :
    (created ++ [id]).dedup = created.dedup.filter (· ≠ id) ++ [id] := by
  induction created with
  | nil => rfl
  | cons first rest ih =>
    rw [List.cons_append]
    by_cases hm : first ∈ rest
    · rw [List.dedup_cons_of_mem (List.mem_append_left _ hm), List.dedup_cons_of_mem hm, ih]
    · rw [List.dedup_cons_of_notMem hm]
      by_cases hid : first = id
      · rw [List.dedup_cons_of_mem (by simp [hid]), List.filter_cons_of_neg (by simp [hid]), ih]
      · rw [List.dedup_cons_of_notMem (by simp [hm, hid]), List.filter_cons_of_pos (by simp [hid]), ih,
          List.cons_append]

/-- The order stays when no element comes in and those that go are taken out of the list. -/
theorem Lists.of_filter {s' : Scene} {created : List String} {p : String → Bool} (h : s.Lists created)
    (hids : s'.elementIds = s.elementIds.filter p) : s'.Lists created := by
  have hmem : ∀ id, s'.hasElement id = (p id && s.hasElement id) := by
    intro id
    rw [Bool.eq_iff_iff, Bool.and_eq_true, ← mem_elementIds_iff, ← mem_elementIds_iff, hids, List.mem_filter,
      and_comm]
  rw [Lists, hids, h, List.filter_filter]
  exact List.filter_congr fun id _ => (hmem id).symm

theorem Lists.of_concat {s' : Scene} {created : List String} (h : s.Lists created)
    (hn : s.hasElement id = false) (hids : s'.elementIds = s.elementIds ++ [id]) :
    s'.Lists (created ++ [id]) := by
  have hmem : ∀ id', s'.hasElement id' = (s.hasElement id' || decide (id' = id)) := by
    intro id'
    rw [Bool.eq_iff_iff, Bool.or_eq_true, decide_eq_true_iff, ← mem_elementIds_iff, ← mem_elementIds_iff, hids,
      List.mem_append, List.mem_singleton]
  have hold : ∀ id' ∈ created.dedup, s.hasElement id' = (s'.hasElement id' && decide (id' ≠ id)) := by
    intro id' _
    by_cases hid : id' = id <;> simp [hmem, hid, hn]
  rw [Lists, hids, h, dedup_concat, List.filter_append, List.filter_filter, List.filter_congr hold,
    List.filter_cons_of_pos (by simp [hmem]), List.filter_nil]

/-- A change keeps the elements in the order in which they were last created. -/
theorem Lists.change {s' : Scene} {born : Option String} {created : List String} (ht : s.Tidy)
    (hl : s.Lists created) (h : s.Change s' born) : s'.Lists (created ++ born.toList) := by
  cases h with
  | keep => simpa using hl
  | create hi hn hp => exact hl.of_concat hn (setProperties_of_not_hasElement ht hi hn hp).2
  | write h hp =>
    rw [Option.toList_none, List.append_nil]
    refine hl.of_filter (p := fun _ => true) ?_
    rw [List.filter_true, (setProperties_of_hasElement ht h hp).2]
  | delete =>
    rw [Option.toList_none, List.append_nil]
    exact hl.of_filter (elementIds_removeStarting ht _)

/-- Whether a scene is tidy and its elements are in the order in which they were last created. -/
def Orderly (s : Scene) (created : List String) : Prop := s.Tidy ∧ s.Lists created

theorem orderly_start (active : Option String) : (Session.start active).Orderly [] :=
  ⟨tidy_of_keys_nil rfl, rfl⟩

theorem Orderly.clearVariables {created : List String} (h : s.Orderly created) :
    s.clearVariables.Orderly created :=
  ⟨tidy_of_keys_nil rfl, h.2.of_filter (p := fun _ => false) (by rw [List.filter_false]; rfl)⟩

end Scene

/-! ## Sessions -/

open Scene (Orderly)

variable {s : Scene} {created : List String}

theorem Executor.orderly_run (options : Options) (invocation : Invocation) (h : s.Orderly created) :
    let (outcome, after) := (builtin options).run invocation s
    after.Orderly (created ++ (createdBy invocation outcome).toList) :=
  have hchange := change_run options invocation s
  ⟨h.1.change hchange, h.2.change h.1 hchange⟩

/-- Invocations that run one after the other keep a scene orderly. -/
theorem Executor.orderly_runAll (options : Options) (invocations : List Invocation) (h : s.Orderly created) :
    let (outcomes, after) := (builtin options).runAll invocations s
    after.Orderly (created ++ createdByAll invocations outcomes) := by
  induction invocations generalizing s created with
  | nil => simpa [runAll, createdByAll] using h
  | cons invocation rest ih =>
    have hrest := ih (orderly_run options invocation h)
    simp only [runAll, createdByAll_cons, ← List.append_assoc]
    exact hrest

theorem TextStep.orderly_perform (step : TextStep) (h : s.Orderly created) :
    let (outcomes, after) := step.perform s
    after.Orderly (created ++ createdByAll step.invocations outcomes) := by
  cases step with
  | execute options text => exact Executor.orderly_runAll options [_] h
  | executeBatch options text => exact Executor.orderly_runAll options _ h
  | activate id =>
    show (s.activate id).Orderly (created ++ [])
    rw [List.append_nil]
    exact ⟨⟨h.1.keyed, h.1.typed⟩, h.2⟩
  | deactivate =>
    show s.deactivate.Orderly (created ++ [])
    rw [List.append_nil]
    exact ⟨⟨h.1.keyed, h.1.typed⟩, h.2⟩
  | clearVariables =>
    show s.clearVariables.Orderly (created ++ [])
    rw [List.append_nil]
    exact h.clearVariables

theorem Step.orderly_perform (step : Step) (h : s.Orderly created) :
    let (outcomes, after) := step.perform s
    after.Orderly (created ++ createdByAll step.invocations outcomes) := by
  cases step with
  | text step => exact step.orderly_perform h
  | run options invocation => exact Executor.orderly_runAll options [invocation] h

namespace Session

/-- Steps that are performed one after the other keep a scene orderly. -/
theorem orderly_after (steps : List Step) (h : s.Orderly created) :
    (after steps s).Orderly (created ++ Session.created steps s) := by
  induction steps generalizing s created with
  | nil => simpa [after, Session.created] using h
  | cons step rest ih =>
    have hrest := ih (step.orderly_perform h)
    simp only [Session.created, ← List.append_assoc]
    exact hrest

/-- **Sessions keep the variables in order.** Whatever steps a session has, every variable is a
property of an element, under the key of an id and a property that are not empty and have no dots;
no element has a property but no `type`; and the listed ids are those of the elements that there
are, each once, in the order in which they were last created. -/
theorem orderly_of_start (active : Option String) (steps : List Step) :
    let s := after steps (start active)
    (∀ key ∈ s.vars.keys, ∃ id property, key = Scene.elementKey id property ∧
      (id ≠ "" ∧ '.' ∉ id.toList) ∧ (property ≠ "" ∧ '.' ∉ property.toList)) ∧
    (∀ id property, s.has (Scene.elementKey id property) = true →
      s.has (Scene.elementKey id Scene.typeProperty) = true) ∧
    s.elementIds.Nodup ∧
    (∀ id, id ∈ s.elementIds ↔ s.has (Scene.elementKey id Scene.typeProperty) = true) ∧
    s.elementIds = (Session.created steps (start active)).dedup.filter s.hasElement := by
  intro s
  obtain ⟨ht, hl⟩ := orderly_after steps (Scene.orderly_start active)
  refine ⟨fun key hk => ?_, fun id property hk => ?_, s.nodup_elementIds, fun id => Scene.mem_elementIds_iff,
    hl⟩
  · obtain ⟨id, property, hi, hp, hkey⟩ := ht.keyed key hk
    exact ⟨id, property, hkey, isKeyPart_iff.1 hi, isKeyPart_iff.1 hp⟩
  · exact ht.typed id property (OrderedMap.contains_iff.1 hk)

end Session

end SceneLang
