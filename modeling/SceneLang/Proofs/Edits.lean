/-
What a command does to its element.

A built-in command is about one element. What it answers follows from the properties of that
element and the active scene id, and what it does is an edit of that element: some of its properties
are written, or all of it is removed. In a tidy scene an edit leaves every other element as it was,
so commands about different elements can change places.

* `get?_apply_of_not_touches`, `get?_apply_congr`: an edit goes variable by variable.
* `get?_apply_comm`: edits of different elements can change places.
* `Tidy.agreesOn_apply`: an edit leaves the other elements of a tidy scene as they were.
* `edits_run`: an invocation is answered, and edits its element, by that element alone.
* `execute_comm`: texts about different elements can change places.
-/
import SceneLang.Proofs.Invariant

namespace SceneLang

open Command (isKeyPart)

/-! ## Edits -/

/-- What is done to an element. -/
inductive Edit where
  /-- properties are written, one after the other -/
  | write (properties : List (String × Value))
  /-- all of it is removed -/
  | erase

namespace Edit

/-- The scene with an element edited. -/
def apply (id : String) : Edit → Scene → Scene
  | .write properties, s => s.setProperties id properties
  | .erase, s => s.removeStarting (Scene.elementStem id)

/-- Whether what an edit writes stands under keys that say which element they belong to. -/
def Keyed (id : String) : Edit → Prop
  | .write properties => ∀ e ∈ properties, isKeyPart id = true ∧ isKeyPart e.1 = true
  | .erase => True

/-- Whether an edit writes or removes a variable of a name. -/
def Touches (id : String) : Edit → String → Prop
  | .write properties, name => ∃ e ∈ properties, name = Scene.elementKey id e.1
  | .erase, name => Scene.startsWith (Scene.elementStem id) name = true

/-- The edit that does nothing. -/
def none : Edit := .write []

variable {s t : Scene} {id id' name : String} {edit : Edit}

theorem keyed_none : Edit.none.Keyed id := by
  simp [none, Keyed]

theorem apply_none (s : Scene) : Edit.none.apply id s = s := rfl

@[simp] theorem active_apply (edit : Edit) : (edit.apply id s).active = s.active := by
  cases edit with
  | write properties => exact Scene.active_setProperties properties
  | erase => rfl

/-- Variables that an edit does not touch keep their values. -/
theorem get?_apply_of_not_touches (h : ¬edit.Touches id name) :
    (edit.apply id s).vars.get? name = s.vars.get? name := by
  cases edit with
  | erase =>
    have hstem : Scene.startsWith (Scene.elementStem id) name = false := by simpa [Touches] using h
    simp [apply, Scene.removeStarting, OrderedMap.get?_filterKeys, hstem]
  | write properties =>
    show (s.setProperties id properties).vars.get? name = s.vars.get? name
    induction properties generalizing s with
    | nil => rfl
    | cons first rest ih =>
      have hfirst : name ≠ Scene.elementKey id first.1 := fun hn => h ⟨first, List.mem_cons_self .., hn⟩
      have hrest : ¬(Edit.write rest).Touches id name := by
        rintro ⟨e, he, hn⟩
        exact h ⟨e, List.mem_cons_of_mem _ he, hn⟩
      rw [Scene.setProperties_cons, ih hrest, Scene.get?_set, if_neg hfirst]

/-- What a variable becomes depends on what it was. -/
theorem get?_apply_congr (edit : Edit) (h : s.vars.get? name = t.vars.get? name) :
    (edit.apply id s).vars.get? name = (edit.apply id t).vars.get? name := by
  cases edit with
  | erase => simp only [apply, Scene.removeStarting, OrderedMap.get?_filterKeys, h]
  | write properties =>
    show (s.setProperties id properties).vars.get? name = (t.setProperties id properties).vars.get? name
    induction properties generalizing s t with
    | nil => exact h
    | cons first rest ih =>
      rw [Scene.setProperties_cons, Scene.setProperties_cons]
      exact ih (by rw [Scene.get?_set, Scene.get?_set, h])

/-- A key that is written belongs to no other element, however that is edited. -/
theorem not_touches_of_write {properties : List (String × Value)} {other : Edit} (hne : id ≠ id')
    (hk : (Edit.write properties).Keyed id) (h : (Edit.write properties).Touches id name) :
    ¬other.Touches id' name := by
  obtain ⟨e, he, rfl⟩ := h
  obtain ⟨hi, hp⟩ := hk e he
  intro htouches
  cases other with
  | erase =>
    have hstem := (Scene.startsWith_elementKey_iff (Scene.dotless hi) (Scene.dotless hp)).1 htouches
    exact hne hstem
  | write others =>
    obtain ⟨e', -, hkey⟩ := htouches
    exact hne ((Scene.elementKey_inj (Scene.dotless hi) (Scene.dotless hp)).1 hkey).1

theorem get?_erase_of_touches (h : Edit.erase.Touches id name) :
    (Edit.erase.apply id s).vars.get? name = Option.none := by
  have hstem : Scene.startsWith (Scene.elementStem id) name = true := h
  simp [apply, Scene.removeStarting, OrderedMap.get?_filterKeys, hstem]

/-- Edits of different elements can change places. -/
theorem get?_apply_comm {first second : Edit} (hne : id ≠ id') (hfirst : first.Keyed id)
    (hsecond : second.Keyed id') (s : Scene) (name : String) :
    (second.apply id' (first.apply id s)).vars.get? name =
      (first.apply id (second.apply id' s)).vars.get? name := by
  by_cases h1 : first.Touches id name
  · by_cases h2 : second.Touches id' name
    · -- two edits that touch the same variable both remove it
      cases first with
      | write properties => exact absurd h2 (not_touches_of_write hne hfirst h1)
      | erase =>
        cases second with
        | write properties => exact absurd h1 (not_touches_of_write (Ne.symm hne) hsecond h2)
        | erase => rw [get?_erase_of_touches h1, get?_erase_of_touches h2]
    · rw [get?_apply_of_not_touches h2]
      exact get?_apply_congr first (get?_apply_of_not_touches h2).symm
  · rw [get?_apply_of_not_touches h1]
    exact get?_apply_congr second (get?_apply_of_not_touches h1)

end Edit

/-! ## What a command looks at -/

namespace Scene

/-- Whether two scenes have the same active scene id and the same properties of an element. -/
structure AgreesOn (id : String) (s t : Scene) : Prop where
  active : t.active = s.active
  properties : ∀ property, t.vars.get? (elementKey id property) = s.vars.get? (elementKey id property)

variable {s t : Scene} {id id' : String}

theorem AgreesOn.refl (id : String) (s : Scene) : AgreesOn id s s := ⟨rfl, fun _ => rfl⟩

theorem AgreesOn.hasElement (h : AgreesOn id s t) : t.hasElement id = s.hasElement id := by
  rw [Scene.hasElement, Scene.hasElement, has, has, OrderedMap.contains_eq_isSome,
    OrderedMap.contains_eq_isSome, h.properties]

/-- In a tidy scene a stem catches no property of another element, whatever its id is. -/
theorem Tidy.get?_of_startsWith (ht : s.Tidy) (hne : id ≠ id') {property : String}
    (h : startsWith (elementStem id) (elementKey id' property) = true) :
    s.vars.get? (elementKey id' property) = none := by
  rw [OrderedMap.get?_eq_none_iff]
  intro hmem
  obtain ⟨id₁, property₁, hi, hp, hkey⟩ := ht.keyed _ hmem
  obtain ⟨rfl, rfl⟩ := (elementKey_inj (dotless hi) (dotless hp)).1 hkey.symm
  exact hne ((startsWith_elementKey_iff (dotless hi) (dotless hp)).1 h).symm

/-- An edit of one element of a tidy scene leaves every other as it was. -/
theorem Tidy.agreesOn_apply (ht : s.Tidy) (hne : id ≠ id') {edit : Edit} (hk : edit.Keyed id) :
    AgreesOn id' s (edit.apply id s) := by
  refine ⟨Edit.active_apply edit, fun property => ?_⟩
  by_cases h : edit.Touches id (elementKey id' property)
  · cases edit with
    | erase => rw [Edit.get?_erase_of_touches h, ht.get?_of_startsWith hne h]
    | write properties =>
      obtain ⟨e, he, hkey⟩ := h
      obtain ⟨hi, hp⟩ := hk e he
      exact absurd ((elementKey_inj (dotless hi) (dotless hp)).1 hkey.symm).1 hne
  · exact Edit.get?_apply_of_not_touches h

end Scene

/-! ## Command by command -/

namespace Command

variable {supplied parameters : Parameters} {s : Scene} {id : String}

/-- Whether a run goes by one element alone: there is an edit of it that the command makes in every
scene with the same properties of the element, and its answer is the same in all of them. -/
def Edits (c : Command) (parameters : Parameters) (id : String) (s : Scene) : Prop :=
  ∃ edit : Edit, edit.Keyed id ∧ ∀ t, s.AgreesOn id t →
    c.run parameters t = ((c.run parameters s).1, edit.apply id t)

theorem edits_createElement (ht : supplied.HasText "type") (hn : supplied.get? "name" = some (.text id))
    (hk : isKeyPart id = true) (hd : createElement.applyDefaults supplied = .ok parameters) (s : Scene) :
    createElement.Edits parameters id s := by
  obtain ⟨type, ht⟩ := ht
  obtain ⟨x, y, hrun⟩ := exists_run_createElement ht hn hd
  cases hpresent : s.hasElement id with
  | true =>
    refine ⟨.none, Edit.keyed_none, fun t h => ?_⟩
    simp only [hrun, h.hasElement, hpresent, if_true, Edit.apply_none]
  | false =>
    refine ⟨.write (CreateElement.properties (.text type) (.text id) x y s.active), fun e he => ?_, fun t h => ?_⟩
    · exact ⟨hk, isKeyPart_properties _ _ _ _ _ e he⟩
    · simp only [hrun, h.hasElement, hpresent, h.active, Bool.false_eq_true, if_false, Edit.apply]

theorem edits_deleteElement (hi : supplied.get? "id" = some (.text id))
    (hd : deleteElement.applyDefaults supplied = .ok parameters) (s : Scene) :
    deleteElement.Edits parameters id s := by
  cases hd
  have hrun := fun s => run_deleteElement (s := s) (Schema.get?_fill_of_some DeleteElement.schema hi)
  cases hpresent : s.hasElement id with
  | true =>
    refine ⟨.erase, trivial, fun t h => ?_⟩
    simp only [hrun, h.hasElement, hpresent, if_true, Edit.apply]
  | false =>
    refine ⟨.none, Edit.keyed_none, fun t h => ?_⟩
    simp only [hrun, h.hasElement, hpresent, Bool.false_eq_true, if_false, Edit.apply_none]

theorem edits_setProperty (hi : supplied.get? "id" = some (.text id)) (hp : HasKeyPart supplied "property")
    (hv : ∃ v, supplied.get? "value" = some v) (hd : setProperty.applyDefaults supplied = .ok parameters)
    (htidy : s.Tidy) : setProperty.Edits parameters id s := by
  cases hd
  obtain ⟨property, hp, hk⟩ := hp
  obtain ⟨v, hv⟩ := hv
  have hrun := fun s => run_setProperty (s := s) (Schema.get?_fill_of_some SetProperty.schema hi)
    (Schema.get?_fill_of_some _ hp) (Schema.get?_fill_of_some _ hv)
  cases hpresent : s.hasElement id with
  | true =>
    refine ⟨.write [(property, v)], ?_, fun t h => ?_⟩
    · simpa [Edit.Keyed] using ⟨htidy.isKeyPart_of_hasElement hpresent, hk⟩
    · simp only [hrun, h.hasElement, hpresent, if_true, Edit.apply]
  | false =>
    refine ⟨.none, Edit.keyed_none, fun t h => ?_⟩
    simp only [hrun, h.hasElement, hpresent, Bool.false_eq_true, if_false, Edit.apply_none]

theorem edits_getProperty (hi : supplied.get? "id" = some (.text id)) (hp : HasKeyPart supplied "property")
    (hd : getProperty.applyDefaults supplied = .ok parameters) (s : Scene) :
    getProperty.Edits parameters id s := by
  cases hd
  obtain ⟨property, hp, -⟩ := hp
  have hrun := fun s => run_getProperty (s := s) (Schema.get?_fill_of_some GetProperty.schema hi)
    (Schema.get?_fill_of_some _ hp)
  refine ⟨.none, Edit.keyed_none, fun t h => ?_⟩
  simp only [hrun, h.hasElement, h.properties, Edit.apply_none]

/-- What the property of an axis becomes follows from the properties of the element. -/
theorem update_of_agreesOn {t : Scene} (h : s.AgreesOn id t) (operation : Operation) (parameters : Parameters) :
    Transform.update operation id parameters t = Transform.update operation id parameters s := by
  funext axis
  simp only [Transform.update, Transform.readNumber, h.properties]

theorem edits_transform (hi : supplied.get? "id" = some (.text id)) (ho : HasOperation supplied)
    (hd : transform.applyDefaults supplied = .ok parameters) (htidy : s.Tidy) :
    transform.Edits parameters id s := by
  obtain ⟨operation, ho⟩ := ho
  have hrun := run_transform_of_fill hi ho hd
  cases hpresent : s.hasElement id with
  | false =>
    refine ⟨.none, Edit.keyed_none, fun t h => ?_⟩
    simp only [hrun, h.hasElement, hpresent, Bool.false_eq_true, if_false, Edit.apply_none]
  | true =>
    cases hu : axes.mapM (Transform.update operation id parameters s) with
    | error f =>
      refine ⟨.none, Edit.keyed_none, fun t h => ?_⟩
      simp only [hrun, h.hasElement, hpresent, update_of_agreesOn h, hu, if_true, Edit.apply_none]
    | ok updates =>
      obtain ⟨properties, rfl, hk⟩ := exists_properties_of_updates (fun _ ha => ha) hu
      refine ⟨.write properties, fun e he => ?_, fun t h => ?_⟩
      · exact ⟨htidy.isKeyPart_of_hasElement hpresent, hk e he⟩
      · simp only [hrun, h.hasElement, hpresent, update_of_agreesOn h, hu, if_true, Edit.apply]
        rfl

end Command

/-! ## Invocations -/

/-- Whether an invocation of a built-in command is about the element of an id: the one that it names
if it creates one, or else the one that it gives the id of. What was read as no call has no name and
is about nothing. -/
inductive Invocation.Addresses (x : Invocation) (id : String) : Prop
  | create : x.commandName = "create_element" → x.parameters.get? "name" = some (.text id) → Addresses x id
  | other : x.commandName ∈ ["delete_element", "set_property", "get_property", "transform"] →
      x.parameters.get? "id" = some (.text id) → Addresses x id

/-- What is about an element is a call that says which one. -/
theorem Invocation.Addresses.exists_call {x : Invocation} {id : String} (h : x.Addresses id) :
    ∃ call, x.reading = .ok call ∧
      (call.name = "create_element" → call.parameters.get? "name" = some (.text id)) ∧
      (call.name ≠ "create_element" → call.parameters.get? "id" = some (.text id)) := by
  obtain ⟨source, reading⟩ := x
  cases reading with
  | error r =>
    cases h with
    | create hc _ => simp [commandName] at hc
    | other hmem _ => simp [commandName] at hmem
  | ok call =>
    refine ⟨call, rfl, fun hc => ?_, fun hc => ?_⟩
    · cases h with
      | create _ hname => exact hname
      | other hmem _ => simp [commandName, hc] at hmem
    · cases h with
      | create hc' _ => exact absurd hc' hc
      | other _ hid => exact hid

namespace Executor

variable {s : Scene} {id : String}

theorem edits_of_prepare {options : Options} {call : Call} {c : Command} {parameters : Parameters}
    (hname : call.name = "create_element" → call.parameters.get? "name" = some (.text id))
    (hid : call.name ≠ "create_element" → call.parameters.get? "id" = some (.text id))
    (hp : (builtin options).prepare call = .ok (c, parameters)) (ht : s.Tidy) : c.Edits parameters id s := by
  cases Command.admitted_of_prepare hp with
  | createElement hc htype hpart hd =>
    obtain ⟨part, hpart, hk⟩ := hpart
    rw [hname hc] at hpart
    cases hpart
    exact Command.edits_createElement htype (hname hc) hk hd s
  | deleteElement hc _ hd =>
    exact Command.edits_deleteElement (hid (by simp [hc, Command.DeleteElement.name])) hd s
  | setProperty hc _ hproperty hv hd =>
    exact Command.edits_setProperty (hid (by simp [hc, Command.SetProperty.name])) hproperty hv hd ht
  | getProperty hc _ hproperty hd =>
    exact Command.edits_getProperty (hid (by simp [hc, Command.GetProperty.name])) hproperty hd s
  | transform hc _ ho hd =>
    exact Command.edits_transform (hid (by simp [hc, Command.Transform.name])) ho hd ht

/-- An invocation edits the element that it is about, and its outcome and the edit follow from that
element alone. -/
theorem edits_run (options : Options) {invocation : Invocation} (ha : invocation.Addresses id) (ht : s.Tidy) :
    ∃ edit : Edit, edit.Keyed id ∧ ∀ t, s.AgreesOn id t →
      (builtin options).run invocation t = (((builtin options).run invocation s).1, edit.apply id t) := by
  obtain ⟨call, hcall, hname, hid⟩ := ha.exists_call
  simp only [run_of_reading hcall]
  cases hp : (builtin options).prepare call with
  | error outcome =>
    refine ⟨.none, Edit.keyed_none, fun t _ => ?_⟩
    rw [runCall_of_stopped hp, runCall_of_stopped hp, Edit.apply_none]
  | ok prepared =>
    obtain ⟨edit, hk, hedit⟩ := edits_of_prepare hname hid hp ht
    refine ⟨edit, hk, fun t h => ?_⟩
    rw [runCall_of_prepare hp, runCall_of_prepare hp, hedit t h]

/-- Invocations about different elements of a tidy scene can change places. -/
theorem run_comm (optionsA optionsB : Options) {a b : Invocation} {idA idB : String} (hne : idA ≠ idB)
    (ha : a.Addresses idA) (hb : b.Addresses idB) (ht : s.Tidy) :
    let first := (builtin optionsA).run a s
    let second := (builtin optionsB).run b s
    let thenFirst := (builtin optionsA).run a second.2
    let thenSecond := (builtin optionsB).run b first.2
    thenFirst.1 = first.1 ∧ thenSecond.1 = second.1 ∧
      (∀ name, thenSecond.2.vars.get? name = thenFirst.2.vars.get? name) ∧
      thenSecond.2.active = thenFirst.2.active := by
  intro first second thenFirst thenSecond
  obtain ⟨editA, hkA, hA⟩ := edits_run optionsA ha ht
  obtain ⟨editB, hkB, hB⟩ := edits_run optionsB hb ht
  have hfirst : first.2 = editA.apply idA s := congrArg Prod.snd (hA s (.refl idA s))
  have hsecond : second.2 = editB.apply idB s := congrArg Prod.snd (hB s (.refl idB s))
  -- each of them finds its own element as it was
  have hthenFirst : thenFirst = (first.1, editA.apply idA second.2) :=
    hA second.2 (hsecond ▸ ht.agreesOn_apply (Ne.symm hne) hkB)
  have hthenSecond : thenSecond = (second.1, editB.apply idB first.2) :=
    hB first.2 (hfirst ▸ ht.agreesOn_apply hne hkA)
  rw [hthenFirst, hthenSecond, hfirst, hsecond]
  refine ⟨rfl, rfl, fun name => Edit.get?_apply_comm hne hkA hkB s name, ?_⟩
  simp only [Edit.active_apply]

end Executor

namespace Session

open Executor (builtin)

/-- **Commands about different elements can change places.** In every scene that a session reaches, two
texts that are calls of built-in commands about different elements have the same outcomes whichever
of them is run first, and the scene that is left has the same variables with the same values and the
same active scene id. -/
theorem execute_comm (active : Option String) (steps : List Step) (optionsA optionsB : Options)
    (textA textB : String) {idA idB : String} (hne : idA ≠ idB)
    (ha : (Invocation.parse optionsA.isLenient textA).Addresses idA)
    (hb : (Invocation.parse optionsB.isLenient textB).Addresses idB) :
    let s := after steps (start active)
    let first := (builtin optionsA).execute textA s
    let second := (builtin optionsB).execute textB s
    let thenFirst := (builtin optionsA).execute textA second.2
    let thenSecond := (builtin optionsB).execute textB first.2
    thenFirst.1 = first.1 ∧ thenSecond.1 = second.1 ∧
      (∀ name, thenSecond.2.vars.get? name = thenFirst.2.vars.get? name) ∧
      thenSecond.2.active = thenFirst.2.active := by
  have ht : (after steps (start active)).Tidy := (orderly_after steps (Scene.orderly_start active)).1
  exact Executor.run_comm optionsA optionsB hne ha hb ht

/-- Deleting an element spares one whose id goes on where its own ends. -/
theorem execute_comm_longer :
    let batch := "create_element(type: 'cube', name: 'c1'); create_element(type: 'cube', name: 'c10')"
    let s := after [.text (.executeBatch {} batch)] (start none)
    let delete := "delete_element(id: 'c1')"
    let move := "transform(id: 'c10', operation: 'move', x: 2)"
    ((builtin {}).execute move ((builtin {}).execute delete s).2).1 = ((builtin {}).execute move s).1 ∧
      ((builtin {}).execute move s).1.isOk = true := by
  intro batch s delete move
  have hdelete : (Invocation.parse true delete).Addresses "c1" :=
    .other (by decide +kernel) (by decide +kernel)
  have hmove : (Invocation.parse true move).Addresses "c10" :=
    .other (by decide +kernel) (by decide +kernel)
  have hcomm := execute_comm none [.text (.executeBatch {} batch)] {} {} delete move (by decide) hdelete hmove
  exact ⟨hcomm.2.1, by decide +kernel⟩

end Session

end SceneLang
