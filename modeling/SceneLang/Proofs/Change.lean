/-
What one invocation does to a scene.

Whatever it is and whatever comes of it, an invocation of a built-in command leaves the scene as it
is, creates an element that was not there, writes properties of an element that is there, or
deletes one that is there (`change_run`). Everything that holds of a scene throughout a session is
shown for these four changes. The commands that handle an element do no more than write properties
of it (`Writes`).
-/
import SceneLang.Proofs.Builtins
import SceneLang.Proofs.Session

namespace SceneLang

open Command

/-- What can become of a scene, and the id of the element that is created if one is. -/
inductive Scene.Change (s : Scene) : Scene → Option String → Prop
  | keep : s.Change s none
  | create {id v others} : isKeyPart id = true → s.hasElement id = false →
      (∀ e ∈ others, isKeyPart e.1 = true) →
      s.Change (s.setProperties id ((typeProperty, v) :: others)) (some id)
  | write {id properties} : s.hasElement id = true → (∀ e ∈ properties, isKeyPart e.1 = true) →
      s.Change (s.setProperties id properties) none
  | delete {id} : s.hasElement id = true → s.Change (s.removeStarting (elementStem id)) none

/-- What can become of a scene where one element is handled: properties of the element are written,
which is there, or nothing changes. -/
inductive Scene.Writes (s : Scene) (id : String) : Scene → Prop
  | keep : s.Writes id s
  | write {properties} : s.hasElement id = true → (∀ e ∈ properties, isKeyPart e.1 = true) →
      s.Writes id (s.setProperties id properties)

theorem Scene.Writes.change {s after : Scene} {id : String} (h : s.Writes id after) : s.Change after none := by
  cases h with
  | keep => exact .keep
  | write h hp => exact .write h hp

namespace Command

variable {supplied parameters : Parameters} {s : Scene} {id : String}

/-! ## Command by command -/

theorem isKeyPart_properties (type id x y : Value) (active : Option String) :
    ∀ e ∈ CreateElement.properties type id x y active, isKeyPart e.1 = true := by
  cases active <;> simp [CreateElement.properties, axes, isKeyPart]

theorem isKeyPart_property (operation : Operation) {axis : String} (h : axis ∈ axes) :
    isKeyPart (operation.property axis) = true := by
  simp only [axes, List.mem_cons, List.not_mem_nil, or_false] at h
  rcases h with rfl | rfl | rfl <;> cases operation <;> decide

theorem change_createElement (ht : supplied.HasText "type")
    (hn : supplied.get? "name" = some (.text id)) (hk : isKeyPart id = true)
    (hd : createElement.applyDefaults supplied = .ok parameters) :
    (∃ f, createElement.run parameters s = (.error f, s)) ∨
      ∃ m v after, createElement.run parameters s = (.ok (.ok m v), after) ∧ s.Change after (some id) := by
  obtain ⟨type, ht⟩ := ht
  obtain ⟨x, y, hrun⟩ := exists_run_createElement ht hn hd
  rw [hrun]
  cases h : s.hasElement id with
  | true => exact .inl ⟨_, rfl⟩
  | false =>
    refine .inr ⟨_, _, _, rfl, .create hk h fun e he => ?_⟩
    exact isKeyPart_properties (.text type) (.text id) x y s.active e (List.mem_cons_of_mem _ he)

theorem change_deleteElement (hi : supplied.HasText "id")
    (hd : deleteElement.applyDefaults supplied = .ok parameters) :
    s.Change (deleteElement.run parameters s).2 none := by
  cases hd
  obtain ⟨id, hi⟩ := hi
  rw [run_deleteElement (Schema.get?_fill_of_some _ hi)]
  split
  · next h => exact .delete h
  · exact .keep

theorem writes_setProperty (hi : supplied.get? "id" = some (.text id)) (hp : HasKeyPart supplied "property")
    (hv : ∃ v, supplied.get? "value" = some v) (hd : setProperty.applyDefaults supplied = .ok parameters) :
    s.Writes id (setProperty.run parameters s).2 := by
  cases hd
  obtain ⟨property, hp, hk⟩ := hp
  obtain ⟨v, hv⟩ := hv
  rw [run_setProperty (Schema.get?_fill_of_some _ hi) (Schema.get?_fill_of_some _ hp)
    (Schema.get?_fill_of_some _ hv)]
  split
  · next h => exact .write h (by simpa using hk)
  · exact .keep

theorem writes_getProperty (hi : supplied.get? "id" = some (.text id)) (hp : HasKeyPart supplied "property")
    (hd : getProperty.applyDefaults supplied = .ok parameters) : s.Writes id (getProperty.run parameters s).2 := by
  cases hd
  obtain ⟨property, hp, -⟩ := hp
  rw [run_getProperty (Schema.get?_fill_of_some _ hi) (Schema.get?_fill_of_some _ hp)]
  exact .keep

/-- What a transformation plans to write belongs to its element. -/
theorem exists_properties_of_updates {operation : Operation} {along : List String}
    (ha : ∀ axis ∈ along, axis ∈ axes) {updates : List (String × Value)}
    (h : along.mapM (Transform.update operation id parameters s) = .ok updates) :
    ∃ properties : List (String × Value), updates = properties.map (fun e => (Scene.elementKey id e.1, e.2)) ∧
      ∀ e ∈ properties, isKeyPart e.1 = true := by
  induction along generalizing updates with
  | nil =>
    cases h
    exact ⟨[], rfl, by simp⟩
  | cons axis along ih =>
    rw [List.forall_mem_cons] at ha
    rw [List.mapM_cons] at h
    obtain ⟨e, he, h⟩ := bind_eq_ok_iff.1 h
    obtain ⟨others, hothers, h⟩ := bind_eq_ok_iff.1 h
    cases pure_eq_ok_iff.1 h
    obtain ⟨amount, current, change, -, -, -, rfl⟩ := update_eq_ok_iff.1 he
    obtain ⟨properties, rfl, hk⟩ := ih ha.2 hothers
    exact ⟨(operation.property axis, .number (operation.combine current change)) :: properties, rfl,
      List.forall_mem_cons.2 ⟨isKeyPart_property operation ha.1, hk⟩⟩

theorem writes_transform (hi : supplied.get? "id" = some (.text id)) (ho : HasOperation supplied)
    (hd : transform.applyDefaults supplied = .ok parameters) : s.Writes id (transform.run parameters s).2 := by
  obtain ⟨operation, ho⟩ := ho
  rw [run_transform_of_fill hi ho hd]
  cases h : s.hasElement id with
  | false => exact .keep
  | true =>
    cases hu : axes.mapM (Transform.update operation id parameters s) with
    | error f => exact .keep
    | ok updates =>
      obtain ⟨properties, rfl, hk⟩ := exists_properties_of_updates (fun _ ha => ha) hu
      exact .write h hk

end Command

/-! ## Any invocation -/

namespace Executor

/-- What a call does that is prepared for a command other than the one that creates. -/
theorem change_runCall_of_ne {x : Executor} {call : Call} {c : Command} {parameters : Parameters} {s : Scene}
    {source : String} (hp : x.prepare call = .ok (c, parameters)) (hn : call.name ≠ CreateElement.name)
    (h : s.Change (c.run parameters s).2 none) :
    s.Change (x.runCall call s).2 (createdBy ⟨source, .ok call⟩ (x.runCall call s).1) := by
  rw [createdBy_of_ne ⟨source, .ok call⟩ hn, runCall_of_prepare hp]
  exact h

/-- Any invocation makes one of the four changes, and it creates an element exactly if it says so. -/
theorem change_run (options : Options) (invocation : Invocation) (s : Scene) :
    s.Change ((builtin options).run invocation s).2
      (createdBy invocation ((builtin options).run invocation s).1) := by
  obtain ⟨source, reading⟩ := invocation
  cases reading with
  | error r =>
    rw [createdBy_of_failure _ rfl]
    exact .keep
  | ok call =>
    have hrun : (builtin options).run ⟨source, .ok call⟩ s = (builtin options).runCall call s := rfl
    rw [hrun]
    cases hp : (builtin options).prepare call with
    | error outcome =>
      rw [runCall_of_stopped hp, createdBy_of_failure _ (isOk_of_prepare_error hp)]
      exact .keep
    | ok prepared =>
      obtain ⟨c, parameters⟩ := prepared
      cases admitted_of_prepare hp with
      | createElement h1 ht hname hd =>
        obtain ⟨id, hn, hk⟩ := hname
        rw [runCall_of_prepare hp]
        rcases change_createElement (s := s) ht hn hk hd with ⟨f, hrun⟩ | ⟨m, v, after, hrun, hchange⟩
        · rw [hrun, createdBy_of_failure _ (isOk_faultOutcome _ f)]
          exact .keep
        · rw [hrun, createdBy_of_ok ⟨source, .ok call⟩ h1 rfl hn]
          exact hchange
      | deleteElement h2 hi hd =>
        exact change_runCall_of_ne hp (by simp [h2, DeleteElement.name, CreateElement.name])
          (change_deleteElement hi hd)
      | setProperty h3 hi hproperty hv hd =>
        obtain ⟨id, hi⟩ := hi
        exact change_runCall_of_ne hp (by simp [h3, SetProperty.name, CreateElement.name])
          (writes_setProperty hi hproperty hv hd).change
      | getProperty h4 hi hproperty hd =>
        obtain ⟨id, hi⟩ := hi
        exact change_runCall_of_ne hp (by simp [h4, GetProperty.name, CreateElement.name])
          (writes_getProperty hi hproperty hd).change
      | transform h5 hi ho hd =>
        obtain ⟨id, hi⟩ := hi
        exact change_runCall_of_ne hp (by simp [h5, Transform.name, CreateElement.name])
          (writes_transform hi ho hd).change

end Executor

end SceneLang
