/-
What the built-in commands accept and do.

Each command accepts certain texts and numbers under the names it declares. Given those, it does
one thing to one element: it writes some of its properties, reads one, or removes the element.

* `get?_default`: the commands by name.
* `accepts_createElement_iff` and its siblings: what each of them accepts.
* `admitted_of_prepare`: the calls that every stage lets through, command by command.
* `get?_fillAmounts`: what a transformation is given for the amounts that are omitted.
* `run_createElement` and its siblings: what each of them does.
-/
import SceneLang.Proofs.Checking
import SceneLang.Proofs.Keys

namespace SceneLang

/-- The scene with properties of an element written one after the other. -/
def Scene.setProperties (s : Scene) (id : String) (properties : List (String × Value)) : Scene :=
  s.setAll (properties.map fun e => (elementKey id e.1, e.2))

open Command

namespace Registry

theorem entries_default : default.commands.entries = builtins.map fun c => (c.listing, c) := rfl

/-- The commands by name. -/
theorem get?_default (name : String) : default.get? name =
    if name = CreateElement.name then some createElement
    else if name = DeleteElement.name then some deleteElement
    else if name = SetProperty.name then some setProperty
    else if name = GetProperty.name then some getProperty
    else if name = Transform.name then some transform
    else none := by
  rw [get?, OrderedMap.get?, entries_default]
  simp only [builtins, List.map_cons, List.map_nil, OrderedMap.lookup_cons, List.lookup_nil]
  rfl

end Registry

namespace Command

variable {supplied : Parameters}

/-! ## What is accepted -/

/-- Whether a text that can be one part of a key is supplied under a name. -/
def HasKeyPart (supplied : Parameters) (name : String) : Prop :=
  ∃ part, supplied.get? name = some (.text part) ∧ isKeyPart part = true

theorem HasKeyPart.hasText {name : String} : HasKeyPart supplied name → supplied.HasText name
  | ⟨part, h, _⟩ => ⟨part, h⟩

theorem accepts_requireKeyPart_iff {c : Command} {command name : String}
    (h : c.Accepts supplied → supplied.HasText name) :
    (c.requiring (requireKeyPart command name)).Accepts supplied ↔
      c.Accepts supplied ∧ HasKeyPart supplied name := by
  rw [accepts_requiring_iff]
  refine and_congr_right fun hc => ?_
  obtain ⟨part, hpart⟩ := h hc
  rw [requireKeyPart_eq hpart, HasKeyPart]
  cases hk : isKeyPart part <;> simp [hpart, hk]

theorem fits_createElement_iff : (∀ p ∈ CreateElement.schema, p.Fits supplied) ↔ supplied.HasText "type" ∧
    supplied.HasText "name" ∧ supplied.MayNumber "x" ∧ supplied.MayNumber "y" := by
  simp only [CreateElement.schema, List.forall_mem_cons, List.not_mem_nil, false_implies, implies_true,
    and_true]
  rw [Parameter.fits_text_iff rfl rfl, Parameter.fits_text_iff rfl rfl, Parameter.fits_number_iff rfl rfl,
    Parameter.fits_number_iff rfl rfl]

theorem accepts_createElement_iff :
    createElement.Accepts supplied ↔ supplied.HasText "type" ∧ HasKeyPart supplied "name" ∧
      supplied.MayNumber "x" ∧ supplied.MayNumber "y" := by
  unfold createElement
  rw [accepts_requireKeyPart_iff fun h => (fits_createElement_iff.1 (accepts_standard_iff.1 h)).2.1,
    accepts_standard_iff, fits_createElement_iff]
  constructor
  · intro h
    obtain ⟨⟨ht, -, hx, hy⟩, hk⟩ := h
    exact ⟨ht, hk, hx, hy⟩
  · intro h
    obtain ⟨ht, hk, hx, hy⟩ := h
    exact ⟨⟨ht, hk.hasText, hx, hy⟩, hk⟩

theorem accepts_deleteElement_iff : deleteElement.Accepts supplied ↔ supplied.HasText "id" := by
  unfold deleteElement
  rw [accepts_standard_iff, DeleteElement.schema, List.forall_mem_singleton, Parameter.fits_text_iff rfl rfl]
  rfl

theorem fits_setProperty_iff : (∀ p ∈ SetProperty.schema, p.Fits supplied) ↔ supplied.HasText "id" ∧
    supplied.HasText "property" ∧ ∃ v, supplied.get? "value" = some v := by
  simp only [SetProperty.schema, List.forall_mem_cons, List.not_mem_nil, false_implies, implies_true, and_true]
  rw [Parameter.fits_text_iff rfl rfl, Parameter.fits_text_iff rfl rfl, Parameter.fits_any_iff rfl rfl]
  rfl

theorem accepts_setProperty_iff :
    setProperty.Accepts supplied ↔ supplied.HasText "id" ∧ HasKeyPart supplied "property" ∧
      ∃ v, supplied.get? "value" = some v := by
  unfold setProperty
  rw [accepts_requireKeyPart_iff fun h => (fits_setProperty_iff.1 (accepts_standard_iff.1 h)).2.1,
    accepts_standard_iff, fits_setProperty_iff]
  constructor
  · intro h
    obtain ⟨⟨hi, -, hv⟩, hk⟩ := h
    exact ⟨hi, hk, hv⟩
  · intro h
    obtain ⟨hi, hk, hv⟩ := h
    exact ⟨⟨hi, hk.hasText, hv⟩, hk⟩

theorem fits_getProperty_iff : (∀ p ∈ GetProperty.schema, p.Fits supplied) ↔ supplied.HasText "id" ∧
    supplied.HasText "property" := by
  simp only [GetProperty.schema, List.forall_mem_cons, List.not_mem_nil, false_implies, implies_true, and_true]
  rw [Parameter.fits_text_iff rfl rfl, Parameter.fits_text_iff rfl rfl]
  rfl

theorem accepts_getProperty_iff :
    getProperty.Accepts supplied ↔ supplied.HasText "id" ∧ HasKeyPart supplied "property" := by
  unfold getProperty
  rw [accepts_requireKeyPart_iff fun h => (fits_getProperty_iff.1 (accepts_standard_iff.1 h)).2,
    accepts_standard_iff, fits_getProperty_iff]
  constructor
  · intro h
    obtain ⟨⟨hi, -⟩, hk⟩ := h
    exact ⟨hi, hk⟩
  · intro h
    obtain ⟨hi, hk⟩ := h
    exact ⟨⟨hi, hk.hasText⟩, hk⟩

/-- Whether the name of an operation is supplied. -/
def HasOperation (supplied : Parameters) : Prop :=
  ∃ operation : Operation, supplied.get? Transform.operationName = some (.text operation.name)

theorem Operation.ofName?_eq_some_iff {name : String} {operation : Operation} :
    Operation.ofName? name = some operation ↔ name = operation.name := by
  constructor
  · intro h
    have hname := List.find?_some h
    exact (of_decide_eq_true hname).symm
  · intro h
    subst h
    cases operation <;> rfl

theorem exists_requireOperation_eq {name : String}
    (h : supplied.get? Transform.operationName = some (.text name)) :
    ∃ m, Transform.requireOperation supplied =
      .ok (if (Operation.ofName? name).isSome then .done else .failure m .validation) := by
  cases ho : Operation.ofName? name <;>
    simp [Transform.requireOperation, Parameters.fetch_eq_ok h, ho, bind, Except.bind, pure, Except.pure,
      Value.shown, Value.format, Except.map]

theorem requireOperation_eq_ok_iff (h : supplied.HasText Transform.operationName) :
    (∃ validation, Transform.requireOperation supplied = .ok validation ∧ validation.isOk = true) ↔
      HasOperation supplied := by
  obtain ⟨name, hname⟩ := h
  obtain ⟨m, hm⟩ := exists_requireOperation_eq hname
  simp only [hm, HasOperation, hname, Option.some.injEq, Value.text.injEq, ← Operation.ofName?_eq_some_iff,
    ← Option.isSome_iff_exists]
  cases Operation.ofName? name <;> simp

theorem fits_transform_iff : (∀ p ∈ Transform.schema, p.Fits supplied) ↔ supplied.HasText "id" ∧
    supplied.HasText Transform.operationName ∧ supplied.MayNumber "x" ∧ supplied.MayNumber "y" ∧
    supplied.MayNumber "z" := by
  simp only [Transform.schema, List.forall_mem_cons, List.not_mem_nil, false_implies, implies_true, and_true]
  rw [Parameter.fits_text_iff rfl rfl, Parameter.fits_text_iff rfl rfl, Parameter.fits_number_iff rfl rfl,
    Parameter.fits_number_iff rfl rfl, Parameter.fits_number_iff rfl rfl]
  rfl

theorem accepts_transform_iff_fits :
    transform.Accepts supplied ↔ (∀ p ∈ Transform.schema, p.Fits supplied) ∧
      ∃ validation, Transform.requireOperation supplied = .ok validation ∧ validation.isOk = true := by
  have hvalidate : transform.Accepts supplied ↔ _ := accepts_requiring_iff
  rw [hvalidate, accepts_standard_iff]

theorem accepts_transform_iff :
    transform.Accepts supplied ↔ supplied.HasText "id" ∧ HasOperation supplied ∧
      supplied.MayNumber "x" ∧ supplied.MayNumber "y" ∧ supplied.MayNumber "z" := by
  rw [accepts_transform_iff_fits, fits_transform_iff]
  constructor
  · intro h
    obtain ⟨⟨hi, ho, hxyz⟩, h⟩ := h
    exact ⟨hi, (requireOperation_eq_ok_iff ho).1 h, hxyz⟩
  · intro h
    obtain ⟨hi, ho, hxyz⟩ := h
    have hn : supplied.HasText Transform.operationName := ⟨_, ho.choose_spec⟩
    exact ⟨⟨hi, hn, hxyz⟩, (requireOperation_eq_ok_iff hn).2 ho⟩

/-- The calls of built-in commands that every stage lets through, what is known of what they supply,
and the parameters as they are filled in. -/
inductive Admitted (call : Call) (parameters : Parameters) : Command → Prop
  | createElement : call.name = CreateElement.name → call.parameters.HasText "type" →
      HasKeyPart call.parameters "name" → createElement.applyDefaults call.parameters = .ok parameters →
      Admitted call parameters createElement
  | deleteElement : call.name = DeleteElement.name → call.parameters.HasText "id" →
      deleteElement.applyDefaults call.parameters = .ok parameters → Admitted call parameters deleteElement
  | setProperty : call.name = SetProperty.name → call.parameters.HasText "id" →
      HasKeyPart call.parameters "property" → (∃ v, call.parameters.get? "value" = some v) →
      setProperty.applyDefaults call.parameters = .ok parameters → Admitted call parameters setProperty
  | getProperty : call.name = GetProperty.name → call.parameters.HasText "id" →
      HasKeyPart call.parameters "property" → getProperty.applyDefaults call.parameters = .ok parameters →
      Admitted call parameters getProperty
  | transform : call.name = Transform.name → call.parameters.HasText "id" → HasOperation call.parameters →
      transform.applyDefaults call.parameters = .ok parameters → Admitted call parameters transform

theorem admitted_of_prepare {options : Options} {call : Call} {c : Command} {parameters : Parameters}
    (hp : (⟨.default, options⟩ : Executor).prepare call = .ok (c, parameters)) : Admitted call parameters c := by
  obtain ⟨hc, ha, -, hd⟩ := Executor.prepare_eq_ok_iff.1 hp
  have hbuiltin : Registry.default.get? call.name = some c := hc
  rw [Registry.get?_default] at hbuiltin
  split_ifs at hbuiltin with h1 h2 h3 h4 h5 <;> cases hbuiltin
  · obtain ⟨ht, hn, -, -⟩ := accepts_createElement_iff.1 ha
    exact .createElement h1 ht hn hd
  · exact .deleteElement h2 (accepts_deleteElement_iff.1 ha) hd
  · obtain ⟨hi, hproperty, hv⟩ := accepts_setProperty_iff.1 ha
    exact .setProperty h3 hi hproperty hv hd
  · obtain ⟨hi, hproperty⟩ := accepts_getProperty_iff.1 ha
    exact .getProperty h4 hi hproperty hd
  · obtain ⟨hi, ho, -⟩ := accepts_transform_iff.1 ha
    exact .transform h5 hi ho hd

/-! ## What is filled in -/

theorem default?_transform (name : String) :
    Transform.schema.default? name = if name ∈ axes then some (.number (.zero false)) else none := by
  split
  · next h =>
    simp only [axes, List.mem_cons, List.not_mem_nil, or_false] at h
    rcases h with rfl | rfl | rfl <;> rfl
  · next h =>
    simp only [axes, List.mem_cons, List.not_mem_nil, or_false, not_or] at h
    simp [Schema.default?, Transform.schema, idParameter, Ne.symm h.1, Ne.symm h.2.1, Ne.symm h.2.2]

theorem exists_fillAmounts (supplied : Parameters) :
    ∃ parameters, transform.applyDefaults supplied = .ok parameters := by
  have hfill : transform.applyDefaults supplied = Transform.fillAmounts supplied := rfl
  rw [hfill, Transform.fillAmounts]
  split <;> exact ⟨_, rfl⟩

/-- An omitted amount is one that changes nothing. -/
theorem get?_fillAmounts {operation : Operation} {parameters : Parameters}
    (ho : supplied.get? Transform.operationName = some (.text operation.name))
    (hd : transform.applyDefaults supplied = .ok parameters) (name : String) :
    parameters.get? name =
      (supplied.get? name).or (if name ∈ axes then some (.number operation.neutral) else none) := by
  have hfill : Transform.fillAmounts supplied = .ok parameters := hd
  rw [Transform.fillAmounts, ho] at hfill
  have hschema : operation.neutral = .zero false → Transform.schema.fill supplied = parameters →
      parameters.get? name =
        (supplied.get? name).or (if name ∈ axes then some (.number operation.neutral) else none) := by
    intro hneutral hparameters
    rw [← hparameters, Schema.get?_fill, default?_transform, hneutral]
  cases operation with
  | move => exact hschema rfl (Except.ok.inj hfill)
  | rotate => exact hschema rfl (Except.ok.inj hfill)
  | scale =>
    rw [if_pos rfl] at hfill
    cases hfill
    simp only [axes, List.foldl_cons, List.foldl_nil, OrderedMap.get?_insertAbsent, Option.or_assoc,
      List.mem_cons, List.not_mem_nil, or_false]
    by_cases hx : name = "x" <;> by_cases hy : name = "y" <;> by_cases hz : name = "z" <;> simp [hx, hy, hz]

/-! ## What is done -/

section

variable {s : Scene} {id property : String} {x y v : Value}

theorem run_createElement {type : String} (ht : supplied.get? "type" = some (.text type))
    (hn : supplied.get? "name" = some (.text id)) (hx : supplied.get? "x" = some x)
    (hy : supplied.get? "y" = some y) :
    createElement.run supplied s =
      if s.hasElement id then (refuse CreateElement.name s!"Element '{id}' already exists", s)
      else (.ok (.ok s!"Created {type} '{id}'" (.text id)),
        s.setProperties id (CreateElement.properties (.text type) (.text id) x y s.active)) := by
  have hrun : createElement.run supplied s = attempt s (CreateElement.create supplied s) := rfl
  rw [hrun]
  simp only [CreateElement.create, Parameters.fetch_eq_ok hn, ok_bind]
  cases h : s.hasElement id with
  | true =>
    simp only [Value.plain_text, h, if_true]
    rfl
  | false =>
    simp only [Value.plain_text, h, Bool.false_eq_true, if_false, Parameters.fetch_eq_ok ht,
      Parameters.fetch_eq_ok hx, Parameters.fetch_eq_ok hy, ok_bind]
    rfl

/-- Creating with the defaults filled in. -/
theorem exists_run_createElement {type : String} {parameters : Parameters}
    (ht : supplied.get? "type" = some (.text type)) (hn : supplied.get? "name" = some (.text id))
    (hd : createElement.applyDefaults supplied = .ok parameters) :
    ∃ x y, ∀ s : Scene, createElement.run parameters s =
      if s.hasElement id then (refuse CreateElement.name s!"Element '{id}' already exists", s)
      else (.ok (.ok s!"Created {type} '{id}'" (.text id)),
        s.setProperties id (CreateElement.properties (.text type) (.text id) x y s.active)) := by
  cases hd
  have hdx : CreateElement.schema.default? "x" = some (.number (.zero false)) := rfl
  have hdy : CreateElement.schema.default? "y" = some (.number (.zero false)) := rfl
  obtain ⟨x, hx⟩ := Schema.exists_get?_fill hdx supplied
  obtain ⟨y, hy⟩ := Schema.exists_get?_fill hdy supplied
  refine ⟨x, y, fun s => run_createElement ?_ ?_ hx hy⟩
  · exact Schema.get?_fill_of_some _ ht
  · exact Schema.get?_fill_of_some _ hn

theorem run_deleteElement (hi : supplied.get? "id" = some (.text id)) :
    deleteElement.run supplied s =
      if s.hasElement id then
        (.ok (.ok s!"Deleted element '{id}'" (.text id)), s.removeStarting (Scene.elementStem id))
      else (refuse DeleteElement.name s!"Element '{id}' does not exist", s) := by
  have hrun : deleteElement.run supplied s = attempt s (DeleteElement.delete supplied s) := rfl
  rw [hrun]
  simp only [DeleteElement.delete, Parameters.fetch_eq_ok hi, ok_bind, Value.plain_text]
  cases h : s.hasElement id with
  | false =>
    rw [requireElement_of_not_hasElement h]
    rfl
  | true =>
    rw [requireElement_of_hasElement h]
    rfl

theorem target_setProperty (hi : supplied.get? "id" = some (.text id))
    (hp : supplied.get? "property" = some (.text property)) (hv : supplied.get? "value" = some v) :
    SetProperty.target supplied s =
      if s.hasElement id then .ok (id, property, v)
      else refuse SetProperty.name s!"Element '{id}' does not exist" := by
  simp only [SetProperty.target, Parameters.fetchText_eq_ok hi, Parameters.fetchText_eq_ok hp, ok_bind]
  cases h : s.hasElement id with
  | false =>
    rw [requireElement_of_not_hasElement h]
    rfl
  | true =>
    rw [requireElement_of_hasElement h, ok_bind, Parameters.fetch_eq_ok hv, ok_bind]
    rfl

theorem run_setProperty (hi : supplied.get? "id" = some (.text id))
    (hp : supplied.get? "property" = some (.text property)) (hv : supplied.get? "value" = some v) :
    setProperty.run supplied s =
      if s.hasElement id then
        (v.shown.map fun shown => .ok s!"Set {id}.{property} = {shown}" v, s.setProperties id [(property, v)])
      else (refuse SetProperty.name s!"Element '{id}' does not exist", s) := by
  have hrun : setProperty.run supplied s = SetProperty.write supplied s := rfl
  rw [hrun, SetProperty.write, target_setProperty hi hp hv]
  cases s.hasElement id <;> rfl

theorem run_getProperty (hi : supplied.get? "id" = some (.text id))
    (hp : supplied.get? "property" = some (.text property)) :
    getProperty.run supplied s =
      (if s.hasElement id then
        match s.vars.get? (Scene.elementKey id property) with
        | none => refuse GetProperty.name s!"Element '{id}' has no property '{property}'"
        | some v => v.shown.map fun shown => .ok s!"{id}.{property} = {shown}" v
      else refuse GetProperty.name s!"Element '{id}' does not exist", s) := by
  have hrun : getProperty.run supplied s = attempt s (GetProperty.read supplied s) := rfl
  rw [hrun]
  simp only [GetProperty.read, Parameters.fetchText_eq_ok hi, Parameters.fetchText_eq_ok hp, ok_bind]
  cases h : s.hasElement id with
  | false =>
    rw [requireElement_of_not_hasElement h]
    rfl
  | true =>
    rw [requireElement_of_hasElement h, ok_bind]
    cases hv : s.vars.get? (Scene.elementKey id property) with
    | none => rfl
    | some v =>
      dsimp only
      cases v.shown <;> rfl

/-- What a transformation needs to know of an axis: the amount and the number that is there. -/
theorem update_eq_ok_iff {operation : Operation} {axis : String} {e : String × Value} :
    Transform.update operation id supplied s axis = .ok e ↔
      ∃ amount current change, supplied.fetch axis = .ok amount ∧
        Transform.readNumber s (Scene.elementKey id (operation.property axis)) operation.neutral = .ok current ∧
        Transform.amountOf amount = .ok change ∧
        e = (Scene.elementKey id (operation.property axis), .number (operation.combine current change)) := by
  simp only [Transform.update, bind_eq_ok_iff, pure_eq_ok_iff]
  constructor
  · rintro ⟨amount, ha, current, hc, change, hx, rfl⟩
    exact ⟨amount, current, change, ha, hc, hx, rfl⟩
  · rintro ⟨amount, current, change, ha, hc, hx, rfl⟩
    exact ⟨amount, ha, current, hc, change, hx, rfl⟩

theorem plan_transform {operation : Operation} (hi : supplied.get? "id" = some (.text id))
    (ho : supplied.get? Transform.operationName = some (.text operation.name)) :
    Transform.plan supplied s =
      if s.hasElement id then
        (axes.mapM (Transform.update operation id supplied s)).map fun updates => (id, operation.name, updates)
      else refuse Transform.name s!"Element '{id}' does not exist" := by
  have hof : Operation.ofName? operation.name = some operation := Operation.ofName?_eq_some_iff.2 rfl
  simp only [Transform.plan, Parameters.fetchText_eq_ok hi, Parameters.fetchText_eq_ok ho, ok_bind, hof,
    Option.getD_some]
  cases h : s.hasElement id with
  | false =>
    rw [requireElement_of_not_hasElement h]
    rfl
  | true =>
    rw [requireElement_of_hasElement h, ok_bind]
    cases axes.mapM (Transform.update operation id supplied s) <;> rfl

theorem run_transform {operation : Operation} (hi : supplied.get? "id" = some (.text id))
    (ho : supplied.get? Transform.operationName = some (.text operation.name)) :
    transform.run supplied s =
      if s.hasElement id then
        match axes.mapM (Transform.update operation id supplied s) with
        | .error f => (.error f, s)
        | .ok updates => (Transform.report id operation.name supplied, s.setAll updates)
      else (refuse Transform.name s!"Element '{id}' does not exist", s) := by
  have hrun : transform.run supplied s = Transform.apply supplied s := rfl
  rw [hrun, Transform.apply, plan_transform hi ho]
  cases s.hasElement id with
  | false => rfl
  | true => cases axes.mapM (Transform.update operation id supplied s) <;> rfl

/-- Transforming with the amounts filled in. -/
theorem run_transform_of_fill {operation : Operation} {parameters : Parameters}
    (hi : supplied.get? "id" = some (.text id))
    (ho : supplied.get? Transform.operationName = some (.text operation.name))
    (hd : transform.applyDefaults supplied = .ok parameters) (s : Scene) :
    transform.run parameters s =
      if s.hasElement id then
        match axes.mapM (Transform.update operation id parameters s) with
        | .error f => (.error f, s)
        | .ok updates => (Transform.report id operation.name parameters, s.setAll updates)
      else (refuse Transform.name s!"Element '{id}' does not exist", s) := by
  refine run_transform ?_ ?_
  · rw [get?_fillAmounts ho hd, hi, Option.some_or]
  · rw [get?_fillAmounts ho hd, ho, Option.some_or]

end

end Command

end SceneLang
