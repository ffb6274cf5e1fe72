/-
Commands do what requests do.

A form describes a command if it reads a request off exactly the calls that the command accepts,
and the command does to any scene what the request does to the store that the scene represents. The
forms describe the built-in commands, so the request of a call says whether the call is stopped,
with which kind of error, and what comes of it if it is not.

* `performs_createElement` and its siblings: what each command does, as a request.
* `describes_default`: every built-in command has its form.
* `prepare_eq_ofCall`: a call is stopped or prepared as its request says.
-/
import SceneLang.Proofs.Representation

namespace SceneLang

open Command (Operation isKeyPart)

/-! ## What is supplied -/

namespace Parameters

variable {supplied : Parameters} {name : String}

theorem text?_eq_some_iff {s : String} :
    supplied.text? name = some s ↔ supplied.get? name = some (.text s) := by
  unfold text?
  cases h : supplied.get? name with
  | none => simp
  | some v => cases v <;> simp

theorem part?_eq_some_iff {s : String} :
    supplied.part? name = some s ↔ supplied.get? name = some (.text s) ∧ isKeyPart s = true := by
  rw [part?, Option.filter_eq_some_iff, text?_eq_some_iff]
  simp [isKeyPart]

theorem number?_eq_some_iff {omitted x : Binary64} :
    supplied.number? name omitted = some x ↔
      supplied.get? name = some (.number x) ∨ supplied.get? name = none ∧ omitted = x := by
  unfold number?
  cases h : supplied.get? name with
  | none => simp
  | some v => cases v <;> simp

theorem exists_number?_iff (hn : supplied.Native) (omitted : Binary64) :
    (∃ x, supplied.number? name omitted = some x) ↔ supplied.MayNumber name := by
  unfold number? MayNumber
  cases h : supplied.get? name with
  | none => simp
  | some v =>
    have hv := hn name v h
    cases v <;> simp_all [Value.isNative, Value.kind?]

/-- An omitted number is filled in as it is read. -/
theorem get?_fill_of_number? {schema : Schema} {omitted x : Binary64}
    (h : supplied.number? name omitted = some x) (hd : schema.default? name = some (.number omitted)) :
    (schema.fill supplied).get? name = some (.number x) := by
  rw [Schema.get?_fill]
  rcases number?_eq_some_iff.1 h with hx | ⟨hx, rfl⟩
  · rw [hx, Option.some_or]
  · rw [hx, Option.none_or, hd]

end Parameters

/-! ## What commands and requests do -/

/-- Whether a fault is a failure to do what is asked. -/
def Fault.IsExecution (f : Fault) : Prop :=
  ∀ command, (Executor.faultOutcome command f).answer = .refused .execution

theorem Value.exists_shown {v : Value} (h : v.isNative = true) : ∃ shown, v.shown = .ok shown := by
  cases v <;> simp_all [isNative, shown, format, toText, Except.map]

theorem Value.exists_toNumber {v : Value} (h : v.isNative = true) : ∃ reading, v.toNumber = .ok reading := by
  cases v <;> simp_all [isNative, toNumber]

/-- Whether a command does to scenes what a request does to the stores that they represent. -/
def Command.Performs (c : Command) (parameters : Parameters) (request : Request) : Prop :=
  ∀ s a, s.Represents a →
    match request.perform a with
    | none => ∃ f, c.run parameters s = (.error f, s) ∧ f.IsExecution
    | some (v, after) => ∃ m s', c.run parameters s = (.ok (.ok m v), s') ∧ s'.Represents after

/-- Whether a command accepts exactly what a form reads as a request, declares the names of the
form, and does what the request does. -/
structure Form.Describes (f : Form) (c : Command) : Prop where
  declared : ∃ schema, c.schema = .ok schema ∧ (∀ name, schema.declares name = true ↔ name ∈ f.names) ∧
    ∀ supplied, c.Accepts supplied → ∀ p ∈ schema, p.Fits supplied
  decides : ∀ supplied, supplied.Native → c.Decides supplied
  accepts : ∀ supplied, supplied.Native → (c.Accepts supplied ↔ ∃ r, f.read? supplied = some r)
  performs : ∀ supplied, supplied.Native → ∀ r, f.read? supplied = some r →
    ∃ parameters, c.applyDefaults supplied = .ok parameters ∧ c.Performs parameters r

namespace Command

variable {supplied parameters : Parameters} {id property type : String} {x y z : Binary64} {v : Value}

theorem initial_eq (type id : String) (x y : Binary64) (active : Option String) :
    CreateElement.properties (.text type) (.text id) (.number x) (.number y) active =
      Element.initial type id x y active := by
  cases active <;> rfl

theorem initial_sound (type id : String) (x y : Binary64) (active : Option String) :
    ∀ p ∈ Element.initial type id x y active, isKeyPart p.1 = true ∧ p.2.isNative = true := by
  cases active <;> simp [Element.initial, isKeyPart, Value.isNative]

theorem performs_createElement (ht : parameters.get? "type" = some (.text type))
    (hi : parameters.get? "name" = some (.text id)) (hk : isKeyPart id = true)
    (hx : parameters.get? "x" = some (.number x)) (hy : parameters.get? "y" = some (.number y)) :
    createElement.Performs parameters (.create type id x y) := by
  intro s a h
  rw [run_createElement ht hi hx hy, h.hasElement_eq, h.active, initial_eq, Request.perform,
    OrderedMap.contains_eq_isSome]
  cases he : a.elements.get? id with
  | some e => exact ⟨_, rfl, fun _ => rfl⟩
  | none => exact ⟨_, _, rfl, h.create he hk (initial_sound type id x y a.active)⟩

theorem performs_deleteElement (hi : parameters.get? "id" = some (.text id)) :
    deleteElement.Performs parameters (.delete id) := by
  intro s a h
  rw [run_deleteElement hi, h.hasElement_eq, Request.perform, OrderedMap.contains_eq_isSome]
  cases he : a.elements.get? id with
  | none => exact ⟨_, rfl, fun _ => rfl⟩
  | some e => exact ⟨_, _, rfl, h.delete id⟩

theorem performs_setProperty (hi : parameters.get? "id" = some (.text id))
    (hp : parameters.get? "property" = some (.text property)) (hk : isKeyPart property = true)
    (hv : parameters.get? "value" = some v) (hn : v.isNative = true) :
    setProperty.Performs parameters (.set id property v) := by
  intro s a h
  rw [run_setProperty hi hp hv, h.hasElement_eq, Request.perform]
  cases he : a.elements.get? id with
  | none => exact ⟨_, rfl, fun _ => rfl⟩
  | some e =>
    obtain ⟨shown, hshown⟩ := Value.exists_shown hn
    rw [hshown]
    exact ⟨_, _, rfl, h.write he (by simp [hk, hn])⟩

theorem performs_getProperty (hi : parameters.get? "id" = some (.text id))
    (hp : parameters.get? "property" = some (.text property)) :
    getProperty.Performs parameters (.get id property) := by
  intro s a h
  rw [run_getProperty hi hp, h.hasElement_eq, h.get?_elementKey, Request.perform]
  cases he : a.elements.get? id with
  | none => exact ⟨_, rfl, fun _ => rfl⟩
  | some e =>
    cases hv : e.get? property with
    | none =>
      simp only [Option.bind_eq_bind, Option.bind_some, Option.isSome_some, if_true, hv, Option.bind_none]
      exact ⟨_, rfl, fun _ => rfl⟩
    | some v =>
      obtain ⟨shown, hshown⟩ := Value.exists_shown ((h.sound id e he).2.named property v hv).2
      simp only [Option.bind_eq_bind, Option.bind_some, Option.isSome_some, if_true, hv, hshown]
      exact ⟨_, _, rfl, h⟩

/-! ### Transforming -/

/-- An omitted amount is filled in as it is read. -/
theorem get?_fillAmounts_of_number? {operation : Operation} {axis : String} {amount : Binary64}
    (ho : supplied.get? Transform.operationName = some (.text operation.name))
    (hd : transform.applyDefaults supplied = .ok parameters) (haxis : axis ∈ axes)
    (h : supplied.number? axis operation.neutral = some amount) :
    parameters.get? axis = some (.number amount) := by
  rw [get?_fillAmounts ho hd, if_pos haxis]
  rcases Parameters.number?_eq_some_iff.1 h with hsupplied | ⟨hsupplied, rfl⟩
  · rw [hsupplied, Option.some_or]
  · rw [hsupplied, Option.none_or]

/-- A number is read off a variable as it is read off the property. -/
theorem readNumber_eq {s : Scene} {key : String} {e : Element} (h : s.vars.get? key = e.get? property)
    (hn : ∀ v, e.get? property = some v → v.isNative = true) (absent : Binary64) :
    match e.reading? property absent with
    | none => ∃ f, Transform.readNumber s key absent = .error f ∧ f.IsExecution
    | some x => Transform.readNumber s key absent = .ok x := by
  unfold Element.reading? Transform.readNumber
  rw [h]
  cases hv : e.get? property with
  | none => rfl
  | some v =>
    obtain ⟨reading, hr⟩ := Value.exists_toNumber (hn v hv)
    simp only [hr]
    cases reading with
    | none => exact ⟨_, rfl, fun _ => rfl⟩
    | some x => rfl

/-- The transformation that an operation is. -/
def Operation.transformation : Operation → Transformation
  | .move => .move
  | .rotate => .rotate
  | .scale => .scale

theorem Operation.ofName?_transformation (name : String) :
    Transformation.ofName? name = (Operation.ofName? name).map transformation := by
  unfold Transformation.ofName?
  split
  · rfl
  · rfl
  · rfl
  · next hmove hrotate hscale =>
    have hnone : Operation.ofName? name = none := by
      refine Option.eq_none_iff_forall_ne_some.2 fun operation h => ?_
      rw [Operation.ofName?_eq_some_iff] at h
      cases operation with
      | move => exact hmove h
      | rotate => exact hrotate h
      | scale => exact hscale h
    rw [hnone, Option.map_none]

theorem Operation.absent_transformation (operation : Operation) :
    operation.transformation.absent = operation.neutral := by
  cases operation <;> rfl

variable {s : Scene} {a : Store} {e : Element}

theorem update_eq (operation : Operation) (h : s.Represents a) (he : a.elements.get? id = some e)
    {axis : String} {amount : Binary64} (hp : parameters.get? axis = some (.number amount)) :
    match e.reading? (operation.property axis) operation.neutral with
    | none => ∃ f, Transform.update operation id parameters s axis = .error f ∧ f.IsExecution
    | some current => Transform.update operation id parameters s axis =
        .ok (Scene.elementKey id (operation.property axis), .number (operation.combine current amount)) := by
  have hkey : s.vars.get? (Scene.elementKey id (operation.property axis)) =
      e.get? (operation.property axis) := by
    rw [h.get?_elementKey, he]
    rfl
  have hread := readNumber_eq hkey (fun v hv => ((h.sound id e he).2.named _ v hv).2) operation.neutral
  cases hr : e.reading? (operation.property axis) operation.neutral with
  | none =>
    rw [hr] at hread
    obtain ⟨f, hf, hx⟩ := hread
    refine ⟨f, ?_, hx⟩
    simp only [Transform.update, Parameters.fetch_eq_ok hp, ok_bind, hf, error_bind]
  | some current =>
    rw [hr] at hread
    simp only [Transform.update, Parameters.fetch_eq_ok hp, ok_bind, hread]
    rfl

/-- What the properties along some axes become, in the scene and in the store. -/
theorem updates_eq (operation : Operation) (h : s.Represents a) (he : a.elements.get? id = some e)
    (along : List (String × Binary64))
    (ha : ∀ p ∈ along, p.1 ∈ axes ∧ parameters.get? p.1 = some (.number p.2)) :
    match along.mapM fun p => (e.reading? (operation.property p.1) operation.neutral).map fun current =>
        (operation.property p.1, Value.number (operation.combine current p.2)) with
    | none => ∃ f, (along.map (·.1)).mapM (Transform.update operation id parameters s) = .error f ∧
        f.IsExecution
    | some updates => (along.map (·.1)).mapM (Transform.update operation id parameters s) =
          .ok (updates.map fun u => (Scene.elementKey id u.1, u.2)) ∧
        ∀ u ∈ updates, isKeyPart u.1 = true ∧ u.2.isNative = true := by
  induction along with
  | nil => exact ⟨rfl, by simp⟩
  | cons first rest ih =>
    rw [List.forall_mem_cons] at ha
    have hfirst := update_eq operation h he ha.1.2
    have hrest := ih ha.2
    rw [List.mapM_cons, List.map_cons, List.mapM_cons]
    cases hr : e.reading? (operation.property first.1) operation.neutral with
    | none =>
      rw [hr] at hfirst
      obtain ⟨f, hf, hx⟩ := hfirst
      exact ⟨f, by rw [hf]; rfl, hx⟩
    | some current =>
      rw [hr] at hfirst
      rw [hfirst]
      split at hrest
      · next hnone =>
        obtain ⟨f, hf, hx⟩ := hrest
        rw [hnone, hf]
        exact ⟨f, rfl, hx⟩
      · next updates hsome =>
        rw [hsome, hrest.1]
        exact ⟨rfl, List.forall_mem_cons.2 ⟨⟨isKeyPart_property operation ha.1.1, rfl⟩, hrest.2⟩⟩

theorem family_updates_eq (operation : Operation) (e : Element) (x y z : Binary64) :
    operation.transformation.updates e [x, y, z] = [("x", x), ("y", y), ("z", z)].mapM fun p =>
      (e.reading? (operation.property p.1) operation.neutral).map fun current =>
        (operation.property p.1, Value.number (operation.combine current p.2)) := by
  cases operation <;> rfl

theorem exists_report (hx : parameters.get? "x" = some (.number x))
    (hy : parameters.get? "y" = some (.number y)) (hz : parameters.get? "z" = some (.number z))
    (id operation : String) :
    ∃ m, Transform.report id operation parameters = .ok (.ok m .null) := by
  have hamounts : axes.mapM (fun axis => parameters.fetch axis) = .ok [.number x, .number y, .number z] := by
    simp only [axes, List.mapM_cons, List.mapM_nil, Parameters.fetch_eq_ok hx, Parameters.fetch_eq_ok hy,
      Parameters.fetch_eq_ok hz, ok_bind, pure_bind]
    rfl
  rw [Transform.report, hamounts]
  exact ⟨_, rfl⟩

theorem performs_transform {operation : Operation} (hi : parameters.get? "id" = some (.text id))
    (ho : parameters.get? Transform.operationName = some (.text operation.name))
    (hx : parameters.get? "x" = some (.number x)) (hy : parameters.get? "y" = some (.number y))
    (hz : parameters.get? "z" = some (.number z)) :
    transform.Performs parameters (.transform operation.transformation id x y z) := by
  intro s a h
  rw [run_transform hi ho, h.hasElement_eq, Request.perform]
  cases he : a.elements.get? id with
  | none => exact ⟨_, rfl, fun _ => rfl⟩
  | some e =>
    have hamounts : ∀ p ∈ [("x", x), ("y", y), ("z", z)],
        p.1 ∈ axes ∧ parameters.get? p.1 = some (.number p.2) := by
      simp [axes, hx, hy, hz]
    have hupdates := updates_eq operation h he _ hamounts
    rw [← family_updates_eq] at hupdates
    have haxes : [("x", x), ("y", y), ("z", z)].map (·.1) = axes := rfl
    rw [haxes] at hupdates
    simp only [Option.bind_eq_bind, Option.bind_some, Option.isSome_some, if_true]
    cases hu : operation.transformation.updates e [x, y, z] with
    | none =>
      rw [hu] at hupdates
      obtain ⟨f, hf, hexec⟩ := hupdates
      exact ⟨f, by rw [hf], hexec⟩
    | some updates =>
      rw [hu] at hupdates
      obtain ⟨m, hm⟩ := exists_report hx hy hz id operation.name
      rw [hupdates.1]
      exact ⟨m, _, by rw [← hm]; rfl, h.write he hupdates.2⟩

end Command

/-! ## Forms and commands -/

namespace Form

open Command Parameters

variable {supplied : Parameters}

theorem exists_text?_iff {name : String} : (∃ s, supplied.text? name = some s) ↔ supplied.HasText name := by
  simp only [text?_eq_some_iff, HasText]

theorem exists_part?_iff {name : String} : (∃ s, supplied.part? name = some s) ↔ HasKeyPart supplied name := by
  simp only [part?_eq_some_iff, HasKeyPart]

theorem decides_requireKeyPart {c : Command} {command name : String} (h : c.Decides supplied)
    (ht : c.Accepts supplied → supplied.HasText name) :
    (c.requiring (requireKeyPart command name)).Decides supplied := by
  refine decides_requiring h fun ha => ?_
  obtain ⟨part, hpart⟩ := ht ha
  rw [requireKeyPart_eq hpart]
  cases isKeyPart part with
  | true => exact .inl ⟨_, rfl, rfl⟩
  | false => exact .inr ⟨_, rfl⟩

theorem createElement_read? {r : Request} :
    Form.createElement.read? supplied = some r ↔
      ∃ type, supplied.text? "type" = some type ∧ ∃ id, supplied.part? "name" = some id ∧
        ∃ x, supplied.number? "x" (.zero false) = some x ∧ ∃ y, supplied.number? "y" (.zero false) = some y ∧
          Request.create type id x y = r := by
  simp [Form.createElement, Option.bind_eq_some_iff]

theorem describes_createElement : Form.createElement.Describes Command.createElement where
  declared := by
    refine ⟨CreateElement.schema, rfl, fun name => ?_, fun supplied h => ?_⟩
    · simp [Schema.declares, CreateElement.schema, Form.createElement, eq_comm (a := name)]
    · exact accepts_standard_iff.1 (accepts_requiring_iff.1 h).1
  decides supplied hn := by
    exact decides_requireKeyPart (decides_standard hn)
      fun h => (fits_createElement_iff.1 (accepts_standard_iff.1 h)).2.1
  accepts supplied hn := by
    simp only [createElement_read?, accepts_createElement_iff, ← exists_text?_iff, ← exists_part?_iff,
      ← exists_number?_iff hn (.zero false)]
    constructor
    · intro h
      obtain ⟨⟨type, ht⟩, ⟨id, hi⟩, ⟨x, hx⟩, ⟨y, hy⟩⟩ := h
      exact ⟨_, type, ht, id, hi, x, hx, y, hy, rfl⟩
    · intro h
      obtain ⟨r, type, ht, id, hi, x, hx, y, hy, -⟩ := h
      exact ⟨⟨type, ht⟩, ⟨id, hi⟩, ⟨x, hx⟩, ⟨y, hy⟩⟩
  performs supplied hn r hr := by
    obtain ⟨type, ht, id, hi, x, hx, y, hy, rfl⟩ := createElement_read?.1 hr
    obtain ⟨hi, hk⟩ := part?_eq_some_iff.1 hi
    refine ⟨_, rfl, performs_createElement ?_ ?_ hk ?_ ?_⟩
    · exact Schema.get?_fill_of_some _ (text?_eq_some_iff.1 ht)
    · exact Schema.get?_fill_of_some _ hi
    · exact get?_fill_of_number? hx rfl
    · exact get?_fill_of_number? hy rfl

theorem describes_deleteElement : Form.deleteElement.Describes Command.deleteElement where
  declared := by
    refine ⟨DeleteElement.schema, rfl, fun name => ?_, fun supplied h => accepts_standard_iff.1 h⟩
    simp [Schema.declares, DeleteElement.schema, idParameter, Form.deleteElement, eq_comm (a := name)]
  decides supplied hn := decides_standard hn
  accepts supplied hn := by
    simp only [accepts_deleteElement_iff, ← exists_text?_iff, Form.deleteElement, Option.map_eq_some_iff]
    constructor
    · intro h
      obtain ⟨id, hi⟩ := h
      exact ⟨_, id, hi, rfl⟩
    · intro h
      obtain ⟨r, id, hi, -⟩ := h
      exact ⟨id, hi⟩
  performs supplied hn r hr := by
    obtain ⟨id, hi, rfl⟩ := Option.map_eq_some_iff.1 hr
    exact ⟨_, rfl, performs_deleteElement (Schema.get?_fill_of_some _ (text?_eq_some_iff.1 hi))⟩

theorem setProperty_read? {r : Request} :
    Form.setProperty.read? supplied = some r ↔
      ∃ id, supplied.text? "id" = some id ∧ ∃ property, supplied.part? "property" = some property ∧
        ∃ v, supplied.get? "value" = some v ∧ Request.set id property v = r := by
  simp [Form.setProperty, Option.bind_eq_some_iff]

theorem describes_setProperty : Form.setProperty.Describes Command.setProperty where
  declared := by
    refine ⟨SetProperty.schema, rfl, fun name => ?_, fun supplied h => ?_⟩
    · simp [Schema.declares, SetProperty.schema, idParameter, Form.setProperty, eq_comm (a := name)]
    · exact accepts_standard_iff.1 (accepts_requiring_iff.1 h).1
  decides supplied hn := by
    exact decides_requireKeyPart (decides_standard hn)
      fun h => (fits_setProperty_iff.1 (accepts_standard_iff.1 h)).2.1
  accepts supplied hn := by
    simp only [setProperty_read?, accepts_setProperty_iff, ← exists_text?_iff, ← exists_part?_iff]
    constructor
    · intro h
      obtain ⟨⟨id, hi⟩, ⟨property, hp⟩, ⟨v, hv⟩⟩ := h
      exact ⟨_, id, hi, property, hp, v, hv, rfl⟩
    · intro h
      obtain ⟨r, id, hi, property, hp, v, hv, -⟩ := h
      exact ⟨⟨id, hi⟩, ⟨property, hp⟩, ⟨v, hv⟩⟩
  performs supplied hn r hr := by
    obtain ⟨id, hi, property, hp, v, hv, rfl⟩ := setProperty_read?.1 hr
    obtain ⟨hp, hk⟩ := part?_eq_some_iff.1 hp
    refine ⟨_, rfl, performs_setProperty ?_ ?_ hk ?_ (hn _ _ hv)⟩
    · exact Schema.get?_fill_of_some _ (text?_eq_some_iff.1 hi)
    · exact Schema.get?_fill_of_some _ hp
    · exact Schema.get?_fill_of_some _ hv

theorem getProperty_read? {r : Request} :
    Form.getProperty.read? supplied = some r ↔
      ∃ id, supplied.text? "id" = some id ∧ ∃ property, supplied.part? "property" = some property ∧
        Request.get id property = r := by
  simp [Form.getProperty, Option.bind_eq_some_iff]

theorem describes_getProperty : Form.getProperty.Describes Command.getProperty where
  declared := by
    refine ⟨GetProperty.schema, rfl, fun name => ?_, fun supplied h => ?_⟩
    · simp [Schema.declares, GetProperty.schema, idParameter, Form.getProperty, eq_comm (a := name)]
    · exact accepts_standard_iff.1 (accepts_requiring_iff.1 h).1
  decides supplied hn := by
    exact decides_requireKeyPart (decides_standard hn)
      fun h => (fits_getProperty_iff.1 (accepts_standard_iff.1 h)).2
  accepts supplied hn := by
    simp only [getProperty_read?, accepts_getProperty_iff, ← exists_text?_iff, ← exists_part?_iff]
    constructor
    · intro h
      obtain ⟨⟨id, hi⟩, ⟨property, hp⟩⟩ := h
      exact ⟨_, id, hi, property, hp, rfl⟩
    · intro h
      obtain ⟨r, id, hi, property, hp, -⟩ := h
      exact ⟨⟨id, hi⟩, ⟨property, hp⟩⟩
  performs supplied hn r hr := by
    obtain ⟨id, hi, property, hp, rfl⟩ := getProperty_read?.1 hr
    obtain ⟨hp, -⟩ := part?_eq_some_iff.1 hp
    refine ⟨_, rfl, performs_getProperty ?_ ?_⟩
    · exact Schema.get?_fill_of_some _ (text?_eq_some_iff.1 hi)
    · exact Schema.get?_fill_of_some _ hp

theorem transformation?_eq_some_iff {t : Transformation} :
    (supplied.text? "operation").bind Transformation.ofName? = some t ↔
      ∃ operation : Operation, supplied.get? Transform.operationName = some (.text operation.name) ∧
        operation.transformation = t := by
  simp only [Option.bind_eq_some_iff, text?_eq_some_iff, Operation.ofName?_transformation,
    Option.map_eq_some_iff, Operation.ofName?_eq_some_iff]
  constructor
  · intro h
    obtain ⟨name, hname, operation, rfl, ht⟩ := h
    exact ⟨operation, hname, ht⟩
  · intro h
    obtain ⟨operation, ho, ht⟩ := h
    exact ⟨operation.name, ho, operation, rfl, ht⟩

theorem transform_read? {r : Request} :
    Form.transform.read? supplied = some r ↔
      ∃ id, supplied.text? "id" = some id ∧
        ∃ operation : Operation, supplied.get? Transform.operationName = some (.text operation.name) ∧
          ∃ x, supplied.number? "x" operation.neutral = some x ∧
            ∃ y, supplied.number? "y" operation.neutral = some y ∧
              ∃ z, supplied.number? "z" operation.neutral = some z ∧
                Request.transform operation.transformation id x y z = r := by
  have hread : Form.transform.read? supplied = some r ↔ ∃ id, supplied.text? "id" = some id ∧
      ∃ t, (supplied.text? "operation").bind Transformation.ofName? = some t ∧
        ∃ x, supplied.number? "x" t.absent = some x ∧ ∃ y, supplied.number? "y" t.absent = some y ∧
          ∃ z, supplied.number? "z" t.absent = some z ∧ Request.transform t id x y z = r := by
    simp [Form.transform, Option.bind_eq_some_iff]
  simp only [hread, transformation?_eq_some_iff]
  constructor
  · intro h
    obtain ⟨id, hi, -, ⟨operation, ho, rfl⟩, h⟩ := h
    rw [Operation.absent_transformation] at h
    exact ⟨id, hi, operation, ho, h⟩
  · intro h
    obtain ⟨id, hi, operation, ho, h⟩ := h
    rw [← Operation.absent_transformation] at h
    exact ⟨id, hi, _, ⟨operation, ho, rfl⟩, h⟩

theorem decides_transform (hn : supplied.Native) : Command.transform.Decides supplied := by
  have h : ((standard Transform.name "Apply transformation to an element" (.ok Transform.schema)
      Transform.apply).requiring Transform.requireOperation).Decides supplied := by
    refine decides_requiring (decides_standard hn) fun ha => ?_
    obtain ⟨name, hname⟩ := (fits_transform_iff.1 (accepts_standard_iff.1 ha)).2.1
    obtain ⟨m, hm⟩ := exists_requireOperation_eq hname
    rw [hm]
    cases (Operation.ofName? name).isSome with
    | true => exact .inl ⟨_, rfl, rfl⟩
    | false => exact .inr ⟨_, rfl⟩
  exact h

theorem describes_transform : Form.transform.Describes Command.transform where
  declared := by
    refine ⟨Transform.schema, rfl, fun name => ?_, fun supplied h => (accepts_transform_iff_fits.1 h).1⟩
    simp [Schema.declares, Transform.schema, idParameter, Form.transform, eq_comm (a := name)]
  decides supplied hn := decides_transform hn
  accepts supplied hn := by
    simp only [accepts_transform_iff, transform_read?, HasOperation, ← exists_text?_iff]
    constructor
    · intro h
      obtain ⟨⟨id, hi⟩, ⟨operation, ho⟩, hx, hy, hz⟩ := h
      obtain ⟨x, hx⟩ := (exists_number?_iff hn operation.neutral).2 hx
      obtain ⟨y, hy⟩ := (exists_number?_iff hn operation.neutral).2 hy
      obtain ⟨z, hz⟩ := (exists_number?_iff hn operation.neutral).2 hz
      exact ⟨_, id, hi, operation, ho, x, hx, y, hy, z, hz, rfl⟩
    · intro h
      obtain ⟨r, id, hi, operation, ho, x, hx, y, hy, z, hz, -⟩ := h
      exact ⟨⟨id, hi⟩, ⟨operation, ho⟩, (exists_number?_iff hn _).1 ⟨x, hx⟩,
        (exists_number?_iff hn _).1 ⟨y, hy⟩, (exists_number?_iff hn _).1 ⟨z, hz⟩⟩
  performs supplied hn r hr := by
    obtain ⟨id, hi, operation, ho, x, hx, y, hy, z, hz, rfl⟩ := transform_read?.1 hr
    obtain ⟨parameters, hd⟩ := exists_fillAmounts supplied
    refine ⟨parameters, hd, performs_transform ?_ ?_ ?_ ?_ ?_⟩
    · rw [get?_fillAmounts ho hd, text?_eq_some_iff.1 hi, Option.some_or]
    · rw [get?_fillAmounts ho hd, ho, Option.some_or]
    · exact get?_fillAmounts_of_number? ho hd (by decide) hx
    · exact get?_fillAmounts_of_number? ho hd (by decide) hy
    · exact get?_fillAmounts_of_number? ho hd (by decide) hz

/-- Every command has its form, and every form its command. -/
theorem describes_default (name : String) :
    match Form.all.lookup name with
    | none => Registry.default.get? name = none
    | some f => ∃ c, Registry.default.get? name = some c ∧ f.Describes c := by
  simp only [Form.all, OrderedMap.lookup_cons, List.lookup_nil]
  split_ifs with h1 h2 h3 h4 h5
  · subst h1
    exact ⟨_, rfl, describes_createElement⟩
  · subst h2
    exact ⟨_, rfl, describes_deleteElement⟩
  · subst h3
    exact ⟨_, rfl, describes_setProperty⟩
  · subst h4
    exact ⟨_, rfl, describes_getProperty⟩
  · subst h5
    exact ⟨_, rfl, describes_transform⟩
  · rw [Registry.get?_default]
    exact (if_neg h1).trans ((if_neg h2).trans ((if_neg h3).trans ((if_neg h4).trans (if_neg h5))))

end Form

/-! ## Calls -/

namespace Executor

variable {options : Options} {call : Call} {c : Command} {f : Form}

/-- A call that its form reads as no request is refused. -/
theorem prepare_of_no_request (hc : (builtin options).registry.get? call.name = some c) (hf : f.Describes c)
    (hn : call.parameters.Native) (hr : f.read? call.parameters = none) :
    ∃ outcome, (builtin options).prepare call = .error outcome ∧ outcome.answer = .refused .validation := by
  have hnot : ¬c.Accepts call.parameters := by
    rw [hf.accepts _ hn, hr]
    simp
  obtain ⟨m, hm⟩ := (hf.decides _ hn).resolve_left hnot
  exact ⟨.failure m .validation, prepare_of_refused hc hm rfl, rfl⟩

/-- Under strict options a call with a name that its form does not have is refused. -/
theorem prepare_of_undeclared (hc : (builtin options).registry.get? call.name = some c) (hf : f.Describes c)
    (ha : c.Accepts call.parameters) (hs : options.isStrict = true)
    (hu : call.parameters.keys.any (· ∉ f.names) = true) :
    ∃ outcome, (builtin options).prepare call = .error outcome ∧ outcome.answer = .refused .validation := by
  obtain ⟨schema, hschema, hnames, hfits⟩ := hf.declared
  have hnot : ¬∀ name ∈ call.parameters.keys, schema.declares name = true := by
    simpa [hnames] using hu
  obtain ⟨e, he, hk⟩ := Schema.check_of_undeclared call.name (hfits _ ha) hnot
  have hopt : (builtin options).options.isStrict = true := hs
  have hstrict : (builtin options).strictCheck call c = .error (.scene e) := by
    simp only [strictCheck, hopt, if_true, hschema, Except.bind, he]
  refine ⟨.ofError e, prepare_of_strictCheck hc ha hstrict, ?_⟩
  rw [Outcome.ofError, hk]
  rfl

/-- Any other call is prepared for its request. -/
theorem prepare_of_request {request : Request} (hc : (builtin options).registry.get? call.name = some c)
    (hf : f.Describes c) (hn : call.parameters.Native) (hr : f.read? call.parameters = some request)
    (hs : ¬(options.isStrict && call.parameters.keys.any (· ∉ f.names)) = true) :
    ∃ parameters, (builtin options).prepare call = .ok (c, parameters) ∧ c.Performs parameters request := by
  obtain ⟨schema, hschema, hnames, hfits⟩ := hf.declared
  have ha : c.Accepts call.parameters := (hf.accepts _ hn).2 ⟨request, hr⟩
  obtain ⟨parameters, hd, hp⟩ := hf.performs _ hn request hr
  refine ⟨parameters, prepare_eq_ok_iff.2 ⟨hc, ha, ?_, hd⟩, hp⟩
  rw [strictCheck_eq_ok_iff hschema]
  intro hstrict
  refine Schema.check_eq_ok_iff.2 ⟨hfits _ ha, fun _ => ?_⟩
  have hopt : options.isStrict = true := hstrict
  simpa [hopt, hnames] using hs

/-- A call is stopped or prepared as its request says. -/
theorem prepare_eq_ofCall (options : Options) (call : Call) (hn : call.parameters.Native) :
    match Request.ofCall options.isStrict call with
    | .error kind => ∃ outcome, (builtin options).prepare call = .error outcome ∧ outcome.answer = .refused kind
    | .ok request => ∃ c parameters, (builtin options).prepare call = .ok (c, parameters) ∧
        c.Performs parameters request := by
  have hform := Form.describes_default call.name
  unfold Request.ofCall
  cases hlookup : Form.all.lookup call.name with
  | none =>
    rw [hlookup] at hform
    have hc : (builtin options).registry.get? call.name = none := hform
    exact ⟨.ofError (.unknownCommand call.name), by simp only [prepare, hc], rfl⟩
  | some f =>
    rw [hlookup] at hform
    obtain ⟨c, hget, hf⟩ := hform
    have hc : (builtin options).registry.get? call.name = some c := hget
    dsimp only
    cases hr : f.read? call.parameters with
    | none => exact prepare_of_no_request hc hf hn hr
    | some request =>
      dsimp only
      by_cases hs : (options.isStrict && call.parameters.keys.any (· ∉ f.names)) = true
      · rw [if_pos hs]
        rw [Bool.and_eq_true] at hs
        exact prepare_of_undeclared hc hf ((hf.accepts _ hn).2 ⟨request, hr⟩) hs.1 hs.2
      · rw [if_neg hs]
        exact ⟨c, prepare_of_request hc hf hn hr hs⟩

end Executor

end SceneLang
