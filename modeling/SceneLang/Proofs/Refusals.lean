/-
What stops a command.

On values of the language, a built-in command either does what it is asked or meets an obstacle: the
element is there already, or is not there, or lacks the property, or its property is no number. The
four obstacles are errors of the language. Nothing else is raised on the way, neither by the checks
nor by the filling of defaults nor by the run, so no text fails with an internal error.

* `reported_of_raises`, `exists_raises_or_answers`: what is raised is reported, and where nothing is
  raised the command has the word.
* `answers_createElement` and its siblings: each command answers or meets an obstacle.
* `cause_of_raises`: what can be raised, for every invocation that supplies values of the language.
* `execute_raises_declared`: the same of texts, with the operations that could have been undefined.
-/
import SceneLang.Proofs.Failures
import SceneLang.Proofs.Numerals
import SceneLang.Proofs.Pipeline
import SceneLang.Proofs.Refinement

namespace SceneLang

open Command

/-- Whether all variables hold values that the language itself writes. -/
def Scene.Native (s : Scene) : Prop := ∀ e ∈ s.vars.entries, e.2.isNative = true

theorem Scene.Native.isNative_of_get? {s : Scene} (h : s.Native) {name : String} {v : Value}
    (hv : s.vars.get? name = some v) : v.isNative = true :=
  h _ (OrderedMap.mem_entries_of_get? hv)

/-- Whether a variable holds something that does not read as a number. -/
def Scene.NotNumeric (s : Scene) (key : String) : Prop :=
  ∃ v, s.vars.get? key = some v ∧ v.toNumber = .ok none

/-! ## What is raised -/

namespace Executor

/-- Whether a fault is raised by one of the four hooks of the command that an invocation calls. -/
inductive Raises (x : Executor) (invocation : Invocation) (s : Scene) (f : Fault) : Prop
  | validating {call c} : invocation.reading = .ok call → x.registry.get? call.name = some c →
      c.validate call.parameters = .error f → Raises x invocation s f
  | checking {call c} : invocation.reading = .ok call → x.registry.get? call.name = some c →
      c.Accepts call.parameters → x.strictCheck call c = .error f → Raises x invocation s f
  | filling {call c} : invocation.reading = .ok call → x.registry.get? call.name = some c →
      c.Accepts call.parameters → x.Checks call c → c.applyDefaults call.parameters = .error f →
      Raises x invocation s f
  | running {call c parameters} : invocation.reading = .ok call → x.Passes call c parameters →
      (c.run parameters s).1 = .error f → Raises x invocation s f

variable {x : Executor} {invocation : Invocation} {s : Scene} {f : Fault}

/-- What is raised decides the outcome: an error of the language is reported as it is, and any other
fault as an internal error. -/
theorem reported_of_raises (h : x.Raises invocation s f) :
    Reported invocation.commandName (.error f) (x.run invocation s).1 := by
  have hname : ∀ {call}, invocation.reading = .ok call → invocation.commandName = call.name := by
    intro call hcall
    rw [Invocation.commandName, hcall]
  cases h with
  | validating hcall hc hv =>
    rw [hname hcall, reported_error_iff, run_of_stops (.validating hcall hc hv (reported_error_iff.2 rfl))]
  | checking hcall hc ha hcheck =>
    obtain ⟨hs, hcause⟩ := strictCheck_eq_error_iff.1 hcheck
    rw [hname hcall, reported_error_iff,
      run_of_stops (.checking hcall hc ha hs hcause (reported_error_iff.2 rfl))]
  | filling hcall hc ha hcheck hd =>
    rw [hname hcall, reported_error_iff, run_of_stops (.filling hcall hc ha hcheck hd (reported_error_iff.2 rfl))]
  | running hcall hp hrun =>
    rw [hname hcall, ← hrun]
    exact (run_of_passes hcall hp s).1

/-- Where nothing is raised, the command has the word: it refuses what is supplied, or it runs. -/
theorem exists_raises_or_answers {call : Call} {c : Command} (hcall : invocation.reading = .ok call)
    (hc : x.registry.get? call.name = some c) (s : Scene) :
    (∃ f, x.Raises invocation s f) ∨
      (c.validate call.parameters = .ok (x.run invocation s).1 ∧ (x.run invocation s).1.isOk = false) ∨
      ∃ parameters, x.Passes call c parameters ∧ (c.run parameters s).1 = .ok (x.run invocation s).1 := by
  cases hp : x.prepare call with
  | error stopped =>
    have hstops := stops_of_prepare hcall hp
    have hrun : (x.run invocation s).1 = stopped := by rw [run_of_stops hstops]
    cases hstops with
    | rejected hr => rw [hcall] at hr; cases hr
    | unregistered hr hnone =>
      cases hcall.symm.trans hr
      rw [hc] at hnone
      cases hnone
    | refused hr hc' hv hrefused =>
      cases hcall.symm.trans hr
      cases hc.symm.trans hc'
      exact .inr (.inl ⟨by rw [hrun, hv], by rw [hrun, hrefused]⟩)
    | validating hr hc' hv => exact .inl ⟨_, .validating hr hc' hv⟩
    | checking hr hc' ha hs hcause =>
      exact .inl ⟨_, .checking hr hc' ha (strictCheck_eq_error_iff.2 ⟨hs, hcause⟩)⟩
    | filling hr hc' ha hcheck hd => exact .inl ⟨_, .filling hr hc' ha hcheck hd⟩
  | ok prepared =>
    obtain ⟨c', parameters⟩ := prepared
    have hpasses := passes_iff.2 hp
    cases hc.symm.trans hpasses.registered
    have hreported := (run_of_passes hcall hpasses s).1
    cases hanswer : (c.run parameters s).1 with
    | error f => exact .inl ⟨f, .running hcall hpasses hanswer⟩
    | ok outcome =>
      rw [hanswer, reported_iff] at hreported
      exact .inr (.inr ⟨parameters, hpasses, by rw [hanswer, hreported]⟩)

end Executor

/-! ## Obstacles -/

/-- What keeps a command from doing what it is asked to. -/
inductive Obstacle where
  /-- there is an element of the id already -/
  | taken (id : String)
  /-- there is no element of the id -/
  | missing (id : String)
  /-- the element lacks the property -/
  | noProperty (id property : String)
  /-- the variable holds nothing that reads as a number -/
  | notNumeric (key : String)

namespace Obstacle

/-- The obstacle in words. -/
def reason : Obstacle → String
  | taken id => s!"Element '{id}' already exists"
  | missing id => s!"Element '{id}' does not exist"
  | noProperty id property => s!"Element '{id}' has no property '{property}'"
  | notNumeric key => s!"Property '{key}' is not numeric and cannot be transformed"

/-- Whether an obstacle stands in the way of a call. -/
inductive Blocks (call : Call) (s : Scene) : Obstacle → Prop
  | taken {id} : call.name = "create_element" → call.parameters.get? "name" = some (.text id) →
      s.hasElement id = true → Blocks call s (.taken id)
  | missing {id} : call.name ∈ ["delete_element", "set_property", "get_property", "transform"] →
      call.parameters.get? "id" = some (.text id) → s.hasElement id = false → Blocks call s (.missing id)
  | noProperty {id property} : call.name = "get_property" → call.parameters.get? "id" = some (.text id) →
      call.parameters.get? "property" = some (.text property) → s.hasElement id = true →
      s.vars.get? (Scene.elementKey id property) = none → Blocks call s (.noProperty id property)
  | notNumeric {id axis} {operation : Operation} : call.name = "transform" →
      call.parameters.get? "id" = some (.text id) →
      call.parameters.get? "operation" = some (.text operation.name) → s.hasElement id = true → axis ∈ axes →
      s.NotNumeric (Scene.elementKey id (operation.property axis)) →
      Blocks call s (.notNumeric (Scene.elementKey id (operation.property axis)))

end Obstacle

namespace Command

/-- Whether a command does what a call asks for or meets an obstacle and says so. -/
def Answers (c : Command) (call : Call) (parameters : Parameters) (s : Scene) : Prop :=
  (∃ m v, (c.run parameters s).1 = .ok (.ok m v)) ∨
    ∃ obstacle : Obstacle, obstacle.Blocks call s ∧ (c.run parameters s).1 = refuse call.name obstacle.reason

variable {c : Command} {call : Call} {parameters : Parameters} {s : Scene} {id : String}

/-- What a command raises that answers is an obstacle. -/
theorem Answers.cause (h : c.Answers call parameters s) {f : Fault} (hrun : (c.run parameters s).1 = .error f) :
    ∃ obstacle : Obstacle, obstacle.Blocks call s ∧ f = .scene (.execution call.name obstacle.reason) := by
  rcases h with ⟨m, v, hok⟩ | ⟨obstacle, hblocks, hrefuse⟩
  · rw [hok] at hrun
    cases hrun
  · rw [hrefuse] at hrun
    cases hrun
    exact ⟨obstacle, hblocks, rfl⟩

/-- What a command returns that answers is no failure. -/
theorem Answers.kind?_eq_none (h : c.Answers call parameters s) {outcome : Outcome}
    (hrun : (c.run parameters s).1 = .ok outcome) : outcome.kind? = none := by
  rcases h with ⟨m, v, hok⟩ | ⟨obstacle, -, hrefuse⟩
  · rw [hok] at hrun
    cases hrun
    rfl
  · rw [hrefuse] at hrun
    cases hrun

/-! ### Command by command -/

theorem answers_createElement (hname : call.name = CreateElement.name) (ht : call.parameters.HasText "type")
    (hn : call.parameters.HasText "name") (hd : createElement.applyDefaults call.parameters = .ok parameters)
    (s : Scene) : createElement.Answers call parameters s := by
  obtain ⟨type, ht⟩ := ht
  obtain ⟨id, hn⟩ := hn
  obtain ⟨x, y, hrun⟩ := exists_run_createElement ht hn hd
  rw [Answers, hrun]
  cases hpresent : s.hasElement id with
  | true => exact .inr ⟨.taken id, .taken hname hn hpresent, by rw [hname]; rfl⟩
  | false => exact .inl ⟨_, _, rfl⟩

theorem answers_deleteElement (hname : call.name = DeleteElement.name) (hi : call.parameters.HasText "id")
    (hd : deleteElement.applyDefaults call.parameters = .ok parameters) (s : Scene) :
    deleteElement.Answers call parameters s := by
  cases hd
  obtain ⟨id, hi⟩ := hi
  rw [Answers, run_deleteElement (Schema.get?_fill_of_some _ hi)]
  cases hpresent : s.hasElement id with
  | true => exact .inl ⟨_, _, rfl⟩
  | false =>
    refine .inr ⟨.missing id, .missing ?_ hi hpresent, by rw [hname]; rfl⟩
    simp [hname, DeleteElement.name]

theorem answers_setProperty (hname : call.name = SetProperty.name) (hi : call.parameters.HasText "id")
    (hp : call.parameters.HasText "property")
    (hv : ∃ v, call.parameters.get? "value" = some v ∧ v.isNative = true)
    (hd : setProperty.applyDefaults call.parameters = .ok parameters) (s : Scene) :
    setProperty.Answers call parameters s := by
  cases hd
  obtain ⟨id, hi⟩ := hi
  obtain ⟨property, hp⟩ := hp
  obtain ⟨v, hv, hnative⟩ := hv
  rw [Answers, run_setProperty (Schema.get?_fill_of_some _ hi) (Schema.get?_fill_of_some _ hp)
    (Schema.get?_fill_of_some _ hv)]
  cases hpresent : s.hasElement id with
  | true =>
    obtain ⟨shown, hshown⟩ := Value.exists_shown hnative
    rw [hshown]
    exact .inl ⟨_, _, rfl⟩
  | false =>
    refine .inr ⟨.missing id, .missing ?_ hi hpresent, by rw [hname]; rfl⟩
    simp [hname, SetProperty.name]

theorem answers_getProperty (hname : call.name = GetProperty.name) (hi : call.parameters.HasText "id")
    (hp : call.parameters.HasText "property")
    (hd : getProperty.applyDefaults call.parameters = .ok parameters) (hs : s.Native) :
    getProperty.Answers call parameters s := by
  cases hd
  obtain ⟨id, hi⟩ := hi
  obtain ⟨property, hp⟩ := hp
  rw [Answers, run_getProperty (Schema.get?_fill_of_some _ hi) (Schema.get?_fill_of_some _ hp)]
  cases hpresent : s.hasElement id with
  | false =>
    refine .inr ⟨.missing id, .missing ?_ hi hpresent, by rw [hname]; rfl⟩
    simp [hname, GetProperty.name]
  | true =>
    cases hv : s.vars.get? (Scene.elementKey id property) with
    | none =>
      exact .inr ⟨.noProperty id property, .noProperty hname hi hp hpresent hv, by rw [hname]; rfl⟩
    | some v =>
      obtain ⟨shown, hshown⟩ := Value.exists_shown (hs.isNative_of_get? hv)
      simp only [if_true, hshown]
      exact .inl ⟨_, _, rfl⟩

/-! ### Transforming -/

theorem readNumber_of_native (hs : s.Native) (key : String) (fallback : Binary64) :
    (∃ x, Transform.readNumber s key fallback = .ok x) ∨
      s.NotNumeric key ∧
        Transform.readNumber s key fallback = refuse Transform.name (Obstacle.notNumeric key).reason := by
  unfold Transform.readNumber
  cases hv : s.vars.get? key with
  | none => exact .inl ⟨fallback, rfl⟩
  | some v =>
    obtain ⟨reading, hreading⟩ := Value.exists_toNumber (hs.isNative_of_get? hv)
    simp only [hreading]
    cases reading with
    | some x => exact .inl ⟨x, rfl⟩
    | none => exact .inr ⟨⟨v, hv, hreading⟩, rfl⟩

/-- Along one axis, a transformation with a number for an amount changes the property or finds it
not numeric. -/
theorem update_of_native {axis : String} {amount : Binary64} (hs : s.Native)
    (ha : parameters.get? axis = some (.number amount)) (operation : Operation) (id : String) :
    let key := Scene.elementKey id (operation.property axis)
    (∃ e, Transform.update operation id parameters s axis = .ok e) ∨
      s.NotNumeric key ∧ Transform.update operation id parameters s axis =
        refuse Transform.name (Obstacle.notNumeric key).reason := by
  intro key
  simp only [Transform.update, Parameters.fetch_eq_ok ha, ok_bind]
  rcases readNumber_of_native hs key operation.neutral with ⟨x, hx⟩ | ⟨hnumeric, hrefuse⟩
  · rw [hx]
    exact .inl ⟨_, rfl⟩
  · rw [hrefuse]
    exact .inr ⟨hnumeric, rfl⟩

/-- Along some axes, the first property that is not numeric stops it. -/
theorem updates_of_native {along : List String} (hs : s.Native)
    (ha : ∀ axis ∈ along, ∃ amount, parameters.get? axis = some (.number amount)) (operation : Operation)
    (id : String) :
    (∃ updates, along.mapM (Transform.update operation id parameters s) = .ok updates) ∨
      ∃ axis ∈ along, s.NotNumeric (Scene.elementKey id (operation.property axis)) ∧
        along.mapM (Transform.update operation id parameters s) = refuse Transform.name
          (Obstacle.notNumeric (Scene.elementKey id (operation.property axis))).reason := by
  induction along with
  | nil => exact .inl ⟨[], rfl⟩
  | cons axis along ih =>
    rw [List.forall_mem_cons] at ha
    obtain ⟨amount, hamount⟩ := ha.1
    rw [List.mapM_cons]
    rcases update_of_native hs hamount operation id with ⟨e, he⟩ | ⟨hnumeric, hrefuse⟩
    · rw [he, ok_bind]
      rcases ih ha.2 with ⟨updates, hupdates⟩ | ⟨later, hlater, hnumeric, hrefuse⟩
      · rw [hupdates]
        exact .inl ⟨_, rfl⟩
      · rw [hrefuse]
        exact .inr ⟨later, List.mem_cons_of_mem _ hlater, hnumeric, rfl⟩
    · rw [hrefuse]
      exact .inr ⟨axis, List.mem_cons_self .., hnumeric, rfl⟩

/-- Every amount is a number, supplied or filled in. -/
theorem exists_amount {supplied : Parameters} {operation : Operation} (hn : supplied.Native)
    (ha : transform.Accepts supplied) (ho : supplied.get? Transform.operationName = some (.text operation.name))
    (hd : transform.applyDefaults supplied = .ok parameters) :
    ∀ axis ∈ axes, ∃ amount, parameters.get? axis = some (.number amount) := by
  intro axis haxis
  obtain ⟨-, -, hx, hy, hz⟩ := accepts_transform_iff.1 ha
  have hmay : supplied.MayNumber axis := by
    simp only [axes, List.mem_cons, List.not_mem_nil, or_false] at haxis
    rcases haxis with rfl | rfl | rfl
    · exact hx
    · exact hy
    · exact hz
  obtain ⟨amount, hamount⟩ := (Parameters.exists_number?_iff hn operation.neutral).2 hmay
  exact ⟨amount, get?_fillAmounts_of_number? ho hd haxis hamount⟩

theorem answers_transform (hname : call.name = Transform.name) (hn : call.parameters.Native)
    (ha : transform.Accepts call.parameters) (hd : transform.applyDefaults call.parameters = .ok parameters)
    (hs : s.Native) : transform.Answers call parameters s := by
  obtain ⟨⟨id, hi⟩, ⟨operation, ho⟩, -⟩ := accepts_transform_iff.1 ha
  rw [Answers, run_transform_of_fill hi ho hd]
  cases hpresent : s.hasElement id with
  | false =>
    refine .inr ⟨.missing id, .missing ?_ hi hpresent, by rw [hname]; rfl⟩
    simp [hname, Transform.name]
  | true =>
    rcases updates_of_native hs (exists_amount hn ha ho hd) operation id with
      ⟨updates, hupdates⟩ | ⟨axis, haxis, hnumeric, hrefuse⟩
    · obtain ⟨m, hm⟩ := Transform.report_of_updates hupdates operation.name
      rw [hupdates]
      exact .inl ⟨m, .null, hm⟩
    · rw [hrefuse]
      refine .inr ⟨.notNumeric _, .notNumeric hname hi ho hpresent haxis hnumeric, ?_⟩
      rw [hname]
      rfl

end Command

/-! ## Any invocation -/

theorem Invocation.native_of_reading {invocation : Invocation} {call : Call}
    (hn : invocation.parameters.Native) (hcall : invocation.reading = .ok call) : call.parameters.Native := by
  rw [parameters, hcall] at hn
  exact hn

/-- Every command that is registered has its form. -/
theorem Form.exists_describes {name : String} {c : Command} (hc : Registry.default.get? name = some c) :
    ∃ form : Form, form.Describes c := by
  have hform := Form.describes_default name
  split at hform
  · rw [hc] at hform
    cases hform
  · next form _ =>
    obtain ⟨c', hc', hf⟩ := hform
    cases hc.symm.trans hc'
    exact ⟨form, hf⟩

/-- The parameters that become one part of a key, each with the command it belongs to. -/
def Command.keyParts : List (String × String) :=
  [("create_element", "name"), ("set_property", "property"), ("get_property", "property")]

/-- What is checked for dots is text, once what is supplied fits the schema. -/
theorem Command.hasText_of_keyParts {name parameter : String} {c : Command} {schema : Schema}
    {supplied : Parameters} (hmem : (name, parameter) ∈ keyParts) (hc : Registry.default.get? name = some c)
    (hschema : c.schema = .ok schema) (hfits : ∀ p ∈ schema, p.Fits supplied) : supplied.HasText parameter := by
  simp only [keyParts, List.mem_cons, Prod.mk.injEq, List.not_mem_nil, or_false] at hmem
  rw [Registry.get?_default] at hc
  rcases hmem with ⟨rfl, rfl⟩ | ⟨rfl, rfl⟩ | ⟨rfl, rfl⟩
  · cases hc
    cases hschema
    exact (fits_createElement_iff.1 hfits).2.1
  · cases hc
    cases hschema
    exact (fits_setProperty_iff.1 hfits).2.1
  · cases hc
    cases hschema
    exact (fits_getProperty_iff.1 hfits).2

namespace Executor

variable {options : Options} {invocation : Invocation} {call : Call} {c : Command} {parameters : Parameters}
  {s : Scene} {f : Fault}

/-- A call that no stage stops is answered or meets an obstacle. -/
theorem answers_of_passes (hn : call.parameters.Native) (hs : s.Native)
    (h : (builtin options).Passes call c parameters) : c.Answers call parameters s := by
  cases admitted_of_prepare (passes_iff.1 h) with
  | createElement hname ht hpart hd => exact answers_createElement hname ht hpart.hasText hd s
  | deleteElement hname hi hd => exact answers_deleteElement hname hi hd s
  | setProperty hname hi hproperty hv hd =>
    obtain ⟨v, hv⟩ := hv
    exact answers_setProperty hname hi hproperty.hasText ⟨v, hv, hn _ _ hv⟩ hd s
  | getProperty hname hi hproperty hd => exact answers_getProperty hname hi hproperty.hasText hd hs
  | transform hname _ _ hd => exact answers_transform hname hn h.accepted hd hs

/-- What an invocation that supplies values of the language can raise: a violation of the schema, or
an obstacle. -/
theorem cause_of_raises (hn : invocation.parameters.Native) (hs : s.Native)
    (h : (builtin options).Raises invocation s f) :
    ∃ call, invocation.reading = .ok call ∧
      ((∃ v : Violation, f = .scene (v.toSceneError call.name)) ∨
        ∃ obstacle : Obstacle, obstacle.Blocks call s ∧ f = .scene (.execution call.name obstacle.reason)) := by
  cases h with
  | @validating call c hcall hc hv =>
    have hnative := Invocation.native_of_reading hn hcall
    obtain ⟨form, hform⟩ := Form.exists_describes hc
    exact absurd hv ((hform.decides _ hnative).validate_ne_error f)
  | @checking call c hcall hc ha hcheck =>
    have hnative := Invocation.native_of_reading hn hcall
    obtain ⟨form, hform⟩ := Form.exists_describes hc
    obtain ⟨schema, hschema, -, -⟩ := hform.declared
    rcases strictCheck_eq_error_iff.1 hcheck with ⟨-, hnone | ⟨schema', -, hviolated⟩⟩
    · rw [hschema] at hnone
      cases hnone
    · obtain ⟨v, -, hf⟩ := (Schema.check_eq_error_iff hnative.hasKinds).1 hviolated
      exact ⟨call, hcall, .inl ⟨v, hf⟩⟩
  | @filling call c hcall hc ha hcheck hd =>
    have hnative := Invocation.native_of_reading hn hcall
    obtain ⟨form, hform⟩ := Form.exists_describes hc
    obtain ⟨request, hrequest⟩ := (hform.accepts _ hnative).1 ha
    obtain ⟨parameters, hfilled, -⟩ := hform.performs _ hnative request hrequest
    rw [hfilled] at hd
    cases hd
  | @running call c parameters hcall hpasses hrun =>
    have hanswers := answers_of_passes (Invocation.native_of_reading hn hcall) hs hpasses
    exact ⟨call, hcall, .inr (hanswers.cause hrun)⟩

/-- A failure to do what is asked says which obstacle is in the way. -/
theorem exists_obstacle (hn : invocation.parameters.Native) (hs : s.Native)
    (hr : ∀ r, invocation.reading = .error r → r.kind.getD .grammar ≠ .execution)
    (h : ((builtin options).run invocation s).1.kind? = some .execution) :
    ∃ call obstacle, invocation.reading = .ok call ∧ Obstacle.Blocks call s obstacle ∧
      ((builtin options).run invocation s).1 = .failure s!"{call.name}: {obstacle.reason}" .execution := by
  cases hreading : invocation.reading with
  | error r =>
    rw [run, hreading] at h
    exact absurd (Option.some.inj h) (hr r hreading)
  | ok call =>
    have hnative := Invocation.native_of_reading hn hreading
    cases hc : (builtin options).registry.get? call.name with
    | none =>
      rw [run_of_stops (.unregistered hreading hc)] at h
      cases h
    | some c =>
      rcases exists_raises_or_answers hreading hc s with
        ⟨f, hraises⟩ | ⟨hv, hrefused⟩ | ⟨parameters, hpasses, hrun⟩
      · obtain ⟨call', hcall', hcause⟩ := cause_of_raises hn hs hraises
        cases hreading.symm.trans hcall'
        have hreported := reported_error_iff.1 (reported_of_raises hraises)
        rcases hcause with ⟨v, rfl⟩ | ⟨obstacle, hblocks, rfl⟩
        · rw [hreported] at h
          cases h
        · exact ⟨call, obstacle, rfl, hblocks, hreported⟩
      · obtain ⟨form, hform⟩ := Form.exists_describes hc
        obtain ⟨m, hm⟩ := (hform.decides _ hnative).refusal hv hrefused
        rw [hm] at h
        cases h
      · rw [(answers_of_passes hnative hs hpasses).kind?_eq_none hrun] at h
        cases h

/-- A rejected text is rejected as a lexical or a grammatical error. -/
theorem kind_of_rejected (lenient : Bool) (text : String) (r : Rejection)
    (h : (Invocation.parse lenient text).reading = .error r) : r.kind.getD .grammar ≠ .execution := by
  rcases Invocation.parse_cases lenient text with
    ⟨tokens, call, -, hp⟩ | ⟨tokens, e, position, -, hp, hk⟩ | ⟨error, e, position, -, hp, hk⟩
  · rw [hp] at h
    cases h
  · rw [hp] at h
    cases h
    simp [hk]
  · rw [hp] at h
    cases h
    simp [hk]

/-- **No text fails with an internal error.** In a scene that holds nothing but values of the language,
whatever is raised while a text runs is an error of the language and is reported as it is. A failure
to do what is asked names one of the four obstacles, and that obstacle is there. None of the operations
that are not defined everywhere is used where it is not: only texts are searched for dots, number tokens
and the texts that count as numerals have a number, and only finite numbers are made whole. -/
theorem execute_raises_declared (options : Options) (text : String) (s : Scene) (hs : s.Native) :
    let invocation := Invocation.parse options.isLenient text
    let outcome := ((builtin options).execute text s).1
    (∀ f, (builtin options).Raises invocation s f → ∃ e, f = .scene e ∧ outcome = .ofError e) ∧
      (outcome.kind? = some .execution →
        ∃ call obstacle, invocation.reading = .ok call ∧ Obstacle.Blocks call s obstacle ∧
          outcome = .failure s!"{call.name}: {obstacle.reason}" .execution) ∧
      (∀ (call : Call) c schema parameter, (call.name, parameter) ∈ keyParts →
        (builtin options).registry.get? call.name = some c → c.schema = .ok schema →
          (∀ p ∈ schema, p.Fits call.parameters) → call.parameters.HasText parameter) ∧
      (∀ tokens, Token.tokenize text.toList = .ok tokens → ∀ t ∈ tokens, t.kind = .number →
        Numeral.readNumber? t.text = some (Numeral.value t.text.toList)) ∧
      (∀ content : String, Numeral.isNumeral content.toList = true →
        Numeral.readNumber? content = some (Numeral.value content.toList)) ∧
      ∀ x n, Binary64.toInt? x = some n → x.isFinite = true := by
  intro invocation outcome
  have hn : invocation.parameters.Native := Invocation.native_parse _ _
  refine ⟨fun f hraises => ?_, fun hfailure => ?_, ?_, ?_, ?_, ?_⟩
  · have hreported : outcome = faultOutcome invocation.commandName f :=
      reported_error_iff.1 (reported_of_raises hraises)
    obtain ⟨call, -, ⟨v, rfl⟩ | ⟨obstacle, -, rfl⟩⟩ := cause_of_raises hn hs hraises
    · exact ⟨_, rfl, hreported⟩
    · exact ⟨_, rfl, hreported⟩
  · exact exists_obstacle hn hs (kind_of_rejected options.isLenient text) hfailure
  · intro call c schema parameter hmem hc hschema hfits
    exact hasText_of_keyParts hmem hc hschema hfits
  · intro tokens htokens t ht hk
    exact Numeral.readNumber?_of_isNumeral (Numeral.isNumeral_of_tokenize htokens ht hk)
  · intro content hnumeral
    exact Numeral.readNumber?_of_isNumeral hnumeral
  · intro x n hx
    cases x with
    | finite => rfl
    | infinite | nan => cases hx

/-- A movement meets a property that is no number, among variables that no command would write. -/
theorem execute_raises_declared_far :
    let s := (({} : Scene).setProperties "c1" [("type", .text "cube"), ("y", .text "far")]).set "odd" (.number .nan)
    let text := "transform(id: 'c1', operation: 'move', x: 2)"
    s.Native ∧ ∃ call obstacle, (Invocation.parse true text).reading = .ok call ∧
      Obstacle.Blocks call s obstacle ∧ ((builtin {}).execute text s).1 =
        .failure (some s!"{call.name}: {obstacle.reason}") .execution := by
  intro s text
  have hs : s.Native := by
    unfold Scene.Native
    decide +kernel
  have hfailure : ((builtin {}).execute text s).1.kind? = some .execution := by decide +kernel
  exact ⟨hs, (execute_raises_declared {} text s hs).2.1 hfailure⟩

end Executor

end SceneLang
