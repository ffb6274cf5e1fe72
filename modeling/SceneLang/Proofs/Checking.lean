/-
What it takes to run a command.

A call runs if its command accepts what is supplied and, under strict options, every supplied name
is declared. Accepting is a matter of each declared parameter on its own, and of the further check
that some commands make. What a command runs with is what was supplied, with defaults for the rest.

* `fits_iff`: when a supplied or missing value fits a parameter.
* `accepts_standard_iff`, `accepts_requiring_iff`: acceptance, from the schema and the further check.
* `get?_fill`: what was supplied stays, and a default takes the place of what was not.
* `prepare_eq_ok_iff`: a call is prepared exactly if no stage stops it.
-/
import SceneLang.Executor

namespace SceneLang

/-! ## One parameter -/

/-- Whether what is supplied for a parameter, or that nothing is, fits it. -/
def Parameter.Fits (supplied : Parameters) (p : Parameter) : Prop := p.violation? supplied = .ok none

theorem Parameter.mismatch?_eq_none_iff {p : Parameter} {v : Value} :
    p.mismatch? v = .ok none ↔ p.type = .any ∨ ∃ k, v.kind? = some k ∧ p.type.accepts k = true := by
  unfold mismatch?
  split
  · next h => simp [h]
  · next h =>
    cases hk : v.kind? with
    | none => simp [Value.kind, hk, h]
    | some k => simp [Value.kind, hk, h]

theorem Parameter.fits_iff {supplied : Parameters} {p : Parameter} :
    p.Fits supplied ↔ (supplied.get? p.name = none → p.required = false) ∧
      ∀ v, supplied.get? p.name = some v →
        p.type = .any ∨ ∃ k, v.kind? = some k ∧ p.type.accepts k = true := by
  unfold Fits violation?
  cases h : supplied.get? p.name with
  | none => simp
  | some v => simp [mismatch?_eq_none_iff]

namespace Parameters

variable {supplied : Parameters} {name : String}

/-- Whether a text is supplied under a name. -/
def HasText (supplied : Parameters) (name : String) : Prop := ∃ s, supplied.get? name = some (.text s)

/-- Whether nothing but a number is supplied under a name. -/
def MayNumber (supplied : Parameters) (name : String) : Prop :=
  ∀ v, supplied.get? name = some v → v.kind? = some .number

end Parameters

theorem Value.kind?_eq_string_iff {v : Value} : v.kind? = some .string ↔ ∃ s, v = .text s := by
  cases v <;> simp [kind?]

theorem Parameter.fits_text_iff {supplied : Parameters} {p : Parameter} (ht : p.type = .string)
    (hr : p.required = true) : p.Fits supplied ↔ supplied.HasText p.name := by
  rw [fits_iff, ht, hr, Parameters.HasText]
  cases h : supplied.get? p.name with
  | none => simp
  | some v => simp [ParameterType.accepts, Value.kind?_eq_string_iff]

theorem Parameter.fits_number_iff {supplied : Parameters} {p : Parameter} (ht : p.type = .number)
    (hr : p.required = false) : p.Fits supplied ↔ supplied.MayNumber p.name := by
  rw [fits_iff, ht, hr, Parameters.MayNumber]
  simp [ParameterType.accepts]

theorem Parameter.fits_any_iff {supplied : Parameters} {p : Parameter} (ht : p.type = .any)
    (hr : p.required = true) : p.Fits supplied ↔ ∃ v, supplied.get? p.name = some v := by
  rw [fits_iff, ht, hr]
  cases h : supplied.get? p.name <;> simp

/-! ## A schema -/

namespace Schema

variable {schema : Schema} {supplied : Parameters}

theorem firstViolation?_eq_none_iff :
    firstViolation? supplied schema = .ok none ↔ ∀ p ∈ schema, p.Fits supplied := by
  induction schema with
  | nil => simp
  | cons p rest ih =>
    rw [firstViolation?_cons, List.forall_mem_cons, ← ih, Parameter.Fits]
    by_cases h : p.violation? supplied = .ok none <;> simp [h]

theorem undeclared?_eq_none_iff :
    schema.undeclared? supplied = none ↔ ∀ name ∈ supplied.keys, schema.declares name = true := by
  simp [undeclared?]

theorem check_eq_ok_iff {command : String} {strict : Bool} :
    schema.check command supplied strict = .ok () ↔
      (∀ p ∈ schema, p.Fits supplied) ∧
        (strict = true → ∀ name ∈ supplied.keys, schema.declares name = true) := by
  have hcheck : schema.check command supplied strict = .ok () ↔
      schema.violation? supplied strict = .ok none := by
    unfold check
    split <;> simp_all
  rw [hcheck, ← firstViolation?_eq_none_iff, ← undeclared?_eq_none_iff, violation?]
  split
  · next h => cases strict <;> simp [h]
  · next h => exact ⟨fun hv => absurd hv h, fun hv => absurd hv.1 h⟩

/-- The default of the first optional parameter of a name. -/
def default? (schema : Schema) (name : String) : Option Value :=
  (schema.find? fun p => p.name = name ∧ p.required = false).map (·.default)

/-- What was supplied stays, and the default takes the place of what was not. -/
theorem get?_fill (schema : Schema) (supplied : Parameters) (name : String) :
    (schema.fill supplied).get? name = (supplied.get? name).or (schema.default? name) := by
  induction schema generalizing supplied with
  | nil => simp [fill, default?]
  | cons p rest ih =>
    rw [fill, List.foldl_cons, ← fill, ih, fillOne, default?, default?, List.find?_cons]
    by_cases hr : p.required = true
    · simp [hr]
    · rw [Bool.not_eq_true] at hr
      rw [hr, Bool.or_false, OrderedMap.get?_insertAbsent]
      by_cases hn : p.name = name
      · subst hn
        simp
      · simp [hn, Ne.symm hn]

theorem get?_fill_of_some {name : String} {v : Value} (schema : Schema) (h : supplied.get? name = some v) :
    (schema.fill supplied).get? name = some v := by
  rw [get?_fill, h, Option.some_or]

theorem exists_get?_fill {name : String} {d : Value} (h : schema.default? name = some d)
    (supplied : Parameters) :
    ∃ v, (schema.fill supplied).get? name = some v := by
  rw [get?_fill, h]
  cases supplied.get? name with
  | none => exact ⟨d, rfl⟩
  | some v => exact ⟨v, rfl⟩

/-- A supplied name that is not declared is reported once all parameters fit. -/
theorem check_of_undeclared (command : String) (hf : ∀ p ∈ schema, p.Fits supplied)
    (h : ¬∀ name ∈ supplied.keys, schema.declares name = true) :
    ∃ e, schema.check command supplied true = .error (.scene e) ∧ e.kind = .validation := by
  obtain ⟨v, hv⟩ := Option.ne_none_iff_exists'.1 fun hu => h (undeclared?_eq_none_iff.1 hu)
  refine ⟨v.toSceneError command, ?_, rfl⟩
  simp only [check, violation?, firstViolation?_eq_none_iff.2 hf, if_true, hv]

end Schema

/-! ## Values with a kind -/

/-- Whether everything that is supplied has a kind; a list of a host has none. -/
def Parameters.HasKinds (supplied : Parameters) : Prop :=
  ∀ name v, supplied.get? name = some v → ∃ k, v.kind? = some k

/-- Whether nothing but values that the language itself writes is supplied. -/
def Parameters.Native (supplied : Parameters) : Prop :=
  ∀ name v, supplied.get? name = some v → v.isNative = true

theorem Parameters.Native.hasKinds {supplied : Parameters} (h : supplied.Native) : supplied.HasKinds := by
  intro name v hv
  have hnative := h name v hv
  cases v <;> simp_all [Value.isNative, Value.kind?]

theorem Parameter.exists_violation? {supplied : Parameters} (hk : supplied.HasKinds) (p : Parameter) :
    ∃ violation?, p.violation? supplied = .ok violation? := by
  unfold violation? mismatch?
  split
  · exact ⟨_, rfl⟩
  · next v hv =>
    obtain ⟨k, hkind⟩ := hk p.name v hv
    rw [Value.kind, hkind]
    split <;> exact ⟨_, rfl⟩

/-- What a check cannot decide is the kind of a value that has none. -/
theorem Parameter.exists_noKind {supplied : Parameters} {p : Parameter} {f : Fault}
    (h : p.violation? supplied = .error f) : ∃ v, f = .noKind v := by
  unfold violation? mismatch? at h
  split at h
  · cases h
  · next v _ =>
    split at h
    · cases h
    · cases hk : v.kind? <;> simp only [Value.kind, hk] at h <;> cases h
      exact ⟨v, rfl⟩

namespace Schema

variable {supplied : Parameters}

theorem exists_firstViolation? (hk : supplied.HasKinds) (schema : Schema) :
    ∃ violation?, firstViolation? supplied schema = .ok violation? := by
  induction schema with
  | nil => exact ⟨_, rfl⟩
  | cons p rest ih =>
    obtain ⟨violation?, h⟩ := p.exists_violation? hk
    rw [firstViolation?_cons, h]
    cases violation? with
    | none => exact ih
    | some v => exact ⟨_, rfl⟩

theorem exists_violation? (hk : supplied.HasKinds) (schema : Schema) (strict : Bool) :
    ∃ violation?, schema.violation? supplied strict = .ok violation? := by
  obtain ⟨first, h⟩ := schema.exists_firstViolation? hk
  rw [violation?, h]
  cases first <;> exact ⟨_, rfl⟩

/-- If everything supplied has a kind, a check can raise nothing but a violation. -/
theorem check_eq_error_iff {schema : Schema} {command : String} {strict : Bool} {f : Fault}
    (hk : supplied.HasKinds) : schema.check command supplied strict = .error f ↔
      ∃ v, schema.violation? supplied strict = .ok (some v) ∧ f = .scene (v.toSceneError command) := by
  obtain ⟨violation?, h⟩ := schema.exists_violation? hk strict
  cases violation? <;> simp [check, h, eq_comm]

theorem exists_noKind {schema : Schema} {f : Fault} (h : firstViolation? supplied schema = .error f) :
    ∃ v, f = .noKind v := by
  induction schema with
  | nil => cases h
  | cons p rest ih =>
    rw [firstViolation?_cons] at h
    split at h
    · exact ih h
    · exact Parameter.exists_noKind h

/-- An error of the language that a check raises is one of validation. -/
theorem kind_of_check {schema : Schema} {command : String} {strict : Bool} {e : SceneError}
    (h : schema.check command supplied strict = .error (.scene e)) : e.kind = .validation := by
  unfold check at h
  split at h
  · cases h
  · cases h
    rfl
  · next f hf =>
    cases h
    unfold violation? at hf
    split at hf
    · cases hf
    · obtain ⟨v, hv⟩ := exists_noKind hf
      cases hv

end Schema

/-! ## Commands -/

namespace Command

variable {c : Command} {supplied : Parameters}

/-- Whether a command accepts what is supplied. -/
def Accepts (c : Command) (supplied : Parameters) : Prop :=
  ∃ validation, c.validate supplied = .ok validation ∧ validation.isOk = true

theorem checkSchema_eq_ok_iff {name : String} {schema : Schema} :
    (∃ validation, checkSchema name (.ok schema) supplied = .ok validation ∧ validation.isOk = true) ↔
      ∀ p ∈ schema, p.Fits supplied := by
  have hcheck : schema.check name supplied false = .ok () ↔ ∀ p ∈ schema, p.Fits supplied := by
    simp [Schema.check_eq_ok_iff]
  rw [← hcheck]
  simp only [checkSchema, Except.bind]
  split
  · next h => simp [h]
  · next h => simp [h]
  · next h => simp [h]

theorem accepts_standard_iff {name description : String} {schema : Schema}
    {run : Parameters → Scene → Except Fault Outcome × Scene} :
    (standard name description (.ok schema) run).Accepts supplied ↔ ∀ p ∈ schema, p.Fits supplied :=
  checkSchema_eq_ok_iff

theorem accepts_requiring_iff {further : Parameters → Except Fault Outcome} :
    (c.requiring further).Accepts supplied ↔
      c.Accepts supplied ∧ ∃ validation, further supplied = .ok validation ∧ validation.isOk = true := by
  simp only [Accepts, requiring]
  cases c.validate supplied with
  | error f => simp
  | ok validation => cases hok : validation.isOk <;> simp [hok]

theorem requireKeyPart_eq {command name part : String} (h : supplied.get? name = some (.text part)) :
    requireKeyPart command name supplied = .ok (if isKeyPart part then .done
      else .failure s!"Parameter '{name}' of '{command}' must be non-empty and contain no '.'" .validation) := by
  rw [requireKeyPart, Parameters.fetchText_eq_ok h]
  rfl

/-- Whether a command accepts what is supplied or refuses it, without a fault. -/
def Decides (c : Command) (supplied : Parameters) : Prop :=
  c.Accepts supplied ∨ ∃ m, c.validate supplied = .ok (.failure m .validation)

theorem decides_standard {name description : String} {schema : Schema}
    {run : Parameters → Scene → Except Fault Outcome × Scene} (hn : supplied.Native) :
    (standard name description (.ok schema) run).Decides supplied := by
  obtain ⟨violation?, h⟩ := schema.exists_firstViolation? hn.hasKinds
  cases violation? with
  | none => exact .inl (accepts_standard_iff.2 (Schema.firstViolation?_eq_none_iff.1 h))
  | some v =>
    refine .inr ⟨(v.toSceneError name).message, ?_⟩
    simp only [standard, checkSchema, Except.bind, Schema.check, Schema.violation?, h]
    rfl

theorem decides_requiring {further : Parameters → Except Fault Outcome} (h : c.Decides supplied)
    (hf : c.Accepts supplied → (∃ validation, further supplied = .ok validation ∧ validation.isOk = true) ∨
      ∃ m, further supplied = .ok (.failure m .validation)) :
    (c.requiring further).Decides supplied := by
  rcases h with h | ⟨m, h⟩
  · rcases hf h with hok | ⟨m, hm⟩
    · exact .inl (accepts_requiring_iff.2 ⟨h, hok⟩)
    · obtain ⟨validation, hv, hok⟩ := h
      exact .inr ⟨m, by simp only [requiring, hv, hok, if_true, hm]⟩
  · exact .inr ⟨m, by simp only [requiring, h, Outcome.isOk_failure, Bool.false_eq_true, if_false]⟩

/-- What a command refuses that decides is reported as a failure of validation. -/
theorem Decides.refusal (h : c.Decides supplied) {validation : Outcome}
    (hv : c.validate supplied = .ok validation) (hrefused : validation.isOk = false) :
    ∃ m, validation = .failure m .validation := by
  rcases h with ⟨accepted, ha, hok⟩ | ⟨m, hm⟩
  · cases hv.symm.trans ha
    simp [hok] at hrefused
  · cases hv.symm.trans hm
    exact ⟨m, rfl⟩

/-- A command that decides does not fault over it. -/
theorem Decides.validate_ne_error (h : c.Decides supplied) (f : Fault) :
    c.validate supplied ≠ .error f := by
  rcases h with ⟨validation, hv, -⟩ | ⟨m, hm⟩
  · simp [hv]
  · simp [hm]

end Command

/-! ## Stages -/

namespace Executor

variable {x : Executor} {call : Call} {c : Command} {parameters : Parameters}

theorem ready_eq_ok_iff :
    x.ready call c = .ok parameters ↔
      c.Accepts call.parameters ∧ x.strictCheck call c = .ok () ∧
        c.applyDefaults call.parameters = .ok parameters := by
  unfold ready Command.Accepts
  cases hv : c.validate call.parameters with
  | error f => simp
  | ok validation =>
    cases hok : validation.isOk with
    | false => simp [hok]
    | true =>
      cases hs : x.strictCheck call c with
      | error f => simp [hok]
      | ok u => cases hd : c.applyDefaults call.parameters <;> simp [hok]

/-- A call is prepared exactly if no stage stops it. -/
theorem prepare_eq_ok_iff :
    x.prepare call = .ok (c, parameters) ↔
      x.registry.get? call.name = some c ∧ c.Accepts call.parameters ∧ x.strictCheck call c = .ok () ∧
        c.applyDefaults call.parameters = .ok parameters := by
  rw [← ready_eq_ok_iff, prepare]
  cases hc : x.registry.get? call.name with
  | none => simp
  | some d =>
    simp only [map_eq_ok_iff, Prod.mk.injEq, Option.some_inj]
    constructor
    · intro h
      obtain ⟨filled, hready, rfl, rfl⟩ := h
      exact ⟨rfl, hready⟩
    · intro h
      obtain ⟨rfl, hready⟩ := h
      exact ⟨parameters, hready, rfl, rfl⟩

/-! What stops the preparation of a call that is registered, stage by stage. -/

section

variable {f : Fault} (hc : x.registry.get? call.name = some c)

include hc

theorem prepare_of_faulted (hv : c.validate call.parameters = .error f) :
    x.prepare call = .error (faultOutcome call.name f) := by
  simp only [prepare, hc, ready, hv, Except.map]

theorem prepare_of_refused {validation : Outcome} (hv : c.validate call.parameters = .ok validation)
    (hrefused : validation.isOk = false) : x.prepare call = .error validation := by
  simp only [prepare, hc, ready, hv, hrefused, Bool.false_eq_true, if_false, Except.map]

theorem prepare_of_strictCheck (ha : c.Accepts call.parameters) (hs : x.strictCheck call c = .error f) :
    x.prepare call = .error (faultOutcome call.name f) := by
  obtain ⟨validation, hv, hok⟩ := ha
  simp only [prepare, hc, ready, hv, hok, if_true, hs, Except.map]

theorem prepare_of_unfilled (ha : c.Accepts call.parameters) (hs : x.strictCheck call c = .ok ())
    (hd : c.applyDefaults call.parameters = .error f) :
    x.prepare call = .error (faultOutcome call.name f) := by
  obtain ⟨validation, hv, hok⟩ := ha
  simp only [prepare, hc, ready, hv, hok, if_true, hs, hd, Except.map]

end

theorem strictCheck_eq_ok_iff {schema : Schema} (hs : c.schema = .ok schema) :
    x.strictCheck call c = .ok () ↔
      (x.options.isStrict = true → schema.check call.name call.parameters true = .ok ()) := by
  unfold strictCheck
  split
  · next h => simp [hs, h, Except.bind]
  · next h => simp [h]

/-- What stops a call is a failure. -/
theorem isOk_faultOutcome (command : String) (f : Fault) : (faultOutcome command f).isOk = false := by
  cases f <;> rfl

theorem isOk_of_prepare_error {outcome : Outcome} (h : x.prepare call = .error outcome) :
    outcome.isOk = false := by
  unfold prepare at h
  split at h
  · cases h
    rfl
  · next c hc =>
    cases hr : x.ready call c with
    | ok parameters => simp [hr, Except.map] at h
    | error o =>
      simp only [hr, Except.map, Except.error.injEq] at h
      subst h
      unfold ready at hr
      split at hr
      · cases hr
        exact isOk_faultOutcome _ _
      · split at hr
        · split at hr
          · cases hr
            exact isOk_faultOutcome _ _
          · split at hr <;> cases hr
            exact isOk_faultOutcome _ _
        · next hrefused =>
          cases hr
          exact Bool.eq_false_iff.2 hrefused

theorem run_of_reading {invocation : Invocation} (h : invocation.reading = .ok call) (s : Scene) :
    x.run invocation s = x.runCall call s := by
  rw [run, h]

/-- A call that is stopped changes nothing. -/
theorem runCall_of_stopped {outcome : Outcome} (h : x.prepare call = .error outcome) (s : Scene) :
    x.runCall call s = (outcome, s) := by
  simp only [runCall, h]

/-- A prepared call comes to what its command makes of it; a fault comes to a failure. -/
theorem runCall_of_prepare {s : Scene} (h : x.prepare call = .ok (c, parameters)) :
    x.runCall call s =
      (match (c.run parameters s).1 with
        | .ok outcome => outcome
        | .error f => faultOutcome call.name f,
      (c.run parameters s).2) := by
  simp only [runCall, h]
  split <;> simp_all

end Executor

end SceneLang
