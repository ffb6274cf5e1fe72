/-
What a built-in command depends on.

A built-in command looks at what is supplied through the names it declares and through nothing else:
every one of its hooks gives the same answer, or parameters that agree on these names, for supplied
parameters that agree on them (`Command.GoesBy`). So names that are not declared, and the order in
which names are supplied, make no difference to what a call comes to. Strict options look at all
names, but pass or stop a call whatever their order is; only the name that they report goes by it.

* `Parameters.AgreeOn`: the same values under some names.
* `Command.goesBy_of_mem_builtins`: the built-in commands go by the names they declare.
* `Executor.run_of_agreeOn`: what two calls come to that agree, or that have the same parameters in
  another order.
-/
import SceneLang.Proofs.Builtins
import SceneLang.Proofs.Session

namespace SceneLang

/-! ## The same values under some names -/

/-- The names that a schema declares. -/
def Schema.names (schema : Schema) : List String := schema.map (·.name)

namespace Parameters

/-- Whether the same is supplied under each of some names, or nothing twice. -/
def AgreeOn (names : List String) (p q : Parameters) : Prop := ∀ name ∈ names, p.get? name = q.get? name

instance (names : List String) (p q : Parameters) : Decidable (AgreeOn names p q) :=
  inferInstanceAs (Decidable (∀ name ∈ names, _))

variable {names : List String} {p q : Parameters}

theorem AgreeOn.fetch (h : AgreeOn names p q) (name : String) (hn : name ∈ names) :
    p.fetch name = q.fetch name := by
  rw [Parameters.fetch, h name hn, ← Parameters.fetch]

theorem AgreeOn.fetchText (h : AgreeOn names p q) (name : String) (hn : name ∈ names) :
    p.fetchText name = q.fetchText name := by
  rw [Parameters.fetchText, h.fetch name hn, ← Parameters.fetchText]

/-- Filling a gap keeps agreement, since there is a gap in both or in neither. -/
theorem AgreeOn.insertAbsent (h : AgreeOn names p q) (key : String) (value : Value) :
    AgreeOn names (if p.contains key then p else p.insert key value)
      (if q.contains key then q else q.insert key value) := by
  intro name hn
  rw [OrderedMap.get?_insertAbsent, OrderedMap.get?_insertAbsent, h name hn]

theorem AgreeOn.foldl_insertAbsent (h : AgreeOn names p q) (keys : List String) (value : Value) :
    AgreeOn names (keys.foldl (fun filled key => if filled.contains key then filled else filled.insert key value) p)
      (keys.foldl (fun filled key => if filled.contains key then filled else filled.insert key value) q) := by
  induction keys generalizing p q with
  | nil => exact h
  | cons key rest ih => exact ih (h.insertAbsent key value)

/-- Parameters in another order have the same values under all names. -/
theorem agreeOn_of_perm (h : p.entries.Perm q.entries) (names : List String) : AgreeOn names p q := by
  have hsub : ∀ {p q : Parameters}, p.entries.Perm q.entries →
      ∀ name v, p.get? name = some v → q.get? name = some v :=
    fun hperm _ _ hv => OrderedMap.get?_of_mem_entries (hperm.subset (OrderedMap.mem_entries_of_get? hv))
  intro name _
  exact Option.ext fun v => ⟨hsub h name v, hsub h.symm name v⟩

end Parameters

open Parameters

/-! ## Checking and filling -/

namespace Schema

variable {schema : Schema} {names : List String} {p q : Parameters}

theorem violation?_of_agreeOn (h : AgreeOn names p q) {declared : Parameter} (hn : declared.name ∈ names) :
    declared.violation? p = declared.violation? q := by
  rw [Parameter.violation?, Parameter.violation?, h _ hn]

theorem firstViolation?_of_agreeOn (h : AgreeOn schema.names p q) :
    firstViolation? p schema = firstViolation? q schema := by
  induction schema with
  | nil => rfl
  | cons declared rest ih =>
    obtain ⟨hfirst, hrest⟩ := List.forall_mem_cons.1 h
    rw [firstViolation?_cons, firstViolation?_cons, violation?_of_agreeOn h (List.mem_cons_self ..), ih hrest]

theorem check_of_agreeOn (h : AgreeOn schema.names p q) (command : String) :
    schema.check command p false = schema.check command q false := by
  simp only [check, violation?, firstViolation?_of_agreeOn h, Bool.false_eq_true, if_false]

theorem exists_undeclared {v : Violation} (h : schema.undeclared? p = some v) :
    ∃ name, (name ∈ p.keys ∧ schema.declares name = false) ∧ v = ⟨name, .undeclared⟩ := by
  obtain ⟨name, hfind, rfl⟩ := Option.map_eq_some_iff.1 h
  exact ⟨name, ⟨List.mem_of_find?_eq_some hfind, by simpa using List.find?_some hfind⟩, rfl⟩

/-- Strict checking passes or stops parameters whatever their order is, and stops them at a violation
that does not go by it or at a name that is not declared. -/
theorem check_of_perm (h : p.entries.Perm q.entries) (command : String) :
    schema.check command p true = schema.check command q true ∨
      ∃ m n, (m ∈ p.keys ∧ schema.declares m = false) ∧ (n ∈ q.keys ∧ schema.declares n = false) ∧
        schema.check command p true = .error (.scene (Violation.toSceneError command ⟨m, .undeclared⟩)) ∧
        schema.check command q true = .error (.scene (Violation.toSceneError command ⟨n, .undeclared⟩)) := by
  have hfirst := firstViolation?_of_agreeOn (agreeOn_of_perm h schema.names)
  have hkeys : p.keys.Perm q.keys := h.map _
  have hnone : schema.undeclared? p = none ↔ schema.undeclared? q = none := by
    rw [undeclared?_eq_none_iff, undeclared?_eq_none_iff]
    exact forall_congr' fun name => imp_congr_left hkeys.mem_iff
  simp only [check, violation?, hfirst, if_true]
  cases firstViolation? q schema with
  | error f => exact .inl rfl
  | ok violation =>
    cases violation with
    | some v => exact .inl rfl
    | none =>
      cases hp : schema.undeclared? p with
      | none => exact .inl (by rw [hnone.1 hp])
      | some v =>
        obtain ⟨w, hq⟩ := Option.ne_none_iff_exists'.1 fun hq => by simp [hnone.2 hq] at hp
        obtain ⟨m, hm, rfl⟩ := exists_undeclared hp
        obtain ⟨n, hn, rfl⟩ := exists_undeclared hq
        exact .inr ⟨m, n, hm, hn, rfl, by rw [hq]⟩

theorem fill_of_agreeOn (h : AgreeOn names p q) (schema : Schema) :
    AgreeOn names (schema.fill p) (schema.fill q) := by
  intro name hn
  rw [get?_fill, get?_fill, h name hn]

end Schema

/-! ## Commands -/

namespace Command

/-- A command that looks at what is supplied through some names alone. -/
structure GoesBy (c : Command) (names : List String) : Prop where
  validate {p q} : AgreeOn names p q → c.validate p = c.validate q
  applyDefaults {p q} : AgreeOn names p q →
    ∃ p' q', c.applyDefaults p = .ok p' ∧ c.applyDefaults q = .ok q' ∧ AgreeOn names p' q'
  run {p q} : AgreeOn names p q → c.run p = c.run q

variable {c : Command} {names : List String}

/-- The checking and filling that follow from a schema go by the names it declares. -/
theorem goesBy_standard {name description : String} {schema : Schema}
    {run : Parameters → Scene → Except Fault Outcome × Scene}
    (h : ∀ {p q}, AgreeOn schema.names p q → run p = run q) :
    (standard name description (.ok schema) run).GoesBy schema.names where
  validate hpq := by
    simp only [standard, checkSchema, Except.bind, Schema.check_of_agreeOn hpq]
  applyDefaults hpq := ⟨_, _, rfl, rfl, Schema.fill_of_agreeOn hpq schema⟩
  run := h

theorem GoesBy.requiring {further : Parameters → Except Fault Outcome} (hc : c.GoesBy names)
    (h : ∀ {p q}, AgreeOn names p q → further p = further q) : (c.requiring further).GoesBy names where
  validate hpq := by simp only [Command.requiring, hc.validate hpq, h hpq]
  applyDefaults := hc.applyDefaults
  run := hc.run

theorem requireKeyPart_of_agreeOn {p q : Parameters} (h : AgreeOn names p q) (command : String) {name : String}
    (hn : name ∈ names) : requireKeyPart command name p = requireKeyPart command name q := by
  rw [requireKeyPart, h.fetchText name hn, ← requireKeyPart]

theorem goesBy_createElement : createElement.GoesBy CreateElement.schema.names := by
  refine (goesBy_standard fun {p q} h => ?_).requiring fun h => requireKeyPart_of_agreeOn h _ (by decide)
  funext s
  rw [CreateElement.create, h.fetch "name" (by decide), h.fetch "type" (by decide),
    h.fetch "x" (by decide), h.fetch "y" (by decide), ← CreateElement.create]

theorem goesBy_deleteElement : deleteElement.GoesBy DeleteElement.schema.names := by
  refine goesBy_standard fun {p q} h => ?_
  funext s
  rw [DeleteElement.delete, h.fetch "id" (by decide), ← DeleteElement.delete]

theorem goesBy_setProperty : setProperty.GoesBy SetProperty.schema.names := by
  refine (goesBy_standard fun {p q} h => ?_).requiring fun h => requireKeyPart_of_agreeOn h _ (by decide)
  funext s
  have htarget : SetProperty.target p s = SetProperty.target q s := by
    rw [SetProperty.target, h.fetchText "id" (by decide), h.fetchText "property" (by decide),
      h.fetch "value" (by decide), ← SetProperty.target]
  rw [SetProperty.write, htarget, ← SetProperty.write]

theorem goesBy_getProperty : getProperty.GoesBy GetProperty.schema.names := by
  refine (goesBy_standard fun {p q} h => ?_).requiring fun h => requireKeyPart_of_agreeOn h _ (by decide)
  funext s
  rw [GetProperty.read, h.fetchText "id" (by decide), h.fetchText "property" (by decide), ← GetProperty.read]

namespace Transform

variable {p q : Parameters}

theorem requireOperation_of_agreeOn (h : AgreeOn schema.names p q) : requireOperation p = requireOperation q := by
  rw [requireOperation, h.fetch operationName (by decide), ← requireOperation]

/-- The amounts that are omitted are filled in for both, as the operation that both name asks for. -/
theorem fillAmounts_of_agreeOn (h : AgreeOn schema.names p q) :
    ∃ p' q', fillAmounts p = .ok p' ∧ fillAmounts q = .ok q' ∧ AgreeOn schema.names p' q' := by
  have hoperation := h operationName (by decide)
  unfold fillAmounts
  rw [hoperation]
  split
  · exact ⟨_, _, rfl, rfl, h.foldl_insertAbsent axes (.number Operation.scale.neutral)⟩
  · exact ⟨_, _, rfl, rfl, Schema.fill_of_agreeOn h schema⟩

theorem mapM_congr {α β : Type} {f g : α → Except Fault β} {items : List α} (h : ∀ a ∈ items, f a = g a) :
    items.mapM f = items.mapM g := by
  induction items with
  | nil => rfl
  | cons a rest ih =>
    obtain ⟨hfirst, hrest⟩ := List.forall_mem_cons.1 h
    rw [List.mapM_cons, List.mapM_cons, hfirst, ih hrest]

theorem mem_names_of_mem_axes {axis : String} (h : axis ∈ axes) : axis ∈ schema.names := by
  simp only [axes, List.mem_cons, List.not_mem_nil, or_false] at h
  rcases h with rfl | rfl | rfl <;> decide

theorem plan_of_agreeOn (h : AgreeOn schema.names p q) (s : Scene) : plan p s = plan q s := by
  have hupdate : ∀ operation id, axes.mapM (update operation id p s) = axes.mapM (update operation id q s) := by
    intro operation id
    refine mapM_congr fun axis haxis => ?_
    rw [update, h.fetch axis (mem_names_of_mem_axes haxis), ← update]
  rw [plan, h.fetchText "id" (by decide), h.fetchText operationName (by decide)]
  simp only [hupdate]
  rw [← plan]

theorem report_of_agreeOn (h : AgreeOn schema.names p q) (id operation : String) :
    report id operation p = report id operation q := by
  have hamounts : (axes.mapM fun axis => p.fetch axis) = axes.mapM fun axis => q.fetch axis :=
    mapM_congr fun axis haxis => h.fetch axis (mem_names_of_mem_axes haxis)
  rw [report, hamounts, ← report]

end Transform

theorem goesBy_transform : transform.GoesBy Transform.schema.names := by
  have hrun : ∀ {p q : Parameters}, AgreeOn Transform.schema.names p q →
      Transform.apply p = Transform.apply q := by
    intro p q h
    funext s
    simp only [Transform.apply, Transform.plan_of_agreeOn h, Transform.report_of_agreeOn h]
  have hchecked : ((standard Transform.name "Apply transformation to an element" (.ok Transform.schema)
      Transform.apply).requiring Transform.requireOperation).GoesBy Transform.schema.names :=
    (goesBy_standard hrun).requiring Transform.requireOperation_of_agreeOn
  exact ⟨hchecked.validate, Transform.fillAmounts_of_agreeOn, hrun⟩

/-- The built-in commands go by the names they declare. -/
theorem goesBy_of_mem_builtins {c : Command} {schema : Schema} (hc : c ∈ Registry.builtins)
    (hs : c.schema = .ok schema) : c.GoesBy schema.names := by
  simp only [Registry.builtins, List.mem_cons, List.not_mem_nil, or_false] at hc
  rcases hc with rfl | rfl | rfl | rfl | rfl <;> cases hs
  · exact goesBy_createElement
  · exact goesBy_deleteElement
  · exact goesBy_setProperty
  · exact goesBy_getProperty
  · exact goesBy_transform

end Command

theorem Registry.get?_of_mem_builtins {c : Command} (hc : c ∈ Registry.builtins) :
    Registry.default.get? c.listing = some c := by
  simp only [Registry.builtins, List.mem_cons, List.not_mem_nil, or_false] at hc
  rcases hc with rfl | rfl | rfl | rfl | rfl <;> rfl

/-! ## Calls -/

namespace Executor

variable {x : Executor} {c : Command} {schema : Schema} {name : String} {p q : Parameters}

/-- What two calls are prepared to that agree, if strict checking tells no more of them apart. -/
theorem prepare_of_agreeOn {names : List String} (hget : x.registry.get? name = some c)
    (hc : c.GoesBy names) (h : AgreeOn names p q)
    (hstrict : c.Accepts q → x.strictCheck ⟨name, p⟩ c = x.strictCheck ⟨name, q⟩ c) :
    (∃ outcome, x.prepare ⟨name, p⟩ = .error outcome ∧ x.prepare ⟨name, q⟩ = .error outcome) ∨
      ∃ p' q', x.prepare ⟨name, p⟩ = .ok (c, p') ∧ x.prepare ⟨name, q⟩ = .ok (c, q') ∧
        AgreeOn names p' q' := by
  obtain ⟨p', q', hp, hq, hfilled⟩ := hc.applyDefaults h
  simp only [prepare, hget, ready, hc.validate h, hp, hq]
  cases hv : c.validate q with
  | error f => exact .inl ⟨_, rfl, rfl⟩
  | ok validation =>
    cases hok : validation.isOk with
    | false => exact .inl ⟨validation, by simp [hok, Except.map], by simp [hok, Except.map]⟩
    | true =>
      simp only [hok, if_true, hstrict ⟨validation, hv, hok⟩]
      cases x.strictCheck ⟨name, q⟩ c with
      | error f => exact .inl ⟨_, rfl, rfl⟩
      | ok u => exact .inr ⟨p', q', rfl, rfl, hfilled⟩

theorem runCall_of_agreeOn {names : List String} (hget : x.registry.get? name = some c) (hc : c.GoesBy names)
    (h : AgreeOn names p q) (hstrict : c.Accepts q → x.strictCheck ⟨name, p⟩ c = x.strictCheck ⟨name, q⟩ c)
    (s : Scene) : x.runCall ⟨name, p⟩ s = x.runCall ⟨name, q⟩ s := by
  rcases prepare_of_agreeOn hget hc h hstrict with ⟨outcome, hp, hq⟩ | ⟨p', q', hp, hq, hfilled⟩
  · simp only [runCall, hp, hq]
  · simp only [runCall, hp, hq, hc.run hfilled]

/-- What a call comes to that is accepted, but stopped by strict checking. -/
theorem runCall_of_strictCheck {e : SceneError} (hget : x.registry.get? name = some c)
    (hstrict : x.strictCheck ⟨name, p⟩ c = .error (.scene e)) (ha : c.Accepts p) (s : Scene) :
    x.runCall ⟨name, p⟩ s = (.ofError e, s) := by
  rw [runCall_of_stopped (prepare_of_strictCheck hget ha hstrict)]
  rfl

theorem strictCheck_of_not_strict (h : x.options.isStrict = false) (call : Call) (c : Command) :
    x.strictCheck call c = .ok () := by
  rw [strictCheck, if_neg (by simp [h])]

theorem strictCheck_of_strict (h : x.options.isStrict = true) (hs : c.schema = .ok schema) (call : Call) :
    x.strictCheck call c = schema.check call.name call.parameters true := by
  rw [strictCheck, if_pos h, hs]
  rfl

/-- Calls with the same parameters in another order come to the same, up to the undeclared name that
is reported. -/
theorem runCall_of_perm (hget : x.registry.get? name = some c) (hs : c.schema = .ok schema)
    (hc : c.GoesBy schema.names) (h : p.entries.Perm q.entries) (s : Scene) :
    x.runCall ⟨name, p⟩ s = x.runCall ⟨name, q⟩ s ∨
      ∃ m n, (m ∈ p.keys ∧ schema.declares m = false) ∧ (n ∈ q.keys ∧ schema.declares n = false) ∧
        x.runCall ⟨name, p⟩ s = (.ofError (Violation.toSceneError name ⟨m, .undeclared⟩), s) ∧
        x.runCall ⟨name, q⟩ s = (.ofError (Violation.toSceneError name ⟨n, .undeclared⟩), s) := by
  have hagree := agreeOn_of_perm h schema.names
  cases hstrict : x.options.isStrict with
  | false =>
    refine .inl (runCall_of_agreeOn hget hc hagree (fun _ => ?_) s)
    rw [strictCheck_of_not_strict hstrict, strictCheck_of_not_strict hstrict]
  | true =>
    have hcheck := strictCheck_of_strict hstrict hs
    rcases Schema.check_of_perm h name with hsame | ⟨m, n, hm, hn, hp, hq⟩
    · exact .inl (runCall_of_agreeOn hget hc hagree (fun _ => by rw [hcheck, hcheck, hsame]) s)
    · by_cases ha : c.Accepts q
      · have ha' : c.Accepts p := by rwa [Command.Accepts, hc.validate hagree]
        refine .inr ⟨m, n, hm, hn, runCall_of_strictCheck hget ?_ ha' s, runCall_of_strictCheck hget ?_ ha s⟩
        · rw [hcheck, hp]
        · rw [hcheck, hq]
      · exact .inl (runCall_of_agreeOn hget hc hagree (fun ha' => absurd ha' ha) s)

/-- **Built-in commands go by their declared parameters.** Two calls of a built-in command that supply
the same under the names it declares come to the same outcome and the same scene, whatever else they
supply and in whatever order, unless the options are strict. Under any options two calls with the
same parameters in another order leave the same scene, and succeed with the same value or fail in the
same way; if their outcomes differ, each reports a name that is not declared. -/
theorem run_of_agreeOn (options : Options) {c : Command} {schema : Schema} (hc : c ∈ Registry.builtins)
    (hs : c.schema = .ok schema) {a b : Invocation} {p q : Parameters} (ha : a.reading = .ok ⟨c.listing, p⟩)
    (hb : b.reading = .ok ⟨c.listing, q⟩) (s : Scene) :
    let first := (builtin options).run a s
    let second := (builtin options).run b s
    (options.isStrict = false → AgreeOn schema.names p q → first = second) ∧
      (p.entries.Perm q.entries →
        first.2 = second.2 ∧ first.1.isOk = second.1.isOk ∧ first.1.kind? = second.1.kind? ∧
          first.1.value = second.1.value ∧
          (first.1 = second.1 ∨
            ∃ m n, (m ∈ p.keys ∧ schema.declares m = false) ∧ (n ∈ q.keys ∧ schema.declares n = false) ∧
              first.1 = .ofError (Violation.toSceneError c.listing ⟨m, .undeclared⟩) ∧
              second.1 = .ofError (Violation.toSceneError c.listing ⟨n, .undeclared⟩))) := by
  have hget : (builtin options).registry.get? c.listing = some c := Registry.get?_of_mem_builtins hc
  have hgoes := Command.goesBy_of_mem_builtins hc hs
  intro first second
  have hfirst : first = (builtin options).runCall ⟨c.listing, p⟩ s := by simp only [first, run, ha]
  have hsecond : second = (builtin options).runCall ⟨c.listing, q⟩ s := by simp only [second, run, hb]
  rw [hfirst, hsecond]
  refine ⟨fun hstrict hagree => ?_, fun hperm => ?_⟩
  · refine runCall_of_agreeOn hget hgoes hagree (fun _ => ?_) s
    rw [strictCheck_of_not_strict hstrict, strictCheck_of_not_strict hstrict]
  · rcases runCall_of_perm hget hs hgoes hperm s with hsame | ⟨m, n, hm, hn, hp, hq⟩
    · rw [hsame]
      exact ⟨rfl, rfl, rfl, rfl, .inl rfl⟩
    · rw [hp, hq]
      exact ⟨rfl, rfl, rfl, rfl, .inr ⟨m, n, hm, hn, rfl, rfl⟩⟩

/-- Another undeclared name and another order, and the same names in another order under strict options. -/
theorem run_of_agreeOn_setProperty :
    let s := ((builtin {}).execute "create_element(type: 'cube', name: 'c')" {}).2
    let call (parameters : Parameters) : Invocation := ⟨"", .ok ⟨Command.SetProperty.name, parameters⟩⟩
    let p : Parameters := .ofList [("id", .text "c"), ("late", .null), ("property", .text "p"), ("value", .bool true)]
    let q : Parameters := .ofList [("early", .null), ("value", .bool true), ("property", .text "p"), ("id", .text "c")]
    let r : Parameters := .ofList [("value", .bool true), ("id", .text "c"), ("property", .text "p"), ("late", .null)]
    let strict : Options := ⟨.bool true, .bool true⟩
    AgreeOn Command.SetProperty.schema.names p q ∧ p.entries.Perm r.entries ∧
      (builtin {}).run (call p) s = (builtin {}).run (call q) s ∧
      ((builtin strict).run (call p) s).2 = ((builtin strict).run (call r) s).2 := by
  intro s call p q r strict
  have hmem : Command.setProperty ∈ Registry.builtins := .tail _ (.tail _ (.head _))
  have hagree : AgreeOn Command.SetProperty.schema.names p q := by decide +kernel
  have hperm : p.entries.Perm r.entries := by decide +kernel
  have hplain := (run_of_agreeOn {} hmem rfl (a := call p) (b := call q) rfl rfl s).1 (by decide) hagree
  have hstrict := (run_of_agreeOn strict hmem rfl (a := call p) (b := call r) rfl rfl s).2 hperm
  exact ⟨hagree, hperm, hplain, hstrict.1⟩

end Executor

end SceneLang
