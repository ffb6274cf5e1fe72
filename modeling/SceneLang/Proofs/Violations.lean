/-
What a check refuses.

A declared parameter is broken if it is required and missing, or supplied with a value that its type
does not take. `Takes` and `Breaks` say so without the functions that check, and `Reports` says which
of several faults is named: the first parameter of the schema that is broken, and only if there is none
the first supplied name that is not declared.

* `ParameterType.takes_iff`: the values that a type takes, by their kind.
* `Parameter.breaks_iff`: one parameter, and what is said of it.
* `Schema.reports_iff`: the first violation of a schema.
* `Schema.check_refuses_iff`: when a check fails, and what it says.
-/
import SceneLang.Proofs.Checking

namespace SceneLang

/-! ## One parameter -/

/-- The values that a type takes: numbers, whole or not, texts, booleans, or any value. -/
inductive ParameterType.Takes : ParameterType → Value → Prop
  | number {x} : Takes .number (.number x)
  | integer {n} : Takes .number (.integer n)
  | string {s} : Takes .string (.text s)
  | bool {flag} : Takes .bool (.bool flag)
  | any {v} : Takes .any v

theorem ParameterType.takes_iff {t : ParameterType} {v : Value} :
    t.Takes v ↔ t = .any ∨ ∃ k, v.kind? = some k ∧ t.accepts k = true := by
  constructor
  · intro h
    cases h <;> simp [Value.kind?, accepts]
  · rintro (rfl | ⟨k, hk, ha⟩)
    · exact .any
    · cases v <;> cases hk <;> cases t <;> first | constructor | cases ha

namespace Parameter

variable {supplied : Parameters} {p : Parameter} {reason : String}

/-- What is wrong with what is supplied for a parameter, or with nothing being supplied. -/
inductive Breaks (supplied : Parameters) (p : Parameter) : String → Prop
  | missing : p.required = true → supplied.get? p.name = none → Breaks supplied p "is required"
  | mismatch {v kind} : supplied.get? p.name = some v → v.kind? = some kind → ¬p.type.Takes v →
      Breaks supplied p s!"must be {p.type.name}, got {kind.name}"

theorem mismatch?_eq_some_iff {v : Value} {found : Violation} :
    p.mismatch? v = .ok (some found) ↔
      ∃ k, v.kind? = some k ∧ ¬p.type.Takes v ∧ found = ⟨p.name, .mismatch p.type k⟩ := by
  rw [ParameterType.takes_iff, mismatch?]
  split
  · next h => simp [h]
  · next h =>
    cases hk : v.kind? with
    | none => simp [Value.kind, hk]
    | some k => cases ha : p.type.accepts k <;> simp [Value.kind, hk, ha, h, eq_comm (a := found)]

theorem parameter_of_violation? {found : Violation} (h : p.violation? supplied = .ok (some found)) :
    found.parameter = p.name := by
  unfold violation? at h
  split at h
  · split at h <;> cases h
    rfl
  · obtain ⟨k, -, -, rfl⟩ := mismatch?_eq_some_iff.1 h
    rfl

theorem breaks_iff : p.Breaks supplied reason ↔
    ∃ v, p.violation? supplied = .ok (some v) ∧ v.reason.message = reason := by
  constructor
  · intro h
    cases h with
    | missing hr hnone => exact ⟨⟨p.name, .missing⟩, by simp [violation?, hnone, hr], rfl⟩
    | @mismatch v k hv hk ht =>
      refine ⟨⟨p.name, .mismatch p.type k⟩, ?_, rfl⟩
      simp only [violation?, hv]
      exact mismatch?_eq_some_iff.2 ⟨k, hk, ht, rfl⟩
  · rintro ⟨found, h, rfl⟩
    unfold violation? at h
    split at h
    · next hnone =>
      split at h
      · next hr =>
        cases h
        exact .missing hr hnone
      · cases h
    · next v hv =>
      obtain ⟨k, hk, ht, rfl⟩ := mismatch?_eq_some_iff.1 h
      exact .mismatch hv hk ht

theorem not_fits_iff : ¬p.Fits supplied ↔
    (p.required = true ∧ supplied.get? p.name = none) ∨ ∃ v, supplied.get? p.name = some v ∧ ¬p.type.Takes v := by
  simp only [fits_iff, ← ParameterType.takes_iff]
  cases supplied.get? p.name <;> simp

/-- What fits a parameter does not break it, and what does not fit breaks it. -/
theorem not_breaks_iff (hk : supplied.HasKinds) : (¬∃ reason, p.Breaks supplied reason) ↔ p.Fits supplied := by
  obtain ⟨found, h⟩ := p.exists_violation? hk
  cases found <;> simp [breaks_iff, Fits, h]

end Parameter

/-! ## A schema -/

namespace Schema

variable {schema : Schema} {supplied : Parameters} {strict : Bool} {v : Violation}

/-- What a check reports: the first parameter that is broken, or under strict options, if none is, the
first supplied name that is not declared. -/
inductive Reports (schema : Schema) (supplied : Parameters) (strict : Bool) : String → String → Prop
  | broken {before p behind reason} : schema = before ++ p :: behind →
      (∀ q ∈ before, ¬∃ reason, q.Breaks supplied reason) → p.Breaks supplied reason →
      Reports schema supplied strict p.name reason
  | undeclared {before name behind} : strict = true → (∀ p ∈ schema, ¬∃ reason, p.Breaks supplied reason) →
      supplied.keys = before ++ name :: behind → (∀ other ∈ before, ∃ p ∈ schema, p.name = other) →
      (∀ p ∈ schema, p.name ≠ name) → Reports schema supplied strict name "is not a declared parameter"

theorem declares_eq_false_iff {name : String} : schema.declares name = false ↔ ∀ p ∈ schema, p.name ≠ name := by
  simp [declares]

theorem declares_iff {name : String} : schema.declares name = true ↔ ∃ p ∈ schema, p.name = name := by
  simp [declares]

/-- The first violation is that of a parameter before which all fit. -/
theorem firstViolation?_eq_some_iff : firstViolation? supplied schema = .ok (some v) ↔
    ∃ before p behind, schema = before ++ p :: behind ∧ (∀ q ∈ before, q.Fits supplied) ∧
      p.violation? supplied = .ok (some v) := by
  constructor
  · intro h
    induction schema with
    | nil => cases h
    | cons p rest ih =>
      rw [firstViolation?_cons] at h
      split at h
      · next hfits =>
        obtain ⟨before, q, behind, rfl, hbefore, hq⟩ := ih h
        exact ⟨p :: before, q, behind, rfl, List.forall_mem_cons.2 ⟨hfits, hbefore⟩, hq⟩
      · exact ⟨[], p, rest, rfl, by simp, h⟩
  · rintro ⟨before, p, behind, rfl, hbefore, hp⟩
    induction before with
    | nil => rw [List.nil_append, firstViolation?_cons, hp]
    | cons q before ih =>
      obtain ⟨hq, hbefore⟩ := List.forall_mem_cons.1 hbefore
      rw [List.cons_append, firstViolation?_cons, show q.violation? supplied = .ok none from hq]
      exact ih hbefore

theorem undeclared?_eq_some_iff : schema.undeclared? supplied = some v ↔
    ∃ before name behind, supplied.keys = before ++ name :: behind ∧
      (∀ other ∈ before, ∃ p ∈ schema, p.name = other) ∧ (∀ p ∈ schema, p.name ≠ name) ∧
      v = ⟨name, .undeclared⟩ := by
  simp only [undeclared?, Option.map_eq_some_iff, List.find?_eq_some_iff_append, Bool.not_eq_true',
    Bool.not_not, declares_iff, declares_eq_false_iff]
  constructor
  · rintro ⟨name, ⟨hname, before, behind, hkeys, hbefore⟩, rfl⟩
    exact ⟨before, name, behind, hkeys, hbefore, hname, rfl⟩
  · rintro ⟨before, name, behind, hkeys, hbefore, hname, rfl⟩
    exact ⟨name, ⟨hname, before, behind, hkeys, hbefore⟩, rfl⟩

theorem violation?_eq_some_iff : schema.violation? supplied strict = .ok (some v) ↔
    firstViolation? supplied schema = .ok (some v) ∨
      strict = true ∧ firstViolation? supplied schema = .ok none ∧ schema.undeclared? supplied = some v := by
  rw [violation?]
  split
  · next h => cases strict <;> simp [h]
  · next h => exact ⟨.inl, fun hv => hv.resolve_right fun hn => h hn.2.1⟩

/-- What is reported is the violation that the check finds. -/
theorem reports_iff (hk : supplied.HasKinds) {name reason : String} :
    schema.Reports supplied strict name reason ↔
      ∃ v, schema.violation? supplied strict = .ok (some v) ∧ v.parameter = name ∧ v.reason.message = reason := by
  constructor
  · intro h
    cases h with
    | broken hschema hbefore hp =>
      obtain ⟨v, hv, hreason⟩ := Parameter.breaks_iff.1 hp
      refine ⟨v, violation?_eq_some_iff.2 (.inl ?_), Parameter.parameter_of_violation? hv, hreason⟩
      exact firstViolation?_eq_some_iff.2
        ⟨_, _, _, hschema, fun q hq => (Parameter.not_breaks_iff hk).1 (hbefore q hq), hv⟩
    | @undeclared before _ behind hstrict hfits hkeys hbefore hname =>
      refine ⟨⟨name, .undeclared⟩, violation?_eq_some_iff.2 (.inr ⟨hstrict, ?_, ?_⟩), rfl, rfl⟩
      · exact firstViolation?_eq_none_iff.2 fun p hp => (Parameter.not_breaks_iff hk).1 (hfits p hp)
      · exact undeclared?_eq_some_iff.2 ⟨before, name, behind, hkeys, hbefore, hname, rfl⟩
  · rintro ⟨v, h, rfl, rfl⟩
    rcases violation?_eq_some_iff.1 h with hfirst | ⟨hstrict, hnone, hundeclared⟩
    · obtain ⟨before, p, behind, hschema, hbefore, hp⟩ := firstViolation?_eq_some_iff.1 hfirst
      rw [Parameter.parameter_of_violation? hp]
      exact .broken hschema (fun q hq => (Parameter.not_breaks_iff hk).2 (hbefore q hq))
        (Parameter.breaks_iff.2 ⟨v, hp, rfl⟩)
    · obtain ⟨before, name, behind, hkeys, hbefore, hname, rfl⟩ := undeclared?_eq_some_iff.1 hundeclared
      exact .undeclared hstrict
        (fun p hp => (Parameter.not_breaks_iff hk).2 (firstViolation?_eq_none_iff.1 hnone p hp))
        hkeys hbefore hname

/-- **What a check refuses.** A check of values that have a kind fails exactly if a required parameter
is missing, or something is supplied that the type of a parameter of its name does not take, or under
strict options a name is supplied that is not declared. The error then names the first parameter of
the schema that is broken, and says in what way; it names an undeclared name only if no parameter is
broken, and then the first that is supplied. -/
theorem check_refuses_iff (command : String) (schema : Schema) {supplied : Parameters} (strict : Bool)
    (hk : supplied.HasKinds) :
    ((∃ f, schema.check command supplied strict = .error f) ↔
      (∃ p ∈ schema, p.required = true ∧ supplied.get? p.name = none) ∨
        (∃ p ∈ schema, ∃ v, supplied.get? p.name = some v ∧ ¬p.type.Takes v) ∨
        strict = true ∧ ∃ name ∈ supplied.keys, ∀ p ∈ schema, p.name ≠ name) ∧
      ∀ f, schema.check command supplied strict = .error f ↔
        ∃ name reason, schema.Reports supplied strict name reason ∧
          f = .scene (.parameter command name reason) := by
  constructor
  · have hok : (∃ f, schema.check command supplied strict = .error f) ↔
        ¬schema.check command supplied strict = .ok () := by
      cases schema.check command supplied strict <;> simp
    rw [hok, check_eq_ok_iff, Classical.not_and_iff_not_or_not]
    simp only [Classical.not_imp, Classical.not_forall, Parameter.not_fits_iff, declares_iff, and_or_left,
      exists_or, not_exists, not_and, ne_eq, or_assoc]
  · intro f
    rw [check_eq_error_iff hk]
    constructor
    · rintro ⟨v, hv, rfl⟩
      exact ⟨_, _, (reports_iff hk).2 ⟨v, hv, rfl, rfl⟩, rfl⟩
    · rintro ⟨name, reason, hreports, rfl⟩
      obtain ⟨v, hv, rfl, rfl⟩ := (reports_iff hk).1 hreports
      exact ⟨v, hv, rfl⟩

/-- A name that is declared twice: a whole number is taken by the first type and not by the second, which
is reported before the name that is not declared. -/
theorem check_refuses_iff_twice :
    let first : Parameter := { name := "x", type := .number, required := false, named := Command.isIdentifier_x }
    let second : Parameter := { name := "x", type := .bool, required := false, named := Command.isIdentifier_x }
    let supplied : Parameters := .ofList [("extra", .null), ("x", .integer 3)]
    supplied.HasKinds ∧ Schema.check "place" [first, second] supplied true =
      .error (.scene (.parameter "place" "x" "must be bool, got number")) := by
  intro first second supplied
  have hk : supplied.HasKinds := by
    intro name v hv
    have hmem : (name, v) ∈ [("extra", Value.null), ("x", .integer 3)] := OrderedMap.mem_entries_of_get? hv
    simp only [List.mem_cons, Prod.mk.injEq, List.not_mem_nil, or_false] at hmem
    rcases hmem with ⟨-, rfl⟩ | ⟨-, rfl⟩ <;> exact ⟨_, rfl⟩
  have hx : supplied.get? "x" = some (.integer 3) := by decide +kernel
  have hfits : first.Fits supplied := by
    refine Parameter.fits_iff.2 ⟨fun _ => rfl, fun v hv => .inr ⟨.number, ?_, rfl⟩⟩
    cases hx.symm.trans hv
    rfl
  have hbool : ¬ParameterType.bool.Takes (.integer 3) := nofun
  have hbreaks : second.Breaks supplied "must be bool, got number" :=
    @Parameter.Breaks.mismatch supplied second _ .number hx rfl hbool
  refine ⟨hk, ((check_refuses_iff "place" _ true hk).2 _).2 ⟨"x", _, ?_, rfl⟩⟩
  have hbefore : ∀ q ∈ [first], ¬∃ reason, q.Breaks supplied reason :=
    List.forall_mem_singleton.2 ((Parameter.not_breaks_iff hk).2 hfits)
  exact @Reports.broken _ _ _ [first] second [] _ rfl hbefore hbreaks

end Schema

end SceneLang
