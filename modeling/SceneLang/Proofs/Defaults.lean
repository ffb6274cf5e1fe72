/-
What a command is handed.

A command that checks and fills by its schema alone is run with what was supplied and, behind that,
the defaults of what was omitted. The check settles that nothing is missing then: a name is omitted
only where every parameter of it is optional, and the first of them gives the default.

* `Schema.omitted`: the parameters whose defaults are filled in.
* `Schema.entries_fill_eq`: filling, entry by entry.
* `Schema.fill_fill`: filling again changes nothing.
* `Command.filled_of_check`: what a command is handed after the check.
-/
import SceneLang.Proofs.Checking

namespace SceneLang

/-- A value is of the kind that a type names exactly if the type accepts it. -/
theorem Value.isOf_name_iff {v : Value} {t : ParameterType} :
    v.isOf t.name = .ok true ↔ t = .any ∨ ∃ k, v.kind? = some k ∧ t.accepts k = true := by
  cases hk : v.kind? with
  | none => cases t <;> simp [isOf, kind, hk, ParameterType.name]
  | some k =>
    cases t <;> cases k <;> simp [isOf, kind, hk, ParameterType.name, Kind.name, ParameterType.accepts]

namespace Schema

variable {schema : Schema} {supplied : Parameters}

/-- The optional parameters that nothing is supplied for, the first of each name. -/
def omitted (schema : Schema) (supplied : Parameters) : List Parameter :=
  (schema.filter fun p => !p.required && !supplied.contains p.name).eraseDupsBy fun p q => p.name == q.name

theorem omitted_cons_of_neg {p : Parameter} (h : ¬(p.required = false ∧ supplied.contains p.name = false))
    (rest : Schema) : omitted (p :: rest) supplied = omitted rest supplied := by
  rw [omitted, List.filter_cons_of_neg (by simpa using h), ← omitted]

/-- The first parameter that is filled in leaves the others of its name nothing to fill in. -/
theorem omitted_cons_of_pos {p : Parameter} (hr : p.required = false) (hc : supplied.contains p.name = false)
    (v : Value) (rest : Schema) :
    omitted (p :: rest) supplied = p :: omitted rest (supplied.insert p.name v) := by
  rw [omitted, List.filter_cons_of_pos (by simp [hr, hc]), List.eraseDupsBy_cons, List.filter_filter, omitted]
  congr 2
  refine List.filter_congr fun q _ => ?_
  rw [OrderedMap.contains_insert]
  by_cases hq : q.name = p.name <;> simp [hq]

/-- Filling puts the defaults of what is omitted behind what is supplied. -/
theorem entries_fill_eq (schema : Schema) (supplied : Parameters) :
    (schema.fill supplied).entries =
      supplied.entries ++ (schema.omitted supplied).map fun p => (p.name, p.default) := by
  induction schema generalizing supplied with
  | nil => simp [fill, omitted]
  | cons p rest ih =>
    rw [fill, List.foldl_cons, ← fill, ih, fillOne]
    by_cases h : p.required = false ∧ supplied.contains p.name = false
    · obtain ⟨hr, hc⟩ := h
      have habsent : p.name ∉ supplied.keys := by
        rw [← OrderedMap.contains_iff, hc]
        exact Bool.false_ne_true
      rw [omitted_cons_of_pos hr hc p.default, if_neg (by simp [hr, hc]), OrderedMap.entries_insert habsent,
        List.map_cons, List.append_assoc, List.singleton_append]
    · rw [omitted_cons_of_neg h, if_pos ?_]
      simp only [not_and, Bool.not_eq_false] at h
      cases hr : p.required <;> simp [h, hr]

theorem contains_fill_eq (schema : Schema) (supplied : Parameters) (name : String) :
    (schema.fill supplied).contains name = (supplied.contains name || (schema.default? name).isSome) := by
  rw [OrderedMap.contains_eq_isSome, OrderedMap.contains_eq_isSome, get?_fill, Option.isSome_or]

/-- No optional parameter is missing once the defaults are filled in. -/
theorem contains_fill_of_optional {p : Parameter} (hp : p ∈ schema) (hr : p.required = false) :
    (schema.fill supplied).contains p.name = true := by
  have hfound : (schema.find? fun q => q.name = p.name ∧ q.required = false).isSome = true :=
    List.find?_isSome.2 ⟨p, hp, by simp [hr]⟩
  rw [contains_fill_eq, default?, Option.isSome_map, hfound, Bool.or_true]

/-- If all parameters fit, none is missing once the defaults are filled in. -/
theorem contains_fill {p : Parameter} (hp : p ∈ schema) (hfits : p.Fits supplied) :
    (schema.fill supplied).contains p.name = true := by
  cases hsupplied : supplied.get? p.name with
  | none => exact contains_fill_of_optional hp ((Parameter.fits_iff.1 hfits).1 hsupplied)
  | some v =>
    rw [contains_fill_eq, OrderedMap.contains_eq_isSome, hsupplied]
    rfl

/-- Filling again changes nothing. -/
theorem fill_fill (schema : Schema) (supplied : Parameters) :
    schema.fill (schema.fill supplied) = schema.fill supplied := by
  apply OrderedMap.ext_entries
  have hnone : schema.omitted (schema.fill supplied) = [] := by
    rw [omitted, List.filter_eq_nil_iff.2, List.eraseDupsBy_nil]
    intro p hp
    cases hr : p.required <;> simp [contains_fill_of_optional hp, hr]
  rw [entries_fill_eq, hnone, List.map_nil, List.append_nil]

end Schema

namespace Command

/-- **What a command is handed.** If what is supplied passes the check against a schema, the command
that checks and fills by that schema is run with all that was supplied, in its order, and behind it
the defaults of what was omitted, by the first optional parameter of each name. Nothing that is
declared is missing then, what was supplied is of every kind that it is declared with, and filling
again changes nothing. -/
theorem filled_of_check {name : String} {schema : Schema} {supplied : Parameters} (description : String)
    (run : Parameters → Scene → Except Fault Outcome × Scene) (h : schema.check name supplied false = .ok ()) :
    let c := standard name description (.ok schema) run
    ∃ filled, c.applyDefaults supplied = .ok filled ∧
      (∀ (x : Executor) (call : Call), x.registry.get? call.name = some c → x.options.isStrict = false →
        call.parameters = supplied → x.prepare call = .ok (c, filled)) ∧
      (∀ p ∈ schema, filled.contains p.name = true) ∧
      filled.entries = supplied.entries ++ (schema.omitted supplied).map (fun p => (p.name, p.default)) ∧
      (∀ p ∈ schema, ∀ v, supplied.get? p.name = some v → v.isOf p.type.name = .ok true) ∧
      c.applyDefaults filled = .ok filled := by
  intro c
  have hfits : ∀ p ∈ schema, p.Fits supplied := (Schema.check_eq_ok_iff.1 h).1
  refine ⟨schema.fill supplied, rfl, ?_, ?_, schema.entries_fill_eq supplied, ?_, ?_⟩
  · rintro x call hregistered hlax rfl
    have hchecked : x.strictCheck call c = .ok () :=
      (Executor.strictCheck_eq_ok_iff rfl).2 fun hstrict => absurd hstrict (by simp [hlax])
    exact Executor.prepare_eq_ok_iff.2 ⟨hregistered, accepts_standard_iff.2 hfits, hchecked, rfl⟩
  · exact fun p hp => Schema.contains_fill hp (hfits p hp)
  · exact fun p hp v hv => Value.isOf_name_iff.2 ((Parameter.fits_iff.1 (hfits p hp)).2 v hv)
  · have hagain : c.applyDefaults (schema.fill supplied) = .ok (schema.fill (schema.fill supplied)) := rfl
    rw [hagain, Schema.fill_fill]

/-- A name that is declared twice and omitted, and one that is not declared and supplied. -/
theorem filled_of_check_twice :
    let schema : Schema :=
      [{ name := "x", type := .number, required := false, default := .number (.ofNat 1), named := isIdentifier_x },
       { name := "y", type := .string, named := isIdentifier_y },
       { name := "x", required := false, default := .text "far", named := isIdentifier_x }]
    let supplied : Parameters := .ofList [("extra", .null), ("y", .text "near")]
    schema.check "place" supplied false = .ok () ∧
      ∃ filled, fillDefaults (.ok schema) supplied = .ok filled ∧
        filled.entries = [("extra", .null), ("y", .text "near"), ("x", .number (.ofNat 1))] := by
  intro schema supplied
  have hcheck : schema.check "place" supplied false = .ok () := rfl
  obtain ⟨filled, hfilled, -, -, hentries, -⟩ :=
    filled_of_check "Place something" (fun _ s => (.ok .done, s)) hcheck
  exact ⟨hcheck, filled, hfilled, hentries.trans (by decide +kernel)⟩

end Command

end SceneLang
