/-
What a transformation changes.

A transformation reads three properties of an element and writes the same three. It succeeds if the
element is there and each of the three reads as a number, where an absent one counts as zero, or as one
for scaling; then those three are written and nothing else. Otherwise nothing is written at all. This
holds of every scene, whatever its variables are. The variables and what becomes of them are those of
a `Transformation`, which knows nothing of the command.

* `Scene.Overwritten`: what becomes of a scene when variables are written.
* `Transformation.Footprint`: what a transformation may come to and leave.
* `Transform.updates_or_unread`: the writes are planned, or some property does not read as a number.
* `Executor.run_transform_footprint`: the command leaves the footprint, in every scene.
-/
import SceneLang.Proofs.Failures
import SceneLang.Proofs.Pipeline
import SceneLang.Proofs.Requests

namespace SceneLang

namespace Scene

/-- The number that a variable reads as, or a given one if it is absent. -/
inductive ReadsAs (s : Scene) (key : String) (fallback : Binary64) : Binary64 → Prop
  | absent : s.vars.get? key = none → ReadsAs s key fallback fallback
  | held {v x} : s.vars.get? key = some v → v.toNumber = .ok (some x) → ReadsAs s key fallback x

/-- What becomes of a scene when variables are written: those that are there in their places, the
others behind all that is there, in the order in which they are written. -/
structure Overwritten (s : Scene) (updates : List (String × Value)) (after : Scene) : Prop where
  entries_eq : after.vars.entries = s.vars.entries.map (OrderedMap.overwrite updates) ++
    updates.filter fun e => !s.has e.1
  written : ∀ e ∈ updates, after.vars.get? e.1 = some e.2
  others : ∀ key, key ∉ updates.map (·.1) → after.vars.get? key = s.vars.get? key
  active_eq : after.active = s.active

theorem setAll_eq (s : Scene) (updates : List (String × Value)) :
    s.setAll updates = { s with vars := updates.foldl (fun m e => m.insert e.1 e.2) s.vars } := by
  induction updates generalizing s with
  | nil => rfl
  | cons e rest ih => exact ih (s.set e.1 e.2)

theorem overwritten_setAll {updates : List (String × Value)} (h : (updates.map (·.1)).Nodup) (s : Scene) :
    s.Overwritten updates (s.setAll updates) := by
  rw [setAll_eq]
  refine ⟨OrderedMap.entries_foldl_insert h s.vars, fun e he => ?_, fun key hk => ?_, rfl⟩
  · have hlookup : updates.lookup e.1 = some e.2 :=
      OrderedMap.get?_of_mem_entries (m := ⟨updates, h⟩) he
    rw [OrderedMap.get?_foldl_insert h, hlookup, Option.some_or]
  · rw [OrderedMap.get?_foldl_insert h, OrderedMap.lookup_eq_none_iff.2 hk, Option.none_or]

end Scene

/-- Where only numbers are supplied there is a number to be read. -/
theorem Parameters.exists_number? {supplied : Parameters} {name : String}
    (h : ∀ v, supplied.get? name = some v → ∃ x, v = .number x) (omitted : Binary64) :
    ∃ x, supplied.number? name omitted = some x := by
  simp only [Parameters.number?_eq_some_iff]
  cases hv : supplied.get? name with
  | none => exact ⟨omitted, .inr ⟨rfl, rfl⟩⟩
  | some v =>
    obtain ⟨x, rfl⟩ := h v hv
    exact ⟨x, .inl rfl⟩

/-! ## The footprint of a transformation -/

namespace Transformation

/-- The variables that a transformation of an element changes, each behind the parameter that says by
how much. -/
def places (t : Transformation) (id : String) : List (String × String) :=
  ["x", "y", "z"].zip (t.family.map (Element.key id))

/-- What a transformation reckons with: the numbers that its three variables read as, and the amounts,
where an absent variable counts as an omitted amount does. -/
structure Operands (t : Transformation) (s : Scene) (supplied : Parameters) (id : String)
    (current amount : String → Binary64) : Prop where
  reads : ∀ p ∈ t.places id, s.ReadsAs p.2 t.absent (current p.1)
  given : ∀ p ∈ t.places id, supplied.number? p.1 t.absent = some (amount p.1)

/-- What a transformation makes of its three variables, by the numbers that are there and the amounts. -/
def writes (t : Transformation) (id : String) (current amount : String → Binary64) : List (String × Value) :=
  (t.places id).map fun p => (p.2, .number (t.result (current p.1) (amount p.1)))

/-- What a transformation comes to, by what is supplied and the element that is meant: it succeeds
exactly if the element is there and each of the three variables reads as a number or is absent; then
each of the three becomes the result of that number and the amount; and if it fails nothing changes. -/
structure Footprint (t : Transformation) (s : Scene) (supplied : Parameters) (id : String)
    (outcome : Outcome) (after : Scene) : Prop where
  isOk_iff : outcome.isOk = true ↔ s.has (Element.key id "type") = true ∧
    ∀ p ∈ t.places id, ∃ x, s.ReadsAs p.2 t.absent x
  writes : outcome.isOk = true → ∃ current amount, t.Operands s supplied id current amount ∧
    s.Overwritten (t.writes id current amount) after
  spares : outcome.isOk = false → after = s

variable {t : Transformation} {s : Scene} {supplied : Parameters} {id : String} {outcome : Outcome}

/-- A transformation changes three variables. -/
theorem nodup_writes (t : Transformation) (id : String) (current amount : String → Binary64) :
    ((t.writes id current amount).map (·.1)).Nodup := by
  have hfamily : t.family.Nodup := by cases t <;> decide
  have hkeys : (t.writes id current amount).map (·.1) = t.family.map (Scene.elementKey id) := by
    cases t <;> rfl
  rw [hkeys]
  exact hfamily.map (Scene.elementKey_injective id)

theorem Footprint.of_failure (hfail : outcome.isOk = false)
    (h : ¬(s.hasElement id = true ∧ ∀ p ∈ t.places id, ∃ x, s.ReadsAs p.2 t.absent x)) :
    t.Footprint s supplied id outcome s where
  isOk_iff := by
    simp only [hfail, Bool.false_eq_true, false_iff]
    exact h
  writes hok := by simp [hfail] at hok
  spares _ := rfl

theorem Footprint.of_success {current amount : String → Binary64} (hok : outcome.isOk = true)
    (hpresent : s.hasElement id = true) (h : t.Operands s supplied id current amount) :
    t.Footprint s supplied id outcome (s.setAll (t.writes id current amount)) where
  isOk_iff := ⟨fun _ => ⟨hpresent, fun p hp => ⟨_, h.reads p hp⟩⟩, fun _ => hok⟩
  writes _ := ⟨current, amount, h, Scene.overwritten_setAll (t.nodup_writes id current amount) s⟩
  spares hfail := by simp [hok] at hfail

end Transformation

/-! ## What the command does -/

namespace Command

/-- The variable that an operation changes along an axis. -/
def Operation.key (operation : Operation) (id axis : String) : String :=
  Scene.elementKey id (operation.property axis)

theorem Operation.places_transformation (operation : Operation) (id : String) :
    operation.transformation.places id = axes.map fun axis => (axis, operation.key id axis) := by
  cases operation <;> rfl

/-- The writes of a transformation, as the operation plans them. -/
theorem Operation.writes_transformation (operation : Operation) (id : String)
    (current amount : String → Binary64) :
    operation.transformation.writes id current amount = axes.map fun axis =>
      (operation.key id axis, .number (operation.combine (current axis) (amount axis))) := by
  cases operation <;> rfl

namespace Transform

variable {s : Scene} {id : String} {operation : Operation} {parameters : Parameters}

theorem readNumber_eq_ok_iff {key : String} {fallback x : Binary64} :
    readNumber s key fallback = .ok x ↔ s.ReadsAs key fallback x := by
  constructor
  · intro h
    unfold readNumber at h
    split at h
    · next hv =>
      cases h
      exact .absent hv
    · next v hv =>
      split at h
      · cases h
      · next hx =>
        cases h
        exact .held hv hx
      · cases h
  · intro h
    cases h with
    | absent hv => rw [readNumber, hv]
    | held hv hx =>
      rw [readNumber, hv]
      simp only [hx]

/-- Numbers that are there and amounts make the writes that are planned. -/
theorem updates_of_readsAs {current amount : String → Binary64} {along : List String}
    (h : ∀ axis ∈ along, s.ReadsAs (operation.key id axis) operation.neutral (current axis) ∧
      parameters.get? axis = some (.number (amount axis))) :
    along.mapM (update operation id parameters s) = .ok (along.map fun axis =>
      (operation.key id axis, .number (operation.combine (current axis) (amount axis)))) := by
  induction along with
  | nil => rfl
  | cons axis along ih =>
    obtain ⟨⟨hread, hamount⟩, hrest⟩ := List.forall_mem_cons.1 h
    have hupdate : update operation id parameters s axis =
        .ok (operation.key id axis, .number (operation.combine (current axis) (amount axis))) :=
      update_eq_ok_iff.2 ⟨.number (amount axis), current axis, amount axis, Parameters.fetch_eq_ok hamount,
        readNumber_eq_ok_iff.2 hread, rfl, rfl⟩
    rw [List.mapM_cons, hupdate, ok_bind, ih hrest]
    rfl

/-- What is planned has been read along every axis. -/
theorem exists_readsAs_of_updates {along : List String} {updates : List (String × Value)}
    (h : along.mapM (update operation id parameters s) = .ok updates) :
    ∀ axis ∈ along, ∃ x, s.ReadsAs (operation.key id axis) operation.neutral x := by
  induction along generalizing updates with
  | nil => simp
  | cons axis along ih =>
    rw [List.mapM_cons] at h
    obtain ⟨e, he, h⟩ := bind_eq_ok_iff.1 h
    obtain ⟨others, hothers, -⟩ := bind_eq_ok_iff.1 h
    obtain ⟨amount, x, change, -, hx, -, -⟩ := update_eq_ok_iff.1 he
    exact List.forall_mem_cons.2 ⟨⟨x, readNumber_eq_ok_iff.1 hx⟩, ih hothers⟩

/-- With numbers for amounts, the writes are planned, or some variable does not read as a number. -/
theorem updates_or_unread {supplied : Parameters}
    (ho : supplied.get? operationName = some (.text operation.name))
    (hd : transform.applyDefaults supplied = .ok parameters)
    (hnumbers : ∀ axis ∈ axes, ∀ v, supplied.get? axis = some v → ∃ x, v = .number x) (s : Scene)
    (id : String) :
    let t := operation.transformation
    (∃ current amount, t.Operands s supplied id current amount ∧
      axes.mapM (update operation id parameters s) = .ok (t.writes id current amount)) ∨
    (¬∀ p ∈ t.places id, ∃ x, s.ReadsAs p.2 t.absent x) ∧
      ∃ f, axes.mapM (update operation id parameters s) = .error f := by
  intro t
  have hplaces : ∀ P : String × String → Prop,
      (∀ p ∈ t.places id, P p) ↔ ∀ axis ∈ axes, P (axis, operation.key id axis) := by
    intro P
    rw [operation.places_transformation, List.forall_mem_map]
  have habsent : t.absent = operation.neutral := operation.absent_transformation
  by_cases hreads : ∀ axis ∈ axes, ∃ x, s.ReadsAs (operation.key id axis) operation.neutral x
  · left
    choose! current hcurrent using hreads
    choose! amount hamount using fun axis haxis => Parameters.exists_number? (hnumbers axis haxis) operation.neutral
    refine ⟨current, amount, ⟨?_, ?_⟩, ?_⟩
    · rw [hplaces, habsent]
      exact hcurrent
    · rw [hplaces, habsent]
      exact hamount
    · rw [operation.writes_transformation]
      exact updates_of_readsAs fun axis haxis =>
        ⟨hcurrent axis haxis, get?_fillAmounts_of_number? ho hd haxis (hamount axis haxis)⟩
  · right
    rw [hplaces, habsent]
    refine ⟨hreads, ?_⟩
    cases hu : axes.mapM (update operation id parameters s) with
    | ok updates => exact absurd (exists_readsAs_of_updates hu) hreads
    | error f => exact ⟨f, rfl⟩

end Transform

end Command

namespace Executor

open Command

/-- **A transformation is all or nothing.** A call that `transform` accepts, with numbers for amounts,
means an element and a transformation. It succeeds exactly if the element is there and each of the
three properties reads as a number or is absent. It then makes of each of the three the sum of that
number and the amount, or their product for scaling, and no other variable changes; if it fails nothing
changes. -/
theorem run_transform_footprint (options : Options) {invocation : Invocation} {call : Call}
    (hcall : invocation.reading = .ok call) (hname : call.name = "transform")
    (haccepts : transform.Accepts call.parameters) (hchecks : (builtin options).Checks call transform)
    (hnumbers : ∀ axis ∈ ["x", "y", "z"], ∀ v, call.parameters.get? axis = some v → ∃ x, v = .number x)
    (s : Scene) :
    ∃ (id name : String) (t : Transformation), call.parameters.get? "id" = some (.text id) ∧
      call.parameters.get? "operation" = some (.text name) ∧ Transformation.ofName? name = some t ∧
      t.Footprint s call.parameters id ((builtin options).run invocation s).1
        ((builtin options).run invocation s).2 := by
  obtain ⟨⟨id, hi⟩, ⟨operation, ho⟩, -⟩ := accepts_transform_iff.1 haccepts
  obtain ⟨parameters, hd⟩ := exists_fillAmounts call.parameters
  have hregistered : (builtin options).registry.get? call.name = some transform := by
    rw [hname]
    rfl
  have hpasses : (builtin options).Passes call transform parameters := ⟨hregistered, haccepts, hchecks, hd⟩
  have hof : Transformation.ofName? operation.name = some operation.transformation := by
    rw [Operation.ofName?_transformation, Operation.ofName?_eq_some_iff.2 rfl, Option.map_some]
  refine ⟨id, operation.name, operation.transformation, hi, ho, hof, ?_⟩
  rw [run_of_reading hcall, runCall_of_prepare (passes_iff.1 hpasses), run_transform_of_fill hi ho hd]
  cases hpresent : s.hasElement id with
  | false =>
    simp only [Bool.false_eq_true, if_false, refuse]
    exact .of_failure (isOk_faultOutcome _ _) (by simp [hpresent])
  | true =>
    rcases Transform.updates_or_unread ho hd hnumbers s id with
      ⟨current, amount, hoperands, hupdates⟩ | ⟨hunread, f, hf⟩
    · obtain ⟨m, hm⟩ := Transform.report_of_updates hupdates operation.name
      simp only [if_true, hupdates, hm]
      exact .of_success rfl hpresent hoperands
    · simp only [if_true, hf]
      exact .of_failure (isOk_faultOutcome _ _) fun h => hunread h.2

/-- A movement along one axis of an element with a boolean, a text and no number among its places. -/
theorem run_transform_footprint_mixed :
    let s := (({} : Scene).set "light" .null).setProperties "c1"
      [("type", .text "cube"), ("z", .bool true), ("x", .text "1.5")]
    let call : Call := ⟨"transform",
      .ofList [("id", .text "c1"), ("operation", .text "move"), ("x", .number (.ofNat 2))]⟩
    let done := (builtin {}).run ⟨"", .ok call⟩ s
    done.1.isOk = true ∧
      done.2.vars.entries = [("light", .null), ("element.c1.type", .text "cube"),
        ("element.c1.z", .number (.ofNat 1)), ("element.c1.x", .number (Decimal.toBinary64 false ⟨35, -1⟩)),
        ("element.c1.y", .number (.zero false))] ∧
      ∃ (id name : String) (t : Transformation), call.parameters.get? "id" = some (.text id) ∧
        call.parameters.get? "operation" = some (.text name) ∧ Transformation.ofName? name = some t ∧
        t.Footprint s call.parameters id done.1 done.2 := by
  intro s call done
  have hentries : call.parameters.entries =
      [("id", .text "c1"), ("operation", .text "move"), ("x", .number (.ofNat 2))] := rfl
  have hnumbers : ∀ axis ∈ ["x", "y", "z"], ∀ v, call.parameters.get? axis = some v → ∃ x, v = .number x := by
    intro axis haxis v hv
    have hmem := OrderedMap.mem_entries_of_get? hv
    rw [hentries] at hmem
    simp only [List.mem_cons, Prod.mk.injEq, List.not_mem_nil, or_false] at hmem
    rcases hmem with ⟨rfl, -⟩ | ⟨rfl, -⟩ | ⟨-, rfl⟩
    · exact absurd haxis (by decide)
    · exact absurd haxis (by decide)
    · exact ⟨_, rfl⟩
  have hmay : ∀ axis ∈ ["x", "y", "z"], call.parameters.MayNumber axis := by
    intro axis haxis v hv
    obtain ⟨x, rfl⟩ := hnumbers axis haxis v hv
    rfl
  have haccepts : transform.Accepts call.parameters :=
    accepts_transform_iff.2 ⟨⟨"c1", rfl⟩, ⟨.move, rfl⟩, hmay "x" (by decide), hmay "y" (by decide),
      hmay "z" (by decide)⟩
  refine ⟨by decide +kernel, by decide +kernel, ?_⟩
  exact run_transform_footprint {} rfl rfl haccepts (fun h => absurd h (by decide)) hnumbers s

end Executor

end SceneLang
