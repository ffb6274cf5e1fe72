/-
What a failing command leaves behind.

A built-in command that fails leaves the scene as it was: whatever stops it stops it before the
first write. There is one exception. A property is written before its new value is put into words,
and a whole number beyond the largest number has none, so that failure comes with the property
written.

* `report_of_updates`: a transformation that plans its three writes can report them.
* `shown_eq_error_iff`: the values that cannot be put into words.
* `scene_of_failure`: what a failure leaves, for every invocation in every scene.
-/
import SceneLang.Proofs.Builtins
import SceneLang.Proofs.Session

namespace SceneLang

open Command

namespace Value

theorem widen_eq_error_iff {n : Int} {f : Fault} :
    widen n = .error f ↔ Binary64.ofInt? n = none ∧ f = .tooLarge := by
  cases h : Binary64.ofInt? n <;> simp [widen, h, eq_comm]

theorem shown_integer (n : Int) : (Value.integer n).shown = (widen n).map fun _ => integerText n := by
  cases h : widen n <;> simp [shown, format, toText, formatNumber, h, Except.map, plain]

/-- The values without words are the whole numbers beyond the largest number. -/
theorem shown_eq_error_iff {v : Value} {f : Fault} :
    v.shown = .error f ↔ ∃ n, v = .integer n ∧ Binary64.ofInt? n = none ∧ f = .tooLarge := by
  constructor
  · intro h
    cases v with
    | integer n =>
      rw [shown_integer, map_eq_error_iff, widen_eq_error_iff] at h
      exact ⟨n, rfl, h⟩
    | _ => cases h
  · intro h
    obtain ⟨n, rfl, hn⟩ := h
    rw [shown_integer, map_eq_error_iff, widen_eq_error_iff]
    exact hn

end Value

namespace Command

variable {supplied parameters : Parameters} {s : Scene} {id : String}

/-! ## Transformations -/

/-- An amount that counts as a number has words. -/
theorem Transform.exists_shown_of_amountOf {amount : Value} {x : Binary64} (h : amountOf amount = .ok x) :
    ∃ text, amount.shown = .ok text := by
  cases hshown : amount.shown with
  | ok text => exact ⟨text, rfl⟩
  | error f =>
    obtain ⟨n, rfl, hn, -⟩ := Value.shown_eq_error_iff.1 hshown
    rw [amountOf, Value.widen_eq_error_iff.2 ⟨hn, rfl⟩] at h
    cases h

theorem Transform.exists_shown_of_update {operation : Operation} {axis : String} {e : String × Value}
    (h : update operation id supplied s axis = .ok e) :
    ∃ amount text, supplied.fetch axis = .ok amount ∧ amount.shown = .ok text := by
  obtain ⟨amount, current, change, hamount, -, hchange, -⟩ := update_eq_ok_iff.1 h
  obtain ⟨text, htext⟩ := exists_shown_of_amountOf hchange
  exact ⟨amount, text, hamount, htext⟩

theorem Transform.exists_shown_of_updates {operation : Operation} {along : List String}
    {updates : List (String × Value)} (h : along.mapM (update operation id supplied s) = .ok updates) :
    ∃ amounts texts, (along.mapM fun axis => supplied.fetch axis) = .ok amounts ∧
      amounts.mapM Value.shown = .ok texts := by
  induction along generalizing updates with
  | nil => exact ⟨[], [], rfl, rfl⟩
  | cons axis along ih =>
    rw [List.mapM_cons] at h
    obtain ⟨e, he, h⟩ := bind_eq_ok_iff.1 h
    obtain ⟨others, hothers, -⟩ := bind_eq_ok_iff.1 h
    obtain ⟨amount, text, hamount, htext⟩ := exists_shown_of_update he
    obtain ⟨amounts, texts, hamounts, htexts⟩ := ih hothers
    refine ⟨amount :: amounts, text :: texts, ?_, ?_⟩
    · rw [List.mapM_cons, hamount, ok_bind, hamounts]
      rfl
    · rw [List.mapM_cons, htext, ok_bind, htexts]
      rfl

/-- A transformation that plans its writes can report them. -/
theorem Transform.report_of_updates {operation : Operation} {updates : List (String × Value)}
    (h : axes.mapM (update operation id supplied s) = .ok updates) (name : String) :
    ∃ m, report id name supplied = .ok (.ok m .null) := by
  obtain ⟨amounts, texts, hamounts, htexts⟩ := exists_shown_of_updates h
  rw [report, hamounts, ok_bind, htexts]
  exact ⟨_, rfl⟩

/-! ## Command by command -/

/-- Whether a run leaves the scene as it was unless it succeeds. -/
def Spares (c : Command) (parameters : Parameters) (s : Scene) : Prop :=
  (c.run parameters s).2 = s ∨ ∃ m v, (c.run parameters s).1 = .ok (.ok m v)

theorem spares_createElement (ht : supplied.HasText "type") (hn : supplied.HasText "name")
    (hd : createElement.applyDefaults supplied = .ok parameters) (s : Scene) :
    createElement.Spares parameters s := by
  obtain ⟨type, ht⟩ := ht
  obtain ⟨id, hn⟩ := hn
  obtain ⟨x, y, hrun⟩ := exists_run_createElement ht hn hd
  rw [Spares, hrun]
  cases s.hasElement id with
  | true => exact .inl rfl
  | false => exact .inr ⟨_, _, rfl⟩

theorem spares_deleteElement (hi : supplied.HasText "id")
    (hd : deleteElement.applyDefaults supplied = .ok parameters) (s : Scene) :
    deleteElement.Spares parameters s := by
  cases hd
  obtain ⟨id, hi⟩ := hi
  rw [Spares, run_deleteElement (Schema.get?_fill_of_some _ hi)]
  cases s.hasElement id with
  | true => exact .inr ⟨_, _, rfl⟩
  | false => exact .inl rfl

theorem spares_getProperty (hi : supplied.HasText "id") (hp : supplied.HasText "property")
    (hd : getProperty.applyDefaults supplied = .ok parameters) (s : Scene) :
    getProperty.Spares parameters s := by
  cases hd
  obtain ⟨id, hi⟩ := hi
  obtain ⟨property, hp⟩ := hp
  rw [Spares, run_getProperty (Schema.get?_fill_of_some _ hi) (Schema.get?_fill_of_some _ hp)]
  exact .inl rfl

theorem spares_transform (hi : supplied.HasText "id") (ho : HasOperation supplied)
    (hd : transform.applyDefaults supplied = .ok parameters) (s : Scene) :
    transform.Spares parameters s := by
  obtain ⟨id, hi⟩ := hi
  obtain ⟨operation, ho⟩ := ho
  rw [Spares, run_transform_of_fill hi ho hd]
  cases s.hasElement id with
  | false => exact .inl rfl
  | true =>
    cases hu : axes.mapM (Transform.update operation id parameters s) with
    | error f => exact .inl rfl
    | ok updates =>
      obtain ⟨m, hm⟩ := Transform.report_of_updates hu operation.name
      exact .inr ⟨m, .null, hm⟩

end Command

/-- Whether a call sets a property of an element that is there to a whole number beyond the largest
number. -/
structure Call.SetsOversized (call : Call) (s : Scene) (id property : String) (n : Int) : Prop where
  calls : call.name = SetProperty.name
  target : call.parameters.get? "id" = some (.text id)
  places : call.parameters.get? "property" = some (.text property)
  writes : call.parameters.get? "value" = some (.integer n)
  oversized : Binary64.ofInt? n = none
  present : s.hasElement id = true

/-- Setting a property leaves the scene as it was unless it succeeds, or else the value has no words. -/
theorem Command.spares_setProperty {call : Call} {parameters : Parameters} (hname : call.name = SetProperty.name)
    (hi : call.parameters.HasText "id") (hp : call.parameters.HasText "property")
    (hv : ∃ v, call.parameters.get? "value" = some v)
    (hd : setProperty.applyDefaults call.parameters = .ok parameters) (s : Scene) :
    setProperty.Spares parameters s ∨ ∃ id property n, call.SetsOversized s id property n ∧
      setProperty.run parameters s = (.error .tooLarge, s.setProperties id [(property, .integer n)]) := by
  cases hd
  obtain ⟨id, hi⟩ := hi
  obtain ⟨property, hp⟩ := hp
  obtain ⟨v, hv⟩ := hv
  have hrun := run_setProperty (s := s) (Schema.get?_fill_of_some SetProperty.schema hi)
    (Schema.get?_fill_of_some _ hp) (Schema.get?_fill_of_some _ hv)
  rw [Spares, hrun]
  cases hpresent : s.hasElement id with
  | false => exact .inl (.inl rfl)
  | true =>
    cases hshown : v.shown with
    | ok shown => exact .inl (.inr ⟨_, _, rfl⟩)
    | error f =>
      obtain ⟨n, rfl, hn, rfl⟩ := Value.shown_eq_error_iff.1 hshown
      exact .inr ⟨id, property, n, ⟨hname, hi, hp, hv, hn, hpresent⟩, rfl⟩

/-! ## Any invocation -/

namespace Executor

/-- A call to a command that spares the scene leaves it as it was if it fails. -/
theorem scene_of_spares {x : Executor} {call : Call} {c : Command} {parameters : Parameters} {s : Scene}
    (hp : x.prepare call = .ok (c, parameters)) (h : c.Spares parameters s)
    (hfail : (x.runCall call s).1.isOk = false) : (x.runCall call s).2 = s := by
  rw [runCall_of_prepare hp] at hfail ⊢
  rcases h with h | ⟨m, v, h⟩
  · exact h
  · rw [h] at hfail
    cases hfail

/-- **A failing built-in command leaves the scene as it was**, unless it set a property to a whole
number beyond the largest number: the property is then written, and the failure is an internal
error. -/
theorem scene_of_failure (options : Options) (invocation : Invocation) (s : Scene)
    (hfail : ((builtin options).run invocation s).1.isOk = false) :
    ((builtin options).run invocation s).2 = s ∨
      ∃ call id property n, invocation.reading = .ok call ∧ call.SetsOversized s id property n ∧
        (builtin options).run invocation s =
          (.failure "set_property: internal error: int too large to convert to float" .execution,
            s.setProperties id [(property, .integer n)]) := by
  obtain ⟨source, reading⟩ := invocation
  cases reading with
  | error r => exact .inl rfl
  | ok call =>
    have hrun : (builtin options).run ⟨source, .ok call⟩ s = (builtin options).runCall call s := rfl
    rw [hrun] at hfail ⊢
    cases hp : (builtin options).prepare call with
    | error outcome =>
      left
      simp only [runCall, hp]
    | ok prepared =>
      obtain ⟨c, parameters⟩ := prepared
      cases admitted_of_prepare hp with
      | createElement _ ht hn hd =>
        exact .inl (scene_of_spares hp (spares_createElement ht hn.hasText hd s) hfail)
      | deleteElement _ hi hd => exact .inl (scene_of_spares hp (spares_deleteElement hi hd s) hfail)
      | setProperty hname hi hproperty hv hd =>
        rcases spares_setProperty hname hi hproperty.hasText hv hd s with h | ⟨id, property, n, hsets, hset⟩
        · exact .inl (scene_of_spares hp h hfail)
        · refine .inr ⟨call, id, property, n, rfl, hsets, ?_⟩
          rw [runCall_of_prepare hp, hset, hname]
          rfl
      | getProperty _ hi hproperty hd =>
        exact .inl (scene_of_spares hp (spares_getProperty hi hproperty.hasText hd s) hfail)
      | transform _ hi ho hd => exact .inl (scene_of_spares hp (spares_transform hi ho hd s) hfail)

/-- A movement that fails on the second axis has not changed the first. -/
theorem scene_of_failure_transform :
    let s := ({} : Scene).setProperties "c1" [("type", .text "cube"), ("x", .text "1"), ("y", .text "far")]
    let call : Call := ⟨"transform", .ofList [("id", .text "c1"), ("operation", .text "move")]⟩
    ((builtin {}).run ⟨"", .ok call⟩ s).1.isOk = false ∧ ((builtin {}).run ⟨"", .ok call⟩ s).2 = s := by
  intro s call
  have hfail : ((builtin {}).run ⟨"", .ok call⟩ s).1.isOk = false := by decide +kernel
  refine ⟨hfail, (scene_of_failure {} ⟨"", .ok call⟩ s hfail).resolve_right ?_⟩
  rintro ⟨other, id, property, n, hother, hsets, -⟩
  cases hother
  exact absurd hsets.calls (by decide)

/-- The exception: a failure that leaves a property written. -/
theorem oversized_property_written :
    let s := ({} : Scene).setProperties "c1" [("type", .text "cube")]
    let call : Call := ⟨"set_property", .ofList [("id", .text "c1"), ("property", .text "p"),
      ("value", .integer (Int.ofNat (Nat.pow 10 400)))]⟩
    ((builtin {}).run ⟨"", .ok call⟩ s).1.isOk = false ∧ ((builtin {}).run ⟨"", .ok call⟩ s).2 ≠ s := by
  decide +kernel

end Executor

end SceneLang
