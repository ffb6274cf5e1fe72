/-
The stages of an invocation.

The stages are stated here without the functions that run them. `Passes` says that no stage stops a
call, and `Stops` lists the stages that can stop an invocation, each with the outcome it comes to.
`Reported` says what becomes of an answer: what is returned stays as it is, and what is raised
becomes a failure. Commands are arbitrary, so each of their four hooks may fault or answer anything.
`Handled` says what an invocation comes to and the scene it leaves in either case, and `HandledAll`
says it of invocations one after the other.

* `passes_iff` and `stops_iff`: the two are what `prepare` decides.
* `run_of_passes`, `run_of_stops`: what the executor does in either case.
* `run_passes_or_stops`: exactly one of the two holds of every invocation.
-/
import SceneLang.Proofs.Checking

namespace SceneLang

/-- Whether a count of the scene goes up by one whenever a command runs, and so counts the runs. -/
def Registry.Counts (r : Registry) (count : Scene → Nat) : Prop :=
  ∀ name c, r.get? name = some c → ∀ parameters s, count (c.run parameters s).2 = count s + 1

namespace Executor

/-! ## The stages -/

/-- Whether strict options, if they are on, find all the supplied names declared. -/
def Checks (x : Executor) (call : Call) (c : Command) : Prop :=
  x.options.isStrict = true →
    ∃ schema, c.schema = .ok schema ∧ schema.check call.name call.parameters true = .ok ()

/-- Whether no stage stops a call, and the command and the parameters that it is run with. -/
structure Passes (x : Executor) (call : Call) (c : Command) (parameters : Parameters) : Prop where
  registered : x.registry.get? call.name = some c
  accepted : c.Accepts call.parameters
  checked : x.Checks call c
  filled : c.applyDefaults call.parameters = .ok parameters

/-- What an answer of a hook is reported as: an outcome as it is, an error of the language as the
failure of its message and kind, any other fault as an internal error of the command. -/
inductive Reported (name : String) : Except Fault Outcome → Outcome → Prop
  | returned {outcome} : Reported name (.ok outcome) outcome
  | declared {e : SceneError} : Reported name (.error (.scene e)) (.failure e.message e.kind)
  | internal {f : Fault} : (∀ e, f ≠ .scene e) →
      Reported name (.error f) (.failure s!"{name}: internal error: {f.message}" .execution)

/-- What the failure of an invocation that is no call is called. -/
def rejectionLabel : ErrorKind → String
  | .lexical => "Lexical error"
  | _ => "Syntax error"

/-- The stages that can stop an invocation, in order, and the outcome that each comes to. -/
inductive Stops (x : Executor) (invocation : Invocation) : Outcome → Prop
  /-- it is no call -/
  | rejected {r kind} : invocation.reading = .error r → kind = r.kind.getD .grammar →
      Stops x invocation (.failure s!"{rejectionLabel kind}: {r.diagnosticText}" kind)
  /-- there is no such command -/
  | unregistered {call} : invocation.reading = .ok call → x.registry.get? call.name = none →
      Stops x invocation (.failure s!"Unknown command '{call.name}'" .unknownCommand)
  /-- the command does not accept the parameters; what it says of them is handed on as it is -/
  | refused {call c validation} : invocation.reading = .ok call → x.registry.get? call.name = some c →
      c.validate call.parameters = .ok validation → validation.isOk = false → Stops x invocation validation
  /-- it faults instead of saying whether it accepts them -/
  | validating {call c f outcome} : invocation.reading = .ok call → x.registry.get? call.name = some c →
      c.validate call.parameters = .error f → Reported call.name (.error f) outcome → Stops x invocation outcome
  /-- strict options find an undeclared name or a violation, or no schema to look in -/
  | checking {call c f outcome} : invocation.reading = .ok call → x.registry.get? call.name = some c →
      c.Accepts call.parameters → x.options.isStrict = true →
      c.schema = .error f ∨
        (∃ schema, c.schema = .ok schema ∧ schema.check call.name call.parameters true = .error f) →
      Reported call.name (.error f) outcome → Stops x invocation outcome
  /-- it faults instead of filling in the defaults -/
  | filling {call c f outcome} : invocation.reading = .ok call → x.registry.get? call.name = some c →
      c.Accepts call.parameters → x.Checks call c → c.applyDefaults call.parameters = .error f →
      Reported call.name (.error f) outcome → Stops x invocation outcome

/-- What an invocation comes to in a scene, and the scene after it: its command runs if no stage stops
it, and otherwise the scene stays as it is. -/
inductive Handled (x : Executor) (invocation : Invocation) (s : Scene) : Outcome → Scene → Prop
  | ran {call c parameters outcome} : invocation.reading = .ok call → x.Passes call c parameters →
      Reported call.name (c.run parameters s).1 outcome → Handled x invocation s outcome (c.run parameters s).2
  | stopped {outcome} : x.Stops invocation outcome → Handled x invocation s outcome s

/-- What invocations come to one after the other, each in the scene that those before it left, and the
scene after the last. -/
inductive HandledAll (x : Executor) : List Invocation → Scene → List Outcome → Scene → Prop
  | nil {s} : HandledAll x [] s [] s
  | cons {invocation rest s outcome between outcomes after} : x.Handled invocation s outcome between →
      HandledAll x rest between outcomes after → HandledAll x (invocation :: rest) s (outcome :: outcomes) after

/-! ## The stages and the functions that run them -/

variable {x : Executor} {invocation : Invocation} {call : Call} {c : Command} {parameters : Parameters}
  {outcome : Outcome} {f : Fault} {s : Scene}

theorem reported_iff {name : String} {answer : Except Fault Outcome} :
    Reported name answer outcome ↔
      outcome = match answer with
        | .ok o => o
        | .error f => faultOutcome name f := by
  constructor
  · intro h
    cases h with
    | returned | declared => rfl
    | @internal f hf =>
      cases f with
      | scene e => exact absurd rfl (hf e)
      | _ => rfl
  · rintro rfl
    cases answer with
    | ok o => exact .returned
    | error f =>
      cases f with
      | scene e => exact .declared
      | _ => exact .internal (by simp)

theorem reported_error_iff {name : String} : Reported name (.error f) outcome ↔ outcome = faultOutcome name f :=
  reported_iff

theorem checks_iff : x.Checks call c ↔ x.strictCheck call c = .ok () := by
  unfold Checks strictCheck
  by_cases hs : x.options.isStrict = true
  · cases hschema : c.schema <;> simp [hs, Except.bind]
  · simp [hs]

theorem strictCheck_eq_error_iff : x.strictCheck call c = .error f ↔ x.options.isStrict = true ∧
    (c.schema = .error f ∨
      ∃ schema, c.schema = .ok schema ∧ schema.check call.name call.parameters true = .error f) := by
  unfold strictCheck
  by_cases hs : x.options.isStrict = true
  · cases hschema : c.schema <;> simp [hs, Except.bind]
  · simp [hs]

theorem passes_iff : x.Passes call c parameters ↔ x.prepare call = .ok (c, parameters) := by
  rw [prepare_eq_ok_iff]
  constructor
  · intro h
    exact ⟨h.registered, h.accepted, checks_iff.1 h.checked, h.filled⟩
  · rintro ⟨hc, ha, hcheck, hd⟩
    exact ⟨hc, ha, checks_iff.2 hcheck, hd⟩

/-- A stage that stops a call stops its preparation. -/
theorem prepare_of_stops (h : x.Stops invocation outcome) (hcall : invocation.reading = .ok call) :
    x.prepare call = .error outcome := by
  cases h with
  | rejected hr => rw [hcall] at hr; cases hr
  | unregistered hr hc =>
    cases hcall.symm.trans hr
    rw [prepare, hc]
    rfl
  | refused hr hc hv hrefused =>
    cases hcall.symm.trans hr
    exact prepare_of_refused hc hv hrefused
  | validating hr hc hv hreported =>
    cases hcall.symm.trans hr
    rw [prepare_of_faulted hc hv, reported_error_iff.1 hreported]
  | checking hr hc ha hs hcheck hreported =>
    cases hcall.symm.trans hr
    rw [prepare_of_strictCheck hc ha (strictCheck_eq_error_iff.2 ⟨hs, hcheck⟩), reported_error_iff.1 hreported]
  | filling hr hc ha hcheck hd hreported =>
    cases hcall.symm.trans hr
    rw [prepare_of_unfilled hc ha (checks_iff.1 hcheck) hd, reported_error_iff.1 hreported]

theorem stops_of_ready (hcall : invocation.reading = .ok call) (hc : x.registry.get? call.name = some c)
    (h : x.ready call c = .error outcome) : x.Stops invocation outcome := by
  unfold ready at h
  split at h
  · next f hv =>
    cases h
    exact .validating hcall hc hv (reported_error_iff.2 rfl)
  · next validation hv =>
    by_cases hok : validation.isOk = true
    · rw [if_pos hok] at h
      split at h
      · next f hcheck =>
        cases h
        obtain ⟨hs, hcause⟩ := strictCheck_eq_error_iff.1 hcheck
        exact .checking hcall hc ⟨validation, hv, hok⟩ hs hcause (reported_error_iff.2 rfl)
      · next hcheck =>
        split at h
        · next f hd =>
          cases h
          exact .filling hcall hc ⟨validation, hv, hok⟩ (checks_iff.2 hcheck) hd (reported_error_iff.2 rfl)
        · cases h
    · rw [if_neg hok] at h
      cases h
      exact .refused hcall hc hv (Bool.eq_false_iff.2 hok)

/-- What stops the preparation of a call is one of the stages. -/
theorem stops_of_prepare (hcall : invocation.reading = .ok call) (h : x.prepare call = .error outcome) :
    x.Stops invocation outcome := by
  unfold prepare at h
  split at h
  · next hc =>
    cases h
    exact .unregistered hcall hc
  · next c hc => exact stops_of_ready hcall hc (map_eq_error_iff.1 h)

theorem stops_iff (hcall : invocation.reading = .ok call) :
    x.Stops invocation outcome ↔ x.prepare call = .error outcome :=
  ⟨fun h => prepare_of_stops h hcall, stops_of_prepare hcall⟩

theorem stops_rejected_iff {r : Rejection} (hr : invocation.reading = .error r) :
    x.Stops invocation outcome ↔ outcome = rejectionOutcome r := by
  have hlabel : ∀ kind : ErrorKind,
      (if kind = .lexical then "Lexical error" else "Syntax error") = rejectionLabel kind := by
    intro kind
    cases kind <;> rfl
  have houtcome : rejectionOutcome r =
      .failure s!"{rejectionLabel (r.kind.getD .grammar)}: {r.diagnosticText}" (r.kind.getD .grammar) := by
    rw [rejectionOutcome, hlabel]
  rw [houtcome]
  constructor
  · intro h
    cases h with
    | rejected hr' hkind =>
      cases hr.symm.trans hr'
      rw [hkind]
    | unregistered hcall | refused hcall | validating hcall | checking hcall | filling hcall =>
      rw [hr] at hcall
      cases hcall
  · rintro rfl
    exact .rejected hr rfl

/-! ## What the executor does -/

/-- A call that no stage stops is run once, and its answer is reported. -/
theorem run_of_passes (hcall : invocation.reading = .ok call) (h : x.Passes call c parameters) (s : Scene) :
    Reported call.name (c.run parameters s).1 (x.run invocation s).1 ∧
      (x.run invocation s).2 = (c.run parameters s).2 := by
  rw [run_of_reading hcall, runCall_of_prepare (passes_iff.1 h)]
  exact ⟨reported_iff.2 rfl, rfl⟩

/-- An invocation that is stopped comes to the outcome of that stage and changes nothing. -/
theorem run_of_stops (h : x.Stops invocation outcome) (s : Scene) : x.run invocation s = (outcome, s) := by
  cases hr : invocation.reading with
  | error r =>
    rw [run, hr, (stops_rejected_iff hr).1 h]
  | ok call => rw [run_of_reading hr, runCall_of_stopped ((stops_iff hr).1 h)]

/-- What stops an invocation is settled by the invocation alone. -/
theorem stops_iff_of_stops {stopped : Outcome} (h : x.Stops invocation stopped) (s : Scene) :
    (∀ outcome, x.Stops invocation outcome ↔ outcome = (x.run invocation s).1) ∧ (x.run invocation s).2 = s := by
  have hrun := run_of_stops h s
  refine ⟨fun outcome => ⟨fun ho => ?_, fun ho => ?_⟩, by rw [hrun]⟩
  · rw [run_of_stops ho s]
  · rw [ho, hrun]
    exact h

/-- An invocation is a call that no stage stops, or some stage stops it. -/
theorem exists_passes_or_stops (x : Executor) (invocation : Invocation) :
    (∃ call c parameters, invocation.reading = .ok call ∧ x.Passes call c parameters) ∨
      ∃ outcome, x.Stops invocation outcome := by
  cases hr : invocation.reading with
  | error r => exact .inr ⟨_, (stops_rejected_iff hr).2 rfl⟩
  | ok call =>
    cases hp : x.prepare call with
    | error stopped => exact .inr ⟨stopped, (stops_iff hr).2 hp⟩
    | ok prepared => exact .inl ⟨call, prepared.1, prepared.2, rfl, passes_iff.2 hp⟩

theorem not_stops_of_passes (hcall : invocation.reading = .ok call) (h : x.Passes call c parameters)
    (outcome : Outcome) : ¬x.Stops invocation outcome := by
  rw [stops_iff hcall, passes_iff.1 h]
  simp

theorem handled_run (x : Executor) (invocation : Invocation) (s : Scene) :
    x.Handled invocation s (x.run invocation s).1 (x.run invocation s).2 := by
  rcases x.exists_passes_or_stops invocation with ⟨call, c, parameters, hcall, hpasses⟩ | ⟨outcome, hstops⟩
  · obtain ⟨hreported, hscene⟩ := run_of_passes hcall hpasses s
    rw [hscene]
    exact .ran hcall hpasses hreported
  · rw [run_of_stops hstops s]
    exact .stopped hstops

theorem handledAll_runAll (x : Executor) (invocations : List Invocation) (s : Scene) :
    x.HandledAll invocations s (x.runAll invocations s).1 (x.runAll invocations s).2 := by
  induction invocations generalizing s with
  | nil => exact .nil
  | cons invocation rest ih => exact .cons (handled_run x invocation s) (ih (x.run invocation s).2)

/-- **Every invocation is run once or stopped.** Whatever the commands are and whatever their hooks
do, either no stage stops the invocation, and its command is run once with the parameters as
they are filled in, its answer is reported and the scene is as that run leaves it; or the first stage
that stops it decides the outcome, no command is run and the scene stays as it was. In a batch each
statement goes through the stages, in the scene that those before it left and however they ended, and
the batch leaves the scene that the last one leaves. -/
theorem run_passes_or_stops (x : Executor) :
    (∀ invocation s,
      (∃ call c parameters, invocation.reading = .ok call ∧ x.Passes call c parameters ∧
        (∀ outcome, ¬x.Stops invocation outcome) ∧
        Reported call.name (c.run parameters s).1 (x.run invocation s).1 ∧
        (x.run invocation s).2 = (c.run parameters s).2 ∧
        ∀ count, x.registry.Counts count → count (x.run invocation s).2 = count s + 1) ∨
      ((∀ call c parameters, invocation.reading = .ok call → ¬x.Passes call c parameters) ∧
        (∀ outcome, x.Stops invocation outcome ↔ outcome = (x.run invocation s).1) ∧
        (x.run invocation s).2 = s)) ∧
    ∀ text s, x.HandledAll (Invocation.parseAll x.options.isLenient text) s
      (x.executeBatch text s).1 (x.executeBatch text s).2 := by
  refine ⟨fun invocation s => ?_, fun text s => handledAll_runAll x _ s⟩
  rcases x.exists_passes_or_stops invocation with ⟨call, c, parameters, hcall, hpasses⟩ | ⟨stopped, hstops⟩
  · obtain ⟨hreported, hscene⟩ := run_of_passes hcall hpasses s
    refine .inl ⟨call, c, parameters, hcall, hpasses, not_stops_of_passes hcall hpasses, hreported, hscene,
      fun count hcount => ?_⟩
    rw [hscene, hcount call.name c hpasses.registered]
  · refine .inr ⟨fun call c parameters hcall hpasses => ?_, stops_iff_of_stops hstops s⟩
    exact not_stops_of_passes hcall hpasses stopped hstops

end Executor

/-! ## Commands that count their runs -/

/-- How often a scene says that commands have run in it. -/
def Scene.tally (s : Scene) : Nat :=
  match s.vars.get? "tally" with
  | some (.integer (.ofNat n)) => n
  | _ => 0

/-- The command that counts its runs. -/
def Command.tally : Command :=
  .standard "tally" "Count the runs" (.ok []) fun _ s => (.ok .done, s.set "tally" (.integer (.ofNat (s.tally + 1))))

/-- A command that would count its runs too, but accepts nothing: it says so without a kind, and gives
a value all the same. -/
def Command.closed : Command :=
  { Command.tally with
    name := "closed"
    listing := "closed"
    validate := fun _ => .ok { isOk := false, message? := some "not today", value := .bool true } }

theorem Registry.counts_tally : (Registry.ofList [.tally, .closed]).Counts Scene.tally := by
  intro name c hc parameters s
  have hentries : (Registry.ofList [.tally, .closed]).commands.entries =
      [("tally", .tally), ("closed", .closed)] := rfl
  have hrun : c.run = Command.tally.run := by
    rw [Registry.get?, OrderedMap.get?, hentries, OrderedMap.lookup_cons, OrderedMap.lookup_cons,
      List.lookup_nil] at hc
    split at hc
    · cases hc
      rfl
    · split at hc <;> cases hc
      rfl
  have htally : Command.tally.run parameters s =
      (.ok .done, s.set "tally" (.integer (.ofNat (s.tally + 1)))) := rfl
  rw [hrun, htally, Scene.tally, Scene.set, OrderedMap.get?_insert, if_pos rfl]

/-- Of a call that passes the command runs once; a call that its command refuses comes to what the
command says of it, as it stands, and leaves the scene as it was. -/
theorem Executor.run_passes_or_stops_tally :
    let x : Executor := ⟨.ofList [.tally, .closed], { strictParameters := .bool true }⟩
    let passed := x.run ⟨"tally()", .ok ⟨"tally", ∅⟩⟩ {}
    let refused := x.run ⟨"closed()", .ok ⟨"closed", ∅⟩⟩ passed.2
    x.registry.Counts Scene.tally ∧ passed.2.tally = 1 ∧
      refused = ({ isOk := false, message? := some "not today", value := .bool true }, passed.2) := by
  intro x passed refused
  refine ⟨Registry.counts_tally, ?_, ?_⟩
  · have hpasses : x.Passes ⟨"tally", ∅⟩ .tally ∅ := ⟨rfl, ⟨_, rfl, rfl⟩, fun _ => ⟨_, rfl, rfl⟩, rfl⟩
    rcases x.run_passes_or_stops.1 ⟨"tally()", .ok ⟨"tally", ∅⟩⟩ {} with
      ⟨call, c, parameters, -, -, -, -, -, hcount⟩ | ⟨hnot, -⟩
    · exact hcount Scene.tally Registry.counts_tally
    · exact absurd hpasses (hnot _ _ _ rfl)
  · have hstops : x.Stops ⟨"closed()", .ok ⟨"closed", ∅⟩⟩ _ := .refused rfl rfl rfl rfl
    rcases x.run_passes_or_stops.1 ⟨"closed()", .ok ⟨"closed", ∅⟩⟩ passed.2 with
      ⟨call, c, parameters, -, -, hnot, -⟩ | ⟨-, hsettled, hscene⟩
    · exact absurd hstops (hnot _)
    · exact Prod.ext ((hsettled _).1 hstops).symm hscene

end SceneLang
