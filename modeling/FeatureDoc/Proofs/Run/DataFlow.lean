/-
# Data between the steps of a run

The steps of a run share the context: a step that passes binds the value that it yields to the
target of its definition, and later steps find it there. What a call is given can so be read off
the calls before it and the values bound before the run.

* `StepCall.yield?`, `yields` : what calls yield, and for which names;
* `Passed.context_eq` : what steps that pass make of a context;
* `StepCall.Supplied` : where the arguments of a call come from if nothing nearer provides them;
* `run_data_flow` : the context after a run, and the arguments of each call in it.
-/
import FeatureDoc.Proofs.Argument.Resolution
import FeatureDoc.Proofs.Run.Protocol
import FeatureDoc.Feature.Draft

namespace FeatureDoc

/-! ## What calls yield -/

/-- The value that a call yields, with the name to which it is bound. There is none if the
definition has no target, or if its implementation fails or yields no value. -/
def StepCall.yield? (call : StepCall) : Option (Text × Value) :=
  match call.definition.target, call.definition.run call.args with
  | some name, .ok (some v) => some (name, v)
  | _, _ => none

/-- The values that calls yield, one after the other. Of several values for a name the last one
counts. -/
def yields (calls : List StepCall) : Row := calls.filterMap StepCall.yield?

/-- Values updated by the bindings of a row, one after the other. -/
def Dictionary.insertAll (values : Dictionary Value) (row : Row) : Dictionary Value :=
  row.foldl (fun values binding => values.insert binding.1 binding.2) values

/-- After an update a name has the value of its last binding, or else the value that it had. -/
theorem Dictionary.find?_insertAll (values : Dictionary Value) (row : Row) (name : Text) :
    (values.insertAll row).find? name = (Row.get? row name).or (values.find? name) := by
  induction row generalizing values with
  | nil => rfl
  | cons binding row ih =>
    have hstep : (values.insert binding.1 binding.2).find? name =
        (if binding.1 = name then some binding.2 else none).or (values.find? name) := by
      by_cases h : binding.1 = name
      · subst h
        simp
      · rw [if_neg h, Option.none_or, Dictionary.find?_insert_of_ne (Ne.symm h)]
    rw [Dictionary.insertAll, List.foldl_cons, ← Dictionary.insertAll, ih, hstep, Row.get?_cons,
      Option.or_assoc]

/-- What a step that passes yields is bound after it. -/
theorem StepCall.injectOutput_eq {call : StepCall} {output : Option Value}
    (h : call.definition.run call.args = .ok output) (c : Context) :
    c.injectOutput call.definition output =
      { c with values := c.values.insertAll (yields [call]) } := by
  unfold Context.injectOutput yields StepCall.yield?
  cases htarget : call.definition.target <;> cases output <;> simp [h, htarget] <;> rfl

/-- An update by two rows is an update by the first and then by the second. -/
theorem Dictionary.insertAll_append (values : Dictionary Value) (row others : Row) :
    values.insertAll (row ++ others) = (values.insertAll row).insertAll others :=
  List.foldl_append

/-- Steps that pass leave a context as it is, but for the values that they yield and the reports
that they have passed. -/
theorem Passed.context_eq {r : Registry} {c c' : Context} {index : Nat} {calls : List StepCall}
    (h : Passed r c index calls c') :
    c' = { c with
      values := c.values.insertAll (yields calls)
      reports := c.reports ++ passReports index (calls.map StepCall.step) } := by
  have hreports := h.reports_eq
  suffices hframe : c' = { c with
      values := c.values.insertAll (yields calls), reports := c'.reports } by
    rw [← hreports]
    exact hframe
  clear hreports
  induction h with
  | nil c index => rfl
  | @cons c c₁ c₂ index call rest first _ ih =>
    obtain ⟨m, output, -, -, -, hrun, rfl⟩ := first
    rw [ih, StepCall.injectOutput_eq hrun]
    have hyields : yields (call :: rest) = yields [call] ++ yields rest :=
      List.filterMap_append (l := [call])
    rw [hyields, Dictionary.insertAll_append]
    rfl

/-! ## What calls are given -/

/-- A name that is no column of the row has the value that is bound to it, or else the default. -/
theorem Context.or_default_of_findOrDefault {c : Context} {step : Step} {formal : Formal}
    {found : Value × Bool} (hrow : c.row.bind (Row.get? · formal.name) = none)
    (h : formal.findOrDefault step c.source formal.name = .ok found) :
    (c.value? formal.name).or formal.default = some found.1 := by
  have hfind : c.source.find formal.name formal.name = .ok (c.value? formal.name) := by
    have hsource : c.source.row.bind (Row.get? · formal.name) = none := hrow
    rw [Source.find, hsource]
    simp only [Context.source, Context.lookup]
    cases c.value? formal.name <;> rfl
  rw [Formal.findOrDefault, hfind] at h
  cases hvalue : c.value? formal.name with
  | some v =>
    rw [hvalue] at h
    obtain rfl := Except.ok.inj h
    rfl
  | none =>
    rw [hvalue, Formal.fallback] at h
    cases hdefault : formal.default with
    | some v =>
      rw [hdefault] at h
      obtain rfl := Except.ok.inj h
      rfl
    | none =>
      rw [hdefault] at h
      cases h

/-- Where the arguments of a call come from. They are the values that its formals get, in the order
of the formals. A formal may have a value that is nearer than those of the context: a constant or an
alias of the step, what the matched definition binds, or a column of the row. Any other formal gets
the value that the calls before have last yielded for its name, or else the one that was bound to it
before the run, or else its default. -/
def StepCall.Supplied (call : StepCall) (r : Registry) (c : Context) (before : List StepCall) :
    Prop :=
  ∃ (m : Registry.Match) (bound : Arguments) (given : Formal → Option Value),
    r.find? call.step.type call.step.lookupText = some m ∧
    m.definition = call.definition ∧ call.step.bindings m.captures = .ok bound ∧
    (call.args = call.definition.formals.filterMap fun formal =>
      (given formal).map (formal.name, ·)) ∧
    ∀ formal ∈ call.definition.formals,
      call.step.constants.find? formal.name = none → call.step.aliases.find? formal.name = none →
      bound.get? formal.name = none → c.row.bind (Row.get? · formal.name) = none →
      ∃ v, given formal = some v ∧
        (((yields before).get? formal.name).or (c.value? formal.name)).or formal.default = some v

/-- A call whose arguments are resolved after steps that have passed is supplied. -/
theorem Passed.supplied {r : Registry} {c c₁ : Context} {index : Nat} {before : List StepCall}
    (h : Passed r c index before c₁) {step : Step} {m : Registry.Match} {args : Arguments}
    (hfound : r.find? step.type step.lookupText = some m) (hargs : m.arguments step c₁ = .ok args) :
    StepCall.Supplied ⟨step, m.definition, args⟩ r c before := by
  have hvalue (name : Text) : c₁.value? name = ((yields before).get? name).or (c.value? name) := by
    rw [h.context_eq]
    exact Dictionary.find?_insertAll c.values (yields before) name
  have hrow : c₁.row = c.row := by rw [h.context_eq]
  rw [Registry.Match.arguments] at hargs
  cases hbindings : step.bindings m.captures with
  | error cause =>
    rw [hbindings] at hargs
    cases hargs
  | ok bound =>
    rw [hbindings] at hargs
    obtain ⟨hall, rfl⟩ := Step.resolve_eq_ok_iff.mp hargs
    refine ⟨m, bound, step.provided? bound c₁.source, hfound, rfl, hbindings, rfl, ?_⟩
    intro formal hformal hconstant halias hbound hcolumn
    obtain ⟨found, hresolved⟩ := hall formal hformal
    rw [Step.provided?_of_ok hresolved, ← hvalue]
    rw [resolveOne_of_unbound hconstant halias hbound] at hresolved
    cases hlast : formal.findOrDefault step c₁.source formal.name with
    | error e =>
      rw [hlast] at hresolved
      cases hresolved
    | ok last =>
      rw [hlast] at hresolved
      obtain rfl := Except.ok.inj hresolved
      rw [← hrow] at hcolumn
      exact ⟨last.1, rfl, Context.or_default_of_findOrDefault hcolumn hlast⟩

/-- Steps that pass consist of the first of them and of the others, which pass after these. -/
theorem Passed.of_append {r : Registry} {c c' : Context} {index : Nat}
    {calls others : List StepCall} (h : Passed r c index (calls ++ others) c') :
    ∃ c₁, Passed r c index calls c₁ ∧ Passed r c₁ (index + calls.length) others c' := by
  induction calls generalizing c index with
  | nil => exact ⟨c, .nil c index, h⟩
  | cons call calls ih =>
    cases h with
    | cons first rest =>
      obtain ⟨c₁, hcalls, hothers⟩ := ih rest
      refine ⟨c₁, .cons first hcalls, ?_⟩
      rwa [List.length_cons, Nat.add_comm calls.length, ← Nat.add_assoc]

/-- Each of the steps that pass is supplied by those before it. -/
theorem Passed.supplied_of_getElem? {r : Registry} {c c' : Context} {index : Nat}
    {calls : List StepCall} (h : Passed r c index calls c') {k : Nat} {call : StepCall}
    (hk : calls[k]? = some call) : call.Supplied r c (calls.take k) := by
  obtain ⟨hlt, rfl⟩ := List.getElem?_eq_some_iff.mp hk
  rw [← List.take_append_drop k calls, List.drop_eq_getElem_cons hlt] at h
  obtain ⟨c₁, hbefore, hrest⟩ := h.of_append
  cases hrest with
  | cons first _ =>
    obtain ⟨m, -, hfound, hdefinition, hargs, -, -⟩ := first
    have hsupplied := hbefore.supplied hfound hargs
    rwa [hdefinition] at hsupplied

/-! ## Runs -/

/-- The call of an implementation that an event announces. -/
def Event.call? : Event → Option (Definition × Arguments)
  | beforeStepCall d args => some (d, args)
  | _ => none

/-- The steps that pass announce their own calls. -/
theorem filterMap_call?_events (calls : List StepCall) :
    (calls.flatMap StepCall.events).filterMap Event.call? =
      calls.map fun call => (call.definition, call.args) := by
  induction calls with
  | nil => rfl
  | cons call calls ih =>
    rw [List.flatMap_cons, List.filterMap_append, ih]
    rfl

/-- After the steps that pass at most one more call is announced: that of the step which fails, and
its arguments have been resolved. -/
theorem Ends.exists_last {r : Registry} {f : Feature} {s : Scenario} {c : Context} {index : Nat}
    {left : List Step} {error : Option ExecutionError} {reports : List StepReport}
    {trace : List Event} (h : Ends r f s c index left error reports trace) :
    ∃ last : Option StepCall,
      trace.filterMap Event.call? =
        last.toList.map (fun call => (call.definition, call.args)) ∧
      ∀ call ∈ last, left.head? = some call.step ∧
        ∃ m, r.find? call.step.type call.step.lookupText = some m ∧
          m.definition = call.definition ∧ m.arguments call.step c = .ok call.args := by
  cases h with
  | passed => exact ⟨none, rfl, by simp⟩
  | notFound => exact ⟨none, rfl, by simp⟩
  | unresolved => exact ⟨none, rfl, by simp⟩
  | @handler step _ _ m args _ _ found resolved =>
    refine ⟨some ⟨step, m.definition, args⟩, rfl, fun call hcall => ?_⟩
    obtain rfl := Option.some.inj hcall
    exact ⟨rfl, m, found, rfl, resolved⟩

/-- Calls of which all but a last one pass are supplied by those that pass before them. -/
theorem Passed.supplied_of_last {r : Registry} {c c₁ : Context} {calls : List StepCall}
    {index : Nat} (h : Passed r c index calls c₁) {last : Option StepCall}
    (hlast : ∀ call ∈ last, ∃ m, r.find? call.step.type call.step.lookupText = some m ∧
      m.definition = call.definition ∧ m.arguments call.step c₁ = .ok call.args)
    {k : Nat} {call : StepCall} (hk : (calls ++ last.toList)[k]? = some call) :
    call.Supplied r c (calls.take k) := by
  by_cases hlt : k < calls.length
  · rw [List.getElem?_append_left hlt] at hk
    exact h.supplied_of_getElem? hk
  · have hle : calls.length ≤ k := Nat.le_of_not_lt hlt
    rw [List.getElem?_append_right hle] at hk
    have hmem : call ∈ last := Option.mem_toList.mp (List.mem_of_getElem? hk)
    obtain ⟨m, hfound, hdefinition, hargs⟩ := hlast call hmem
    have hsupplied := h.supplied hfound hargs
    rw [List.take_of_length_le hle]
    rwa [hdefinition] at hsupplied

/-- The flow of data in a run. A step that fails changes nothing of the context but adds its report.
If scenarios have to be covered and this one is not, the run calls nothing and leaves the context as
it is. Otherwise the steps are some that pass and those that are left, of which the first one fails
if there is any. The run leaves the context as it is, but for the values that the steps which have
passed have yielded, in the order of the steps, and for the reports. Every call of an
implementation, those of the steps that have passed and one that may have failed after them, is
supplied by the steps that have passed before it. -/
theorem run_data_flow (r : Registry) (f : Feature) (s : Scenario) (validating : Bool)
    (c : Context) :
    (∀ c' index step e, (runStep r f s c' index step).error = some e →
      ∃ report, (runStep r f s c' index step).context = c'.record report) ∧
    ((∃ cause, validating = true ∧ f.validate s = .error cause ∧
        (run r validating f s c).context = c ∧
        (run r validating f s c).events.filterMap Event.call? = []) ∨
      ((validating = true → f.validate s = .ok ()) ∧
        ∃ (calls : List StepCall) (last : Option StepCall) (left : List Step) (c₁ : Context)
          (reports : List StepReport) (trace : List Event),
          f.stepsOf s = calls.map StepCall.step ++ left ∧ Passed r c 0 calls c₁ ∧
          Ends r f s c₁ calls.length left (run r validating f s c).error reports trace ∧
          (∀ call ∈ last, left.head? = some call.step) ∧
          (run r validating f s c).context = { c with
            values := c.values.insertAll (yields calls)
            reports := c.reports ++ (passReports 0 (calls.map StepCall.step) ++ reports) } ∧
          (run r validating f s c).events.filterMap Event.call? =
            (calls ++ last.toList).map (fun call => (call.definition, call.args)) ∧
          ∀ (k : Nat) (call : StepCall), (calls ++ last.toList)[k]? = some call →
            call.Supplied r c (calls.take k))) := by
  constructor
  · intro c' index step e he
    rcases runStep_cases r f s c' index step with
      ⟨-, -, -, hnone, -⟩ | ⟨e', reports, hends, hsome, hcontext⟩
    · rw [hnone] at he
      cases he
    · obtain ⟨report, rfl, -⟩ := (hends []).exists_report
      exact ⟨report, hcontext⟩
  · by_cases hvalid : validating = true → f.validate s = .ok ()
    · refine Or.inr ⟨hvalid, ?_⟩
      obtain ⟨herror, hcontext, hevents⟩ := run_of_valid r f s c hvalid
      obtain ⟨calls, c₁, left, reports, trace, hsteps, hpassed, hends, htrace, hafter⟩ :=
        runSteps_protocol r f s c 0 (f.stepsOf s)
      rw [Nat.zero_add, ← herror] at hends
      obtain ⟨last, hlast, hcalled⟩ := hends.exists_last
      refine ⟨calls, last, left, c₁, reports, trace, hsteps, hpassed, hends, fun call hcall =>
        (hcalled call hcall).1, ?_, ?_, fun k call hk =>
        hpassed.supplied_of_last (fun call hcall => (hcalled call hcall).2) hk⟩
      · rw [hcontext, hafter, hpassed.context_eq, List.append_assoc]
      · rw [hevents, htrace, List.cons_append, List.filterMap_cons_none rfl,
          List.filterMap_append, List.filterMap_append, filterMap_call?_events, hlast,
          List.map_append]
        exact List.append_nil _
    · -- nothing is run
      obtain ⟨rfl, hnot⟩ := Classical.not_imp.mp hvalid
      cases hcause : f.validate s with
      | ok => exact absurd hcause hnot
      | error cause =>
        rw [run_of_validate_error r f s c hcause]
        exact Or.inl ⟨cause, rfl, rfl, rfl, rfl⟩

/-- Two steps yield a value for one name, and a third step is given the second of these values. It
is given what was bound before the run for a name that no step yields, and a default for a name that
is not bound at all. -/
theorem run_data_flow_of_counter :
    let t : Text := Text.unlines ["Feature: F", "Scenario: S", "Given one", "When two",
      "Then the sum"]
    let yielding (type : StepType) (name : Text) (n : Int64) : Definition :=
      { type, name, formals := [], run := fun _ => .ok (some (.int n)), target := some "n",
        file := "counter.rs", line := 1 }
    let sum : Definition :=
      { type := .outcome, name := "the sum", formals := [⟨"n", none⟩, ⟨"m", none⟩,
          ⟨"k", some (.int 5)⟩],
        run := fun _ => .ok none, target := none, file := "counter.rs", line := 9 }
    let r := Registry.ofList [yielding .context "one" 1, yielding .action "two" 2, sum]
    let given : Arguments := [("n", .int 2), ("m", .int 9), ("k", .int 5)]
    ∃ f s, parse t = .ok f ∧ s ∈ f.scenarios ∧
      let c := ((Context.ofScenario f s).inject "m" (.int 9)).inject "n" (.int 0)
      (run r true f s c).error = none ∧
      (run r true f s c).context.value? "n" = some (.int 2) ∧
      ∃ (before : List StepCall) (call : StepCall),
        (run r true f s c).events.filterMap Event.call? =
          (before ++ [call]).map (fun call => (call.definition, call.args)) ∧
        (yields before).get? "n" = some (.int 2) ∧
        call.args = given ∧
        call.Supplied r c before := by
  intro t yielding sum r given
  obtain ⟨f, s, hparse, hs, hvalid, herror, hvalue, hcalled⟩ : ∃ f s, parse t = .ok f ∧
      s ∈ f.scenarios ∧ f.validate s = .ok () ∧
      let c := ((Context.ofScenario f s).inject "m" (.int 9)).inject "n" (.int 0)
      (run r true f s c).error = none ∧
      (run r true f s c).context.value? "n" = some (.int 2) ∧
      (run r true f s c).events.filterMap Event.call? =
        [(yielding .context "one" 1, []), (yielding .action "two" 2, []), (sum, given)] :=
    ⟨_, _, rfl, List.mem_cons_self, by rfl, by rfl, by rfl, by rfl⟩
  refine ⟨f, s, hparse, hs, herror, hvalue, ?_⟩
  rcases (run_data_flow r f s true _).2 with ⟨cause, -, hcause, -⟩ |
    ⟨-, calls, last, left, c₁, reports, trace, -, -, hends, hlast, -, hevents, hsupplied⟩
  · rw [hvalid] at hcause
    cases hcause
  · -- all steps have passed
    rw [herror] at hends
    obtain ⟨rfl, -⟩ := hends.eq_nil_of_none
    obtain rfl : last = none := Option.eq_none_iff_forall_not_mem.mpr fun call hcall =>
      absurd (hlast call hcall) nofun
    rw [Option.toList_none, List.append_nil] at hevents hsupplied
    obtain ⟨one, rest, rfl, hone, hrest⟩ := List.map_eq_cons_iff.mp (hevents.symm.trans hcalled)
    obtain ⟨two, rest, rfl, htwo, hrest⟩ := List.map_eq_cons_iff.mp hrest
    obtain ⟨call, rest, rfl, hcall, hrest⟩ := List.map_eq_cons_iff.mp hrest
    obtain rfl := List.map_eq_nil_iff.mp hrest
    obtain ⟨hdefinition, -⟩ := Prod.mk.inj htwo
    have hyield : yields [two] = ([("n", .int 2)] : Row) := by
      rw [yields, List.filterMap_cons, StepCall.yield?, hdefinition]
      rfl
    refine ⟨[one, two], call, hevents, ?_, (Prod.mk.inj hcall).2, hsupplied 2 call rfl⟩
    have happend : yields [one, two] = yields [one] ++ yields [two] :=
      List.filterMap_append (l := [one])
    rw [happend, hyield, Row.get?_append_self]

end FeatureDoc
