/-
# The protocol of a run

A run calls the definitions of the steps one after the other, up to the first step that fails. What
can be watched of it, the reports that it adds and the error that it ends with are kept apart, and
all three say the same.

* `Passed` : steps that pass one after the other, with the contexts between them;
* `Ends` : how the steps after these end: there are none, or the first one fails;
* `runStep_cases` : the four ways out of a step;
* `runSteps_protocol` : a run consists of steps that pass and an end;
* `run_protocol` : the events, the reports and the error of a run.
-/
import FeatureDoc.Run.Basic

namespace FeatureDoc

/-! ## Steps that pass -/

/-- A step whose definition is called. -/
structure StepCall where
  step : Step
  definition : Definition
  args : Arguments

namespace StepCall

/-- What can be watched of a step that passes. -/
def events (call : StepCall) : List Event :=
  [.beforeStep call.step, .beforeStepCall call.definition call.args,
    .afterStep call.definition call.args]

/-- A step passes in a context: its definition is found, its arguments are resolved, and its
implementation succeeds. The context that it leaves holds the value that it has yielded, and the
report that it has passed. -/
def Passes (call : StepCall) (r : Registry) (c : Context) (index : Nat) (c' : Context) : Prop :=
  ∃ m output, r.find? call.step.type call.step.lookupText = some m ∧
    m.definition = call.definition ∧ m.arguments call.step c = .ok call.args ∧
    call.definition.run call.args = .ok output ∧
    c' = (c.injectOutput call.definition output).record (call.step.report index .passed)

end StepCall

/-- Steps pass one after the other, the first of them with the given index: each one in the context
that the step before it has left. -/
inductive Passed (r : Registry) : Context → Nat → List StepCall → Context → Prop
  | nil (c : Context) (index : Nat) : Passed r c index [] c
  | cons {c c₁ c₂ : Context} {index : Nat} {call : StepCall} {rest : List StepCall}
      (first : call.Passes r c index c₁) (others : Passed r c₁ (index + 1) rest c₂) :
      Passed r c index (call :: rest) c₂

/-- The reports that steps have passed, the first of them with the given index. -/
def passReports (index : Nat) (steps : List Step) : List StepReport :=
  steps.mapIdx fun i step => step.report (index + i) .passed

/-- These reports say of every step that it has passed. -/
theorem outcome_of_mem_passReports {index : Nat} {steps : List Step} {report : StepReport}
    (h : report ∈ passReports index steps) : report.outcome = .passed := by
  obtain ⟨i, hi, rfl⟩ := List.mem_mapIdx.mp h
  rfl

/-- Binding the value that a step has yielded adds no report. -/
@[simp] theorem Context.reports_injectOutput (c : Context) (d : Definition)
    (output : Option Value) : (c.injectOutput d output).reports = c.reports := by
  unfold injectOutput
  split <;> rfl

/-- Steps that pass are reported to have passed. -/
theorem Passed.reports_eq {r : Registry} {c c' : Context} {index : Nat} {calls : List StepCall}
    (h : Passed r c index calls c') :
    c'.reports = c.reports ++ passReports index (calls.map StepCall.step) := by
  induction h with
  | nil c index => exact (List.append_nil _).symm
  | @cons c c₁ c₂ index call rest first _ ih =>
    obtain ⟨m, output, -, -, -, -, rfl⟩ := first
    rw [ih, Context.record, Context.reports_injectOutput, List.append_assoc, List.map_cons,
      passReports, passReports, List.mapIdx_cons]
    simp only [List.singleton_append, Nat.add_zero, Nat.add_assoc, Nat.add_comm 1]

/-! ## The end of the steps -/

/-- The error of a run that fails at a step. -/
def Feature.failure (f : Feature) (s : Scenario) (index : Nat) (step : Step)
    (cause : FailureCause) : ExecutionError :=
  .step { index, type := step.type, text := step.lookupText, featurePath := f.pathLabel,
          scenario := s.name, cause }

/-- The error of a run tells the index of the step. -/
@[simp] theorem Feature.stepIndex?_failure (f : Feature) (s : Scenario) (index : Nat) (step : Step)
    (cause : FailureCause) : (f.failure s index step cause).stepIndex? = some index := rfl

/-- The error of a run tells whether no definition was found. -/
@[simp] theorem Feature.isLookupFailure_failure (f : Feature) (s : Scenario) (index : Nat)
    (step : Step) (cause : FailureCause) :
    (f.failure s index step cause).isLookupFailure = true ↔ cause = .notFound :=
  decide_eq_true_iff

/-- How the steps that are left end, the first of them with the given index. The end has an error or
none, reports, and what can be watched of it. -/
inductive Ends (r : Registry) (f : Feature) (s : Scenario) (c : Context) (index : Nat) :
    List Step → Option ExecutionError → List StepReport → List Event → Prop
  /-- No step is left. -/
  | passed : Ends r f s c index [] none [] []
  /-- No definition is found for the first step that is left. -/
  | notFound {step : Step} {rest : List Step} {e : ExecutionError}
      (cause : e = f.failure s index step .notFound)
      (missing : r.find? step.type step.lookupText = none) :
      Ends r f s c index (step :: rest) (some e) [step.report index .notFound]
        [.beforeStep step, .stepLookupError e]
  /-- The arguments of this step cannot be resolved. -/
  | unresolved {step : Step} {rest : List Step} {e : ExecutionError} {m : Registry.Match}
      {why : ResolveError} (cause : e = f.failure s index step (.unresolved why))
      (found : r.find? step.type step.lookupText = some m)
      (refused : m.arguments step c = .error why) :
      Ends r f s c index (step :: rest) (some e) [step.report index (.failed e.message)]
        [.beforeStep step, .stepError e]
  /-- The implementation of this step fails. -/
  | handler {step : Step} {rest : List Step} {e : ExecutionError} {m : Registry.Match}
      {args : Arguments} {why : StepError} (cause : e = f.failure s index step (.handler why))
      (found : r.find? step.type step.lookupText = some m)
      (resolved : m.arguments step c = .ok args) (failed : m.definition.run args = .error why) :
      Ends r f s c index (step :: rest) (some e) [step.report index (.failed e.message)]
        [.beforeStep step, .beforeStepCall m.definition args, .stepError e]

namespace Ends

variable {r : Registry} {f : Feature} {s : Scenario} {c : Context} {index : Nat}
  {left : List Step} {reports : List StepReport} {events : List Event}

/-- An end without an error has no step that is left, and no report. -/
theorem eq_nil_of_none (h : Ends r f s c index left none reports events) :
    left = [] ∧ reports = [] := by
  cases h
  exact ⟨rfl, rfl⟩

/-- An end with an error has one report. It has the index in the error, and says that no definition
was found exactly if the error does. -/
theorem exists_report {e : ExecutionError}
    (h : Ends r f s c index left (some e) reports events) :
    ∃ report, reports = [report] ∧ report.index = index ∧ e.stepIndex? = some index ∧
      report.outcome ≠ .passed ∧
      (report.outcome = .notFound ↔ e.isLookupFailure = true) := by
  cases h with
  | notFound cause =>
    subst cause
    exact ⟨_, rfl, rfl, by simp, by simp [Step.report], by simp [Step.report]⟩
  | unresolved cause =>
    subst cause
    exact ⟨_, rfl, rfl, by simp, by simp [Step.report], by simp [Step.report]⟩
  | handler cause =>
    subst cause
    exact ⟨_, rfl, rfl, by simp, by simp [Step.report], by simp [Step.report]⟩

/-- There is no error exactly if all steps are reported to have passed, those before the end and
those that are left. -/
theorem error_eq_none_iff {error : Option ExecutionError} {before : List Step}
    (h : Ends r f s c index left error reports events) :
    error = none ↔ passReports 0 before ++ reports = passReports 0 (before ++ left) := by
  cases error with
  | none =>
    obtain ⟨rfl, rfl⟩ := h.eq_nil_of_none
    simp
  | some e =>
    obtain ⟨report, rfl, -, -, hfailed, -⟩ := h.exists_report
    -- the report on the failure is none of those that a step has passed
    have hne : passReports 0 before ++ [report] ≠ passReports 0 (before ++ left) := fun heq =>
      hfailed (outcome_of_mem_passReports (heq ▸ List.mem_concat_self))
    simp [hne]

end Ends

/-! ## Runs -/

section

variable (r : Registry) (f : Feature) (s : Scenario)

/-- A step passes, or it is the end whatever steps come after it. -/
theorem runStep_cases (c : Context) (index : Nat) (step : Step) :
    (∃ call : StepCall, call.step = step ∧
      call.Passes r c index (runStep r f s c index step).context ∧
      (runStep r f s c index step).error = none ∧
      (runStep r f s c index step).events = call.events) ∨
    ∃ e reports, (∀ rest, Ends r f s c index (step :: rest) (some e) reports
        (runStep r f s c index step).events) ∧
      (runStep r f s c index step).error = some e ∧
      (runStep r f s c index step).context = { c with reports := c.reports ++ reports } := by
  unfold runStep
  simp only
  split
  · rename_i hmissing
    exact Or.inr ⟨_, _, fun rest => .notFound rfl hmissing, rfl, rfl⟩
  · rename_i m hfound
    split
    · rename_i why hrefused
      exact Or.inr ⟨_, _, fun rest => .unresolved rfl hfound hrefused, rfl, rfl⟩
    · rename_i args hresolved
      split
      · rename_i why hfailed
        exact Or.inr ⟨_, _, fun rest => .handler rfl hfound hresolved hfailed, rfl, rfl⟩
      · rename_i output hrun
        exact Or.inl ⟨⟨step, m.definition, args⟩, rfl,
          ⟨m, output, hfound, rfl, hresolved, hrun, rfl⟩, rfl, rfl⟩

/-- Steps that are run consist of those that pass and of an end. -/
theorem runSteps_protocol (c : Context) (index : Nat) (steps : List Step) :
    ∃ calls c₁ left reports trace, steps = calls.map StepCall.step ++ left ∧
      Passed r c index calls c₁ ∧
      Ends r f s c₁ (index + calls.length) left (runSteps r f s c index steps).error reports
        trace ∧
      (runSteps r f s c index steps).events = calls.flatMap StepCall.events ++ trace ∧
      (runSteps r f s c index steps).context = { c₁ with reports := c₁.reports ++ reports } := by
  induction steps generalizing c index with
  | nil =>
    refine ⟨[], c, [], [], [], rfl, .nil c index, .passed, rfl, ?_⟩
    rw [List.append_nil]
    rfl
  | cons step rest ih =>
    rcases runStep_cases r f s c index step with
      ⟨call, rfl, hpasses, hnone, hevents⟩ | ⟨e, reports, hends, hsome, hcontext⟩
    · -- the step passes, and the others run in the context that it leaves
      obtain ⟨calls, c₁, left, reports, trace, rfl, hpassed, hends, htrace, hcontext⟩ :=
        ih (runStep r f s c index call.step).context (index + 1)
      refine ⟨call :: calls, c₁, left, reports, trace, rfl, .cons hpasses hpassed, ?_, ?_, ?_⟩
      · rw [List.length_cons, Nat.add_comm calls.length, ← Nat.add_assoc]
        simpa only [runSteps, hnone] using hends
      · simp only [runSteps, hnone, hevents, htrace, List.flatMap_cons, List.append_assoc]
      · simpa only [runSteps, hnone] using hcontext
    · -- the step fails, and none of the others is run
      refine ⟨[], c, step :: rest, reports, (runStep r f s c index step).events, rfl,
        .nil c index, ?_, ?_, ?_⟩
      · simpa only [runSteps, hsome, List.length_nil, Nat.add_zero] using hends rest
      · simp only [runSteps, hsome, List.flatMap_nil, List.nil_append]
      · simpa only [runSteps, hsome] using hcontext

/-- A run that validates a scenario which is not covered does nothing else. -/
theorem run_of_validate_error (c : Context) {cause : CoverageError}
    (h : f.validate s = .error cause) : run r true f s c =
      { error := some (.validation cause), context := c, events := [], journal := [] } := by
  rw [run, if_pos rfl, h]

/-- Any other run runs the steps of the scenario between the events of the scenario. -/
theorem run_of_valid {validating : Bool} (c : Context)
    (h : validating = true → f.validate s = .ok ()) :
    (run r validating f s c).error = (runSteps r f s c 0 (f.stepsOf s)).error ∧
      (run r validating f s c).context = (runSteps r f s c 0 (f.stepsOf s)).context ∧
      (run r validating f s c).events = .beforeScenario s.name ::
        (runSteps r f s c 0 (f.stepsOf s)).events ++ [.afterScenario s.name] := by
  have hvalid : (if validating then f.validate s else .ok ()) = .ok () := by
    split
    · rename_i hvalidating
      exact h hvalidating
    · rfl
  rw [run, hvalid]
  exact ⟨rfl, rfl, rfl⟩

/-- The protocol of a run. If scenarios have to be covered and this one is not, the run fails with
that, nothing can be watched and the context stays as it is. Otherwise the steps of the scenario are
some that pass and those that are left, which end in one of four ways. What can be watched of the
passing steps and of the end stands between the events of the scenario, and their reports are added
in this order. The run succeeds exactly if the reports that it adds say of all steps of the scenario
that they have passed. If it fails, its error and the last report agree. -/
theorem run_protocol (validating : Bool) (c : Context) :
    (∃ cause, validating = true ∧ f.validate s = .error cause ∧
      (run r validating f s c).error = some (.validation cause) ∧
      (run r validating f s c).events = [] ∧ (run r validating f s c).context = c) ∨
    ((validating = true → f.validate s = .ok ()) ∧
      (∃ calls c₁ left reports trace, f.stepsOf s = calls.map StepCall.step ++ left ∧
        Passed r c 0 calls c₁ ∧
        Ends r f s c₁ calls.length left (run r validating f s c).error reports trace ∧
        (run r validating f s c).events =
          .beforeScenario s.name :: (calls.flatMap StepCall.events ++ trace) ++
            [.afterScenario s.name] ∧
        (run r validating f s c).context.reports =
          c.reports ++ (passReports 0 (calls.map StepCall.step) ++ reports)) ∧
      ((run r validating f s c).error = none ↔
        (run r validating f s c).context.reports = c.reports ++ passReports 0 (f.stepsOf s)) ∧
      ∀ e, (run r validating f s c).error = some e →
        ∃ report, (run r validating f s c).context.reports.getLast? = some report ∧
          e.stepIndex? = some report.index ∧ report.outcome ≠ .passed ∧
          (report.outcome = .notFound ↔ e.isLookupFailure = true)) := by
  by_cases hvalid : validating = true → f.validate s = .ok ()
  · refine Or.inr ⟨hvalid, ?_⟩
    obtain ⟨herror, hcontext, hevents⟩ := run_of_valid r f s c hvalid
    rw [herror, hcontext, hevents]
    obtain ⟨calls, c₁, left, reports, trace, hsteps, hpassed, hends, htrace, hcontext⟩ :=
      runSteps_protocol r f s c 0 (f.stepsOf s)
    rw [Nat.zero_add] at hends
    have hreports : (runSteps r f s c 0 (f.stepsOf s)).context.reports =
        c.reports ++ (passReports 0 (calls.map StepCall.step) ++ reports) := by
      rw [hcontext, ← List.append_assoc, ← hpassed.reports_eq]
    refine ⟨⟨calls, c₁, left, reports, trace, hsteps, hpassed, hends, ?_, hreports⟩, ?_, ?_⟩
    · rw [htrace]
    · rw [hreports, List.append_cancel_left_eq, hsteps]
      rw [hsteps] at hends
      exact hends.error_eq_none_iff
    · intro e he
      rw [he] at hends
      obtain ⟨report, rfl, hplace, hindex, hagree⟩ := hends.exists_report
      refine ⟨report, ?_, by rw [hindex, hplace], hagree⟩
      rw [hreports, ← List.append_assoc]
      exact List.getLast?_concat
  · obtain ⟨rfl, hnot⟩ := Classical.not_imp.mp hvalid
    cases hcause : f.validate s with
    | ok => exact absurd hcause hnot
    | error cause =>
      rw [run_of_validate_error r f s c hcause]
      exact Or.inl ⟨cause, rfl, rfl, rfl, rfl, rfl⟩

end

end FeatureDoc
