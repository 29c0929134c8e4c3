/-
# What resolved arguments depend on

Seven things can provide an argument: a constant, a skipped constant, an alias, the matched
definition, the row, the source, and the default. Each formal argument asks for the value of at most
one name outside the step and its definition, and the answer for this name is all that matters.

* `Source.answer` : what the row and the source say about a name;
* `Step.Seeks` : the name for which a formal argument asks;
* `resolveOne_eq_error_iff` : why a formal argument cannot be resolved;
* `Step.resolve_determined` : what the arguments of a step depend on, which of them there are, and
  why there are none.
-/
import FeatureDoc.Proofs.Argument.Resolution
import FeatureDoc.Proofs.Success
import Mathlib.Data.List.Basic

namespace FeatureDoc

/-! ## What a source says about a name -/

namespace Source

variable {source source' : Source} {name : Text}

/-- The value of a name in the current row. -/
def rowValue? (source : Source) (name : Text) : Option Value := source.row.bind (Row.get? · name)

/-- What a source says about a name: the value in the row, or else what is looked up. -/
def answer (source : Source) (name : Text) : Except LookupError Value :=
  match source.rowValue? name with
  | some v => .ok v
  | none => source.lookup name

/-- Two sources agree on a name: they have the same value for it in their rows and, if they have
none there, look it up with the same result. -/
structure AgreeOn (source source' : Source) (name : Text) : Prop where
  row : source.rowValue? name = source'.rowValue? name
  lookup : source.rowValue? name = none → source.lookup name = source'.lookup name

/-- Sources that agree on a name give the same answer. -/
theorem AgreeOn.answer_eq (h : source.AgreeOn source' name) :
    source.answer name = source'.answer name := by
  rw [answer, answer, ← h.row]
  cases hrow : source.rowValue? name with
  | some v => rfl
  | none => exact h.lookup hrow

/-- A source fails for a name if the row has no value for it and looking it up fails. -/
theorem answer_eq_error_iff {e : LookupError} :
    source.answer name = .error e ↔ source.rowValue? name = none ∧ source.lookup name = .error e := by
  rw [answer]
  cases source.rowValue? name <;> simp

/-- A value is found if the answer is one, and an unknown name is no failure. -/
theorem find_eq (asked : Text) : source.find asked name =
    match source.answer name with
    | .ok v => .ok (some v)
    | .error (.notFound _) => .ok none
    | .error (.failed reason) => .error (.lookup asked name reason) := by
  rw [find, answer, rowValue?]
  cases source.row.bind (Row.get? · name) <;> rfl

end Source

namespace Formal

variable {formal : Formal} {step : Step} {source : Source} {name : Text}

/-- A value is found for a formal argument exactly if it is the answer. -/
theorem findOrDefault_eq_found_iff {v : Value} :
    formal.findOrDefault step source name = .ok (v, true) ↔ source.answer name = .ok v := by
  rw [findOrDefault, Source.find_eq]
  rcases source.answer name with ((other | reason) | w)
  · cases hfallback : formal.fallback step <;> simp [Except.map]
  · simp
  · simp

/-- No value is found for a formal argument exactly if the source fails, or if it does not know the
name and there is no default. -/
theorem findOrDefault_eq_error_iff {e : ResolveError} :
    formal.findOrDefault step source name = .error e ↔
      (∃ reason, source.answer name = .error (.failed reason) ∧
        e = .lookup formal.name name reason) ∨
      (∃ other, source.answer name = .error (.notFound other)) ∧ formal.default = none ∧
        e = .unresolved formal.name step.name := by
  rw [findOrDefault, Source.find_eq]
  rcases source.answer name with ((other | reason) | w)
  · cases hdefault : formal.default <;> simp [fallback, hdefault, Except.map, eq_comm]
  · simp [eq_comm]
  · simp

end Formal

/-! ## One argument -/

variable {step : Step} {bound bound' : Arguments} {source source' : Source} {formal : Formal}

/-- A step says nothing itself about the value of a name. -/
def Step.LeavesOpen (step : Step) (name : Text) : Prop :=
  step.constants.find? name = none ∧ step.aliases.find? name = none

/-- Whether a step leaves a formal argument out: it skips it, and there is no default. -/
def Step.omits (step : Step) (formal : Formal) : Bool :=
  match step.constants.find? formal.name with
  | some .skip => formal.default.isNone
  | _ => false

/-- A formal argument asks for the value of a name: the target of its alias, or its own name if
neither the step nor its definition has a value. -/
inductive Step.Seeks (step : Step) (bound : Arguments) (formal : Formal) : Text → Prop
  | target {a : Param.Alias} (hconstant : step.constants.find? formal.name = none)
      (halias : step.aliases.find? formal.name = some a) : step.Seeks bound formal a.target
  | own (hopen : step.LeavesOpen formal.name) (hbound : bound.get? formal.name = none) :
      step.Seeks bound formal formal.name

/-- Why a formal argument cannot be resolved. -/
inductive Step.Unresolvable (step : Step) (bound : Arguments) (source : Source) (formal : Formal) :
    ResolveError → Prop
  /-- The source fails for the name that is asked for. -/
  | lookup {name reason : Text} (hseeks : step.Seeks bound formal name)
      (hanswer : source.answer name = .error (.failed reason)) :
      step.Unresolvable bound source formal (.lookup formal.name name reason)
  /-- The source does not know the name, and there is no default. -/
  | unresolved {name other : Text} (hseeks : step.Seeks bound formal name)
      (hanswer : source.answer name = .error (.notFound other)) (hdefault : formal.default = none) :
      step.Unresolvable bound source formal (.unresolved formal.name step.name)
  /-- The value of the target is refused by the code of the alias. -/
  | aliasConversion {a : Param.Alias} {code : Char} {v : Value} {cause : ConversionError}
      (hconstant : step.constants.find? formal.name = none)
      (halias : step.aliases.find? formal.name = some a) (hpost : a.post = some code)
      (hanswer : source.answer a.target = .ok v) (happly : Code.apply code v = .error cause) :
      step.Unresolvable bound source formal (.aliasConversion formal.name a.target cause)

/-- A formal argument that is a constant is resolved. -/
theorem exists_resolveOne_of_constant {c : Param.Constant}
    (hconstant : step.constants.find? formal.name = some c) :
    ∃ found, resolveOne step bound source formal = .ok found := by
  rw [resolveOne, hconstant]
  cases c <;> exact ⟨_, rfl⟩

/-- A formal argument that is an alias is resolved to the value of the alias. -/
theorem resolveOne_of_alias {a : Param.Alias}
    (hconstant : step.constants.find? formal.name = none)
    (halias : step.aliases.find? formal.name = some a) :
    resolveOne step bound source formal = (resolveAlias step formal source a).map some := by
  rw [resolveOne, hconstant, halias]

/-- A formal argument for which only the definition has a value is resolved to that. -/
theorem resolveOne_of_bound (hopen : step.LeavesOpen formal.name) {v : Value}
    (hbound : bound.get? formal.name = some v) :
    resolveOne step bound source formal = .ok (some v) := by
  rw [resolveOne, hopen.1, hopen.2, hbound]

/-- An alias has no value exactly if none is found for its target, or if its code refuses the value
that is found. -/
theorem resolveAlias_eq_error_iff {a : Param.Alias} {e : ResolveError} :
    resolveAlias step formal source a = .error e ↔
      formal.findOrDefault step source a.target = .error e ∨
      ∃ code v cause, a.post = some code ∧ source.answer a.target = .ok v ∧
        Code.apply code v = .error cause ∧ e = .aliasConversion formal.name a.target cause := by
  have hanswer (v : Value) : source.answer a.target = .ok v ↔
      formal.findOrDefault step source a.target = .ok (v, true) :=
    Formal.findOrDefault_eq_found_iff.symm
  simp only [hanswer]
  rw [resolveAlias]
  cases hfound : formal.findOrDefault step source a.target with
  | error e' => simp
  | ok result =>
    obtain ⟨v, found⟩ := result
    cases found with
    | false => simp
    | true =>
      cases hpost : a.post with
      | none => simp
      | some code => cases happly : Code.apply code v <;> simp [happly, eq_comm]

/-- A formal argument cannot be resolved if no value is found for the name for which it asks. -/
theorem resolveOne_of_seeks {name : Text} {e : ResolveError}
    (hseeks : step.Seeks bound formal name)
    (hfind : formal.findOrDefault step source name = .error e) :
    resolveOne step bound source formal = .error e := by
  cases hseeks with
  | target hconstant halias =>
    rw [resolveOne_of_alias hconstant halias, resolveAlias_eq_error_iff.mpr (Or.inl hfind)]
    rfl
  | own hopen hbound =>
    rw [resolveOne_of_unbound hopen.1 hopen.2 hbound, hfind]
    rfl

/-- No value is found for the name for which a formal argument asks, so that the argument cannot be
resolved. -/
theorem unresolvable_of_seeks {name : Text} {e : ResolveError}
    (hseeks : step.Seeks bound formal name)
    (hfind : formal.findOrDefault step source name = .error e) :
    step.Unresolvable bound source formal e := by
  rcases Formal.findOrDefault_eq_error_iff.mp hfind with
    ⟨reason, hanswer, rfl⟩ | ⟨⟨other, hanswer⟩, hdefault, rfl⟩
  · exact .lookup hseeks hanswer
  · exact .unresolved hseeks hanswer hdefault

/-- A formal argument is resolved unless there is a reason why it cannot be. -/
theorem resolveOne_eq_error_iff {e : ResolveError} :
    resolveOne step bound source formal = .error e ↔ step.Unresolvable bound source formal e := by
  constructor
  · intro h
    cases hconstant : step.constants.find? formal.name with
    | some c =>
      obtain ⟨found, hfound⟩ := exists_resolveOne_of_constant hconstant
      rw [hfound] at h
      cases h
    | none =>
      cases halias : step.aliases.find? formal.name with
      | some a =>
        rw [resolveOne_of_alias hconstant halias] at h
        rcases resolveAlias_eq_error_iff.mp (eq_error_of_map_eq_error h) with
          hfind | ⟨code, v, cause, hpost, hanswer, happly, rfl⟩
        · exact unresolvable_of_seeks (.target hconstant halias) hfind
        · exact .aliasConversion hconstant halias hpost hanswer happly
      | none =>
        cases hbound : bound.get? formal.name with
        | some v =>
          rw [resolveOne_of_bound ⟨hconstant, halias⟩ hbound] at h
          cases h
        | none =>
          rw [resolveOne_of_unbound hconstant halias hbound] at h
          exact unresolvable_of_seeks (.own ⟨hconstant, halias⟩ hbound) (eq_error_of_map_eq_error h)
  · intro h
    cases h with
    | lookup hseeks hanswer =>
      apply resolveOne_of_seeks hseeks
      exact Formal.findOrDefault_eq_error_iff.mpr (Or.inl ⟨_, hanswer, rfl⟩)
    | unresolved hseeks hanswer hdefault =>
      apply resolveOne_of_seeks hseeks
      exact Formal.findOrDefault_eq_error_iff.mpr (Or.inr ⟨⟨_, hanswer⟩, hdefault, rfl⟩)
    | aliasConversion hconstant halias hpost hanswer happly =>
      rw [resolveOne_of_alias hconstant halias,
        resolveAlias_eq_error_iff.mpr (Or.inr ⟨_, _, _, hpost, hanswer, happly, rfl⟩)]
      rfl

/-- A formal argument is resolved to nothing exactly if the step leaves it out. -/
theorem resolveOne_eq_ok_none_iff :
    resolveOne step bound source formal = .ok none ↔ step.omits formal = true := by
  rw [Step.omits]
  cases hconstant : step.constants.find? formal.name with
  | some c =>
    rw [resolveOne, hconstant]
    cases c <;> simp
  | none =>
    refine iff_of_false (fun h => ?_) Bool.false_ne_true
    cases halias : step.aliases.find? formal.name with
    | some a =>
      rw [resolveOne_of_alias hconstant halias] at h
      obtain ⟨v, -, hv⟩ := exists_of_map_eq_ok h
      cases hv
    | none =>
      cases hbound : bound.get? formal.name with
      | some v =>
        rw [resolveOne_of_bound ⟨hconstant, halias⟩ hbound] at h
        cases h
      | none =>
        rw [resolveOne_of_unbound hconstant halias hbound] at h
        obtain ⟨found, -, hfound⟩ := exists_of_map_eq_ok h
        cases hfound

/-! ## All arguments -/

/-- Two pairs of bound values and a source agree on all that formal arguments ask for: on the bound
values of those that the step leaves open, on the names of those of them that are not bound, and on
the targets of those that are aliases. -/
structure Step.Agree (step : Step) (formals : List Formal) (bound bound' : Arguments)
    (source source' : Source) : Prop where
  of_open : ∀ formal ∈ formals, step.LeavesOpen formal.name →
    bound.get? formal.name = bound'.get? formal.name
  of_unbound : ∀ formal ∈ formals, step.LeavesOpen formal.name → bound.get? formal.name = none →
    source.AgreeOn source' formal.name
  of_target : ∀ formal ∈ formals, ∀ a, step.aliases.find? formal.name = some a →
    source.AgreeOn source' a.target

/-- What is found for a formal argument depends only on the answer of the source. -/
theorem Formal.findOrDefault_congr {name : Text} (h : source.AgreeOn source' name) :
    formal.findOrDefault step source name = formal.findOrDefault step source' name := by
  rw [findOrDefault, findOrDefault, Source.find_eq, Source.find_eq, h.answer_eq]

namespace Step.Agree

variable {formals : List Formal}

/-- Pairs that agree resolve each formal argument alike. -/
theorem resolveOne_eq (h : step.Agree formals bound bound' source source')
    (hformal : formal ∈ formals) :
    resolveOne step bound source formal = resolveOne step bound' source' formal := by
  cases hconstant : step.constants.find? formal.name with
  | some c => cases c <;> simp only [resolveOne, hconstant]
  | none =>
    cases halias : step.aliases.find? formal.name with
    | some a =>
      rw [resolveOne_of_alias hconstant halias, resolveOne_of_alias hconstant halias, resolveAlias,
        resolveAlias, Formal.findOrDefault_congr (h.of_target formal hformal a halias)]
    | none =>
      have hopen : step.LeavesOpen formal.name := ⟨hconstant, halias⟩
      have hsame := h.of_open formal hformal hopen
      cases hbound : bound.get? formal.name with
      | some v =>
        rw [resolveOne_of_bound hopen hbound, resolveOne_of_bound hopen (hsame.symm.trans hbound)]
      | none =>
        rw [resolveOne_of_unbound hconstant halias hbound,
          resolveOne_of_unbound hconstant halias (hsame.symm.trans hbound),
          Formal.findOrDefault_congr (h.of_unbound formal hformal hopen hbound)]

/-- Pairs that agree resolve all formal arguments alike. -/
theorem resolve_eq (h : step.Agree formals bound bound' source source') :
    step.resolve formals bound source = step.resolve formals bound' source' := by
  have hupTo : ∀ rest : List Formal, (∀ formal ∈ rest, formal ∈ formals) →
      resolveUpTo step bound source rest = resolveUpTo step bound' source' rest := by
    intro rest hrest
    induction rest with
    | nil => rfl
    | cons formal rest ih =>
      obtain ⟨hformal, hrest⟩ := List.forall_mem_cons.mp hrest
      rw [resolveUpTo, resolveUpTo, h.resolveOne_eq hformal, ih hrest]
  rw [Step.resolve, Step.resolve, hupTo formals fun _ hformal => hformal]

end Step.Agree

/-- Resolving ends at the first formal argument that cannot be resolved. -/
theorem snd_resolveUpTo_eq_some_iff {formals : List Formal} {e : ResolveError} :
    (resolveUpTo step bound source formals).2 = some e ↔
      ∃ before formal after, formals = before ++ formal :: after ∧
        (∀ other ∈ before, ∃ found, resolveOne step bound source other = .ok found) ∧
        resolveOne step bound source formal = .error e := by
  induction formals with
  | nil => simp [resolveUpTo]
  | cons first rest ih =>
    cases hfirst : resolveOne step bound source first with
    | error e' =>
      rw [resolveUpTo, hfirst]
      constructor
      · intro heq
        obtain rfl := Option.some.inj heq
        exact ⟨[], first, rest, rfl, by simp, hfirst⟩
      · rintro ⟨before, formal, after, hcut, hbefore, hformal⟩
        cases before with
        | nil =>
          obtain ⟨rfl, rfl⟩ := List.cons.inj hcut
          rw [hfirst] at hformal
          exact congrArg some (Except.error.inj hformal)
        | cons other before =>
          obtain ⟨rfl, -⟩ := List.cons.inj hcut
          obtain ⟨found, hfound⟩ := hbefore _ List.mem_cons_self
          rw [hfirst] at hfound
          cases hfound
    | ok found =>
      have hrest : (resolveUpTo step bound source (first :: rest)).2 =
          (resolveUpTo step bound source rest).2 := by
        rw [resolveUpTo, hfirst]
        cases found <;> rfl
      rw [hrest, ih]
      constructor
      · rintro ⟨before, formal, after, rfl, hbefore, hformal⟩
        exact ⟨first :: before, formal, after, rfl,
          List.forall_mem_cons.mpr ⟨⟨found, hfirst⟩, hbefore⟩, hformal⟩
      · rintro ⟨before, formal, after, hcut, hbefore, hformal⟩
        cases before with
        | nil =>
          obtain ⟨rfl, rfl⟩ := List.cons.inj hcut
          rw [hfirst] at hformal
          cases hformal
        | cons other before =>
          obtain ⟨rfl, rfl⟩ := List.cons.inj hcut
          exact ⟨before, formal, after, rfl, (List.forall_mem_cons.mp hbefore).2, hformal⟩

/-- There are no arguments exactly if a formal argument cannot be resolved, and the fault is that of
the first one. -/
theorem Step.resolve_eq_error_iff {formals : List Formal} {e : ResolveError} :
    step.resolve formals bound source = .error e ↔
      ∃ before formal after, formals = before ++ formal :: after ∧
        (∀ other ∈ before, ∀ e', ¬step.Unresolvable bound source other e') ∧
        step.Unresolvable bound source formal e := by
  have hresolved (other : Formal) : (∃ found, resolveOne step bound source other = .ok found) ↔
      ∀ e', ¬step.Unresolvable bound source other e' := by
    simp only [← resolveOne_eq_error_iff]
    cases resolveOne step bound source other <;> simp
  have hsnd : step.resolve formals bound source = .error e ↔
      (resolveUpTo step bound source formals).2 = some e := by
    rw [Step.resolve]
    split <;> rename_i heq <;> simp [heq]
  rw [hsnd, snd_resolveUpTo_eq_some_iff]
  simp only [hresolved, resolveOne_eq_error_iff]

/-- The names of resolved arguments are those of the formal arguments that are not left out. -/
theorem Step.names_of_resolve {formals : List Formal} {args : Arguments}
    (h : step.resolve formals bound source = .ok args) :
    args.names = (formals.filter fun formal => !step.omits formal).map Formal.name := by
  obtain ⟨hall, rfl⟩ := Step.resolve_eq_ok_iff.mp h
  rw [Arguments.names, List.map_filterMap, ← List.filterMap_eq_map, List.filterMap_filter]
  refine List.filterMap_congr fun formal hformal => ?_
  obtain ⟨found, hfound⟩ := hall formal hformal
  rw [Step.provided?_of_ok hfound]
  cases found with
  | none => simp [resolveOne_eq_ok_none_iff.mp hfound]
  | some v =>
    have hkept : step.omits formal ≠ true := by
      intro homits
      rw [resolveOne_eq_ok_none_iff.mpr homits] at hfound
      cases hfound
    simp [hkept]

/-- What the arguments of a step depend on. They are the same for two pairs of bound values and a
source that agree on all that the formal arguments ask for. If there are arguments, their names are
those of the formal arguments in the order of their declaration, without those that the step skips
and that have no default. If there are none, the fault is that of the first formal argument that
cannot be resolved, and the source fails only for a name that the row does not have. -/
theorem Step.resolve_determined (step : Step) (formals : List Formal) :
    (∀ bound bound' source source', step.Agree formals bound bound' source source' →
      step.resolve formals bound source = step.resolve formals bound' source') ∧
    ∀ bound source,
      (∀ args, step.resolve formals bound source = .ok args →
        args.names = (formals.filter fun formal => !step.omits formal).map Formal.name) ∧
      (∀ e, step.resolve formals bound source = .error e ↔
        ∃ before formal after, formals = before ++ formal :: after ∧
          (∀ other ∈ before, ∀ e', ¬step.Unresolvable bound source other e') ∧
          step.Unresolvable bound source formal e) ∧
      ∀ name target reason,
        step.resolve formals bound source = .error (.lookup name target reason) →
        source.rowValue? target = none ∧ source.lookup target = .error (.failed reason) := by
  refine ⟨fun _ _ _ _ h => h.resolve_eq, fun bound source => ⟨fun _ => Step.names_of_resolve,
    fun _ => Step.resolve_eq_error_iff, ?_⟩⟩
  intro name target reason h
  obtain ⟨-, formal, -, -, -, hformal⟩ := Step.resolve_eq_error_iff.mp h
  cases hformal with
  | lookup _ hanswer => exact Source.answer_eq_error_iff.mp hanswer

end FeatureDoc
