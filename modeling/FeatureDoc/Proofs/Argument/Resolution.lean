/-
# What resolved arguments are

The arguments of a step are the values of its formal arguments in the order of their declaration;
one that is left out and has no default is none of them.

* `Step.resolve_eq_ok_iff` : the arguments of a step, formal by formal;
* `resolveOne_of_unbound` : a formal for which neither the step nor its definition has a value gets
  the one of the row, of the source, or its default.
-/
import FeatureDoc.Argument.Resolution

namespace FeatureDoc

/-- The value that a formal argument gets, if it gets one. -/
def Step.provided? (step : Step) (bound : Arguments) (source : Source) (formal : Formal) :
    Option Value :=
  match resolveOne step bound source formal with
  | .ok found => found
  | .error _ => none

variable {step : Step} {bound : Arguments} {source : Source}

/-- A formal argument gets the value to which it is resolved. -/
theorem Step.provided?_of_ok {formal : Formal} {found : Option Value}
    (h : resolveOne step bound source formal = .ok found) :
    step.provided? bound source formal = found := by
  rw [Step.provided?, h]

/-- Resolving goes through the formals one after the other, up to the first that fails. -/
theorem resolveUpTo_eq_iff {formals : List Formal} {args : Arguments} :
    resolveUpTo step bound source formals = (args, none) ↔
      (∀ formal ∈ formals, ∃ found, resolveOne step bound source formal = .ok found) ∧
      args = formals.filterMap fun formal =>
        (step.provided? bound source formal).map (formal.name, ·) := by
  induction formals generalizing args with
  | nil => simp [resolveUpTo, eq_comm]
  | cons formal rest ih =>
    rw [List.forall_mem_cons, List.filterMap_cons]
    unfold resolveUpTo
    cases hone : resolveOne step bound source formal with
    | error e => simp
    | ok found =>
      rw [Step.provided?_of_ok hone]
      cases found with
      | none => simpa using ih
      | some v =>
        cases hrest : resolveUpTo step bound source rest with
        | mk others fault =>
          rw [hrest] at ih
          constructor
          · intro heq
            obtain ⟨rfl, rfl⟩ := Prod.mk.inj heq
            obtain ⟨hall, rfl⟩ := ih.mp rfl
            exact ⟨⟨⟨_, rfl⟩, hall⟩, rfl⟩
          · rintro ⟨⟨-, hall⟩, rfl⟩
            obtain ⟨rfl, rfl⟩ := Prod.mk.inj (ih.mpr ⟨hall, rfl⟩)
            rfl

/-- The arguments of a step are the values of its formals, in the order of the formals. -/
theorem Step.resolve_eq_ok_iff {formals : List Formal} {args : Arguments} :
    step.resolve formals bound source = .ok args ↔
      (∀ formal ∈ formals, ∃ found, resolveOne step bound source formal = .ok found) ∧
      args = formals.filterMap fun formal =>
        (step.provided? bound source formal).map (formal.name, ·) := by
  rw [← resolveUpTo_eq_iff, Step.resolve]
  split <;> rename_i heq <;> simp [heq]

/-- A formal for which neither the step nor its definition has a value gets the one of the row, of
the source, or its default. -/
theorem resolveOne_of_unbound {formal : Formal}
    (hconstant : step.constants.find? formal.name = none)
    (halias : step.aliases.find? formal.name = none) (hbound : bound.get? formal.name = none) :
    resolveOne step bound source formal =
      (formal.findOrDefault step source formal.name).map fun found => some found.1 := by
  unfold resolveOne
  rw [hconstant, halias, hbound]

end FeatureDoc
