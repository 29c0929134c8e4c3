/-
# Successes and failures of chained computations

A computation that can fail is often made of others in a row. Where it succeeds, each of them
does; where it fails, one of them does.

* `exists_of_bind_eq_ok`, `eq_error_of_bind_eq_error` : a chain of two computations;
* `exists_of_map_eq_ok`, `eq_error_of_map_eq_error` : a computation whose result is changed;
* `mapM_eq_ok_iff`, `exists_mapM_eq_error_iff`, `mapM_mapError` : a computation for each member of
  a list.
-/
import Mathlib.Data.List.Forall2

namespace FeatureDoc

/-- A chain of two computations that succeeds goes through a success of the first one. -/
theorem exists_of_bind_eq_ok {ε α β : Type} {x : Except ε α} {next : α → Except ε β} {b : β}
    (h : (x >>= next) = .ok b) : ∃ a, x = .ok a ∧ next a = .ok b := by
  cases x with
  | error e => cases h
  | ok a => exact ⟨a, rfl, h⟩

/-- A chain of two computations that fails does so in the first one or, after it, in the second. -/
theorem eq_error_of_bind_eq_error {ε α β : Type} {x : Except ε α} {next : α → Except ε β} {e : ε}
    (h : (x >>= next) = .error e) : x = .error e ∨ ∃ a, x = .ok a ∧ next a = .error e := by
  cases x with
  | error e' => exact Or.inl (congrArg _ (Except.error.inj h))
  | ok a => exact Or.inr ⟨a, rfl, h⟩

/-- A computation that succeeds with its result changed succeeds itself. -/
theorem exists_of_map_eq_ok {ε α β : Type} {x : Except ε α} {change : α → β} {b : β}
    (h : x.map change = .ok b) : ∃ a, x = .ok a ∧ change a = b := by
  cases x with
  | error e => cases h
  | ok a => exact ⟨a, rfl, Except.ok.inj h⟩

/-- A computation fails with its result changed as it does itself. -/
theorem eq_error_of_map_eq_error {ε α β : Type} {x : Except ε α} {change : α → β} {e : ε}
    (h : x.map change = .error e) : x = .error e := by
  cases x with
  | error e' => exact congrArg _ (Except.error.inj h)
  | ok a => cases h

/-- Computations for the members of a list succeed exactly if each of them does. -/
theorem mapM_eq_ok_iff {ε α β : Type} {f : α → Except ε β} {l : List α} {bs : List β} :
    l.mapM f = .ok bs ↔ List.Forall₂ (fun a b => f a = .ok b) l bs := by
  induction l generalizing bs with
  | nil => simp [pure, Except.pure, eq_comm]
  | cons a l ih =>
    rw [List.mapM_cons]
    constructor
    · intro h
      obtain ⟨b, hb, hrest⟩ := exists_of_bind_eq_ok h
      obtain ⟨others, hothers, hpure⟩ := exists_of_bind_eq_ok hrest
      obtain rfl := Except.ok.inj hpure
      exact .cons hb (ih.mp hothers)
    · intro h
      cases h with
      | cons hb hothers =>
        rw [hb, ih.mpr hothers]
        rfl

/-- Computations for the members of a list fail exactly if one of them does. -/
theorem exists_mapM_eq_error_iff {ε α β : Type} {f : α → Except ε β} {l : List α} :
    (∃ e, l.mapM f = .error e) ↔ ∃ a ∈ l, ∃ e, f a = .error e := by
  induction l with
  | nil => simp [pure, Except.pure]
  | cons a l ih =>
    rw [List.mapM_cons, List.exists_mem_cons_iff, ← ih]
    constructor
    · rintro ⟨e, h⟩
      rcases eq_error_of_bind_eq_error h with hfirst | ⟨b, -, hrest⟩
      · exact Or.inl ⟨e, hfirst⟩
      · rcases eq_error_of_bind_eq_error hrest with hothers | ⟨others, -, hpure⟩
        · exact Or.inr ⟨e, hothers⟩
        · cases hpure
    · rintro (⟨e, hfirst⟩ | ⟨e, hothers⟩)
      · exact ⟨e, by rw [hfirst]; rfl⟩
      · cases hfirst : f a with
        | error e' => exact ⟨e', rfl⟩
        | ok b => exact ⟨e, by rw [hothers]; rfl⟩

/-- The error of computations for the members of a list is changed like that of each of them. -/
theorem mapM_mapError {ε ε' α β : Type} (f : α → Except ε β) (change : ε → ε') (l : List α) :
    (l.mapM fun a => (f a).mapError change) = (l.mapM f).mapError change := by
  induction l with
  | nil => rfl
  | cons a l ih =>
    rw [List.mapM_cons, List.mapM_cons, ih]
    cases f a with
    | error e => rfl
    | ok b => cases l.mapM f <;> rfl

end FeatureDoc
