/-
# Dictionaries

A dictionary gives values to names. It is a list of pairs in increasing order of the names, in
which each name stands once.

* `find?_insert_self` and `find?_insert_of_ne` : what giving a name a value changes;
* `find?_erase_self` and `find?_erase_of_ne` : what taking a name away changes;
* `exists_find?_eq_some_iff`, `find?_eq_some_iff` : the names that have values, and the entries;
* `pairwise_names_insert` and `pairwise_names_erase` : the order of the names is kept.
-/
import FeatureDoc.Text.Basic

namespace FeatureDoc

/-- Names with their values, in increasing order of the names. Names are texts if nothing else is
said. -/
abbrev Dictionary (α : Type) (κ : Type := Text) := List (κ × α)

namespace Dictionary

variable {α κ : Type}

/-- The names of a dictionary, in increasing order. -/
def names (d : Dictionary α κ) : List κ := d.map Prod.fst

variable [DecidableEq κ]

/-- The value of a name. -/
def find? (name : κ) : Dictionary α κ → Option α
  | [] => none
  | (other, value) :: rest => if other = name then some value else find? name rest

/-- Gives a name a value, in place of the value that it may have. -/
def insert [LT κ] [DecidableLT κ] (name : κ) (value : α) : Dictionary α κ → Dictionary α κ
  | [] => [(name, value)]
  | (other, old) :: rest =>
    if name < other then (name, value) :: (other, old) :: rest
    else if name = other then (name, value) :: rest
    else (other, old) :: insert name value rest

/-- Takes a name away. -/
def erase (name : κ) (d : Dictionary α κ) : Dictionary α κ :=
  d.filter fun entry => entry.1 ≠ name

/-- A name that has just been given a value has this value. -/
@[simp] theorem find?_insert_self [LT κ] [DecidableLT κ] (name : κ) (value : α)
    (d : Dictionary α κ) : find? name (insert name value d) = some value := by
  induction d with
  | nil => simp [insert, find?]
  | cons entry rest ih =>
    obtain ⟨other, old⟩ := entry
    unfold insert
    split
    · simp [find?]
    · split
      · simp [find?]
      · rename_i different
        simp [find?, Ne.symm different, ih]

/-- Giving a name a value leaves the other names alone. -/
theorem find?_insert_of_ne [LT κ] [DecidableLT κ] {name other : κ} (h : other ≠ name) (value : α)
    (d : Dictionary α κ) : find? other (insert name value d) = find? other d := by
  induction d with
  | nil => simp [insert, find?, Ne.symm h]
  | cons entry rest ih =>
    obtain ⟨key, old⟩ := entry
    unfold insert
    split
    · simp [find?, Ne.symm h]
    · split
      · rename_i same
        subst same
        simp [find?, Ne.symm h]
      · simp [find?, ih]

/-- A name that has been taken away has no value. -/
@[simp] theorem find?_erase_self (name : κ) (d : Dictionary α κ) :
    find? name (erase name d) = none := by
  induction d with
  | nil => rfl
  | cons entry rest ih =>
    by_cases h : entry.1 = name <;> simp_all [erase, find?]

/-- Taking a name away leaves the other names alone. -/
theorem find?_erase_of_ne {name other : κ} (h : other ≠ name) (d : Dictionary α κ) :
    find? other (erase name d) = find? other d := by
  induction d with
  | nil => rfl
  | cons entry rest ih =>
    by_cases e : entry.1 = name
    · have : entry.1 ≠ other := fun same => h (same.symm.trans e)
      simp_all [erase, find?]
    · simp_all [erase, find?]

/-- A name with its value is an entry. -/
theorem mem_of_find?_eq_some {name : κ} {value : α} {d : Dictionary α κ}
    (h : find? name d = some value) : (name, value) ∈ d := by
  induction d with
  | nil => cases h
  | cons entry rest ih =>
    obtain ⟨other, old⟩ := entry
    unfold find? at h
    split at h
    · rename_i same
      obtain rfl := Option.some.inj h
      rw [same]
      exact List.mem_cons_self
    · exact List.mem_cons_of_mem _ (ih h)

/-- The names that have values are those of the dictionary. -/
theorem exists_find?_eq_some_iff {d : Dictionary α κ} {name : κ} :
    (∃ v, d.find? name = some v) ↔ name ∈ d.names := by
  induction d with
  | nil => simp [find?, names]
  | cons entry rest ih =>
    obtain ⟨other, value⟩ := entry
    rw [find?, names, List.map_cons, List.mem_cons]
    by_cases h : other = name
    · simp [h]
    · rw [if_neg h, ih, names]
      exact (or_iff_right (Ne.symm h)).symm

/-- Giving a name a value adds an entry and no other one. -/
theorem eq_or_mem_of_mem_insert [LT κ] [DecidableLT κ] {name : κ} {value : α}
    {d : Dictionary α κ} {entry : κ × α} (h : entry ∈ insert name value d) :
    entry = (name, value) ∨ entry ∈ d := by
  induction d with
  | nil => exact Or.inl (List.mem_singleton.mp h)
  | cons first rest ih =>
    obtain ⟨other, old⟩ := first
    unfold insert at h
    split at h
    · exact List.mem_cons.mp h
    · split at h
      · exact (List.mem_cons.mp h).imp_right (List.mem_cons_of_mem _)
      · rcases List.mem_cons.mp h with rfl | h
        · exact Or.inr List.mem_cons_self
        · exact (ih h).imp_right (List.mem_cons_of_mem _)

/-! ## Order -/

variable [LT κ]

/-- With each name once, the entries are the names with their values. -/
theorem find?_eq_some_iff [Std.Irrefl (α := κ) (· < ·)] {d : Dictionary α κ}
    (h : d.names.Pairwise (· < ·)) {name : κ} {value : α} :
    d.find? name = some value ↔ (name, value) ∈ d := by
  refine ⟨mem_of_find?_eq_some, fun hmem => ?_⟩
  induction d with
  | nil => cases hmem
  | cons entry rest ih =>
    obtain ⟨other, old⟩ := entry
    obtain ⟨hbelow, hrest⟩ := List.pairwise_cons.mp h
    rcases List.mem_cons.mp hmem with heq | hmem
    · obtain ⟨rfl, rfl⟩ := Prod.mk.inj heq
      exact if_pos rfl
    · have hne : other ≠ name := by
        rintro rfl
        exact Std.Irrefl.irrefl _ (hbelow _ (List.mem_map.mpr ⟨_, hmem, rfl⟩))
      rw [find?, if_neg hne, ih hrest hmem]

/-- The names after giving a name a value are the old ones and this one, in increasing order. -/
theorem names_insert [DecidableLT κ] (name : κ) (value : α) (d : Dictionary α κ) :
    (insert name value d).names = Sorted.insert name d.names := by
  induction d with
  | nil => rfl
  | cons entry rest ih =>
    obtain ⟨other, old⟩ := entry
    unfold insert
    split
    · rename_i before
      simp [names, Sorted.insert, before]
    · split
      · rename_i notBefore same
        subst same
        simp only [names, List.map_cons, Sorted.insert, if_neg notBefore, ↓reduceIte]
      · rename_i notBefore different
        simp only [names, List.map_cons, Sorted.insert, if_neg notBefore, if_neg different]
        exact congrArg (other :: ·) ih

/-- Giving a name a value keeps the names in increasing order. -/
theorem pairwise_names_insert [DecidableLT κ] [Trans (α := κ) (· < ·) (· < ·) (· < ·)]
    [Std.Trichotomous (α := κ) (· < ·)] (name : κ) (value : α) {d : Dictionary α κ}
    (h : d.names.Pairwise (· < ·)) : (insert name value d).names.Pairwise (· < ·) := by
  rw [names_insert]
  exact Sorted.pairwise_insert name h

/-- Taking a name away keeps the names in increasing order. -/
theorem pairwise_names_erase (name : κ) {d : Dictionary α κ}
    (h : d.names.Pairwise (· < ·)) : (erase name d).names.Pairwise (· < ·) :=
  h.sublist (List.Sublist.map Prod.fst List.filter_sublist)

end Dictionary

end FeatureDoc
