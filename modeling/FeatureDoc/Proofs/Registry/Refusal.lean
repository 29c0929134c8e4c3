/-
# What a registry keeps and what it refuses

Every definition of a list is kept by the registry of the list, or refused for its name, or refused
for an earlier one of its type and name. What is refused is told in the order of the list.

* `Registry.add_cases` : a single definition is refused or kept;
* `Registry.invalidPatterns_foldl_add` : the refusals of names are those of the list;
* `Registry.duplicates_foldl_add` : the other refusals are those at the places of the list;
* `Registry.ofList_loses_nothing` : what the registry of a list says of the list.
-/
import FeatureDoc.Proofs.Registry.Lookup

namespace FeatureDoc

namespace Registry

/-! ## One definition -/

/-- Why the name of a definition is refused, if it is. -/
def invalidName? (d : Definition) : Option RegistryError :=
  if Pattern.isPattern d.name then
    match Pattern.compile d.name with
    | .ok _ => none
    | .error cause => some (.invalidPattern d.type d.name d.location cause)
  else none

/-- The refusal of a definition for one that was kept. -/
def repetition (d kept : Definition) : RegistryError :=
  .duplicate d.type d.name kept.location d.location

/-- Why a registry refuses a definition, if it does. -/
def refusal? (r : Registry) (d : Definition) : Option RegistryError :=
  match r.get? d.type d.name with
  | some kept => some (repetition d kept)
  | none => invalidName? d

/-- A name is refused exactly if it has braces and is no pattern. -/
theorem invalidName?_eq_some_iff {d : Definition} {e : RegistryError} :
    invalidName? d = some e ↔ Pattern.isPattern d.name = true ∧ ∃ cause,
      Pattern.compile d.name = .error cause ∧
        e = .invalidPattern d.type d.name d.location cause := by
  rw [invalidName?]
  cases hpattern : Pattern.isPattern d.name with
  | false => simp
  | true => cases hcompile : Pattern.compile d.name <;> simp [eq_comm]

/-- A name is refused exactly if the registry does not admit it. -/
theorem isSome_invalidName? (d : Definition) : (invalidName? d).isSome = !admits d.name := by
  rw [invalidName?, admits]
  cases hpattern : Pattern.isPattern d.name with
  | false => rfl
  | true => cases hcompile : Pattern.compile d.name <;> rfl

/-- A refusal for a name is no refusal for an earlier definition. -/
theorem isDuplicate_of_invalidName? {d : Definition} {e : RegistryError}
    (h : invalidName? d = some e) : e.isDuplicate = false := by
  obtain ⟨-, cause, -, rfl⟩ := invalidName?_eq_some_iff.mp h
  rfl

/-- A registry refuses a definition and says why behind its other refusals, or it keeps the
definition behind the others. -/
theorem add_cases (r : Registry) (d : Definition) :
    (∃ e, r.refusal? d = some e ∧ r.add d = { r with refused := r.refused ++ [e] }) ∨
    r.refusal? d = none ∧ (r.add d).definitions = r.definitions ++ [d] ∧
      (r.add d).refused = r.refused := by
  unfold add refusal? invalidName?
  cases hkept : r.get? d.type d.name with
  | some kept => exact Or.inl ⟨_, rfl, rfl⟩
  | none =>
    cases hpattern : Pattern.isPattern d.name with
    | false => exact Or.inr ⟨rfl, rfl, rfl⟩
    | true =>
      cases hcompile : Pattern.compile d.name with
      | ok p => exact Or.inr ⟨rfl, rfl, rfl⟩
      | error cause => exact Or.inl ⟨_, rfl, rfl⟩

/-- A registry tells of one definition more when it has taken one up. -/
theorem length_add (r : Registry) (d : Definition) :
    (r.add d).definitions.length + (r.add d).refused.length =
      r.definitions.length + r.refused.length + 1 := by
  rcases r.add_cases d with ⟨e, -, hadd⟩ | ⟨-, hdefinitions, hrefused⟩
  · rw [hadd]
    show r.definitions.length + (r.refused ++ [e]).length = _
    rw [List.length_append, List.length_singleton]
    omega
  · rw [hdefinitions, hrefused, List.length_append, List.length_singleton]
    omega

/-- What a registry refuses is told behind its other refusals. -/
theorem refused_add (r : Registry) (d : Definition) :
    (r.add d).refused = r.refused ++ (r.refusal? d).toList := by
  rcases r.add_cases d with ⟨e, hrefusal, hadd⟩ | ⟨hrefusal, -, hrefused⟩
  · rw [hadd, hrefusal]
    rfl
  · rw [hrefused, hrefusal]
    exact (List.append_nil _).symm

/-- A registry refuses the name of a definition only if it has none of its type and name. -/
theorem invalidPatterns_add (r : Registry) (d : Definition) : (r.add d).invalidPatterns =
    r.invalidPatterns ++
      (if (r.get? d.type d.name).isSome then none else invalidName? d).toList := by
  rw [invalidPatterns, refused_add, List.filter_append, refusal?, invalidPatterns]
  cases hkept : r.get? d.type d.name with
  | some kept => rfl
  | none =>
    cases hinvalid : invalidName? d with
    | none => simp
    | some e => simp [isDuplicate_of_invalidName? hinvalid]

/-- A definition that a registry has already is refused for the one that it has. -/
theorem duplicates_add (r : Registry) (d : Definition) : (r.add d).duplicates =
    r.duplicates ++ ((r.get? d.type d.name).map (repetition d)).toList := by
  rw [duplicates, refused_add, List.filter_append, refusal?, duplicates]
  cases hkept : r.get? d.type d.name with
  | some kept => rfl
  | none =>
    cases hinvalid : invalidName? d with
    | none => simp
    | some e => simp [isDuplicate_of_invalidName? hinvalid]

/-! ## A list of definitions -/

/-- A registry of a list keeps or refuses each definition of the list. -/
theorem length_foldl_add (ds : List Definition) :
    (ds.foldl add empty).definitions.length + (ds.foldl add empty).refused.length =
      ds.length := by
  induction ds using List.reverseRecOn with
  | nil => rfl
  | append_singleton ds d ih =>
    rw [List.foldl_concat, length_add, ih, List.length_append, List.length_singleton]

/-- What the registry of a list has already is not refused for its name. -/
theorem invalidName?_of_isSome_get? {ds : List Definition} {d : Definition}
    (h : ((ds.foldl add empty).get? d.type d.name).isSome = true) : invalidName? d = none := by
  rw [get?_foldl_add] at h
  split at h
  · rename_i hadmits
    have hnone : (invalidName? d).isSome = false := by rw [isSome_invalidName?, hadmits]; rfl
    exact Option.isNone_iff_eq_none.mp (Option.isSome_eq_false_iff.mp hnone)
  · cases h

/-- The names that a registry of a list refuses are those of the list that are refused. -/
theorem invalidPatterns_foldl_add (ds : List Definition) :
    (ds.foldl add empty).invalidPatterns = ds.filterMap invalidName? := by
  induction ds using List.reverseRecOn with
  | nil => rfl
  | append_singleton ds d ih =>
    have hnew : (if ((ds.foldl add empty).get? d.type d.name).isSome then none
        else invalidName? d) = invalidName? d := by
      split
      · rename_i hkept
        exact (invalidName?_of_isSome_get? hkept).symm
      · rfl
    rw [List.foldl_concat, invalidPatterns_add, ih, hnew, List.filterMap_append]
    cases hinvalid : invalidName? d <;> simp [hinvalid]

/-- The refusal of the definition at a place in a list for the first one of its type and name, if
that is earlier and the name is admitted. -/
def repetitionAt? (ds : List Definition) (i : Nat) : Option RegistryError :=
  ds[i]?.bind fun d =>
    if admits d.name then
      ((ds.take i).find? fun e => e.type = d.type ∧ e.name = d.name).map (repetition d)
    else none

/-- A definition that is added behind a list repeats nothing at the places of the list. -/
theorem repetitionAt?_append_of_lt {ds : List Definition} {i : Nat} (h : i < ds.length)
    (others : List Definition) : repetitionAt? (ds ++ others) i = repetitionAt? ds i := by
  rw [repetitionAt?, repetitionAt?, List.getElem?_append_left h,
    List.take_append_of_le_length (Nat.le_of_lt h)]

/-- The refusals of a registry of a list for earlier definitions are those at the places of the
list. -/
theorem duplicates_foldl_add (ds : List Definition) :
    (ds.foldl add empty).duplicates = (List.range ds.length).filterMap (repetitionAt? ds) := by
  induction ds using List.reverseRecOn with
  | nil => rfl
  | append_singleton ds d ih =>
    have hlast : repetitionAt? (ds ++ [d]) ds.length =
        ((ds.foldl add empty).get? d.type d.name).map (repetition d) := by
      rw [repetitionAt?, List.getElem?_concat_length, List.take_left, Option.bind_some,
        get?_foldl_add]
      cases admits d.name <;> rfl
    rw [filterMap_range_concat fun i hi => repetitionAt?_append_of_lt hi [d], hlast, ← ih,
      List.foldl_concat, duplicates_add]

/-- Whether the definition at a place in a list has an admitted name and repeats the type and name
of an earlier one. -/
def repeats (ds : List Definition) (i : Nat) : Bool :=
  ds[i]?.any fun d => admits d.name && (ds.take i).any fun e => e.type = d.type ∧ e.name = d.name

/-- There is a refusal at the places where a definition is repeated. -/
theorem isSome_repetitionAt? (ds : List Definition) (i : Nat) :
    (repetitionAt? ds i).isSome = repeats ds i := by
  rw [repetitionAt?, repeats]
  cases hget : ds[i]? with
  | none => rfl
  | some d =>
    cases hadmits : admits d.name with
    | false => simp [hadmits]
    | true => simp [hadmits, List.isSome_find?]

/-- What is refused at a place is refused for the definition that the registry of the list has. -/
theorem exists_kept_of_repetitionAt? {ds : List Definition} {i : Nat} {e : RegistryError}
    (h : repetitionAt? ds i = some e) : ∃ d kept, ds[i]? = some d ∧
      (ofList ds).get? d.type d.name = some kept ∧
        e = .duplicate d.type d.name kept.location d.location := by
  obtain ⟨d, hget, hd⟩ := Option.bind_eq_some_iff.mp h
  split at hd
  · rename_i hadmits
    obtain ⟨kept, hkept, rfl⟩ := Option.map_eq_some_iff.mp hd
    refine ⟨d, kept, hget, ?_, rfl⟩
    show (ds.foldl add empty).get? d.type d.name = some kept
    rw [get?_foldl_add, if_pos hadmits]
    -- the first hit before the place is the first hit of the list
    exact (List.take_prefix i ds).find?_eq_some hkept
  · cases hd

/-- What the registry of a list says of the list. It keeps or refuses each definition. Under a type
and name it has the first definition of the list with these, if the name has no braces or is a
pattern, and nothing otherwise. It refuses, one for one and in the order of the list, the
definitions whose names have braces and are no patterns, and of the others those that repeat the
type and name of an earlier one, for the definition that it has. -/
theorem ofList_loses_nothing (ds : List Definition) :
    (ofList ds).definitions.length + (ofList ds).duplicates.length +
      (ofList ds).invalidPatterns.length = ds.length ∧
    (∀ type name, (ofList ds).get? type name =
      if admits name then ds.find? fun d => d.type = type ∧ d.name = name else none) ∧
    List.Forall₂ (fun d e => ∃ cause, Pattern.compile d.name = .error cause ∧
        e = .invalidPattern d.type d.name d.location cause)
      (ds.filter fun d => !admits d.name) (ofList ds).invalidPatterns ∧
    List.Forall₂ (fun i e => ∃ d kept, ds[i]? = some d ∧
        (ofList ds).get? d.type d.name = some kept ∧
        e = .duplicate d.type d.name kept.location d.location)
      ((List.range ds.length).filter (repeats ds)) (ofList ds).duplicates := by
  -- only the order of the patterns is changed when all definitions have been taken up
  have hinvalid : (ofList ds).invalidPatterns = ds.filterMap invalidName? :=
    invalidPatterns_foldl_add ds
  have hduplicates : (ofList ds).duplicates =
      (List.range ds.length).filterMap (repetitionAt? ds) := duplicates_foldl_add ds
  refine ⟨?_, get?_foldl_add ds, ?_, ?_⟩
  · have hsplit : (ofList ds).refused.length =
        (ofList ds).duplicates.length + (ofList ds).invalidPatterns.length :=
      List.length_eq_length_filter_add RegistryError.isDuplicate
    have hall : (ofList ds).definitions.length + (ofList ds).refused.length = ds.length :=
      length_foldl_add ds
    omega
  · rw [hinvalid, ← funext isSome_invalidName?]
    refine (forall₂_filter_filterMap invalidName? ds).imp fun d e he => ?_
    exact (invalidName?_eq_some_iff.mp he).2
  · rw [hduplicates, ← funext (isSome_repetitionAt? ds)]
    exact (forall₂_filter_filterMap (repetitionAt? ds) _).imp fun i e =>
      exists_kept_of_repetitionAt?

end Registry

end FeatureDoc
