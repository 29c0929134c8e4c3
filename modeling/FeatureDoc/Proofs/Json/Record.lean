/-
# Records that are written

A record whose fields all have values is written like the object with these fields, and records
that are all so are written like the array of their objects. Of other records only a part is
written.

* `Output.isWhole_append`, `Output.isWhole_separated` : what is written as a whole;
* `Json.Record.arrayOutput_eq` : records that make objects are written as the array of these;
* `Json.Record.isWhole_arrayOutput` : other records are not written as a whole.
-/
import FeatureDoc.Json.Record
import Mathlib.Data.List.Forall2

namespace FeatureDoc

/-! ## Whole output -/

namespace Output

@[simp]
theorem text_append (t t' : Text) : text t ++ text t' = text (t ++ t') := rfl

@[simp]
theorem isWhole_text (t : Text) : (text t).isWhole = true := rfl

@[simp]
theorem isWhole_stop : stop.isWhole = false := rfl

/-- Two things are written as a whole if each of them is. -/
@[simp]
theorem isWhole_append (first next : Output) :
    (first ++ next).isWhole = (first.isWhole && next.isWhole) := by
  change (first.andThen next).isWhole = _
  rw [andThen]
  cases h : first.isWhole <;> simp [h]

/-- Things with commas between them are written as a whole if each of them is. -/
theorem isWhole_separated (items : List Output) :
    (separated items).isWhole = items.all isWhole := by
  induction items with
  | nil => rfl
  | cons item rest ih =>
    cases rest with
    | nil => exact (Bool.and_true _).symm
    | cons next rest =>
      rw [separated, isWhole_append, isWhole_append, ih, isWhole_text, Bool.and_true,
        List.all_cons (l := next :: rest)]

end Output

/-! ## Records -/

namespace Json.Record

/-- A record makes the object with its fields, if all of them have values. -/
def Makes (r : Record) (doc : Json) : Prop :=
  ∃ fields : List (Text × Json),
    r.fields = fields.map (fun field => (field.1, some field.2)) ∧ doc = .object fields

/-- A record makes one object at most. -/
theorem Makes.unique {r : Record} {doc doc' : Json} (h : r.Makes doc) (h' : r.Makes doc') :
    doc = doc' := by
  obtain ⟨fields, hfields, rfl⟩ := h
  obtain ⟨fields', hfields', rfl⟩ := h'
  have hinjective : Function.Injective fun field : Text × Json => (field.1, some field.2) := by
    rintro ⟨name, value⟩ ⟨name', value'⟩ heq
    simpa using heq
  exact congrArg object (List.map_injective_iff.mpr hinjective (hfields.symm.trans hfields'))

/-- A record that makes an object has a value in each field. -/
theorem Makes.exists_value {r : Record} {doc : Json} (h : r.Makes doc) {name : Text}
    {value : Option Json} (hmem : (name, value) ∈ r.fields) : ∃ v, value = some v := by
  obtain ⟨fields, hfields, rfl⟩ := h
  rw [hfields] at hmem
  obtain ⟨field, -, heq⟩ := List.mem_map.mp hmem
  exact ⟨field.2, (Prod.mk.inj heq).2.symm⟩

/-- Fields with values are written like those of an object. -/
theorem separated_fieldOutput (level : Nat) (fields : List (Text × Json)) :
    Output.separated (fields.map fun field => fieldOutput level (field.1, some field.2)) =
      .text (prettyFields level fields) := by
  induction fields with
  | nil => rfl
  | cons field rest ih =>
    obtain ⟨name, value⟩ := field
    cases rest with
    | nil => rfl
    | cons next rest =>
      rw [List.map_cons] at ih
      rw [List.map_cons, List.map_cons, Output.separated, ih, prettyFields_cons_cons]
      simp [fieldOutput]

/-- A record that makes an object is written like it. -/
theorem Makes.output_eq {r : Record} {doc : Json} (h : r.Makes doc) (level : Nat) :
    r.output level = .text (writePretty level doc) := by
  obtain ⟨fields, hfields, rfl⟩ := h
  rw [output, hfields]
  cases fields with
  | nil => rfl
  | cons field rest =>
    have hrest := separated_fieldOutput (level + 1) (field :: rest)
    rw [List.map_cons] at hrest
    simp [Function.comp_def, writePretty, hrest]

/-- Records that make objects are written as the array of these. -/
theorem arrayOutput_eq {records : List Record} {docs : List Json}
    (h : List.Forall₂ Makes records docs) :
    arrayOutput records = .text (Json.array docs).pretty := by
  have hitems : Output.separated (records.map fun r => .text (newLine 1) ++ r.output 1) =
      .text (prettyItems 1 docs) := by
    induction h with
    | nil => rfl
    | @cons r doc records docs hmakes hrest ih =>
      cases hrest with
      | nil => rw [List.map_singleton, Output.separated, hmakes.output_eq, Output.text_append,
          prettyItems]
      | cons hnext hothers =>
        rw [List.map_cons] at ih
        rw [List.map_cons, List.map_cons, Output.separated, ih, hmakes.output_eq,
          prettyItems_cons_cons]
        simp
  cases h with
  | nil => rfl
  | cons hmakes hrest =>
    rw [arrayOutput, hitems]
    · simp [Json.pretty, writePretty]
    · exact List.cons_ne_nil _ _

/-- A record is written as a whole if all its fields have values. -/
theorem isWhole_output (level : Nat) (r : Record) :
    (r.output level).isWhole = r.fields.all fun field => field.2.isSome := by
  have hfield : ∀ field, (fieldOutput (level + 1) field).isWhole = field.2.isSome := by
    rintro ⟨name, value⟩
    cases value <;> rfl
  rw [output]
  split
  · rename_i hnone
    rw [hnone]
    rfl
  · simp [Output.isWhole_separated, List.all_map, Function.comp_def, hfield]

/-- Only records whose fields all have values are written as a whole. -/
theorem isWhole_arrayOutput (records : List Record) : (arrayOutput records).isWhole =
    records.all fun r => r.fields.all fun field => field.2.isSome := by
  cases records with
  | nil => rfl
  | cons r rest =>
    simp [arrayOutput, Output.isWhole_separated, List.all_map, Function.comp_def, isWhole_output]

end Json.Record

end FeatureDoc
