/-
# Lists

Related lists, what stands at the places of a list, and first hits in lists that are put together
or sorted.

* `exists_left_of_forall₂`, `exists_right_of_forall₂` : members of related lists are related;
* `forall₂_filter_filterMap` : a list is related to what is made of its members;
* `filterMap_range_concat` : what is made at the places of a list that has one member more;
* `findSome?_flatMap` : the first hit among lists put together;
* `exists_of_findSome?_mergeSort` : the first hit in a sorted list is the best hit of the list.
-/
import Mathlib.Data.List.Basic
import Mathlib.Data.List.Forall2

namespace FeatureDoc

/-! ## Related lists -/

/-- What stands on the right of related lists is related to something on the left. -/
theorem exists_left_of_forall₂ {α β : Type} {R : α → β → Prop} {as : List α} {bs : List β}
    (h : List.Forall₂ R as bs) {b : β} (hb : b ∈ bs) : ∃ a ∈ as, R a b := by
  induction h with
  | nil => cases hb
  | cons hab _ ih =>
    rcases List.mem_cons.mp hb with rfl | hb
    · exact ⟨_, List.mem_cons_self, hab⟩
    · obtain ⟨a, ha, hab⟩ := ih hb
      exact ⟨a, List.mem_cons_of_mem _ ha, hab⟩

/-- What stands on the left of related lists is related to something on the right. -/
theorem exists_right_of_forall₂ {α β : Type} {R : α → β → Prop} {as : List α} {bs : List β}
    (h : List.Forall₂ R as bs) {a : α} (ha : a ∈ as) : ∃ b ∈ bs, R a b :=
  exists_left_of_forall₂ (R := flip R) (List.Forall₂.flip h) ha

/-- The members of a list of which something is made are related, one for one, to what is made of
them. -/
theorem forall₂_filter_filterMap {α β : Type} (f : α → Option β) (l : List α) :
    List.Forall₂ (fun a b => f a = some b) (l.filter fun a => (f a).isSome) (l.filterMap f) := by
  induction l with
  | nil => exact .nil
  | cons a l ih =>
    cases ha : f a with
    | none => simpa [ha] using ih
    | some b => simpa [ha] using ih

/-! ## The places of a list -/

/-- What is made at the places of a list with one member more is what was made before, and what is
made at the last place. -/
theorem filterMap_range_concat {α β : Type} {f : List α → Nat → Option β} {l : List α} {a : α}
    (hbefore : ∀ i < l.length, f (l ++ [a]) i = f l i) :
    (List.range (l ++ [a]).length).filterMap (f (l ++ [a])) =
      (List.range l.length).filterMap (f l) ++ (f (l ++ [a]) l.length).toList := by
  rw [List.length_append, List.length_singleton, List.range_succ, List.filterMap_append,
    List.filterMap_congr fun i hi => hbefore i (List.mem_range.mp hi)]
  cases hlast : f (l ++ [a]) l.length <;> simp [hlast]

/-! ## First hits -/

/-- The first hit among lists put together is the first hit of the first list that has one. -/
theorem findSome?_flatMap {α β γ : Type} {f : α → List β} {g : β → Option γ} {l : List α} :
    (l.flatMap f).findSome? g = l.findSome? fun a => (f a).findSome? g := by
  induction l with
  | nil => rfl
  | cons a l ih =>
    rw [List.flatMap_cons, List.findSome?_append, ih, List.findSome?_cons]
    cases (f a).findSome? g <;> rfl

/-- The first hit in a list that has been sorted is a best hit of the list, and the first of the
best. -/
theorem exists_of_findSome?_mergeSort {α β : Type} {le : α → α → Bool}
    (htrans : ∀ a b c, le a b = true → le b c = true → le a c = true)
    (htotal : ∀ a b, (le a b || le b a) = true) {f : α → Option β} {l : List α} {b : β}
    (h : (l.mergeSort le).findSome? f = some b) :
    ∃ before a after, l = before ++ a :: after ∧ f a = some b ∧
      (∀ x ∈ before, (f x).isSome → le x a = false) ∧
      ∀ x ∈ after, (f x).isSome → le a x = true := by
  induction l generalizing b with
  | nil => simp at h
  | cons c l ih =>
    obtain ⟨l₁, l₂, hsorted, hrest, hbefore⟩ := List.mergeSort_cons htrans htotal c l
    have hpairwise := List.pairwise_mergeSort htrans htotal (c :: l)
    have hmem (x : α) : x ∈ l ↔ x ∈ l₁ ++ l₂ := by rw [← hrest, List.mem_mergeSort]
    rw [hsorted] at h hpairwise
    rw [hrest] at ih
    rw [List.findSome?_append] at h
    cases hfirst : l₁.findSome? f with
    | some d =>
      -- a hit of the rest comes before `c`, and so does the best of them
      rw [hfirst] at h
      obtain ⟨before, a, after, rfl, ha, hworse, hbetter⟩ :=
        ih (by rw [List.findSome?_append, hfirst]; exact h)
      obtain ⟨e, hmeme, he⟩ := List.exists_of_findSome?_eq_some hfirst
      have hce : le c e = false := by simpa using hbefore e hmeme
      have hae : le a e = true ∨ e = a := by
        rcases List.mem_append.mp ((hmem e).mpr (List.mem_append_left _ hmeme)) with hin | hin
        · have htot := htotal e a
          rw [hworse e hin (by simp [he])] at htot
          exact Or.inl (by simpa using htot)
        · rcases List.mem_cons.mp hin with rfl | hin
          · exact Or.inr rfl
          · exact Or.inl (hbetter e hin (by simp [he]))
      refine ⟨c :: before, a, after, rfl, ha, ?_, hbetter⟩
      rintro x hx hhit
      rcases List.mem_cons.mp hx with rfl | hx
      · rcases hae with hae | rfl
        · by_contra hxa
          rw [htrans x a e (by simpa using hxa) hae] at hce
          cases hce
        · exact hce
      · exact hworse x hx hhit
    | none =>
      rw [hfirst, Option.none_or, List.findSome?_cons] at h
      cases hc : f c with
      | some v =>
        rw [hc] at h
        obtain rfl := Option.some.inj h
        refine ⟨[], c, l, rfl, hc, by simp, fun x hx hhit => ?_⟩
        rcases List.mem_append.mp ((hmem x).mp hx) with hin | hin
        · rw [List.findSome?_eq_none_iff.mp hfirst x hin] at hhit
          cases hhit
        · exact List.rel_of_pairwise_cons (List.pairwise_append.mp hpairwise).2.1 hin
      | none =>
        rw [hc] at h
        obtain ⟨before, a, after, rfl, ha, hworse, hbetter⟩ :=
          ih (by rw [List.findSome?_append, hfirst]; exact h)
        refine ⟨c :: before, a, after, rfl, ha, ?_, hbetter⟩
        rintro x hx hhit
        rcases List.mem_cons.mp hx with rfl | hx
        · rw [hc] at hhit
          cases hhit
        · exact hworse x hx hhit

end FeatureDoc
