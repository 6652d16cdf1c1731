import Mathlib.Data.List.TakeWhile
import Shapewright.Text.Split

/-!
# Pieces between separators

A list is put together from pieces with a separator between them, and split at the separator again.
The same is done to the characters of a name and to the bytes of a path.

* `mem_intercalate`, `subset_intercalate`, `intercalate_ne_nil` — what is in the list that is put
  together.
* `splitOn_intercalate_append`, `exists_splitOn_intercalate_cons` — pieces without the separator are
  the pieces of the split.
* `splitOn_intercalate_eq_flatMap` — pieces with the separator are split like the others.
* `flatMap_intercalate` — putting together lists that are written item by item.
* `subset_of_mem_splitOn`, `not_mem_of_mem_splitOn` — a piece of a split is made of the items of the
  list, without the separator.
* `Text.exists_dropWhileEnd` — what is trimmed from the end of a list.
-/

set_option autoImplicit false

namespace Shapewright

variable {α : Type} {x : α}

/-! ## Putting together -/

theorem mem_intercalate {y : α} {ls : List (List α)} (h : y ∈ List.intercalate [x] ls) :
    y = x ∨ ∃ l ∈ ls, y ∈ l := by
  induction ls with
  | nil => cases h
  | cons l ls ih =>
    cases ls with
    | nil => exact .inr ⟨l, by simp, by simpa using h⟩
    | cons l' ls =>
      rw [List.intercalate_cons_cons, List.mem_append, List.mem_append, List.mem_singleton] at h
      rcases h with (h | h) | h
      · exact .inr ⟨l, by simp, h⟩
      · exact .inl h
      · refine (ih h).imp_right ?_
        rintro ⟨l'', hl'', hy⟩
        exact ⟨l'', List.mem_cons_of_mem _ hl'', hy⟩

theorem subset_intercalate {l : List α} {ls : List (List α)} (h : l ∈ ls) :
    l ⊆ List.intercalate [x] ls := by
  induction ls with
  | nil => cases h
  | cons l' ls ih =>
    cases ls with
    | nil =>
      rw [List.intercalate_singleton, List.mem_singleton.1 h]
      exact List.Subset.refl _
    | cons l'' ls =>
      rw [List.intercalate_cons_cons]
      rcases List.mem_cons.1 h with rfl | h
      · simp
      · exact List.Subset.trans (ih h) (List.subset_append_right _ _)

theorem intercalate_ne_nil {l : List α} {ls : List (List α)} (hmem : l ∈ ls) (hl : l ≠ []) :
    List.intercalate [x] ls ≠ [] := by
  cases ls with
  | nil => cases hmem
  | cons l' ls =>
    cases ls with
    | nil =>
      rw [List.intercalate_singleton, ← List.mem_singleton.1 hmem]
      exact hl
    | cons l'' ls =>
      rw [List.intercalate_cons_cons]
      simp

theorem flatMap_intercalate {β : Type} (f : α → List β) (ls : List (List α)) :
    (List.intercalate [x] ls).flatMap f = List.intercalate (f x) (ls.map (·.flatMap f)) := by
  induction ls with
  | nil => rfl
  | cons l ls ih =>
    cases ls with
    | nil => simp
    | cons l' ls =>
      rw [List.intercalate_cons_cons, List.flatMap_append, List.flatMap_append, ih,
        List.flatMap_singleton, List.map_cons, List.map_cons, List.map_cons,
        List.intercalate_cons_cons]

/-! ## Splitting -/

section

variable [DecidableEq α]

theorem splitOn_intercalate_append {front back : List (List α)} (hx : ∀ l ∈ front, x ∉ l)
    (hback : back ≠ []) :
    (List.intercalate [x] (front ++ back)).splitOn x
      = front ++ (List.intercalate [x] back).splitOn x := by
  induction front with
  | nil => rfl
  | cons l front ih =>
    have hne : front ++ back ≠ [] := fun h => hback (List.append_eq_nil_iff.1 h).2
    rw [List.cons_append, List.intercalate_cons_of_ne_nil hne, List.append_assoc,
      List.singleton_append, List.splitOn_append_cons_self_of_not_mem (hx l (by simp)),
      ih fun l' hl' => hx l' (List.mem_cons_of_mem _ hl'), List.cons_append]

/-- The first piece is all there is before the first separator. -/
theorem exists_splitOn_intercalate_cons {l : List α} (hx : x ∉ l) (back : List (List α)) :
    ∃ rest, (List.intercalate [x] (l :: back)).splitOn x = l :: rest := by
  cases back with
  | nil => exact ⟨[], by rw [List.intercalate_singleton, List.splitOn_eq_singleton hx]⟩
  | cons l' back =>
    refine ⟨(List.intercalate [x] (l' :: back)).splitOn x, ?_⟩
    rw [List.intercalate_cons_cons, List.append_assoc, List.singleton_append,
      List.splitOn_append_cons_self_of_not_mem hx]

/-- Splitting what is put together is splitting the pieces. -/
theorem splitOn_intercalate_eq_flatMap {ls : List (List α)} (h : ls ≠ []) :
    (List.intercalate [x] ls).splitOn x = ls.flatMap (·.splitOn x) := by
  induction ls with
  | nil => exact absurd rfl h
  | cons l ls ih =>
    cases ls with
    | nil => rw [List.intercalate_singleton, List.flatMap_singleton]
    | cons l' ls =>
      rw [List.intercalate_cons_cons, List.append_assoc, List.singleton_append,
        List.splitOn_append_cons_self, ih (by simp)]
      rfl

theorem subset_of_mem_splitOn {xs piece : List α} (h : piece ∈ xs.splitOn x) : piece ⊆ xs := by
  have hsubset := subset_intercalate (x := x) h
  rwa [List.intercalate_splitOn] at hsubset

theorem not_mem_of_mem_splitOn {xs piece : List α} (h : piece ∈ xs.splitOn x) :
    x ∉ piece := by
  induction xs generalizing piece with
  | nil =>
    rw [List.splitOn_nil, List.mem_singleton] at h
    simp [h]
  | cons y xs ih =>
    rw [List.splitOn_cons_eq_if_modifyHead] at h
    obtain ⟨first, rest, hsplit⟩ := List.exists_cons_of_ne_nil (List.splitOn_ne_nil x xs)
    rw [hsplit] at h ih
    split at h
    · rcases List.mem_cons.1 h with rfl | h
      · simp
      · exact ih h
    · rename_i hy
      rw [List.modifyHead_cons] at h
      rcases List.mem_cons.1 h with rfl | h
      · have hne : x ≠ y := fun he => hy (by simp [he])
        have hfirst := ih (@List.mem_cons_self _ first rest)
        simpa [hne] using hfirst
      · exact ih (List.mem_cons_of_mem _ h)

end

/-! ## The end of a list -/

theorem Text.exists_dropWhileEnd (p : α → Bool) (xs : List α) :
    ∃ back, (∀ x ∈ back, p x = true) ∧ xs = Text.dropWhileEnd p xs ++ back := by
  refine ⟨(xs.reverse.takeWhile p).reverse, fun x hx => ?_, ?_⟩
  · exact List.mem_takeWhile_imp (List.mem_reverse.1 hx)
  · rw [Text.dropWhileEnd, ← List.reverse_append, List.takeWhile_append_dropWhile,
      List.reverse_reverse]

end Shapewright
