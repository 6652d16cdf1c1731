import Mathlib.Data.List.Induction
import Mathlib.Data.List.Nodup
import Shapewright.Text.Split

/-!
# One item for every key

`Text.firstBy` keeps the first item of every key.  It is used with keys of several types: sets of
values by their text, fields of a document by their name, operations by the name they are declared
under.

* `Text.firstBy_sublist`, `Text.mem_map_firstBy`, `Text.nodup_map_firstBy` — what is kept: items in
  order, one for every key.
* `Text.firstBy_append`, `Text.firstBy_concat` — a list that is prolonged.
* `Text.firstBy_eq_map_filter` — so an item is kept exactly if no item with its key precedes it.
* `Text.filter_firstBy` — the item of a key is the first of that key.
* `Text.find?_of_perm_firstBy` — so it is found by its key in any order of what is kept.
-/

set_option autoImplicit false

namespace Shapewright
namespace Text

section

variable {α β κ : Type} [BEq κ] {key : α → κ}

theorem firstBy_sublist (key : α → κ) (xs : List α) : (firstBy key xs).Sublist xs := by
  induction xs with
  | nil => exact .refl _
  | cons x xs ih => exact .cons_cons x (List.filter_sublist.trans ih)

theorem firstBy_map (key : β → κ) (f : α → β) (xs : List α) :
    firstBy key (xs.map f) = (firstBy (fun x => key (f x)) xs).map f := by
  induction xs with
  | nil => rfl
  | cons x xs ih =>
    rw [List.map_cons, firstBy, firstBy, List.map_cons, ih, List.filter_map]
    rfl

variable [LawfulBEq κ]

theorem nodup_map_firstBy (key : α → κ) (xs : List α) : ((firstBy key xs).map key).Nodup := by
  induction xs with
  | nil => exact List.nodup_nil
  | cons x xs ih =>
    rw [firstBy, List.map_cons, List.nodup_cons]
    refine ⟨?_, ih.sublist (List.filter_sublist.map key)⟩
    simp [List.mem_map, List.mem_filter]

theorem firstBy_of_nodup {xs : List α} (h : (xs.map key).Nodup) : firstBy key xs = xs := by
  induction xs with
  | nil => rfl
  | cons x xs ih =>
    rw [List.map_cons, List.nodup_cons] at h
    rw [firstBy, ih h.2, List.filter_eq_self.2 fun y hy => ?_]
    have hne : key y ≠ key x := fun heq => h.1 (heq ▸ List.mem_map_of_mem hy)
    simpa using hne

/-- Items behind others are kept if their key occurs in neither part before. -/
theorem firstBy_append (key : α → κ) (xs ys : List α) : firstBy key (xs ++ ys) =
    firstBy key xs ++ (firstBy key ys).filter fun y => !(xs.map key).contains (key y) := by
  induction xs with
  | nil => simp [firstBy]
  | cons x xs ih =>
    rw [List.cons_append, firstBy, ih, firstBy, List.cons_append, List.filter_append,
      List.filter_filter]
    congr 2
    refine List.filter_congr fun y _ => ?_
    rw [List.map_cons, List.contains_cons, Bool.not_or]

/-- One item more is kept if its key is new. -/
theorem firstBy_concat (key : α → κ) (xs : List α) (y : α) : firstBy key (xs ++ [y]) =
    if (xs.map key).contains (key y) then firstBy key xs else firstBy key xs ++ [y] := by
  rw [firstBy_append, firstBy, firstBy, List.filter_nil]
  cases h : (xs.map key).contains (key y) <;> simp only [List.contains_eq_mem] at h <;> simp [h]

/-- What is kept are the items that no item with their key precedes. -/
theorem firstBy_eq_map_filter (key : α → κ) (xs : List α) : firstBy key xs =
    (xs.zipIdx.filter fun e => !((xs.take e.2).map key).contains (key e.1)).map (·.1) := by
  induction xs using List.reverseRecOn with
  | nil => rfl
  | append_singleton xs y ih =>
    have hfront : (xs.zipIdx.filter fun e =>
          !(((xs ++ [y]).take e.2).map key).contains (key e.1)) =
        xs.zipIdx.filter fun e => !((xs.take e.2).map key).contains (key e.1) := by
      refine List.filter_congr fun e he => ?_
      have hi : e.2 < xs.length := List.snd_lt_of_mem_zipIdx he
      rw [List.take_append_of_le_length (by omega)]
    rw [firstBy_concat, List.zipIdx_append, List.filter_append, List.map_append, hfront, ← ih,
      Nat.zero_add, List.zipIdx_singleton, List.filter_singleton, List.take_left]
    cases (xs.map key).contains (key y) <;> simp

/-- What is kept with a key is the first item that has it. -/
theorem filter_firstBy (key : α → κ) (xs : List α) (k : κ) :
    (firstBy key xs).filter (key · == k) = (xs.find? (key · == k)).toList := by
  induction xs with
  | nil => rfl
  | cons x xs ih =>
    have hrest : ((firstBy key xs).filter fun y => !(key y == key x)).filter (key · == k) =
        if key x == k then [] else (firstBy key xs).filter (key · == k) := by
      rw [List.filter_filter]
      split
      · rename_i hx
        rw [List.filter_eq_nil_iff]
        intro y _
        simp [eq_of_beq hx]
      · rename_i hx
        refine List.filter_congr fun y _ => ?_
        by_cases hy : key y = k
        · have hne : ¬ k = key x := fun heq => hx (by simp [heq])
          simp [hy, hne]
        · simp [hy]
    rw [firstBy, List.filter_cons, hrest, List.find?_cons]
    by_cases hx : (key x == k) = true
    · simp [hx]
    · simp [hx, ih]

/-- What is kept with a key is found in whatever order it is searched. -/
theorem find?_of_perm_firstBy {xs order : List α} (h : order.Perm (firstBy key xs)) (k : κ) :
    order.find? (key · == k) = xs.find? (key · == k) := by
  have hfilter : (order.filter (key · == k)).Perm (xs.find? (key · == k)).toList :=
    filter_firstBy key xs k ▸ h.filter _
  rw [← List.head?_filter]
  cases hfind : xs.find? (key · == k) with
  | none =>
    rw [hfind] at hfilter
    rw [hfilter.eq_nil]
    rfl
  | some x =>
    rw [hfind] at hfilter
    rw [List.perm_singleton.1 hfilter]
    rfl

theorem mem_map_firstBy (key : α → κ) {xs : List α} {k : κ} :
    k ∈ (firstBy key xs).map key ↔ k ∈ xs.map key := by
  refine ⟨fun h => ((firstBy_sublist key xs).map key).mem h, fun h => ?_⟩
  obtain ⟨x, hx, rfl⟩ := List.mem_map.1 h
  obtain ⟨y, hy⟩ := Option.isSome_iff_exists.1
    (List.find?_isSome (p := (key · == key x)).2 ⟨x, hx, beq_self_eq_true _⟩)
  have hmem : y ∈ (firstBy key xs).filter (key · == key x) := by
    rw [filter_firstBy, hy]
    exact List.mem_singleton_self y
  obtain ⟨hmem, hkey⟩ := List.mem_filter.1 hmem
  exact eq_of_beq hkey ▸ List.mem_map_of_mem hmem

end

/-! ## Items that are their own keys -/

section

variable {α : Type} [BEq α] [LawfulBEq α]

theorem mem_firstBy_id {x : α} {xs : List α} : x ∈ firstBy id xs ↔ x ∈ xs := by
  have hmap : x ∈ (firstBy id xs).map id ↔ x ∈ xs.map id := mem_map_firstBy id
  simpa using hmap

theorem nodup_firstBy_id (xs : List α) : (firstBy id xs).Nodup := by
  simpa using nodup_map_firstBy id xs

theorem firstBy_id_of_nodup {xs : List α} (h : xs.Nodup) : firstBy id xs = xs :=
  firstBy_of_nodup (by simpa using h)

theorem firstBy_id_append (xs ys : List α) :
    firstBy id (xs ++ ys) = firstBy id xs ++ (firstBy id ys).filter fun y => !xs.contains y := by
  rw [firstBy_append, List.map_id]
  rfl

theorem firstBy_id_concat (xs : List α) (y : α) :
    firstBy id (xs ++ [y]) = if y ∈ xs then firstBy id xs else firstBy id xs ++ [y] := by
  rw [firstBy_id_append]
  by_cases hy : y ∈ xs <;> simp [firstBy, hy]

/-- Repetitions may be dropped before or after a list is prolonged. -/
theorem firstBy_id_append_left (xs ys : List α) :
    firstBy id (firstBy id xs ++ ys) = firstBy id (xs ++ ys) := by
  rw [firstBy_id_append, firstBy_id_append, firstBy_id_of_nodup (nodup_firstBy_id xs)]
  congr 1
  refine List.filter_congr fun y _ => ?_
  rw [Bool.not_inj_iff, Bool.eq_iff_iff, List.contains_iff_mem, List.contains_iff_mem,
    mem_firstBy_id]

end

end Text
end Shapewright
