import Shapewright.Proofs.Failure
import Shapewright.Proofs.Text.Distinct
import Shapewright.Wire.Typed

/-!
# Sets without repetitions

A list is made a set in its own place: the items that are kept are moved to its front while those
behind are still read.  An item that is kept is never written over one that has not been read, since
no more can be kept than have been read.

* `Wire.Sieve.Holds` — what a sieve holds when it has read the items up to a position.
* `Wire.Sieve.Holds.step`, `Wire.Sieve.holds_foldl` — reading one more item, and all of them.
* `Wire.withoutRepeats_eq` — what is kept: the first item of every key.
* `Wire.converted_sets` — so sets are converted as lists are, and keep the first value of every key.
-/

set_option autoImplicit false

namespace Shapewright
namespace Wire

variable {α κ : Type} [BEq κ]

/-! ## One pass -/

/-- What a sieve holds when it has read the items before a position: in front those that are kept, and
from the position on the items as they were. -/
structure Sieve.Holds (key : α → κ) (items : List α) (i : Nat) (s : Sieve α κ) : Prop where
  kept_le : s.kept ≤ i
  front : s.buffer.take s.kept = Text.firstBy key (items.take i)
  rest : s.buffer.drop i = items.drop i
  seen : s.seen.reverse = (Text.firstBy key (items.take i)).map key

namespace Sieve

variable {key : α → κ} {items : List α} {i : Nat} {s : Sieve α κ}

theorem holds_start (key : α → κ) (items : List α) : Holds key items 0 { buffer := items } where
  kept_le := Nat.le_refl 0
  front := rfl
  rest := rfl
  seen := rfl

variable [LawfulBEq κ]

/-- **One more item** is read. -/
theorem Holds.step (h : s.Holds key items i) (hi : i < items.length) :
    (s.step key i).Holds key items (i + 1) := by
  have hread : s.buffer[i]? = some items[i] := by
    have hhead := congrArg (·[0]?) h.rest
    simpa [List.getElem?_drop, List.getElem?_eq_getElem hi] using hhead
  have hlength : i < s.buffer.length := (List.getElem?_eq_some_iff.1 hread).1
  have htake : items.take (i + 1) = items.take i ++ [items[i]] := List.take_succ_eq_append_getElem hi
  have hseen : s.seen.contains (key items[i]) = ((items.take i).map key).contains (key items[i]) := by
    rw [Bool.eq_iff_iff, List.contains_iff_mem, List.contains_iff_mem, ← List.mem_reverse, h.seen,
      Text.mem_map_firstBy]
  have hrest : s.buffer.drop (i + 1) = items.drop (i + 1) := by
    rw [← List.drop_drop, h.rest, List.drop_drop]
  have hkept := h.kept_le
  simp only [Sieve.step, hread, hseen]
  split
  · rename_i hold
    have hsame : Text.firstBy key (items.take (i + 1)) = Text.firstBy key (items.take i) := by
      rw [htake, Text.firstBy_concat, if_pos hold]
    exact ⟨by omega, h.front.trans hsame.symm, hrest, by rw [hsame]; exact h.seen⟩
  · rename_i hnew
    have hmore : Text.firstBy key (items.take (i + 1)) =
        Text.firstBy key (items.take i) ++ [items[i]] := by
      rw [htake, Text.firstBy_concat, if_neg hnew]
    refine ⟨Nat.succ_le_succ hkept, ?_, ?_, ?_⟩
    · rw [hmore, ← h.front, List.take_succ_eq_append_getElem (by rw [List.length_set]; omega),
        List.take_set_of_le (Nat.le_refl _), List.getElem_set_self]
    · rw [List.drop_set_of_lt (by omega)]
      exact hrest
    · rw [hmore, List.reverse_cons, h.seen, List.map_append, List.map_singleton]

/-- All items are read, one after the other. -/
theorem holds_foldl (key : α → κ) (items : List α) {n : Nat} (hn : n ≤ items.length) :
    ((List.range n).foldl (Sieve.step key) { buffer := items }).Holds key items n := by
  induction n with
  | zero => exact holds_start key items
  | succ n ih =>
    rw [List.range_succ, List.foldl_concat]
    exact (ih (by omega)).step hn

end Sieve

/-- **What is kept** of a list is the first item of every key. -/
theorem withoutRepeats_eq [LawfulBEq κ] (key : α → κ) (items : List α) :
    withoutRepeats key items = Text.firstBy key items := by
  have h := (Sieve.holds_foldl key items (Nat.le_refl items.length)).front
  rwa [List.take_length] at h

/-! ## Sets -/

/-- **A set** fails as the list does, with the first part that fails, and of the values of a list it
keeps those that no value with the same key precedes. A set of texts that are not converted is what its
text is split into. -/
theorem converted_sets :
    (∀ {α κ : Type} [BEq κ] [LawfulBEq κ] (key : α → κ) (field : String) (parts : List Bytes)
      (convert : String → Bytes → Served α),
      (∀ e, convertSet key field parts convert = .error e ↔
        convertEach field parts convert = .error e) ∧
      (∀ e, convertSet key field parts convert = .error e ↔ ∃ front p back,
        parts = front ++ p :: back ∧ (∀ q ∈ front, ∃ v, convert field q = .ok v) ∧
          convert field p = .error e) ∧
      ∀ values, convertEach field parts convert = .ok values → ∃ kept,
        convertSet key field parts convert = .ok kept ∧
        kept = (values.zipIdx.filter fun e =>
          !((values.take e.2).map key).contains (key e.1)).map (·.1) ∧
        kept.Sublist values ∧ (kept.map key).Nodup ∧ (∀ v ∈ values, key v ∈ kept.map key) ∧
        ∀ v ∈ kept, values.find? (key · == key v) = some v) ∧
    ∀ (field : String) (text : Bytes),
      convertSet Value.key field (listParts text) (fun _ part => .ok (Value.text part)) =
        .ok ((setParts text).map Value.text) := by
  refine ⟨fun {α κ} _ _ key field parts convert => ?_, fun field text => ?_⟩
  · have hset : ∀ e, convertSet key field parts convert = .error e ↔
        convertEach field parts convert = .error e := by
      intro e
      rw [convertSet]
      cases convertEach field parts convert <;> simp [Except.map]
    refine ⟨hset, fun e => (hset e).trans Outcome.mapM_eq_error_iff, fun values hvalues => ?_⟩
    refine ⟨Text.firstBy key values, ?_, Text.firstBy_eq_map_filter key values,
      Text.firstBy_sublist key values, Text.nodup_map_firstBy key values, fun v hv => ?_,
      fun v hv => ?_⟩
    · rw [convertSet, hvalues, Except.map, withoutRepeats_eq]
    · exact (Text.mem_map_firstBy key).2 (List.mem_map_of_mem hv)
    · have hfirst : v ∈ (Text.firstBy key values).filter (key · == key v) :=
        List.mem_filter.2 ⟨hv, beq_self_eq_true _⟩
      rw [Text.filter_firstBy] at hfirst
      exact Option.mem_toList.1 hfirst
  · have hvalues : convertEach field (listParts text) (fun _ part => .ok (Value.text part)) =
        .ok ((listParts text).map Value.text) :=
      Outcome.mapM_eq_ok_iff.2 (List.forall₂_map_right_iff.2 (List.forall₂_same.2 fun _ _ => rfl))
    rw [convertSet, hvalues, Except.map, withoutRepeats_eq, setParts, withoutRepeats_eq,
      Text.firstBy_map]
    rfl

/-- Numbers are compared after they are converted. -/
theorem converted_sets_numbers :
    convertSet Value.key "ids" (listParts (Bytes.encode "1, 01,2,1")) (WireType.int 32).parse =
      .ok [.int 1, .int 2] := by
  have hparts : listParts (Bytes.encode "1, 01,2,1") = ["1", "01", "2", "1"].map Bytes.encode := by
    decide +kernel
  have hvalues : convertEach "ids" (["1", "01", "2", "1"].map Bytes.encode) (WireType.int 32).parse =
      .ok [.int 1, .int 1, .int 2, .int 1] := rfl
  obtain ⟨kept, hkept, hfirst, -⟩ := (converted_sets.1 Value.key "ids" _ _).2.2 _ hvalues
  rw [hparts, hkept, hfirst]
  rfl

end Wire
end Shapewright
