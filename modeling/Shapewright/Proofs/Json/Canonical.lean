import Shapewright.Json.Basic
import Shapewright.Proofs.Text.Distinct

/-!
# The value that a document denotes

* `Json.induction` — what holds of a document if it holds of its items and of the values of its
  fields.
* `Json.canonical_canonical` — the value of a document is its own value.
* `Json.allNumbers_canonical` — the numbers of the value are among those of the document.
-/

set_option autoImplicit false

namespace Shapewright

namespace Json

/-! ## Induction -/

/-- What holds of a document if it holds of its items and of the values of its fields. -/
theorem induction {P : Json → Prop} (null : P .null) (bool : ∀ b, P (.bool b))
    (number : ∀ t, P (.number t)) (string : ∀ s, P (.string s))
    (array : ∀ items : List Json, (∀ v ∈ items, P v) → P (.array items))
    (object : ∀ fields : List (String × Json), (∀ e ∈ fields, P e.2) → P (.object fields)) (v : Json) :
    P v :=
  @Json.rec P (fun items => ∀ v ∈ items, P v) (fun fields => ∀ e ∈ fields, P e.2) (fun e => P e.2)
    null bool number string array object
    (List.forall_mem_nil _) (fun _ _ hv hitems => List.forall_mem_cons.2 ⟨hv, hitems⟩)
    (List.forall_mem_nil _) (fun _ _ he hfields => List.forall_mem_cons.2 ⟨he, hfields⟩)
    (fun _ _ hv => hv) v

theorem allNumbersItems_iff {test : String → Bool} {items : List Json} :
    allNumbersItems test items = true ↔ ∀ v ∈ items, v.allNumbers test = true := by
  induction items with
  | nil => simp [allNumbersItems]
  | cons v items ih => rw [allNumbersItems, Bool.and_eq_true, ih, List.forall_mem_cons]

theorem allNumbersFields_iff {test : String → Bool} {fields : List (String × Json)} :
    allNumbersFields test fields = true ↔ ∀ e ∈ fields, e.2.allNumbers test = true := by
  induction fields with
  | nil => simp [allNumbersFields]
  | cons e fields ih => rw [allNumbersFields, Bool.and_eq_true, ih, List.forall_mem_cons]

/-- Numbers that pass two tests one by one pass both. -/
theorem allNumbers_and {p q : String → Bool} {v : Json} (hp : v.allNumbers p = true)
    (hq : v.allNumbers q = true) : v.allNumbers (fun t => p t && q t) = true := by
  induction v using Json.induction with
  | null | bool | string => rfl
  | number t => exact Bool.and_eq_true_iff.2 ⟨hp, hq⟩
  | array items ih =>
    rw [allNumbers, allNumbersItems_iff] at hp hq ⊢
    exact fun v hv => ih v hv (hp v hv) (hq v hv)
  | object fields ih =>
    rw [allNumbers, allNumbersFields_iff] at hp hq ⊢
    exact fun e he => ih e he (hp e he) (hq e he)

/-- The numbers of a field are among those of the object. -/
theorem allNumbers_of_field? {test : String → Bool} {key : String} {v w : Json}
    (hv : v.allNumbers test = true) (h : v.field? key = some w) : w.allNumbers test = true := by
  cases v with
  | object fields =>
    obtain ⟨e, he, rfl⟩ := Option.map_eq_some_iff.1 h
    exact allNumbersFields_iff.1 hv e (List.mem_reverse.1 (List.mem_of_find?_eq_some he))
  | _ => cases h

/-! ## Sorting the fields of an object -/

section

variable {α : Type} {fields : List (String × α)}

theorem mem_of_mem_sortFields {e : String × α} (h : e ∈ sortFields fields) : e ∈ fields :=
  List.mem_reverse.1 ((Text.firstBy_sublist _ _).mem (List.mem_mergeSort.1 h))

theorem nodup_sortFields (fields : List (String × α)) : ((sortFields fields).map (·.1)).Nodup :=
  ((List.mergeSort_perm _ _).map _).nodup_iff.2 (Text.nodup_map_firstBy _ _)

theorem pairwise_sortFields (fields : List (String × α)) :
    (sortFields fields).Pairwise fun a b => decide (a.1 ≤ b.1) = true := by
  have htrans : ∀ a b c : String × α, decide (a.1 ≤ b.1) = true → decide (b.1 ≤ c.1) = true →
      decide (a.1 ≤ c.1) = true := fun a b c hab hbc =>
    decide_eq_true (String.le_trans (of_decide_eq_true hab) (of_decide_eq_true hbc))
  have htotal : ∀ a b : String × α, (decide (a.1 ≤ b.1) || decide (b.1 ≤ a.1)) = true := fun a b => by
    rw [← Bool.decide_or]
    exact decide_eq_true (String.le_total a.1 b.1)
  exact List.pairwise_mergeSort htrans htotal _

/-- Fields that are sorted stay as they are. -/
theorem sortFields_sortFields (fields : List (String × α)) :
    sortFields (sortFields fields) = sortFields fields := by
  have hnodup : ((sortFields fields).reverse.map (·.1)).Nodup := by
    rw [List.map_reverse, List.nodup_reverse]
    exact nodup_sortFields fields
  have hperm : (sortFields (sortFields fields)).Perm (sortFields fields) := by
    rw [sortFields, Text.firstBy_of_nodup hnodup]
    exact (List.mergeSort_perm _ _).trans (List.reverse_perm _)
  refine hperm.eq_of_pairwise (fun a b ha hb hab hba => ?_) (pairwise_sortFields _)
    (pairwise_sortFields _)
  have hkey : a.1 = b.1 := String.le_antisymm (of_decide_eq_true hab) (of_decide_eq_true hba)
  exact List.inj_on_of_nodup_map (nodup_sortFields fields) (mem_of_mem_sortFields ha) hb hkey

end

/-! ## Documents -/

theorem canonicalItems_eq_map (items : List Json) : canonicalItems items = items.map canonical := by
  induction items with
  | nil => rfl
  | cons v items ih => rw [canonicalItems, ih, List.map_cons]

theorem canonicalFields_eq_map (fields : List (String × Json)) :
    canonicalFields fields = fields.map fun (k, v) => (k, canonical v) := by
  induction fields with
  | nil => rfl
  | cons e fields ih => rw [canonicalFields, ih, List.map_cons]

/-- A field of the value is the value of a field. -/
theorem exists_of_mem_sortFields {fields : List (String × Json)} {e : String × Json}
    (h : e ∈ sortFields (canonicalFields fields)) : ∃ f ∈ fields, e = (f.1, canonical f.2) := by
  have hmem := mem_of_mem_sortFields h
  rw [canonicalFields_eq_map] at hmem
  obtain ⟨f, hf, rfl⟩ := List.mem_map.1 hmem
  exact ⟨f, hf, rfl⟩

/-- **The value** of a document is its own value. -/
theorem canonical_canonical (v : Json) : v.canonical.canonical = v.canonical := by
  induction v using Json.induction with
  | null | bool | number | string => rfl
  | array items ih =>
    rw [canonical, canonical, canonicalItems_eq_map, canonicalItems_eq_map, List.map_map]
    exact congrArg _ (List.map_congr_left ih)
  | object fields ih =>
    have hid : canonicalFields (sortFields (canonicalFields fields)) =
        sortFields (canonicalFields fields) := by
      rw [canonicalFields_eq_map (sortFields _)]
      refine (List.map_congr_left fun e he => ?_).trans (List.map_id _)
      obtain ⟨f, hf, rfl⟩ := exists_of_mem_sortFields he
      simp only [ih f hf, id_eq]
    rw [canonical, canonical, hid, sortFields_sortFields]

/-- What is true of all numbers of a document is true of those of its value. -/
theorem allNumbers_canonical {test : String → Bool} (v : Json) (h : v.allNumbers test = true) :
    v.canonical.allNumbers test = true := by
  induction v using Json.induction with
  | null | bool | number | string => exact h
  | array items ih =>
    rw [allNumbers, allNumbersItems_iff] at h
    rw [canonical, canonicalItems_eq_map, allNumbers, allNumbersItems_iff]
    exact List.forall_mem_map.2 fun v hv => ih v hv (h v hv)
  | object fields ih =>
    rw [allNumbers, allNumbersFields_iff] at h
    rw [canonical, allNumbers, allNumbersFields_iff]
    intro e he
    obtain ⟨f, hf, rfl⟩ := exists_of_mem_sortFields he
    exact ih f hf (h f hf)

end Json
end Shapewright
