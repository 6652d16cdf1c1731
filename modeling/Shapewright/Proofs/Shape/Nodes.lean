import Shapewright.Proofs.Json.Grammar
import Shapewright.Proofs.Shape.Documents

/-!
# Values of a model are read back

A node is written as a document without white space, and the document is read again.  What limits the
way back is the nesting that a reader takes; everything else survives, and numbers keep their spelling.

* `Json.IsValue` — the values that nodes hold: numbers are numbers, and the fields of an object are in
  order, each once.
* `Json.isValue_canonical`, `Json.IsValue.canonical_eq` — the value of a document is such a value, and
  these values denote themselves; `Node.isDocument_iff` says that these are the values of documents.
* `Json.nesting_canonical_le` — forgetting what is repeated does not nest a document deeper.
* `Node.parse?_text` — the payoff, for nodes and for documents.
-/

set_option autoImplicit false

namespace Shapewright

namespace Json

/-! ## Values -/

/-- The values that nodes hold. The fields of an object are in order, so that an object has one list. -/
inductive IsValue : Json → Prop
  | null : IsValue .null
  | bool (b : Bool) : IsValue (.bool b)
  | number {text : String} (h : isNumber text = true) : IsValue (.number text)
  | string (s : String) : IsValue (.string s)
  | array {items : List Json} (h : ∀ v ∈ items, IsValue v) : IsValue (.array items)
  | object {fields : List (String × Json)} (hkeys : (fields.map (·.1)).Pairwise (· < ·))
    (h : ∀ e ∈ fields, IsValue e.2) : IsValue (.object fields)

theorem pairwise_lt_sortFields {α : Type} (fields : List (String × α)) :
    ((sortFields fields).map (·.1)).Pairwise (· < ·) := by
  have hle : ((sortFields fields).map (·.1)).Pairwise (· ≤ ·) :=
    List.pairwise_map.2 ((pairwise_sortFields fields).imp of_decide_eq_true)
  refine (List.Pairwise.and hle (nodup_sortFields fields)).imp fun h => ?_
  exact String.not_le.1 fun hba => h.2 (String.le_antisymm h.1 hba)

/-- Fields that are in order, each once, stay as they are. -/
theorem sortFields_eq_self {α : Type} {fields : List (String × α)}
    (h : (fields.map (·.1)).Pairwise (· < ·)) : sortFields fields = fields := by
  have hle : fields.Pairwise fun a b => decide (a.1 ≤ b.1) = true :=
    (List.pairwise_map.1 h).imp fun hab => decide_eq_true (String.not_lt.1 (String.lt_asymm hab))
  have hnodup : (fields.map (·.1)).Nodup := h.imp fun hab => String.ne_of_lt hab
  have hperm : (sortFields fields).Perm fields := by
    rw [sortFields, Text.firstBy_of_nodup (by simpa [List.map_reverse] using hnodup)]
    exact (List.mergeSort_perm _ _).trans (List.reverse_perm _)
  refine hperm.eq_of_pairwise (fun a b ha hb hab hba => ?_) (pairwise_sortFields _) hle
  have hkey : a.1 = b.1 := String.le_antisymm (of_decide_eq_true hab) (of_decide_eq_true hba)
  exact List.inj_on_of_nodup_map hnodup (mem_of_mem_sortFields ha) hb hkey

/-- Values denote themselves. -/
theorem IsValue.canonical_eq {v : Json} (h : v.IsValue) : v.canonical = v := by
  induction h with
  | null | bool | number | string => rfl
  | array _ ih =>
    rw [canonical, canonicalItems_eq_map]
    exact congrArg _ ((List.map_congr_left ih).trans (List.map_id _))
  | @object fields hkeys _ ih =>
    have hfields : canonicalFields fields = fields := by
      rw [canonicalFields_eq_map]
      refine (List.map_congr_left fun e he => ?_).trans (List.map_id fields)
      exact Prod.ext rfl (ih e he)
    rw [canonical, hfields, sortFields_eq_self hkeys]

theorem IsValue.allNumbers {v : Json} (h : v.IsValue) : v.allNumbers isNumber = true := by
  induction h with
  | null | bool | string => rfl
  | number h => exact h
  | array _ ih => exact allNumbersItems_iff.2 ih
  | object _ _ ih => exact allNumbersFields_iff.2 ih

/-- **What a document denotes** is a value. -/
theorem isValue_canonical {v : Json} (h : v.allNumbers isNumber = true) : v.canonical.IsValue := by
  induction v using Json.induction with
  | null => exact .null
  | bool b => exact .bool b
  | number text => exact .number h
  | string s => exact .string s
  | array items ih =>
    rw [Json.allNumbers, allNumbersItems_iff] at h
    rw [canonical, canonicalItems_eq_map]
    exact .array (List.forall_mem_map.2 fun v hv => ih v hv (h v hv))
  | object fields ih =>
    rw [Json.allNumbers, allNumbersFields_iff] at h
    refine .object (pairwise_lt_sortFields _) fun e he => ?_
    obtain ⟨f, hf, rfl⟩ := exists_of_mem_sortFields he
    exact ih f hf (h f hf)

/-! ## Nesting -/

theorem nestingItems_le_iff {items : List Json} {n : Nat} :
    nestingItems items ≤ n ↔ ∀ v ∈ items, v.nesting ≤ n := by
  induction items with
  | nil => simp [nestingItems]
  | cons v items ih => rw [nestingItems, Nat.max_le, ih, List.forall_mem_cons]

theorem nestingFields_le_iff {fields : List (String × Json)} {n : Nat} :
    nestingFields fields ≤ n ↔ ∀ e ∈ fields, e.2.nesting ≤ n := by
  have hlt : nestingFields fields < n + 1 ↔ ∀ e ∈ fields, e.2.nesting < n + 1 :=
    nestingFields_lt_iff (Nat.succ_pos n)
  simpa only [Nat.lt_succ_iff] using hlt

/-- **The value** of a document is not nested deeper than the document. -/
theorem nesting_canonical_le (v : Json) : v.canonical.nesting ≤ v.nesting := by
  induction v using Json.induction with
  | null | bool | number | string => exact Nat.le_refl _
  | array items ih =>
    rw [canonical, canonicalItems_eq_map, nesting, nesting]
    refine Nat.succ_le_succ (nestingItems_le_iff.2 (List.forall_mem_map.2 fun v hv => ?_))
    exact Nat.le_trans (ih v hv) (nestingItems_le_iff.1 (Nat.le_refl _) v hv)
  | object fields ih =>
    rw [canonical, nesting, nesting]
    refine Nat.succ_le_succ (nestingFields_le_iff.2 fun e he => ?_)
    obtain ⟨f, hf, rfl⟩ := exists_of_mem_sortFields he
    exact Nat.le_trans (ih f hf) (nestingFields_le_iff.1 (Nat.le_refl _) f hf)

end Json

/-! ## Nodes -/

namespace Node

/-- A node is the value of a document exactly if it holds a value. -/
theorem isDocument_iff {n : Node} : n.IsDocument ↔ n.value.IsValue :=
  ⟨fun h => h.canonical ▸ Json.isValue_canonical h.writable, fun h => ⟨h.allNumbers, h.canonical_eq⟩⟩

/-- A node as a reader takes it. -/
theorem parse?_text_eq {n : Node} (h : n.IsDocument) :
    parse? n.text = if n.value.nesting ≤ Json.maxNesting then some n else none := by
  rw [parse?, text, Json.parse?_compact h.writable]
  split
  · rw [Option.map_some, ofJson, h.canonical]
  · rfl

/-- **Values of a model** are read back. A node holds a value, so it can be written, and what is written
is read as the same node, its numbers spelled as before, unless it is nested deeper than a reader takes.
A document that was read once was not nested too deep; so what is read from it is written and read
again with no loss. -/
theorem parse?_text :
    (∀ n : Node, n.value.IsValue → n.isWritable = true ∧
      parse? n.text = if n.value.nesting ≤ Json.maxNesting then some n else none) ∧
    ∀ document n, parse? document = some n → n.value.IsValue ∧ n.isWritable = true ∧
      parse? n.text = some n := by
  refine ⟨fun n hn => ⟨hn.allNumbers, parse?_text_eq (isDocument_iff.2 hn)⟩, fun document n h => ?_⟩
  obtain ⟨v, hv, rfl⟩ := Option.map_eq_some_iff.1 h
  obtain ⟨hnesting, hnumbers⟩ := Json.of_parse? hv
  have hdocument := isDocument_ofJson hnumbers
  have hfits : (ofJson v).value.nesting ≤ Json.maxNesting :=
    Nat.le_trans (Json.nesting_canonical_le v) hnesting
  exact ⟨isDocument_iff.1 hdocument, hdocument.writable,
    (parse?_text_eq hdocument).trans (if_pos hfits)⟩

/-- Characters that are written by number, and numbers in spellings of their own; then a document that
repeats a field and has its fields in another order. -/
theorem parse?_text_spellings :
    (∃ n : Node, n.value = .object [("<k>", .array [.number "1.50", .number "-0E+007", .null]),
        ("ü", .string "\"\u2028\x01😀")] ∧ parse? n.text = some n) ∧
    ∃ n, parse? "\x7b\"b\": 1, \"a\": [\"\\ud83d\\ude00\"], \"b\": 1e400\x7d" = some n ∧
      n.text = "\x7b\"a\":[\"😀\"],\"b\":1e400\x7d" ∧ parse? n.text = some n := by
  refine ⟨⟨⟨_⟩, rfl, ?_⟩, ?_⟩
  · refine (parse?_text.1 _ (.object (by decide) fun e he => ?_)).2.trans (if_pos (by decide))
    simp only [List.mem_cons, List.not_mem_nil, or_false] at he
    rcases he with rfl | rfl
    · refine .array fun v hv => ?_
      simp only [List.mem_cons, List.not_mem_nil, or_false] at hv
      rcases hv with rfl | rfl | rfl
      · exact .number (by decide +kernel)
      · exact .number (by decide +kernel)
      · exact .null
    · exact .string _
  · have hread : Json.parse? "\x7b\"b\": 1, \"a\": [\"\\ud83d\\ude00\"], \"b\": 1e400\x7d" = some
        (.object [("b", .number "1"), ("a", .array [.string "😀"]), ("b", .number "1e400")]) :=
      Json.parse?_of_compact (by decide +kernel) (by decide +kernel)
    have hvalue : (Json.object [("b", .number "1"), ("a", .array [.string "😀"]),
        ("b", .number "1e400")]).canonical =
        .object [("a", .array [.string "😀"]), ("b", .number "1e400")] := by
      simp [Json.canonical, Json.canonicalFields, Json.canonicalItems, Json.sortFields,
        Text.firstBy, List.mergeSort]
    have hnode := congrArg (Option.map ofJson) hread
    refine ⟨_, hnode, ?_, (parse?_text.2 _ _ hnode).2.2⟩
    show (Json.canonical _).compact = _
    rw [hvalue]
    decide +kernel

/-- Arrays in each other. -/
def nestedArrays : Nat → Json
  | 0 => .array []
  | k + 1 => .array [nestedArrays k]

theorem isValue_nestedArrays (k : Nat) : (nestedArrays k).IsValue := by
  induction k with
  | zero => exact .array (by simp)
  | succ k ih => exact .array (by simpa using ih)

theorem nesting_nestedArrays (k : Nat) : (nestedArrays k).nesting = k + 1 := by
  induction k with
  | zero => rfl
  | succ k ih => simp [nestedArrays, Json.nesting, Json.nestingItems, ih]

/-- Not every node is read back: one that is nested too deep is refused. -/
theorem not_parse?_text_nested :
    parse? (Node.text ⟨nestedArrays 10000⟩) = none ∧
      ¬ ∀ n : Node, n.value.IsValue → parse? n.text = some n := by
  have hvalue := isValue_nestedArrays 10000
  have hnone : parse? (Node.text ⟨nestedArrays 10000⟩) = none :=
    (parse?_text_eq (isDocument_iff.2 hvalue)).trans (if_neg fun hle => by
      have hle : (nestedArrays 10000).nesting ≤ Json.maxNesting := hle
      rw [nesting_nestedArrays] at hle
      exact absurd hle (by decide))
  refine ⟨hnone, fun h => ?_⟩
  have hsome := h ⟨nestedArrays 10000⟩ hvalue
  rw [hnone] at hsome
  cases hsome

end Node
end Shapewright
