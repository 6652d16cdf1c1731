import Mathlib.Data.List.Induction
import Shapewright.Document.Basic
import Shapewright.Proofs.Failure
import Shapewright.Proofs.Json.Keys
import Shapewright.Proofs.OrderedMap

/-!
# Maps under edits

A map has a list of keys and a list of bindings, and every operation changes the two in its own way.
A document that is decoded replaces both: the keys are those of its fields, as often as they occur,
and of the values of a key the last one counts.  This file shows that the two lists never come apart,
whatever is done to a map in whatever order.

* `OrderedMap.decode?` — the map of a document, for values of any kind; the maps of traits and of
  shapes are read so.
* `OrderedMap.Edit`, `OrderedMap.edit` — one operation; `OrderedMap.edits` — a history.
* `OrderedMap.Coherent.edit`, `OrderedMap.nodup_keys_edit` — what an operation preserves.
* `OrderedMap.edits_agree` — the payoff, for every history.
-/

set_option autoImplicit false

namespace Shapewright

/-! ## Reading a map -/

namespace Document

variable {α : Type} {read : Json → Option α}

/-- Fields whose values are read keep their keys. -/
theorem lookup_of_forall₂ {fields : List (String × Json)} {pairs : List (String × α)}
    (h : List.Forall₂ (fun f p => (read f.2).map (fun a => (f.1, a)) = some p) fields pairs) :
    pairs.map (·.1) = fields.map (·.1) ∧
      ∀ k, pairs.lookup k = (fields.lookup k).bind read := by
  induction h with
  | nil => exact ⟨rfl, fun _ => rfl⟩
  | @cons f p fields pairs hp _ ih =>
    obtain ⟨a, ha, rfl⟩ := Option.map_eq_some_iff.1 hp
    obtain ⟨key, v⟩ := f
    refine ⟨congrArg (key :: ·) ih.1, fun k => ?_⟩
    rw [OrderedMap.lookup_cons_eq_ite, OrderedMap.lookup_cons_eq_ite, ih.2 k]
    split
    · exact ha.symm
    · rfl

/-- **A map that is read** lists the keys of an object in order, and binds each to what its last
value is read as. -/
theorem of_readMap? {v : Json} {m : OrderedMap α} (h : readMap? read v = some m) :
    m.Coherent ∧ ∃ fields, v = .object fields ∧ m.keys = fields.map (·.1) ∧
      ∀ k, m.get? k = (fields.reverse.lookup k).bind read := by
  rw [readMap?.eq_def] at h
  split at h
  · rename_i fields
    obtain ⟨pairs, hpairs, rfl⟩ := Option.map_eq_some_iff.1 h
    have hread := Outcome.forall₂_of_mapM_eq_some hpairs
    refine ⟨OrderedMap.coherent_ofFields pairs, fields, rfl, (lookup_of_forall₂ hread).1,
      fun k => ?_⟩
    rw [OrderedMap.get?_ofFields]
    exact (lookup_of_forall₂ (List.rel_reverse hread)).2 k
  · cases h

end Document

namespace OrderedMap

variable {α : Type} (read : Json → Option α)

/-- The map of a text that is a document with all numbers in range, if its values can be read. -/
def decode? (text : String) : Option (OrderedMap α) :=
  (Json.parse? text).bind fun v =>
    if v.allNumbers isInRange then Document.readMap? read v else none

/-- Maps of values are decoded so. -/
theorem decode?_ofField (text : String) :
    decode? (fun v => some (Node.ofField v)) text = parseTraits? text := by
  refine congrArg (Json.parse? text).bind (funext fun v => ?_)
  cases v with
  | object fields =>
    have hread : Document.readMap? (fun v => some (Node.ofField v)) (.object fields)
        = some (ofFields (fields.map fun f => (f.1, Node.ofField f.2))) :=
      congrArg (Option.map ofFields) List.mapM_pure
    rw [hread, Traits.ofJson?, boundedFields?]
    split <;> rfl
  | _ => simp [Traits.ofJson?, boundedFields?, Document.readMap?]

/-- So are the shapes of a document. -/
theorem decode?_readShape (text : String) :
    decode? (Document.readNullable? Document.readShape?) text
      = (Json.parse? text).bind Document.readShapes? := rfl

variable {read}

/-- **A document that is decoded**: the keys are those that a reader of keys alone finds, and the
last value of each counts. -/
theorem of_decode? {text : String} {m : OrderedMap α} (h : decode? read text = some m) :
    m.Coherent ∧ documentKeys? text = some m.keys ∧
      ∃ fields, Json.parse? text = some (.object fields) ∧ m.keys = fields.map (·.1) ∧
        ∀ k, m.get? k = (fields.reverse.lookup k).bind read := by
  obtain ⟨v, hparse, h⟩ := Option.bind_eq_some_iff.1 h
  split at h
  · rename_i hrange
    obtain ⟨hm, fields, rfl, hkeys, hget⟩ := Document.of_readMap? h
    refine ⟨hm, ?_, fields, hparse, hkeys, hget⟩
    rw [Json.documentKeys?_object (Json.startsWith_of_parse? hparse), if_pos hrange, hkeys]
  · cases h

/-! ## One edit -/

/-- Something that is done to a map. -/
inductive Edit (α : Type) where
  | put (key : String) (v : α)
  | delete (key : String)
  | decode (text : String)

variable (read) in
/-- A map after an edit. A text that is no map leaves it as it is. -/
def edit (m : OrderedMap α) : Edit α → OrderedMap α
  | .put key v => m.insert key v
  | .delete key => m.erase key
  | .decode text => (decode? read text).getD m

theorem edit_decode {m : OrderedMap α} {text : String} :
    (decode? read text = none → m.edit read (.decode text) = m) ∧
      ∀ doc, decode? read text = some doc → m.edit read (.decode text) = doc :=
  ⟨fun h => by rw [edit, h, Option.getD_none], fun doc h => by rw [edit, h, Option.getD_some]⟩

theorem Coherent.edit {m : OrderedMap α} (h : m.Coherent) (e : Edit α) :
    (m.edit read e).Coherent := by
  cases e with
  | put key v => exact h.insert key v
  | delete key => exact h.erase key
  | decode text =>
    cases hdoc : decode? read text with
    | none => rwa [edit_decode.1 hdoc]
    | some doc =>
      rw [edit_decode.2 doc hdoc]
      exact (of_decode? hdoc).1

theorem nodup_keys_edit {m : OrderedMap α} (h : m.Coherent) (hnd : m.keys.Nodup) {e : Edit α}
    (he : ∀ text doc, e = .decode text → decode? read text = some doc → doc.keys.Nodup) :
    (m.edit read e).keys.Nodup := by
  cases e with
  | put key v =>
    rw [edit, insert]
    split
    · exact hnd
    · rename_i hc
      exact List.nodup_append.2 ⟨hnd, by simp, fun k hk k' hk' heq => hc
        ((h key).1 (List.mem_singleton.1 hk' ▸ heq ▸ hk))⟩
  | delete key =>
    rw [edit, h.keys_erase]
    exact hnd.filter _
  | decode text =>
    cases hdoc : decode? read text with
    | none => rwa [edit_decode.1 hdoc]
    | some doc =>
      rw [edit_decode.2 doc hdoc]
      exact he text doc rfl hdoc

/-! ## A history -/

variable (read) in
/-- A map that was empty, after a history of edits. -/
def edits (steps : List (Edit α)) : OrderedMap α := steps.foldl (edit read) {}

theorem coherent_edits (steps : List (Edit α)) : (edits read steps).Coherent := by
  induction steps using List.reverseRecOn with
  | nil => exact coherent_empty
  | append_singleton steps e ih =>
    rw [edits, List.foldl_concat]
    exact ih.edit e

theorem nodup_keys_edits {steps : List (Edit α)}
    (h : ∀ text doc, .decode text ∈ steps → decode? read text = some doc → doc.keys.Nodup) :
    (edits read steps).keys.Nodup := by
  induction steps using List.reverseRecOn with
  | nil => exact List.nodup_nil
  | append_singleton steps e ih =>
    rw [edits, List.foldl_concat]
    refine nodup_keys_edit (coherent_edits steps) (ih fun text doc hmem => ?_) ?_
    · exact h text doc (by simp [hmem])
    · rintro text doc rfl
      exact h text doc (by simp)

variable (read) in
/-- **Keys and bindings agree** after every history of edits: the keys are those that are bound, and
the values stand in their order. From there, putting adds a new key behind the others and leaves a
bound one in its place; deleting takes a key away wherever it is listed; a document that is decoded
replaces everything, with its keys in order and the last value of each, and one that cannot be
decoded replaces nothing. A key is listed twice only if a document did so. -/
theorem edits_agree (steps : List (Edit α)) :
    let m := edits read steps
    (∀ key, key ∈ m.keys ↔ m.contains key = true) ∧
      m.values.map some = m.keys.map m.get? ∧
      (∀ key v, let m' := m.edit read (.put key v)
        m'.keys = (if m.contains key then m.keys else m.keys ++ [key]) ∧
        ∀ k, m'.get? k = if k = key then some v else m.get? k) ∧
      (∀ key, let m' := m.edit read (.delete key)
        m'.keys = m.keys.filter (· != key) ∧ ∀ k, m'.get? k = if k = key then none else m.get? k) ∧
      (∀ text, decode? read text = none → m.edit read (.decode text) = m) ∧
      (∀ text, decode? read text ≠ none → let m' := m.edit read (.decode text)
        documentKeys? text = some m'.keys ∧
        ∃ fields, Json.parse? text = some (.object fields) ∧ m'.keys = fields.map (·.1) ∧
          ∀ k, m'.get? k = (fields.reverse.lookup k).bind read) ∧
      ((∀ text doc, .decode text ∈ steps → decode? read text = some doc → doc.keys.Nodup) →
        m.keys.Nodup) := by
  intro m
  have hm : m.Coherent := coherent_edits steps
  refine ⟨hm, hm.map_some_values, fun key v => ⟨rfl, fun k => get?_insert m key v k⟩,
    fun key => ⟨hm.keys_erase key, fun k => get?_erase m key k⟩, fun text => edit_decode.1,
    fun text hdoc => ?_, nodup_keys_edits⟩
  obtain ⟨doc, hdoc⟩ := Option.ne_none_iff_exists'.1 hdoc
  rw [edit_decode.2 doc hdoc]
  exact (of_decode? hdoc).2

/-- A history with a document and with a text that is none. -/
def rebinding : List (Edit (Option Node)) :=
  [.decode "\x7b\"a\":true\x7d", .put "b" none, .delete "a", .decode "\x7b", .put "a" none]

theorem decode?_rebinding :
    decode? (fun v => some (Node.ofField v)) "\x7b\"a\":true\x7d"
        = some { keys := ["a"], bindings := [("a", some ⟨.bool true⟩)] } ∧
      decode? (fun v => some (Node.ofField v)) "\x7b" = none := by
  have hone : Json.parse? "\x7b\"a\":true\x7d" = some (.object [("a", .bool true)]) :=
    Json.parse?_compact (v := .object [("a", .bool true)]) rfl
  have hnone : Json.parse? "\x7b" = none := Option.isNone_iff_eq_none.1 (by decide +kernel)
  rw [decode?, hone, decode?, hnone]
  exact ⟨rfl, rfl⟩

/-- A key that was deleted is bound again behind the others, and listed once. -/
theorem edits_agree_rebinding :
    let m := edits (fun v => some (Node.ofField v)) rebinding
    m.keys = ["b", "a"] ∧ m.keys.Nodup ∧ m.contains "a" = true := by
  intro m
  obtain ⟨hdoc, hnone⟩ := decode?_rebinding
  have hkeys : m.keys = ["b", "a"] := by
    simp only [m, edits, rebinding, List.foldl_cons, edit, hdoc, hnone]
    decide
  obtain ⟨hmem, -, -, -, -, -, hnd⟩ := edits_agree (fun v => some (Node.ofField v)) rebinding
  refine ⟨hkeys, hnd fun text doc htext hread => ?_, (hmem "a").1 (hkeys ▸ by simp)⟩
  have htexts : text = "\x7b\"a\":true\x7d" ∨ text = "\x7b" := by simpa [rebinding] using htext
  rcases htexts with rfl | rfl
  · cases hdoc.symm.trans hread
    decide
  · cases hnone.symm.trans hread

end OrderedMap
end Shapewright
