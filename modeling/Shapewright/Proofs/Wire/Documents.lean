import Mathlib.Data.List.Basic
import Shapewright.Proofs.Wire.Bytes
import Shapewright.Wire.Typed

/-!
# Values that are written to documents are read back

For the types that lose nothing in a document: truth values, integers with and without bounds, texts,
constants of an enumeration, bytes, and lists and maps of those, nested as they may be.

* `WireType.Holds` — the values of such a type.
* `WireType.toRaw` — the document that a value is written to.
* `Raw.json` — a document in the form that it is written in.
* `Raw.spelled` — what becomes of a document that is written as text and decoded again, its numbers
  kept as they are spelled.
* `WireType.fromRaw_toRaw` — reading gives the value back.

Times, floating point numbers and decimals are left out: they are rounded, or have more than one
spelling.
-/

set_option autoImplicit false

namespace Shapewright
namespace Wire

/-! ## Values of a type -/

/-- The values of a type. The keys of a map are in order, each once, so that a map has one list. -/
inductive WireType.Holds : WireType → Value → Prop
  | bool (b : Bool) : Holds .bool (.bool b)
  | int {bits : Nat} {n : Int} (hbits : 0 < bits) (h : fits bits n = true) :
    Holds (.int bits) (.int n)
  | bigInteger (n : Int) : Holds .bigInteger (.int n)
  | blob (bs : Bytes) : Holds .blob (.blob bs)
  | string (s : String) : Holds .string (.text (Bytes.encode s))
  | enum {constants : List String} {c : String} (h : c ∈ constants) :
    Holds (.enum constants) (.text (Bytes.encode c))
  | list {element : WireType} {items : List Value} (h : ∀ v ∈ items, Holds element v) :
    Holds (.list element) (.list items)
  | map {value : WireType} {fields : List (String × Value)}
    (hkeys : (fields.map (·.1)).Pairwise (· < ·)) (h : ∀ e ∈ fields, Holds value e.2) :
    Holds (.map value) (.map fields)

/-- How many lists and maps are nested in each other. -/
def WireType.nesting : WireType → Nat
  | .list element => element.nesting + 1
  | .map value => value.nesting + 1
  | _ => 0

/-- The document that a value of a type is written to. -/
def WireType.toRaw : WireType → Value → Raw
  | .bigInteger, .int n => bigIntegerToRaw (some n)
  | .blob, .blob bs => blobToRaw bs
  | .list element, .list items => listToRaw element.toRaw items
  | .map value, .map fields => mapToRaw value.toRaw fields
  | _, .bool b => .bool b
  | _, .int n => .number (.int n)
  | _, .text bs => .string bs
  | _, _ => .null

/-! ## Documents as text -/

namespace Raw

mutual

/-- A document in the form that it is written in. -/
def json : Raw → Json
  | .null => .null
  | .bool b => .bool b
  | .number n => .number n.plain
  | .string text => .string (Bytes.readable text)
  | .list items => .array (jsonItems items)
  | .object fields => .object (jsonFields fields)

/-- Items one by one. -/
def jsonItems : List Raw → List Json
  | [] => []
  | v :: rest => json v :: jsonItems rest

/-- Fields one by one. -/
def jsonFields : List (String × Raw) → List (String × Json)
  | [] => []
  | (k, v) :: rest => (k, json v) :: jsonFields rest

end

mutual

/-- A document with its numbers by their spelling. -/
def spelled : Raw → Raw
  | .number n => .number (.text n.plain)
  | .list items => .list (spelledItems items)
  | .object fields => .object (spelledFields fields)
  | raw => raw

/-- Items one by one. -/
def spelledItems : List Raw → List Raw
  | [] => []
  | v :: rest => spelled v :: spelledItems rest

/-- Fields one by one. -/
def spelledFields : List (String × Raw) → List (String × Raw)
  | [] => []
  | (k, v) :: rest => (k, spelled v) :: spelledFields rest

end

theorem spelledItems_eq_map (items : List Raw) : spelledItems items = items.map spelled := by
  induction items with
  | nil => rfl
  | cons v rest ih => rw [spelledItems, ih, List.map_cons]

theorem spelledFields_eq_map (fields : List (String × Raw)) :
    spelledFields fields = fields.map fun e => (e.1, spelled e.2) := by
  induction fields with
  | nil => rfl
  | cons e rest ih => rw [spelledFields, ih, List.map_cons]

end Raw

/-! ## Reading back -/

/-- A reader that succeeds on every item gives all the results. -/
theorem mapM_eq_ok {α β : Type} {f : α → Served β} {g : α → β} {xs : List α}
    (h : ∀ x ∈ xs, f x = .ok (g x)) : xs.mapM f = .ok (xs.map g) := by
  induction xs with
  | nil => rfl
  | cons x xs ih =>
    rw [List.mapM_cons, h x List.mem_cons_self,
      ih fun y hy => h y (List.mem_cons_of_mem x hy)]
    rfl

/-- **Integers** in their decimal spelling. -/
theorem intFromRaw_spelled {bits : Nat} {n : Int} (hbits : 0 < bits) (h : fits bits n = true)
    (field : String) : intFromRaw bits field (.number (.text (toString n))) = .ok n := by
  obtain ⟨hlow, hhigh⟩ := Bool.and_eq_true_iff.1 h
  have hread : Number.readWord bits (toString n) = .ok n :=
    Number.readWord_toString hbits (of_decide_eq_true hlow) (of_decide_eq_true hhigh)
  simp only [intFromRaw, Raw.numberText?, RawNumber.plain, hread]

/-- **Values that are written to a document** are read back from its text, whatever the field is
called. -/
theorem WireType.fromRaw_toRaw {t : WireType} {v : Value} (h : t.Holds v) (field : String) :
    t.fromRaw field (t.toRaw v).spelled = .ok v := by
  induction h generalizing field with
  | bool b => rfl
  | @int bits n hbits h =>
    show (intFromRaw bits field (.number (.text (toString n)))).map Value.int = .ok (.int n)
    rw [intFromRaw_spelled hbits h]
    rfl
  | bigInteger n =>
    show (parseBigInteger field (Bytes.encode (toString n))).map Value.int = .ok (.int n)
    rw [parseBigInteger_toString]
    rfl
  | blob bs =>
    show (parseBlob field (Bytes.encode (String.ofList (Base64.encode bs)))).map Value.blob =
      .ok (.blob bs)
    rw [parseBlob_encode]
    rfl
  | string s => rfl
  | @enum constants c h =>
    have hany : (constants.any fun k => Bytes.encode k == Bytes.encode c) = true :=
      List.any_eq_true.2 ⟨c, h, beq_self_eq_true _⟩
    show (parseEnum constants field (Bytes.encode c)).map Value.text = .ok (.text (Bytes.encode c))
    rw [parseEnum, if_pos hany]
    rfl
  | @list element items h ih =>
    have hraw : ((WireType.list element).toRaw (.list items)).spelled =
        .list (items.map fun v => (element.toRaw v).spelled) := by
      simp only [toRaw, listToRaw, Raw.spelled, Raw.spelledItems_eq_map, List.map_map,
        Function.comp_def]
    have hread : ((items.map fun v => (element.toRaw v).spelled).zipIdx.mapM fun e =>
        element.fromRaw (field ++ "[" ++ toString e.2 ++ "]") e.1) = .ok items := by
      rw [List.zipIdx_map, List.mapM_map]
      refine (mapM_eq_ok (g := Prod.fst) fun e he => ?_).trans ?_
      · exact ih e.1 (List.fst_mem_of_mem_zipIdx he) _
      · rw [List.zipIdx_map_fst]
    rw [hraw]
    exact congrArg (Except.map Value.list) hread
  | @map value fields hkeys h ih =>
    have hraw : ((WireType.map value).toRaw (.map fields)).spelled =
        .object (fields.map fun e => (e.1, (value.toRaw e.2).spelled)) := by
      simp only [toRaw, mapToRaw, Raw.spelled, Raw.spelledFields_eq_map, List.map_map,
        Function.comp_def]
    have hread : ((fields.map fun e => (e.1, (value.toRaw e.2).spelled)).mapM fun e => do
        return (e.1, ← value.fromRaw (field ++ "." ++ e.1) e.2)) = .ok fields := by
      rw [List.mapM_map]
      refine (mapM_eq_ok (g := id) fun e he => ?_).trans ?_
      · show (value.fromRaw (field ++ "." ++ e.1) (value.toRaw e.2).spelled >>= fun v =>
          pure (e.1, v)) = .ok e
        rw [ih e he]
        rfl
      · rw [List.map_id]
    rw [hraw]
    exact congrArg (Except.map Value.map) hread

end Wire
end Shapewright
