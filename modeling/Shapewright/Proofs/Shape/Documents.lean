import Shapewright.Proofs.Json.RoundTrip
import Shapewright.Proofs.OrderedMap
import Shapewright.Shape.Printer

/-!
# Maps of values as documents

A map of values is written as an object whose names are quoted as names are everywhere else, by
`Text.quote`, and it is read by a reader of documents.  The two conventions agree on most characters
but not on all: a document has no `\a`, `\v`, `\x` or `\U`.

* `Text.isPortable` — the characters on which they agree; `Text.spelled_escape_or` — they do, and on no
  others.
* `Node.IsDocument` — the nodes that are values of documents.
* `Traits.parse?_document` — what a reader of documents makes of a map that is written.
* `Traits.parseTraits?_document` — the payoff: exactly which maps are read back, and as what.
-/

set_option autoImplicit false

namespace Shapewright

open Json (Spelled pieces? string?)

namespace Text

/-! ## Names -/

/-- Characters that stand for themselves between quotes, or are written there as in a document. -/
def isPortable (c : Char) : Bool :=
  isPrintable c || (Json.shortEscapes.lookup c).isSome ||
    (0x80 ≤ c.toNat && c.toNat < 0x10000)

/-- A backslash before a letter that means nothing in a document. -/
theorem pieces?_unknown {letter : Char} (hu : letter ≠ 'u')
    (h : Json.escapes.lookup letter = none) (rest : List Char) :
    pieces? ('\\' :: letter :: rest) = none := by
  rw [pieces?, h]
  · rfl
  · simp [hu]

/-- **A quoted character** is read back by a reader of documents, or stops it. -/
theorem spelled_escape_or (c : Char) :
    (isPortable c = true ∧ Spelled (escape c) c) ∨
      (isPortable c = false ∧ ∀ rest, pieces? (escape c ++ rest) = none) := by
  rw [escape]
  split
  · rename_i hmark
    refine .inl ?_
    rcases Bool.or_eq_true_iff.1 hmark with h | h <;> rw [eq_of_beq h] <;>
      exact ⟨by decide, Json.spelled_letter (by decide)⟩
  · rename_i hmark
    simp only [Bool.or_eq_true, beq_iff_eq, not_or] at hmark
    split
    · rename_i hprintable
      have hcontrol := isControl_of_isPrintable hprintable
      simp only [isControl, Bool.or_eq_false_iff, decide_eq_false_iff_not] at hcontrol
      exact .inl ⟨by rw [isPortable, hprintable]; rfl,
        Json.spelled_self hmark.1 hmark.2 (Nat.le_of_not_lt hcontrol.1)⟩
    · rename_i hprintable
      rw [Bool.not_eq_true] at hprintable
      split
      · rename_i letter hletter
        have hall : ∀ e ∈ controlLetters, (isPortable e.1 = true ∧ (e.2, e.1) ∈ Json.escapes) ∨
            (isPortable e.1 = false ∧ e.2 ≠ 'u' ∧ Json.escapes.lookup e.2 = none) := by decide
        obtain ⟨front, back, heq, -⟩ := List.lookup_eq_some_iff.1 hletter
        rcases hall (c, letter) (by simp [heq]) with ⟨h, hmem⟩ | ⟨h, hu, hnone⟩
        · exact .inl ⟨h, Json.spelled_letter hmem⟩
        · exact .inr ⟨h, pieces?_unknown hu hnone⟩
      · rename_i hletter
        have hshort : Json.shortEscapes.lookup c = none := by
          have hall : ∀ e ∈ Json.shortEscapes, (controlLetters.lookup e.1).isSome = true := by decide
          cases hlookup : Json.shortEscapes.lookup c with
          | none => rfl
          | some letter =>
            obtain ⟨front, back, heq, -⟩ := List.lookup_eq_some_iff.1 hlookup
            exact absurd (hall (c, letter) (by simp [heq])) (by simp [hletter])
        have hportable : isPortable c = (0x80 ≤ c.toNat && c.toNat < 0x10000) := by
          rw [isPortable, hprintable, hshort]
          rfl
        rw [hportable]
        split
        · rename_i hascii
          refine .inr ⟨by simp; omega, fun rest => ?_⟩
          exact pieces?_unknown (by decide) (by decide) (hexDigits 2 c.toNat ++ rest)
        · split
          · rename_i hascii hunit
            exact .inl ⟨by simp; omega, Json.spelled_number hunit⟩
          · refine .inr ⟨by simp; omega, fun rest => ?_⟩
            exact pieces?_unknown (by decide) (by decide) (hexDigits 8 c.toNat ++ rest)

/-- The names that are quoted as a document would. -/
def isPortableName (name : String) : Bool := name.toList.all isPortable

theorem isPortableName_iff {name : String} :
    isPortableName name = true ↔ ∀ c ∈ name.toList, isPortable c = true := by
  rw [isPortableName, List.all_eq_true]

/-- A quoted name, as a reader of documents takes it. -/
theorem string?_escape (name : String) (rest : List Char) :
    string? (name.toList.flatMap escape ++ '"' :: rest) =
      if isPortableName name then some (name, rest) else none := by
  split
  · rename_i h
    rw [Json.string?_flatMap fun c hc => ?_, String.ofList_toList]
    rcases spelled_escape_or c with ⟨-, hspelled⟩ | ⟨hc', -⟩
    · exact hspelled
    · rw [isPortableName_iff.1 h c hc] at hc'
      cases hc'
  · rename_i h
    have hnone : ∀ cs : List Char, cs.all isPortable = false →
        pieces? (cs.flatMap escape ++ '"' :: rest) = none := by
      intro cs hcs
      induction cs with
      | nil => cases hcs
      | cons c cs ih =>
        rw [List.flatMap_cons, List.append_assoc]
        rcases spelled_escape_or c with ⟨hc, p, -, hwritten⟩ | ⟨-, hwritten⟩
        · rw [List.all_cons, hc, Bool.true_and] at hcs
          rw [hwritten, ih hcs, Option.map_none]
        · exact hwritten _
    rw [string?, hnone _ (Bool.not_eq_true _ ▸ h), Option.map_none]

end Text

/-! ## Values -/

/-- A node that is the value of a document: its numbers are numbers, and the fields of its objects are
sorted, each once. -/
structure Node.IsDocument (n : Node) : Prop where
  writable : n.isWritable = true
  canonical : n.value.canonical = n.value

/-- The value of every document is such a node. -/
theorem Node.isDocument_ofJson {v : Json} (h : v.allNumbers Json.isNumber = true) :
    (Node.ofJson v).IsDocument :=
  ⟨Json.allNumbers_canonical v h, Json.canonical_canonical v⟩

theorem Json.nestingFields_lt_iff {fields : List (String × Json)} {n : Nat} (hn : 0 < n) :
    nestingFields fields < n ↔ ∀ e ∈ fields, e.2.nesting < n := by
  induction fields with
  | nil => simpa [nestingFields] using hn
  | cons e fields ih => rw [nestingFields, Nat.max_lt, ih, List.forall_mem_cons]

/-- A value that is written and read back. An absent one is written as a null, and a null is read as
an absent one. -/
theorem Node.ofField_nodeDocument {n : Option Node} (h : ∀ m, n = some m → m.IsDocument) :
    Node.ofField (nodeDocument n) = n.filter fun m => m.kind != .null := by
  cases n with
  | none => rfl
  | some m =>
    obtain ⟨v⟩ := m
    have hcanonical : v.canonical = v := (h _ rfl).canonical
    cases v <;> simp [nodeDocument, Node.ofField, Node.ofJson, Node.kind, Option.filter, hcanonical]

/-! ## Maps -/

namespace Traits

variable {m : Traits}

/-- The fields that a map is written as. -/
def fields (m : Traits) : List (String × Json) :=
  m.toList.map fun (id, v) => (id, nodeDocument v)

theorem map_toList_fields (m : Traits) : (m.toList.map fun (id, v) =>
    Text.quote id ++ ":" ++ (nodeDocument v).compact).map String.toList =
      m.fields.map fun (k, v) =>
        '"' :: (k.toList.flatMap Text.escape ++ '"' :: ':' :: v.compact.toList) := by
  rw [fields, List.map_map, List.map_map]
  exact List.map_congr_left fun e _ => by simp [Text.quote]

theorem toList_document (m : Traits) :
    m.document.toList = '\x7b' :: (Json.fieldsText Text.escape m.fields ++ ['\x7d']) := by
  rw [document, String.toList_append, String.toList_append, String.toList_intercalate,
    map_toList_fields]
  rfl

/-- What is written for the values, absent ones apart. -/
theorem forall_mem_values (hm : OrderedMap.Coherent m) {P : Json → Prop} (hnull : P .null) :
    (∀ e ∈ m.fields, P e.2) ↔ ∀ key n, OrderedMap.get? m key = some (some n) → P n.value := by
  rw [fields, List.forall_mem_map]
  constructor
  · intro h key n hget
    exact h (key, some n) ((hm.listsFunction key _).2 hget)
  · rintro h ⟨key, _ | n⟩ he
    · exact hnull
    · exact h key n ((hm.listsFunction key _).1 he)

theorem map_fst_fields (hm : OrderedMap.Coherent m) : m.fields.map (·.1) = m.keys := by
  rw [← hm.map_fst_toList, fields, List.map_map]
  rfl

/-- **A reader of documents** takes a map that is written if it takes the names, and if the values are
not nested too deep. -/
theorem parse?_document (hvalues : ∀ e ∈ m.fields, e.2.allNumbers Json.isNumber = true) :
    Json.parse? m.document =
      if (∀ e ∈ m.fields, Text.isPortableName e.1 = true) ∧
        (∀ e ∈ m.fields, e.2.nesting < Json.maxNesting)
      then some (.object m.fields) else none := by
  have hlength : 2 * (Json.fieldsText Text.escape m.fields).length + 1 <
      2 * m.document.toList.length + 1 := by
    rw [toList_document, List.length_cons, List.length_append]
    omega
  have hread := Json.value?_fieldsText (fun e _ => Text.string?_escape e.1)
    (fun e he => Json.readBack e.2 (hvalues e he)) [] hlength
  have hnesting : (Json.object m.fields).nesting ≤ Json.maxNesting ↔
      ∀ e ∈ m.fields, e.2.nesting < Json.maxNesting :=
    Json.nestingFields_lt_iff (by decide)
  rw [← toList_document] at hread
  rw [Json.parse?, Json.first?, hread]
  by_cases hnames : ∀ e ∈ m.fields, Text.isPortableName e.1 = true
  · rw [if_pos (List.all_eq_true.2 hnames)]
    by_cases hdeep : ∀ e ∈ m.fields, e.2.nesting < Json.maxNesting
    · rw [if_pos ⟨hnames, hdeep⟩]
      simp [hnesting.2 hdeep, Json.skipSpace]
    · rw [if_neg fun h => hdeep h.2]
      simp [mt hnesting.1 hdeep]
  · rw [if_neg fun h => hnames (List.all_eq_true.1 h), if_neg fun h => hnames h.1]
    rfl

theorem parseTraits?_eq (hvalues : ∀ e ∈ m.fields, e.2.allNumbers Json.isNumber = true) :
    parseTraits? m.document =
      if (∀ e ∈ m.fields, Text.isPortableName e.1 = true) ∧
        (∀ e ∈ m.fields, e.2.allNumbers isInRange = true ∧ e.2.nesting < Json.maxNesting)
      then some (OrderedMap.ofFields (m.fields.map fun (id, v) => (id, Node.ofField v))) else none := by
  have hrange : (Json.object m.fields).allNumbers isInRange = true ↔
      ∀ e ∈ m.fields, e.2.allNumbers isInRange = true := Json.allNumbersFields_iff
  rw [parseTraits?, parse?_document hvalues]
  split
  · rename_i hread
    by_cases hin : ∀ e ∈ m.fields, e.2.allNumbers isInRange = true
    · rw [if_pos ⟨hread.1, fun e he => ⟨hin e he, hread.2 e he⟩⟩]
      simp [ofJson?, boundedFields?, hrange.2 hin]
    · rw [if_neg fun h => hin fun e he => (h.2 e he).1]
      simp [ofJson?, boundedFields?, mt hrange.1 hin]
  · rename_i hread
    rw [if_neg fun h => hread ⟨h.1, fun e he => (h.2 e he).2⟩]
    rfl

/-- The values that are read for the fields of a map. -/
theorem get?_ofFields_fields (hm : OrderedMap.Coherent m) (key : String) :
    (OrderedMap.ofFields (m.fields.map fun (id, v) => (id, Node.ofField v))).get? key =
      (OrderedMap.get? m key).map fun n => Node.ofField (nodeDocument n) := by
  rw [fields, List.map_map]
  exact OrderedMap.get?_ofFields_of_lists
    (hm.listsFunction.map fun n => Node.ofField (nodeDocument n)) key

/-- **A map of values** is read back from the document that it is written as exactly if its names can be
written as in a document, its numbers are within the range of 64 bit floating point and its values are
not nested too deep. Then the names are the same, in the same order, and so are the values, except that
a node that is null becomes an absent one. -/
theorem parseTraits?_document (hm : OrderedMap.Coherent m)
    (hvalues : ∀ key n, OrderedMap.get? m key = some (some n) → n.IsDocument) :
    ((∃ m', parseTraits? m.document = some m') ↔
      (∀ key ∈ m.keys, ∀ c ∈ key.toList, Text.isPortable c = true) ∧
      ∀ key n, OrderedMap.get? m key = some (some n) →
        n.value.allNumbers isInRange = true ∧ n.value.nesting < Json.maxNesting) ∧
    ∀ m', parseTraits? m.document = some m' → m'.keys = m.keys ∧
      ∀ key, OrderedMap.get? m' key =
        (OrderedMap.get? m key).map (Option.filter fun n => n.kind != .null) := by
  have hnames : (∀ e ∈ m.fields, Text.isPortableName e.1 = true) ↔
      ∀ key ∈ m.keys, ∀ c ∈ key.toList, Text.isPortable c = true := by
    rw [← map_fst_fields hm, List.forall_mem_map]
    exact forall₂_congr fun e _ => Text.isPortableName_iff
  have hfit := forall_mem_values hm
    (P := fun v => v.allNumbers isInRange = true ∧ v.nesting < Json.maxNesting) ⟨rfl, by decide⟩
  have hnumbers := (forall_mem_values hm (P := fun v => v.allNumbers Json.isNumber = true) rfl).2
    fun key n hget => (hvalues key n hget).writable
  rw [parseTraits?_eq hnumbers, ← hnames, ← hfit]
  refine ⟨⟨fun ⟨m', h⟩ => ?_, fun h => ⟨_, if_pos h⟩⟩, fun m' h => ?_⟩
  · by_contra hno
    rw [if_neg hno] at h
    cases h
  · split at h
    · cases h
      refine ⟨?_, fun key => ?_⟩
      · rw [← map_fst_fields hm, OrderedMap.ofFields, List.map_map]
        rfl
      · rw [get?_ofFields_fields hm]
        refine Option.map_congr fun n hget => Node.ofField_nodeDocument fun k hk => ?_
        exact hvalues key k (by rw [hget, hk])
    · cases h

/-- A name with a quote and a line end, and three kinds of values. -/
theorem parseTraits?_document_sizes :
    let m : Traits := OrderedMap.ofFields
      [("b\"\n", some ⟨.number "1.50"⟩), ("a", none), ("ü", some ⟨.array [.string "\x07", .null]⟩)]
    ∃ m', parseTraits? m.document = some m' ∧ m'.keys = ["b\"\n", "a", "ü"] ∧
      OrderedMap.get? m' "ü" = some (some ⟨.array [.string "\x07", .null]⟩) := by
  intro m
  have hvalues : ∀ key n, OrderedMap.get? m key = some (some n) →
      n = ⟨.number "1.50"⟩ ∨ n = ⟨.array [.string "\x07", .null]⟩ := by
    intro key n hget
    have hmem := OrderedMap.mem_of_get?_ofFields hget
    simp only [List.mem_cons, Prod.mk.injEq, Option.some.injEq, List.not_mem_nil, or_false] at hmem
    rcases hmem with ⟨-, h⟩ | ⟨-, h⟩ | ⟨-, h⟩
    · exact .inl h
    · cases h
    · exact .inr h
  obtain ⟨hiff, hsame⟩ := parseTraits?_document (m := m) (OrderedMap.coherent_ofFields _)
    fun key n hget => by
      rcases hvalues key n hget with rfl | rfl <;> exact ⟨by decide +kernel, rfl⟩
  have hnames : m.keys.all Text.isPortableName = true := by decide +kernel
  obtain ⟨m', hm'⟩ := hiff.2
    ⟨fun key hkey => Text.isPortableName_iff.1 (List.all_eq_true.1 hnames key hkey),
      fun key n hget => by rcases hvalues key n hget with rfl | rfl <;> decide +kernel⟩
  obtain ⟨hkeys, hget⟩ := hsame m' hm'
  exact ⟨m', hm', hkeys, (hget "ü").trans rfl⟩

/-- Not every map is read back: a control character without a letter is not written as in a
document. -/
theorem not_parseTraits?_document_control :
    ¬ ∀ m : Traits, OrderedMap.Coherent m → m.keys.Nodup →
      (∀ key n, OrderedMap.get? m key = some (some n) → n.IsDocument) →
      ∃ m', parseTraits? m.document = some m' ∧ m'.keys = m.keys ∧
        ∀ key, OrderedMap.get? m' key = OrderedMap.get? m key := by
  intro h
  have hvalues : ∀ key n,
      OrderedMap.get? (OrderedMap.ofFields [("\x01", some (⟨.bool true⟩ : Node))]) key = some (some n) →
      n.IsDocument := by
    intro key n hget
    have hmem := OrderedMap.mem_of_get?_ofFields hget
    simp only [List.mem_singleton, Prod.mk.injEq, Option.some.injEq] at hmem
    rw [hmem.2]
    exact ⟨rfl, rfl⟩
  obtain ⟨m', hm', -⟩ := h _ (OrderedMap.coherent_ofFields _) (by decide) hvalues
  have hnone : (parseTraits? (document
      (OrderedMap.ofFields [("\x01", some (⟨.bool true⟩ : Node))]))).isNone = true := by
    decide +kernel
  rw [hm'] at hnone
  cases hnone

end Traits
end Shapewright
