import Shapewright.Document.Basic
import Shapewright.Proofs.Json.Skimming

/-!
# Documents that are written are read

A model document is read field by field, and each field from the text that is cut out for it.  If the
document is written without white space, reading it comes to reading the values of its fields one after
the other.

* `Document.readValue?` — what the value of a field says.
* `Document.readBody?_fieldText` — one field; `Document.readBody?_fieldsText` — any number of them, by
  induction.
* `Document.parse_compact` — the payoff: the document that a text is, or why it is none.
-/

set_option autoImplicit false

namespace Shapewright
namespace Document

/-- The name of a field. -/
def DocumentField.key : DocumentField → String
  | .metadata => "metadata"
  | .shapes => "shapes"
  | .version => "smithy"

/-- A name that is spelled as it is names its field. -/
theorem keyField?_key (f : DocumentField) (rest : List Char) :
    keyField? 0 0 fieldKeys (f.key.toList.flatMap (Json.escape true) ++ '"' :: rest) =
      some (some f, rest) := by
  cases f <;> rfl

/-- Reads the value of a field. -/
def readValue? (d : Document) : DocumentField → Json → Option Document
  | .version, .null => some d
  | .version, .string version => some { d with version }
  | .version, _ => none
  | .metadata, v =>
    if v.nesting ≤ Json.maxNesting then some { d with metadata := Node.ofField v } else none
  | .shapes, v =>
    if v.nesting ≤ Json.maxNesting then
      (readNullable? readShapes? v).map fun shapes => { d with shapes }
    else none

/-- One value: what is read from its text is what it says. -/
theorem readField?_compact (d : Document) (f : DocumentField) {v : Json}
    (h : v.allNumbers Json.isNumber = true) {rest : List Char} (hrest : Json.Stops rest) :
    readField? d (some f) (v.compact.toList ++ rest) =
      (readValue? d f v).map fun d => (d, rest) := by
  have hskim := Json.skim?_compact h hrest
  cases f with
  | metadata =>
    have hfirst := Json.first?_compact h Json.stops_nil
    rw [List.append_nil] at hfirst
    simp only [readField?, hskim, readValue?]
    by_cases hnesting : v.nesting ≤ Json.maxNesting <;> simp [hfirst, hnesting]
  | shapes =>
    have hparse := Json.parse?_compact h
    simp only [readField?, hskim, readValue?, Option.bind_eq_bind, Option.bind_some,
      String.ofList_toList]
    by_cases hnesting : v.nesting ≤ Json.maxNesting
    · rw [if_pos hnesting] at hparse ⊢
      rw [hparse]
      show (readNullable? readShapes? v).bind _ = _
      cases readNullable? readShapes? v <;> rfl
    · rw [if_neg hnesting] at hparse ⊢
      rw [hparse]
      rfl
  | version =>
    cases v with
    | null => rfl
    | bool b => cases b <;> rfl
    | string s =>
      rw [Json.compact, Json.toList_quoted, List.cons_append, List.append_assoc,
        List.singleton_append, readField?, Json.skipSpace_cons (by decide)]
      show (Json.openString? _).map _ = _
      rw [Json.openString?_escape]
      rfl
    | number text =>
      obtain ⟨c, tail, htext, hc⟩ := Json.head_of_isNumber (by simpa [Json.allNumbers] using h)
      rw [Json.compact, htext, List.cons_append, readField?,
        Json.skipSpace_cons (Json.isSpace_of_isNumeral hc)]
      split
      · rename_i heq
        rw [(List.cons.inj heq).1] at hc
        exact absurd hc (by decide)
      · rename_i heq
        rw [(List.cons.inj heq).1] at hc
        exact absurd hc (by decide)
      · rfl
    | array items =>
      rw [Json.toList_compact_array]
      rfl
    | object fields =>
      rw [Json.toList_compact_object]
      rfl

/-- A field as it is written. -/
def fieldText (f : DocumentField × Json) : List Char :=
  '"' :: (f.1.key.toList.flatMap (Json.escape true) ++ '"' :: ':' :: f.2.compact.toList)

/-- A field, and the fields behind it if there is a comma. -/
theorem readBody?_fieldText (d : Document) {f : DocumentField × Json}
    (h : f.2.allNumbers Json.isNumber = true) (rest : List Char) (hrest : Json.Stops rest)
    (fuel : Nat) : readBody? (fuel + 1) d (fieldText f ++ rest) =
      (readValue? d f.1 f.2).bind fun d => match Json.skipSpace rest with
        | '\x7d' :: rest => some (d, rest)
        | ',' :: rest => readBody? fuel d rest
        | _ => none := by
  have hcolon : Json.isSpace ':' = false := by decide
  simp only [fieldText, List.cons_append, List.append_assoc]
  rw [readBody?, Json.skipSpace_cons (by decide)]
  simp only [keyField?_key, Option.bind_eq_bind, Option.bind_some, Json.skipSpace_cons hcolon,
    readField?_compact d f.1 h hrest, Option.bind_map, Function.comp_def]
  rfl

/-- Fields as they are written. -/
def fieldsText (fields : List (DocumentField × Json)) : List Char :=
  [','].intercalate (fields.map fieldText)

theorem length_le_fieldsText (fields : List (DocumentField × Json)) :
    fields.length ≤ (fieldsText fields).length := by
  induction fields with
  | nil => exact Nat.zero_le _
  | cons f fields ih =>
    cases fields with
    | nil => simp [fieldsText, fieldText]
    | cons f' fields =>
      have hlength : (fieldsText (f :: f' :: fields)).length =
          (fieldText f).length + 1 + (fieldsText (f' :: fields)).length := by
        simp [fieldsText, List.intercalate_cons_cons]
        omega
      rw [hlength, List.length_cons]
      omega

/-- Reads fields one after the other. -/
def readValues? (d : Document) (fields : List (DocumentField × Json)) : Option Document :=
  fields.foldlM (fun d f => readValue? d f.1 f.2) d

/-- **The fields** of a document are read up to the bracket behind them. -/
theorem readBody?_fieldsText {fields : List (DocumentField × Json)} (hne : fields ≠ [])
    (h : ∀ f ∈ fields, f.2.allNumbers Json.isNumber = true) (d : Document) (rest : List Char)
    {fuel : Nat} (hfuel : fields.length ≤ fuel) :
    readBody? fuel d (fieldsText fields ++ '\x7d' :: rest) =
      (readValues? d fields).map fun d => (d, rest) := by
  induction fields generalizing d fuel with
  | nil => exact absurd rfl hne
  | cons f fields ih =>
    obtain ⟨hf, h⟩ := List.forall_mem_cons.1 h
    obtain ⟨fuel, rfl⟩ := Nat.exists_eq_add_of_le' (Nat.le_trans (by simp) hfuel : 1 ≤ fuel)
    rw [readValues?, List.foldlM_cons, Option.bind_eq_bind, Option.map_bind]
    cases fields with
    | nil =>
      have hone := readBody?_fieldText d hf ('\x7d' :: rest) (Json.stops_cons (by decide) _) fuel
      rw [Json.skipSpace_cons (by decide)] at hone
      rw [fieldsText, List.map_singleton, List.intercalate_singleton, hone]
      exact congrArg _ (funext fun d => rfl)
    | cons f' fields =>
      have hone := readBody?_fieldText d hf (',' :: (fieldsText (f' :: fields) ++ '\x7d' :: rest))
        (Json.stops_cons (by decide) _) fuel
      rw [Json.skipSpace_cons (by decide)] at hone
      have hfuel : (f' :: fields).length ≤ fuel := Nat.le_of_succ_le_succ hfuel
      have hmore (d : Document) := ih (by simp) h d hfuel
      have htext : fieldsText (f :: f' :: fields) ++ '\x7d' :: rest =
          fieldText f ++ ',' :: (fieldsText (f' :: fields) ++ '\x7d' :: rest) := by
        simp [fieldsText, List.intercalate_cons_cons]
      rw [htext, hone]
      exact congrArg _ (funext hmore)

/-- **A document** that is written without white space says what its fields say, one after the other. -/
theorem parse_compact {fields : List (DocumentField × Json)}
    (h : ∀ f ∈ fields, f.2.allNumbers Json.isNumber = true) :
    parse (Json.object (fields.map fun f => (f.1.key, f.2))).compact =
      match readValues? {} fields with
      | none => .error .malformedDocument
      | some d => if d.version == "" then .error .missingVersion else .ok d := by
  have htext : (Json.object (fields.map fun f => (f.1.key, f.2))).compact.toList =
      '\x7b' :: (fieldsText fields ++ ['\x7d']) := by
    rw [Json.toList_compact_object, Json.fieldsText, List.map_map]
    rfl
  have hpassed : Json.Passed ('\x7b' :: (fieldsText fields ++ ['\x7d'])) := by
    rw [← htext]
    refine Json.passed_compact ?_
    rw [Json.allNumbers, Json.allNumbersFields_iff]
    exact List.forall_mem_map.2 h
  have hall : ∀ c ∈ '\x7b' :: (fieldsText fields ++ ['\x7d']), (c != '\x00') = true := fun c hc => by
    refine bne_iff_ne.2 fun hnul => hpassed.nul_not_mem ?_
    rwa [← hnul]
  have hfirst : first? ('\x7b' :: (fieldsText fields ++ ['\x7d'])) =
      (readValues? {} fields).map fun d => (some d, []) := by
    rw [first?, Json.skipSpace_cons (by decide)]
    cases fields with
    | nil => rfl
    | cons f fields =>
      obtain ⟨tail, htail⟩ : ∃ tail, fieldsText (f :: fields) = '"' :: tail := by
        cases fields <;> exact ⟨_, rfl⟩
      have hfuel : (f :: fields).length ≤ (fieldsText (f :: fields) ++ ['\x7d']).length + 1 := by
        have hlength := length_le_fieldsText (f :: fields)
        rw [List.length_append]
        omega
      have hbody := readBody?_fieldsText (List.cons_ne_nil f fields) h {} [] hfuel
      rw [htail] at hbody ⊢
      show (readBody? (('"' :: tail ++ ['\x7d']).length + 1) {} ('"' :: tail ++ ['\x7d'])).map _ = _
      rw [hbody, Option.map_map]
      rfl
  rw [parse, htext, List.takeWhile_eq_self_iff.2 hall, hfirst]
  cases readValues? {} fields <;> rfl

/-- What some fields say can be read from a text. -/
theorem exists_parse (fields : List (DocumentField × Json)) {d : Document}
    (h : ∀ f ∈ fields, f.2.allNumbers Json.isNumber = true)
    (hread : readValues? {} fields = some d) (hversion : d.version ≠ "") :
    ∃ text, parse text = .ok d := by
  refine ⟨_, (parse_compact h).trans ?_⟩
  rw [hread]
  exact if_neg (by simpa using hversion)

end Document
end Shapewright
