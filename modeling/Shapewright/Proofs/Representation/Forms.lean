import Shapewright.Binding.Declaration
import Shapewright.Proofs.Failure

/-!
# The forms of conversions

Several things hold of all code that binds a member: it can be run, it keeps to its scope, it mentions
types and packages that are there.  Each of them is shown form by form, and this file says which forms
there are.

* `Representation.of_zero`, `Representation.of_defaultValue` — the forms of values that stand in for
  one that is invalid or absent.
* `Representation.exists_formatConstant_eq`, `Binding.timeFormat_mem` — the formats of times.
* `Binding.of_fromParts` — the forms of conversions of a list that arrives as text.
* `Binding.TextForm`, `Binding.textForm_of_fromText` — the forms of conversions of text.
* `Binding.of_fromPayload` — the forms of conversions of a whole body.
* `Binding.of_bind` — how a member is taken from a request, and which of the conversions is used.
-/

set_option autoImplicit false

namespace Shapewright

open Code

/-! ## Values that stand in, and times -/

namespace Representation

/-- **The value beside an error** is a literal, an empty value of the type, or the number zero. -/
theorem of_zero (r : Representation) (required : Bool) :
    (∃ text, r.zero required = .lit text) ∨ r.zero required = .composite r.type [] ∨
      ∃ s, r = .bigDecimal s ∧ r.zero required = .ident "decimal.Zero" := by
  unfold zero
  split
  · exact .inl ⟨"nil", rfl⟩
  · cases r with
    | simple s builtin named =>
      simp only
      split <;> exact .inl ⟨_, rfl⟩
    | timestamp | structure_ => exact .inr (.inl rfl)
    | bigDecimal s => exact .inr (.inr ⟨s, rfl, rfl⟩)
    | _ => exact .inl ⟨_, rfl⟩

/-- The constants for the formats of times. -/
def timeFormats : List String := ["DateTime", "HttpDate", "EpochSeconds"]

theorem exists_formatConstant_eq (format : String) :
    ∃ name ∈ timeFormats, formatConstant format = support name := by
  unfold formatConstant
  split
  · exact ⟨"HttpDate", by decide, rfl⟩
  · exact ⟨"EpochSeconds", by decide, rfl⟩
  · exact ⟨"DateTime", by decide, rfl⟩

/-- **A default** is a literal, one that is converted to the type, or a time. -/
theorem of_defaultValue {r : Representation} {n : Option Node} {x : Expr}
    (h : r.defaultValue n = .ok x) :
    ∃ text, x = .lit text ∨ x = .conv r.type (.lit text) ∨
      x = supportCall "MustParseTimestamp" [.lit text] := by
  unfold defaultValue at h
  simp only at h
  split at h
  -- The other five are the kinds that no default suits.
  case h_6 =>
    obtain ⟨text, -, h⟩ := Outcome.exists_ok_of_bind h
    split at h
    · cases h
      exact ⟨"nil", .inl rfl⟩
    · refine ⟨text, ?_⟩
      split at h
      · split at h
        · cases h
        · cases h
          split
          · exact .inr (.inl rfl)
          · exact .inl rfl
      · split at h
        · cases h
        · split at h
          · cases h
          · cases h
            exact .inr (.inr rfl)
      · split at h
        · cases h
          exact .inr (.inl rfl)
        · cases h
      · split at h
        · cases h
          exact .inr (.inl rfl)
        · cases h
      · cases h
  all_goals cases h

end Representation

/-! ## Conversions of text -/

namespace Binding

theorem timeFormat_mem (r : Representation) (origin : Origin) :
    timeFormat r origin ∈ Representation.timeFormats := by
  rw [timeFormat]
  split
  case h_4 => split <;> decide
  all_goals decide

/-- Only what is declared with another name is converted to its type. -/
theorem declaredName_eq (r : Representation) : declaredName r = "" ∨ declaredName r = r.type := by
  rw [declaredName]
  split
  · split
    · exact .inl rfl
    · exact .inr rfl
  · exact .inl rfl

/-- The functions that split the text of a list. -/
def splitters : List String := ["SplitList", "SplitHttpDates"]

theorem splitter_mem (element : Representation) (origin : Origin) :
    splitter element origin ∈ splitters := by
  rw [splitter]
  split <;> decide

/-- **The parts of a list** are only split, or each is converted by a function. -/
theorem of_fromParts (s : Shape) (element : Representation) (origin : Origin) (c : Conversion)
    (field raw : Expr) :
    (∃ name ∈ "SplitSet" :: splitters,
      fromParts s element origin c field raw = { expr := supportCall name [raw] }) ∨
    ∃ name ∈ ["ConvertSet", "ConvertEach"], ∃ split ∈ splitters,
      fromParts s element origin c field raw = Representation.fallible name []
        [field, supportCall split [raw], partReader element c] "" := by
  have hsplit := splitter_mem element origin
  rw [fromParts]
  split
  · refine .inl ⟨_, ?_, rfl⟩
    split
    · exact List.mem_cons_self
    · exact List.mem_cons_of_mem _ hsplit
  · refine .inr ⟨_, ?_, _, hsplit, rfl⟩
    split <;> decide

variable {m : Member} {r : Representation} {origin origin' : Origin} {field raw : Expr}
  {c : Conversion}

/-- The functions that convert text, but for times. -/
def textReaders : List String :=
  ["ParseBool", "ParseInt", "ParseFloat", "ParseBigInt", "ParseDecimal", "ParseBlob"]

/-- The forms of conversions of text. -/
inductive TextForm (origin : Origin) : Representation → Expr → Expr → Conversion → Prop
  /-- A list is split. -/
  | parts {s : Shape} {element : Representation} {c : Conversion}
      (h : TextForm origin element (.ident "field") (.ident "s") c) (field raw : Expr) :
      TextForm origin (.list s element) field raw (fromParts s element origin c field raw)
  /-- Text is what it is, but for its type. -/
  | plain (r : Representation) (field raw : Expr) :
      TextForm origin r field raw { expr := raw, wrap := declaredName r }
  | call {r : Representation} {name wrap : String} {types : List String}
      (hname : name ∈ textReaders) (htypes : ∀ t ∈ types, t = r.type)
      (hwrap : wrap = "" ∨ wrap = r.type) (field raw : Expr) :
      TextForm origin r field raw (Representation.fallible name types [field, raw] wrap)
  | time (r : Representation) (field raw : Expr) :
      TextForm origin r field raw (Representation.fallible "ParseTimestamp" []
        [field, raw, support (timeFormat r origin)] "")
  /-- A constant is read by the function that is declared with its type. -/
  | constant (s : Shape) (field raw : Expr) :
      TextForm origin (.enum s) field raw
        { expr := .callOf ("Parse" ++ typeName s) [field, raw], fallible := true }

/-- **Text** is converted in one of these forms. -/
theorem textForm_of_fromText (h : fromText m origin r field raw = .ok c) :
    TextForm origin r field raw c := by
  induction r generalizing field raw c with
  | list s element ih =>
    rw [fromText] at h
    split at h
    · cases h
    · obtain ⟨c', hc', h⟩ := Outcome.exists_ok_of_bind h
      cases h
      exact .parts (ih hc') field raw
  | _ =>
    unfold fromText at h
    split at h
    -- Texts and booleans are converted to their type, times and constants by functions of their own.
    case h_1 =>
      cases h
      exact .plain _ field raw
    case h_2 =>
      cases h
      exact .call (by decide) (by simp) (declaredName_eq _) field raw
    case h_13 =>
      cases h
      exact .time _ field raw
    case h_14 =>
      split at h
      · rename_i parser hparser
        cases hparser
        all_goals
          cases h
          exact .constant _ field raw
      · cases h
    -- Kinds that have no form as text; what is left are numbers and blobs.
    case h_15 => cases h
    all_goals
      cases h
      exact .call (by decide) (by simp) (.inl rfl) field raw

/-! ## Whole bodies and requests -/

/-- **A whole body** is its bytes, a text, or a document. -/
theorem of_fromPayload (h : fromPayload m r field raw = .ok c) :
    c = { expr := raw } ∨
      (∃ wrap, (wrap = "" ∨ wrap = r.type) ∧ c = { expr := .conv "string" raw, wrap }) ∨
      c = r.fromRaw field raw := by
  unfold fromPayload at h
  split at h
  case h_1 =>
    cases h
    exact .inl rfl
  case h_2 =>
    cases h
    refine .inr (.inl ⟨_, ?_, rfl⟩)
    split
    · exact .inl rfl
    · exact .inr rfl
  -- Kinds that are no whole body; what is left are documents.
  case h_10 => cases h
  all_goals
    cases h
    exact .inr (.inr rfl)

/-- The variable that a raw value is taken from: the decoded body or the request. -/
def source : Origin → String
  | .body => "doc"
  | _ => "r"

/-- The functions that take a raw value from it. -/
def takers : List String :=
  ["PathParam", "GreedyPathParam", "QueryParam", "HeaderParam", "BodyBytes", "BodyValue",
   "BodyField"]

/-- **A member is taken from a request** by one call with literals, which can only fail if it takes
the whole body, and is converted from text, from the body or from a part of a document. -/
theorem of_bind {target : Shape} {uri : Option UriPattern} {e : Extraction}
    (h : bind m target r origin uri = .ok (origin', e, c)) :
    (∃ name ∈ takers, ∃ texts : List String,
      e.expr = supportCall name (.ident (source origin') :: texts.map .lit)) ∧
    e.fallible = (origin' == .payload) ∧
    (fromText m origin' r (.str m.name) (.ident "raw") = .ok c ∨
      fromPayload m r (.str m.name) (.ident "raw") = .ok c ∨
      c = r.fromRaw (.str m.name) (.ident "raw")) := by
  unfold bind at h
  simp only at h
  split at h
  · obtain ⟨e', he, h⟩ := Outcome.exists_ok_of_bind h
    obtain ⟨c', hc, h⟩ := Outcome.exists_ok_of_bind h
    cases h
    unfold pathExtraction at he
    split at he
    · cases he
    · rename_i i _
      cases he
      exact ⟨⟨_, by split <;> decide, [toString (i : Int)], rfl⟩, rfl, .inl hc⟩
  · obtain ⟨c', hc, h⟩ := Outcome.exists_ok_of_bind h
    cases h
    exact ⟨⟨"QueryParam", by decide, [_], rfl⟩, rfl, .inl hc⟩
  · obtain ⟨c', hc, h⟩ := Outcome.exists_ok_of_bind h
    cases h
    exact ⟨⟨"HeaderParam", by decide, [_], rfl⟩, rfl, .inl hc⟩
  · obtain ⟨c', hc, h⟩ := Outcome.exists_ok_of_bind h
    cases h
    refine ⟨?_, rfl, .inr (.inl hc)⟩
    unfold payloadExtraction
    dsimp only
    split
    · exact ⟨"BodyBytes", by decide, [], rfl⟩
    · exact ⟨"BodyValue", by decide, [Text.quote m.name], rfl⟩
  · cases h
    exact ⟨⟨"BodyField", by decide, [Text.quote m.name], rfl⟩, rfl, .inr (.inr rfl)⟩

end Binding
end Shapewright
