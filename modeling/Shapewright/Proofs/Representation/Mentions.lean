import Shapewright.Proofs.Code.Mentions
import Shapewright.Proofs.Naming
import Shapewright.Proofs.Representation.Forms

/-!
# What conversions mention

The code that converts the values of a shape mentions the type of the shape it ends at when lists and
maps are unpacked, and the functions that are declared with this type.  Everything else that it
mentions is predeclared or in the support package.

* `functionsOf` — the functions that are declared with a type.
* `Vocabulary.Has` — a type is there, and so are its functions.
* `Representation.Known` — the named types that a representation ends at are there.
* `Representation.within_fromRaw`, `within_toRaw`, `within_defaultValue` — conversions and defaults.
* `Binding.within_bind` — taking a member from a request.
-/

set_option autoImplicit false

namespace Shapewright

open Code

/-- The functions that are declared with a type. -/
def functionsOf (type : String) : List String :=
  [type ++ "FromJSON", "Parse" ++ type, "Find" ++ type, "New" ++ type]

/-- A type is there, and so are the functions that are declared with it. -/
structure Code.Vocabulary.Has (V : Vocabulary) (name : String) : Prop where
  type : TypeWithin V name
  calls : ∀ f ∈ functionsOf name, V.functions f

/-! ## Names of types -/

theorem isQualified_append (a b : String) :
    isQualified (a ++ b) = (isQualified a || isQualified b) := by
  rw [Bool.eq_iff_iff]
  simp [isQualified]

/-- The name of a shape's type is not that of another package. -/
@[simp] theorem isQualified_exported (name : String) :
    isQualified (Naming.exported name) = false := by
  rw [← Bool.not_eq_true]
  intro h
  rw [isQualified, List.contains_iff_mem] at h
  have hplain : Naming.isPlain '.' = true := Naming.isPlain_of_mem_exported h
  exact absurd hplain (by decide)

/-- The name of a shape's type has nothing around it. -/
@[simp] theorem baseType_exported (name : String) :
    baseType (Naming.exported name) = Naming.exported name := by
  refine baseType_of_name fun c hc => ?_
  have hstar : Naming.isPlain '*' = false := by decide
  have hbracket : Naming.isPlain ']' = false := by decide
  have hplain := Naming.isPlain_of_mem_exported hc
  by_contra haround
  rw [Bool.not_eq_false, isAround, Bool.or_eq_true, beq_iff_eq, beq_iff_eq] at haround
  rcases haround with rfl | rfl
  · exact Bool.noConfusion (hstar.symm.trans hplain)
  · exact Bool.noConfusion (hbracket.symm.trans hplain)

variable {V : Vocabulary} {s : Shape}

/-- A function of a shape's type may be called. -/
theorem Code.Vocabulary.Has.within_callOf (h : V.Has (typeName s)) {fn : String}
    (hfn : fn ∈ functionsOf (typeName s)) {args : List Expr} (hargs : ∀ x ∈ args, x.Within V) :
    (Expr.callOf fn args).Within V := by
  refine Code.within_callOf (fun _ => h.calls fn hfn) hargs ?_
  have hplain : isQualified fn = false := by
    have hname : isQualified (typeName s) = false := isQualified_exported _
    simp only [functionsOf, List.mem_cons, List.not_mem_nil, or_false] at hfn
    rcases hfn with rfl | rfl | rfl | rfl <;> rw [isQualified_append, hname] <;> decide
  rintro rfl
  cases hplain

/-! ## Representations -/

namespace Representation

/-- The named types that a representation ends at are there. -/
def Known (V : Vocabulary) : Representation → Prop
  | .simple s builtin named => builtin ∈ foreign ∧ (named = true → V.Has (typeName s))
  | .enum s | .intEnum s | .structure_ s => V.Has (typeName s)
  | .list _ element => element.Known V
  | .map _ value => value.Known V
  | _ => True

/-- The type of a representation is there. -/
theorem typeWithin {r : Representation} (h : r.Known V) : TypeWithin V r.type := by
  induction r with
  | simple s builtin named =>
    cases named with
    | false => exact typeWithin_foreign h.1
    | true => exact (h.2 rfl).type
  | enum | intEnum | structure_ => exact h.type
  | list s element ih => exact typeWithin_slice.2 (ih h)
  | map s value ih => exact typeWithin_map.2 (ih h)
  | timestamp => exact typeWithin_foreign (by decide : "time.Time" ∈ foreign)
  | blob => exact typeWithin_foreign (by decide : "[]byte" ∈ foreign)
  | bigInteger => exact typeWithin_foreign (by decide : "*big.Int" ∈ foreign)
  | bigDecimal => exact typeWithin_foreign (by decide : "decimal.Decimal" ∈ foreign)
  | document => exact typeWithin_foreign (by decide : "interface\x7b\x7d" ∈ foreign)

theorem typeWithin_declared {r : Representation} (h : r.Known V) (required : Bool) :
    TypeWithin V (r.declared required) := by
  rw [declared]
  split
  · exact typeWithin h
  · exact typeWithin_pointer.2 (typeWithin h)

theorem within_zero {r : Representation} (h : r.Known V) (required : Bool) :
    (r.zero required).Within V := by
  rcases r.of_zero required with ⟨text, hzero⟩ | hzero | ⟨s, rfl, hzero⟩ <;> rw [hzero]
  · exact within_lit text
  · exact within_composite.2 ⟨typeWithin h, by simp⟩
  · exact within_ident _

theorem within_formatConstant (format : String) : (formatConstant format).Within V := by
  obtain ⟨name, -, heq⟩ := exists_formatConstant_eq format
  exact heq ▸ within_ident _

theorem typeWithin_none : TypeWithin V "" := typeWithin_foreign (by decide)

/-- The type that a value is converted to after reading. -/
theorem typeWithin_wrapType {named : Bool} (h : named = true → V.Has (typeName s)) :
    TypeWithin V (wrapType s named) := by
  cases named with
  | false => exact typeWithin_none
  | true => exact (h rfl).type

theorem within_fallible {name : String} (hname : name ≠ "EnumFromJSON") {types : List String}
    {args : List Expr} {wrap : String} (htypes : ∀ t ∈ types, TypeWithin V t)
    (hargs : ∀ x ∈ args, x.Within V) (hwrap : TypeWithin V wrap) :
    (fallible name types args wrap).Within V :=
  ⟨(within_call_support hname).2 ⟨htypes, hargs⟩, hwrap⟩

/-- The function that converts the elements of a container from a document. -/
theorem within_elementReader {type : String} {zero : Expr} {c : Conversion}
    (htype : TypeWithin V type) (hzero : zero.Within V) (hc : c.Within V) :
    (elementReader type zero c).Within V := by
  refine within_func.2 ⟨?_, ?_, c.within_ret hc hzero⟩
  · simp [typeWithin_foreign (by decide : "string" ∈ foreign),
      typeWithin_foreign (by decide : "interface\x7b\x7d" ∈ foreign)]
  · simp [htype, typeWithin_foreign (by decide : "error" ∈ foreign)]

/-- **Reading** the value of a document mentions the types that the representation ends at. -/
theorem within_fromRaw {r : Representation} (h : r.Known V) {field raw : Expr}
    (hfield : field.Within V) (hraw : raw.Within V) : (r.fromRaw field raw).Within V := by
  have hargs : ∀ x ∈ [field, raw], x.Within V := by simp [hfield, hraw]
  induction r generalizing field raw with
  | simple s builtin named =>
    rw [fromRaw]
    split
    · exact within_fallible (by decide) (by simp) hargs (typeWithin_wrapType h.2)
    · exact within_fallible (by decide) (by simp) hargs (typeWithin_wrapType h.2)
    · exact within_fallible (by decide) (by simpa using typeWithin h) hargs typeWithin_none
  | timestamp s format =>
    exact within_fallible (by decide) (by simp) (by simp [hfield, hraw, within_formatConstant])
      typeWithin_none
  | blob | bigInteger | bigDecimal =>
    exact within_fallible (by decide) (by simp) hargs typeWithin_none
  | document s => exact ⟨hraw, typeWithin_none⟩
  | enum s =>
    refine ⟨within_call.2 ⟨?_, by simp, within_ident _, ?_⟩, typeWithin_none⟩
    · have hparse : V.functions ("Parse" ++ typeName s) := h.calls _ (by simp [functionsOf])
      intro m hm
      have hm : m ∈ [.function "runtime.EnumFromJSON", .function ("Parse" ++ typeName s)] := hm
      simp only [List.mem_cons, List.not_mem_nil, or_false] at hm
      rcases hm with rfl | rfl
      · exact nofun
      · exact fun _ => hparse
    · simp [hfield, hraw]
  | intEnum s =>
    exact within_fallible (by decide) (by simpa using h.type) hargs typeWithin_none
  | list s element ih | map s element ih =>
    refine within_fallible (by decide) (by simp) ?_ typeWithin_none
    have h : element.Known V := h
    have hreader := within_elementReader (typeWithin h) (within_zero h true)
      (ih h (within_ident "field") (within_ident "raw") (by simp))
    simp [hfield, hraw, hreader]
  | structure_ s =>
    exact ⟨h.within_callOf (by simp [functionsOf]) hargs, typeWithin_none⟩

/-- **Writing** a value mentions the types that the representation ends at. -/
theorem within_toRaw {r : Representation} (h : r.Known V) {value : Expr} (hvalue : value.Within V) :
    (r.toRaw value).Within V := by
  have helement {type : String} {x : Expr} (htype : TypeWithin V type) (hx : x.Within V) :
      (elementWriter type x).Within V := by
    refine within_func.2 ⟨by simpa using htype, ?_, by simpa using hx⟩
    simpa using typeWithin_foreign (by decide : "interface\x7b\x7d" ∈ foreign)
  induction r generalizing value with
  | simple s builtin named =>
    rw [toRaw]
    split
    · exact within_conv.2 ⟨typeWithin_foreign h.1, hvalue⟩
    · exact hvalue
  | timestamp s format =>
    exact (within_supportCall (by decide)).2 (by simp [hvalue, within_formatConstant])
  | blob | bigInteger | bigDecimal => exact (within_supportCall (by decide)).2 (by simpa using hvalue)
  | document s => exact hvalue
  | enum s => exact within_conv.2 ⟨typeWithin_foreign (by decide), hvalue⟩
  | intEnum s => exact within_conv.2 ⟨typeWithin_foreign (by decide), hvalue⟩
  | list s element ih | map s element ih =>
    refine (within_supportCall (by decide)).2 ?_
    have h : element.Known V := h
    have hwriter := helement (typeWithin h) (ih h (within_ident "e"))
    simp [hvalue, hwriter]
  | structure_ s => exact within_method.2 ⟨hvalue, by simp⟩

/-- A default mentions at most the type of its shape. -/
theorem within_defaultValue {r : Representation} (hr : r.Known V) {n : Option Node} {x : Expr}
    (h : r.defaultValue n = .ok x) : x.Within V := by
  obtain ⟨text, rfl | rfl | rfl⟩ := of_defaultValue h
  · exact within_lit text
  · exact within_conv.2 ⟨typeWithin hr, within_lit text⟩
  · exact (within_supportCall (by decide)).2 (by simp)

end Representation

/-! ## Taking members from requests -/

namespace Binding

variable {r : Representation} {m : Member} {origin origin' : Origin} {field raw : Expr}
  {c : Conversion}

theorem typeWithin_declaredName (h : r.Known V) : TypeWithin V (declaredName r) := by
  rcases declaredName_eq r with heq | heq <;> rw [heq]
  · exact Representation.typeWithin_none
  · exact Representation.typeWithin h

/-- Converting the parts of a list mentions what the conversion of a part does. -/
theorem within_fromParts {element : Representation} (h : element.Known V) (hc : c.Within V)
    (hfield : field.Within V) (hraw : raw.Within V) :
    (fromParts s element origin c field raw).Within V := by
  have hcall {name : String} (hname : name ∈ "SplitSet" :: splitters) :
      (supportCall name [raw]).Within V := by
    have hother : ∀ name ∈ "SplitSet" :: splitters, name ≠ "EnumFromJSON" := by decide
    exact (within_supportCall (hother name hname)).2 (by simpa using hraw)
  obtain ⟨name, hname, heq⟩ | ⟨name, hname, split, hsplit, heq⟩ :=
    of_fromParts s element origin c field raw <;> rw [heq]
  · exact ⟨hcall hname, Representation.typeWithin_none⟩
  · have hother : ∀ name ∈ ["ConvertSet", "ConvertEach"], name ≠ "EnumFromJSON" := by decide
    have hreader : (partReader element c).Within V := by
      refine within_func.2 ⟨?_, ?_, c.within_ret hc (Representation.within_zero h true)⟩
      · simp [typeWithin_foreign (by decide : "string" ∈ foreign)]
      · simp [Representation.typeWithin h, typeWithin_foreign (by decide : "error" ∈ foreign)]
    exact Representation.within_fallible (hother name hname) (by simp)
      (by simp [hfield, hcall (List.mem_cons_of_mem _ hsplit), hreader])
      Representation.typeWithin_none

/-- **Reading** text mentions the types that the representation ends at. -/
theorem within_fromText (h : r.Known V) (hc : fromText m origin r field raw = .ok c)
    (hfield : field.Within V) (hraw : raw.Within V) : c.Within V := by
  have hnone : TypeWithin V "" := Representation.typeWithin_none
  have hform := textForm_of_fromText hc
  clear hc
  induction hform with
  | parts _ field raw ih =>
    exact within_fromParts h (ih h (within_ident _) (within_ident _)) hfield hraw
  | plain r field raw => exact ⟨hraw, typeWithin_declaredName h⟩
  | call hname htypes hwrap field raw =>
    have hother : ∀ name ∈ textReaders, name ≠ "EnumFromJSON" := by decide
    refine Representation.within_fallible (hother _ hname)
      (fun t ht => htypes t ht ▸ Representation.typeWithin h) (by simp [hfield, hraw]) ?_
    rcases hwrap with rfl | rfl
    · exact hnone
    · exact Representation.typeWithin h
  | time r field raw =>
    exact Representation.within_fallible (by decide) (by simp) (by simp [hfield, hraw]) hnone
  | constant s field raw =>
    exact ⟨Code.Vocabulary.Has.within_callOf h (by simp [functionsOf]) (by simp [hfield, hraw]), hnone⟩

/-- Reading the whole body mentions the types that the representation ends at. -/
theorem within_fromPayload (h : r.Known V) (hc : fromPayload m r field raw = .ok c)
    (hfield : field.Within V) (hraw : raw.Within V) : c.Within V := by
  rcases of_fromPayload hc with rfl | ⟨wrap, rfl | rfl, rfl⟩ | rfl
  · exact ⟨hraw, Representation.typeWithin_none⟩
  · exact ⟨within_conv.2 ⟨typeWithin_foreign (by decide), hraw⟩, Representation.typeWithin_none⟩
  · exact ⟨within_conv.2 ⟨typeWithin_foreign (by decide), hraw⟩, Representation.typeWithin h⟩
  · exact Representation.within_fromRaw h hfield hraw

/-- **Taking a member from a request** mentions the types that its representation ends at. -/
theorem within_bind {target : Shape} {uri : Option UriPattern} {e : Extraction} (h : r.Known V)
    (hbind : bind m target r origin uri = .ok (origin', e, c)) :
    e.expr.Within V ∧ c.Within V := by
  have hfield : (Expr.str m.name).Within V := within_str _
  have hraw : (Expr.ident "raw").Within V := within_ident _
  have hother : ∀ name ∈ takers, name ≠ "EnumFromJSON" := by decide
  obtain ⟨⟨name, hname, texts, he⟩, -, hc⟩ := of_bind hbind
  refine ⟨he ▸ (within_supportCall (hother name hname)).2 (by simp), ?_⟩
  rcases hc with hc | hc | rfl
  · exact within_fromText h hc hfield hraw
  · exact within_fromPayload h hc hfield hraw
  · exact Representation.within_fromRaw h hfield hraw

end Binding
end Shapewright
