import Shapewright.Proofs.Code.Packages
import Shapewright.Proofs.Representation.Forms

/-!
# Packages that conversions name

The code that reads a value names the support package and the packages in the text of its type, and
no others: what is inside of a list or a map has its type in the text of the type around it, and the
functions that are declared with a type are in the package of the generated code.

* `Representation.usesOnly_zero`, `usesOnly_fromRaw`, `usesOnly_defaultValue` — conversions and the
  values that stand in for an absent one.
* `Binding.usesOnly_fromText`, `Binding.usesOnly_bind` — taking a member from a request.
-/

set_option autoImplicit false

namespace Shapewright

open Code

variable {S : String → Prop}

/-! ## Names of types -/

theorem packagesOf_typeName (s : Shape) : packagesOf (typeName s) = [] :=
  packagesOf_of_plain fun _ hc => .inl (Naming.isPlain_of_mem_exported hc)

@[simp] theorem clear_typeName (s : Shape) : Clear S (typeName s) :=
  clear_of_eq_nil (packagesOf_typeName s)

/-- A function that is declared with a type names no package. -/
theorem clear_declared (before after : String) (s : Shape)
    (hbefore : before.toList.all Naming.isPlain = true)
    (hafter : after.toList.all Naming.isPlain = true) :
    Clear S (before ++ typeName s ++ after) := by
  refine clear_of_eq_nil (packagesOf_of_plain fun c hc => .inl ?_)
  rw [String.toList_append, String.toList_append, List.mem_append, List.mem_append] at hc
  rcases hc with (hc | hc) | hc
  · exact List.all_eq_true.1 hbefore c hc
  · exact Naming.isPlain_of_mem_exported hc
  · exact List.all_eq_true.1 hafter c hc

@[simp] theorem clear_parse (s : Shape) : Clear S ("Parse" ++ typeName s) := by
  simpa using clear_declared (S := S) "Parse" "" s (by decide) (by decide)

@[simp] theorem clear_fromJson (s : Shape) : Clear S (typeName s ++ "FromJSON") := by
  simpa using clear_declared (S := S) "" "FromJSON" s (by decide) (by decide)

/-! ## Representations -/

namespace Representation

variable {r : Representation}

theorem clear_wrapType (s : Shape) (named : Bool) : Clear S (wrapType s named) := by
  cases named <;> simp [wrapType, ownTexts]

/-- The value that is returned beside an error has the type, or none. -/
theorem usesOnly_zero (h : Clear S r.type) (required : Bool) : (r.zero required).UsesOnly S := by
  rcases r.of_zero required with ⟨text, hzero⟩ | hzero | ⟨s, rfl, hzero⟩ <;> rw [hzero]
  · exact usesOnly_lit text
  · exact usesOnly_empty.2 h
  · -- The number zero is a variable of the package that its type is from.
    have hsame : packagesOf "decimal.Zero" = packagesOf "decimal.Decimal" := by decide +kernel
    refine usesOnly_ident.2 fun p hp => h p ?_
    rwa [hsame] at hp

/-- A type that is declared for a value that may be absent names the same packages. -/
theorem packagesOf_declared (r : Representation) (required : Bool) :
    packagesOf (r.declared required) = packagesOf r.type := by
  rw [declared]
  split
  · rfl
  · exact packagesOf_pointer r.type

/-- The function that converts one element of a container. -/
theorem usesOnly_reader {params : List Param} {c : Conversion} (h : Clear S r.type)
    (hparams : ∀ p ∈ params, Clear S p.name ∧ Clear S p.type) (hc : c.UsesOnly S) :
    (Expr.func params [r.type, "error"] (c.ret (r.zero true))).UsesOnly S :=
  usesOnly_func.2 ⟨fun p hp => (hparams p hp).1, fun p hp => (hparams p hp).2,
    by simp [ownTexts, h], c.usesOnly_ret hc (usesOnly_zero h true)⟩

theorem isPlain_timeFormats : ∀ name ∈ timeFormats, name.toList.all Naming.isPlain = true := by
  decide

variable (hS : S supportAlias)
include hS

theorem usesOnly_fallible {name : String} (hname : name.toList.all Naming.isPlain = true)
    {types : List String} {args : List Expr} {wrap : String} (htypes : ∀ t ∈ types, Clear S t)
    (hargs : ∀ x ∈ args, x.UsesOnly S) (hwrap : Clear S wrap) :
    (fallible name types args wrap).UsesOnly S :=
  ⟨usesOnly_call.2 ⟨htypes, usesOnly_support hS hname, hargs⟩, hwrap⟩

/-- Reading a list or a map names the packages that reading an element does. -/
theorem usesOnly_container (h : Clear S r.type) {name : String}
    (hname : name.toList.all Naming.isPlain = true) {field raw : Expr} (hfield : field.UsesOnly S)
    (hraw : raw.UsesOnly S) (hc : (r.fromRaw (.ident "field") (.ident "raw")).UsesOnly S) :
    (fallible name [] [field, raw, elementReader r.type (r.zero true)
      (r.fromRaw (.ident "field") (.ident "raw"))] "").UsesOnly S := by
  have hreader : (elementReader r.type (r.zero true)
      (r.fromRaw (.ident "field") (.ident "raw"))).UsesOnly S :=
    usesOnly_reader h (by simp [ownTexts]) hc
  exact usesOnly_fallible hS hname (by simp) (by simp [hfield, hraw, hreader]) (by simp [ownTexts])

/-- **Reading** the value of a document names the packages in its type. -/
theorem usesOnly_fromRaw (h : Clear S r.type) {field raw : Expr} (hfield : field.UsesOnly S)
    (hraw : raw.UsesOnly S) : (r.fromRaw field raw).UsesOnly S := by
  have hnone : Clear S "" := by simp [ownTexts]
  have hlocals : (Expr.ident "field").UsesOnly S ∧ (Expr.ident "raw").UsesOnly S := by
    simp [ownTexts]
  have hargs {field raw : Expr} (hfield : field.UsesOnly S) (hraw : raw.UsesOnly S) :
      ∀ x ∈ [field, raw], x.UsesOnly S := by simp [hfield, hraw]
  induction r generalizing field raw with
  | simple s builtin named =>
    rw [fromRaw]
    split
    · exact usesOnly_fallible hS (by decide) (by simp) (hargs hfield hraw) (clear_wrapType s named)
    · exact usesOnly_fallible hS (by decide) (by simp) (hargs hfield hraw) (clear_wrapType s named)
    · exact usesOnly_fallible hS (by decide) (by simpa using h) (hargs hfield hraw) hnone
  | timestamp s format =>
    have hformat : (formatConstant format).UsesOnly S := by
      obtain ⟨name, hname, heq⟩ := exists_formatConstant_eq format
      exact heq ▸ usesOnly_support hS (isPlain_timeFormats name hname)
    exact usesOnly_fallible hS (by decide) (by simp) (by simp [hfield, hraw, hformat]) hnone
  | blob | bigInteger | bigDecimal =>
    exact usesOnly_fallible hS (by decide) (by simp) (hargs hfield hraw) hnone
  | document s => exact ⟨hraw, hnone⟩
  | enum s => exact usesOnly_fallible hS (by decide) (by simp) (by simp [hfield, hraw]) hnone
  | intEnum s => exact usesOnly_fallible hS (by decide) (by simp) (hargs hfield hraw) hnone
  | list s element ih =>
    exact usesOnly_container hS (clear_slice.1 h) (by decide) hfield hraw
      (ih (clear_slice.1 h) hlocals.1 hlocals.2)
  | map s value ih =>
    exact usesOnly_container hS (clear_map.1 h) (by decide) hfield hraw
      (ih (clear_map.1 h) hlocals.1 hlocals.2)
  | structure_ s => exact ⟨usesOnly_call.2 ⟨by simp, by simp, hargs hfield hraw⟩, hnone⟩

/-- A default names the packages in the type of its shape. -/
theorem usesOnly_defaultValue (h : Clear S r.type) {n : Option Node} {x : Expr}
    (hx : r.defaultValue n = .ok x) : x.UsesOnly S := by
  obtain ⟨text, rfl | rfl | rfl⟩ := of_defaultValue hx
  · exact usesOnly_lit text
  · exact usesOnly_conv.2 ⟨h, usesOnly_lit text⟩
  · exact usesOnly_supportCall hS (by decide) (by simp)

end Representation

/-! ## Taking members from requests -/

namespace Binding

variable {r : Representation} {m : Member} {origin origin' : Origin} {field raw : Expr}
  {c : Conversion}

theorem clear_declaredName (h : Clear S r.type) : Clear S (declaredName r) := by
  rcases declaredName_eq r with heq | heq <;> rw [heq]
  · simp [ownTexts]
  · exact h

variable (hS : S supportAlias)
include hS

/-- Converting the parts of a list names the packages that the conversion of a part does. -/
theorem usesOnly_fromParts {s : Shape} {element : Representation} (h : Clear S element.type)
    (hc : c.UsesOnly S) (hfield : field.UsesOnly S) (hraw : raw.UsesOnly S) :
    (fromParts s element origin c field raw).UsesOnly S := by
  have hnone : Clear S "" := by simp [ownTexts]
  have hcall {name : String} (hname : name ∈ "SplitSet" :: splitters) :
      (supportCall name [raw]).UsesOnly S := by
    have hplain : ∀ name ∈ "SplitSet" :: splitters, name.toList.all Naming.isPlain = true := by
      decide
    exact usesOnly_supportCall hS (hplain name hname) (by simpa using hraw)
  obtain ⟨name, hname, heq⟩ | ⟨name, hname, split, hsplit, heq⟩ :=
    of_fromParts s element origin c field raw <;> rw [heq]
  · exact ⟨hcall hname, hnone⟩
  · have hplain : ∀ name ∈ ["ConvertSet", "ConvertEach"],
        name.toList.all Naming.isPlain = true := by decide
    have hreader : (partReader element c).UsesOnly S :=
      Representation.usesOnly_reader h (by simp [ownTexts]) hc
    exact Representation.usesOnly_fallible hS (hplain name hname) (by simp)
      (by simp [hfield, hcall (List.mem_cons_of_mem _ hsplit), hreader]) hnone

/-- **Reading** text names the packages in the type. -/
theorem usesOnly_fromText (h : Clear S r.type) (hc : fromText m origin r field raw = .ok c)
    (hfield : field.UsesOnly S) (hraw : raw.UsesOnly S) : c.UsesOnly S := by
  have hnone : Clear S "" := by simp [ownTexts]
  have hform := textForm_of_fromText hc
  clear hc
  induction hform with
  | parts _ field raw ih =>
    exact usesOnly_fromParts hS (clear_slice.1 h)
      (ih (clear_slice.1 h) (by simp [ownTexts]) (by simp [ownTexts])) hfield hraw
  | plain r field raw => exact ⟨hraw, clear_declaredName h⟩
  | call hname htypes hwrap field raw =>
    have hplain : ∀ name ∈ textReaders, name.toList.all Naming.isPlain = true := by decide
    refine Representation.usesOnly_fallible hS (hplain _ hname) (fun t ht => htypes t ht ▸ h)
      (by simp [hfield, hraw]) ?_
    rcases hwrap with rfl | rfl
    · exact hnone
    · exact h
  | time r field raw =>
    have hformat : (support (timeFormat r origin)).UsesOnly S :=
      usesOnly_support hS (Representation.isPlain_timeFormats _ (timeFormat_mem r origin))
    exact Representation.usesOnly_fallible hS (by decide) (by simp) (by simp [hfield, hraw, hformat])
      hnone
  | constant s field raw => exact ⟨usesOnly_call.2 ⟨by simp, by simp, by simp [hfield, hraw]⟩, hnone⟩

/-- Reading the whole body names the packages in the type. -/
theorem usesOnly_fromPayload (h : Clear S r.type) (hc : fromPayload m r field raw = .ok c)
    (hfield : field.UsesOnly S) (hraw : raw.UsesOnly S) : c.UsesOnly S := by
  have hnone : Clear S "" := by simp [ownTexts]
  rcases of_fromPayload hc with rfl | ⟨wrap, hwrap, rfl⟩ | rfl
  · exact ⟨hraw, hnone⟩
  · refine ⟨usesOnly_conv.2 ⟨by simp [ownTexts], hraw⟩, ?_⟩
    rcases hwrap with rfl | rfl
    · exact hnone
    · exact h
  · exact Representation.usesOnly_fromRaw hS h hfield hraw

/-- **Taking a member from a request** names the support package, and converting it the packages in
the type too. -/
theorem usesOnly_bind {target : Shape} {uri : Option UriPattern} {e : Extraction}
    (h : Clear S r.type) (hbind : bind m target r origin uri = .ok (origin', e, c)) :
    e.expr.UsesOnly S ∧ c.UsesOnly S := by
  have hfield : (Expr.str m.name).UsesOnly S := usesOnly_str _
  have hraw : (Expr.ident "raw").UsesOnly S := by simp [ownTexts]
  obtain ⟨⟨name, hname, texts, he⟩, -, hc⟩ := of_bind hbind
  refine ⟨?_, ?_⟩
  · have hplain : ∀ name ∈ takers, name.toList.all Naming.isPlain = true := by decide
    have hsource : (Expr.ident (source origin')).UsesOnly S := by
      cases origin' <;> simp [source, ownTexts]
    rw [he]
    exact usesOnly_supportCall hS (hplain name hname) (by simpa using hsource)
  · rcases hc with hc | hc | rfl
    · exact usesOnly_fromText hS h hc hfield hraw
    · exact usesOnly_fromPayload hS h hc hfield hraw
    · exact Representation.usesOnly_fromRaw hS h hfield hraw

end Binding
end Shapewright
