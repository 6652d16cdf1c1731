import Shapewright.Proofs.Code.Scoping
import Shapewright.Proofs.Representation.Mentions

/-!
# Scopes in conversions

The code that reads a value introduces the variables of its function literals and blocks and refers
outside to the support package, the packages and names of the types that the representation ends at,
and the functions that are declared with these types.

* `Representation.Resolved` — what the types of a representation refer to is declared outside.
* `Representation.closedBy_fromRaw`, `closedBy_defaultValue` — conversions and defaults.
* `Binding.closedBy_bind` — taking a member from a request.
-/

set_option autoImplicit false

namespace Shapewright

open Code

/-! ## Names in types -/

/-- The names in a type that continues after a separator. -/
theorem typeNames_append (init : String) (c : Char) {start : String}
    (hstart : start.toList = init.toList ++ [c]) (hc : isTypePunct c = true) (type : String) :
    typeNames (start ++ type) = typeNames init ++ typeNames type := by
  rw [typeNames, String.toList_append, hstart, List.append_assoc, List.singleton_append,
    List.splitOnP_append_cons _ _ hc, List.map_append, List.filter_append]
  rfl

@[simp] theorem typeNames_pointer (type : String) : typeNames ("*" ++ type) = typeNames type :=
  typeNames_append "" '*' (by decide) (by decide) type

@[simp] theorem typeNames_slice (type : String) : typeNames ("[]" ++ type) = typeNames type :=
  typeNames_append "[" ']' (by decide) (by decide) type

@[simp] theorem typeNames_map (type : String) :
    typeNames ("map[string]" ++ type) = "string" :: typeNames type :=
  typeNames_append "map[string" ']' (by decide) (by decide) type

/-- A name of letters and digits begins with nothing else. -/
theorem rootOf_of_isPlain {name : String} (h : ∀ c ∈ name.toList, Naming.isPlain c = true) :
    rootOf name = name :=
  rootOf_eq_self (fun hc => absurd (h _ hc) (by decide)) fun hc => absurd (h _ hc) (by decide)

/-- Letters and digits that are put together begin with nothing else either. -/
theorem rootOf_append {a b : String} (ha : ∀ c ∈ a.toList, Naming.isPlain c = true)
    (hb : ∀ c ∈ b.toList, Naming.isPlain c = true) : rootOf (a ++ b) = a ++ b := by
  refine rootOf_of_isPlain fun c hc => ?_
  rw [String.toList_append] at hc
  exact (List.mem_append.1 hc).elim (ha c) (hb c)

/-- The function that reads a constant of an enumeration has a plain name. -/
theorem rootOf_parse (s : Shape) : rootOf ("Parse" ++ typeName s) = "Parse" ++ typeName s :=
  rootOf_append (List.all_eq_true.1 (by decide)) fun _ hc => Naming.isPlain_of_mem_exported hc

/-- The function that reads a structure has a plain name. -/
theorem rootOf_fromJson (s : Shape) :
    rootOf (typeName s ++ "FromJSON") = typeName s ++ "FromJSON" :=
  rootOf_append (fun _ hc => Naming.isPlain_of_mem_exported hc) (List.all_eq_true.1 (by decide))

/-- A type of a shape's own name refers to no other. -/
theorem eq_of_mem_typeNames_exported {name n : String} (h : n ∈ typeNames (Naming.exported name)) :
    n = Naming.exported name := by
  have hsplit : (Naming.exported name).toList.splitOnP isTypePunct =
      [(Naming.exported name).toList] :=
    List.splitOnP_eq_singleton fun c hc => isTypePunct_of_isPlain (Naming.isPlain_of_mem_exported hc)
  have hroot : rootOf (Naming.exported name) = Naming.exported name :=
    rootOf_of_isPlain fun c hc => Naming.isPlain_of_mem_exported hc
  rw [typeNames, hsplit] at h
  simpa [String.ofList_toList, hroot] using (List.mem_filter.1 h).1

variable {outer : String → Prop} {ns : List String}

/-- What is always declared outside of a function: the predeclared types and the support package. -/
structure Ambient (outer : String → Prop) : Prop where
  predeclared : ∀ name ∈ predeclared, outer name
  support : outer supportAlias

theorem typeOuter_of_mem {text : String} {names : List String} (h : ∀ name ∈ names, outer name)
    (htext : ∀ name ∈ typeNames text, name ∈ names) : TypeOuter outer text :=
  fun name hname => h name (htext name hname)

/-- The types that conversions use whatever they convert. -/
theorem Ambient.typeOuter (h : Ambient outer) {text : String}
    (htext : text ∈ ["", "string", "error", "bool", "float64", "int32", "[]byte", "interface\x7b\x7d"]) :
    TypeOuter outer text := by
  have hnames : ∀ t ∈ ["", "string", "error", "bool", "float64", "int32", "[]byte",
      "interface\x7b\x7d"], ∀ name ∈ typeNames t, name ∈ Code.predeclared := by decide +kernel
  exact typeOuter_of_mem h.predeclared (hnames text htext)

/-! ## Representations -/

namespace Representation

/-- What the types of a representation refer to is declared outside, and so are the functions that
read their values. -/
def Resolved (outer : String → Prop) : Representation → Prop
  | .simple s builtin named =>
    TypeOuter outer builtin ∧ (named = true → outer (typeName s))
  | .timestamp .. => outer "time"
  | .bigInteger _ => outer "big"
  | .bigDecimal _ => outer "decimal"
  | .blob _ | .document _ => True
  | .enum s => outer (typeName s) ∧ outer ("Parse" ++ typeName s)
  | .intEnum s => outer (typeName s)
  | .structure_ s => outer (typeName s) ∧ outer (typeName s ++ "FromJSON")
  | .list _ element => element.Resolved outer
  | .map _ value => value.Resolved outer

theorem typeOuter_typeName {s : Shape} (h : outer (typeName s)) : TypeOuter outer (typeName s) :=
  fun name hname => (show name = typeName s from eq_of_mem_typeNames_exported hname) ▸ h

theorem typeOuter (ha : Ambient outer) {r : Representation} (h : r.Resolved outer) :
    TypeOuter outer r.type := by
  have hone (text : String) {name : String} (hname : outer name)
      (htext : ∀ n ∈ typeNames text, n ∈ [name]) : TypeOuter outer text :=
    typeOuter_of_mem (by simpa using hname) htext
  induction r with
  | simple s builtin named =>
    cases named with
    | false => exact h.1
    | true => exact typeOuter_typeName (h.2 rfl)
  | timestamp => exact hone "time.Time" h (by decide +kernel)
  | bigInteger => exact hone "*big.Int" h (by decide +kernel)
  | bigDecimal => exact hone "decimal.Decimal" h (by decide +kernel)
  | blob => exact ha.typeOuter (by decide : "[]byte" ∈ _)
  | document => exact ha.typeOuter (by decide : "interface\x7b\x7d" ∈ _)
  | enum | structure_ => exact typeOuter_typeName h.1
  | intEnum => exact typeOuter_typeName h
  | list s element ih =>
    intro name hname
    rw [type, typeNames_slice] at hname
    exact ih h name hname
  | map s value ih =>
    intro name hname
    rw [type, typeNames_map] at hname
    rcases List.mem_cons.1 hname with rfl | hname
    · exact ha.predeclared _ (by decide)
    · exact ih h name hname

theorem typeOuter_declared (ha : Ambient outer) {r : Representation} (h : r.Resolved outer)
    (required : Bool) : TypeOuter outer (r.declared required) := by
  rw [declared]
  split
  · exact typeOuter ha h
  · intro name hname
    rw [typeNames_pointer] at hname
    exact typeOuter ha h name hname

theorem closedBy_zero (ha : Ambient outer) {r : Representation} (h : r.Resolved outer)
    (required : Bool) : (r.zero required).ClosedBy outer ns := by
  rcases r.of_zero required with ⟨text, hzero⟩ | hzero | ⟨s, rfl, hzero⟩ <;> rw [hzero]
  · exact closedBy_lit text
  · exact closedBy_empty (typeOuter ha h)
  · have hroot : rootOf "decimal.Zero" = "decimal" := by decide
    exact closedBy_outer (hroot ▸ h)

theorem closedBy_fallible (ha : Ambient outer) {name : String} {types : List String}
    {args : List Expr} {wrap : String} (htypes : ∀ t ∈ types, TypeOuter outer t)
    (hargs : ∀ x ∈ args, x.ClosedBy outer ns) (hwrap : TypeOuter outer wrap) :
    (fallible name types args wrap).ClosedBy outer ns :=
  ⟨closedBy_call (closedBy_support ha.support name) htypes hargs, hwrap⟩

theorem typeOuter_wrapType (ha : Ambient outer) {s : Shape} {named : Bool}
    (h : named = true → outer (typeName s)) : TypeOuter outer (wrapType s named) := by
  cases named with
  | false => exact ha.typeOuter (by decide : "" ∈ _)
  | true => exact typeOuter_typeName (h rfl)

theorem closedBy_formatConstant (ha : Ambient outer) (format : String) :
    (formatConstant format).ClosedBy outer ns := by
  obtain ⟨name, -, heq⟩ := exists_formatConstant_eq format
  exact heq ▸ closedBy_support ha.support name

/-- A function literal that returns a converted value binds what the conversion reads. -/
theorem closedBy_reader (ha : Ambient outer) {type source : String} {raw : String} {zero : Expr}
    {c : Conversion} (htype : TypeOuter outer type) (hsource : TypeOuter outer source)
    (hzero : zero.ClosedBy outer []) (hc : c.ClosedBy outer ["field", raw]) (hraw : raw ≠ "v") :
    (Expr.func [⟨"field", "string"⟩, ⟨raw, source⟩] [type, "error"] (c.ret zero)).ClosedBy outer
      ns := by
  have hstring : TypeOuter outer "string" := ha.typeOuter (by decide)
  have herror : TypeOuter outer "error" := ha.typeOuter (by decide)
  refine closedBy_func (by simp [hstring, herror, htype, hsource]) fun Γ => ?_
  exact Conversion.scoped_ret hc (by simp) hzero (by simpa using hraw.symm)

/-- **Reading** the value of a document refers to what the representation ends at. -/
theorem closedBy_fromRaw (ha : Ambient outer) {r : Representation} (h : r.Resolved outer)
    {field raw : Expr} (hfield : field.ClosedBy outer ns) (hraw : raw.ClosedBy outer ns) :
    (r.fromRaw field raw).ClosedBy outer ns := by
  have hargs : ∀ x ∈ [field, raw], x.ClosedBy outer ns := by simp [hfield, hraw]
  have hnone : TypeOuter outer "" := ha.typeOuter (by decide)
  induction r generalizing ns field raw with
  | simple s builtin named =>
    rw [fromRaw]
    split
    · exact closedBy_fallible ha (by simp) hargs (typeOuter_wrapType ha h.2)
    · exact closedBy_fallible ha (by simp) hargs (typeOuter_wrapType ha h.2)
    · exact closedBy_fallible ha (by simpa using typeOuter ha h) hargs hnone
  | timestamp s format =>
    have hformat : (formatConstant format).ClosedBy outer ns := closedBy_formatConstant ha format
    exact closedBy_fallible ha (by simp) (by simp [hfield, hraw, hformat]) hnone
  | blob | bigInteger | bigDecimal => exact closedBy_fallible ha (by simp) hargs hnone
  | document s => exact ⟨hraw, hnone⟩
  | enum s =>
    have hparse : (Expr.ident ("Parse" ++ typeName s)).ClosedBy outer ns :=
      closedBy_outer (by rw [rootOf_parse]; exact h.2)
    exact closedBy_fallible ha (by simp) (by simp [hfield, hraw, hparse]) hnone
  | intEnum s =>
    have hown : TypeOuter outer (typeName s) := typeOuter_typeName h
    exact closedBy_fallible ha (by simpa using hown) hargs hnone
  | list s element ih | map s element ih =>
    have h : element.Resolved outer := h
    have hreader : (elementReader element.type (element.zero true)
        (element.fromRaw (.ident "field") (.ident "raw"))).ClosedBy outer ns := by
      have hname : (Expr.ident "field").ClosedBy outer ["field", "raw"] :=
        Conversion.closedBy_local (by simp) (by simp)
      have hvalue : (Expr.ident "raw").ClosedBy outer ["field", "raw"] :=
        Conversion.closedBy_local (by simp) (by simp)
      exact closedBy_reader ha (typeOuter ha h) (ha.typeOuter (by decide)) (closedBy_zero ha h _)
        (ih h hname hvalue (by simp [hname, hvalue])) (by decide)
    exact closedBy_fallible ha (by simp) (by simp [hfield, hraw, hreader]) hnone
  | structure_ s =>
    have hread : (Expr.ident (typeName s ++ "FromJSON")).ClosedBy outer ns :=
      closedBy_outer (by rw [rootOf_fromJson]; exact h.2)
    exact ⟨closedBy_call hread (by simp) hargs, hnone⟩

/-- A default refers to the type of its shape at most. -/
theorem closedBy_defaultValue (ha : Ambient outer) {r : Representation} (hr : r.Resolved outer)
    {n : Option Node} {x : Expr} (h : r.defaultValue n = .ok x) : x.ClosedBy outer ns := by
  obtain ⟨text, rfl | rfl | rfl⟩ := of_defaultValue h
  · exact closedBy_lit text
  · exact closedBy_conv (typeOuter ha hr) (closedBy_lit text)
  · exact closedBy_supportCall ha.support (by simp [closedBy_lit])

end Representation

/-! ## Taking members from requests -/

namespace Binding

variable {r : Representation} {m : Member} {origin origin' : Origin} {field raw : Expr}
  {c : Conversion}

theorem typeOuter_declaredName (ha : Ambient outer) (h : r.Resolved outer) :
    TypeOuter outer (declaredName r) := by
  rcases declaredName_eq r with heq | heq <;> rw [heq]
  · exact ha.typeOuter (by decide)
  · exact Representation.typeOuter ha h

/-- Converting the parts of a list refers to what the conversion of a part does. -/
theorem closedBy_fromParts (ha : Ambient outer) {s : Shape} {element : Representation}
    (h : element.Resolved outer) (hc : c.ClosedBy outer ["field", "s"])
    (hfield : field.ClosedBy outer ns) (hraw : raw.ClosedBy outer ns) :
    (fromParts s element origin c field raw).ClosedBy outer ns := by
  have hnone : TypeOuter outer "" := ha.typeOuter (by decide)
  have hcall (name : String) : (supportCall name [raw]).ClosedBy outer ns :=
    closedBy_supportCall ha.support (by simpa using hraw)
  obtain ⟨name, -, heq⟩ | ⟨name, -, split, -, heq⟩ :=
    of_fromParts s element origin c field raw <;> rw [heq]
  · exact ⟨hcall name, hnone⟩
  · have hreader : (partReader element c).ClosedBy outer ns :=
      Representation.closedBy_reader ha (Representation.typeOuter ha h) (ha.typeOuter (by decide))
        (Representation.closedBy_zero ha h _) hc (by decide)
    exact Representation.closedBy_fallible ha (by simp) (by simp [hfield, hcall, hreader]) hnone

/-- **Reading** text refers to what the representation ends at. -/
theorem closedBy_fromText (ha : Ambient outer) (h : r.Resolved outer)
    (hc : fromText m origin r field raw = .ok c) (hfield : field.ClosedBy outer ns)
    (hraw : raw.ClosedBy outer ns) : c.ClosedBy outer ns := by
  have hnone : TypeOuter outer "" := ha.typeOuter (by decide)
  have hform := textForm_of_fromText hc
  clear hc
  induction hform generalizing ns with
  | parts _ field raw ih =>
    have hname : (Expr.ident "field").ClosedBy outer ["field", "s"] :=
      Conversion.closedBy_local (by simp) (by simp)
    have htext : (Expr.ident "s").ClosedBy outer ["field", "s"] :=
      Conversion.closedBy_local (by simp) (by simp)
    exact closedBy_fromParts ha h (ih h hname htext) hfield hraw
  | plain r field raw => exact ⟨hraw, typeOuter_declaredName ha h⟩
  | call hname htypes hwrap field raw =>
    refine Representation.closedBy_fallible ha
      (fun t ht => htypes t ht ▸ Representation.typeOuter ha h) (by simp [hfield, hraw]) ?_
    rcases hwrap with rfl | rfl
    · exact hnone
    · exact Representation.typeOuter ha h
  | time r field raw =>
    exact Representation.closedBy_fallible ha (by simp)
      (by simp [hfield, hraw, closedBy_support ha.support]) hnone
  | constant s field raw =>
    have hparse : (Expr.ident ("Parse" ++ typeName s)).ClosedBy outer ns :=
      closedBy_outer (by rw [rootOf_parse]; exact h.2)
    exact ⟨closedBy_call hparse (by simp) (by simp [hfield, hraw]), hnone⟩

/-- Reading the whole body refers to what the representation ends at. -/
theorem closedBy_fromPayload (ha : Ambient outer) (h : r.Resolved outer)
    (hc : fromPayload m r field raw = .ok c) (hfield : field.ClosedBy outer ns)
    (hraw : raw.ClosedBy outer ns) : c.ClosedBy outer ns := by
  have hnone : TypeOuter outer "" := ha.typeOuter (by decide)
  have htext : (Expr.conv "string" raw).ClosedBy outer ns :=
    closedBy_conv (ha.typeOuter (by decide)) hraw
  rcases of_fromPayload hc with rfl | ⟨wrap, rfl | rfl, rfl⟩ | rfl
  · exact ⟨hraw, hnone⟩
  · exact ⟨htext, hnone⟩
  · exact ⟨htext, Representation.typeOuter ha h⟩
  · exact Representation.closedBy_fromRaw ha h hfield hraw

/-- **Taking a member from a request** reads the variable it is taken from, and the conversion reads
the raw value.  Only taking the whole body can fail. -/
theorem closedBy_bind (ha : Ambient outer) {target : Shape} {uri : Option UriPattern}
    {e : Extraction} (h : r.Resolved outer)
    (hbind : bind m target r origin uri = .ok (origin', e, c)) :
    e.expr.ClosedBy outer [source origin'] ∧ c.ClosedBy outer ["raw"] ∧
      e.fallible = (origin' == .payload) := by
  have hfield : (Expr.str m.name).ClosedBy outer ["raw"] := closedBy_lit _
  have hraw : (Expr.ident "raw").ClosedBy outer ["raw"] :=
    Conversion.closedBy_local (by simp) (by simp)
  have hsource : (Expr.ident (source origin')).ClosedBy outer [source origin'] :=
    Conversion.closedBy_local (by cases origin' <;> simp [source]) (by simp)
  obtain ⟨⟨name, -, texts, he⟩, hfallible, hc⟩ := of_bind hbind
  refine ⟨he ▸ closedBy_supportCall ha.support (by simp [hsource, closedBy_lit]), ?_, hfallible⟩
  rcases hc with hc | hc | rfl
  · exact closedBy_fromText ha h hc hfield hraw
  · exact closedBy_fromPayload ha h hc hfield hraw
  · exact Representation.closedBy_fromRaw ha h hfield hraw

end Binding
end Shapewright
