import Shapewright.Generated.Server
import Shapewright.Proofs.Binding.Planning
import Shapewright.Proofs.Representation.Mentions

/-!
# What generated declarations mention

The declarations for a record mention its own type and the types that its fields end at, and the
declarations for a service mention in addition the inputs and outputs of its operations.

* `TypeDecl.mentions`, `ServiceDecl.mentions` — what is mentioned in declarations.
* `Record.Known` — the type of a record is there, and those that its fields end at.
* `within_enumDecl`, `within_intEnumDecl`, `within_structDecl` — the declarations for a record.
* `Operation.interfaceMethod` — the method of the interface as a function, with
  `Operation.signature_interfaceMethod` for its text.
* `Input.within_statements`, `within_handler`, `ServiceDecl.within` — the declarations for a service.
-/

set_option autoImplicit false

namespace Shapewright

open Code

variable {V : Vocabulary}

/-- What the declaration of a type mentions besides its functions. -/
def TypeBody.mentions : TypeBody → List Mention
  | .builtin type => [.type type]
  | .integers _ => [.type "int32"]
  | .texts _ => [.type "string"]
  | .struct fields => fields.map fun f => .type f.type

/-- What declarations mention. -/
def TypeDecl.mentions (d : TypeDecl) : List Mention :=
  d.body.mentions ++ d.functions.flatMap (·.mentions)

/-- Declarations mention what is there. -/
def TypeDecl.Within (V : Vocabulary) (d : TypeDecl) : Prop := ∀ m ∈ d.mentions, m.Within V

theorem TypeDecl.within_iff {d : TypeDecl} : d.Within V ↔
    (∀ m ∈ d.body.mentions, m.Within V) ∧ ∀ f ∈ d.functions, f.Within V := by
  rw [TypeDecl.Within, mentions, List.forall_mem_append, forall_mem_flatMap_iff]
  rfl

/-! ## Records -/

/-- The type of a field is there, and so are those that its representation ends at. -/
structure FieldType.Known (V : Vocabulary) (m : Member) (t : FieldType) : Prop where
  representation : t.representation.Known V
  type : t.type = t.representation.declared (isNonNullable m t.target)
  enum : t.target.kind = .enum → t.representation = .enum t.target

/-- The types that a record's code mentions are there. -/
structure Record.Known (V : Vocabulary) (r : Record) : Prop where
  name : V.Has r.typeName
  fields : ∀ f ∈ r.fields, ∀ t ∈ f.typed, t.Known V f.member

theorem FieldType.Known.typeWithin {m : Member} {t : FieldType} (h : t.Known V m) :
    TypeWithin V t.type := by
  rw [h.type]
  exact Representation.typeWithin_declared h.representation _

theorem Field.typeWithin {f : Field} (h : ∀ t ∈ f.typed, t.Known V f.member) :
    TypeWithin V f.type := by
  rw [Field.type]
  cases hf : f.typed with
  | none => exact Representation.typeWithin_none
  | some t => exact (h t hf).typeWithin

namespace Record

variable {r : Record}

/-- The constructor mentions the types of the fields. -/
theorem within_constructor (h : r.Known V) : r.constructor.Within V := by
  refine Function.within_iff.2 ⟨by simp [constructor], ?_, ?_, ?_⟩
  · intro p hp
    obtain ⟨f, hf, rfl⟩ := List.mem_map.1 hp
    exact Field.typeWithin (h.fields f hf)
  · simpa [constructor] using h.name.type
  · simpa [constructor] using h.name.type

theorem within_defaultStatements {f : Field} {t : FieldType} (ht : t.Known V f.member)
    {ss : List Stmt} (h : defaultStatements f t = .ok ss) : ∀ s ∈ ss, s.Within V := by
  unfold defaultStatements at h
  simp only at h
  split at h
  · cases h
    simp
  · obtain ⟨v, hv, h⟩ := Outcome.exists_ok_of_bind h
    cases h
    split
    · simp
    · simpa using Representation.within_defaultValue ht.representation (Outcome.at_eq_ok.1 hv)

theorem within_readStatement {f : Field} {t : FieldType} (ht : t.Known V f.member) {zero : Expr}
    (hzero : zero.Within V) : (readStatement zero f t).Within V := by
  have hconv : (t.representation.fromRaw (.str f.member.name) (.ident "raw")).Within V :=
    Representation.within_fromRaw ht.representation (within_str _) (within_ident _)
  have hread : (supportCall "BodyField" [.ident "obj", .str f.member.name]).Within V :=
    (within_supportCall (by decide)).2 (by simp)
  have hmissing : (supportCall "MissingField" [.str f.member.name, support "OriginBody"]).Within V :=
    (within_supportCall (by decide)).2 (by simp)
  refine within_branch.2 ⟨by simpa using hread, within_ident _,
    Conversion.within_assign hconv _ _ (by simpa using hzero), ?_⟩
  split
  · simpa using ⟨hzero, hmissing⟩
  · simp

/-- Reading the fields mentions the types that they end at. -/
theorem within_readStatements {f : Field} (hf : ∀ t ∈ f.typed, t.Known V f.member) {zero : Expr}
    (hzero : zero.Within V) {ss : List Stmt} (h : readStatements zero f = .ok ss) :
    ∀ s ∈ ss, s.Within V := by
  unfold readStatements at h
  split at h
  · cases h
    simp
  · rename_i t ht
    obtain ⟨ds, hds, h⟩ := Outcome.exists_ok_of_bind h
    cases h
    refine List.forall_mem_append.2 ⟨within_defaultStatements (hf t ht) hds, ?_⟩
    simpa using within_readStatement (hf t ht) hzero

/-- **Reading a record** mentions its own type and the types that its fields end at. -/
theorem within_fromJson (h : r.Known V) {zero : Expr} (hzero : zero.Within V) {f : Function}
    (hf : r.fromJson zero = .ok f) : f.Within V := by
  obtain ⟨reads, hreads, hf⟩ := Outcome.exists_ok_of_bind hf
  obtain rfl := Except.ok.inj hf
  have hread : ∀ ss ∈ reads, ∀ s ∈ ss, s.Within V := by
    intro ss hss
    obtain ⟨f, hf, hread⟩ := Outcome.exists_mem_of_mapM hreads ss hss
    exact within_readStatements (h.fields f hf) hzero hread
  have hobject : (supportCall "ObjectFromJSON" [.ident "field", .ident "raw"]).Within V :=
    (within_supportCall (by decide)).2 (by simp)
  have herror : (Stmt.returnOnError [zero]).Within V := within_returnOnError (by simpa using hzero)
  refine Function.within_iff.2 ⟨by simp, ?_, ?_, ?_⟩
  · simp [typeWithin_foreign (by decide : "string" ∈ foreign),
      typeWithin_foreign (by decide : "interface\x7b\x7d" ∈ foreign)]
  · simpa [typeWithin_foreign (by decide : "error" ∈ foreign)] using h.name.type
  · simpa [or_imp, forall_and, hobject, herror, hzero] using fun s ss hss hs => hread ss hss s hs

/-- Writing a field mentions the types that it ends at. -/
theorem within_writeStatement {f : Field} {t : FieldType} (ht : t.Known V f.member) :
    (writeStatement f t).Within V := by
  have hset {value : Expr} (hvalue : value.Within V) :
      ∀ x ∈ [t.representation.toRaw value], x.Within V := by
    simpa using Representation.within_toRaw ht.representation hvalue
  unfold writeStatement
  simp only
  split
  · refine within_branch.2 ⟨by simp, by simp, ?_, by simp⟩
    rw [List.forall_mem_singleton, within_assign]
    refine hset ?_
    split <;> simp
  · refine within_assign.2 (hset ?_)
    split <;> simp

/-- **Writing a record** mentions its own type and the types that its fields end at. -/
theorem within_toJson (h : r.Known V) : r.toJson.Within V := by
  have hdocument : TypeWithin V "map[string]interface\x7b\x7d" := typeWithin_foreign (by decide)
  have hmake : (Expr.callOf "make" [.ident "map[string]interface\x7b\x7d"]).Within V :=
    within_callOf nofun (by simp) (by decide)
  have hwrite : ∀ s ∈ r.fields.filterMap (fun f => f.typed.map (writeStatement f)), s.Within V := by
    intro s hs
    obtain ⟨f, hf, hs⟩ := List.mem_filterMap.1 hs
    obtain ⟨t, ht, rfl⟩ := Option.map_eq_some_iff.1 hs
    exact within_writeStatement (h.fields f hf t ht)
  refine Function.within_iff.2 ⟨?_, by simp [toJson], ?_, ?_⟩
  · simpa [toJson] using h.name.type
  · simpa [toJson] using hdocument
  · refine List.forall_mem_append.2 ⟨List.forall_mem_append.2 ⟨?_, hwrite⟩, ?_⟩
    · simpa using hmake
    · simp

end Record

/-- The function that reads a constant of an enumeration mentions its type. -/
theorem within_parseFunction {type : String} (h : TypeWithin V type) (constants : List String) :
    (parseFunction type constants).Within V := by
  refine Function.within_iff.2 ⟨by simp [parseFunction], ?_, ?_, ?_⟩
  · simp [parseFunction, typeWithin_foreign (by decide : "string" ∈ foreign)]
  · simp [parseFunction, h, typeWithin_foreign (by decide : "error" ∈ foreign)]
  · refine List.forall_mem_append.2 ⟨?_, by simp⟩
    split
    · simp
    · simp [h]

/-! ## Units and quantities -/

namespace Units

variable {type : String}

theorem within_specLit (s : UnitSpec) : (specLit s).Within V := by
  refine within_composite.2 ⟨typeWithin_foreign (by decide), ?_⟩
  split <;> simp [numberLit]

theorem within_specCall (unit : String) : (specCall unit).Within V :=
  within_method.2 ⟨within_ident _, by simp⟩

/-- The call that looks a unit up mentions the type of the unit. -/
theorem within_lookup (h : TypeWithin V type) (units : List Unit) :
    (supportCall "FuzzyMatch" [.ident "token", .composite ("map[string]" ++ type)
      ((lookupTable units).map fun (token, constant) =>
        (Text.quote token, .ident constant))]).Within V := by
  refine (within_supportCall (by decide)).2 ?_
  simp only [List.forall_mem_cons, within_ident, within_composite, typeWithin_map, h,
    List.forall_mem_map, implies_true, List.not_mem_nil, false_implies, and_self]

/-- The methods of an enumeration of units mention its type. -/
theorem within_enumMethods (h : TypeWithin V type) (units : List Unit) :
    ∀ f ∈ enumMethods type units, f.Within V := by
  have hfloat : TypeWithin V "float64" := typeWithin_foreign (by decide)
  have hspec : TypeWithin V "runtime.UnitSpec" := typeWithin_foreign (by decide)
  have hmethod {doc name result : String} {params : List Param} {value : Expr}
      (hparams : ∀ p ∈ params, TypeWithin V p.type) (hresult : TypeWithin V result)
      (hvalue : value.Within V) : (unitMethod type doc name params result value).Within V :=
    Function.within_iff.2
      ⟨by simpa [unitMethod] using h, hparams, by simpa [unitMethod] using hresult,
        by simpa [unitMethod] using hvalue⟩
  have hspecMethod : (specMethod type units).Within V := by
    refine Function.within_iff.2
      ⟨by simpa [specMethod] using h, by simp [specMethod], by simpa [specMethod] using hspec, ?_⟩
    simp [specMethod, within_specLit, hspec]
  have hfind : (findFunction type units).Within V := by
    refine Function.within_iff.2 ⟨by simp [findFunction], ?_, ?_, ?_⟩
    · simpa [findFunction] using typeWithin_foreign (by decide : "string" ∈ foreign)
    · simpa [findFunction, h] using typeWithin_foreign (by decide : "bool" ∈ foreign)
    · simpa [findFunction] using within_lookup h units
  have hconvert : (supportCall "ConvertUnit"
      [.ident "value", specCall "x", specCall "to"]).Within V :=
    (within_supportCall (by decide)).2 (by simp [within_specCall])
  intro f hf
  simp only [enumMethods, List.mem_cons, List.not_mem_nil, or_false] at hf
  rcases hf with rfl | rfl | rfl | rfl | rfl
  · exact hspecMethod
  · exact hmethod (by simp) hfloat (within_sel.2 (within_specCall _))
  · exact hmethod (by simp) hfloat (within_sel.2 (within_specCall _))
  · exact hmethod (by simp [hfloat, h]) hfloat hconvert
  · exact hfind

/-- A quantity is made up of two fields of a record that always have a value. -/
theorem of_quantityOf? {r : Record} {q : Quantity} (h : quantityOf? r = some q) :
    (q.value ∈ r.fields ∧ q.value.typed = some q.valueType) ∧
      q.unit ∈ r.fields ∧ q.unit.typed = some q.unitType ∧
      q.unitType.target.kind = .enum ∧ isAlwaysSet q.unit = true := by
  have hnumber {f : Field} {t : FieldType} (ht : fieldNumberType? f = some t) :
      f.typed = some t := by
    obtain ⟨t', ht', h⟩ := Option.bind_eq_some_iff.1 ht
    split at h
    · rw [ht', h]
    · cases h
  have hunits {f : Field} {t : FieldType} {units : List Unit}
      (ht : fieldUnits? f = some (t, units)) : f.typed = some t ∧ t.target.kind = .enum := by
    obtain ⟨t', ht', h⟩ := Option.bind_eq_some_iff.1 ht
    obtain ⟨units', hunits, h⟩ := Option.bind_eq_some_iff.1 h
    cases h
    refine ⟨ht', ?_⟩
    unfold unitsOf? at hunits
    split at hunits
    · cases hunits
    · rename_i hkind
      by_contra hne
      exact hkind (by simp [hne])
  unfold quantityOf? at h
  split at h
  · rename_i a b _ hfields
    split at h
    · cases h
    · rename_i hset
      have hset : isAlwaysSet a = true ∧ isAlwaysSet b = true := by simpa using hset
      split at h
      · rename_i hvalue hunit
        cases h
        obtain ⟨hunit, hkind⟩ := hunits hunit
        exact ⟨⟨by simp [hfields], hnumber hvalue⟩, by simp [hfields], hunit, hkind, hset.2⟩
      · rename_i hunit hvalue _
        cases h
        obtain ⟨hunit, hkind⟩ := hunits hunit
        exact ⟨⟨by simp [hfields], hnumber hvalue⟩, by simp [hfields], hunit, hkind, hset.1⟩
      · cases h
  · cases h

namespace Quantity

variable {r : Record} {q : Quantity}

/-- The unit of a quantity is declared without a pointer. -/
theorem has_unitType (h : r.Known V) (hq : quantityOf? r = some q) :
    ∃ s, q.unitType.type = typeName s ∧ V.Has (typeName s) := by
  obtain ⟨-, hmem, htyped, hkind, hset⟩ := of_quantityOf? hq
  have hknown := h.fields _ hmem _ htyped
  have hrepresentation := hknown.enum hkind
  have hrequired : isNonNullable q.unit.member q.unitType.target = true := by
    simpa [isAlwaysSet, htyped] using hset
  refine ⟨q.unitType.target, ?_, ?_⟩
  · rw [hknown.type, hrequired, hrepresentation]
    rfl
  · have henum := hknown.representation
    rw [hrepresentation] at henum
    exact henum

theorem within_ordered {q : Quantity} {a b : Expr} (ha : a.Within V) (hb : b.Within V) :
    ∀ x ∈ q.ordered a b, x.Within V := by
  unfold ordered
  split <;> simp [ha, hb]

theorem within_toMethod (h : r.Known V) (hq : quantityOf? r = some q) :
    (q.toMethod r.typeName).Within V := by
  obtain ⟨⟨hvalue, hvalueTyped⟩, hunit, hunitTyped, -⟩ := of_quantityOf? hq
  have hvalueType := (h.fields _ hvalue _ hvalueTyped).typeWithin
  have hunitType := (h.fields _ hunit _ hunitTyped).typeWithin
  have hfloat : TypeWithin V "float64" := typeWithin_foreign (by decide)
  have hconverted : q.converted.Within V := by
    have hinUnit : (Expr.call (.sel (sel q.unit) "Convert") []
        [.conv "float64" (sel q.value), .ident "to"]).Within V :=
      within_method.2 (by simp [sel, hfloat])
    refine within_conv.2 ⟨hvalueType, ?_⟩
    split
    · exact hinUnit
    · exact within_callOf nofun (by simpa using hinUnit) (by decide)
  have hmade : (Expr.callOf ("New" ++ r.typeName) (q.ordered q.converted (.ident "to"))).Within V :=
    h.name.within_callOf (by simp [functionsOf, Record.typeName])
      (within_ordered hconverted (within_ident _))
  refine Function.within_iff.2 ⟨?_, ?_, ?_, ?_⟩
  · simpa [toMethod] using h.name.type
  · simpa [toMethod] using hunitType
  · simpa [toMethod] using h.name.type
  · simpa [toMethod, sel] using hmade

theorem within_parseFunction (h : r.Known V) (hq : quantityOf? r = some q) :
    (q.parseFunction r.typeName).Within V := by
  obtain ⟨s, htype, hunit⟩ := has_unitType h hq
  obtain ⟨⟨hvalue, hvalueTyped⟩, -⟩ := of_quantityOf? hq
  have hvalueType := (h.fields _ hvalue _ hvalueTyped).typeWithin
  have hsplit : (supportCall "SplitQuantity"
      [.ident "input", .lit (boolLiteral q.numberFirst)]).Within V :=
    (within_supportCall (by decide)).2 (by simp)
  have hfind : (Expr.callOf ("Find" ++ q.unitType.type) [.ident "token"]).Within V := by
    rw [htype]
    exact hunit.within_callOf (by simp [functionsOf]) (by simp)
  have hparse : (Expr.call (support (if q.isFloat then "ParseFloat" else "ParseInt"))
      [q.valueType.type] [.str q.value.member.name, .ident "num"]).Within V := by
    refine (within_call_support ?_).2 (by simp [hvalueType])
    split <;> decide
  have hmade : (Expr.callOf ("New" ++ r.typeName)
      (q.ordered (.ident "value") (.ident "unit"))).Within V :=
    h.name.within_callOf (by simp [functionsOf, Record.typeName])
      (within_ordered (within_ident _) (within_ident _))
  refine Function.within_iff.2 ⟨by simp [parseFunction], ?_, ?_, ?_⟩
  · simpa [parseFunction] using typeWithin_foreign (by decide : "string" ∈ foreign)
  · simpa [parseFunction, typeWithin_foreign (by decide : "bool" ∈ foreign)] using h.name.type
  · simp [parseFunction, hsplit, hfind, hparse, hmade]

theorem within_formatMethod (h : r.Known V) : (q.formatMethod r.typeName).Within V := by
  have hfloat : TypeWithin V "float64" := typeWithin_foreign (by decide)
  refine Function.within_iff.2 ⟨?_, ?_, ?_, ?_⟩
  · simpa [formatMethod] using h.name.type
  · simpa [formatMethod] using typeWithin_foreign (by decide : "runtime.NumberFormatter" ∈ foreign)
  · simpa [formatMethod] using typeWithin_foreign (by decide : "string" ∈ foreign)
  · simp [formatMethod, sel, hfloat]

end Quantity
end Units

/-! ## Declarations for a shape -/

/-- **Methods that are contributed** mention what the record does. -/
theorem Contributor.within_contribute {r : Record} (h : r.Known V) (cs : List Contributor) :
    ∀ f ∈ contribute cs r, f.Within V := by
  intro f hf
  obtain ⟨c, -, hf⟩ := List.mem_flatMap.1 hf
  cases c with
  | unitEnum =>
    cases hunits : Units.unitsOf? r.shape with
    | none => simp [methods?, hunits] at hf
    | some units =>
      simp only [methods?, hunits, Option.map_some, Option.getD_some] at hf
      exact Units.within_enumMethods h.name.type units f hf
  | unitConversion =>
    cases hq : Units.quantityOf? r with
    | none => simp [methods?, hq] at hf
    | some q =>
      simp only [methods?, hq, Option.map_some, Option.getD_some, Units.Quantity.methods,
        List.mem_cons, List.not_mem_nil, or_false] at hf
      rcases hf with rfl | rfl | rfl
      · exact Units.Quantity.within_toMethod h hq
      · exact Units.Quantity.within_parseFunction h hq
      · exact Units.Quantity.within_formatMethod h

section

variable {r : Record} {d : TypeDecl}

theorem within_enumDecl (h : r.Known V) (cs : List Contributor) : (enumDecl cs r).Within V := by
  have hstring : TypeWithin V "string" := typeWithin_foreign (by decide)
  refine TypeDecl.within_iff.2 ⟨?_, ?_⟩
  · exact List.forall_mem_singleton.2 hstring
  · exact List.forall_mem_cons.2
      ⟨within_parseFunction h.name.type _, Contributor.within_contribute h cs⟩

theorem within_intEnumDecl (h : r.Known V) {cs : List Contributor}
    (hd : intEnumDecl cs r = .ok d) : d.Within V := by
  have hint : TypeWithin V "int32" := typeWithin_foreign (by decide)
  obtain ⟨constants, -, hd⟩ := Outcome.exists_ok_of_bind hd
  obtain rfl := Except.ok.inj hd
  refine TypeDecl.within_iff.2 ⟨?_, Contributor.within_contribute h cs⟩
  exact List.forall_mem_singleton.2 hint

theorem within_structDecl (h : r.Known V) {cs : List Contributor}
    (hd : structDecl cs r = .ok d) : d.Within V := by
  obtain ⟨fromJson, hfrom, hd⟩ := Outcome.exists_ok_of_bind hd
  obtain rfl := Except.ok.inj hd
  have hzero : (Expr.composite r.typeName []).Within V :=
    within_composite.2 ⟨h.name.type, by simp⟩
  refine TypeDecl.within_iff.2 ⟨?_, ?_⟩
  · intro m hm
    obtain ⟨f, hf, rfl⟩ := List.mem_map.1 hm
    exact Field.typeWithin (h.fields f hf)
  · refine List.forall_mem_append.2 ⟨?_, Contributor.within_contribute h cs⟩
    simp [Record.within_constructor h, Record.within_fromJson h hzero hfrom,
      Record.within_toJson h]

end

/-! ## Servers -/

/-- A declaration mentions what there is. -/
structure Declaration.Within (V : Vocabulary) (d : Declaration) : Prop where
  type : TypeWithin V d.type
  default_ : ∀ x ∈ d.default?, x.Within V
  extraction : d.extraction.expr.Within V
  convert : d.convert.Within V

/-- Binding a member mentions what its declaration does. -/
theorem Declaration.Within.within_statements {d : Declaration} (h : d.Within V) {zeros : List Expr}
    (hz : ∀ z ∈ zeros, z.Within V) : ∀ s ∈ d.statements zeros, s.Within V := by
  have hvar : (Stmt.var d.var d.type d.default?).Within V := within_var.2 ⟨h.type, h.default_⟩
  have hpresent := Conversion.within_assign h.convert d.var d.pointer hz
  have habsent : ∀ s ∈ d.absent zeros, s.Within V := by
    unfold Declaration.absent
    split
    · have hmissing : (supportCall "MissingField"
          [.str d.name, support d.origin.constant]).Within V :=
        (within_supportCall (by decide)).2 (by simp)
      simpa [or_imp, forall_and, hmissing] using hz
    · simp
  have herror : (Stmt.returnOnError zeros).Within V := within_returnOnError hz
  unfold Declaration.statements
  simp only
  split
  · simp only [List.forall_mem_cons, hvar, within_define, h.extraction, herror, within_branch,
      within_ident, List.not_mem_nil, false_implies, implies_true, and_true, true_and]
    exact ⟨by simp, hpresent, habsent⟩
  · simp only [List.forall_mem_cons, hvar, within_branch, within_ident, List.not_mem_nil,
      false_implies, implies_true, and_true, true_and]
    exact ⟨by simpa using h.extraction, hpresent, habsent⟩

/-- A plan mentions what the representation of its member ends at. -/
theorem Declaration.Settled.within {g : Registry} {m : Member} {target : Shape} {origin : Origin}
    {uri : Option UriPattern} {r : Representation} {d : Declaration}
    (h : Settled g m target origin uri r d) (hr : r.Known V) : d.Within V where
  type := by
    rw [h.type]
    exact Representation.typeWithin_declared hr _
  default_ := fun _ hx => Representation.within_defaultValue hr (h.defaultValue_eq hx)
  extraction := (Binding.within_bind hr h.bound).1
  convert := (Binding.within_bind hr h.bound).2

/-- **Binding an input** mentions what the declarations of its members do. -/
theorem Input.within_statements {i : Input} (h : ∀ d ∈ i.declarations, d.Within V)
    {zeros : List Expr} (hz : ∀ z ∈ zeros, z.Within V) : ∀ s ∈ i.statements zeros, s.Within V := by
  have hdocument : (supportCall "BodyDocument" [Binding.request]).Within V :=
    (within_supportCall (by decide)).2 (by simp [Binding.request])
  refine List.forall_mem_append.2 ⟨?_, ?_⟩
  · split
    · simp [hdocument, within_returnOnError hz]
    · simp
  · intro s hs
    obtain ⟨d, hd, hs⟩ := List.mem_flatMap.1 hs
    exact (h d hd).within_statements hz s hs

namespace Operation

variable {o : Operation}

/-- The method of the interface as a function without a body. -/
def interfaceMethod (o : Operation) : Function :=
  { name := o.name
    params := ⟨"ctx", "context.Context"⟩ ::
      if o.hasInput then [⟨"input", "*" ++ o.input.typeName⟩] else []
    results := (o.output.map ("*" ++ ·)).toList ++ ["error"]
    body := [] }

/-- The line of the interface is the head of the method. -/
theorem resultList_interfaceMethod (o : Operation) : resultList o.interfaceMethod.results =
    match o.output with
    | some type => " (*" ++ type ++ ", error)"
    | none => " error" := by
  unfold interfaceMethod
  cases o.output with
  | none => rfl
  | some type =>
    have hopen : " (" ++ "*" = " (*" := by decide
    have htext : resultList ["*" ++ type, "error"] = " (" ++ ("*" ++ (type ++ ", error)")) := by
      simp [resultList, commas, String.append_assoc]
    have heq : resultList ["*" ++ type, "error"] = " (*" ++ type ++ ", error)" := by
      rw [htext, ← hopen, String.append_assoc, String.append_assoc]
    exact heq

theorem signature_interfaceMethod (o : Operation) :
    o.interfaceMethod.signature = "func " ++ o.signature := by
  have hparams : paramList o.interfaceMethod.params = "(ctx context.Context" ++
      (if o.hasInput then ", input *" ++ o.input.typeName else "") ++ ")" := by
    unfold interfaceMethod
    simp only
    split
    · simp [paramList, commas, Param.text, ← String.append_assoc]
    · simp [paramList, commas, Param.text]
  rw [Function.signature, hparams, resultList_interfaceMethod, signature]
  simp only [interfaceMethod, String.append_assoc]
  rfl

/-- What an operation mentions is there: the types of its input and output, and what binding the
input takes. -/
structure Known (V : Vocabulary) (o : Operation) : Prop where
  input : ∀ s ∈ o.input.shape, V.Has (typeName s)
  output : ∀ t ∈ o.output, TypeWithin V t
  declarations : ∀ d ∈ o.input.declarations, d.Within V
  bind : V.functions o.bindName

theorem typeWithin_input (h : o.Known V) : TypeWithin V o.input.typeName := by
  rw [Input.typeName]
  cases hs : o.input.shape with
  | none => exact Representation.typeWithin_none
  | some s => exact (h.input s hs).type

theorem within_interfaceMethod (h : o.Known V) : o.interfaceMethod.Within V := by
  have hcontext : TypeWithin V "context.Context" := typeWithin_foreign (by decide)
  have herror : TypeWithin V "error" := typeWithin_foreign (by decide)
  refine Function.within_iff.2 ⟨by simp [interfaceMethod], ?_, ?_, by simp [interfaceMethod]⟩
  · refine List.forall_mem_cons.2 ⟨hcontext, ?_⟩
    split
    · simpa using typeWithin_input h
    · simp
  · refine List.forall_mem_append.2 ⟨?_, by simpa using herror⟩
    simpa using h.output

/-- **The function that binds an input** mentions its type, and what its members end at. -/
theorem within_bindFunction (h : o.Known V) (hinput : o.hasInput = true) :
    o.bindFunction.Within V := by
  obtain ⟨s, hs⟩ := Option.isSome_iff_exists.1 hinput
  have hname : o.input.typeName = typeName s := by rw [Input.typeName, hs]; rfl
  have hhas := h.input s hs
  have hnil : ∀ z ∈ [Expr.nil], z.Within V := by simp
  refine Function.within_iff.2 ⟨by simp [bindFunction], ?_, ?_, ?_⟩
  · simpa [bindFunction] using typeWithin_foreign (by decide : "*http.Request" ∈ foreign)
  · simpa [bindFunction, typeWithin_foreign (by decide : "error" ∈ foreign)]
      using typeWithin_input h
  · unfold bindFunction
    simp only
    split
    · have hvalue : (supportCall "BodyValue" [Binding.request, .str "body"]).Within V :=
        (within_supportCall (by decide)).2 (by simp [Binding.request])
      have hmissing : (supportCall "MissingField" [.str "body", support "OriginBody"]).Within V :=
        (within_supportCall (by decide)).2 (by simp)
      have hread : (Expr.callOf (o.input.typeName ++ "FromJSON")
          [.str "body", .ident "raw"]).Within V := by
        rw [hname]
        exact hhas.within_callOf (by simp [functionsOf]) (by simp)
      simp [bindWholeBody, hvalue, hmissing, hread, within_returnOnError hnil]
    · have hmade : (Expr.callOf ("New" ++ o.input.typeName) o.input.arguments).Within V := by
        rw [hname]
        exact hhas.within_callOf (by simp [functionsOf]) (by simp [Input.arguments])
      refine List.forall_mem_append.2 ⟨Input.within_statements h.declarations hnil, ?_⟩
      simp [hmade]

theorem within_reportError : reportError.Within V := by
  have hwrite : (supportCall "WriteError" [.ident "w", .ident "err"]).Within V :=
    (within_supportCall (by decide)).2 (by simp)
  simp [reportError, hwrite]

theorem within_callStatement : o.callStatement.Within V := by
  have hplain : "impl." ++ o.name ≠ "runtime.EnumFromJSON" := by
    intro h
    have hhead := congrArg (fun t : String => t.toList.head?) h
    simp at hhead
  have hforeign : isOwnFunction ("impl." ++ o.name) = false := by
    simp [isOwnFunction, isQualified]
  have hcall {args : List Expr} (hargs : ∀ x ∈ args, x.Within V) :
      (Expr.callOf ("impl." ++ o.name) args).Within V := by
    refine within_callOf (fun hown => ?_) hargs hplain
    rw [hforeign] at hown
    cases hown
  have hcontext : (Expr.callOf "r.Context" []).Within V :=
    within_callOf (fun hown => absurd hown (by decide)) (by simp) (by decide)
  have hbare : (Expr.callOf ("impl." ++ o.name) [.callOf "r.Context" []]).Within V :=
    hcall (by simpa using hcontext)
  have hfull : (Expr.callOf ("impl." ++ o.name)
      [.callOf "r.Context" [], .ident "input"]).Within V := hcall (by simpa using hcontext)
  unfold callStatement
  cases o.hasInput <;> cases o.output <;> simp [hbare, hfull]

theorem within_answerStatements : ∀ s ∈ o.answerStatements, s.Within V := by
  have hsend {body : Expr} (hbody : body.Within V) :
      (supportCall "WriteJSON" [.ident "w", .int o.code, body]).Within V :=
    (within_supportCall (by decide)).2 (by simpa using hbody)
  unfold answerStatements
  simp only
  split
  · simp [hsend, typeWithin_foreign (by decide : "interface\x7b\x7d" ∈ foreign)]
  · simp [hsend]

/-- **Registering an operation** mentions its bind function. -/
theorem within_routeStatement (h : o.Known V) : o.routeStatement.Within V := by
  have hbind : (Expr.callOf o.bindName [Binding.request]).Within V := by
    refine within_callOf (fun _ => h.bind) (by simp [Binding.request]) ?_
    intro heq
    have hhead := congrArg (fun t : String => t.toList.head?) heq
    simp [bindName, String.append_assoc] at hhead
  refine within_callOf nofun ?_ (by decide)
  simp only [List.forall_mem_cons, within_str, within_func, List.not_mem_nil, false_implies,
    implies_true, and_true, true_and]
  refine ⟨⟨typeWithin_foreign (by decide), typeWithin_foreign (by decide)⟩, ?_⟩
  refine List.forall_mem_append.2 ⟨List.forall_mem_append.2 ⟨?_, ?_⟩, within_answerStatements⟩
  · split
    · simp [hbind, within_reportError]
    · simp
  · simpa [within_reportError] using within_callStatement

end Operation

/-- **The handler of a service** mentions its interface and the bind functions of its operations. -/
theorem within_handler {service : String} {ops : List Operation} (hservice : TypeWithin V service)
    (h : ∀ o ∈ ops, o.Known V) : (handler service ops).Within V := by
  have hmux : (Expr.callOf "http.NewServeMux" []).Within V :=
    within_callOf nofun (by simp) (by decide)
  refine Function.within_iff.2 ⟨by simp [handler], by simpa [handler] using hservice, ?_, ?_⟩
  · simpa [handler] using typeWithin_foreign (by decide : "http.Handler" ∈ foreign)
  · refine List.forall_mem_append.2 ⟨List.forall_mem_append.2 ⟨by simp [hmux], ?_⟩, by simp⟩
    intro s hs
    obtain ⟨o, ho, rfl⟩ := List.mem_map.1 hs
    exact Operation.within_routeStatement (h o ho)

/-- What the declarations for a service mention. -/
def ServiceDecl.mentions (d : ServiceDecl) : List Mention :=
  (d.operations.map (·.interfaceMethod) ++ d.functions).flatMap (·.mentions)

/-- **The declarations for a service** mention its interface and what its operations do. -/
theorem ServiceDecl.within {d : ServiceDecl} (hname : TypeWithin V d.name)
    (hops : ∀ o ∈ d.operations, o.Known V) (hbinds : ∀ o ∈ d.binds, o ∈ d.operations) :
    ∀ m ∈ d.mentions, m.Within V := by
  refine forall_mem_flatMap_iff.2 fun f hf => ?_
  rcases List.mem_append.1 hf with hf | hf
  · obtain ⟨o, ho, rfl⟩ := List.mem_map.1 hf
    exact Operation.within_interfaceMethod (hops o ho)
  · rcases List.mem_append.1 hf with hf | hf
    · obtain ⟨o, ho, rfl⟩ := List.mem_map.1 hf
      obtain ⟨ho, hinput⟩ := List.mem_filter.1 ho
      exact Operation.within_bindFunction (hops o (hbinds o ho)) hinput
    · rw [List.mem_singleton.1 hf]
      exact within_handler hname hops

end Shapewright
