import Shapewright.Binding.Input
import Shapewright.Proofs.Code.Semantics
import Shapewright.Proofs.Representation.Forms

/-!
# What declarations are like

`Registry.declare` makes a declaration out of names, representations and traits that a model chooses
freely.  This file collects what holds of every declaration nevertheless, so that the code generated
from it can be run without knowing the model.

* `extractors`, `oneValued` — the functions whose calls stand beside the conversion.
* `Code.Expr.Argument` — what generated calls are applied to.
* `Conversion.Callable` — a conversion is the raw value, or it is a call if it can fail.
* `Declaration.Settled` — how a declaration was made.
* `Declaration.Planned`, `Registry.planned_declare` — all of it together.
* `Registry.forall₂_of_bindOperation` — the declarations for the input of an operation.
-/

set_option autoImplicit false

namespace Shapewright

open Code

/-! ## Names and types -/

/-- The names that generated code uses itself are no variable's. -/
theorem Declaration.localName_not_mem (member : String) :
    Declaration.localName member ∉ Declaration.reserved := by
  have hparam : ∀ name ∈ Declaration.reserved, name ++ "Param" ∉ Declaration.reserved := by decide
  rw [Declaration.localName]
  split
  · rename_i h
    exact hparam _ (List.contains_iff_mem.1 h)
  · rename_i h
    exact fun hmem => h (List.contains_iff_mem.2 hmem)

theorem Text.startsWith_append (start rest : String) :
    Text.startsWith start (start ++ rest) = true := by
  rw [Text.startsWith, List.isPrefixOf_iff_prefix, String.toList_append]
  exact List.prefix_append _ _

/-- **What is not required** has a type that can be absent. -/
theorem Representation.isNillable_declared (r : Representation) :
    Code.isNillable (r.declared false) = true := by
  have hstar : Code.isNillable ("*" ++ r.type) = true := by
    simp [Code.isNillable, Text.startsWith_append]
  cases r with
  | blob => exact (by decide : Code.isNillable "[]byte" = true)
  | bigInteger => exact (by decide : Code.isNillable "*big.Int" = true)
  | document => exact (by decide : Code.isNillable "interface\x7b\x7d" = true)
  | list s element =>
    show Code.isNillable ("[]" ++ element.type) = true
    simp [Code.isNillable, Text.startsWith_append]
  | map s value =>
    show Code.isNillable ("map[string]" ++ value.type) = true
    have hmap : "map[string]" ++ value.type = "map[" ++ ("string]" ++ value.type) := by
      rw [← String.append_assoc]
      rfl
    rw [hmap]
    simp [Code.isNillable, Text.startsWith_append]
  | simple | timestamp | bigDecimal | enum | intEnum | structure_ => exact hstar

/-! ## Calls in generated code -/

/-- The functions that take a raw value from a request. -/
def extractors : List String :=
  ["runtime.PathParam", "runtime.GreedyPathParam", "runtime.QueryParam", "runtime.HeaderParam",
   "runtime.BodyBytes", "runtime.BodyValue", "runtime.BodyField"]

/-- The other functions that have one result only. -/
def oneValued : List String :=
  ["runtime.SplitList", "runtime.SplitHttpDates", "runtime.MustParseTimestamp",
   "runtime.MissingField"]

/-- What generated calls are applied to: names, literals, functions, and parts of the raw value. -/
inductive Code.Expr.Argument : Expr → Prop
  | ident (name : String) : Argument (.ident name)
  | lit (text : String) : Argument (.lit text)
  | func (params : List Param) (results : List String) (body : List Stmt) :
    Argument (.func params results body)
  | split {name : String} (h : name ∈ ["SplitList", "SplitHttpDates"]) :
    Argument (supportCall name [.ident "raw"])

/-- A conversion is the raw value itself if it is a name, and if it can fail it is a call of a
function that only converts. -/
structure Conversion.Callable (c : Conversion) : Prop where
  ident : c.expr.isIdent = true → c.expr = .ident "raw"
  call : c.fallible = true → ∃ fn types args, c.expr = .call (.ident fn) types args ∧
    fn ∉ extractors ++ oneValued ∧ ∀ x ∈ args, x.Argument

namespace Conversion

theorem callable_raw (wrap : String) : Callable { expr := .ident "raw", wrap } :=
  ⟨fun _ => rfl, nofun⟩

theorem callable_call {fn wrap : String} {types : List String} {args : List Expr} {fallible : Bool}
    (hfn : fn ∉ extractors ++ oneValued) (hargs : ∀ x ∈ args, x.Argument) :
    Callable { expr := .call (.ident fn) types args, fallible, wrap } :=
  ⟨nofun, fun _ => ⟨fn, types, args, rfl, hfn, hargs⟩⟩

/-- What cannot fail only has to be no name. -/
theorem callable_of_not_fallible {x : Expr} {wrap : String} (h : x.isIdent = false) :
    Callable { expr := x, wrap } :=
  ⟨fun hx => absurd (h.symm.trans hx) (by decide), nofun⟩

end Conversion

/-! ## Conversions -/

section

variable (name : String)

/-- The arguments that every conversion has: the name of the field and the raw value. -/
theorem argument_pair {x : Expr} (h : x ∈ [Expr.str name, .ident "raw"]) : x.Argument := by
  simp only [List.mem_cons, List.not_mem_nil, or_false] at h
  rcases h with rfl | rfl
  · exact .lit _
  · exact .ident _

theorem argument_triple {y : Expr} (hy : y.Argument) {x : Expr}
    (h : x ∈ [Expr.str name, .ident "raw", y]) : x.Argument := by
  rcases List.mem_append.1 (show x ∈ [Expr.str name, .ident "raw"] ++ [y] from h) with h | h
  · exact argument_pair name h
  · rw [List.mem_singleton.1 h]
    exact hy

/-- The functions that are generated for shapes are no functions of the support package. -/
theorem parse_not_mem (type : String) : "Parse" ++ type ∉ extractors ++ oneValued := by
  intro h
  have hhead : ∀ fn ∈ extractors ++ oneValued, fn.toList.head? ≠ some 'P' := by decide
  exact hhead _ h (by simp)

theorem reader_not_mem (type : String) : type ++ "FromJSON" ∉ extractors ++ oneValued := by
  intro h
  have hlast : ∀ fn ∈ extractors ++ oneValued, fn.toList.getLast? ≠ some 'N' := by decide
  exact hlast _ h (by simp)

theorem Representation.callable_fromRaw (r : Representation) :
    (r.fromRaw (.str name) (.ident "raw")).Callable := by
  have hpair : ∀ x ∈ [Expr.str name, .ident "raw"], x.Argument := fun x => argument_pair name
  cases r with
  | simple s builtin named =>
    simp only [fromRaw]
    split <;> exact Conversion.callable_call (by decide) hpair
  | timestamp s format =>
    refine Conversion.callable_call (by decide) fun x => argument_triple name ?_
    obtain ⟨constant, -, heq⟩ := exists_formatConstant_eq format
    exact heq ▸ .ident _
  | blob | bigInteger | bigDecimal | intEnum => exact Conversion.callable_call (by decide) hpair
  | document => exact Conversion.callable_raw ""
  | enum => exact Conversion.callable_call (by decide) fun x => argument_triple name (.ident _)
  | list | map =>
    exact Conversion.callable_call (by decide) fun x => argument_triple name (.func ..)
  | structure_ s => exact Conversion.callable_call (reader_not_mem _) hpair

namespace Binding

theorem callable_fromParts (s : Shape) (element : Representation) (origin : Origin)
    (c : Conversion) : (fromParts s element origin c (.str name) (.ident "raw")).Callable := by
  obtain ⟨_, -, heq⟩ | ⟨converter, hconverter, split, hsplit, heq⟩ :=
    of_fromParts s element origin c (.str name) (.ident "raw") <;> rw [heq]
  · exact Conversion.callable_of_not_fallible rfl
  · have hconverters : ∀ converter ∈ ["ConvertSet", "ConvertEach"],
        supportAlias ++ "." ++ converter ∉ extractors ++ oneValued := by decide
    refine Conversion.callable_call (hconverters converter hconverter) fun x hx => ?_
    simp only [List.mem_cons, List.not_mem_nil, or_false] at hx
    rcases hx with rfl | rfl | rfl
    · exact .lit _
    · exact .split hsplit
    · exact .func ..

theorem callable_fromText {m : Member} {origin : Origin} {r : Representation} {c : Conversion}
    (h : fromText m origin r (.str name) (.ident "raw") = .ok c) : c.Callable := by
  have hpair : ∀ x ∈ [Expr.str name, .ident "raw"], x.Argument := fun x => argument_pair name
  cases textForm_of_fromText h with
  | parts => exact callable_fromParts name _ _ _ _
  | plain => exact Conversion.callable_raw _
  | call hname =>
    have hreaders : ∀ reader ∈ textReaders,
        supportAlias ++ "." ++ reader ∉ extractors ++ oneValued := by decide
    exact Conversion.callable_call (hreaders _ hname) hpair
  | time =>
    exact Conversion.callable_call (by decide) fun x => argument_triple name (.ident _)
  | constant s => exact Conversion.callable_call (parse_not_mem _) hpair

theorem callable_fromPayload {m : Member} {r : Representation} {c : Conversion}
    (h : fromPayload m r (.str name) (.ident "raw") = .ok c) : c.Callable := by
  rcases of_fromPayload h with rfl | ⟨wrap, -, rfl⟩ | rfl
  · exact Conversion.callable_raw ""
  · exact Conversion.callable_of_not_fallible rfl
  · exact r.callable_fromRaw name

end Binding

end

/-! ## Extractions -/

/-- How the raw value is taken from a request: by one call. -/
def Extraction.Callable (e : Extraction) : Prop :=
  ∃ fn args, e.expr = .call (.ident fn) [] args ∧ fn ∈ extractors ∧ ∀ x ∈ args, x.Argument

/-- **What a member is bound with** can be run. -/
theorem Binding.callable_bind {m : Member} {target : Shape} {r : Representation}
    {origin origin' : Origin} {uri : Option UriPattern} {e : Extraction} {c : Conversion}
    (h : bind m target r origin uri = .ok (origin', e, c)) : e.Callable ∧ c.Callable := by
  have hextractors : ∀ name ∈ takers, supportAlias ++ "." ++ name ∈ extractors := by decide
  obtain ⟨⟨name, hname, texts, he⟩, -, hc⟩ := of_bind h
  refine ⟨⟨_, _, he, hextractors name hname, fun x hx => ?_⟩, ?_⟩
  · rcases List.mem_cons.1 hx with rfl | hx
    · exact .ident _
    · obtain ⟨text, -, rfl⟩ := List.mem_map.1 hx
      exact .lit text
  · rcases hc with hc | hc | rfl
    · exact callable_fromText m.name hc
    · exact callable_fromPayload m.name hc
    · exact r.callable_fromRaw m.name

/-! ## Defaults -/

/-- The forms that defaults have: a literal, a converted one, or a time. -/
def Code.Expr.IsDefault (x : Expr) : Prop :=
  ∃ text, x = .lit text ∨ (∃ type, x = .conv type (.lit text)) ∨
    x = supportCall "MustParseTimestamp" [.lit text]

theorem Representation.isDefault_of_defaultValue {r : Representation} {n : Option Node} {x : Expr}
    (h : r.defaultValue n = .ok x) : x.IsDefault := by
  obtain ⟨text, hx⟩ := of_defaultValue h
  exact ⟨text, hx.imp_right (Or.imp_left fun hconv => ⟨_, hconv⟩)⟩

/-! ## Declarations -/

/-- How a declaration was made for a member whose target is represented by `r`. -/
structure Declaration.Settled (g : Registry) (m : Member) (target : Shape) (origin : Origin)
    (uri : Option UriPattern) (r : Representation) (d : Declaration) : Prop where
  represented : g.ofMember m = .ok r
  member : d.member = m
  var : d.var = localName m.name
  type : d.type = r.declared (d.mode != .nullable)
  mode : d.mode = (modeOf m target).1
  /-- There is a default exactly if one is due. -/
  default_some : d.mode = .withDefault →
    ∃ x, r.defaultValue (modeOf m target).2 = .ok x ∧ d.default? = some x
  default_none : d.mode ≠ .withDefault → d.default? = none
  bound : Binding.bind m target r origin uri = .ok (d.origin, d.extraction, d.convert)
  imports : d.imports = importSet (g.options.package :: r.imports)

/-- A default is that of the representation. -/
theorem Declaration.Settled.defaultValue_eq {g : Registry} {m : Member} {target : Shape}
    {origin : Origin} {uri : Option UriPattern} {r : Representation} {d : Declaration}
    (h : Settled g m target origin uri r d) {x : Expr} (hx : d.default? = some x) :
    r.defaultValue (modeOf m target).2 = .ok x := by
  by_cases hmode : d.mode = .withDefault
  · obtain ⟨y, hy, hsome⟩ := h.default_some hmode
    rw [hsome, Option.some_inj] at hx
    exact hx ▸ hy
  · rw [h.default_none hmode] at hx
    cases hx

/-- **Making a declaration** settles all its parts. -/
theorem Registry.exists_settled_of_declare {g : Registry} {m : Member} {target : Shape}
    {origin : Origin} {uri : Option UriPattern} {d : Declaration}
    (h : g.declare m target origin uri = .ok d) :
    ∃ r, Declaration.Settled g m target origin uri r d := by
  obtain ⟨r, hr, h⟩ := Outcome.exists_ok_of_bind h
  refine ⟨r, ?_⟩
  simp only at h
  split at h
  · rename_i hmode
    obtain ⟨default?, hdefault, h⟩ := Outcome.exists_ok_of_bind h
    obtain ⟨x, hx, rfl⟩ := Outcome.exists_ok_of_map hdefault
    obtain ⟨⟨origin', e, c⟩, hbind, h⟩ := Outcome.exists_ok_of_bind h
    cases h
    have hdue := beq_iff_eq.1 hmode
    refine ⟨Outcome.at_eq_ok.1 hr, ?_, ?_, ?_, ?_, ?_, ?_, ?_, ?_⟩ <;> dsimp only
    · exact fun _ => ⟨x, Outcome.at_eq_ok.1 hx, rfl⟩
    · exact fun hne => absurd hdue hne
    · exact hbind
  · rename_i hmode
    obtain ⟨default?, hdefault, h⟩ := Outcome.exists_ok_of_bind h
    obtain ⟨⟨origin', e, c⟩, hbind, h⟩ := Outcome.exists_ok_of_bind h
    cases hdefault
    cases h
    refine ⟨Outcome.at_eq_ok.1 hr, ?_, ?_, ?_, ?_, ?_, ?_, ?_, ?_⟩ <;> dsimp only
    · exact fun heq => absurd (beq_iff_eq.2 heq) hmode
    · exact fun _ => rfl
    · exact hbind

/-- What every declaration is like that was made for a member. -/
structure Declaration.Planned (d : Declaration) : Prop where
  var_not_mem : d.var ∉ reserved
  /-- There is a default exactly if one is due. -/
  default_isSome : d.default?.isSome = (d.mode == .withDefault)
  default_some : ∀ x, d.default? = some x → x.IsDefault
  nillable : d.mode = .nullable → Code.isNillable d.type = true
  extraction : d.extraction.Callable
  convert : d.convert.Callable

/-- **Declarations** that are made are as they should be. -/
theorem Registry.planned_declare {g : Registry} {m : Member} {target : Shape} {origin : Origin}
    {uri : Option UriPattern} {d : Declaration} (h : g.declare m target origin uri = .ok d) :
    d.Planned := by
  obtain ⟨r, hd⟩ := exists_settled_of_declare h
  obtain ⟨he, hc⟩ := Binding.callable_bind hd.bound
  refine ⟨hd.var ▸ Declaration.localName_not_mem m.name, ?_, fun x hx => ?_, fun hmode => ?_, he, hc⟩
  · by_cases hmode : d.mode = .withDefault
    · obtain ⟨x, -, hx⟩ := hd.default_some hmode
      rw [hx, hmode]
      rfl
    · rw [hd.default_none hmode, Option.isSome_none, eq_comm]
      exact beq_eq_false_iff_ne.2 hmode
  · exact r.isDefault_of_defaultValue (hd.defaultValue_eq hx)
  · rw [hd.type, hmode]
    exact r.isNillable_declared

/-- **A plan for an input** is made for the operation, and declares nothing or each member of the
structure that it takes, in their order. -/
theorem Registry.forall₂_of_bindOperation {g : Registry} {op : Shape} {i : Input}
    (h : g.bindOperation op = .ok i) :
    i.operation = op ∧ g.inputShape op = .ok i.shape ∧
      (i.declarations = [] ∨ ∃ s, i.shape = some s ∧ List.Forall₂
        (fun m d => ∃ target origin uri r, Declaration.Settled g m target origin uri r d)
        s.memberList i.declarations) ∧
      i.imports = g.importsOf i.declarations := by
  obtain ⟨input, hinput, h⟩ := Outcome.exists_ok_of_bind h
  obtain ⟨endpoint, -, h⟩ := Outcome.exists_ok_of_bind h
  simp only at h
  split at h
  · obtain rfl := Except.ok.inj h
    exact ⟨rfl, hinput, .inl rfl, rfl⟩
  · rename_i hmembers
    split at h
    · obtain rfl := Except.ok.inj h
      exact ⟨rfl, hinput, .inl rfl, rfl⟩
    · obtain ⟨ds, hds, h⟩ := Outcome.exists_ok_of_bind h
      obtain rfl := Except.ok.inj h
      refine ⟨rfl, hinput, .inr ?_, rfl⟩
      cases input with
      | none => exact absurd rfl hmembers
      | some s =>
        refine ⟨s, rfl, (Outcome.forall₂_of_mapM hds).imp fun m d hdeclare => ?_⟩
        obtain ⟨target, -, hdeclare⟩ := Outcome.exists_ok_of_bind hdeclare
        obtain ⟨r, hsettled⟩ := exists_settled_of_declare hdeclare
        exact ⟨target, _, _, r, hsettled⟩

/-- Each declaration is made for a member of the structure. -/
theorem Registry.of_bindOperation {g : Registry} {op : Shape} {i : Input}
    (h : g.bindOperation op = .ok i) :
    i.operation = op ∧ g.inputShape op = .ok i.shape ∧
      (∀ d ∈ i.declarations, ∃ s ∈ i.shape, ∃ m ∈ s.memberList, ∃ target origin uri r,
        Declaration.Settled g m target origin uri r d) ∧
      i.imports = g.importsOf i.declarations := by
  obtain ⟨hop, hinput, hall, himports⟩ := forall₂_of_bindOperation h
  refine ⟨hop, hinput, fun d hd => ?_, himports⟩
  rcases hall with hnil | ⟨s, hs, hall⟩
  · rw [hnil] at hd
    cases hd
  · obtain ⟨k, hk, rfl⟩ := List.mem_iff_getElem.1 hd
    have hget := List.forall₂_iff_get.1 hall
    exact ⟨s, hs, _, List.getElem_mem (hget.1 ▸ hk), hget.2 k (hget.1 ▸ hk) hk⟩

end Shapewright
