import Shapewright.Binding.Input
import Shapewright.Generated.Types
import Shapewright.Proofs.Binding.Planning

/-!
# Constructors and the calls of them

The type of an operation's input and the function that binds the input are generated apart from each
other.  The type has a constructor with a parameter for each field, and the bind function calls it
with a variable for each declaration.  This file shows that the two fit.

* `Field.Matches` — a field and a declaration were settled alike from one member.
* `Input.MadeBy` — a constructor takes the arguments that an input is made from.
* `Registry.constructor_takes_arguments` — where an input is bound, its type can be declared, and the
  constructor of the type takes the arguments.
-/

set_option autoImplicit false

namespace Shapewright

open Code

/-! ## One member -/

/-- A field and a declaration that were settled alike from one member. The field can be read from a
document whatever is returned beside errors. -/
structure Field.Matches (f : Field) (d : Declaration) : Prop where
  member : f.member = d.member
  name : f.name = Naming.exported d.member.name
  type : f.type = d.type
  readable : ∀ zero, ∃ stmts, Record.readStatements zero f = .ok stmts

namespace Registry

variable {g : Registry}

/-- A default that a declaration has is one that the field can be given. -/
theorem exists_defaultStatements {m : Member} {target : Shape} {origin : Origin}
    {uri : Option UriPattern} {r : Representation} {d : Declaration}
    (h : Declaration.Settled g m target origin uri r d) (f : Field) (hf : f.member = m)
    (t : FieldType) (ht : t.target = target) (hr : t.representation = r) :
    ∃ stmts, Record.defaultStatements f t = .ok stmts := by
  subst hf ht hr
  unfold Record.defaultStatements
  simp only
  by_cases hmode : d.mode = .withDefault
  · obtain ⟨x, hx, -⟩ := h.default_some hmode
    rw [hx, ← h.mode, hmode]
    exact ⟨_, rfl⟩
  · rw [← h.mode, if_pos (bne_iff_ne.2 hmode)]
    exact ⟨[], rfl⟩

/-- **A member that can be declared** makes a field of the same type. -/
theorem exists_field_of_declare {m : Member} {target : Shape} {origin : Origin}
    {uri : Option UriPattern} {d : Declaration} (ht : g.catalog.target m = .ok target)
    (h : g.declare m target origin uri = .ok d) : ∃ f, g.field m = .ok f ∧ f.Matches d := by
  obtain ⟨r, hd⟩ := exists_settled_of_declare h
  let t : FieldType := { target, representation := r, type := r.declared (isNonNullable m target) }
  let f : Field := { member := m, name := Naming.exported m.name, typed := some t }
  have hfield : g.field m = .ok f := by
    rw [field, ht, hd.represented]
    rfl
  refine ⟨f, hfield, hd.member.symm, ?_, ?_, fun zero => ?_⟩
  · rw [hd.member]
  · rw [hd.type, hd.mode]
    rfl
  · obtain ⟨stmts, hstmts⟩ := exists_defaultStatements hd f rfl t rfl rfl
    have hread : Record.readStatements zero f
        = .ok (stmts ++ [Record.readStatement zero f t]) := by
      show (Record.defaultStatements f t >>= _) = _
      rw [hstmts]
      rfl
    exact ⟨_, hread⟩

end Registry

/-! ## The constructor and the call -/

/-- A constructor makes an input: it has a parameter for each argument that the call passes, of the
type of the variable passed, and stores it in the field of the member that the variable was bound
for. -/
structure Input.MadeBy (i : Input) (typeName : String) (f : Function) : Prop where
  name : f.name = "New" ++ typeName
  count : f.params.length = i.arguments.length
  types : f.params.map (·.type) = i.declarations.map (·.type)
  names : f.params.map (·.name) = i.declarations.map fun d => Naming.local_ d.member.name
  body : f.body = [.ret [.addr (.composite typeName (i.declarations.map fun d =>
    (Naming.exported d.member.name, .ident (Naming.local_ d.member.name))))]]

/-- Fields that match declarations agree with them in whatever both are asked for. -/
theorem Field.map_eq_of_matches {α : Type} {fs : List Field} {ds : List Declaration}
    (h : List.Forall₂ Field.Matches fs ds) (p : Field → α) (q : Declaration → α)
    (hpq : ∀ f d, f.Matches d → p f = q d) : fs.map p = ds.map q := by
  induction h with
  | nil => rfl
  | cons hfd _ ih => rw [List.map_cons, List.map_cons, hpq _ _ hfd, ih]

/-- **The constructor of a record** whose fields match the declarations of an input makes it. -/
theorem Record.madeBy_constructor {r : Record} {i : Input}
    (h : List.Forall₂ Field.Matches r.fields i.declarations) :
    i.MadeBy r.typeName r.constructor := by
  have hall {α : Type} := @Field.map_eq_of_matches α _ _ h
  refine ⟨rfl, ?_, ?_, ?_, ?_⟩
  · rw [constructor, Input.arguments, List.length_map, List.length_map, h.length_eq]
  · rw [constructor, List.map_map]
    exact hall Field.type Declaration.type fun f d hfd => hfd.type
  · rw [constructor, List.map_map]
    refine hall _ _ fun f d hfd => ?_
    rw [Function.comp_apply, hfd.member]
  · rw [constructor]
    refine congrArg (fun fields => [Stmt.ret [.addr (.composite r.typeName fields)]])
      (hall _ _ fun f d hfd => ?_)
    rw [hfd.name, hfd.member]

namespace Registry

variable {g : Registry}

/-! ## All members -/

/-- Fields that match declarations can be read. -/
theorem readable_of_matches {fs : List Field} {ds : List Declaration}
    (h : List.Forall₂ Field.Matches fs ds) :
    ∀ f ∈ fs, ∀ zero, ∃ stmts, Record.readStatements zero f = .ok stmts := by
  induction h with
  | nil =>
    intro f hf
    cases hf
  | cons hfd _ ih =>
    intro f hf
    rcases List.mem_cons.1 hf with rfl | hf
    · exact hfd.readable
    · exact ih f hf

/-- Members that can be declared make fields that match the declarations one by one. -/
theorem exists_fields_of_declareAll {members : List Member} {uri : Option UriPattern}
    {ds : List Declaration} (h : g.declareAll members uri = .ok ds) :
    ds.map (·.member) = members ∧
      ∃ fs, members.mapM g.field = .ok fs ∧ List.Forall₂ Field.Matches fs ds := by
  have heach : List.Forall₂ (fun m d => ∃ target, g.catalog.target m = .ok target ∧
      g.declare m target (Origin.of m) uri = .ok d) members ds :=
    (Outcome.forall₂_of_mapM h).imp fun m d => Outcome.exists_ok_of_bind
  constructor
  · have hmember : List.Forall₂ (fun d m => d.member = m) ds members := by
      refine (heach.imp fun m d hd => ?_).flip
      obtain ⟨target, -, hd⟩ := hd
      obtain ⟨r, hsettled⟩ := exists_settled_of_declare hd
      exact hsettled.member
    have heq : List.Forall₂ (· = ·) (ds.map (·.member)) members :=
      List.forall₂_map_left_iff.2 hmember
    rwa [List.forall₂_eq_eq_eq] at heq
  · refine Outcome.exists_mapM_eq_ok (heach.imp fun m d hd => ?_)
    obtain ⟨target, ht, hd⟩ := hd
    exact exists_field_of_declare ht hd

/-- An input that is not the whole body has a declaration for each member of its structure. -/
theorem exists_declareAll_of_bindOperation {op s : Shape} {i : Input}
    (hinput : op.input.isEmpty = false) (hs : g.catalog.expect op.input = .ok s)
    (h : g.bindOperation op = .ok i) (hkind : i.kind ≠ .wholeBody) :
    ∃ uri, g.declareAll s.memberList uri = .ok i.declarations := by
  obtain ⟨input, hin, h⟩ := Outcome.exists_ok_of_bind h
  -- The structure without members counts as no input at all.
  have hmembers : (input.map (·.memberList)).getD [] = s.memberList := by
    rw [inputShape, hinput, Bool.false_or] at hin
    split at hin
    · rename_i hunit
      rw [beq_iff_eq] at hunit
      rw [hunit] at hs
      cases hin
      have hexpect : g.catalog.expect ShapeId.unit
          = .ok { id := ShapeId.unit, kind := .structure_ } := by
        have hfind : g.catalog.find? ShapeId.unit = Prelude.find? ShapeId.unit := rfl
        rw [Catalog.expect, hfind]
        rfl
      rw [hexpect] at hs
      cases hs
      rfl
    · rw [hs] at hin
      cases hin
      rfl
  obtain ⟨endpoint, -, h⟩ := Outcome.exists_ok_of_bind h
  rw [hmembers] at h
  simp only at h
  split at h
  · rename_i hempty
    cases h
    rw [List.isEmpty_iff.1 hempty]
    exact ⟨none, rfl⟩
  · split at h
    · cases h
      exact absurd rfl hkind
    · obtain ⟨ds, hds, h⟩ := Outcome.exists_ok_of_bind h
      cases h
      exact ⟨_, hds⟩

theorem ofShape_of_struct {s : Shape} (hk : s.kind = .structure_ ∨ s.kind = .union) :
    g.ofShape s = .ok (.structure_ s) := by
  rw [ofShape, depthBound, resolve]
  rcases hk with hk | hk <;> rw [hk] <;> rfl

/-- The declarations for a structure or union. -/
theorem typeDecl_of_struct {cs : List Contributor} {s : Shape}
    (hk : s.kind = .structure_ ∨ s.kind = .union) :
    g.typeDecl cs s = (g.record s).bind fun r => (structDecl cs r).map some := by
  rw [typeDecl, ofShape_of_struct hk]
  rcases hk with hk | hk <;> rw [hk] <;> rfl

/-- A structure or union whose fields can be settled and read is declared with its constructor. -/
theorem exists_typeDecl {s : Shape} {fs : List Field} (cs : List Contributor)
    (hkind : s.kind = .structure_ ∨ s.kind = .union) (hfs : s.memberList.mapM g.field = .ok fs)
    (hread : ∀ f ∈ fs, ∀ zero, ∃ stmts, Record.readStatements zero f = .ok stmts) :
    ∃ d, g.typeDecl cs s = .ok (some d) ∧ d.name = typeName s ∧
      d.functions.head? = some (Record.constructor { shape := s, fields := fs }) := by
  have hrecord : g.record s = .ok { shape := s, fields := fs } := by
    have henum : s.kind.isEnumeration = false := by
      rcases hkind with h | h <;> rw [h] <;> rfl
    rw [record, henum, hfs]
    rfl
  obtain ⟨reads, hreads⟩ : ∃ reads, fs.mapM (Record.readStatements
      (.composite (Record.typeName { shape := s, fields := fs }) [])) = .ok reads := by
    obtain ⟨reads, hreads, -⟩ := Outcome.exists_mapM_eq_ok (R := fun _ _ => True)
      (List.forall₂_same.2 fun f hf => (hread f hf _).imp fun stmts h => ⟨h, trivial⟩)
    exact ⟨reads, hreads⟩
  have hdecl : ∃ d, structDecl cs { shape := s, fields := fs } = .ok d ∧ d.name = typeName s ∧
      d.functions.head? = some (Record.constructor { shape := s, fields := fs }) := by
    rw [structDecl, Record.fromJson, hreads]
    exact ⟨_, rfl, rfl, rfl⟩
  obtain ⟨d, hd, hname, hhead⟩ := hdecl
  refine ⟨d, ?_, hname, hhead⟩
  rw [typeDecl_of_struct hkind, hrecord]
  exact congrArg (Except.map some) hd

/-- **A constructor takes the arguments of its call.** Where the input of an operation is a structure
or union and is bound otherwise than as the whole body, there is a plan for each of its members in
the order of the members, the type of the input can be declared, and its constructor takes the
variables that the members are bound to. -/
theorem constructor_takes_arguments (cs : List Contributor) {op s : Shape} {i : Input}
    (hinput : op.input.isEmpty = false) (hs : g.catalog.expect op.input = .ok s)
    (hkind : s.kind = .structure_ ∨ s.kind = .union) (h : g.bindOperation op = .ok i)
    (hbound : i.kind ∈ [InputKind.members, .singlePayload, .empty]) :
    i.declarations.map (·.member) = s.memberList ∧
      ∃ d f, g.typeDecl cs s = .ok (some d) ∧ d.name = typeName s ∧
        d.functions.find? (·.name == "New" ++ typeName s) = some f ∧ i.MadeBy (typeName s) f := by
  have hbody : i.kind ≠ .wholeBody := by
    intro hkind
    rw [hkind] at hbound
    exact absurd hbound (by decide)
  obtain ⟨uri, hds⟩ := exists_declareAll_of_bindOperation hinput hs h hbody
  obtain ⟨hmembers, fs, hfs, hmatch⟩ := exists_fields_of_declareAll hds
  obtain ⟨d, hd, hname, hhead⟩ := exists_typeDecl cs hkind hfs (readable_of_matches hmatch)
  have hmade := Record.madeBy_constructor (r := { shape := s, fields := fs }) hmatch
  refine ⟨hmembers, d, _, hd, hname, ?_, hmade⟩
  obtain ⟨rest, hrest⟩ := List.head?_eq_some_iff.1 hhead
  rw [hrest, List.find?_cons_of_pos]
  exact beq_iff_eq.2 hmade.name

/-- A structure with a query parameter that has to be given and a time in the body that need not
be. -/
def putInput : Shape :=
  (({ id := ⟨"ex#PutInput"⟩, kind := .structure_ } : Shape).addMember "fooBar"
    ⟨"smithy.api#String"⟩ (Traits.addAll {} [(Trait.httpQuery, .ofString "foo"),
      (Trait.required, .empty)])).addMember "type" ⟨"smithy.api#Timestamp"⟩ {}

/-- An operation that takes the structure. -/
def put : Shape :=
  { id := ⟨"ex#Put"⟩, kind := .operation, input := ⟨"ex#PutInput"⟩
    traits := Traits.addAll {} [(Trait.http, ⟨.object
      [("method", .string "PUT"), ("uri", .string "/put")]⟩)] }

/-- The constructor of the structure takes a text and a pointer to a time. -/
theorem constructor_takes_arguments_put :
    let g : Registry := { catalog := { entries := OrderedMap.insert {} "ex#PutInput" putInput } }
    ∃ i d f, g.bindOperation put = .ok i ∧ g.typeDecl [] putInput = .ok (some d) ∧
      d.functions.find? (·.name == "New" ++ typeName putInput) = some f ∧
      i.MadeBy (typeName putInput) f ∧ f.params.map (·.type) = ["string", "*time.Time"] := by
  intro g
  obtain ⟨i, hi⟩ : ∃ i, g.bindOperation put = .ok i := ⟨_, rfl⟩
  have hbound : (g.bindOperation put).map (fun i => (i.kind, i.declarations.map (·.type)))
      = .ok (.members, ["string", "*time.Time"]) := by
    rfl
  rw [hi] at hbound
  obtain ⟨hkind, htypes⟩ := Prod.mk.inj (Except.ok.inj hbound)
  obtain ⟨-, d, f, hd, -, hf, hmade⟩ :=
    constructor_takes_arguments [] rfl rfl (.inl rfl) hi (by rw [hkind]; decide)
  exact ⟨i, d, f, hi, hd, hf, hmade, hmade.types.trans htypes⟩

end Registry
end Shapewright
