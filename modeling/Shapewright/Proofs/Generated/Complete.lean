import Shapewright.Proofs.Assembly.Operations
import Shapewright.Proofs.Binding.Resolving
import Shapewright.Proofs.Binding.Services
import Shapewright.Proofs.Generated.Mentions
import Shapewright.Proofs.Generated.Reports
import Shapewright.Proofs.Representation.RoundTrip

/-!
# Which types are declared

The types that generated code mentions come from following members to their targets, at any depth.
The types that are declared come from a list of the shapes of the model.  The two walks meet but for
what the list passes over: the structure of the prelude and mixins, to which members may refer, and
inputs and outputs of operations that are of a kind for which no type is declared.

* `Registry.names` — whether a shape is represented by a type of its own name.
* `Package.Overlooked` — the shapes whose types are mentioned and not declared.
* `Registry.Represents.known` — representations end at shapes that members refer to.
* `Package.mentions_declared` — the payoff: after a run without failures every type that is mentioned
  is declared, unless its shape is overlooked.
-/

set_option autoImplicit false

namespace Shapewright

open Code

/-- A member of some shape of the model refers to a shape. -/
def Catalog.Targeted (c : Catalog) (s : Shape) : Prop :=
  ∃ holder ∈ c.shapes, ∃ m ∈ holder.everyMember, c.find? m.target = some s

/-! ## Representations -/

namespace Registry

variable {g : Registry} {V : Vocabulary} {s : Shape} {m : Member}

/-- Whether a shape is represented by a type of its own name. -/
def names (g : Registry) (s : Shape) : Bool :=
  match builtin? s.kind with
  | some _ => !s.id.isPrelude && !g.options.inlineSimple
  | none => [Kind.enum, .intEnum, .structure_, .union].contains s.kind

theorem names_of_kind (h : s.kind ∈ [Kind.enum, .intEnum, .structure_, .union]) :
    g.names s = true := by
  have hnone : builtin? s.kind = none := by
    simp only [List.mem_cons, List.not_mem_nil, or_false] at h
    rcases h with hk | hk | hk | hk <;> rw [hk] <;> rfl
  rw [names, hnone]
  exact List.contains_iff_mem.2 h

theorem builtin_mem_foreign {kind : Kind} {builtin : String} (h : builtin? kind = some builtin) :
    builtin ∈ foreign := by
  cases kind <;> cases h <;> decide

theorem isOwnType_of_builtin? {kind : Kind} {builtin : String} (h : builtin? kind = some builtin) :
    isOwnType builtin = false := by
  cases kind <;> cases h <;> decide

/-- Members of a shape that is known lead to shapes that members refer to. -/
theorem targeted_of_target {t : Shape} (hs : g.catalog.Knows s)
    (hm : m ∈ s.everyMember) (ht : g.catalog.target m = .ok t) : g.catalog.Targeted t := by
  rcases hs with hs | hs
  · exact ⟨s, hs, m, hm, target_eq_ok_iff.1 ht⟩
  · rw [(Prelude.formed s hs).2] at hm
    cases hm

theorem knows_of_targeted (hc : g.catalog.Imported) (h : g.catalog.Targeted s) :
    g.catalog.Knows s := by
  obtain ⟨_, -, m, -, hfind⟩ := h
  exact hc.knows_of_find? hfind

/-- **A representation** ends at a shape that a member refers to, if it begins at one. -/
theorem Represents.known (hc : g.catalog.Imported)
    (hV : ∀ t, g.catalog.Targeted t → g.names t = true → V.Has (typeName t)) {r : Representation}
    (hs : g.catalog.Targeted s) (h : g.Represents s r) : r.Known V := by
  induction h with
  | simple hb =>
    refine ⟨builtin_mem_foreign hb, fun hnamed => hV _ hs ?_⟩
    rw [names, hb]
    exact hnamed
  | enum hk | intEnum hk => exact hV _ hs (names_of_kind (by simp [hk]))
  | structure_ hk => exact hV _ hs (names_of_kind (by rcases hk with hk | hk <;> simp [hk]))
  | list hk hm ht hr ih | map hk hm ht hr ih =>
    exact ih (targeted_of_target (knows_of_targeted hc hs)
      (Shape.mem_everyMember_of_element? hm) ht)
  | _ => trivial

theorem known_of_ofMember (hc : g.catalog.Imported)
    (hV : ∀ t, g.catalog.Targeted t → g.names t = true → V.Has (typeName t)) {r : Representation}
    (hs : g.catalog.Knows s) (hm : m ∈ s.everyMember) (h : g.ofMember m = .ok r) : r.Known V := by
  obtain ⟨t, ht, hr⟩ := represents_of_ofMember h
  exact hr.known hc hV (targeted_of_target hs hm ht)

/-- An enumeration is represented by itself. -/
theorem ofMember_enum {t : Shape} (ht : g.catalog.target m = .ok t) (hk : t.kind = .enum)
    {r : Representation} (h : g.ofMember m = .ok r) : r = .enum t := by
  obtain ⟨t', ht', hr⟩ := represents_of_ofMember h
  obtain rfl := Except.ok.inj (ht.symm.trans ht')
  cases hr with
  | enum => rfl
  | simple hb =>
    rw [hk] at hb
    cases hb
  | structure_ hk' | list hk' => simp [hk] at hk'
  | timestamp _ hk' => simp [hk] at hk'
  | blob hk' | bigInteger hk' | bigDecimal hk' | document hk' | intEnum hk' | map hk' =>
    simp [hk] at hk'

/-! ## Declarations for a shape -/

theorem shape_of_record {r : Record} (h : g.record s = .ok r) : r.shape = s := by
  unfold record at h
  split at h
  · rw [← Except.ok.inj h]
  · obtain ⟨fs, -, h⟩ := Outcome.exists_ok_of_bind h
    rw [← Except.ok.inj h]

theorem typeName_of_record {r : Record} (h : g.record s = .ok r) : r.typeName = typeName s := by
  rw [Record.typeName, shape_of_record h]

/-- **A record** of the model mentions the types of the shapes that its members refer to. -/
theorem known_of_record (hc : g.catalog.Imported)
    (hV : ∀ t, g.catalog.Targeted t → g.names t = true → V.Has (typeName t))
    (hs : s ∈ g.catalog.shapes) (hname : V.Has (typeName s)) {r : Record}
    (h : g.record s = .ok r) : r.Known V := by
  refine ⟨by rwa [typeName_of_record h], fun f hf t ht => ?_⟩
  unfold record at h
  split at h
  · obtain rfl := Except.ok.inj h
    obtain ⟨m, -, rfl⟩ := List.mem_map.1 hf
    cases ht
  · obtain ⟨fs, hfs, h⟩ := Outcome.exists_ok_of_bind h
    obtain rfl := Except.ok.inj h
    obtain ⟨m, hm, hfield⟩ := Outcome.exists_mem_of_mapM hfs f hf
    have hm : m ∈ s.everyMember := List.mem_append_left _ hm
    obtain ⟨target, htarget, hfield⟩ := Outcome.exists_ok_of_bind hfield
    obtain ⟨representation, hr, hfield⟩ := Outcome.exists_ok_of_bind hfield
    have hr := Outcome.at_eq_ok.1 hr
    rw [← Except.ok.inj hfield] at ht ⊢
    cases ht
    exact ⟨known_of_ofMember hc hV (.inl hs) hm hr, rfl, fun hk => ofMember_enum htarget hk hr⟩

/-- **What is declared for a shape** of the model mentions the types of the shapes that its members
refer to. -/
theorem within_of_typeDecl (hc : g.catalog.Imported)
    (hV : ∀ t, g.catalog.Targeted t → g.names t = true → V.Has (typeName t))
    (hs : s ∈ g.catalog.shapes) (hname : g.names s = true → V.Has (typeName s))
    {cs : List Contributor} {d : TypeDecl} (h : g.typeDecl cs s = .ok (some d)) : d.Within V := by
  obtain ⟨r, hr, h⟩ := Outcome.exists_ok_of_bind h
  have hsimple {builtin : String} (hb : r.builtin? = some builtin) : TypeWithin V builtin :=
    typeWithin_foreign (builtin_mem_foreign ((represents_of_resolve hr).builtin?_eq ▸ hb))
  have hrecord (hk : s.kind ∈ [Kind.enum, .intEnum, .structure_, .union]) {r : Record}
      (hr : g.record s = .ok r) : r.Known V :=
    known_of_record hc hV hs (hname (names_of_kind hk)) hr
  split at h
  · rename_i hk
    obtain ⟨record, hr, h⟩ := Outcome.exists_ok_of_bind h
    obtain rfl := Option.some.inj (Except.ok.inj h)
    exact within_enumDecl (hrecord (by rw [hk]; decide) hr) cs
  · rename_i hk
    obtain ⟨record, hr, h⟩ := Outcome.exists_ok_of_bind h
    obtain ⟨d', hd', h⟩ := Outcome.exists_ok_of_bind h
    obtain rfl := Option.some.inj (Except.ok.inj h)
    exact within_intEnumDecl (hrecord (by rw [hk]; decide) hr) hd'
  · rename_i hk
    obtain ⟨record, hr, h⟩ := Outcome.exists_ok_of_bind h
    obtain ⟨d', hd', h⟩ := Outcome.exists_ok_of_bind h
    obtain rfl := Option.some.inj (Except.ok.inj h)
    exact within_structDecl (hrecord (by rw [hk]; decide) hr) hd'
  · rename_i hk
    obtain ⟨record, hr, h⟩ := Outcome.exists_ok_of_bind h
    obtain ⟨d', hd', h⟩ := Outcome.exists_ok_of_bind h
    obtain rfl := Option.some.inj (Except.ok.inj h)
    exact within_structDecl (hrecord (by rw [hk]; decide) hr) hd'
  · split at h
    · rename_i builtin hb
      split at h
      · cases Except.ok.inj h
      · obtain rfl := Option.some.inj (Except.ok.inj h)
        refine TypeDecl.within_iff.2 ⟨?_, by simp⟩
        exact List.forall_mem_singleton.2 (hsimple hb)
    · cases Except.ok.inj h

theorem name_of_structDecl {r : Record} {cs : List Contributor} {d : TypeDecl}
    (h : structDecl cs r = .ok d) : d.name = r.typeName := by
  obtain ⟨fromJson, -, h⟩ := Outcome.exists_ok_of_bind h
  rw [← Except.ok.inj h]

/-- **A type of its own name** is declared, where something can be declared at all. -/
theorem exists_typeDecl_of_names {cs : List Contributor} (hnames : g.names s = true)
    {d? : Option TypeDecl} (h : g.typeDecl cs s = .ok d?) (hown : isOwnType (typeName s) = true) :
    ∃ d, d? = some d ∧ d.name = typeName s := by
  obtain ⟨r, hr, h⟩ := Outcome.exists_ok_of_bind h
  split at h
  · obtain ⟨record, hr, h⟩ := Outcome.exists_ok_of_bind h
    exact ⟨_, (Except.ok.inj h).symm, typeName_of_record hr⟩
  · obtain ⟨record, hr, h⟩ := Outcome.exists_ok_of_bind h
    obtain ⟨d, hd, h⟩ := Outcome.exists_ok_of_bind h
    obtain ⟨constants, -, hd⟩ := Outcome.exists_ok_of_bind hd
    refine ⟨d, (Except.ok.inj h).symm, ?_⟩
    rw [← Except.ok.inj hd]
    exact typeName_of_record hr
  · obtain ⟨record, hr, h⟩ := Outcome.exists_ok_of_bind h
    obtain ⟨d, hd, h⟩ := Outcome.exists_ok_of_bind h
    exact ⟨d, (Except.ok.inj h).symm, (name_of_structDecl hd).trans (typeName_of_record hr)⟩
  · obtain ⟨record, hr, h⟩ := Outcome.exists_ok_of_bind h
    obtain ⟨d, hd, h⟩ := Outcome.exists_ok_of_bind h
    exact ⟨d, (Except.ok.inj h).symm, (name_of_structDecl hd).trans (typeName_of_record hr)⟩
  · -- The kinds that are left have a name only if they are simple, and then one that is not built in.
    rename_i henum hintEnum hstructure hunion
    rw [names] at hnames
    cases hb : builtin? s.kind with
    | none =>
      rw [hb] at hnames
      have hkind : s.kind ∈ [Kind.enum, .intEnum, .structure_, .union] :=
        List.contains_iff_mem.1 hnames
      simp only [List.mem_cons, List.not_mem_nil, or_false] at hkind
      rcases hkind with hk | hk | hk | hk
      · exact (henum hk).elim
      · exact (hintEnum hk).elim
      · exact (hstructure hk).elim
      · exact (hunion hk).elim
    | some builtin =>
      rw [hb] at hnames
      have hnamed : (!s.id.isPrelude && !g.options.inlineSimple) = true := hnames
      rw [ofShape, depthBound, resolve_simple hb, hnamed] at hr
      obtain rfl := Except.ok.inj hr
      have hdiffers : typeName s ≠ builtin := by
        intro heq
        rw [heq, isOwnType_of_builtin? hb] at hown
        cases hown
      have hdecl : (if (typeName s == builtin) = true then pure none else pure (some
          { name := typeName s, doc := s.documentation, body := .builtin builtin : TypeDecl }) :
          Outcome (Option TypeDecl)) = .ok d? := h
      rw [if_neg (by simpa using hdiffers)] at hdecl
      exact ⟨_, (Except.ok.inj hdecl).symm, rfl⟩

/-! ## Operations -/

/-- A shape whose type is mentioned and not declared. -/
inductive Overlooked (g : Registry) : Shape → Prop where
  /-- A member refers to the structure of the prelude, or to a mixin. -/
  | target {s : Shape} : g.catalog.Targeted s →
      s.id = ShapeId.unit ∨ s.traits.has Trait.mixin = true → Overlooked g s
  /-- An operation takes or yields a mixin, or what has no type of its own name. -/
  | endpoint {op s : Shape} : op ∈ g.catalog.shapes →
      g.catalog.find? op.input = some s ∨ g.catalog.find? op.output = some s →
      s.traits.has Trait.mixin = true ∨ g.names s = false → Overlooked g s

theorem find?_of_inputShape {op : Shape} (h : g.inputShape op = .ok (some s)) :
    op.input ≠ ShapeId.unit ∧ g.catalog.find? op.input = some s := by
  unfold inputShape at h
  split at h
  · cases Except.ok.inj h
  · rename_i hnone
    obtain ⟨s', hs', heq⟩ := Outcome.exists_ok_of_map h
    obtain rfl := Option.some.inj heq
    refine ⟨fun hunit => hnone (by simp [hunit]), ?_⟩
    exact Catalog.find?_of_expect (Outcome.at_eq_ok.1 hs')

theorem find?_of_outputOf {op : Shape} {type : String} (h : g.outputOf op = .ok (some type)) :
    ∃ s, op.output ≠ ShapeId.unit ∧ g.catalog.find? op.output = some s ∧ typeName s = type := by
  unfold outputOf at h
  split at h
  · cases Except.ok.inj h
  · rename_i hnone
    obtain ⟨s, hs, h⟩ := Outcome.exists_ok_of_bind h
    obtain rfl := Option.some.inj (Except.ok.inj h)
    refine ⟨s, fun hunit => hnone (by simp [hunit]), ?_, rfl⟩
    exact Catalog.find?_of_expect (Outcome.at_eq_ok.1 hs)

theorem of_serve {i : Input} {o : Operation} (h : g.serve i = .ok o) :
    o.input = i ∧ g.outputOf i.operation = .ok o.output := by
  obtain ⟨⟨method, route, code⟩, -, h⟩ := Outcome.exists_ok_of_bind h
  obtain ⟨output, houtput, h⟩ := Outcome.exists_ok_of_bind h
  rw [← Except.ok.inj h]
  exact ⟨rfl, houtput⟩

/-- The operations that are served come from plans for operations of the service. -/
theorem of_mem_serviceOperations {service : Shape} {o : Operation}
    (h : o ∈ (g.serviceOperations service).1) : ∃ ops op i,
      g.catalog.operations service.id = .ok ops ∧ op ∈ ops ∧ g.bindOperation op = .ok i ∧
        g.serve i = .ok o := by
  have hserved {is : List Input} (h : o ∈ (g.serveEach is).1) : ∃ i ∈ is, g.serve i = .ok o := by
    induction is with
    | nil => cases h
    | cons i is ih =>
      rw [serveEach] at h
      simp only at h
      split at h
      · rename_i o' ho'
        rcases List.mem_cons.1 h with rfl | h
        · exact ⟨i, by simp, ho'⟩
        · obtain ⟨j, hj, ho⟩ := ih h
          exact ⟨j, List.mem_cons_of_mem _ hj, ho⟩
      · obtain ⟨j, hj, ho⟩ := ih h
        exact ⟨j, List.mem_cons_of_mem _ hj, ho⟩
  unfold serviceOperations at h
  split at h
  · cases h
  · rename_i inputs failure hbind
    obtain ⟨i, hi, hserve⟩ := hserved h
    obtain ⟨ops, hops, hbind⟩ := Outcome.exists_ok_of_bind hbind
    have hinputs : (g.bindEach ops).1 = inputs := congrArg Prod.fst (Except.ok.inj hbind)
    rw [← hinputs, bindEach_eq] at hi
    obtain ⟨hop, hi⟩ := mem_filterMap_bindOperation.1 hi
    exact ⟨ops, i.operation, i, hops, hop, hi, hserve⟩

/-- The declarations for services list the operations that are served. -/
theorem of_mem_serviceDeclsFrom {bound : List String} {services : List Shape} {d : ServiceDecl}
    (h : d ∈ (g.serviceDeclsFrom bound services).1) : ∃ s ∈ services,
      d.name = Naming.exported s.id.name ∧ d.operations = (g.serviceOperations s).1 ∧
        ∀ o ∈ d.binds, o ∈ d.operations := by
  induction services generalizing bound with
  | nil => cases h
  | cons s services ih =>
    rw [serviceDeclsFrom] at h
    rcases List.mem_cons.1 h with rfl | h
    · refine ⟨s, by simp, rfl, rfl, fun o ho => ?_⟩
      exact (Text.firstBy_sublist _ _).mem (List.mem_filter.1 ho).1
    · obtain ⟨s', hs', hd⟩ := ih h
      exact ⟨s', List.mem_cons_of_mem _ hs', hd⟩

end Registry
/-! ## Packages -/

namespace Package

/-- What the files of a package mention. -/
def mentions (p : Package) : List Mention :=
  p.declared.flatMap (·.mentions) ++ p.registry.serviceDecls.1.flatMap (·.mentions)

/-- Why a type may be mentioned: it is declared among the types, its shape is overlooked, or it is the
interface of a service, which is declared with the server. -/
def Accounts (p : Package) (type : String) : Prop :=
  (∃ d ∈ p.declared, d.name = type) ∨
    (∃ s, p.registry.Overlooked s ∧ typeName s = type) ∨
    ∃ s ∈ p.registry.catalog.services, Naming.exported s.id.name = type

/-- Why a function may be called: its type may be mentioned, or it binds the input of an operation. -/
def Calls (p : Package) (function : String) : Prop :=
  (∃ type, function ∈ functionsOf type ∧ (isOwnType type = true → p.Accounts type)) ∨
    ∃ d ∈ p.registry.serviceDecls.1, ∃ o ∈ d.operations, o.bindName = function

/-- What the files of a package may mention. -/
def vocabulary (p : Package) : Vocabulary := ⟨p.Accounts, p.Calls⟩

variable {p : Package} {s : Shape}

theorem has_of_accounts (h : isOwnType (typeName s) = true → p.Accounts (typeName s)) :
    p.vocabulary.Has (typeName s) where
  type := by
    have hbase : baseType (typeName s) = typeName s := baseType_exported _
    intro hown
    rw [hbase] at hown ⊢
    exact h hown
  calls := fun f hf => .inl ⟨_, hf, h⟩

/-- Where no failure is reported, every declaration could be made. -/
theorem exists_typeDecl_of_typeFailures (hfail : p.typeFailures = []) (hs : s ∈ p.shapes) :
    ∃ d?, p.registry.typeDecl p.contributors s = .ok d? := by
  cases hd : p.registry.typeDecl p.contributors s with
  | ok d? => exact ⟨d?, rfl⟩
  | error f =>
    have hmem : Failure.within (.shape s.id) f ∈ p.typeFailures :=
      List.mem_filterMap.2 ⟨(s, .error f), List.mem_map.2 ⟨s, hs, by rw [hd]⟩, rfl⟩
    rw [hfail] at hmem
    cases hmem

/-- What is declared is declared for a shape. -/
theorem exists_typeDecl_of_mem_declared {d : TypeDecl} (h : d ∈ p.declared) :
    ∃ s ∈ p.shapes, p.registry.typeDecl p.contributors s = .ok (some d) := by
  obtain ⟨⟨s, decl⟩, hmem, hd⟩ := List.mem_filterMap.1 h
  obtain ⟨s', hs, heq⟩ := List.mem_map.1 hmem
  obtain ⟨rfl, rfl⟩ := Prod.mk.inj heq
  cases htype : p.registry.typeDecl p.contributors s' with
  | error => simp [htype, Except.toOption] at hd
  | ok d? =>
    simp only [htype, Except.toOption, Option.join_some] at hd
    exact ⟨s', hs, by rw [htype, hd]⟩

theorem mem_shapes_iff : s ∈ p.shapes ↔ s ∈ p.registry.catalog.shapes ∧
    s.traits.has Trait.mixin = false ∧ s.kind ∈ declaredKinds ∧ s.id.isPrelude = false := by
  have hselect (sorted : Bool) : s ∈ p.registry.catalog.select sorted declaredKinds ↔
      s ∈ p.registry.catalog.shapes ∧ s.traits.has Trait.mixin = false ∧ s.kind ∈ declaredKinds := by
    cases sorted <;> simp [Catalog.select]
  rw [shapes, List.mem_filter, hselect]
  simp [and_assoc]

/-- **A type of its own name** is accounted for where its shape is one of the model and not a
mixin. -/
theorem accounts_of_mem (hc : p.registry.catalog.Imported) (hfail : p.typeFailures = [])
    (hs : s ∈ p.registry.catalog.shapes) (hnames : p.registry.names s = true)
    (hmixin : s.traits.has Trait.mixin = false) (hown : isOwnType (typeName s) = true) :
    p.Accounts (typeName s) := by
  have hkind : s.kind ∈ declaredKinds := by
    unfold Registry.names at hnames
    cases hk : s.kind <;> rw [hk] at hnames <;> first | decide | cases hnames
  have hmem : s ∈ p.shapes := mem_shapes_iff.2 ⟨hs, hmixin, hkind, hc.own s hs⟩
  obtain ⟨d?, hd?⟩ := exists_typeDecl_of_typeFailures hfail hmem
  obtain ⟨d, rfl, hname⟩ := Registry.exists_typeDecl_of_names hnames hd? hown
  refine .inl ⟨d, List.mem_filterMap.2 ⟨(s, .ok (some d)), ?_, rfl⟩, hname⟩
  exact List.mem_map.2 ⟨s, hmem, by rw [hd?]⟩

/-- The only shape of the prelude with a type of its own name is the structure. -/
theorem eq_unit_of_names {g : Registry} (hs : s ∈ Prelude.shapes) (hnames : g.names s = true) :
    s.id = ShapeId.unit := by
  have hprelude : ∀ s ∈ Prelude.shapes, s.id = ShapeId.unit ∨
      s.kind ∉ [Kind.enum, .intEnum, .structure_, .union] := by decide
  rcases hprelude s hs with hunit | hkind
  · exact hunit
  · unfold Registry.names at hnames
    split at hnames
    · rw [Prelude.isPrelude_of_mem hs] at hnames
      cases hnames
    · exact absurd (List.contains_iff_mem.1 hnames) hkind

/-- What members refer to is accounted for. -/
theorem has_of_targeted (hc : p.registry.catalog.Imported) (hfail : p.typeFailures = [])
    (ht : p.registry.catalog.Targeted s) (hnames : p.registry.names s = true) :
    p.vocabulary.Has (typeName s) := by
  refine has_of_accounts fun hown => ?_
  by_cases hmixin : s.traits.has Trait.mixin = true
  · exact .inr (.inl ⟨s, .target ht (.inr hmixin), rfl⟩)
  · rcases Registry.knows_of_targeted hc ht with hs | hs
    · exact accounts_of_mem hc hfail hs hnames (by simpa using hmixin) hown
    · exact .inr (.inl ⟨s, .target ht (.inl (eq_unit_of_names hs hnames)), rfl⟩)

/-- What an operation takes or yields is accounted for. -/
theorem has_of_endpoint (hc : p.registry.catalog.Imported) (hfail : p.typeFailures = [])
    {op : Shape} (hop : op ∈ p.registry.catalog.shapes) {id : ShapeId}
    (hid : id = op.input ∨ id = op.output) (hunit : id ≠ ShapeId.unit)
    (hfind : p.registry.catalog.find? id = some s) : p.vocabulary.Has (typeName s) := by
  refine has_of_accounts fun hown => ?_
  have hoverlooked (h : s.traits.has Trait.mixin = true ∨ p.registry.names s = false) :
      p.Accounts (typeName s) := by
    refine .inr (.inl ⟨s, .endpoint hop ?_ h, rfl⟩)
    rcases hid with rfl | rfl
    · exact .inl hfind
    · exact .inr hfind
  cases hnames : p.registry.names s with
  | false => exact hoverlooked (.inr hnames)
  | true =>
    by_cases hmixin : s.traits.has Trait.mixin = true
    · exact hoverlooked (.inl hmixin)
    · rcases hc.knows_of_find? hfind with hs | hs
      · exact accounts_of_mem hc hfail hs hnames (by simpa using hmixin) hown
      · -- The structure of the prelude stands for no input and no output.
        exact absurd ((hc.id_of_find? hfind).symm.trans (eq_unit_of_names hs hnames)) hunit

/-- **What the types mention** is accounted for. -/
theorem within_declared (hc : p.registry.catalog.Imported) (hfail : p.typeFailures = [])
    {d : TypeDecl} (hd : d ∈ p.declared) : d.Within p.vocabulary := by
  obtain ⟨s, hs, hd⟩ := exists_typeDecl_of_mem_declared hd
  obtain ⟨hown, hmixin, -⟩ := mem_shapes_iff.1 hs
  refine Registry.within_of_typeDecl hc (fun t => has_of_targeted hc hfail) hown (fun hnames => ?_) hd
  exact has_of_accounts (accounts_of_mem hc hfail hown hnames hmixin)

/-- **What a server mentions** is accounted for. -/
theorem within_serviceDecls (hc : p.registry.catalog.Imported) (hfail : p.typeFailures = [])
    {d : ServiceDecl} (hd : d ∈ p.registry.serviceDecls.1) :
    ∀ m ∈ d.mentions, m.Within p.vocabulary := by
  obtain ⟨service, hservice, hname, hops, hbinds⟩ := Registry.of_mem_serviceDeclsFrom hd
  refine ServiceDecl.within ?_ (fun o ho => ?_) hbinds
  · rw [hname]
    intro _
    exact .inr (.inr ⟨service, hservice, (baseType_exported _).symm⟩)
  · obtain ⟨ops, op, i, hall, hop, hbind, hserve⟩ := Registry.of_mem_serviceOperations (hops ▸ ho)
    have hop := hc.mem_shapes_of_operations hall op hop
    obtain ⟨hoperation, hshape, hdeclarations, -⟩ := Registry.of_bindOperation hbind
    obtain ⟨rfl, houtput⟩ := Registry.of_serve hserve
    refine ⟨fun s hs => ?_, fun t ht => ?_, fun d' hd' => ?_, .inr ⟨d, hd, o, ho, rfl⟩⟩
    · obtain ⟨hunit, hfind⟩ := Registry.find?_of_inputShape (hs ▸ hshape)
      exact has_of_endpoint hc hfail hop (.inl rfl) hunit hfind
    · rw [hoperation, Option.mem_def.1 ht] at houtput
      obtain ⟨s, hunit, hfind, rfl⟩ := Registry.find?_of_outputOf houtput
      exact (has_of_endpoint hc hfail hop (.inr rfl) hunit hfind).type
    · obtain ⟨s, hs, m, hm, target, origin, uri, r, hsettled⟩ := hdeclarations d' hd'
      have hknown := hc.knows_of_find? (Registry.find?_of_inputShape (hs ▸ hshape)).2
      refine hsettled.within (Registry.known_of_ofMember hc
        (fun t => has_of_targeted hc hfail) hknown ?_ hsettled.represented)
      exact List.mem_append_left _ hm

/-- **Generated types are complete.** After a run that reports no failure, for the catalog of any
assembly and with any options, every type that is mentioned anywhere in the files is predeclared, of
another package, or accounted for, and so is the type of every function that is called. A line of an
interface mentions what the function does whose head it is. -/
theorem mentions_declared {a : Assembly} {c : Catalog} (hc : a.toCatalog.run.1 = .ok c)
    {cs : List Contributor} {conf : Config} {o : Output}
    (h : (Generator.code.run c cs conf o).2 = none) :
    (∀ text, .type text ∈ (ofConfig c cs conf).mentions → isOwnType (baseType text) = true →
      (ofConfig c cs conf).Accounts (baseType text)) ∧
    (∀ name, .function name ∈ (ofConfig c cs conf).mentions → isOwnFunction name = true →
      (ofConfig c cs conf).Calls name) ∧
    ∀ d ∈ (ofConfig c cs conf).registry.serviceDecls.1, ∀ o ∈ d.operations,
      o.interfaceMethod.signature = "func " ++ o.signature := by
  have hc : c.Imported := Catalog.imported_of_gives ⟨[], hc⟩
  have hfail := typeFailures_of_run h
  have hall : ∀ m ∈ (ofConfig c cs conf).mentions, m.Within (ofConfig c cs conf).vocabulary :=
    List.forall_mem_append.2
      ⟨forall_mem_flatMap_iff.2 fun d hd => within_declared hc hfail hd,
        forall_mem_flatMap_iff.2 fun d hd => within_serviceDecls hc hfail hd⟩
  exact ⟨fun text => hall (.type text), fun name => hall (.function name),
    fun _ _ o _ => o.signature_interfaceMethod⟩

/-- An assembly with an enumeration. -/
def hues : Assembly :=
  ({ version := "2.0" } : Assembly).insert "ex#Hue" (some { type := "enum" })

/-- Its catalog. -/
def huesCatalog : Catalog :=
  { entries := OrderedMap.insert {} "ex#Hue" { id := ⟨"ex#Hue"⟩, kind := .enum } }

/-- The function that reads a hue yields one, so its type is declared. -/
theorem mentions_declared_hues :
    hues.toCatalog.run.1 = .ok huesCatalog ∧
      (Generator.code.run huesCatalog [] {} {}).2 = none ∧
      .type "Hue" ∈ (ofConfig huesCatalog [] {}).mentions ∧
      (ofConfig huesCatalog [] {}).Accounts "Hue" := by
  have hc : hues.toCatalog.run.1 = .ok huesCatalog := by rfl
  have hbody : isSourceText (ofConfig huesCatalog [] {}).typesFile.body = true := by
    have hlines : (ofConfig huesCatalog [] {}).typesFile.body = String.join [
        "type Hue string\n\nconst (\n)\n\n",
        "// ParseHue returns s as a Hue, if it is one of the enum values.\n",
        "func ParseHue(field string, s string) (Hue, error) \x7b\n",
        "\treturn \"\", &runtime.ParseError\x7bField: field, Kind: \"enum\", Value: s\x7d\n\x7d\n"] := by
      decide +kernel
    rw [hlines]
    exact isSourceText_join (by decide +kernel)
  have hrun : (Generator.code.run huesCatalog [] {} {}).2 = none := by
    refine run_of_reported rfl rfl (reported_eq_nil_iff.2 ⟨⟨?_, by decide +kernel, ?_⟩, by decide⟩)
    · exact List.length_eq_zero_iff.1 (by decide +kernel)
    · exact SourceFile.isSome_tidy? (by decide +kernel) (by decide +kernel) (by decide +kernel) hbody
  have hmem : .type "Hue" ∈ (ofConfig huesCatalog [] {}).mentions := by decide +kernel
  have hbase : baseType "Hue" = "Hue" := by decide +kernel
  have haccounts := (mentions_declared hc hrun).1 "Hue" hmem (by decide +kernel)
  rw [hbase] at haccounts
  exact ⟨hc, hrun, hmem, haccounts⟩

/-- A union one of whose members stands for itself. -/
def choices : Assembly :=
  ({ version := "2.0", cells := [{ target := "Unit" }] } : Assembly).insert "ex#Choice"
    (some { type := "union", members := some (.insert {} "none" (some 0)) })

/-- Its catalog. -/
def choicesCatalog : Catalog :=
  { entries := OrderedMap.insert {} "ex#Choice"
      (({ id := ⟨"ex#Choice"⟩, kind := .union } : Shape).addMember "none" ⟨"smithy.api#Unit"⟩ {}) }

/-- **The structure of the prelude** is the type of a field and is read from documents, and nothing is
declared for it, though everything could be declared that was to be. -/
theorem unit_not_declared_choices :
    choices.toCatalog.run.1 = .ok choicesCatalog ∧
      (ofConfig choicesCatalog [] {}).typeFailures.length = 0 ∧
      .type "*Unit" ∈ (ofConfig choicesCatalog [] {}).mentions ∧
      .function "UnitFromJSON" ∈ (ofConfig choicesCatalog [] {}).mentions ∧
      isOwnType (baseType "*Unit") = true ∧
      (ofConfig choicesCatalog [] {}).declared.map (·.name) = ["Choice"] := by
  refine ⟨by rfl, ?_, ?_, ?_, ?_, ?_⟩
  all_goals decide +kernel

end Package
end Shapewright
