import Mathlib.Data.List.Perm.Basic
import Shapewright.Proofs.Generated.Complete
import Shapewright.Proofs.Generated.FunctionName

/-!
# Identifiers of generated packages

Everything that the files of a package declare shares one scope.  Names of the model lose their
separators on the way there, and functions are named for the types and services that they belong to, so
things that the model tells apart may meet.  This file says when they do.

* `freeNames` — the functions of a list that are no methods; those along with one type are always told
  apart (`Registry.freeNames_of_typeDecl`).
* `Package.identifiers` — everything that is declared for the scope of the package: `Package.names`,
  which stand for shapes and their members, and the functions that `Package.declares` lists.
* `Package.nodup_identifiers_iff` — the three ways in which identifiers meet.
* `Package.bindFunctions_eq` — operations whose names meet share a function.
* `Package.identifiers_and_bindFunctions` — both together.
-/

set_option autoImplicit false

namespace Shapewright

open Code

/-! ## Functions of a type -/

/-- The names of functions that belong to no type. -/
def freeNames (fs : List Function) : List String :=
  (fs.filter (·.receiver.isNone)).map (·.name)

theorem freeNames_append (fs gs : List Function) :
    freeNames (fs ++ gs) = freeNames fs ++ freeNames gs := by
  rw [freeNames, List.filter_append, List.map_append]
  rfl

namespace Contributor

/-- The kind of shapes that a contributor has methods for. -/
def kind : Contributor → Kind
  | .unitEnum => .enum
  | .unitConversion => .structure_

/-- The functions that are added for a shape of some kind. -/
def functionsFor (kind : Kind) (type : String) : List FunctionName :=
  match kind with
  | .enum => [.find type]
  | .structure_ => [.parse type]
  | _ => []

theorem of_methods? {c : Contributor} {r : Record} {fs : List Function} (h : c.methods? r = some fs) :
    r.shape.kind = c.kind ∧
      freeNames fs = (functionsFor c.kind r.typeName).map FunctionName.text := by
  cases c with
  | unitEnum =>
    obtain ⟨units, hunits, rfl⟩ := Option.map_eq_some_iff.1 h
    refine ⟨?_, rfl⟩
    unfold Units.unitsOf? at hunits
    split at hunits
    · cases hunits
    · rename_i hkind
      simp only [Bool.or_eq_true, bne_iff_ne, ne_eq, not_or, not_not] at hkind
      exact hkind.1
  | unitConversion =>
    obtain ⟨q, hq, rfl⟩ := Option.map_eq_some_iff.1 h
    refine ⟨?_, rfl⟩
    unfold Units.quantityOf? at hq
    split at hq
    · assumption
    · cases hq

/-- At most one of several contributors has something for a record. -/
theorem freeNames_contribute {cs : List Contributor} (hcs : cs.Nodup) (r : Record) :
    ∃ functions : List FunctionName,
      functions.Sublist (functionsFor r.shape.kind r.typeName) ∧
        freeNames (contribute cs r) = functions.map FunctionName.text := by
  have hcons (c : Contributor) (cs : List Contributor) :
      contribute (c :: cs) r = (c.methods? r).getD [] ++ contribute cs r := rfl
  induction cs with
  | nil => exact ⟨[], List.nil_sublist _, rfl⟩
  | cons c cs ih =>
    obtain ⟨hc, hcs⟩ := List.nodup_cons.1 hcs
    cases hmethods : c.methods? r with
    | none =>
      rw [hcons, hmethods]
      exact ih hcs
    | some fs =>
      obtain ⟨hkind, hfree⟩ := of_methods? hmethods
      -- Contributors are for different kinds, so the others have nothing for this record.
      have hnil : contribute cs r = [] := by
        refine List.flatMap_eq_nil_iff.2 fun c' hc' => ?_
        cases hmethods' : c'.methods? r with
        | none => rfl
        | some _ =>
          have hkinds : c.kind = c'.kind := hkind.symm.trans (of_methods? hmethods').1
          have heq : c = c' := by
            cases c <;> cases c' <;> first | rfl | cases hkinds
          exact absurd (heq ▸ hc') hc
      rw [hcons, hmethods, hnil, List.append_nil]
      exact ⟨_, .refl _, hkind ▸ hfree⟩

end Contributor

namespace TypeBody

/-- The constants of a type. -/
def constants : TypeBody → List String
  | .builtin _ | .struct _ => []
  | .integers constants | .texts constants => constants.map (·.1)

end TypeBody

namespace TypeDecl

/-- The functions that are declared along with a type and are no methods. -/
def freeFunctions (d : TypeDecl) : List Function := d.functions.filter (·.receiver.isNone)

/-- The type and its constants. -/
def names (d : TypeDecl) : List String := d.name :: d.body.constants

/-- The functions along with a type by what they are for. -/
def declares (d : TypeDecl) : List FunctionName :=
  (FunctionName.ofType d.name).filter fun a => (freeNames d.functions).contains a.text

theorem subject_of_mem_declares {d : TypeDecl} {a : FunctionName} (h : a ∈ d.declares) :
    a.subject = d.name :=
  FunctionName.subject_of_mem_ofType (List.mem_filter.1 h).1

end TypeDecl

namespace Registry

variable {g : Registry} {cs : List Contributor} {s : Shape} {r : Record} {d : TypeDecl}

theorem freeNames_of_structDecl (h : structDecl cs r = .ok d) : d.name = r.typeName ∧
    freeNames d.functions =
      [FunctionName.new r.typeName, .fromJson r.typeName].map FunctionName.text ++
        freeNames (Contributor.contribute cs r) := by
  obtain ⟨f, hf, h⟩ := Outcome.exists_ok_of_bind h
  obtain ⟨_, -, hf⟩ := Outcome.exists_ok_of_bind hf
  rw [← Except.ok.inj h, ← Except.ok.inj hf]
  exact ⟨rfl, freeNames_append _ _⟩

/-- **The functions along with a type** are some of those that there may be, each once. -/
theorem freeNames_of_typeDecl (hcs : cs.Nodup) (h : g.typeDecl cs s = .ok (some d)) :
    ∃ functions : List FunctionName, functions.Sublist (FunctionName.ofType d.name) ∧
      freeNames d.functions = functions.map FunctionName.text := by
  -- A declaration has functions of its own, and behind them those that contributors add.
  have hadded {r : Record} (hr : g.record s = .ok r) (own : List FunctionName)
      (hsub : (own ++ Contributor.functionsFor s.kind r.typeName).Sublist
        (FunctionName.ofType r.typeName)) :
      ∃ functions : List FunctionName, functions.Sublist (FunctionName.ofType r.typeName) ∧
        own.map FunctionName.text ++ freeNames (Contributor.contribute cs r) =
          functions.map FunctionName.text := by
    obtain ⟨added, hsubAdded, hadded⟩ := Contributor.freeNames_contribute hcs r
    rw [shape_of_record hr] at hsubAdded
    refine ⟨own ++ added, (hsubAdded.append_left own).trans hsub, ?_⟩
    rw [hadded, List.map_append]
  obtain ⟨r, -, h⟩ := Outcome.exists_ok_of_bind h
  split at h
  · rename_i hk
    obtain ⟨record, hr, h⟩ := Outcome.exists_ok_of_bind h
    obtain rfl := Option.some.inj (Except.ok.inj h)
    have hparse : freeNames (enumDecl cs record).functions =
        [FunctionName.parse record.typeName].map FunctionName.text ++
          freeNames (Contributor.contribute cs record) := freeNames_append [_] _
    rw [hparse]
    exact hadded hr _ (by rw [hk]; exact .cons _ (.cons _ (.refl _)))
  · rename_i hk
    obtain ⟨record, hr, h⟩ := Outcome.exists_ok_of_bind h
    obtain ⟨d', hd', h⟩ := Outcome.exists_ok_of_bind h
    obtain rfl := Option.some.inj (Except.ok.inj h)
    obtain ⟨constants, -, hd'⟩ := Outcome.exists_ok_of_bind hd'
    obtain rfl := Except.ok.inj hd'
    exact hadded hr [] (by rw [hk]; exact List.nil_sublist _)
  · rename_i hk
    obtain ⟨record, hr, h⟩ := Outcome.exists_ok_of_bind h
    obtain ⟨d', hd', h⟩ := Outcome.exists_ok_of_bind h
    obtain rfl := Option.some.inj (Except.ok.inj h)
    obtain ⟨hname, hfree⟩ := freeNames_of_structDecl hd'
    rw [hname, hfree]
    exact hadded hr _ (by rw [hk]; exact .cons_cons _ (.cons_cons _ (.cons_cons _ (.cons _ .slnil))))
  · rename_i hk
    obtain ⟨record, hr, h⟩ := Outcome.exists_ok_of_bind h
    obtain ⟨d', hd', h⟩ := Outcome.exists_ok_of_bind h
    obtain rfl := Option.some.inj (Except.ok.inj h)
    obtain ⟨hname, hfree⟩ := freeNames_of_structDecl hd'
    rw [hname, hfree]
    exact hadded hr _ (by rw [hk]; exact .cons_cons _ (.cons_cons _ (List.nil_sublist _)))
  · split at h
    · split at h
      · cases Except.ok.inj h
      · obtain rfl := Option.some.inj (Except.ok.inj h)
        exact ⟨[], List.nil_sublist _, rfl⟩
    · cases Except.ok.inj h

end Registry

/-! ## Functions of a service -/

namespace ServiceDecl

/-- The functions along with a service by what they are for. -/
def declares (d : ServiceDecl) : List FunctionName :=
  (d.binds.filter (·.hasInput)).map (fun o => .bind o.name) ++ [.handler d.name]

theorem map_name_functions (d : ServiceDecl) :
    d.functions.map (·.name) = d.declares.map FunctionName.text := by
  rw [functions, declares, List.map_append, List.map_append, List.map_map, List.map_map]
  rfl

end ServiceDecl

namespace Registry

variable {g : Registry}

/-- **Operations of one name** share the function of the first of them, whichever service it is
listed by. -/
theorem binds_serviceDeclsFrom (bound : List String) (services : List Shape) :
    (g.serviceDeclsFrom bound services).1.flatMap (·.binds) =
      (Text.firstBy (·.name) ((g.serviceDeclsFrom bound services).1.flatMap (·.operations))).filter
        fun o => !bound.contains o.name := by
  induction services generalizing bound with
  | nil => rfl
  | cons s services ih =>
    rw [serviceDeclsFrom]
    simp only [List.flatMap_cons]
    rw [ih, Text.firstBy_append, List.filter_append, List.filter_filter]
    congr 1
    refine List.filter_congr fun o _ => ?_
    rw [List.contains_append, Bool.not_or]

end Registry

/-! ## Packages -/

namespace Package

variable {p : Package}

/-- Everything that is declared for the scope of the package, in the order of the files. -/
def identifiers (p : Package) : List String :=
  p.declared.flatMap (fun d => d.names ++ freeNames d.functions) ++
    p.registry.serviceDecls.1.flatMap fun d => d.name :: d.functions.map (·.name)

/-- The types with their constants, and the interfaces. -/
def names (p : Package) : List String :=
  p.declared.flatMap (·.names) ++ p.registry.serviceDecls.1.map (·.name)

/-- The functions that are declared and are no methods. -/
def functions (p : Package) : List Function :=
  p.declared.flatMap (·.freeFunctions) ++ p.registry.serviceDecls.1.flatMap (·.functions)

/-- The functions by what they are for. -/
def declares (p : Package) : List FunctionName :=
  p.declared.flatMap (·.declares) ++ p.registry.serviceDecls.1.flatMap (·.declares)

/-- The operations that are served, by service. -/
def served (p : Package) : List Operation := p.registry.serviceDecls.1.flatMap (·.operations)

theorem map_name_functions_perm (hcs : p.contributors.Nodup) :
    (p.functions.map (·.name)).Perm (p.declares.map FunctionName.text) := by
  rw [functions, declares, List.map_append, List.map_append, List.map_flatMap, List.map_flatMap,
    List.map_flatMap, List.map_flatMap]
  refine .append (.flatMap_left _ fun d hd => ?_) (.flatMap_left _ fun d _ => ?_)
  · obtain ⟨s, -, hs⟩ := exists_typeDecl_of_mem_declared hd
    obtain ⟨functions, hsub, hnames⟩ := Registry.freeNames_of_typeDecl hcs hs
    have hnodup := FunctionName.nodup_map_text_ofType d.name
    show (freeNames d.functions).Perm _
    refine (List.perm_ext_iff_of_nodup ?_ ?_).2 fun name => ?_
    · rw [hnames]
      exact hnodup.sublist (hsub.map _)
    · exact hnodup.sublist (List.filter_sublist.map _)
    · constructor
      · intro hname
        obtain ⟨a, ha, rfl⟩ := List.mem_map.1 (hnames ▸ hname)
        have hmem : (freeNames d.functions).contains a.text = true := List.contains_iff_mem.2 hname
        exact List.mem_map_of_mem (List.mem_filter.2 ⟨hsub.mem ha, hmem⟩)
      · intro hname
        obtain ⟨a, ha, rfl⟩ := List.mem_map.1 hname
        exact List.contains_iff_mem.1 (List.mem_filter.1 ha).2
  · rw [d.map_name_functions]

theorem identifiers_perm : p.identifiers.Perm (p.names ++ p.functions.map (·.name)) := by
  have htypes := List.flatMap_append_perm p.declared (·.names) fun d => freeNames d.functions
  have hservices := List.flatMap_append_perm p.registry.serviceDecls.1 (fun d => [d.name])
    fun d => d.functions.map (·.name)
  refine (htypes.symm.append hservices.symm).trans ?_
  rw [names, functions, List.map_append, List.map_flatMap, List.map_flatMap, List.map_eq_flatMap]
  -- The two lists in the middle change places.
  rw [List.append_assoc, List.append_assoc]
  refine .append_left _ ?_
  rw [← List.append_assoc, ← List.append_assoc]
  exact .append_right _ List.perm_append_comm

theorem binds_served :
    p.registry.serviceDecls.1.flatMap (·.binds) = Text.firstBy (·.name) p.served := by
  rw [served, Registry.serviceDecls, Registry.binds_serviceDeclsFrom]
  exact List.filter_eq_self.2 fun _ _ => rfl

/-- Where types and interfaces go by different names, no function is declared twice for one thing. -/
theorem nodup_declares (h : p.names.Nodup) : p.declares.Nodup := by
  obtain ⟨htypes, hservices, -⟩ := List.nodup_append'.1 h
  have hforTypes : (p.declared.flatMap (·.declares)).Nodup := by
    refine List.nodup_flatMap.2 ⟨fun d _ => ?_, ?_⟩
    · exact ((FunctionName.nodup_map_text_ofType d.name).of_map _).filter _
    · refine (List.nodup_flatMap.1 htypes).2.imp fun {d e} hdisjoint a ha hb => ?_
      have hname : d.name = e.name :=
        (TypeDecl.subject_of_mem_declares ha).symm.trans (TypeDecl.subject_of_mem_declares hb)
      exact hdisjoint List.mem_cons_self (hname ▸ List.mem_cons_self)
  have hbinds : ((p.registry.serviceDecls.1.flatMap (·.binds)).map (·.name)).Nodup := by
    rw [binds_served]
    exact Text.nodup_map_firstBy _ _
  have hforServices : (p.registry.serviceDecls.1.flatMap (·.declares)).Nodup := by
    have hperm := List.flatMap_append_perm p.registry.serviceDecls.1
      (fun d => (d.binds.filter (·.hasInput)).map fun o => FunctionName.bind o.name)
      fun d => [FunctionName.handler d.name]
    refine hperm.nodup_iff.1 (List.nodup_append'.2 ⟨?_, ?_, ?_⟩)
    · rw [← List.map_flatMap, ← List.filter_flatMap]
      have hnames : (((p.registry.serviceDecls.1.flatMap (·.binds)).filter (·.hasInput)).map
          (·.name)).Nodup := hbinds.sublist (List.filter_sublist.map _)
      have hnodup := hnames.map (f := FunctionName.bind) fun _ _ => FunctionName.bind.inj
      rwa [List.map_map] at hnodup
    · rw [← List.map_eq_flatMap]
      have hnodup := hservices.map (f := FunctionName.handler) fun _ _ => FunctionName.handler.inj
      rwa [List.map_map] at hnodup
    · intro a hbind hhandler
      simp only [List.mem_flatMap, List.mem_map, List.mem_singleton] at hbind hhandler
      obtain ⟨_, -, _, -, rfl⟩ := hbind
      obtain ⟨_, -, h⟩ := hhandler
      cases h
  refine List.nodup_append'.2 ⟨hforTypes, hforServices, fun a hfirst hsecond => ?_⟩
  obtain ⟨d, -, ha⟩ := List.mem_flatMap.1 hfirst
  obtain ⟨e, -, hsecond⟩ := List.mem_flatMap.1 hsecond
  have hof : a ∈ FunctionName.ofType d.name := (List.mem_filter.1 ha).1
  rcases List.mem_append.1 hsecond with h | h
  · obtain ⟨_, -, rfl⟩ := List.mem_map.1 h
    simp [FunctionName.ofType] at hof
  · obtain rfl := List.mem_singleton.1 h
    simp [FunctionName.ofType] at hof

/-- **Identifiers are distinct** exactly if types, constants and interfaces are, no function goes by
the name of one of these, and no two functions clash. -/
theorem nodup_identifiers_iff (hcs : p.contributors.Nodup) : p.identifiers.Nodup ↔
    p.names.Nodup ∧ (∀ a ∈ p.declares, a.text ∉ p.names) ∧
      ∀ a ∈ p.declares, ∀ b ∈ p.declares, ¬ a.Clash b := by
  have hperm := map_name_functions_perm hcs
  rw [identifiers_perm.nodup_iff, List.nodup_append', hperm.nodup_iff]
  refine and_congr_right fun hnames => ?_
  have hclash : (p.declares.map FunctionName.text).Nodup ↔
      ∀ a ∈ p.declares, ∀ b ∈ p.declares, ¬ a.Clash b := by
    rw [List.nodup_map_iff_inj_on (nodup_declares hnames)]
    constructor
    · intro hinj a ha b hb h
      obtain rfl := hinj a ha b hb h.text_eq
      exact h.subject_ne rfl
    · intro hnone a ha b hb htext
      rcases FunctionName.text_eq_text_iff.1 htext with h | h | h
      · exact h
      · exact absurd h (hnone a ha b hb)
      · exact absurd h (hnone b hb a ha)
  have hapart : p.names.Disjoint (p.functions.map (·.name)) ↔ ∀ a ∈ p.declares, a.text ∉ p.names := by
    constructor
    · intro hdisjoint a ha hname
      exact hdisjoint hname (hperm.mem_iff.2 (List.mem_map_of_mem ha))
    · intro hnone name hname hfunction
      obtain ⟨a, ha, rfl⟩ := List.mem_map.1 (hperm.mem_iff.1 hfunction)
      exact hnone a ha hname
  rw [hclash, hapart, and_comm]

/-! ## Handlers -/

/-- The functions that a handler reaches when it binds the input of an operation. -/
def bindFunctions (p : Package) (o : Operation) : List Function :=
  p.functions.filter (·.name == o.bindName)

theorem bindFunctions_eq (hcs : p.contributors.Nodup) (o : Operation) : p.bindFunctions o =
    ((p.served.find? (·.name == o.name)).toList.filter (·.hasInput)).map (·.bindFunction) := by
  have hforTypes : (p.declared.flatMap (·.freeFunctions)).filter (·.name == o.bindName) = [] := by
    refine List.filter_eq_nil_iff.2 fun f hf hname => ?_
    obtain ⟨d, hd, hf⟩ := List.mem_flatMap.1 hf
    obtain ⟨s, -, hs⟩ := exists_typeDecl_of_mem_declared hd
    obtain ⟨functions, hsub, hnames⟩ := Registry.freeNames_of_typeDecl hcs hs
    have hmem : f.name ∈ freeNames d.functions := List.mem_map_of_mem hf
    obtain ⟨a, ha, htext⟩ := List.mem_map.1 (hnames ▸ hmem)
    have htext : a.text = (FunctionName.bind o.name).text := htext.trans (eq_of_beq hname)
    have hof := hsub.mem ha
    rcases FunctionName.text_eq_text_iff.1 htext with rfl | h | h
    · simp [FunctionName.ofType] at hof
    · cases h
    · cases h
  have hforService (d : ServiceDecl) : d.functions.filter (·.name == o.bindName) =
      ((d.binds.filter (·.name == o.name)).filter (·.hasInput)).map (·.bindFunction) := by
    have hhandler : ((handler d.name d.operations).name == o.bindName) = false := by
      refine beq_eq_false_iff_ne.2 fun hname => ?_
      have hname : (FunctionName.handler d.name).text = (FunctionName.bind o.name).text := hname
      exact absurd (FunctionName.initial_eq hname rfl rfl) (by decide)
    have hbind (o' : Operation) : (o'.bindFunction.name == o.bindName) = (o'.name == o.name) := by
      rw [Bool.eq_iff_iff, beq_iff_eq, beq_iff_eq]
      refine ⟨fun hname => ?_, fun hname => ?_⟩
      · exact (String.append_right_inj _).1 ((String.append_left_inj _).1 hname)
      · show o'.bindName = _
        rw [Operation.bindName, hname, Operation.bindName]
    rw [ServiceDecl.functions, List.filter_append, List.filter_cons_of_neg (by simp [hhandler]),
      List.filter_nil, List.append_nil, List.filter_map, List.filter_filter, List.filter_filter]
    congr 1
    refine List.filter_congr fun o' _ => ?_
    rw [Function.comp_apply, hbind, Bool.and_comm]
  rw [bindFunctions, functions, List.filter_append, hforTypes, List.nil_append, List.filter_flatMap,
    List.flatMap_congr fun d _ => hforService d, ← List.map_flatMap, ← List.filter_flatMap,
    ← List.filter_flatMap, binds_served, Text.filter_firstBy]

/-- The operations that are served are made from operations of the model. -/
theorem of_mem_served {o : Operation} (h : o ∈ p.served) :
    p.registry.bindOperation o.input.operation = .ok o.input ∧ p.registry.serve o.input = .ok o := by
  obtain ⟨d, hd, ho⟩ := List.mem_flatMap.1 h
  obtain ⟨s, -, -, hops, -⟩ := Registry.of_mem_serviceDeclsFrom hd
  obtain ⟨_, op, i, -, -, hbind, hserve⟩ := Registry.of_mem_serviceOperations (hops ▸ ho)
  obtain ⟨rfl, -⟩ := Registry.of_serve hserve
  obtain ⟨rfl, -⟩ := Registry.of_bindOperation hbind
  exact ⟨hbind, hserve⟩

theorem eq_of_mem_served {o o' : Operation} (ho : o ∈ p.served) (ho' : o' ∈ p.served)
    (h : o.input.operation = o'.input.operation) : o = o' := by
  obtain ⟨hbind, hserve⟩ := of_mem_served ho
  obtain ⟨hbind', hserve'⟩ := of_mem_served ho'
  have hinput : o.input = o'.input := by
    rw [h, hbind'] at hbind
    exact (Except.ok.inj hbind).symm
  rw [hinput, hserve'] at hserve
  exact (Except.ok.inj hserve).symm

/-- **What is declared and what is called.** The identifiers of a package are distinct exactly if types,
constants and interfaces are, no function goes by the name of one of these, and no two functions clash.
What a handler calls to bind an input is made from the first operation that is served under the name of
its own, and that is its own if the two are one operation of the model. -/
theorem identifiers_and_bindFunctions {p : Package} (hcs : p.contributors.Nodup) :
    (p.identifiers.Nodup ↔ p.names.Nodup ∧ (∀ a ∈ p.declares, a.text ∉ p.names) ∧
      ∀ a ∈ p.declares, ∀ b ∈ p.declares, ¬ a.Clash b) ∧
    ∀ o ∈ p.served, ∃ first ∈ p.served,
      p.served.find? (·.name == o.name) = some first ∧
      p.bindFunctions o = (if first.hasInput then [first.bindFunction] else []) ∧
      (first.input.operation = o.input.operation → first = o) := by
  refine ⟨nodup_identifiers_iff hcs, fun o ho => ?_⟩
  obtain ⟨first, hfirst⟩ := Option.isSome_iff_exists.1
    (List.find?_isSome (p := (·.name == o.name)).2 ⟨o, ho, beq_self_eq_true _⟩)
  have hmem := List.mem_of_find?_eq_some hfirst
  refine ⟨first, hmem, hfirst, ?_, eq_of_mem_served hmem ho⟩
  rw [bindFunctions_eq hcs, hfirst]
  cases hinput : first.hasInput <;> simp [hinput]

/-- The catalog of a service `Wind` with two operations whose names differ by an underscore. The input
of the first is called after the handler of the service. -/
def windCatalog : Catalog :=
  let service : Shape :=
    { id := ⟨"ex#Wind"⟩, kind := .service, operations := [⟨"ex#get_gust"⟩, ⟨"ex#getGust"⟩] }
  let operation (id input : String) : Shape := { id := ⟨id⟩, kind := .operation, input := ⟨input⟩ }
  { entries := ((((({} : OrderedMap Shape).insert "ex#Wind" service).insert "ex#get_gust"
      (operation "ex#get_gust" "ex#WindHandler")).insert "ex#getGust"
      (operation "ex#getGust" "ex#Gust")).insert "ex#WindHandler"
      { id := ⟨"ex#WindHandler"⟩, kind := .structure_ }).insert "ex#Gust"
      { id := ⟨"ex#Gust"⟩, kind := .structure_ } }

/-- The package for it. -/
def windPackage : Package := ofConfig windCatalog Contributor.all {}

/-- The handler of `Wind` and the constructor of its `WindHandler` have one name, and both operations
are served with the function that makes a `WindHandler`. -/
theorem identifiers_and_bindFunctions_wind :
    windPackage.contributors.Nodup ∧ ¬ windPackage.identifiers.Nodup ∧
      ∀ o ∈ windPackage.served,
        (windPackage.bindFunctions o).map (·.results) = [["*WindHandler", "error"]] := by
  have hcs : windPackage.contributors.Nodup := by decide
  obtain ⟨hiff, hbind⟩ := identifiers_and_bindFunctions hcs
  refine ⟨hcs, fun hnodup => ?_, fun o ho => ?_⟩
  · have hnew : .new "WindHandler" ∈ windPackage.declares := by decide +kernel
    have hhandler : .handler "Wind" ∈ windPackage.declares := by decide +kernel
    exact (hiff.1 hnodup).2.2 _ hnew _ hhandler (.handler "Wind")
  · have hnames : windPackage.served.map (·.name) = ["GetGust", "GetGust"] := by decide +kernel
    have hname : o.name = "GetGust" := by
      have hmem : o.name ∈ windPackage.served.map (·.name) := List.mem_map_of_mem ho
      simpa [hnames] using hmem
    obtain ⟨first, -, hfirst, hfunctions, -⟩ := hbind o ho
    have hshared : (windPackage.served.find? (·.name == "GetGust")).map
        (fun o => (o.hasInput, o.bindFunction.results)) =
          some (true, ["*WindHandler", "error"]) := by decide +kernel
    rw [hname] at hfirst
    rw [hfirst, Option.map_some] at hshared
    obtain ⟨hinput, hresults⟩ := Prod.mk.inj (Option.some.inj hshared)
    rw [hfunctions, if_pos hinput, List.map_singleton, hresults]

/-- Two texts whose names differ by an underscore. -/
def vanes : Assembly :=
  (({ version := "2.0" } : Assembly).insert "ex#wind_vane" (some { type := "string" })).insert
    "ex#windVane" (some { type := "string" })

/-- Their catalog. -/
def vanesCatalog : Catalog :=
  { entries := (({} : OrderedMap Shape).insert "ex#wind_vane"
      { id := ⟨"ex#wind_vane"⟩, kind := .string }).insert "ex#windVane"
      { id := ⟨"ex#windVane"⟩, kind := .string } }

/-- A run that reports nothing may declare a type twice. -/
theorem not_nodup_identifiers_vanes :
    ¬ ∀ (a : Assembly) (c : Catalog) (conf : Config) (o : Output), a.toCatalog.run.1 = .ok c →
      (Generator.code.run c Contributor.all conf o).2 = none →
        (ofConfig c Contributor.all conf).identifiers.Nodup := by
  intro h
  have hcatalog : vanes.toCatalog.run.1 = .ok vanesCatalog := by rfl
  have hbody : isSourceText (ofConfig vanesCatalog Contributor.all {}).typesFile.body = true := by
    decide +kernel
  have hrun : (Generator.code.run vanesCatalog Contributor.all {} {}).2 = none := by
    refine run_of_reported rfl rfl (reported_eq_nil_iff.2 ⟨⟨?_, by decide +kernel, ?_⟩, by decide⟩)
    · exact List.length_eq_zero_iff.1 (by decide +kernel)
    · exact SourceFile.isSome_tidy? (by decide +kernel) (by decide +kernel) (by decide +kernel) hbody
  have hnodup := h vanes vanesCatalog {} {} hcatalog hrun
  have hidentifiers : (ofConfig vanesCatalog Contributor.all {}).identifiers =
      ["WindVane", "WindVane"] := by decide +kernel
  rw [hidentifiers] at hnodup
  exact absurd hnodup (by decide)

end Package
end Shapewright
