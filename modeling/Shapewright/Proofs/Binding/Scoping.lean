import Shapewright.Files
import Shapewright.Proofs.Binding.Planning
import Shapewright.Proofs.Binding.Resolving
import Shapewright.Proofs.OrderedMap
import Shapewright.Proofs.Representation.Scoping

/-!
# Scopes in functions that bind inputs

The members of an input are bound one after the other in the block of one function.  Each has a
variable there, the decoded body has one, and so has the raw value of a member that is the whole body.
The variables of members are made from names that a model chooses freely: they keep off the keywords
and off the names that generated code uses itself, but not off each other and not off the names of
packages and types.

* `Registry.Outside` — the names that are declared outside of the function.
* `Declaration.scoped_statements_iff` — the statements for one member, in a block with some names.
* `Declaration.scoped_flatMap_iff` — the statements for members one after the other.
* `Input.WellScoped` — what one expects of the statements for an input.
* `Registry.wellScoped_iff` — when it is so: the variables differ, at most one member is the whole body,
  and no variable hides what is referred to after it.
-/

set_option autoImplicit false

namespace Shapewright

open Code

/-! ## Variables -/

namespace Declaration

/-- The variables of members are no keywords. -/
theorem localName_not_mem_keywords (member : String) : localName member ∉ Naming.keywords := by
  have hparam : ∀ name ∈ reserved, name ++ "Param" ∉ Naming.keywords := by decide
  rw [localName]
  split
  · rename_i h
    exact hparam _ (List.contains_iff_mem.1 h)
  · exact Naming.local_not_mem_keywords member

theorem isPlain_or_of_mem_localName {member : String} {c : Char}
    (h : c ∈ (localName member).toList) : Naming.isPlain c = true ∨ c = '_' := by
  have hfixed : ∀ c ∈ "Param".toList, Naming.isPlain c = true := List.all_eq_true.1 (by decide)
  rw [localName] at h
  split at h
  · rw [String.toList_append, List.mem_append] at h
    exact h.elim Naming.isPlain_or_of_mem_local fun hc => .inl (hfixed c hc)
  · exact Naming.isPlain_or_of_mem_local h

/-- The variables of members are plain names. -/
theorem rootOf_localName (member : String) : rootOf (localName member) = localName member := by
  have hnone {c : Char} (hplain : Naming.isPlain c = false) (hmark : c ≠ '_') :
      c ∉ (localName member).toList := fun hc =>
    (isPlain_or_of_mem_localName hc).elim (fun h => Bool.noConfusion (hplain.symm.trans h)) hmark
  exact rootOf_eq_self (hnone (by decide) (by decide)) (hnone (by decide) (by decide))

end Declaration

/-! ## Names outside of the function -/

/-- The shape that a representation refers to by its name, if there is one. -/
def Representation.named? : Representation → Option Shape
  | .simple s _ named => if named then some s else none
  | .enum s | .intEnum s | .structure_ s => some s
  | .list _ element => element.named?
  | .map _ value => value.named?
  | _ => none

namespace Registry

/-- What is declared with the type of a shape and may be referred to when a value is bound. -/
def declaredFor (g : Registry) (s : Shape) : List String :=
  match s.kind with
  | .enum => [typeName s, "Parse" ++ typeName s]
  | .intEnum => [typeName s]
  | .structure_ | .union => [typeName s, typeName s ++ "FromJSON"]
  | kind =>
    if (builtin? kind).isSome && !s.id.isPrelude && !g.options.inlineSimple then [typeName s] else []

/-- The name that a file knows an imported package by. -/
def packageName (g : Registry) (path : String) : String :=
  if path == g.options.package then supportAlias else Files.baseName path

/-- Types are declared for the shapes of a model, but not for mixins. -/
def Declares (s : Shape) : Prop := s.id.isPrelude = false ∧ s.traits.has Trait.mixin = false

instance (s : Shape) : Decidable (Declares s) := inferInstanceAs (Decidable (_ ∧ _))

/-- The names that are declared outside of the function that binds an input. -/
inductive Outside (g : Registry) (i : Input) : String → Prop where
  /-- Some types are always there. -/
  | predeclared {name : String} : name ∈ Code.predeclared → Outside g i name
  /-- A package is imported. -/
  | imported {path : String} : path ∈ i.imports → Outside g i (g.packageName path)
  /-- The name is declared for a shape of the catalog. -/
  | declared {id : ShapeId} {s : Shape} {name : String} : g.catalog.find? id = some s →
      Declares s → name ∈ g.declaredFor s → Outside g i name

/-- The packages of the types that values are bound to. -/
def typePackages : List String := ["time", "math/big", "github.com/shopspring/decimal"]

variable {g : Registry} {i : Input} {outer : String → Prop}

theorem imports_subset_typePackages (r : Representation) : r.imports ⊆ typePackages := by
  induction r with
  | list s element ih | map s element ih => exact ih
  | _ => simp [Representation.imports, typePackages]

theorem mem_importSet {path : String} {paths : List String} :
    path ∈ importSet paths ↔ path ∈ paths ∧ path ≠ "" := by
  simp [importSet, Text.sorted, Text.mem_firstBy_id]

/-- What is imported for a member besides the support package is imported for its type, if the support
package is not one that types are taken from. -/
theorem mem_importSet_imports_iff (hpackage : g.options.package ∉ typePackages) {path : String}
    {r : Representation} :
    path ∈ importSet (g.options.package :: r.imports) ∧ path ≠ g.options.package ↔
      path ∈ r.imports := by
  rw [mem_importSet, List.mem_cons]
  constructor
  · rintro ⟨⟨hmem, -⟩, hne⟩
    exact hmem.resolve_left hne
  · intro hmem
    have htype := imports_subset_typePackages r hmem
    exact ⟨⟨.inr hmem, fun hempty => absurd (hempty ▸ htype) (by decide)⟩,
      fun heq => hpackage (heq ▸ htype)⟩

/-- Sets of packages are in order, each package once. -/
theorem pairwise_importSet (paths : List String) : (importSet paths).Pairwise (· < ·) := by
  have hsorted : (importSet paths).Pairwise fun a b => decide (a ≤ b) = true := by
    refine List.pairwise_mergeSort (fun a b c hab hbc => ?_) (fun a b => ?_) _
    · exact decide_eq_true (String.le_trans (of_decide_eq_true hab) (of_decide_eq_true hbc))
    · rw [← Bool.decide_or]
      exact decide_eq_true (String.le_total a b)
  have hnodup : (importSet paths).Nodup :=
    (List.mergeSort_perm _ _).nodup_iff.2 (Text.nodup_firstBy_id _)
  exact (hsorted.and hnodup).imp fun h => Std.lt_of_le_of_ne (of_decide_eq_true h.1) h.2

theorem package_ne_empty (o : Options) : o.package ≠ "" := by
  rw [Options.package]
  split
  · decide
  · rename_i h
    simpa using h

theorem mem_importsOf {d : Declaration} {ds : List Declaration} (hd : d ∈ ds) {path : String}
    (hpath : path = g.options.package ∨ path ∈ d.imports) (hne : path ≠ "") :
    path ∈ g.importsOf ds := by
  have hempty : ds.isEmpty = false := List.isEmpty_eq_false_iff_exists_mem.2 ⟨d, hd⟩
  rw [importsOf, hempty, if_neg (by decide), mem_importSet, List.mem_cons, List.mem_flatMap]
  exact ⟨hpath.imp id fun h => ⟨d, hd, h⟩, hne⟩

/-- **What a representation refers to** is declared outside, if types are declared for the shapes that
it has the names of. -/
theorem Represents.resolved {s : Shape} {r : Representation} (h : g.Represents s r)
    (hpredeclared : ∀ name ∈ Code.predeclared, outer name)
    (hdeclared : ∀ id s, g.catalog.find? id = some s → Declares s → ∀ name ∈ g.declaredFor s,
      outer name)
    (himports : ∀ path ∈ r.imports, outer (Files.baseName path))
    (hnamed : ∀ t ∈ r.named?, Declares t) {id : ShapeId} (hs : g.catalog.find? id = some s) :
    r.Resolved outer := by
  induction h generalizing id with
  | @simple s builtin hb =>
    have hnames : ∀ name ∈ typeNames builtin, name ∈ Code.predeclared := by
      cases hk : s.kind <;> rw [hk] at hb <;> cases hb <;> decide +kernel
    refine ⟨typeOuter_of_mem hpredeclared hnames, fun hown => ?_⟩
    refine hdeclared id s hs (hnamed s (by simp [Representation.named?, hown])) _ ?_
    cases hk : s.kind <;> rw [hk] at hb <;> cases hb <;> simpa [declaredFor, hk, builtin?] using hown
  | timestamp => exact himports "time" (by simp [Representation.imports])
  | bigInteger => exact himports "math/big" (by simp [Representation.imports])
  | bigDecimal =>
    have hname : Files.baseName "github.com/shopspring/decimal" = "decimal" := by decide +kernel
    have hdecimal := himports _ (List.mem_singleton.2 rfl)
    rwa [hname] at hdecimal
  | blob | document => trivial
  | enum hk =>
    have hboth := hdeclared id _ hs (hnamed _ rfl)
    rw [declaredFor, hk] at hboth
    exact ⟨hboth _ (by simp), hboth _ (by simp)⟩
  | intEnum hk =>
    have hone := hdeclared id _ hs (hnamed _ rfl)
    rw [declaredFor, hk] at hone
    exact hone _ (by simp)
  | structure_ hk =>
    have hboth := hdeclared id _ hs (hnamed _ rfl)
    rcases hk with hk | hk
    all_goals
      rw [declaredFor, hk] at hboth
      exact ⟨hboth _ (by simp), hboth _ (by simp)⟩
  | list _ _ ht _ ih | map _ _ ht _ ih => exact ih himports hnamed (target_eq_ok_iff.1 ht)

end Registry

/-! ## The statements for a member -/

namespace Declaration

/-- The variables for the raw value of a member that is the whole body. -/
def rawNames : List String := ["raw", "ok", "err"]

/-- What a declaration refers to is declared outside, or is the raw value and what that is taken
from. -/
structure ClosedBy (outer : String → Prop) (d : Declaration) : Prop where
  var : ∃ member, d.var = localName member
  type : TypeOuter outer d.type
  default_ : ∀ x ∈ d.default?, x.ClosedBy outer []
  extraction : d.extraction.expr.ClosedBy outer [Binding.source d.origin]
  convert : d.convert.ClosedBy outer ["raw"]
  fallible : d.extraction.fallible = (d.origin == .payload)

theorem Settled.closedBy {g : Registry} {m : Member} {target : Shape} {origin : Origin}
    {uri : Option UriPattern} {r : Representation} {d : Declaration} {outer : String → Prop}
    (h : Settled g m target origin uri r d) (ha : Ambient outer) (hr : r.Resolved outer) :
    d.ClosedBy outer where
  var := ⟨m.name, h.var⟩
  type := by
    rw [h.type]
    exact Representation.typeOuter_declared ha hr _
  default_ := fun _ hx => Representation.closedBy_defaultValue ha hr (h.defaultValue_eq hx)
  extraction := (Binding.closedBy_bind ha hr h.bound).1
  convert := (Binding.closedBy_bind ha hr h.bound).2.1
  fallible := (Binding.closedBy_bind ha hr h.bound).2.2

variable {outer : String → Prop} {d : Declaration} {zeros : List Expr} {Γ : Blocks}
  {block : List String}

theorem ClosedBy.not_mem_reserved (h : d.ClosedBy outer) : d.var ∉ reserved := by
  obtain ⟨member, hvar⟩ := h.var
  exact hvar ▸ localName_not_mem member

theorem ClosedBy.not_mem_rawNames (h : d.ClosedBy outer) : d.var ∉ rawNames :=
  fun hmem => h.not_mem_reserved ((by decide : rawNames ⊆ reserved) hmem)

/-- Storing the value keeps to the rules where the raw value and the variable are. -/
theorem ClosedBy.scoped_present (h : d.ClosedBy outer) (hz : ∀ z ∈ zeros, z.ClosedBy outer [])
    (hraw : Visible Γ "raw") (hvar : Visible Γ d.var) :
    BodyScoped outer [] Γ (d.convert.assign d.var d.pointer zeros) := by
  obtain ⟨member, hname⟩ := h.var
  refine Conversion.scoped_assign h.convert (by simpa using hraw) hz ?_ d.pointer
  rwa [hname, rootOf_localName, ← hname]

/-- Leaving because there is no value keeps to the rules. -/
theorem scoped_absent (ha : Ambient outer) (hz : ∀ z ∈ zeros, z.ClosedBy outer []) :
    BodyScoped outer [] Γ (d.absent zeros) := by
  have hmissing : (supportCall "MissingField" [.str d.name, support d.origin.constant]).ClosedBy
      outer [] := by
    refine closedBy_supportCall ha.support ?_
    simp [Expr.str, closedBy_lit, closedBy_support ha.support]
  unfold absent
  split
  · refine bodyScoped_singleton.2 (exprsScoped_iff.2 fun x hx => ?_)
    rcases List.mem_append.1 hx with hx | hx
    · exact hz x hx _ (by simp)
    · exact List.mem_singleton.1 hx ▸ hmissing _ (by simp)
  · trivial

/-- A block has room for a member: the variable is new, and so is one of the variables for the raw
value of the whole body. -/
def Fits (block : List String) (d : Declaration) : Prop :=
  d.var ∉ block ∧ (d.origin = .payload → ∃ name ∈ rawNames, name ∉ block)

theorem ClosedBy.scoped_var_iff (h : d.ClosedBy outer) :
    (Stmt.var d.var d.type d.default?).Scoped outer block [] ↔ d.var ∉ block := by
  rw [Code.scoped_var_iff]
  refine ⟨fun hvar => hvar.2.2, fun hvar => ⟨h.type.scoped, fun x hx => ?_, hvar⟩⟩
  exact h.default_ x hx _ (by simp)

/-- Taking the raw value keeps to the rules where its source is. -/
theorem ClosedBy.scoped_extraction (h : d.ClosedBy outer) (hsource : Binding.source d.origin ∈ block)
    (hblock : (d.var :: block) ∈ Γ) : d.extraction.expr.Scoped outer Γ :=
  h.extraction _ (by simpa using ⟨_, hblock, List.mem_cons_of_mem _ hsource⟩)

theorem scoped_ok (h : Visible Γ "ok") : (Expr.ident "ok").Scoped outer Γ := by
  refine .inl ?_
  rwa [Conversion.rootOf_locals "ok" (by simp)]

/-- The raw value of the whole body shares the block, which has its variables from there on. -/
theorem ClosedBy.scoped_shared (ha : Ambient outer) (h : d.ClosedBy outer)
    (hz : ∀ z ∈ zeros, z.ClosedBy outer []) :
    BodyScoped outer (rawNames ++ d.var :: block) [] [.returnOnError zeros,
      .branch none (.ident "ok") (d.convert.assign d.var d.pointer zeros) (d.absent zeros)] := by
  have hshared (name : String) (hname : name ∈ rawNames ++ d.var :: block) (blocks : Blocks) :
      Visible (blocks ++ [rawNames ++ d.var :: block]) name :=
    ⟨_, List.mem_append_right _ (List.mem_singleton.2 rfl), hname⟩
  refine ⟨scoped_returnOnError hz (hshared "err" (by simp [rawNames]) []), ?_⟩
  refine bodyScoped_singleton.2 ⟨scoped_ok (hshared "ok" (by simp [rawNames]) [[]]), ?_, ?_⟩
  · exact h.scoped_present hz (hshared "raw" (by simp [rawNames]) [[]]) (hshared d.var (by simp) [[]])
  · exact scoped_absent ha hz

/-- The raw value of any other member is seen in its branch only. -/
theorem ClosedBy.scoped_branch (ha : Ambient outer) (h : d.ClosedBy outer)
    (hz : ∀ z ∈ zeros, z.ClosedBy outer []) (hsource : Binding.source d.origin ∈ block) :
    (Stmt.branch (some (.define ["raw", "ok"] [d.extraction.expr])) (.ident "ok")
      (d.convert.assign d.var d.pointer zeros) (d.absent zeros)).Scoped outer (d.var :: block) [] := by
  have hraw (name : String) (hname : name ∈ ["raw", "ok"]) :
      Visible [["raw", "ok"], d.var :: block] name := visible_of_mem hname
  have hextract : d.extraction.expr.Scoped outer [[], d.var :: block] :=
    h.scoped_extraction hsource (by simp)
  refine ⟨⟨⟨hextract, trivial⟩, "raw", by simp, by decide, by simp⟩, ?_, ?_, ?_⟩
  · exact scoped_ok (hraw "ok" (by simp))
  · exact h.scoped_present hz (hraw "raw" (by simp)) (visible_of_mem List.mem_cons_self).cons
  · exact scoped_absent ha hz

/-- **The statements for a member** keep to the rules exactly in blocks that have room for it. -/
theorem scoped_statements_iff (ha : Ambient outer) (h : d.ClosedBy outer)
    (hz : ∀ z ∈ zeros, z.ClosedBy outer []) (hsource : Binding.source d.origin ∈ block) :
    BodyScoped outer block [] (d.statements zeros) ↔ d.Fits block := by
  unfold statements
  simp only
  split
  · rename_i hfallible
    have hpayload : d.origin = .payload := by
      rw [h.fallible] at hfallible
      simpa using hfallible
    constructor
    · rintro ⟨hvar, ⟨-, name, hname, -, hnew⟩, -⟩
      exact ⟨h.scoped_var_iff.1 hvar,
        fun _ => ⟨name, hname, fun hin => hnew (List.mem_cons_of_mem _ hin)⟩⟩
    · rintro ⟨hvar, hnew⟩
      obtain ⟨name, hname, hnew⟩ := hnew hpayload
      have hextract : d.extraction.expr.Scoped outer [d.var :: block] :=
        h.scoped_extraction hsource (by simp)
      have hmark : ∀ name ∈ rawNames, name ≠ "_" := by decide
      refine ⟨h.scoped_var_iff.2 hvar, ⟨⟨hextract, trivial⟩, name, hname, hmark name hname,
        fun hin => ?_⟩, h.scoped_shared ha hz⟩
      rcases List.mem_cons.1 hin with rfl | hin
      · exact h.not_mem_rawNames hname
      · exact hnew hin
  · rename_i hfallible
    have hpayload : d.origin ≠ .payload := by
      rw [h.fallible] at hfallible
      simpa using hfallible
    constructor
    · rintro ⟨hvar, -⟩
      exact ⟨h.scoped_var_iff.1 hvar, fun heq => absurd heq hpayload⟩
    · rintro ⟨hvar, -⟩
      exact ⟨h.scoped_var_iff.2 hvar, bodyScoped_singleton.2 (h.scoped_branch ha hz hsource)⟩

/-- The names of a block after the statements for a member. -/
theorem blockAfter_statements (h : d.ClosedBy outer) : blockAfter block (d.statements zeros) =
    (if d.origin = .payload then rawNames else []) ++ d.var :: block := by
  unfold statements
  simp only [h.fallible, beq_iff_eq]
  split <;> rfl

/-- Two members can be bound in one block: their variables differ, and they are not both the whole
body. -/
def Apart (d d' : Declaration) : Prop :=
  d.var ≠ d'.var ∧ (d.origin = .payload → d'.origin ≠ .payload)

/-- What a block has room for after the statements for a member. -/
theorem fits_blockAfter_iff {d' : Declaration} (h : d.ClosedBy outer) (h' : d'.ClosedBy outer) :
    d'.Fits (blockAfter block (d.statements zeros)) ↔ d.Apart d' ∧ d'.Fits block := by
  have hvar : ∀ name ∈ rawNames, name ≠ d.var := fun name hname heq =>
    h.not_mem_rawNames (heq ▸ hname)
  have hraw := h'.not_mem_rawNames
  rw [blockAfter_statements h, Fits, Fits, Apart]
  by_cases hpayload : d.origin = .payload
  · simp only [hpayload, if_true, List.mem_append, List.mem_cons, not_or]
    constructor
    · rintro ⟨⟨-, hne, hvar'⟩, hroom⟩
      have hother : d'.origin ≠ .payload := fun heq =>
        let ⟨_, hname, hnew, _⟩ := hroom heq
        hnew hname
      exact ⟨⟨Ne.symm hne, fun _ => hother⟩, hvar', fun heq => absurd heq hother⟩
    · rintro ⟨⟨hne, hother⟩, hvar', -⟩
      exact ⟨⟨hraw, Ne.symm hne, hvar'⟩, fun heq => absurd heq (hother trivial)⟩
  · simp only [hpayload, if_false, List.nil_append, List.mem_cons, not_or]
    constructor
    · rintro ⟨⟨hne, hvar'⟩, hroom⟩
      exact ⟨⟨Ne.symm hne, nofun⟩, hvar', fun heq =>
        let ⟨name, hname, _, hnew⟩ := hroom heq
        ⟨name, hname, hnew⟩⟩
    · rintro ⟨⟨hne, -⟩, hvar', hroom⟩
      exact ⟨⟨Ne.symm hne, hvar'⟩, fun heq =>
        let ⟨name, hname, hnew⟩ := hroom heq
        ⟨name, hname, hvar name hname, hnew⟩⟩

/-- **The statements for members** one after the other keep to the rules exactly if the block has room
for each of them and any two can be bound in one block. -/
theorem scoped_flatMap_iff (ha : Ambient outer) {ds : List Declaration}
    (h : ∀ d ∈ ds, d.ClosedBy outer) (hz : ∀ z ∈ zeros, z.ClosedBy outer [])
    (hsource : ∀ d ∈ ds, Binding.source d.origin ∈ block) :
    BodyScoped outer block [] (ds.flatMap (·.statements zeros)) ↔
      ds.Pairwise Apart ∧ ∀ d ∈ ds, d.Fits block := by
  induction ds generalizing block with
  | nil => simp [BodyScoped]
  | cons d ds ih =>
    obtain ⟨hd, hds⟩ := List.forall_mem_cons.1 h
    obtain ⟨hsourced, hsources⟩ := List.forall_mem_cons.1 hsource
    have hafter : ∀ d' ∈ ds, Binding.source d'.origin ∈ blockAfter block (d.statements zeros) := by
      intro d' hd'
      rw [blockAfter_statements hd]
      exact List.mem_append_right _ (List.mem_cons_of_mem _ (hsources d' hd'))
    have hfits : (∀ d' ∈ ds, d'.Fits (blockAfter block (d.statements zeros))) ↔
        (∀ d' ∈ ds, d.Apart d') ∧ ∀ d' ∈ ds, d'.Fits block := by
      rw [← forall₂_and]
      exact forall₂_congr fun d' hd' => fits_blockAfter_iff hd (hds d' hd')
    rw [List.flatMap_cons, bodyScoped_append, scoped_statements_iff ha hd hz hsourced,
      ih hds hafter, hfits, List.pairwise_cons, List.forall_mem_cons]
    tauto

end Declaration

/-! ## Variables that hide something -/

namespace Declaration

variable {d d' : Declaration} {zeros : List Expr}

/-- The statements that bind a member once it has its variable. -/
def binding (d : Declaration) (zeros : List Expr) : List Stmt := (d.statements zeros).tail

theorem statements_eq (d : Declaration) (zeros : List Expr) :
    d.statements zeros = .var d.var d.type d.default? :: d.binding zeros := by
  unfold binding statements
  simp only
  split <;> rfl

/-- Only the first of the statements for a member declares a variable. -/
theorem declares_of_mem_binding {s : Stmt} (h : s ∈ d.binding zeros) : s.declares = [] := by
  unfold binding statements at h
  simp only at h
  split at h <;> simp only [List.tail_cons, List.mem_cons, List.not_mem_nil, or_false] at h
  · rcases h with rfl | rfl | rfl <;> rfl
  · rw [h]
    rfl

theorem hides_var_iff {t : Stmt} : (Stmt.var d.var d.type d.default?).Hides t ↔ d.var ∈ t.refers := by
  simp [Stmt.Hides, Stmt.declares]

/-- The statements for a member hide nothing from each other exactly if the variable hides nothing from
those that bind it. -/
theorem pairwise_statements_iff :
    (d.statements zeros).Pairwise (fun s t => ¬ s.Hides t) ↔
      d.var ∉ bodyRefers (d.binding zeros) := by
  have hbinding : (d.binding zeros).Pairwise (fun s t => ¬ s.Hides t) := by
    refine List.pairwise_of_forall_mem_list fun s hs t _ => ?_
    simp [Stmt.Hides, declares_of_mem_binding hs]
  rw [statements_eq, List.pairwise_cons, and_iff_left hbinding, mem_bodyRefers]
  simp [hides_var_iff]

/-- The statements for a member hide something from those for another exactly if the variable does. -/
theorem forall_not_hides_iff : (∀ s ∈ d.statements zeros, ∀ t ∈ d'.statements zeros, ¬ s.Hides t) ↔
    d.var ∉ bodyRefers (d'.statements zeros) := by
  have hbinding : ∀ s ∈ d.binding zeros, ∀ t ∈ d'.statements zeros, ¬ s.Hides t := by
    intro s hs t _
    simp [Stmt.Hides, declares_of_mem_binding hs]
  rw [statements_eq d, List.forall_mem_cons, and_iff_left hbinding, mem_bodyRefers]
  simp [hides_var_iff]

end Declaration

/-! ## The statements for an input -/

namespace Input

variable {i : Input} {zeros : List Expr}

/-- The statements for an input are as one expects, in a function that has the request. -/
structure WellScoped (outer : String → Prop) (i : Input) (zeros : List Expr) : Prop where
  /-- The variables of members differ. -/
  distinct : (i.declarations.map (·.var)).Nodup
  /-- Each definition introduces a name, each declaration a new one, and what is read is visible. -/
  body : BodyScoped outer ["r"] [] (i.statements zeros)
  /-- No variable is a keyword. -/
  keywords : ∀ d ∈ i.declarations, d.var ∉ Naming.keywords
  /-- No variable has a name that generated code uses itself. -/
  reserved : ∀ d ∈ i.declarations, d.var ∉ Declaration.reserved
  /-- No variable has a name by which a later statement refers to a package, a type or a value. -/
  unhidden : (i.statements zeros).Pairwise fun s t => ¬ s.Hides t

/-- The variables of members hide nothing: neither from the statements that bind the member nor from
those for members after it. -/
def Unhidden (i : Input) (zeros : List Expr) : Prop :=
  (∀ d ∈ i.declarations, d.var ∉ bodyRefers (d.binding zeros)) ∧
    i.declarations.Pairwise fun d d' => d.var ∉ bodyRefers (d'.statements zeros)

instance : Decidable (i.Unhidden zeros) := inferInstanceAs (Decidable (_ ∧ _))

/-- The statements that decode the body. -/
def decoding (zeros : List Expr) : List Stmt :=
  [.define ["doc", "err"] [supportCall "BodyDocument" [Binding.request]], .returnOnError zeros]

theorem statements_eq (i : Input) (zeros : List Expr) :
    i.statements zeros = (if i.readsBody then decoding zeros else []) ++
      i.declarations.flatMap (·.statements zeros) := rfl

/-- What decodes the body declares no variable of a member. -/
theorem declares_of_mem_decoding {s : Stmt} (h : s ∈ if i.readsBody then decoding zeros else []) :
    s.declares = [] := by
  split at h
  · simp only [decoding, List.mem_cons, List.not_mem_nil, or_false] at h
    rcases h with rfl | rfl <;> rfl
  · cases h

theorem pairwise_statements_iff : (i.statements zeros).Pairwise (fun s t => ¬ s.Hides t) ↔
    i.Unhidden zeros := by
  have hnone : ∀ s ∈ if i.readsBody then decoding zeros else [], ∀ t, ¬ s.Hides t :=
    fun s hs t => by simp [Stmt.Hides, declares_of_mem_decoding hs]
  have hown : (if i.readsBody then decoding zeros else []).Pairwise (fun s t => ¬ s.Hides t) :=
    List.pairwise_of_forall_mem_list fun s hs t _ => hnone s hs t
  rw [statements_eq, List.pairwise_append, and_iff_right hown,
    and_iff_left fun s hs t _ => hnone s hs t, List.pairwise_flatMap, Unhidden]
  exact and_congr (forall₂_congr fun _ _ => Declaration.pairwise_statements_iff)
    (List.Pairwise.iff fun _ _ => Declaration.forall_not_hides_iff)

/-- A member is read from the request, or from the body once that is decoded. -/
theorem source_of_mem {d : Declaration} (hd : d ∈ i.declarations) :
    Binding.source d.origin = "r" ∨ Binding.source d.origin = "doc" ∧ i.readsBody = true := by
  by_cases hbody : d.origin = .body
  · exact .inr ⟨by rw [hbody]; rfl, List.any_eq_true.2 ⟨d, hd, by rw [hbody]; rfl⟩⟩
  · exact .inl (by unfold Binding.source; split <;> simp_all)

/-- The body is decoded in a block that has the request. -/
theorem scoped_decoding {outer : String → Prop} (ha : Ambient outer)
    (hz : ∀ z ∈ zeros, z.ClosedBy outer []) : BodyScoped outer ["r"] [] (decoding zeros) := by
  have hlocal : Binding.request.ClosedBy outer ["r"] :=
    closedBy_ident (by simp) (Conversion.rootOf_locals "r" (by simp))
  have hrequest : (supportCall "BodyDocument" [Binding.request]).Scoped outer [["r"]] :=
    closedBy_supportCall ha.support (by simpa using hlocal) _
      (by simpa using visible_of_mem List.mem_cons_self)
  exact ⟨⟨⟨hrequest, trivial⟩, "doc", by simp, by decide, by decide⟩,
    bodyScoped_singleton.2 (scoped_returnOnError hz (visible_of_mem (by simp [Stmt.introduces])))⟩

/-- The statements for an input find what they refer to exactly if those for its members get on with
each other. -/
theorem scoped_statements_iff {outer : String → Prop} (ha : Ambient outer)
    (h : ∀ d ∈ i.declarations, d.ClosedBy outer) (hz : ∀ z ∈ zeros, z.ClosedBy outer []) :
    BodyScoped outer ["r"] [] (i.statements zeros) ↔ i.declarations.Pairwise Declaration.Apart := by
  have hroom {block : List String} (hblock : block ⊆ Declaration.reserved) (hraw : "raw" ∉ block) :
      ∀ d ∈ i.declarations, d.Fits block := fun d hd =>
    ⟨fun hmem => (h d hd).not_mem_reserved (hblock hmem), fun _ => ⟨"raw", by decide, hraw⟩⟩
  rw [statements_eq]
  cases hreads : i.readsBody with
  | false =>
    have hsources : ∀ d ∈ i.declarations, Binding.source d.origin ∈ ["r"] := fun d hd =>
      List.mem_singleton.2 ((source_of_mem hd).resolve_right (by simp [hreads]))
    rw [if_neg (by decide), List.nil_append, Declaration.scoped_flatMap_iff ha h hz hsources,
      and_iff_left (hroom (by decide) (by decide))]
  | true =>
    have hsources : ∀ d ∈ i.declarations, Binding.source d.origin ∈ ["doc", "err", "r"] := by
      intro d hd
      rcases source_of_mem hd with hr | ⟨hdoc, -⟩
      · simp [hr]
      · simp [hdoc]
    have hafter : blockAfter ["r"] (decoding zeros) = ["doc", "err", "r"] := rfl
    rw [if_pos rfl, bodyScoped_append, and_iff_right (scoped_decoding ha hz), hafter,
      Declaration.scoped_flatMap_iff ha h hz hsources,
      and_iff_left (hroom (by decide) (by decide))]

end Input

namespace Registry

variable {g : Registry} {op : Shape} {i : Input} {zeros : List Expr}

/-- Every member of an input is bound to a variable of its own name by code that refers to what is
declared outside of the function. -/
theorem closedBy_of_bindOperation (h : g.bindOperation op = .ok i)
    (hpackage : g.options.package ∉ typePackages)
    (hnamed : ∀ d ∈ i.declarations, ∀ r, g.ofMember d.member = .ok r → ∀ s ∈ r.named?, Declares s)
    (hne : i.declarations ≠ []) :
    Ambient (g.Outside i) ∧ ∀ d ∈ i.declarations, d.ClosedBy (g.Outside i) := by
  obtain ⟨-, -, hsettled, himports⟩ := of_bindOperation h
  obtain ⟨d₀, hd₀⟩ := List.exists_mem_of_ne_nil _ hne
  have hsupport : g.Outside i (g.packageName g.options.package) :=
    .imported (himports ▸ mem_importsOf hd₀ (.inl rfl) (package_ne_empty _))
  rw [packageName, if_pos (beq_self_eq_true _)] at hsupport
  have ha : Ambient (g.Outside i) := ⟨fun _ => .predeclared, hsupport⟩
  refine ⟨ha, fun d hd => ?_⟩
  obtain ⟨s, -, m, -, target, origin, uri, r, hd'⟩ := hsettled d hd
  obtain ⟨t, ht, hr⟩ := represents_of_ofMember hd'.represented
  have hown : ∀ s ∈ r.named?, Declares s := hnamed d hd r (hd'.member ▸ hd'.represented)
  refine hd'.closedBy ha (hr.resolved (fun _ => .predeclared) (fun _ _ hs hs' _ => .declared hs hs')
    (fun path hpath => ?_) hown (target_eq_ok_iff.1 ht))
  obtain ⟨hmem, hne⟩ := (mem_importSet_imports_iff hpackage).2 hpath
  have houtside : g.Outside i (g.packageName path) :=
    .imported (himports ▸ mem_importsOf hd (.inr (hd'.imports ▸ hmem)) (mem_importSet.1 hmem).2)
  rwa [packageName, if_neg (by simpa using hne)] at houtside

/-- **The statements for an input are well scoped** exactly if the variables of its members differ, at
most one of the members is the whole body, and no variable hides what the statements after it refer
to.  The types that members are bound to have to be there: the support package must not be one that
types are taken from, and types must be declared for the shapes that are referred to by name. -/
theorem wellScoped_iff (h : g.bindOperation op = .ok i)
    (hpackage : g.options.package ∉ typePackages)
    (hnamed : ∀ d ∈ i.declarations, ∀ r, g.ofMember d.member = .ok r → ∀ s ∈ r.named?, Declares s)
    (hz : ∀ z ∈ zeros, z.ClosedBy (g.Outside i) []) :
    i.WellScoped (g.Outside i) zeros ↔
      (i.declarations.map (·.var)).Nodup ∧
        (i.declarations.Pairwise fun d d' => d.origin = .payload → d'.origin ≠ .payload) ∧
        i.Unhidden zeros := by
  obtain ⟨-, -, hsettled, -⟩ := of_bindOperation h
  have hname : ∀ d ∈ i.declarations, ∃ member, d.var = Declaration.localName member := by
    intro d hd
    obtain ⟨_, -, m, -, _, _, _, _, hd'⟩ := hsettled d hd
    exact ⟨m.name, hd'.var⟩
  have hkeywords : ∀ d ∈ i.declarations, d.var ∉ Naming.keywords := by
    intro d hd
    obtain ⟨member, hvar⟩ := hname d hd
    exact hvar ▸ Declaration.localName_not_mem_keywords member
  have hreserved : ∀ d ∈ i.declarations, d.var ∉ Declaration.reserved := by
    intro d hd
    obtain ⟨member, hvar⟩ := hname d hd
    exact hvar ▸ Declaration.localName_not_mem member
  have hscoped : BodyScoped (g.Outside i) ["r"] [] (i.statements zeros) ↔
      i.declarations.Pairwise Declaration.Apart := by
    by_cases hempty : i.declarations = []
    · simp [Input.statements, Input.readsBody, hempty, BodyScoped]
    · obtain ⟨ha, hclosed⟩ := closedBy_of_bindOperation h hpackage hnamed hempty
      exact Input.scoped_statements_iff ha hclosed hz
  have hapart : i.declarations.Pairwise Declaration.Apart ↔
      (i.declarations.map (·.var)).Nodup ∧
        i.declarations.Pairwise fun d d' => d.origin = .payload → d'.origin ≠ .payload := by
    rw [List.Nodup, List.pairwise_map, ← List.pairwise_and_iff]
    rfl
  constructor
  · intro hwell
    obtain ⟨hdistinct, hpayloads⟩ := hapart.1 (hscoped.1 hwell.body)
    exact ⟨hdistinct, hpayloads, Input.pairwise_statements_iff.1 hwell.unhidden⟩
  · rintro ⟨hdistinct, hpayloads, hunhidden⟩
    exact ⟨hdistinct, hscoped.2 (hapart.2 ⟨hdistinct, hpayloads⟩), hkeywords, hreserved,
      Input.pairwise_statements_iff.2 hunhidden⟩

/-- A structure of texts, each of which is a query parameter. -/
def queryInput (members : List String) : Shape :=
  members.foldl (fun s m => s.addMember m ⟨"smithy.api#String"⟩
    (Traits.addAll {} [(Trait.httpQuery, .ofString m)])) { id := ⟨"ex#Input"⟩, kind := .structure_ }

/-- A catalog with the structure. -/
def queryRegistry (members : List String) : Registry :=
  { catalog := { entries := OrderedMap.insert {} "ex#Input" (queryInput members) } }

/-- An operation that takes the structure. -/
def query : Shape :=
  { id := ⟨"ex#Find"⟩, kind := .operation, input := ⟨"ex#Input"⟩
    traits := Traits.addAll {} [(Trait.http, ⟨.object
      [("method", .string "GET"), ("uri", .string "/find")]⟩)] }

/-- Two query parameters, one of them with the name of a keyword, are bound as one expects. -/
theorem wellScoped_query : ∃ i, (queryRegistry ["widget_id", "type"]).bindOperation query = .ok i ∧
    i.declarations.map (·.var) = ["widgetId", "type_"] ∧
    i.WellScoped ((queryRegistry ["widget_id", "type"]).Outside i) [.nil] := by
  have hbound : ((queryRegistry ["widget_id", "type"]).bindOperation query).toOption.map (fun i =>
      decide (i.declarations.map (·.var) = ["widgetId", "type_"] ∧
        ((i.declarations.map (·.var)).Nodup ∧
          (i.declarations.Pairwise fun d d' => d.origin = .payload → d'.origin ≠ .payload) ∧
          i.Unhidden [.nil]) ∧
        ∀ d ∈ i.declarations, (((queryRegistry ["widget_id", "type"]).ofMember
          d.member).toOption.bind (·.named?)).isNone)) = some true := by
    decide +kernel
  obtain ⟨i, hi, hbound⟩ := Option.map_eq_some_iff.1 hbound
  replace hi := Outcome.ok_of_toOption hi
  obtain ⟨hvars, hscoped, htexts⟩ := of_decide_eq_true hbound
  have hnamed : ∀ d ∈ i.declarations, ∀ r, (queryRegistry ["widget_id", "type"]).ofMember d.member =
      .ok r → ∀ s ∈ r.named?, Declares s := by
    intro d hd r hr s hs
    have hnone := htexts d hd
    rw [hr] at hnone
    have hempty : r.named? = none := Option.isNone_iff_eq_none.1 hnone
    rw [hempty] at hs
    cases hs
  have hz : ∀ z ∈ [Expr.nil], z.ClosedBy ((queryRegistry ["widget_id", "type"]).Outside i) [] :=
    List.forall_mem_singleton.2 (closedBy_lit _)
  exact ⟨i, hi, hvars, (wellScoped_iff hi (by decide) hnamed hz).2 hscoped⟩

/-- **The variable of a member can hide the support package**, though the name is accepted and there is
no other member. -/
theorem not_wellScoped_runtime : ∃ i, (queryRegistry ["runtime"]).bindOperation query = .ok i ∧
    i.declarations.map (·.member.name) = ["runtime"] ∧
    i.declarations.map (·.var) = [supportAlias] ∧
    (∀ d ∈ i.declarations, supportAlias ∈ bodyRefers (d.binding [.nil])) ∧
    ¬ i.WellScoped ((queryRegistry ["runtime"]).Outside i) [.nil] := by
  have hbound : ((queryRegistry ["runtime"]).bindOperation query).toOption.map (fun i =>
      decide (i.declarations.map (·.member.name) = ["runtime"] ∧
        i.declarations.map (·.var) = [supportAlias] ∧
        (∀ d ∈ i.declarations, supportAlias ∈ bodyRefers (d.binding [.nil])) ∧
        ¬ i.Unhidden [.nil])) = some true := by
    decide +kernel
  obtain ⟨i, hi, hbound⟩ := Option.map_eq_some_iff.1 hbound
  replace hi := Outcome.ok_of_toOption hi
  obtain ⟨hname, hvar, hrefers, hhidden⟩ := of_decide_eq_true hbound
  exact ⟨i, hi, hname, hvar, hrefers,
    fun hwell => hhidden (Input.pairwise_statements_iff.1 hwell.unhidden)⟩

end Registry
end Shapewright
