import Shapewright.Proofs.Binding.Scoping
import Shapewright.Proofs.Representation.Packages

/-!
# Imports of functions that bind inputs

A file is refused if it lacks the import of a package that its code names, and also if it has an import
that its code does not name.  The imports of a function that binds an input are collected from the
representations of its members, apart from the code.  This file shows that the two agree: every
member's variable has a type with the packages in its text that are imported for it, and nothing else
in the code names a package that this text does not.

* `Registry.Represents.packagesOf_type` — the packages in a type are those that are imported for it.
* `Declaration.Settled.usesOnly_statements`, `packagesOf_type_subset`, `supportAlias_mem_bodyPackages` —
  the packages that the statements for one member name.
* `Declaration.Settled.mem_packagesOf_type_iff` — those in the type are those that are imported.
* `Registry.mem_bodyPackages_iff` — the packages that the statements for an input name.
* `Registry.imports_exact` — the payoff: they are the packages that are imported.

Code that leaves the function returns values that are up to the caller, who sees to their imports.
-/

set_option autoImplicit false

namespace Shapewright

open Code

/-! ## Types -/

theorem Registry.packagesOf_builtin {kind : Kind} {builtin : String}
    (h : builtin? kind = some builtin) : packagesOf builtin = [] := by
  have hplain : builtin.toList.all Naming.isPlain = true := by
    cases kind <;> cases h <;> decide
  exact packagesOf_of_plain fun c hc => .inl (List.all_eq_true.1 hplain c hc)

/-- **The packages in the text of a type** are those that are imported for it. -/
theorem Registry.Represents.packagesOf_type {g : Registry} {s : Shape} {r : Representation}
    (h : g.Represents s r) : packagesOf r.type = r.imports.map Files.baseName := by
  induction h with
  | @simple s b hb =>
    rw [Representation.type]
    split
    · exact packagesOf_typeName s
    · exact packagesOf_builtin hb
  | timestamp => exact (by decide +kernel : packagesOf "time.Time" = ["time"].map Files.baseName)
  | blob => exact (by decide +kernel : packagesOf "[]byte" = [])
  | bigInteger => exact (by decide +kernel : packagesOf "*big.Int" = ["math/big"].map Files.baseName)
  | bigDecimal =>
    exact (by decide +kernel : packagesOf "decimal.Decimal" =
      ["github.com/shopspring/decimal"].map Files.baseName)
  | document => exact (by decide +kernel : packagesOf "interface\x7b\x7d" = [])
  | enum | intEnum | structure_ => exact packagesOf_typeName _
  | list _ _ _ _ ih => exact (packagesOf_slice _).trans ih
  | map _ _ _ _ ih => exact (packagesOf_map _).trans ih

/-! ## Statements for members -/

namespace Declaration

variable {g : Registry} {m : Member} {target : Shape} {origin : Origin} {uri : Option UriPattern}
  {r : Representation} {d : Declaration} {zeros : List Expr} {S : String → Prop}

theorem clear_localName (member : String) : Clear S (localName member) :=
  clear_of_eq_nil (packagesOf_of_plain fun _ => isPlain_or_of_mem_localName)

theorem Settled.packagesOf_type (h : Settled g m target origin uri r d) :
    packagesOf d.type = packagesOf r.type :=
  h.type ▸ r.packagesOf_declared _

/-- The packages in the type of the variable are those that are imported for the member besides the
support package, which must not be one that types are taken from. -/
theorem Settled.mem_packagesOf_type_iff (h : Settled g m target origin uri r d)
    (hpackage : g.options.package ∉ Registry.typePackages) {p : String} :
    p ∈ packagesOf d.type ↔
      ∃ path ∈ d.imports, path ≠ g.options.package ∧ Files.baseName path = p := by
  obtain ⟨_, -, hrepresents⟩ := Registry.represents_of_ofMember h.represented
  rw [h.packagesOf_type, hrepresents.packagesOf_type, List.mem_map, h.imports]
  simp only [← and_assoc, Registry.mem_importSet_imports_iff hpackage]

theorem usesOnly_absent (hS : S supportAlias) (hz : ∀ z ∈ zeros, z.UsesOnly S) :
    ∀ s ∈ d.absent zeros, s.UsesOnly S := by
  have horigin : d.origin.constant.toList.all Naming.isPlain = true := by
    unfold Origin.constant
    split <;> decide
  have hmissing : (supportCall "MissingField" [.str d.name, support d.origin.constant]).UsesOnly S :=
    usesOnly_supportCall hS (by decide) (by simp [usesOnly_support hS horigin])
  unfold absent
  split
  · simpa [or_imp, forall_and, hmissing] using hz
  · simp

/-- **The statements for a member** name the support package and the packages in the type of its
variable, besides what is returned with an error. -/
theorem Settled.usesOnly_statements (h : Settled g m target origin uri r d) (hS : S supportAlias)
    (htype : Clear S d.type) (hz : ∀ z ∈ zeros, z.UsesOnly S) :
    ∀ s ∈ d.statements zeros, s.UsesOnly S := by
  have hr : Clear S r.type := by rwa [Clear, h.packagesOf_type] at htype
  obtain ⟨hextraction, hconvert⟩ := Binding.usesOnly_bind hS hr h.bound
  have hvar : Clear S d.var := h.var ▸ clear_localName m.name
  have hdeclared : (Stmt.var d.var d.type d.default?).UsesOnly S := usesOnly_var.2 ⟨hvar, htype,
    fun _ hx => Representation.usesOnly_defaultValue hS hr (h.defaultValue_eq hx)⟩
  have hbranch (init : Option Stmt) (hinit : ∀ s ∈ init, s.UsesOnly S) :
      (Stmt.branch init (.ident "ok") (d.convert.assign d.var d.pointer zeros)
        (d.absent zeros)).UsesOnly S :=
    usesOnly_branch.2 ⟨hinit, by simp [ownTexts], Conversion.usesOnly_assign hconvert hvar _ hz,
      usesOnly_absent hS hz⟩
  unfold statements
  simp only
  split
  · have htaken : (Stmt.define ["raw", "ok", "err"] [d.extraction.expr]).UsesOnly S := by
      simp [ownTexts, hextraction]
    exact List.forall_mem_cons.2 ⟨hdeclared, List.forall_mem_cons.2 ⟨htaken, List.forall_mem_cons.2
      ⟨usesOnly_returnOnError hz, List.forall_mem_singleton.2 (hbranch none (by simp))⟩⟩⟩
  · have htaken : (Stmt.define ["raw", "ok"] [d.extraction.expr]).UsesOnly S := by
      simp [ownTexts, hextraction]
    refine List.forall_mem_cons.2 ⟨hdeclared, List.forall_mem_singleton.2 (hbranch _ fun s hs => ?_)⟩
    exact Option.some.inj hs ▸ htaken

/-- The packages in the type of the variable are named where it is declared. -/
theorem packagesOf_type_subset : packagesOf d.type ⊆ bodyPackages (d.statements zeros) := by
  intro p hp
  rw [statements_eq, bodyPackages, bodyWords, List.flatMap_append, List.mem_append]
  exact .inl (List.mem_flatMap.2 ⟨d.type, by simp, hp⟩)

/-- The support package is named where the raw value is taken from the request. -/
theorem Settled.supportAlias_mem_bodyPackages (h : Settled g m target origin uri r d) :
    supportAlias ∈ bodyPackages (d.statements zeros) := by
  have hplain : ∀ name ∈ Binding.takers, name.toList.all Naming.isPlain = true := by decide
  obtain ⟨⟨name, hname, texts, he⟩, -, -⟩ := Binding.of_bind h.bound
  have hcalled : supportAlias ∈ d.extraction.expr.packages :=
    he ▸ supportAlias_mem_packages (hplain name hname) _
  have hwords : d.extraction.expr.words ⊆ bodyWords (d.statements zeros) := by
    unfold statements
    simp only
    rw [bodyWords_eq]
    split <;> intro w hw <;> simp [hw]
  obtain ⟨w, hw, hp⟩ := List.mem_flatMap.1 hcalled
  exact List.mem_flatMap.2 ⟨w, hwords hw, hp⟩

end Declaration

/-! ## Statements for inputs -/

namespace Registry

variable {g : Registry} {op : Shape} {i : Input} {zeros : List Expr} {p path : String}

/-- What the statements for a member name is named by those for the input. -/
theorem bodyPackages_subset {d : Declaration} (hd : d ∈ i.declarations) :
    bodyPackages (d.statements zeros) ⊆ bodyPackages (i.statements zeros) := by
  intro p hp
  obtain ⟨w, hw, hp⟩ := List.mem_flatMap.1 hp
  rw [bodyWords_eq] at hw
  obtain ⟨s, hs, hw⟩ := List.mem_flatMap.1 hw
  refine List.mem_flatMap.2 ⟨w, ?_, hp⟩
  rw [bodyWords_eq]
  exact List.mem_flatMap.2
    ⟨s, List.mem_append_right _ (List.mem_flatMap.2 ⟨d, hd, hs⟩), hw⟩

/-- **The statements for an input** that has members name the support package and the packages in the
types of the members' variables. -/
theorem mem_bodyPackages_iff (h : g.bindOperation op = .ok i) (hne : i.declarations ≠ [])
    (hp : ∀ z ∈ zeros, p ∉ z.packages) :
    p ∈ bodyPackages (i.statements zeros) ↔
      p = supportAlias ∨ ∃ d ∈ i.declarations, p ∈ packagesOf d.type := by
  obtain ⟨-, -, hsettled, -⟩ := of_bindOperation h
  constructor
  · intro hmem
    -- What the caller returns belongs to `S`, so that it bounds the packages of the whole code.
    let S : String → Prop := fun q => q = supportAlias ∨
      (∃ d ∈ i.declarations, q ∈ packagesOf d.type) ∨ ∃ z ∈ zeros, q ∈ z.packages
    have hS : S supportAlias := .inl rfl
    have hz : ∀ z ∈ zeros, z.UsesOnly S := fun z hz =>
      Expr.usesOnly_iff.2 fun q hq => .inr (.inr ⟨z, hz, hq⟩)
    have hall : ∀ s ∈ i.statements zeros, s.UsesOnly S := by
      refine List.forall_mem_append.2 ⟨?_, forall_mem_flatMap_iff.2 fun d hd => ?_⟩
      · have hdocument : (supportCall "BodyDocument" [Binding.request]).UsesOnly S :=
          usesOnly_supportCall hS (by decide) (by simp [Binding.request, ownTexts])
        split
        · simp [ownTexts, hdocument, usesOnly_returnOnError hz]
        · simp
      · obtain ⟨_, -, _, -, _, _, _, _, hd'⟩ := hsettled d hd
        exact hd'.usesOnly_statements hS (fun q hq => .inr (.inl ⟨d, hd, hq⟩)) hz
    rcases usesOnly_body_iff.1 hall p hmem with rfl | htype | ⟨z, hz', hzp⟩
    · exact .inl rfl
    · exact .inr htype
    · exact absurd hzp (hp z hz')
  · rintro (rfl | ⟨d, hd, htype⟩)
    · obtain ⟨d, hd⟩ := List.exists_mem_of_ne_nil _ hne
      obtain ⟨_, -, _, -, _, _, _, _, hd'⟩ := hsettled d hd
      exact bodyPackages_subset hd hd'.supportAlias_mem_bodyPackages
    · exact bodyPackages_subset hd (Declaration.packagesOf_type_subset htype)

/-- The imports of an input, besides the support package, are those of its members. -/
theorem mem_imports_iff (h : g.bindOperation op = .ok i) :
    path ∈ i.imports ∧ path ≠ g.options.package ↔
      ∃ d ∈ i.declarations, path ∈ d.imports ∧ path ≠ g.options.package := by
  obtain ⟨-, -, hsettled, himports⟩ := of_bindOperation h
  constructor
  · rintro ⟨hmem, hne⟩
    rw [himports, importsOf] at hmem
    split at hmem
    · cases hmem
    · rw [mem_importSet, List.mem_cons, List.mem_flatMap] at hmem
      obtain ⟨d, hd, hpath⟩ := hmem.1.resolve_left hne
      exact ⟨d, hd, hpath, hne⟩
  · rintro ⟨d, hd, hpath, hne⟩
    obtain ⟨_, -, _, -, _, _, _, _, hd'⟩ := hsettled d hd
    have hempty : path ≠ "" := (mem_importSet.1 (hd'.imports ▸ hpath)).2
    exact ⟨himports ▸ mem_importsOf hd (.inr hpath) hempty, hne⟩

/-- The packages in the types of members' variables are the others that are imported. -/
theorem exists_packagesOf_type_iff (h : g.bindOperation op = .ok i)
    (hpackage : g.options.package ∉ typePackages) :
    (∃ d ∈ i.declarations, p ∈ packagesOf d.type) ↔
      ∃ path ∈ i.imports, path ≠ g.options.package ∧ Files.baseName path = p := by
  obtain ⟨-, -, hsettled, -⟩ := of_bindOperation h
  have htype : ∀ d ∈ i.declarations, p ∈ packagesOf d.type ↔
      ∃ path ∈ d.imports, path ≠ g.options.package ∧ Files.baseName path = p := by
    intro d hd
    obtain ⟨_, -, _, -, _, _, _, _, hd'⟩ := hsettled d hd
    exact hd'.mem_packagesOf_type_iff hpackage
  constructor
  · rintro ⟨d, hd, hp⟩
    obtain ⟨path, hpath, hne, hname⟩ := (htype d hd).1 hp
    exact ⟨path, ((mem_imports_iff h).2 ⟨d, hd, hpath, hne⟩).1, hne, hname⟩
  · rintro ⟨path, hmem, hne, hname⟩
    obtain ⟨d, hd, hpath, -⟩ := (mem_imports_iff h).1 ⟨hmem, hne⟩
    exact ⟨d, hd, (htype d hd).2 ⟨path, hpath, hne, hname⟩⟩

/-- **Imports are exact.**  They are in order, each once.  An input without members needs none.  For
any other the support package is imported, and the packages that the statements name are that package
and the other imported ones, unless values that the caller chooses to return with errors name more.
The support package must not be one that types are taken from. -/
theorem imports_exact (h : g.bindOperation op = .ok i)
    (hpackage : g.options.package ∉ typePackages) (zeros : List Expr) :
    i.imports.Pairwise (· < ·) ∧
    (i.declarations = [] → i.imports = [] ∧ bodyPackages (i.statements zeros) = []) ∧
    (i.declarations ≠ [] → g.options.package ∈ i.imports ∧
      ∀ p, (∀ z ∈ zeros, p ∉ z.packages) → (p ∈ bodyPackages (i.statements zeros) ↔
        p = supportAlias ∨
          ∃ path ∈ i.imports, path ≠ g.options.package ∧ Files.baseName path = p)) := by
  obtain ⟨-, -, -, himports⟩ := of_bindOperation h
  refine ⟨?_, fun hempty => ⟨?_, ?_⟩, fun hne => ⟨?_, fun p hp => ?_⟩⟩
  · rw [himports, importsOf]
    split
    · exact .nil
    · exact pairwise_importSet _
  · rw [himports, hempty]
    rfl
  · simp [Input.statements, Input.readsBody, hempty, bodyPackages, bodyWords]
  · obtain ⟨d, hd⟩ := List.exists_mem_of_ne_nil _ hne
    exact himports ▸ mem_importsOf hd (.inl rfl) (package_ne_empty _)
  · rw [mem_bodyPackages_iff h hne hp, exists_packagesOf_type_iff h hpackage]

/-- An order: when it was placed, and amounts. -/
def orderInput : Shape :=
  let placed := Traits.addAll {} [(Trait.httpHeader, .ofString "X-Placed")]
  ({ id := ⟨"ex#Order"⟩, kind := .structure_ } : Shape)
    |>.addMember "placed" ⟨"smithy.api#Timestamp"⟩ placed
    |>.addMember "amounts" ⟨"ex#Amounts"⟩ {}

/-- A catalog with the order. -/
def orderRegistry : Registry :=
  let amounts : Shape :=
    { id := ⟨"ex#Amounts"⟩, kind := .list
      item := some { name := "member", container := ⟨"ex#Amounts"⟩
                     target := ⟨"smithy.api#BigDecimal"⟩ } }
  { catalog := { entries := OrderedMap.insert (.insert {} "ex#Amounts" amounts) "ex#Order" orderInput } }

/-- An operation that takes the order. -/
def placeOrder : Shape :=
  { id := ⟨"ex#PlaceOrder"⟩, kind := .operation, input := ⟨"ex#Order"⟩
    traits := Traits.addAll {} [(Trait.http, ⟨.object
      [("method", .string "POST"), ("uri", .string "/orders")]⟩)] }

/-- The time is taken from a header, the amounts from the body, and the packages of both are imported,
but not that of big integers. -/
theorem imports_exact_order : ∃ i, orderRegistry.bindOperation placeOrder = .ok i ∧
    i.declarations.map (·.type) = ["*time.Time", "[]decimal.Decimal"] ∧
    i.imports.Pairwise (· < ·) ∧ orderRegistry.options.package ∈ i.imports ∧
    ∀ p, p ∈ [supportAlias, "time", "decimal"] ↔ p = supportAlias ∨
      ∃ path ∈ i.imports, path ≠ orderRegistry.options.package ∧ Files.baseName path = p := by
  have hbound : (orderRegistry.bindOperation placeOrder).toOption.map (fun i =>
      decide (i.declarations.map (·.type) = ["*time.Time", "[]decimal.Decimal"] ∧
        bodyPackages (i.statements [.nil]) ⊆ [supportAlias, "time", "decimal"] ∧
        [supportAlias, "time", "decimal"] ⊆ bodyPackages (i.statements [.nil]))) = some true := by
    decide +kernel
  obtain ⟨i, hi, hbound⟩ := Option.map_eq_some_iff.1 hbound
  replace hi := Outcome.ok_of_toOption hi
  obtain ⟨htypes, hnamed, hnames⟩ := of_decide_eq_true hbound
  have hne : i.declarations ≠ [] := by
    intro hempty
    rw [hempty] at htypes
    cases htypes
  obtain ⟨hsorted, -, hexact⟩ := imports_exact hi (by decide) [.nil]
  obtain ⟨hpackage, hexact⟩ := hexact hne
  refine ⟨i, hi, htypes, hsorted, hpackage, fun p => ?_⟩
  rw [← hexact p (List.forall_mem_singleton.2 List.not_mem_nil)]
  exact ⟨fun hp => hnames hp, fun hp => hnamed hp⟩

end Registry
end Shapewright
