import Shapewright.Proofs.Binding.Scoping
import Shapewright.Proofs.Generated.Complete
import Shapewright.Proofs.Generated.Constructor

/-!
# The file with the types

The declarations of each shape are made by themselves.  A shape for which they cannot be made is left
out of the file and reported; but packages are noted for a structure as soon as its members are settled,
which is before its defaults are looked at.

* `Package.outcome`, `Package.succeeds` — what becomes of a shape.
* `Registry.mem_typeImports_of_error` — the packages that are noted for a shape that fails.
* `exists_structDecl_eq_error_iff` — a structure whose members are settled fails for a default.
* `Registry.avoids_typeDecl` — no shape fails for want of an end where no container contains itself.
* `Package.contributed`, `Package.leftBehind` — the packages of shapes that are in the file, and of those
  that are not.
* `Package.types_spec` — the payoff: what is in the file and what is reported, and when the imports are
  those of the shapes that are in the file.
-/

set_option autoImplicit false

namespace Shapewright

open Code

/-! ## Sets of packages -/

/-- **Lists of imports** are the same if the same packages are in them. -/
theorem importSet_eq_iff {xs ys : List String} :
    importSet xs = importSet ys ↔ ∀ path, path ≠ "" → (path ∈ xs ↔ path ∈ ys) := by
  constructor
  · intro h path hne
    have hmem : path ∈ importSet xs ↔ path ∈ importSet ys := by rw [h]
    simpa [Registry.mem_importSet, hne] using hmem
  · intro h
    have hnodup (zs : List String) : (importSet zs).Nodup :=
      (Registry.pairwise_importSet zs).imp Std.ne_of_lt
    have hperm : (importSet xs).Perm (importSet ys) := by
      refine (List.perm_ext_iff_of_nodup (hnodup xs) (hnodup ys)).2 fun path => ?_
      rw [Registry.mem_importSet, Registry.mem_importSet]
      exact and_congr_left fun hne => h path hne
    exact hperm.eq_of_pairwise (fun a b _ _ hab hba => absurd hba (Std.not_gt_of_lt hab))
      (Registry.pairwise_importSet xs) (Registry.pairwise_importSet ys)

/-! ## Shapes that fail -/

/-- A structure whose members are settled fails for a default that does not suit. -/
theorem exists_structDecl_eq_error_iff (cs : List Contributor) {r : Record} :
    (∃ reason, structDecl cs r = .error reason) ↔
      ∃ f ∈ r.fields, ∃ t reason, f.typed = some t ∧
        Record.defaultStatements f t = .error reason := by
  have hfield (zero : Expr) (f : Field) : (∃ reason, Record.readStatements zero f = .error reason) ↔
      ∃ t reason, f.typed = some t ∧ Record.defaultStatements f t = .error reason := by
    cases ht : f.typed with
    | none => simp [Record.readStatements, ht]
    | some t =>
      rw [Record.readStatements, ht]
      cases hd : Record.defaultStatements f t with
      | error reason => simp [hd, bind, Except.bind]
      | ok stmts => simp [hd, bind, Except.bind, pure, Except.pure]
  have hread (zero : Expr) : (∃ reason, r.fields.mapM (Record.readStatements zero) = .error reason) ↔
      ∃ f ∈ r.fields, ∃ t reason, f.typed = some t ∧ Record.defaultStatements f t = .error reason := by
    rw [Outcome.exists_mapM_eq_error_iff]
    simp only [hfield]
  rw [← hread (.composite r.typeName []), structDecl, Record.fromJson]
  cases r.fields.mapM (Record.readStatements (.composite r.typeName [])) with
  | error reason => simp [bind, Except.bind]
  | ok reads => simp [bind, Except.bind, pure, Except.pure]

namespace Registry

variable {g : Registry} {cs : List Contributor} {s : Shape} {reason : Failure}

/-- Shapes that types are declared for have a representation. -/
theorem exists_ofShape (hk : s.kind ∈ declaredKinds) : ∃ r, g.ofShape s = .ok r := by
  have hall : ∀ kind ∈ declaredKinds, (builtin? kind).isSome = true ∨ kind = .enum ∨ kind = .intEnum ∨
      kind = .structure_ ∨ kind = .union := by decide
  rw [ofShape, depthBound, resolve]
  rcases hall _ hk with h | h | h | h | h
  · obtain ⟨builtin, hb⟩ := Option.isSome_iff_exists.1 h
    rw [hb]
    exact ⟨_, rfl⟩
  all_goals
    rw [h]
    exact ⟨_, rfl⟩

/-- Declarations can only fail for structures, unions and enumerations of integers. -/
theorem kind_of_typeDecl_eq_error (hk : s.kind ∈ declaredKinds)
    (h : g.typeDecl cs s = .error reason) :
    s.kind = .structure_ ∨ s.kind = .union ∨ s.kind = .intEnum := by
  rcases Outcome.error_or_of_bind h with hr | ⟨r, -, h⟩
  · obtain ⟨r, hok⟩ := exists_ofShape (g := g) hk
    rw [hok] at hr
    cases hr
  split at h
  · rename_i henum
    rcases Outcome.error_or_of_bind h with hr | ⟨record, -, h⟩
    · rw [record, henum] at hr
      cases hr
    · cases h
  · rename_i hkind
    exact .inr (.inr hkind)
  · rename_i hkind
    exact .inl hkind
  · rename_i hkind
    exact .inr (.inl hkind)
  · split at h
    · split at h <;> cases h
    · cases h

/-- **What a shape that fails leaves behind**: the packages of a structure or union whose members are
settled. -/
theorem mem_typeImports_of_error (hk : s.kind ∈ declaredKinds) (h : g.typeDecl cs s = .error reason)
    {path : String} : path ∈ g.typeImports cs s ↔
      (s.kind = .structure_ ∨ s.kind = .union) ∧
        ∃ r, g.record s = .ok r ∧ (path = g.options.package ∨ path ∈ r.imports) := by
  rw [typeImports, h, List.append_nil]
  rcases kind_of_typeDecl_eq_error hk h with hkind | hkind | hkind
  · rw [hkind]
    cases g.record s <;> simp
  · rw [hkind]
    cases g.record s <;> simp
  · simp [hkind]

/-! ## Shapes without an end -/

open Outcome

theorem avoids_record (hc : g.catalog.Keyed) (ha : g.catalog.Acyclic) (s : Shape) :
    (g.record s).Avoids Failure.IsEndless := by
  have hfield (m : Member) : (g.field m).Avoids Failure.IsEndless :=
    (avoids_target _ m).bind fun _ _ =>
      ((avoids_ofMember hc ha m).at_ Failure.losing_isEndless _).bind fun _ _ => avoids_ok _
  unfold record
  split
  · exact avoids_ok _
  · exact (avoids_mapM fun m _ => hfield m).bind fun _ _ => avoids_ok _

theorem avoids_intEnumDecl (cs : List Contributor) (r : Record) :
    (intEnumDecl cs r).Avoids Failure.IsEndless := by
  refine (avoids_mapM fun f _ => ?_).bind fun _ _ => avoids_ok _
  split
  · exact avoids_ok _
  · exact avoids_error (by simp [Failure.IsEndless, Failure.cause])

theorem avoids_structDecl (cs : List Contributor) (r : Record) :
    (structDecl cs r).Avoids Failure.IsEndless := by
  have hdefault (t : FieldType) (n : Option Node) (place : Place) :
      ((t.representation.defaultValue n).at_ place).Avoids Failure.IsEndless :=
    ((Representation.avoids_defaultValue _ n).mono Failure.losing_isEndless.isLost).at_
      Failure.losing_isEndless place
  have hread (zero : Expr) (f : Field) :
      (Record.readStatements zero f).Avoids Failure.IsEndless := by
    unfold Record.readStatements
    split
    · exact avoids_ok _
    · refine Avoids.bind ?_ fun _ _ => avoids_ok _
      unfold Record.defaultStatements
      simp only
      split
      · exact avoids_ok _
      · exact (hdefault _ _ _).bind fun _ _ => avoids_ok _
  exact ((avoids_mapM fun f _ => hread _ f).bind fun _ _ => avoids_ok _).bind fun _ _ => avoids_ok _

/-- **The declarations of a shape** are made, or fail for another reason than the bound, where no
container contains itself. -/
theorem avoids_typeDecl (hc : g.catalog.Keyed) (ha : g.catalog.Acyclic)
    (hk : s.kind ∈ declaredKinds) (cs : List Contributor) :
    (g.typeDecl cs s).Avoids Failure.IsEndless := by
  obtain ⟨r, hr⟩ := exists_ofShape (g := g) hk
  have hrecord := avoids_record hc ha s
  unfold typeDecl
  rw [hr]
  refine (avoids_ok r).bind fun r _ => ?_
  split
  · exact hrecord.bind fun _ _ => avoids_ok _
  · exact hrecord.bind fun r _ => (avoids_intEnumDecl cs r).bind fun _ _ => avoids_ok _
  · exact hrecord.bind fun r _ => (avoids_structDecl cs r).bind fun _ _ => avoids_ok _
  · exact hrecord.bind fun r _ => (avoids_structDecl cs r).bind fun _ _ => avoids_ok _
  · split
    · split <;> exact avoids_ok _
    · exact avoids_ok _

end Registry

/-! ## The file -/

namespace Package

variable {p : Package} {s : Shape} {path : String}

/-- What becomes of a shape: its declarations, if it needs any, or why they cannot be made. -/
def outcome (p : Package) (s : Shape) : Outcome (Option TypeDecl) :=
  p.registry.typeDecl p.contributors s

/-- The declarations for a shape can be made. -/
def succeeds (p : Package) (s : Shape) : Bool := (p.outcome s).isOk

/-- The source of what is declared for a shape. -/
def textOf (p : Package) (s : Shape) : Option String := (p.outcome s).toOption.join.map (·.text)

/-- The packages of the shapes whose declarations can be made. -/
def contributed (p : Package) : List String :=
  (p.shapes.filter p.succeeds).flatMap (p.registry.typeImports p.contributors)

/-- The packages that are noted for shapes whose declarations cannot be made. -/
def leftBehind (p : Package) : List String :=
  (p.shapes.filter fun s => !p.succeeds s).flatMap (p.registry.typeImports p.contributors)

theorem succeeds_eq_false_iff : p.succeeds s = false ↔ ∃ reason, p.outcome s = .error reason := by
  rw [succeeds]
  cases p.outcome s <;> simp [Except.isOk, Except.toBool]

/-- Failures and shapes that fail go together. -/
theorem forall₂_typeFailures (p : Package) :
    List.Forall₂ (fun s f => ∃ reason, p.outcome s = .error reason ∧ f = .within (.shape s.id) reason)
      (p.shapes.filter fun s => !p.succeeds s) p.typeFailures := by
  rw [typeFailures, declarations]
  induction p.shapes with
  | nil => exact .nil
  | cons s rest ih =>
    rw [List.map_cons, List.filter_cons, List.filterMap_cons]
    cases hs : p.outcome s with
    | ok d =>
      have hsucceeds : p.succeeds s = true := by rw [succeeds, hs]; rfl
      rw [hsucceeds, show p.registry.typeDecl p.contributors s = .ok d from hs]
      exact ih
    | error reason =>
      have hfails : p.succeeds s = false := by rw [succeeds, hs]; rfl
      rw [hfails, show p.registry.typeDecl p.contributors s = .error reason from hs]
      exact .cons ⟨reason, hs, rfl⟩ ih

/-- No failure stands for a walk that does not end. -/
theorem not_isEndless_of_mem_typeFailures (hc : p.registry.catalog.Keyed)
    (ha : p.registry.catalog.Acyclic) {f : Failure} (hf : f ∈ p.typeFailures) : ¬ f.IsEndless := by
  obtain ⟨⟨s, d⟩, hsd, h⟩ := List.mem_filterMap.1 hf
  obtain ⟨s, hs, heq⟩ := List.mem_map.1 hsd
  obtain ⟨rfl, rfl⟩ := Prod.mk.inj heq
  simp only at h
  split at h
  · cases h
  · rename_i reason hreason
    obtain rfl := Option.some.inj h
    exact Registry.avoids_typeDecl hc ha (mem_shapes_iff.1 hs).2.2.1 _ reason hreason

/-- What is declared is declared for the shapes that succeed. -/
theorem map_text_declared (p : Package) :
    p.declared.map (·.text) = (p.shapes.filter p.succeeds).filterMap p.textOf := by
  rw [declared, declarations, List.filterMap_map, List.map_filterMap, List.filterMap_filter]
  refine List.filterMap_congr fun s _ => ?_
  show (p.outcome s).toOption.join.map (·.text) = _
  rw [succeeds, textOf]
  cases p.outcome s <;> rfl

/-- What is noted comes from shapes that succeed or from others. -/
theorem mem_noted_iff : path ∈ p.shapes.flatMap (p.registry.typeImports p.contributors) ↔
    path ∈ p.contributed ∨ path ∈ p.leftBehind := by
  simp only [contributed, leftBehind, List.mem_flatMap, List.mem_filter, Bool.not_eq_true']
  constructor
  · rintro ⟨s, hs, hpath⟩
    cases hsucceeds : p.succeeds s with
    | true => exact .inl ⟨s, ⟨hs, hsucceeds⟩, hpath⟩
    | false => exact .inr ⟨s, ⟨hs, hsucceeds⟩, hpath⟩
  · rintro (⟨s, hs, hpath⟩ | ⟨s, hs, hpath⟩) <;> exact ⟨s, hs.1, hpath⟩

/-- **What is left behind** is left by structures and unions whose members are settled and that have a
default that does not suit. -/
theorem mem_leftBehind_iff : path ∈ p.leftBehind ↔
    ∃ s ∈ p.shapes, (s.kind = .structure_ ∨ s.kind = .union) ∧ ∃ r, p.registry.record s = .ok r ∧
      (∃ f ∈ r.fields, ∃ t reason, f.typed = some t ∧
        Record.defaultStatements f t = .error reason) ∧
      (path = p.registry.options.package ∨ path ∈ r.imports) := by
  have houtcome {s : Shape} (hk : s.kind = .structure_ ∨ s.kind = .union) {r : Record}
      (hr : p.registry.record s = .ok r) : (∃ reason, p.outcome s = .error reason) ↔
        ∃ f ∈ r.fields, ∃ t reason, f.typed = some t ∧
          Record.defaultStatements f t = .error reason := by
    rw [← exists_structDecl_eq_error_iff p.contributors, outcome,
      Registry.typeDecl_of_struct hk, hr]
    show (∃ reason, (structDecl p.contributors r).map some = .error reason) ↔ _
    cases structDecl p.contributors r <;> simp [Except.map]
  simp only [leftBehind, List.mem_flatMap, List.mem_filter, Bool.not_eq_true', and_assoc,
    succeeds_eq_false_iff]
  refine exists_congr fun s => and_congr_right fun hs => ?_
  have hkind := (mem_shapes_iff.1 hs).2.2.1
  constructor
  · rintro ⟨⟨reason, hreason⟩, hpath⟩
    obtain ⟨hk, r, hr, hpath⟩ := (Registry.mem_typeImports_of_error hkind hreason).1 hpath
    exact ⟨hk, r, hr, (houtcome hk hr).1 ⟨reason, hreason⟩, hpath⟩
  · rintro ⟨hk, r, hr, hfails, hpath⟩
    obtain ⟨reason, hreason⟩ := (houtcome hk hr).2 hfails
    exact ⟨⟨reason, hreason⟩,
      (Registry.mem_typeImports_of_error hkind hreason).2 ⟨hk, r, hr, hpath⟩⟩

theorem importOf_injective (p : Package) : Function.Injective p.importOf :=
  fun _ _ h => congrArg Import.path h

/-- **The file with the types** holds the declarations of exactly the shapes for which they can be made,
in order, and exactly the others are reported, in order; a file that cannot be laid out is one failure
more. The imports are those of the shapes in the file exactly if these need every package that a
structure or union left behind when one of its defaults did not suit. Where no container contains
itself, no failure stands for a walk that does not end. -/
theorem types_spec (p : Package) :
    (List.Forall₂
        (fun s f => ∃ reason, p.outcome s = .error reason ∧ f = .within (.shape s.id) reason)
        (p.shapes.filter fun s => !p.succeeds s) p.typeFailures ∧
      p.types.failures = p.typeFailures ++
        if p.declared.all (·.parses) = true ∧ p.typesFile.tidy?.isSome = true then []
        else [.unparsable]) ∧
    (p.typesFile.body = "\n".intercalate ((p.shapes.filter p.succeeds).filterMap p.textOf) ∧
      (p.types.text = p.typesFile.raw ∨ p.typesFile.tidy? = some p.types.text)) ∧
    (p.typesFile.imports = (importSet p.contributed).map p.importOf ↔
      ∀ path ∈ p.leftBehind, path ≠ "" → path ∈ p.contributed) ∧
    (∀ path, path ∈ p.leftBehind ↔
      ∃ s ∈ p.shapes, (s.kind = .structure_ ∨ s.kind = .union) ∧ ∃ r, p.registry.record s = .ok r ∧
        (∃ f ∈ r.fields, ∃ t reason, f.typed = some t ∧
          Record.defaultStatements f t = .error reason) ∧
        (path = p.registry.options.package ∨ path ∈ r.imports)) ∧
    (p.registry.catalog.Keyed → p.registry.catalog.Acyclic →
      ∀ f ∈ p.types.failures, ¬ f.IsEndless) := by
  have hfailures : p.types.failures = p.typeFailures ++
      if p.declared.all (·.parses) = true ∧ p.typesFile.tidy?.isSome = true then []
      else [.unparsable] := by
    rw [types, Source.ofFile]
    cases hparses : p.declared.all (·.parses) <;> cases htidy : p.typesFile.tidy? <;> simp
  refine ⟨⟨forall₂_typeFailures p, hfailures⟩, ⟨?_, ?_⟩, ?_, fun path => mem_leftBehind_iff,
    fun hc ha f hf => ?_⟩
  · rw [← map_text_declared]
    rfl
  · rw [types, Source.ofFile]
    cases hparses : p.declared.all (·.parses) <;> cases htidy : p.typesFile.tidy? <;> simp
  · have himports : p.typesFile.imports =
        (importSet (p.shapes.flatMap (p.registry.typeImports p.contributors))).map p.importOf := rfl
    rw [himports, (List.map_injective_iff.2 (importOf_injective p)).eq_iff, importSet_eq_iff]
    simp only [mem_noted_iff]
    constructor
    · exact fun h path hleft hne => (h path hne).1 (.inr hleft)
    · exact fun h path hne => ⟨fun hmem => hmem.elim id fun hleft => h path hleft hne, .inl⟩
  · rw [hfailures] at hf
    rcases List.mem_append.1 hf with hf | hf
    · exact not_isEndless_of_mem_typeFailures hc ha hf
    · split at hf
      · cases hf
      · rw [List.mem_singleton.1 hf]
        simp [Failure.IsEndless, Failure.cause]

/-- A structure with a default that is no time, and a text. -/
def gales : Assembly :=
  (({ version := "2.0"
      cells := [{ target := "smithy.api#Timestamp"
                  traits := some (.insert {} Trait.default_ (some ⟨.string "noon"⟩)) }] }
    : Assembly).insert "ex#Gale"
      (some { type := "structure", members := some (.insert {} "at" (some 0)) })).insert
    "ex#Name" (some { type := "string" })

/-- Their catalog. -/
def galesCatalog : Catalog :=
  { entries := (OrderedMap.insert {} "ex#Gale"
      (({ id := ⟨"ex#Gale"⟩, kind := .structure_ } : Shape).addMember "at" ⟨"smithy.api#Timestamp"⟩
        (.insert {} Trait.default_ (some ⟨.string "noon"⟩)))).insert "ex#Name"
      { id := ⟨"ex#Name"⟩, kind := .string } }

/-- **Packages are left behind** by the structure, which is not in the file. -/
theorem imports_gales :
    gales.toCatalog.run.1 = .ok galesCatalog ∧
      (ofConfig galesCatalog Contributor.all {}).declared.map (·.text) = ["type Name string\n"] ∧
      (ofConfig galesCatalog Contributor.all {}).contributed = [] ∧
      { path := "time" } ∈ (ofConfig galesCatalog Contributor.all {}).typesFile.imports := by
  refine ⟨by rfl, by decide +kernel, by decide +kernel, ?_⟩
  have hnoted : "time" ∈ (ofConfig galesCatalog Contributor.all {}).shapes.flatMap
      ((ofConfig galesCatalog Contributor.all {}).registry.typeImports Contributor.all) := by
    decide +kernel
  have hmem := Registry.mem_importSet.2 ⟨hnoted, by decide⟩
  exact List.mem_map.2 ⟨"time", hmem, by decide +kernel⟩

end Package
end Shapewright
