import Shapewright.Generator
import Shapewright.Proofs.Failure

/-!
# What a run of the generator reports

Each shape and each service is generated by itself, and what goes wrong is collected: declarations
that could not be made, and files that cannot be laid out.  A run ends without a failure only if
nothing was collected.

* `Code.SourceFile.isSome_tidy?` — a file can be laid out if its parts are made of characters that may
  stand in a source text, and its package has a name.
* `Package.reported` — what is collected for a package.
* `Package.typeFailures_of_run` — a run without a failure made every declaration that was to be made.
* `Package.run_of_reported` — a run that prints its files ends without a failure if none was
  collected.
-/

set_option autoImplicit false

namespace Shapewright

/-! ## Files that can be laid out -/

namespace Code

/-- Whether a text is made of characters that may stand in a source text. -/
def isSourceText (s : String) : Bool := s.toList.all isSourceChar

theorem isSourceText_append {s t : String} (hs : isSourceText s = true)
    (ht : isSourceText t = true) : isSourceText (s ++ t) = true := by
  rw [isSourceText, String.toList_append, List.all_append, Bool.and_eq_true]
  exact ⟨hs, ht⟩

theorem isSourceText_join {texts : List String} (h : texts.all isSourceText = true) :
    isSourceText (String.join texts) = true := by
  have hfold (s : String) (hs : isSourceText s = true) :
      isSourceText (texts.foldl (· ++ ·) s) = true := by
    induction texts generalizing s with
    | nil => exact hs
    | cons t texts ih =>
      rw [List.all_cons, Bool.and_eq_true] at h
      exact ih h.2 _ (isSourceText_append hs h.1)
  exact hfold "" rfl

theorem isSourceText_trim {s : String} (h : isSourceText s = true) :
    isSourceText (Text.trim s) = true := by
  rw [isSourceText, List.all_eq_true] at h ⊢
  intro c hc
  rw [Text.trim, Text.trimBy, String.toList_ofList, Text.dropWhileEnd, List.mem_reverse] at hc
  have hc : c ∈ s.toList.dropWhile Text.isBlank :=
    List.mem_reverse.1 ((List.dropWhile_sublist _).mem hc)
  exact h c ((List.dropWhile_sublist _).mem hc)

namespace SourceFile

theorem isSourceText_raw {f : SourceFile} (hpackage : isSourceText f.package = true)
    (himports : (f.imports.map importLine).all isSourceText = true)
    (hbody : isSourceText f.body = true) : isSourceText f.raw = true := by
  have hheader : isSourceText "// Code generated by smithygen. DO NOT EDIT.\n\npackage " = true := by
    rw [isSourceText, String.toList_ofList]
    decide
  have hopen : isSourceText "\nimport (" = true := by decide +kernel
  have hclose : isSourceText "\n)\n" = true := by decide +kernel
  have hnewline : isSourceText "\n" = true := by decide +kernel
  have hgroup : isSourceText (if f.imports.isEmpty then ""
      else "\nimport (" ++ String.join (f.imports.map importLine) ++ "\n)\n") = true := by
    split
    · rfl
    · exact isSourceText_append (isSourceText_append hopen (isSourceText_join himports)) hclose
  have htop := isSourceText_append (isSourceText_append hheader hpackage) hnewline
  have habove := isSourceText_append (isSourceText_append htop hgroup) hnewline
  exact isSourceText_append (isSourceText_append habove (isSourceText_trim hbody)) hnewline

/-- **A file can be laid out** if its parts are made of characters that may stand in a source text, and
its package has a name. -/
theorem isSome_tidy? {f : SourceFile} (hclause : (PackageClause.ofText? f.package).isSome = true)
    (hpackage : isSourceText f.package = true)
    (himports : (f.imports.map importLine).all isSourceText = true)
    (hbody : isSourceText f.body = true) : f.tidy?.isSome = true := by
  have hraw := isSourceText_raw hpackage himports hbody
  rw [isSourceText] at hraw
  rw [tidy?, if_pos hraw, Option.isSome_map]
  exact hclause

end SourceFile
end Code

theorem Source.failures_ofFile {file : Code.SourceFile} {parses : Bool} {failures : List Failure} :
    (Source.ofFile file parses failures).failures = [] ↔
      failures = [] ∧ parses = true ∧ file.tidy?.isSome = true := by
  unfold Source.ofFile
  cases parses <;> cases h : file.tidy? <;> simp

/-! ## Runs -/

namespace Failure

theorem eq_nil_of_collect {failures : List Failure} {f : Failure} (h : collect failures f = []) :
    failures = [] := by
  cases f <;> simp_all [collect]

end Failure

namespace Package

variable {p : Package} {c : Catalog} {cs : List Contributor} {conf : Config} {o : Output}

/-- What is collected for a package. -/
def reported (p : Package) : List Failure :=
  p.types.failures ++ if p.hasServer then p.server.failures else []

theorem reported_eq_nil_iff : p.reported = [] ↔
    (p.typeFailures = [] ∧ p.declared.all (·.parses) = true ∧ p.typesFile.tidy?.isSome = true) ∧
      (p.hasServer = true → p.registry.serviceDecls.2 = [] ∧
        p.registry.serviceDecls.1.all (·.parses) = true ∧ p.serverFile.tidy?.isSome = true) := by
  rw [reported, List.append_eq_nil_iff, types, Source.failures_ofFile]
  cases p.hasServer with
  | false => simp
  | true => simp [server, Source.failures_ofFile]

/-- Writing a package reports what could not be declared. -/
theorem types_failures_of_runCode (h : (Generator.runCode p o).2 = none) :
    p.types.failures = [] := by
  unfold Generator.runCode at h
  simp only at h
  split at h
  · exact Failure.eq_nil_of_collect (Failure.ofCollected_eq_none.1 h)
  · split at h
    · exact Failure.ofCollected_eq_none.1 h
    · have hall := Failure.ofCollected_eq_none.1 h
      split at hall
      · exact (List.append_eq_nil_iff.1 (Failure.eq_nil_of_collect hall)).1
      · exact (List.append_eq_nil_iff.1 hall).1

/-- A run that reports nothing declared every type that it could. -/
theorem typeFailures_of_run (h : (Generator.code.run c cs conf o).2 = none) :
    (ofConfig c cs conf).typeFailures = [] := by
  have htypes : (ofConfig c cs conf).types.failures = [] := by
    unfold Generator.run at h
    split at h
    · cases h
    · exact types_failures_of_runCode h
  exact (Source.failures_ofFile.1 htypes).1

/-- **A run that prints** ends without a failure if none was collected. -/
theorem run_of_reported (hdirectory : conf.string "outdir" = "") (ho : o.failed = none)
    (h : (ofConfig c cs conf).reported = []) : (Generator.code.run c cs conf o).2 = none := by
  have hwrite {o : Output} (hdirectory : o.directory = "") (ho : o.failed = none)
      (text name separator : String) : (o.write text name separator).directory = "" ∧
        (o.write text name separator).failed = none := by
    simp [Output.write, hdirectory, ho]
  obtain ⟨htypes, hserver⟩ := List.append_eq_nil_iff.1 h
  have hconfigure : o.configure conf = ({ o with
      directory := "", sorted := conf.flag "sort", force := conf.flag "force" }, none) := by
    simp [Output.configure, hdirectory]
  rw [Generator.run, hconfigure]
  simp only [Generator.runCode, Generator.writeSource]
  have hfirst := hwrite (o := { o with
    directory := "", sorted := conf.flag "sort", force := conf.flag "force" }) rfl ho
  simp only [(hfirst _ _ _).2, (hwrite (hfirst _ _ _).1 (hfirst _ _ _).2 _ _ _).2]
  cases hhas : (ofConfig c cs conf).hasServer with
  | false => simp [htypes, Failure.ofCollected]
  | true =>
    rw [hhas, if_pos rfl] at hserver
    simp [htypes, hserver, Failure.ofCollected]

end Package
end Shapewright
