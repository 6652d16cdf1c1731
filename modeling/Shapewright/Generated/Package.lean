import Shapewright.Config
import Shapewright.Generated.Server

/-!
# Generated packages

A package has a file with the types of a model and, if the model has services, a file with their
servers. What cannot be generated is left out and reported.

* `Package` — how the package is named and what it is generated from.
* `Package.typesFile`, `Package.serverFile` — the files as values.
* `Source` — a file as text, with what went wrong.
-/

set_option autoImplicit false

namespace Shapewright

open Code

/-- A text to be written, with what is missing from it. -/
structure Source where
  text : String
  failures : List Failure

/-- A file as text. One that cannot be parsed is kept as it was put together, and reported. -/
def Source.ofFile (file : SourceFile) (parses : Bool) (failures : List Failure) : Source :=
  match if parses then file.tidy? else none with
  | some text => ⟨text, failures⟩
  | none => ⟨file.raw, failures ++ [.unparsable]⟩

/-- What a package is generated from, and its names. -/
structure Package where
  registry : Registry
  contributors : List Contributor
  /-- Whether types are sorted by name. -/
  sorted : Bool
  /-- The namespace that the files are named for. -/
  namespace_ : String
  name : String

namespace Package

/-- The first namespace of a model. -/
def namespaceOf (c : Catalog) : String :=
  (c.namespaces.find? (· != ShapeId.preludeNamespace)).getD ""

/-- The name of a package: the last part of its namespace in lower case. -/
def nameOf (ns : String) : String :=
  if ns == "" then "main"
  else String.ofList ((((Text.split '.' ns).getLast?).getD ns).toList.map Text.toLower)

/-- A text, or another one if it is empty. -/
def orElse (s fallback : String) : String := if s == "" then fallback else s

/-- The package of a model with the options of a configuration. -/
def ofConfig (catalog : Catalog) (cs : List Contributor) (c : Config) : Package :=
  let ns := orElse (c.string "namespace") (namespaceOf catalog)
  { registry := {
      catalog
      options := {
        inlineSimple := c.flag "golang.inlinePrimitives"
        supportPackage := c.string "golang.runtimePackage" } }
    contributors := cs, sorted := c.flag "sort", namespace_ := ns
    name := orElse (c.string "golang.package") (nameOf ns) }

/-- The name of one of the files. -/
def fileName (p : Package) (ending : String) : String :=
  Text.replaceChar '.' "_" (orElse p.namespace_ "model" ++ ending) ++ ".go"

/-- An import; the support package goes by one name whatever its path. -/
def importOf (p : Package) (path : String) : Import :=
  { path
    localName := if path == p.registry.options.package && Files.baseName path != supportAlias
      then supportAlias else "" }

/-- A file of the package. -/
def file (p : Package) (imports : List String) (body : String) : SourceFile :=
  { package := p.name, imports := (importSet imports).map p.importOf, body }

/-! ## Types -/

/-- The shapes that types are declared for. -/
def shapes (p : Package) : List Shape :=
  (p.registry.catalog.select p.sorted declaredKinds).filter fun s => !s.id.isPrelude

/-- What is declared for each shape. -/
def declarations (p : Package) : List (Shape × Outcome (Option TypeDecl)) :=
  p.shapes.map fun s => (s, p.registry.typeDecl p.contributors s)

/-- The declarations that could be made. -/
def declared (p : Package) : List TypeDecl :=
  p.declarations.filterMap fun (_, d) => d.toOption.join

/-- Why declarations could not be made, each with its shape. -/
def typeFailures (p : Package) : List Failure :=
  p.declarations.filterMap fun (s, d) => match d with
    | .ok _ => none
    | .error f => some (.within (.shape s.id) f)

/-- The file with the types. -/
def typesFile (p : Package) : SourceFile :=
  p.file (p.shapes.flatMap (p.registry.typeImports p.contributors))
    ("\n".intercalate (p.declared.map (·.text)))

/-- The types as text. -/
def types (p : Package) : Source :=
  .ofFile p.typesFile (p.declared.all (·.parses)) p.typeFailures

/-! ## Servers -/

/-- Whether there is anything to serve. -/
def hasServer (p : Package) : Bool := !p.registry.catalog.services.isEmpty

/-- The file with the servers. -/
def serverFile (p : Package) : SourceFile :=
  let decls := p.registry.serviceDecls.1
  p.file (p.registry.serverImports decls) (String.join (decls.map (·.text)))

/-- The servers as text. -/
def server (p : Package) : Source :=
  let (decls, failures) := p.registry.serviceDecls
  .ofFile p.serverFile (decls.all (·.parses)) failures

end Package
end Shapewright
