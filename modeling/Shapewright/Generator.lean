import Shapewright.Generated.Package
import Shapewright.Generated.Summary
import Shapewright.Output

/-!
# Generators

* `Generator` — what can be generated from a model: code, or a summary of each service.
* `Generator.ofName` — the generator with a name.
* `Generator.run` — generates from a model into an output.
-/

set_option autoImplicit false

namespace Shapewright

/-- What can be generated from a model. -/
inductive Generator where
  | code
  | summary
  deriving DecidableEq, Repr

namespace Generator

/-- The generator with a name. -/
def ofName (name : String) : Outcome Generator :=
  if name == "go" || name == "golang" then .ok .code
  else if name == "summary" then .ok .summary
  else .error (.unknownGenerator name)

/-- Writes a source under a name, which also separates it where it is printed. -/
def writeSource (o : Output) (s : Source) (name : String) : Output :=
  o.write s.text name ("\n\n------------------" ++ name ++ "\n")

/-- Writes a package. A failure to write is the last one reported, and stops the run. -/
def runCode (p : Package) (o : Output) : Output × Option Failure :=
  let o := writeSource o p.types (p.fileName "_types")
  if let some f := o.failed then (o, Failure.ofCollected (Failure.collect p.types.failures f))
  else if !p.hasServer then (o, Failure.ofCollected p.types.failures)
  else
    let o := writeSource o p.server (p.fileName "_server")
    let failures := p.types.failures ++ p.server.failures
    (o, Failure.ofCollected (match o.failed with
      | some f => Failure.collect failures f
      | none => failures))

/-- Writes the summaries of services up to the first failure. -/
def runSummaries (c : Catalog) (o : Output) : List Shape → Output × Option Failure
  | [] => (o, none)
  | s :: rest =>
    match Summary.text c s with
    | .error f => (o, some f)
    | .ok text =>
      let o := o.write text (Output.fileName s.id.name ".txt") ""
      match o.failed with
      | some f => (o, some f)
      | none => runSummaries c o rest

/-- Generates from a model into an output. -/
def run (g : Generator) (catalog : Catalog) (cs : List Contributor) (c : Config) (o : Output) :
    Output × Option Failure :=
  match o.configure c with
  | (o, some f) => (o, some f)
  | (o, none) => match g with
    | .code => runCode (.ofConfig catalog cs c) o
    | .summary => runSummaries catalog o (catalog.select o.sorted [.service])

end Generator
end Shapewright
