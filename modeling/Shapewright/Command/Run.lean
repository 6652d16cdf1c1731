import Shapewright.Assembly.Load
import Shapewright.Command.Basic
import Shapewright.Generator

/-!
# Running a command

* `Session` — the files before and after, and what a command printed.
* `Command.run` — runs the command that arguments ask for.
* `Command.paths` — the paths that it looks at.
-/

set_option autoImplicit false

namespace Shapewright

/-- What a command leaves. -/
structure Session where
  files : Files
  /-- What the command itself prints. -/
  out : String := ""
  /-- What generators print. -/
  printed : String := ""
  warnings : List Warning := []
  failure : Option Failure := none

namespace Command

/-! ## Listings -/

/-- The line of a shape. -/
def shapeLine (s : Shape) : String := s.id.text ++ " (" ++ s.kind.name ++ ")\n"

/-- The line of a plan: the member, where it comes from, what happens if it is missing, its key
or place, and its type. -/
def declarationLine (d : Declaration) : String :=
  let key := match d.extraction.position with
    | some i => toString i
    | none => d.extraction.key
  "    " ++ Text.padRight 16 d.name ++ " " ++ Text.padRight 8 d.origin.name ++ " "
    ++ Text.padRight 12 d.mode.name ++ " " ++ Text.padRight 8 key ++ " " ++ d.type ++ "\n"

/-- The lines of an input. -/
def inputText (i : Input) : String :=
  i.operation.id.name ++ " " ++ (if i.typeName == "" then "-" else i.typeName) ++ " ("
    ++ i.kind.name ++ ")\n" ++ String.join (i.declarations.map declarationLine)
    ++ (if i.kind == .wholeBody then
      "    the request body is decoded with " ++ i.typeName ++ "FromJSON\n" else "")

/-- The lines of an input with the statements that bind it. -/
def inputDump (i : Input) : String := inputText i ++ Code.render "\t" (i.statements [.nil])

/-- The inputs of services, and what could not be bound. -/
def boundInputs (g : Registry) : List Shape → List Input × List Failure
  | [] => ([], [])
  | s :: rest =>
    let (others, failures) := boundInputs g rest
    match g.bindService s.id with
    | .error f => (others, Failure.collect [] f ++ failures)
    | .ok (own, f) => (own ++ others, ((f.map (Failure.collect [])).getD []) ++ failures)

/-- The line that names the version. -/
def versionLine : String :=
  "smithygen development version [https://github.com/boynton/smithygen]\n"

/-- What the program can be asked to do. -/
def helpText : String :=
  "Generate Go servers from Smithy models\n\nUsage:\n  smithygen [command]\n\nAvailable Commands:\n"
    ++ "  generate    Generate Go types and a server for the model\n"
    ++ "  help        Help about any command\n"
    ++ "  inputs      Show how each operation input is bound from a request\n"
    ++ "  list        List the shapes in the model\n"
    ++ "  version     Show the tool version\n"

/-! ## Running -/

/-- The options of a run: those of the file, then those of arguments, then those of flags. -/
def configOf (files : Files) (a : Arguments) : Outcome Config := do
  let c ← Config.load files ((a.value? "config").getD "")
  let c := (c.setAll (a.valuesOf "arg")).insert "outdir" (.string ((a.value? "outdir").getD ""))
  let c := if a.isOn "force" then c.insert "force" (.bool true) else c
  return if a.isOn "sort" then c.insert "sort" (.bool true) else c

/-- Generates from a model. -/
def runGenerate (s : Session) (a : Arguments) (catalog : Catalog) : Session :=
  let plan : Outcome (Generator × Config) := do
    let c ← configOf s.files a
    let g ← Generator.ofName ((a.value? "generator").getD "go")
    return (g, c)
  match plan with
  | .error f => { s with failure := some f }
  | .ok (g, c) =>
    let (o, failure) := g.run catalog Contributor.all c { files := s.files }
    { s with files := o.files, printed := o.printed, failure }

/-- Shows how inputs are bound. -/
def runInputs (s : Session) (a : Arguments) (catalog : Catalog) : Session :=
  let g : Registry := { catalog, options := { inlineSimple := a.isOn "inline-primitives" } }
  let (bound, failures) := boundInputs g catalog.services
  let show_ := if a.isOn "dump" then inputDump else inputText
  { s with out := String.join (bound.map show_), failure := Failure.ofCollected failures }

/-- Runs a command on the model that its arguments lead to. -/
def runOnModel (c : Command) (files : Files) (a : Arguments)
    (parsers : Assembly.Parsers := .absent) : Session :=
  match (Assembly.load files a.rest parsers).run with
  | (.error f, warnings) => { files, warnings, failure := some f }
  | (.ok catalog, warnings) =>
    let s : Session := { files, warnings }
    match c with
    | .generate => runGenerate s a catalog
    | .inputs => runInputs s a catalog
    | _ => { s with out := String.join (catalog.shapes.map shapeLine) }

/-- Runs a command with its arguments. -/
def runWith (c : Option Command) (files : Files) (a : Arguments)
    (parsers : Assembly.Parsers := .absent) : Session :=
  match c with
  | none | some .help | some .completion => { files, out := helpText }
  | some c =>
    if a.isOn "help" then { files, out := helpText }
    else if !c.needsModel then { files, out := versionLine }
    else if a.rest.isEmpty then { files, failure := some (.usage (.tooFewArguments 0)) }
    else c.runOnModel files a parsers

/-- The command that arguments ask for, and its own arguments. -/
def parse (arguments : List String) : Outcome (Option Command × Arguments) := do
  let (c, own) ← find arguments
  return (c, ← Arguments.parse ((c.map flags).getD commonFlags) own)

/-- Runs the command that arguments ask for. -/
def run (files : Files) (arguments : List String) (parsers : Assembly.Parsers := .absent) : Session :=
  match parse arguments with
  | .ok (c, a) => runWith c files a parsers
  | .error f => { files, failure := some f }

/-- The paths that a command looks at. -/
def paths (arguments : List String) : List String :=
  match parse arguments with
  | .ok (_, a) => a.rest ++ a.valuesOf "config" ++ a.valuesOf "outdir"
  | .error _ => []

end Command
end Shapewright
