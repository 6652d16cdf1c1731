import Shapewright.Assembly.Import
import Shapewright.Files

/-!
# Loading a model

A model is given by paths: files in one of the known formats, or directories to look through.  Only
documents are read here.  The parsers of the other formats are those of other packages: they are a
parameter, and what they return is written as a document and read again.

* `modelFiles` — the files that paths lead to.
* `Parsers` — what other packages have to do with model files.
* `readModel` — reads one file.
* `load` — reads, gathers, settles and imports them.
-/

set_option autoImplicit false

namespace Shapewright
namespace Assembly

/-- The formats that models come in, by the extension of their files. -/
def extensions : List String := [".smithy", ".json", ".sadl"]

/-- Whether a path names a model file. -/
def isModelFile (path : String) : Bool :=
  extensions.contains (Files.extension path)

/-- The model files that one path leads to. -/
def filesAt (fs : Files) (path : String) : Outcome (List String) :=
  if isModelFile path then .ok [path]
  else match fs.status path with
    | .error fault => .error (.within .modelPath (.cannotStat path fault))
    | .ok (.file _) => .ok []
    | .ok .directory => .ok ((fs.walk path).filter isModelFile)

/-- The model files that paths lead to. -/
def modelFiles (fs : Files) (paths : List String) : Outcome (List String) := do
  return (← paths.mapM (filesAt fs)).flatten

/-! ## Reading a file -/

/-- The parsers of other packages.  They find their files themselves, and fail with a message. -/
structure Parsers where
  /-- What the interface definition language is parsed to. -/
  Tree : Type
  /-- What a schema is parsed to, before it is converted. -/
  Schema : Type
  parseIdl : Files → String → Except String Tree
  parseSchema : Files → String → Except String Schema
  namespaceOf : Schema → String
  /-- Puts a schema into a namespace. -/
  convert : Schema → String → Except String Tree
  /-- The text of the document for a tree. -/
  encode : Tree → Except String String

/-- Looks whether a file is there, but does not parse it. -/
def lookAt (fs : Files) (path : String) : Except String Empty :=
  match fs.read path with
  | .ok _ => .error "no parser for this format"
  | .error f => .error f.message

/-- A program without the other packages. -/
def Parsers.absent : Parsers where
  Tree := Empty
  Schema := Empty
  parseIdl := lookAt
  parseSchema := lookAt
  namespaceOf := nofun
  convert := nofun
  encode := nofun

/-- The namespace of schemas that do not name one. -/
def unspecifiedNamespace : String := "example"

/-- The result of code of another package. -/
def ofForeign {α : Type} : Except String α → Outcome α
  | .ok a => .ok a
  | .error message => .error (.foreign message)

namespace Parsers

variable (parsers : Parsers)

/-- Writes a tree as a document and reads it, so that every format ends up in the same form. -/
def reencode (path : String) (tree : parsers.Tree) : Outcome Document := do
  let text ← (ofForeign (parsers.encode tree)).at_ (.encodedText path)
  (Document.parse text).at_ (.decodedText path)

/-- Reads a file in the interface definition language. -/
def readIdl (fs : Files) (path : String) : Outcome Document := do
  parsers.reencode path (← (ofForeign (parsers.parseIdl fs path)).at_ (.idlText path))

/-- Reads a schema. -/
def readSchema (fs : Files) (path : String) : Outcome Document := do
  let schema ← (ofForeign (parsers.parseSchema fs path)).at_ (.sadlText path)
  let own := parsers.namespaceOf schema
  let ns := if own == "" then unspecifiedNamespace else own
  parsers.reencode path (← (ofForeign (parsers.convert schema ns)).at_ (.sadlConversion path))

end Parsers

/-- Reads one model file. -/
def readModel (fs : Files) (path : String) (parsers : Parsers := .absent) : Outcome Document :=
  match Files.extension path with
  | ".smithy" => parsers.readIdl fs path
  | ".sadl" => parsers.readSchema fs path
  | _ => do
    let text ← (fs.read path).at_ .modelFile
    match Document.parse text with
    | .ok d => return d
    | .error .malformedDocument => throw (.malformedModel path)
    | .error f => throw (.within (.modelText path) f)

/-! ## Loading -/

/-- Notes the warnings of a step and goes on with what it left, unless it failed. -/
def proceed (u : Update) : Noting Assembly := do
  u.warnings.forM Noting.warn
  match u.failure with
  | some f => throw f
  | none => return u.assembly

/-- Gathers the model files that paths lead to, and settles mixins and applied traits. -/
def gather (fs : Files) (paths : List String) (parsers : Parsers := .absent) :
    Noting Assembly := do
  let files ← Noting.lift (modelFiles fs paths)
  if files.isEmpty then throw (.noModelFiles paths)
  let a ← files.foldlM (fun (a : Assembly) path => do
    proceed (a.merge (← Noting.lift (readModel fs path parsers)))) {}
  let a ← proceed a.expandAll
  proceed a.applyAll

/-- The catalog of the model that paths lead to. -/
def load (fs : Files) (paths : List String) (parsers : Parsers := .absent) : Noting Catalog := do
  (← gather fs paths parsers).toCatalog

end Assembly
end Shapewright
