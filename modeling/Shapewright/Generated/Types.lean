import Shapewright.Code.File
import Shapewright.Comment
import Shapewright.Units.Methods

/-!
# Generated types

* `TypeDecl` — what is declared for one shape: a type, its constants or fields, and functions.
* `TypeDecl.text` — its source.
* `Registry.typeDecl` — the declarations for a shape.
* `constructor`, `fromJson`, `toJson` — the functions of every structure and union.
-/

set_option autoImplicit false

namespace Shapewright

open Code

/-- What a declared type is made of. -/
inductive TypeBody where
  /-- Another name for a built-in type. -/
  | builtin (type : String)
  /-- Integers with names; the values are spelled as the model does. -/
  | integers (constants : List (String × String))
  /-- Texts with names. -/
  | texts (constants : List (String × String))
  | struct (fields : List Field)

/-- What is declared for a shape. -/
structure TypeDecl where
  name : String
  doc : String
  body : TypeBody
  functions : List Function := []

/-- The documentation of a shape as a comment. -/
def docComment (doc : String) : String :=
  if doc == "" then "" else Comment.comment "" "// " doc 100 false

namespace TypeDecl

/-- The name of a field in documents, marked where it may be left out. -/
def tag (f : Field) : String :=
  f.member.name ++ match f.typed with
    | some t => if isNonNullable f.member t.target then "" else ",omitempty"
    | none => ""

/-- The line of a field. -/
def fieldLine (f : Field) : String :=
  "\t" ++ f.name ++ " " ++ f.type ++ " `json:" ++ Text.quote (tag f) ++ "`\n"

/-- The group of constants of a type. -/
def constantGroup (type : String) (constants : List (String × String)) : String :=
  "const (\n" ++ String.join (constants.map fun (name, value) =>
    "\t" ++ name ++ " " ++ type ++ " = " ++ value ++ "\n") ++ ")\n"

/-- The declaration of the type itself. -/
def head (d : TypeDecl) : String :=
  "type " ++ d.name ++ " " ++ match d.body with
    | .builtin type => type ++ "\n"
    | .integers constants => "int32\n\n" ++ constantGroup d.name constants
    | .texts constants => "string\n\n"
        ++ constantGroup d.name (constants.map fun (name, value) => (name, Text.quote value))
    | .struct fields => "struct \x7b\n" ++ String.join (fields.map fieldLine) ++ "\x7d\n"

/-- The source of the declarations. -/
def text (d : TypeDecl) : String :=
  docComment d.doc ++ d.head ++ String.join (d.functions.map fun f => "\n" ++ f.text)

/-- Whether a field can be parsed. -/
def fieldParses (f : Field) : Bool :=
  isIdentifier f.name && isIdentifier (Naming.local_ f.member.name) && isTypeText f.type
    && !Text.hasChar '`' f.member.name

/-- Whether the declarations can be parsed. -/
def parses (d : TypeDecl) : Bool :=
  isIdentifier d.name && match d.body with
    | .struct fields => fields.all fieldParses
    | _ => true

/-- The packages that the contributed functions need. -/
def imports (d : TypeDecl) : List String := d.functions.flatMap (·.imports)

end TypeDecl

/-! ## Enumerations -/

/-- The function that reads a constant. -/
def parseFunction (type : String) (constants : List String) : Function :=
  let converted : Expr := .conv type (.ident "s")
  { doc := "Parse" ++ type ++ " returns s as a " ++ type ++ ", if it is one of the enum values."
    name := "Parse" ++ type, params := [⟨"field", "string"⟩, ⟨"s", "string"⟩]
    results := [type, "error"]
    body := (if constants.isEmpty then [] else
        [.switch (some converted) [(constants.map .ident, [.ret [converted, .nil]])] []])
      ++ [.ret [.lit "\"\"",
        .lit "&runtime.ParseError\x7bField: field, Kind: \"enum\", Value: s\x7d"]] }

/-- The declarations for an enumeration of texts. -/
def enumDecl (cs : List Contributor) (r : Record) : TypeDecl :=
  { name := r.typeName, doc := r.shape.documentation
    body := .texts (r.fields.map fun f => (f.name, f.member.enumValue.asString))
    functions := parseFunction r.typeName (r.fields.map (·.name)) :: Contributor.contribute cs r }

/-- The declarations for an enumeration of integers, each of which has to have a value. -/
def intEnumDecl (cs : List Contributor) (r : Record) : Outcome TypeDecl := do
  let constants ← r.fields.mapM fun f => match f.member.enumValue.number? with
    | some n => pure (f.name, n)
    | none => throw (.notAnInteger f.member.id)
  return { name := r.typeName, doc := r.shape.documentation, body := .integers constants
           functions := Contributor.contribute cs r }

/-! ## Structures and unions -/

namespace Record

/-- The function that makes a value from its fields, in declaration order. -/
def constructor (r : Record) : Function :=
  { name := "New" ++ r.typeName
    params := r.fields.map fun f => ⟨Naming.local_ f.member.name, f.type⟩
    results := ["*" ++ r.typeName]
    body := [.ret [.addr (.composite r.typeName
      (r.fields.map fun f => (f.name, .ident (Naming.local_ f.member.name))))]] }

/-- The statement that gives a field its default. -/
def defaultStatements (f : Field) (t : FieldType) : Outcome (List Stmt) := do
  let (mode, node?) := modeOf f.member t.target
  if mode != .withDefault then return []
  let v ← (t.representation.defaultValue node?).at_ (.defaultOf f.member.id)
  return if v.isNil then [] else [.assign ["x." ++ f.name] [v]]

/-- The statement that reads a field from a document. -/
def readStatement (zero : Expr) (f : Field) (t : FieldType) : Stmt :=
  let field : Expr := .str f.member.name
  let c := t.representation.fromRaw field (.ident "raw")
  .branch (some (.define ["raw", "ok"] [supportCall "BodyField" [.ident "obj", field]]))
    (.ident "ok") (c.assign ("x." ++ f.name) (t.type != t.representation.type) [zero])
    (if (modeOf f.member t.target).1 == .orThrow then
      [.ret [zero, supportCall "MissingField" [field, support "OriginBody"]]] else [])

/-- The statements that read a field. -/
def readStatements (zero : Expr) (f : Field) : Outcome (List Stmt) :=
  match f.typed with
  | none => .ok []
  | some t => do return (← defaultStatements f t) ++ [readStatement zero f t]

/-- The function that reads a value from a document, field by field. -/
def fromJson (r : Record) (zero : Expr) : Outcome Function := do
  let reads ← r.fields.mapM (readStatements zero)
  return {
    doc := r.typeName ++ "FromJSON converts a value of a decoded JSON document."
    name := r.typeName ++ "FromJSON"
    params := [⟨"field", "string"⟩, ⟨"raw", "interface\x7b\x7d"⟩]
    results := [r.typeName, "error"]
    body := [
      .define [if r.fields.isEmpty then "_" else "obj", "err"]
        [supportCall "ObjectFromJSON" [.ident "field", .ident "raw"]],
      .returnOnError [zero],
      .define ["x"] [zero]] ++ reads.flatten ++ [.ret [.ident "x", .nil]] }

/-- Whether a type has a value that stands for absence. -/
def isNillableType (type : String) : Bool :=
  ["*", "[]", "map["].any (fun start => Text.startsWith start type) || type == "interface\x7b\x7d"

/-- The statement that writes a field to a document; one that is absent is left out. -/
def writeStatement (f : Field) (t : FieldType) : Stmt :=
  let field : Expr := .sel (.ident "x") f.name
  let kind := t.representation.shape.kind
  let isPointer := t.type != t.representation.type
  let value := if isPointer && kind != .structure_ && kind != .union then .unary "*" field else field
  let set : Stmt := .assign ["obj[" ++ Text.quote f.member.name ++ "]"]
    [t.representation.toRaw value]
  if isNillableType t.type then .branch none (.binary field "!=" .nil) [set] [] else set

/-- The method that writes a value to a document. -/
def toJson (r : Record) : Function :=
  { doc := "ToJSON returns x as a JSON document value. Absent members are omitted."
    receiver := some ⟨"x", r.typeName⟩, name := "ToJSON"
    results := ["map[string]interface\x7b\x7d"]
    body := [.define ["obj"] [.callOf "make" [.ident "map[string]interface\x7b\x7d"]]]
      ++ r.fields.filterMap (fun f => f.typed.map (writeStatement f))
      ++ [.ret [.ident "obj"]] }

/-- The packages that the fields of a record need. -/
def imports (r : Record) : List String :=
  r.fields.flatMap fun f => (f.typed.map (·.representation.imports)).getD []

end Record

/-- The declarations for a structure or union. -/
def structDecl (cs : List Contributor) (r : Record) : Outcome TypeDecl := do
  let fromJson ← r.fromJson (.composite r.typeName [])
  return { name := r.typeName, doc := r.shape.documentation, body := .struct r.fields
           functions := [r.constructor, fromJson, r.toJson] ++ Contributor.contribute cs r }

namespace Registry

/-- The declarations for a shape; some shapes need none. -/
def typeDecl (g : Registry) (cs : List Contributor) (s : Shape) : Outcome (Option TypeDecl) := do
  let r ← g.ofShape s
  match s.kind with
  | .enum => return some (enumDecl cs (← g.record s))
  | .intEnum => return some (← intEnumDecl cs (← g.record s))
  | .structure_ | .union => return some (← structDecl cs (← g.record s))
  | _ => match r.builtin? with
    | some builtin =>
      if r.type == builtin then return none
      return some { name := r.type, doc := s.documentation, body := .builtin builtin }
    | none => return none

/-- The packages that a shape brings in: those of its fields count even if a default turns out not
to suit. -/
def typeImports (g : Registry) (cs : List Contributor) (s : Shape) : List String :=
  let own := match s.kind with
    | .enum => [g.options.package]
    | .structure_ | .union => match g.record s with
      | .ok r => g.options.package :: r.imports
      | .error _ => []
    | _ => []
  own ++ match g.typeDecl cs s with
    | .ok (some d) => d.imports
    | _ => []

end Registry

/-- The kinds of shapes that types are declared for. -/
def declaredKinds : List Kind :=
  [.boolean, .byte, .short, .integer, .long, .float, .double, .string, .enum, .intEnum,
   .structure_, .union]

/-- The shapes of some kinds, in load order or sorted by name. Mixins are passed over. -/
def Catalog.select (c : Catalog) (sorted : Bool) (kinds : List Kind) : List Shape :=
  let found := c.shapes.filter fun s => !s.traits.has Trait.mixin && kinds.contains s.kind
  if sorted then found.mergeSort fun a b => decide (a.id.name ≤ b.id.name) else found

end Shapewright
