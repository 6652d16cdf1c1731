import Shapewright.Failure
import Shapewright.Json.Skim
import Shapewright.OrderedMap
import Shapewright.Shape.Printer

/-!
# Model documents

A model is written in documents that list shapes by id.  A document is looser than a catalog: a
null may stand where a shape, a member or a reference belongs, targets need not exist, and a shape
may borrow from mixins or merely apply traits to another.

* `MemberDef`, `ShapeDef`, `Document` — what a document says.
* `Document.parse` — reading one.
-/

set_option autoImplicit false

namespace Shapewright

/-- A member as a document gives it. -/
structure MemberDef where
  target : String := ""
  traits : Option Traits := none
  deriving Repr, Inhabited

/-- A reference to a shape; the target may be empty, and a null stands for no reference. -/
abbrev Ref := Option String

/-- A shape as a document gives it. The members of structures, unions and enumerations are given
by values of `μ`: the members themselves, or where to find them. -/
structure ShapeDef (μ : Type) where
  type : String := ""
  version : String := ""
  member : Option MemberDef := none
  key : Option MemberDef := none
  value : Option MemberDef := none
  /-- Members in order; a null may stand for one. -/
  members : Option (OrderedMap (Option μ)) := none
  /-- Shapes to borrow members and traits from. -/
  mixins : Option (List Ref) := none
  create : Ref := none
  put : Ref := none
  read : Ref := none
  update : Ref := none
  delete : Ref := none
  list : Ref := none
  collectionOperations : List Ref := []
  operations : List Ref := []
  resources : List Ref := []
  input : Ref := none
  output : Ref := none
  errors : List Ref := []
  traits : Option Traits := none
  deriving Repr

instance {μ : Type} : Inhabited (ShapeDef μ) := ⟨{}⟩

/-- The word that marks a statement which applies traits to another shape. -/
def applyType : String := "apply"

/-- Whether a shape only applies traits to another. -/
def ShapeDef.isApply {μ : Type} (s : ShapeDef μ) : Bool := s.type == applyType

/-- A model document. -/
structure Document where
  version : String := ""
  metadata : Option Node := none
  /-- Shapes by id; a null may stand for one. -/
  shapes : Option (OrderedMap (Option (ShapeDef MemberDef))) := none
  deriving Repr

namespace Document

/-- Reads a text over an earlier one; null leaves that as it is. -/
def readText? (old : String) : Json → Option String
  | .null => some old
  | .string s => some s
  | _ => none

/-- Reads fields one after the other into a record that has some `names`; unknown ones are passed
over. -/
def readFields? {α : Type} (names : List String) (step : α → String → Json → Option α) (start : α) :
    Json → Option α
  | .object fields => fields.foldlM (fun acc (key, v) => step acc (Json.fieldNamed names key) v) start
  | _ => none

/-- Reads what may be null. -/
def readNullable? {α : Type} (read : Json → Option α) : Json → Option (Option α)
  | .null => some none
  | v => (read v).map some

/-- Reads a member over an earlier one of the same field. -/
def readMember? (old : Option MemberDef) : Json → Option MemberDef :=
  readFields? ["target", "traits"] (fun m key v => match key with
    | "target" => (readText? m.target v).map fun target => { m with target }
    | "traits" => (readNullable? Traits.ofJson? v).map fun traits => { m with traits }
    | _ => some m) (old.getD {})

/-- Reads a reference over an earlier one of the same field. -/
def readRef? (old : Ref) : Json → Option Ref :=
  readNullable? (readFields? ["target"] (fun target key v => match key with
    | "target" => readText? target v
    | _ => some target) (old.getD ""))

/-- Reads an array; null is an empty one. -/
def readList? {α : Type} (read : Json → Option α) : Json → Option (List α)
  | .null => some []
  | .array items => items.mapM read
  | _ => none

/-- Reads an object as a map in the order of its fields. -/
def readMap? {α : Type} (read : Json → Option α) : Json → Option (OrderedMap α)
  | .object fields =>
    (fields.mapM fun (f : String × Json) => (read f.2).map fun a => (f.1, a)).map
      OrderedMap.ofFields
  | _ => none

/-- Reads one field of a shape. -/
def readShapeField? (s : ShapeDef MemberDef) (key : String) (v : Json) :
    Option (ShapeDef MemberDef) :=
  match key with
  | "type" => (readText? s.type v).map fun type => { s with type }
  | "version" => (readText? s.version v).map fun version => { s with version }
  | "member" => (readNullable? (readMember? s.member) v).map fun member => { s with member }
  | "key" => (readNullable? (readMember? s.key) v).map fun key => { s with key }
  | "value" => (readNullable? (readMember? s.value) v).map fun value => { s with value }
  | "members" =>
    (readNullable? (readMap? (readNullable? (readMember? none))) v).map fun members =>
      { s with members }
  | "mixins" => (readNullable? (readList? (readRef? none)) v).map fun mixins => { s with mixins }
  | "identifiers" => (readNullable? (readMap? (readRef? none)) v).map fun _ => s
  | "create" => (readRef? s.create v).map fun create => { s with create }
  | "put" => (readRef? s.put v).map fun put => { s with put }
  | "read" => (readRef? s.read v).map fun read => { s with read }
  | "update" => (readRef? s.update v).map fun update => { s with update }
  | "delete" => (readRef? s.delete v).map fun delete => { s with delete }
  | "list" => (readRef? s.list v).map fun list => { s with list }
  | "collectionOperations" => (readList? (readRef? none) v).map fun collectionOperations =>
      { s with collectionOperations }
  | "operations" => (readList? (readRef? none) v).map fun operations => { s with operations }
  | "resources" => (readList? (readRef? none) v).map fun resources => { s with resources }
  | "input" => (readRef? s.input v).map fun input => { s with input }
  | "output" => (readRef? s.output v).map fun output => { s with output }
  | "errors" => (readList? (readRef? none) v).map fun errors => { s with errors }
  | "traits" => (readNullable? Traits.ofJson? v).map fun traits => { s with traits }
  | _ => some s

/-- The fields of a shape. -/
def shapeFields : List String :=
  ["type", "version", "member", "key", "value", "members", "mixins", "identifiers", "create", "put",
   "read", "update", "delete", "list", "collectionOperations", "operations", "resources", "input",
   "output", "errors", "traits"]

/-- Reads a shape. -/
def readShape? : Json → Option (ShapeDef MemberDef) :=
  readFields? shapeFields readShapeField? {}

/-- Reads the shapes of a document. No number among them may be out of range. -/
def readShapes? (v : Json) : Option (OrderedMap (Option (ShapeDef MemberDef))) :=
  if v.allNumbers isInRange then readMap? (readNullable? readShape?) v else none

/-! ## The document itself

Only three fields of a document matter. Their texts are cut out of it before they are read, and the
others are passed over. -/

/-- The fields of a document. -/
inductive DocumentField where
  | metadata | shapes | version
  deriving DecidableEq, Repr

/-- The fields by their keys, sorted. -/
def fieldKeys : List (String × DocumentField) :=
  [("metadata", .metadata), ("shapes", .shapes), ("smithy", .version)]

/-- The fields among some whose key has a character at a position, case aside. -/
def narrow (c : Char) (index : Nat) (fields : List (String × DocumentField)) :
    List (String × DocumentField) :=
  fields.filter fun (key, _) => key.toList[index]? == some c.toLower

/-- The field that a key names, and what follows the key. Characters are compared one by one, case aside,
and when none of the `fields` is left the key is passed over. A key that ends early names the first field
it begins, if only its spelling is as long as that field's. In a spelling, digits that are none count as
0, and an escape that is none is passed over together with the byte behind it.

`index` counts the characters so far, and `length` the bytes of their spelling. -/
def keyField? (index length : Nat) (fields : List (String × DocumentField)) :
    List Char → Option (Option DocumentField × List Char)
  | '"' :: rest => some (fields.head?.bind fun (key, field) =>
      if length < key.length then none else some field, rest)
  | '\\' :: 'u' :: a :: b :: c :: d :: rest =>
    let code := [a, b, c, d].foldl (fun n c => n * 16 + (Bytes.hexValue? c).getD 0) 0
    let fields := if [a, b, c, d].all fun c => c.utf8Size == 1 then
      narrow (Char.ofNat code) index fields else []
    if fields.isEmpty then passed (a :: b :: c :: d :: rest)
    else keyField? (index + 1) (length + 6) fields rest
  | '\\' :: c :: rest =>
    if c == 'u' then none
    else if (Json.escapes.lookup c).isSome || 2 < c.utf8Size then passed rest
    else if c.utf8Size == 2 then keyField? index (length + 3) fields rest
    else match rest with
      | x :: rest => if x.utf8Size == 1 then keyField? index (length + 3) fields rest else passed rest
      | [] => none
  | c :: rest =>
    let fields := narrow c index fields
    if fields.isEmpty then passed rest else keyField? (index + 1) (length + 1) fields rest
  | [] => none
where
  /-- The rest of a key that names no field. -/
  passed (cs : List Char) : Option (Option DocumentField × List Char) :=
    (Json.skimString? cs).map fun (_, rest) => (none, rest)

/-- Reads one field of a document, and gives what follows it. -/
def readField? (d : Document) (field : Option DocumentField) (cs : List Char) :
    Option (Document × List Char) :=
  match field with
  | some .version =>
    match Json.skipSpace cs with
    | '"' :: rest => (Json.openString? rest).map fun (version, rest) => ({ d with version }, rest)
    | 'n' :: 'u' :: 'l' :: 'l' :: rest => some (d, rest)
    | _ => none
  | some .metadata => do
    let (text, rest) ← Json.skim? cs
    let (v, _) ← Json.first? text
    return ({ d with metadata := Node.ofField v }, rest)
  | some .shapes => do
    let (text, rest) ← Json.skim? cs
    let v ← Json.parse? (String.ofList text)
    let shapes ← readNullable? readShapes? v
    return ({ d with shapes }, rest)
  | none => (Json.skim? cs).map fun (_, rest) => (d, rest)

/-- Reads the fields of a document up to its closing brace. The first argument bounds their number. -/
def readBody? : Nat → Document → List Char → Option (Document × List Char)
  | 0, _, _ => none
  | fuel + 1, d, cs => do
    match Json.skipSpace cs with
    | '"' :: rest =>
      let (field, rest) ← keyField? 0 0 fieldKeys rest
      match Json.skipSpace rest with
      | ':' :: rest =>
        let (d, rest) ← readField? d field rest
        match Json.skipSpace rest with
        | '\x7d' :: rest => return (d, rest)
        | ',' :: rest => readBody? fuel d rest
        | _ => none
      | _ => none
    | _ => none

/-- Reads a document at the start of a text, or the null that stands for none. -/
def first? (cs : List Char) : Option (Option Document × List Char) :=
  match Json.skipSpace cs with
  | 'n' :: 'u' :: 'l' :: 'l' :: rest => some (none, rest)
  | '\x7b' :: rest =>
    match Json.skipSpace rest with
    | '\x7d' :: rest => some (some {}, rest)
    | rest => (readBody? (rest.length + 1) {} rest).map fun (d, rest) => (some d, rest)
  | _ => none

/-- Reads a document, which has to name the version it is written for. A NUL ends its text. -/
def parse (text : String) : Outcome Document :=
  match first? (text.toList.takeWhile (· != '\x00')) with
  | none => .error .malformedDocument
  | some (d?, rest) =>
    if !(Json.skipSpace rest).isEmpty then .error .malformedDocument
    else match d? with
      | none => .error .missingVersion
      | some d => if d.version == "" then .error .missingVersion else .ok d

end Document
end Shapewright
