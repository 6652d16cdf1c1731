import Shapewright.Text.Blank
import Shapewright.Wire.Parts
import Shapewright.Wire.Reader
import Shapewright.Wire.Target

/-!
# Requests

* `Request` — target, headers and body.
* `pathParam`, `greedyPathParam`, `queryParam`, `headerParam` — values that arrive as text.
* `bodyBytes`, `bodyValue`, `bodyDocument`, `bodyField` — values from the body.
-/

set_option autoImplicit false

namespace Shapewright
namespace Wire

/-- The body of a request. -/
inductive Body where
  | absent
  | text (s : String)
  /-- Reading it fails. -/
  | broken (reason : String)
  deriving DecidableEq, Repr

/-- A request. -/
structure Request where
  target : Target := {}
  /-- Names in their usual spelling, with values in order. -/
  headers : List (String × String) := []
  body : Body := .absent
  deriving Repr

namespace Request

/-! ## The target -/

/-- Splits bytes at every occurrence of a separator. -/
def splitBytes (separator : Char) (bs : Bytes) : List Bytes :=
  bs.splitOn (Percent.byte separator)

/-- The path as it is sent: as it was written if that is a valid spelling, and otherwise spelled
anew. -/
def escapedPath (r : Request) : Bytes :=
  match Percent.unescape? false r.target.path with
  | none => r.target.path
  | some path =>
    if r.target.path.all Percent.isPathText then r.target.path
    else Percent.escape Percent.inPath path

/-- The segments of the path; the path of the root has none. -/
def segments (r : Request) : List Bytes :=
  let path := match r.escapedPath with
    | b :: rest => if b == Percent.byte '/' then rest else b :: rest
    | [] => []
  if path.isEmpty then [] else splitBytes '/' path

/-- An escaped text read back, or as it is if that fails. -/
def readEscaped (bs : Bytes) : Bytes :=
  (Percent.unescape? false bs).getD bs

/-- The segment at a position, unless it is empty. -/
def pathParam (r : Request) (index : Int) : Option Bytes :=
  if index < 0 then none
  else match r.segments[index.toNat]? with
    | none => none
    | some segment => if segment.isEmpty then none else some (readEscaped segment)

/-- The rest of the path from a position on, unless it is empty. -/
def greedyPathParam (r : Request) (index : Int) : Option Bytes :=
  if index < 0 then none
  else
    let rest := List.intercalate [Percent.byte '/'] (r.segments.drop index.toNat)
    if rest.isEmpty then none else some (readEscaped rest)

/-- One pair of a query; one with a semicolon or a malformed escape is passed over. -/
def queryPair? (bs : Bytes) : Option (Bytes × Bytes) := do
  if bs.isEmpty || bs.contains (Percent.byte ';') then none
  let (key, value) := Target.cut '=' bs
  return (← Percent.unescape? true key, ← Percent.unescape? true value)

/-- The pairs of the query. -/
def queryPairs (r : Request) : List (Bytes × Bytes) :=
  (splitBytes '&' r.target.query).filterMap queryPair?

/-- The values of a query parameter. -/
def queryValues (r : Request) (key : String) : List Bytes :=
  let name := Bytes.encode key
  (r.queryPairs.filter fun (k, _) => k == name).map (·.2)

/-- The values of a query parameter with commas between them. -/
def queryParam (r : Request) (key : String) : Option Bytes :=
  match r.queryValues key with
  | [] => none
  | values => some (joinLists values)

/-! ## Headers -/

/-- Whether a character may stand in the name of a header. -/
def isTokenChar (c : Char) : Bool :=
  c.isAlphanum || "!#$%&'*+-.^_`|~".toList.contains c

/-- Raises the first letter and those behind a hyphen, and lowers the others. -/
def recase (raise : Bool) : List Char → List Char
  | [] => []
  | c :: rest => (if raise then c.toUpper else c.toLower) :: recase (c == '-') rest

/-- The usual spelling of the name of a header; what is no name is left as it is. -/
def headerName (name : String) : String :=
  if name.toList.all isTokenChar then String.ofList (recase true name.toList) else name

/-- Adds a header. -/
def addHeader (r : Request) (name value : String) : Request :=
  { r with headers := r.headers ++ [(headerName name, value)] }

/-- The values of a header. -/
def headerValues (r : Request) (key : String) : List String :=
  (r.headers.filter fun (k, _) => k == headerName key).map (·.2)

/-- The values of a header with commas between them. -/
def headerParam (r : Request) (key : String) : Option String :=
  match r.headerValues key with
  | [] => none
  | values => some (",".intercalate values)

/-! ## The body -/

/-- The body, if there is one. -/
def readBody (r : Request) : Served (Option String) :=
  match r.body with
  | .absent => .ok none
  | .text s => .ok (some s)
  | .broken reason => .error (.other reason)

/-- The body, unless it is empty. -/
def bodyText (r : Request) : Served (Option String) := do
  match ← r.readBody with
  | some s => return if s == "" then none else some s
  | none => return none

/-- How many bytes of a malformed body a message shows. -/
def shownBytes : Nat := 64

/-- The start of a body as a message shows it. -/
def abridged (s : String) : Bytes :=
  let bs := Bytes.encode s
  if shownBytes < bs.length then bs.take shownBytes ++ Bytes.encode "..." else bs

/-- A body that is not the document it should be. -/
def malformedBody (field s : String) : Fault :=
  .malformed "json" field (abridged s) none

/-- What is read from the start of the body, unless the body is blank. -/
def decodeBody {α : Type} (r : Request) (field : String) (read : Bytes → Except Flaw α) :
    Served (Option α) := do
  match ← r.readBody with
  | none => return none
  | some s =>
    if Text.trim s == "" then return none
    match read (Bytes.encode s) with
    | .ok v => return some v
    | .error .malformed => throw (malformedBody field s)
    | .error .overrun => throw .breakdown

/-- The body as a document, unless it is blank or null. -/
def bodyValue (r : Request) (field : String) : Served (Option Raw) := do
  match ← r.decodeBody field Raw.read with
  | none | some .null => return none
  | some v => return some v

/-- The fields of the body, which has to be an object; a blank or null body has none. -/
def bodyDocument (r : Request) : Served (List (String × Raw)) := do
  return (← r.decodeBody "body" Raw.readObject).getD []

/-- A field of the body, unless it is null. -/
def bodyField (doc : List (String × Raw)) (name : String) : Option Raw :=
  match doc.lookup name with
  | some v => if v.isNull then none else some v
  | none => none

end Request
end Wire
end Shapewright
