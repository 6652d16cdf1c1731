import Shapewright.Failure

/-!
# Target patterns

An operation is reached at a target such as `/widgets/{id}?format=json`: segments, some of which
are labels, and a literal query.  A greedy label, `{key+}`, takes the rest of the path.

* `Segment`, `UriPattern` — a pattern in parts.
* `UriPattern.parse` — reading one.
* `UriPattern.written` — writing its parts back.
* `labelIndex?`, `labels`, `path` — looking.
-/

set_option autoImplicit false

namespace Shapewright

/-- A segment of a path: literal text or a label. -/
structure Segment where
  content : String
  isLabel : Bool := false
  isGreedy : Bool := false
  deriving DecidableEq, Repr

/-- A target pattern in parts. -/
structure UriPattern where
  /-- The pattern as it was given. -/
  raw : String
  segments : List Segment
  /-- What stands behind the first `?`. -/
  query : String := ""
  deriving DecidableEq, Repr

namespace Segment

/-- The inside of a pair of braces that encloses the whole text. -/
def braced? (s : List Char) : Option (List Char) :=
  match s with
  | '\x7b' :: rest =>
    if rest.getLast? == some '\x7d' then some rest.dropLast else none
  | _ => none

/-- Reads a segment; a label without a name is refused. -/
def parse? (s : String) : Option Segment :=
  match braced? s.toList with
  | none => some { content := s }
  | some inner =>
    let isGreedy := inner.getLast? == some '+'
    let content := if isGreedy then inner.dropLast else inner
    if content.isEmpty then none
    else some { content := String.ofList content, isLabel := true, isGreedy }

/-- A segment as it is written in a pattern. -/
def written (s : Segment) : String :=
  if s.isLabel then "\x7b" ++ s.content ++ (if s.isGreedy then "+" else "") ++ "\x7d"
  else s.content

end Segment

namespace UriPattern

/-- Reads a pattern. -/
def parse (raw : String) : Outcome UriPattern :=
  match Text.dropStart? "/" ((Text.cut '?' raw).elim raw (·.1)) with
  | none => .error (.uriNotRooted raw)
  | some path =>
    match (Text.split '/' path).mapM Segment.parse? with
    | none => .error (.uriEmptyLabel raw)
    | some segments => .ok { raw, segments, query := (Text.cut '?' raw).elim "" (·.2) }

/-- The segments of a pattern as they are written. -/
def writtenPath (p : UriPattern) : String :=
  "/" ++ "/".intercalate (p.segments.map Segment.written)

/-- A pattern as its parts write it. -/
def written (p : UriPattern) : String :=
  p.writtenPath ++ (if Text.hasChar '?' p.raw then "?" ++ p.query else "")

/-- The position of the first label with a name. -/
def labelIndex? (p : UriPattern) (name : String) : Option Nat :=
  p.segments.findIdx? fun s => s.isLabel && s.content == name

/-- The names of the labels. -/
def labels (p : UriPattern) : List String :=
  (p.segments.filter (·.isLabel)).map (·.content)

/-- The pattern without its query. A pattern that ends with its `?` keeps it. -/
def path (p : UriPattern) : String :=
  if p.query == "" then p.raw else (Text.cut '?' p.raw).elim p.raw (·.1)

/-- The pattern in the form that the generated router takes: a greedy label is marked by an
ellipsis and has to be the last segment, and a path that ends with a slash matches nothing below
it. -/
def route (p : UriPattern) : Outcome String := do
  let last := p.segments.length - 1
  let parts ← p.segments.zipIdx.mapM fun (s, i) =>
    if s.isGreedy then
      if i != last then throw (.greedyNotLast s.content p.raw)
      else pure ("\x7b" ++ s.content ++ "...\x7d")
    else if s.isLabel then pure ("\x7b" ++ s.content ++ "\x7d")
    else pure s.content
  let path := "/" ++ "/".intercalate parts
  return if Text.endsWith "/" path then path ++ "\x7b$\x7d" else path

end UriPattern
end Shapewright
