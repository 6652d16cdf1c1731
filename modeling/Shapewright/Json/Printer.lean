import Shapewright.Json.Basic
import Shapewright.Text.Quoted

/-!
# Writing documents

* `Json.compact` — without white space.
* `Json.escape` — how a character is written inside a string; the characters that matter to a page
  a document is pasted into are written by number.
* `Json.shown` — the informal text of a value in messages.
-/

set_option autoImplicit false

namespace Shapewright
namespace Json

/-- Control characters that have a letter, in documents. -/
def shortEscapes : List (Char × Char) :=
  [('\x08', 'b'), ('\x0c', 'f'), ('\n', 'n'), ('\r', 'r'), ('\t', 't')]

/-- Whether a character is written by number though it is no control character. -/
def isSensitive (c : Char) : Bool :=
  c == '<' || c == '>' || c == '&' || c == '\u2028' || c == '\u2029'

/-- How a character is written inside a string. With `page` the characters that matter to a page
are written by number. -/
def escape (page : Bool) (c : Char) : List Char :=
  if c == '"' || c == '\\' then ['\\', c]
  else match shortEscapes.lookup c with
    | some letter => ['\\', letter]
    | none =>
      if c.toNat < 0x20 || (isSensitive c && (page || 0x80 ≤ c.toNat)) then
        '\\' :: 'u' :: Text.hexDigits 4 c.toNat
      else [c]

/-- A string as it is written. -/
def quoted (page : Bool) (s : String) : String :=
  String.ofList ('"' :: s.toList.flatMap (escape page) ++ ['"'])

mutual

/-- A document without white space, its fields in the order it has them in. -/
def compact : Json → String
  | .null => "null"
  | .bool b => if b then "true" else "false"
  | .number text => text
  | .string s => quoted true s
  | .array items => "[" ++ ",".intercalate (compactItems items) ++ "]"
  | .object fields => "\x7b" ++ ",".intercalate (compactFields fields) ++ "\x7d"

/-- Items one by one. -/
def compactItems : List Json → List String
  | [] => []
  | v :: rest => compact v :: compactItems rest

/-- Fields one by one. -/
def compactFields : List (String × Json) → List String
  | [] => []
  | (k, v) :: rest => (quoted true k ++ ":" ++ compact v) :: compactFields rest

end

mutual

/-- The informal text of a value: strings without quotes, items between blanks. -/
def shown : Json → String
  | .null => "<nil>"
  | .bool b => if b then "true" else "false"
  | .number text => text
  | .string s => s
  | .array items => "[" ++ " ".intercalate (shownItems items) ++ "]"
  | .object fields => "map[" ++ " ".intercalate (shownFields fields) ++ "]"

/-- Items one by one. -/
def shownItems : List Json → List String
  | [] => []
  | v :: rest => shown v :: shownItems rest

/-- Fields one by one. -/
def shownFields : List (String × Json) → List String
  | [] => []
  | (k, v) :: rest => (k ++ ":" ++ shown v) :: shownFields rest

end

end Json
end Shapewright
