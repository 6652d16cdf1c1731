import Shapewright.Json.Printer
import Shapewright.Number.Numeral
import Shapewright.Number.Shortest
import Shapewright.Text.Blank
import Shapewright.Text.Quoted

/-!
# Log lines

A line of the log is a list of `key=value` fields: the level, the message and then further fields.
Keys and values are quoted where they could be misread.

* `Log.Level`, `Log.isShown` — which lines are shown.
* `Log.line` — a line from a level, a message and further arguments.
* `Log.format` — a message with its places filled in.
-/

set_option autoImplicit false

namespace Shapewright
namespace Log

/-- How important a line is. -/
inductive Level where
  | debug
  | info
  | warning
  deriving DecidableEq, Repr

/-- The level as it is written. -/
def Level.name : Level → String
  | .debug => "DEBUG"
  | .info => "INFO"
  | .warning => "WARN"

/-- Lines for debugging are shown on request only. -/
def isShown (verbose : Bool) (level : Level) : Bool := verbose || level != .debug

/-! ## Values -/

/-- Whether a character makes a word ambiguous: blanks, the marks of the format and everything that
cannot be seen, but not the backslash. -/
def isUnclear (c : Char) : Bool :=
  if c.toNat < 0x80 then c.toNat ≤ 0x20 || c == '=' || c == '"'
  else c == '\uFFFD' || Text.isBlank c || !Text.isPrintable c

/-- A key or value, quoted where that is needed. -/
def word (s : String) : String :=
  if s == "" || s.toList.any isUnclear then Text.quote s else s

/-- An argument as text. -/
def shown : Json → String
  | .null => "<nil>"
  | .number text => match Number.double.readUnbounded? text with
    | some x => x.general Number.double
    | none => text
  | v => v.shown

/-- The kind of an argument in front of it. -/
def described : Json → String
  | .null => "<nil>"
  | .bool b => "bool=" ++ shown (.bool b)
  | .number text => "float64=" ++ shown (.number text)
  | .string s => "string=" ++ s
  | .array items => "[]interface \x7b\x7d=" ++ shown (.array items)
  | .object fields => "map[string]interface \x7b\x7d=" ++ shown (.object fields)

/-! ## Lines -/

/-- The key of an argument that has none. -/
def missingKey : String := "!BADKEY"

/-- Arguments as fields: a text is the key of the argument after it. A field with neither key nor
value is dropped. -/
def fields : List Json → List (String × Json)
  | [] => []
  | [v] => [(missingKey, v)]
  | .string key :: v :: rest =>
    if key == "" && v == .null then fields rest else (key, v) :: fields rest
  | v :: rest => (missingKey, v) :: fields rest

/-- A field as it is written. -/
def field (key : String) (v : Json) : String := word key ++ "=" ++ word (shown v)

/-- A line of the log. -/
def line (level : Level) (message : String) (args : List Json) : String :=
  " ".intercalate ((("level", Json.string level.name) :: ("msg", .string message)
    :: fields args).map fun (key, v) => field key v) ++ "\n"

/-! ## Messages with places -/

/-- What stands between the mark of a place and its letter. -/
def isPlaceFlag (c : Char) : Bool := Number.isDigit c || "+-# .".toList.contains c

/-- An argument in its place, which is for texts. -/
def fill (verb : Char) : Option Json → String
  | none => "%!" ++ String.singleton verb ++ "(MISSING)"
  | some v => match verb, v with
    | 'v', v => shown v
    | 's', .string s => s
    | verb, v => "%!" ++ String.singleton verb ++ "(" ++ described v ++ ")"

/-- A message with its places filled in from left to right. The first argument bounds the length. -/
def formatFrom : Nat → List Char → List Json → List String × List Json
  | 0, _, args => ([], args)
  | _ + 1, [], args => ([], args)
  | fuel + 1, '%' :: rest, args =>
    match rest.dropWhile isPlaceFlag with
    | [] => (["%!(NOVERB)"], args)
    | '%' :: rest =>
      let (parts, left) := formatFrom fuel rest args
      ("%" :: parts, left)
    | verb :: rest =>
      let (parts, left) := formatFrom fuel rest args.tail
      (fill verb args.head? :: parts, left)
  | fuel + 1, c :: rest, args =>
    let (parts, left) := formatFrom fuel rest args
    (String.singleton c :: parts, left)

/-- A message with its places filled in; arguments without a place follow it. -/
def format (message : String) (args : List Json) : String :=
  let (parts, left) := formatFrom (message.toList.length + 1) message.toList args
  String.join parts ++ (if left.isEmpty then "" else
    "%!(EXTRA " ++ ", ".intercalate (left.map described) ++ ")")

end Log
end Shapewright
