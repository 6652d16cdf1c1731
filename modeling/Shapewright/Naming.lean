import Shapewright.Text.Blank
import Shapewright.Text.Case

/-!
# Identifiers for model names

A model names its shapes and members freely; generated code needs identifiers.  Only ASCII letters
and digits survive, and the separators between words decide where capitals go.

* `exported` — the name of a declared type or field: `widget_id` becomes `WidgetId`.
* `local_` — the name of a parameter or variable, kept off the keywords: `widgetId`, `type_`.
* `constant` — the spelling of enumeration constants: `WIDGET_ID`.
-/

set_option autoImplicit false

namespace Shapewright
namespace Naming

/-- ASCII capital letters. -/
def isUpper (c : Char) : Bool := 'A' ≤ c && c ≤ 'Z'

/-- ASCII small letters. -/
def isLower (c : Char) : Bool := 'a' ≤ c && c ≤ 'z'

/-- ASCII digits. -/
def isDigit (c : Char) : Bool := '0' ≤ c && c ≤ '9'

/-- The characters that stand between the words of a name. -/
def isSeparator (c : Char) : Bool :=
  c == '_' || c == ' ' || c == '-' || c == '.'

/-- Joins the words of a name. `first` says that nothing was read yet, `capital` that the next
letter starts a word, `afterUpper` that the last character read was a capital. Inside a word a
capital that follows a capital is lowered. -/
def camel (first capital afterUpper : Bool) : List Char → List Char
  | [] => []
  | c :: rest =>
    let shown :=
      if capital then (if isLower c then c.toUpper else c)
      else if first then (if isUpper c then c.toLower else c)
      else if afterUpper && isUpper c then c.toLower
      else c
    if isUpper c || isLower c then shown :: camel false false (isUpper c) rest
    else if isDigit c then shown :: camel false true false rest
    else camel false (isSeparator c) false rest

/-- The identifier of a declared type, field or constant. -/
def exported (name : String) : String :=
  String.ofList (camel true true false (Text.trim name).toList)

/-- The words that generated code cannot use as a name. -/
def keywords : List String :=
  ["break", "case", "chan", "const", "continue", "default", "defer", "else", "fallthrough", "for",
   "func", "go", "goto", "if", "import", "interface", "map", "package", "range", "return", "select",
   "struct", "switch", "type", "var"]

/-- The identifier of a parameter or variable. -/
def local_ (name : String) : String :=
  let word := String.ofList (camel true false false (Text.trim name).toList)
  if keywords.contains word then word ++ "_" else word

/-- Whether the class of letters changes between two neighbours in a name. -/
def changesClass (c next : Char) : Bool :=
  (isUpper c && (isLower next || isDigit next)) ||
  (isLower c && (isUpper next || isDigit next)) ||
  (isDigit c && (isUpper next || isLower next))

/-- Capitals, with an underscore wherever the class of letters changes. The last capital of a row
belongs to the word that follows it. -/
def snake (previous : Option Char) : List Char → List Char
  | [] => []
  | [c] => [if isSeparator c then '_' else if isLower c then c.toUpper else c]
  | c :: next :: rest =>
    let shown := if isLower c then c.toUpper else c
    let here :=
      if changesClass c next then
        (if isUpper c && isLower next && previous.any isUpper then ['_'] else []) ++ [shown] ++
        (if isLower c || isDigit c || isDigit next then ['_'] else [])
      else [if isSeparator c then '_' else shown]
    here ++ snake (some c) (next :: rest)

/-- The spelling of an enumeration constant. -/
def constant (name : String) : String :=
  String.ofList (snake none (Text.trim name).toList)

/-- The text in lower case. -/
def lowered (s : String) : String :=
  String.ofList (s.toList.map Text.toLower)

/-- The text in upper case. -/
def raised (s : String) : String :=
  String.ofList (s.toList.map Text.toUpper)

end Naming
end Shapewright
