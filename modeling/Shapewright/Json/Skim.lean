import Shapewright.Json.Parser

/-!
# Skimming documents

Where only a few fields of an object matter, the others are passed over by their brackets and quotes
alone, and the text of a field is cut out before it is read.  Nothing inside a text that is passed over
is checked.

* `skim?` — the text of the value at the start of a text, and what follows.
* `openString?` — a string in which control characters may stand.
* `matchName` — which of some fields a key names.
-/

set_option autoImplicit false

namespace Shapewright
namespace Json

/-- The text of a string after its opening quote, the closing quote included, and what follows. -/
def skimString? : List Char → Option (List Char × List Char)
  | [] => none
  | '"' :: rest => some (['"'], rest)
  | '\\' :: c :: rest => (skimString? rest).map fun (text, rest) => ('\\' :: c :: text, rest)
  | c :: rest =>
    if c == '\\' then none else (skimString? rest).map fun (text, rest) => (c :: text, rest)

/-- The text up to the bracket that closes the outermost of `level` open ones, and what follows. Other
brackets do not count, nor do those in strings. -/
def skimNested? (opening closing : Char) (level : Nat) (quoted : Bool) :
    List Char → Option (List Char × List Char)
  | [] => none
  | '\\' :: c :: rest =>
    if quoted then
      (skimNested? opening closing level quoted rest).map fun (text, rest) =>
        ('\\' :: c :: text, rest)
    else (skimNested? opening closing level quoted (c :: rest)).map fun (text, rest) =>
        ('\\' :: text, rest)
  | c :: rest =>
    if !quoted && c == closing && level == 1 then some ([c], rest)
    else
      let level := if quoted then level
        else if c == opening then level + 1 else if c == closing then level - 1 else level
      (skimNested? opening closing level (if c == '"' then !quoted else quoted) rest).map
        fun (text, rest) => (c :: text, rest)

/-- The text of the value at the start of a text, and what follows. -/
def skim? (cs : List Char) : Option (List Char × List Char) :=
  match skipSpace cs with
  | '\x7b' :: rest => (skimNested? '\x7b' '\x7d' 1 false rest).map fun (text, rest) =>
      ('\x7b' :: text, rest)
  | '[' :: rest => (skimNested? '[' ']' 1 false rest).map fun (text, rest) => ('[' :: text, rest)
  | '"' :: rest => (skimString? rest).map fun (text, rest) => ('"' :: text, rest)
  | c :: rest =>
    if isDigit c || c == '-' then
      let text := c :: rest.takeWhile fun d => isDigit d || "+-.eE".toList.contains d
      some (text, (c :: rest).drop text.length)
    else
      (["true", "false", "null"].find? fun w => w.toList.isPrefixOf (c :: rest)).map fun w =>
        (w.toList, (c :: rest).drop w.length)
  | [] => none

/-- The pieces of a string in which control characters may stand, and what follows it. -/
def openPieces? : List Char → Option (List Piece × List Char)
  | '"' :: rest => some ([], rest)
  | '\\' :: 'u' :: a :: b :: c :: d :: rest => do
    let n ← Text.hexNumber? [a, b, c, d]
    let (ps, rest) ← openPieces? rest
    return (.code n :: ps, rest)
  | '\\' :: letter :: rest => do
    let c ← escapes.lookup letter
    let (ps, rest) ← openPieces? rest
    return (.char c :: ps, rest)
  | c :: rest => do
    if c == '\\' then none
    let (ps, rest) ← openPieces? rest
    return (.char c :: ps, rest)
  | [] => none

/-- A string after its opening quote. -/
def openString? (cs : List Char) : Option (String × List Char) :=
  (openPieces? cs).map fun (ps, rest) => (String.ofList (characters ps), rest)

/-! ## Names of fields -/

/-- A name with the differences removed that do not count: those of case, and the two letters beyond
ASCII whose capitals are ASCII. -/
def foldedName (name : String) : List Char :=
  name.toList.map fun c => if c == 'ſ' then 'S' else if c == '\u212a' then 'K' else c.toUpper

/-- Which of some fields a key names: the one that is spelled like it, else one that differs in case
only. -/
def fieldNamed (names : List String) (key : String) : String :=
  if names.contains key then key
  else (names.find? fun n => foldedName n == foldedName key).getD key

end Json
end Shapewright
