import Shapewright.Json.Basic
import Shapewright.Text.Quoted

/-!
# Reading documents

A recursive descent reader on lists of characters.  Every reader consumes a part of its input from
the front and gives the rest back.

* `value?` — one value at the start of a text; the first argument bounds the nesting and the length.
* `Json.first?` — the value at the start of a text, and what follows it.
* `Json.parse?` — a text that is one value and nothing else.
* `number?`, `string?` — the two scalars with a grammar of their own.
-/

set_option autoImplicit false

namespace Shapewright
namespace Json

/-- White space between the tokens of a document. -/
def isSpace (c : Char) : Bool :=
  c == ' ' || c == '\t' || c == '\n' || c == '\r'

/-- The text without leading white space. -/
def skipSpace (cs : List Char) : List Char :=
  cs.dropWhile isSpace

/-- ASCII digits. -/
def isDigit (c : Char) : Bool := '0' ≤ c && c ≤ '9'

/-! ## Numbers -/

/-- An optional minus. -/
def sign (cs : List Char) : List Char × List Char :=
  match cs with
  | '-' :: rest => (['-'], rest)
  | _ => ([], cs)

/-- The digits before the point: a zero alone, or digits that do not start with one. -/
def whole? (cs : List Char) : Option (List Char × List Char) :=
  match cs with
  | '0' :: rest => some (['0'], rest)
  | _ =>
    let digits := cs.takeWhile isDigit
    if digits.isEmpty then none else some (digits, cs.dropWhile isDigit)

/-- A point and at least one digit, if there is a point. -/
def fraction? (cs : List Char) : Option (List Char × List Char) :=
  match cs with
  | '.' :: rest =>
    let digits := rest.takeWhile isDigit
    if digits.isEmpty then none else some ('.' :: digits, rest.dropWhile isDigit)
  | _ => some ([], cs)

/-- The sign of an exponent, if there is one. -/
def exponentSign (cs : List Char) : List Char × List Char :=
  match cs with
  | '+' :: rest => (['+'], rest)
  | '-' :: rest => (['-'], rest)
  | _ => ([], cs)

/-- An exponent: a letter, an optional sign and at least one digit, if there is the letter. -/
def exponent? (cs : List Char) : Option (List Char × List Char) :=
  match cs with
  | mark :: rest =>
    if mark == 'e' || mark == 'E' then
      let (s, rest) := exponentSign rest
      let digits := rest.takeWhile isDigit
      if digits.isEmpty then none else some (mark :: s ++ digits, rest.dropWhile isDigit)
    else some ([], cs)
  | [] => some ([], [])

/-- A number by its spelling. -/
def number? (cs : List Char) : Option (List Char × List Char) := do
  let (s, cs) := sign cs
  let (w, cs) ← whole? cs
  let (f, cs) ← fraction? cs
  let (e, cs) ← exponent? cs
  return (s ++ w ++ f ++ e, cs)

/-- Whether a text is a number and nothing else. -/
def isNumber (text : String) : Bool :=
  (number? text.toList).any fun (_, rest) => rest.isEmpty

/-! ## Strings -/

/-- What a string is written with: characters, and code units of UTF-16 given by number. -/
inductive Piece where
  | char (c : Char)
  | code (n : Nat)
  deriving DecidableEq, Repr

/-- The characters that are written as a backslash and a letter. -/
def escapes : List (Char × Char) :=
  [('"', '"'), ('\\', '\\'), ('/', '/'), ('b', '\x08'), ('f', '\x0c'), ('n', '\n'), ('r', '\r'),
   ('t', '\t')]

/-- The pieces of a string up to its closing quote, and what follows. -/
def pieces? : List Char → Option (List Piece × List Char)
  | '"' :: rest => some ([], rest)
  | '\\' :: 'u' :: a :: b :: c :: d :: rest => do
    let n ← Text.hexNumber? [a, b, c, d]
    let (ps, rest) ← pieces? rest
    return (.code n :: ps, rest)
  | '\\' :: letter :: rest => do
    let c ← escapes.lookup letter
    let (ps, rest) ← pieces? rest
    return (.char c :: ps, rest)
  | c :: rest => do
    if c.toNat < 0x20 || c == '\\' then none
    let (ps, rest) ← pieces? rest
    return (.char c :: ps, rest)
  | [] => none

/-- The character of a code unit that is not half of a pair; half a pair has none. -/
def replacement : Char := '\uFFFD'

/-- Whether a code unit is the first half of a pair. -/
def isHighHalf (n : Nat) : Bool := 0xD800 ≤ n && n < 0xDC00

/-- Whether a code unit is the second half of a pair. -/
def isLowHalf (n : Nat) : Bool := 0xDC00 ≤ n && n < 0xE000

/-- The characters of some pieces: two halves that meet are one character, and half a pair alone is
replaced. -/
def characters : List Piece → List Char
  | [] => []
  | .char c :: rest => c :: characters rest
  | .code hi :: .code lo :: rest =>
    if isHighHalf hi && isLowHalf lo then
      Char.ofNat (0x10000 + (hi - 0xD800) * 0x400 + (lo - 0xDC00)) :: characters rest
    else
      (if isHighHalf hi || isLowHalf hi then replacement else Char.ofNat hi)
        :: characters (.code lo :: rest)
  | .code n :: rest =>
    (if isHighHalf n || isLowHalf n then replacement else Char.ofNat n) :: characters rest

/-- A string after its opening quote. -/
def string? (cs : List Char) : Option (String × List Char) :=
  (pieces? cs).map fun (ps, rest) => (String.ofList (characters ps), rest)

/-! ## Values -/

mutual

/-- A value, after white space. -/
def value? : Nat → List Char → Option (Json × List Char)
  | 0, _ => none
  | fuel + 1, cs =>
    match skipSpace cs with
    | 'n' :: 'u' :: 'l' :: 'l' :: rest => some (.null, rest)
    | 't' :: 'r' :: 'u' :: 'e' :: rest => some (.bool true, rest)
    | 'f' :: 'a' :: 'l' :: 's' :: 'e' :: rest => some (.bool false, rest)
    | '"' :: rest => (string? rest).map fun (s, rest) => (.string s, rest)
    | '[' :: rest =>
      match skipSpace rest with
      | ']' :: rest => some (.array [], rest)
      | rest => (items? fuel rest).map fun (items, rest) => (.array items, rest)
    | '\x7b' :: rest =>
      match skipSpace rest with
      | '\x7d' :: rest => some (.object [], rest)
      | rest => (fields? fuel rest).map fun (fields, rest) => (.object fields, rest)
    | cs => (number? cs).map fun (text, rest) => (.number (String.ofList text), rest)

/-- The items of an array that has some, up to its closing bracket. -/
def items? : Nat → List Char → Option (List Json × List Char)
  | 0, _ => none
  | fuel + 1, cs => do
    let (v, rest) ← value? fuel cs
    match skipSpace rest with
    | ']' :: rest => return ([v], rest)
    | ',' :: rest =>
      let (vs, rest) ← items? fuel rest
      return (v :: vs, rest)
    | _ => none

/-- The fields of an object that has some, up to its closing brace. -/
def fields? : Nat → List Char → Option (List (String × Json) × List Char)
  | 0, _ => none
  | fuel + 1, cs => do
    match skipSpace cs with
    | '"' :: rest =>
      let (key, rest) ← string? rest
      match skipSpace rest with
      | ':' :: rest =>
        let (v, rest) ← value? fuel rest
        match skipSpace rest with
        | '\x7d' :: rest => return ([(key, v)], rest)
        | ',' :: rest =>
          let (fs, rest) ← fields? fuel rest
          return ((key, v) :: fs, rest)
        | _ => none
      | _ => none
    | _ => none

end

/-- The value at the start of a text, and what follows it. One that is nested too deep is refused. -/
def first? (cs : List Char) : Option (Json × List Char) := do
  let (v, rest) ← value? (2 * cs.length + 1) cs
  if v.nesting ≤ maxNesting then some (v, rest) else none

/-- The document that a text is, with nothing but white space around it. -/
def parse? (text : String) : Option Json :=
  match first? text.toList with
  | some (v, rest) => if (skipSpace rest).isEmpty then some v else none
  | none => none

end Json
end Shapewright
