import Shapewright.Json.Parser
import Shapewright.Number.Numeral

/-!
# Documents token by token

A document can be looked through without being kept.  A scanner takes one token after the other from
the front of a text, and knows where it stands and in which brackets; so it refuses a bracket, a comma
or a colon in the wrong place, but what it has passed is forgotten.

* `Scanner.next?` — the next token; numbers have to be within the range of 64 bit floating point.
* `Scanner.skip?` — passes over a value, however deep it is; a bracket that closes is reported instead.
* `documentKeys?` — the keys of the object at the start of a text.
-/

set_option autoImplicit false

namespace Shapewright

/-- Whether a number is within the range of 64 bit floating point. -/
def isInRange (text : String) : Bool :=
  (Number.double.read text).isOk

namespace Json

/-! ## Places -/

/-- The two kinds of brackets. -/
inductive Bracket where
  | square
  | curly
  deriving DecidableEq, Repr

/-- A token. Of the values that are no strings nothing is kept. -/
inductive Token where
  | opening (b : Bracket)
  | closing (b : Bracket)
  | string (s : String)
  | simple
  deriving DecidableEq, Repr

/-- Where the next token stands: outside of all brackets, or in the innermost ones. -/
inductive Place where
  | top
  /-- Behind the bracket that opens an array. -/
  | arrayStart
  /-- Behind the comma of an array. -/
  | item
  | itemEnd
  /-- Behind the bracket that opens an object. -/
  | objectStart
  /-- Behind the comma of an object. -/
  | key
  | keyEnd
  /-- Behind the colon of an object. -/
  | value
  | valueEnd
  deriving DecidableEq, Repr

/-- Whether a value may stand in a place. -/
def Place.takesValue : Place → Bool
  | .top | .arrayStart | .item | .value => true
  | _ => false

/-- Whether a key may stand in a place. -/
def Place.takesKey : Place → Bool
  | .objectStart | .key => true
  | _ => false

/-- The bracket that may close in a place. -/
def Place.closes? : Place → Option Bracket
  | .arrayStart | .itemEnd => some .square
  | .objectStart | .valueEnd => some .curly
  | _ => none

/-- The place behind a value. -/
def Place.behind : Place → Place
  | .arrayStart | .item => .itemEnd
  | .value => .valueEnd
  | p => p

/-- The place behind an opening bracket. -/
def Bracket.start : Bracket → Place
  | .square => .arrayStart
  | .curly => .objectStart

/-! ## Tokens -/

/-- What is left of a text, the place it begins in, and the places outside the innermost brackets. -/
structure Scanner where
  place : Place
  outer : List Place := []
  rest : List Char
  deriving Repr

/-- What follows a value that is neither a string nor in brackets. -/
def simple? : List Char → Option (List Char)
  | 'n' :: 'u' :: 'l' :: 'l' :: rest => some rest
  | 't' :: 'r' :: 'u' :: 'e' :: rest => some rest
  | 'f' :: 'a' :: 'l' :: 's' :: 'e' :: rest => some rest
  | cs => (number? cs).bind fun (text, rest) =>
    if isInRange (String.ofList text) then some rest else none

namespace Scanner

/-- Goes past the colon or the comma that is due. -/
def proceed (s : Scanner) : Scanner :=
  match s.place, skipSpace s.rest with
  | .itemEnd, ',' :: rest => { s with place := .item, rest }
  | .keyEnd, ':' :: rest => { s with place := .value, rest }
  | .valueEnd, ',' :: rest => { s with place := .key, rest }
  | _, _ => s

/-- Behind a value. -/
def pass (s : Scanner) (rest : List Char) : Scanner :=
  { s with place := s.place.behind, rest }

/-- Behind an opening bracket. -/
def enter? (s : Scanner) (b : Bracket) (rest : List Char) : Option Scanner :=
  if s.place.takesValue then some { place := b.start, outer := s.place :: s.outer, rest } else none

/-- Behind a closing bracket, which ends a value of the place outside. -/
def leave? (s : Scanner) (b : Bracket) (rest : List Char) : Option Scanner :=
  match s.outer with
  | p :: outer =>
    if s.place.closes? == some b then some { place := p.behind, outer, rest } else none
  | [] => none

/-- Behind a string, which is a key or a value. -/
def quote? (s : Scanner) (rest : List Char) : Option Scanner :=
  if s.place.takesKey then some { s with place := .keyEnd, rest }
  else if s.place.takesValue then some (s.pass rest) else none

/-- The token at the start of a text. -/
def token? (s : Scanner) : Option (Token × Scanner) :=
  match skipSpace s.rest with
  | '[' :: rest => (s.enter? .square rest).map fun t => (.opening .square, t)
  | '\x7b' :: rest => (s.enter? .curly rest).map fun t => (.opening .curly, t)
  | ']' :: rest => (s.leave? .square rest).map fun t => (.closing .square, t)
  | '\x7d' :: rest => (s.leave? .curly rest).map fun t => (.closing .curly, t)
  | '"' :: rest => (string? rest).bind fun (text, rest) =>
    (s.quote? rest).map fun t => (.string text, t)
  | cs => if s.place.takesValue then (simple? cs).map fun rest => (.simple, s.pass rest) else none

/-- The next token, and the scanner behind it. -/
def next? (s : Scanner) : Option (Token × Scanner) :=
  s.proceed.token?

/-! ## Values that are passed over -/

/-- What a scanner comes to when a value is due: it is behind the value, or behind a bracket that closed
where the value would have been. -/
inductive Passed where
  | value (s : Scanner)
  | closing (s : Scanner)

mutual

/-- Passes over a value. The first argument bounds how many tokens are taken and how deep they are
nested. -/
def skip? : Nat → Scanner → Option Passed
  | 0, _ => none
  | fuel + 1, s =>
    match s.next? with
    | none => none
    | some (.opening _, s) => (skipRest? fuel s).map .value
    | some (.closing _, s) => some (.closing s)
    | some (_, s) => some (.value s)

/-- Passes over everything up to the bracket that closes. -/
def skipRest? : Nat → Scanner → Option Scanner
  | 0, _ => none
  | fuel + 1, s =>
    match skip? fuel s with
    | none => none
    | some (.value s) => skipRest? fuel s
    | some (.closing s) => some s

end

/-- The keys of an object, of which some may be behind the scanner. -/
def keys? : Nat → Scanner → Option (List String)
  | 0, _ => none
  | fuel + 1, s =>
    match s.next? with
    | some (.closing .curly, _) => some []
    | some (.string key, s) =>
      match skip? fuel s with
      | some (.value s) => (keys? fuel s).map (key :: ·)
      | _ => none
    | _ => none

end Scanner
end Json

/-- The keys of the object at the start of a text, as often as they occur. -/
def documentKeys? (text : String) : Option (List String) :=
  match ({ place := .top, rest := text.toList } : Json.Scanner).next? with
  | some (.opening .curly, s) => s.keys? (2 * text.toList.length)
  | _ => none

end Shapewright
