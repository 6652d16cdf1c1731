import Shapewright.Number.Digits
import Shapewright.Yaml.Text

/-!
# Tokens of a YAML text

* `Token` — what a text consists of.
* `name?` — the name behind `&` or `*`.
* `tag?` — a tag, by its handle and the rest.
* `directive?` — a line that starts with a percent sign.
-/

set_option autoImplicit false

namespace Shapewright
namespace Yaml

/-- What a text consists of. -/
inductive Token where
  /-- The version that a document claims to be written for. -/
  | version (major minor : Nat)
  /-- What a handle of tags stands for. -/
  | handle (name meaning : List Char)
  | documentStart
  | documentEnd
  | streamEnd
  /-- The start of a list of lines. -/
  | listStart
  /-- The start of a mapping of lines. -/
  | mapStart
  /-- The end of a list or a mapping of lines. -/
  | blockEnd
  | openBracket
  | closeBracket
  | openBrace
  | closeBrace
  /-- A dash in front of an item. -/
  | item
  | comma
  /-- What stands in front of a key; it need not be written. -/
  | key
  | value
  /-- A name for what follows. -/
  | anchor (name : List Char)
  /-- Something named before. -/
  | reference (name : List Char)
  | tag (handle rest : List Char)
  | scalar (isPlain : Bool) (text : List Char)
  deriving DecidableEq, Repr

/-! ## Names and tags -/

/-- Characters of names and handles. -/
def isNameChar (c : Char) : Bool :=
  ('a' ≤ c && c ≤ 'z') || ('A' ≤ c && c ≤ 'Z') || Number.isDigit c || c == '_' || c == '-'

/-- What may follow a name besides a blank. -/
def nameEnds : List Char := "?:,]\x7d%@`".toList

/-- The name behind a character that announces it. -/
def name? (c : Cursor) : Option (List Char × Cursor) :=
  let c := c.skip 1
  let name := c.takeWhile isNameChar
  let after := c.skip name.length
  if !name.isEmpty && (endsWord after.next? || after.next?.any nameEnds.contains) then
    some (name, after)
  else none

/-- Characters of a tag besides those of names. -/
def tagSigns : List Char := ";/?:@&=+$,.!~*'()[]".toList

/-- How many bytes a character takes by its first one. -/
def byteCount? (b : Nat) : Option Nat :=
  if b < 0x80 then some 1
  else if 0xC0 ≤ b && b < 0xE0 then some 2
  else if 0xE0 ≤ b && b < 0xF0 then some 3
  else if 0xF0 ≤ b && b < 0xF8 then some 4
  else none

/-- The byte that comes next behind a percent sign. -/
def escapedByte? (c : Cursor) : Option (Nat × Cursor) :=
  match c.rest with
  | '%' :: a :: b :: _ => (Text.hexNumber? [a, b]).map fun n => (n, c.skip 3)
  | _ => none

/-- More bytes of a character, each behind a percent sign. -/
def escapedTail? : Nat → Cursor → Option (List Char × Cursor)
  | 0, c => some ([], c)
  | count + 1, c => do
    let (b, c) ← escapedByte? c
    if b / 0x40 != 2 then none
    else
      let (more, c) ← escapedTail? count c
      return (Char.ofNat b :: more, c)

/-- The characters of a tag, and the place after them. Bytes may be written behind percent signs, a
character's all in a row. The first argument bounds the number of characters. -/
def tagChars? : Nat → Cursor → Option (List Char × Cursor)
  | 0, c => some ([], c)
  | fuel + 1, c =>
    match c.next? with
    | none => some ([], c)
    | some x =>
      if x == '%' then do
        let (b, c) ← escapedByte? c
        let (tail, c) ← escapedTail? ((← byteCount? b) - 1) c
        let (more, c) ← tagChars? fuel c
        return (Char.ofNat b :: tail ++ more, c)
      else if isNameChar x || tagSigns.contains x then
        (tagChars? fuel (c.skip 1)).map fun (more, c) => (x :: more, c)
      else some ([], c)

/-- Characters of a tag, of which there has to be one. -/
def someTagChars? (c : Cursor) : Option (List Char × Cursor) := do
  let (text, c) ← tagChars? c.left c
  if text.isEmpty then none else return (text, c)

/-- The start of a tag, which is a handle if it has an exclamation mark at both ends. -/
def handle? (c : Cursor) : Option (List Char × Cursor) :=
  if !c.isAt '!' then none
  else
    let name := '!' :: (c.skip 1).takeWhile isNameChar
    let after := c.skip name.length
    if after.isAt '!' then some (name ++ ['!'], after.skip 1) else some (name, after)

/-- Whether the start of a tag is a handle of two exclamation marks or more. -/
def isHandle (start : List Char) : Bool := 1 < start.length && start.getLast? == some '!'

/-- A tag: in angle brackets, behind a handle, or behind a single exclamation mark, which can also stand
alone. -/
def tag? (c : Cursor) : Option (Token × Cursor) := do
  let (token, c) ←
    if c.after? 1 == some '<' then do
      let (text, c) ← someTagChars? (c.skip 2)
      if c.isAt '>' then some (Token.tag [] text, c.skip 1) else none
    else do
      let (start, c) ← handle? c
      if isHandle start then do
        let (text, c) ← someTagChars? c
        return (.tag start text, c)
      else do
        let (more, c) ← tagChars? c.left c
        let text := start.drop 1 ++ more
        return (if text.isEmpty then .tag [] start else .tag ['!'] text, c)
  if endsWord c.next? then return (token, c) else none

/-! ## Directives -/

/-- A number of at most two digits. -/
def versionPart? (c : Cursor) : Option (Nat × Cursor) :=
  let digits := c.takeWhile Number.isDigit
  if digits.isEmpty || 2 < digits.length then none
  else some (Number.value digits, c.skip digits.length)

/-- The version behind a directive's name. -/
def version? (c : Cursor) : Option (Token × Cursor) := do
  let (major, c) ← versionPart? (c.skipWhile isGap)
  if !c.isAt '.' then none
  else
    let (minor, c) ← versionPart? (c.skip 1)
    return (.version major minor, c)

/-- The handle and its meaning behind a directive's name. -/
def handleMeaning? (c : Cursor) : Option (Token × Cursor) := do
  let (name, c) ← handle? (c.skipWhile isGap)
  if name != ['!'] && !isHandle name || !c.next?.any isGap then none
  else
    let (meaning, c) ← someTagChars? (c.skipWhile isGap)
    if endsWord c.next? then return (.handle name meaning, c) else none

/-- A directive up to the end of its line. -/
def directive? (c : Cursor) : Option (Token × Cursor) := do
  let c := c.skip 1
  let name := c.takeWhile isNameChar
  let after := c.skip name.length
  if !endsWord after.next? then none
  else
    let (token, c) ←
      if name == "YAML".toList then version? after
      else if name == "TAG".toList then handleMeaning? after
      else none
    return (token, ← c.finishLine?)

end Yaml
end Shapewright
