import Shapewright.Yaml.Token

/-!
# Streams of tokens

Tokens are read from a text as they are asked for.  Whether a text is a key shows only at the colon
behind it, so a token that may be the start of a key is held back until the colon is met, or cannot be
met any more: a key that is not announced by a question mark stays on one line and within 1024
characters.  Where lines are indented, tokens are added that open and close lists and mappings.

* `Stream` — the tokens read ahead, and how reading goes on.
* `Spot` — a place at which a key may have started.
* `Stream.advance?` — reading one token.
* `Stream.peek?`, `Stream.take` — the next token, and leaving it behind.

A stream that goes wrong has no next token.
-/

set_option autoImplicit false

namespace Shapewright
namespace Yaml

/-- A place at which a key may have started. -/
structure Spot where
  /-- Whether a key can still be there. -/
  isOpen : Bool := false
  /-- Whether the token that starts there is held back for the key to show. -/
  isHeld : Bool := false
  /-- Whether nothing but a key can be there. -/
  isRequired : Bool := false
  /-- The number of the token that starts there. -/
  number : Nat := 0
  /-- How much of the text came after it. -/
  left : Nat := 0
  line : Nat := 0
  column : Nat := 0
  deriving Repr

/-- How far a key reaches at most. -/
def longestKey : Nat := 1024

/-- How deep brackets, and indented lines, may be nested. -/
def deepestLevel : Nat := 10000

/-- Whether a key that started at a spot can go on at a place. -/
def Spot.reaches (s : Spot) (c : Cursor) : Bool :=
  s.isOpen && s.line == c.line && s.left ≤ c.left + longestKey

/-- The tokens of a text. -/
structure Stream where
  cursor : Cursor
  /-- The tokens read ahead. -/
  queue : List Token := []
  /-- How many tokens have been left behind. -/
  taken : Nat := 0
  /-- How many brackets are open. -/
  level : Nat := 0
  /-- The column to which lines are indented, if a list or mapping of lines is open. -/
  column : Option Nat := none
  /-- The columns further out. -/
  outer : List (Option Nat) := []
  /-- Whether a key may start here. -/
  allowsKey : Bool := true
  /-- Where a key may have started within the innermost brackets. -/
  spot : Spot := {}
  /-- The same for the brackets around them. -/
  outerSpots : List Spot := []
  deriving Repr

namespace Stream

/-- The number that the next token gets. -/
def nextNumber (s : Stream) : Nat := s.taken + s.queue.length

/-- Adds a token. -/
def push (s : Stream) (t : Token) : Stream := { s with queue := s.queue ++ [t] }

/-- Adds a token in front of the one with a number, or at the end if that one has been left behind. -/
def pushBefore (s : Stream) (number : Nat) (t : Token) : Stream :=
  if number < s.taken then s.push t
  else
    let n := number - s.taken
    { s with queue := s.queue.take n ++ t :: s.queue.drop n }

/-! ## Keys -/

/-- Gives up on a key where one may have started. -/
def dropSpot? (s : Stream) : Option Stream :=
  if !s.spot.isOpen then some s
  else if s.spot.isRequired then none
  else some { s with spot := { s.spot with isOpen := false } }

/-- Notes that a key may start here, if one may. In a mapping of lines, whatever starts at the column of
its keys has to be one. -/
def markSpot? (s : Stream) : Option Stream :=
  if !s.allowsKey then some s
  else do
    let c := s.cursor
    let number := s.nextNumber
    let isRequired := s.level == 0 && s.column == some c.column
    let s ← s.dropSpot?
    return { s with spot := ⟨true, true, isRequired, number, c.left, c.line, c.column⟩ }

/-- Closes a spot that no key can start at any more, which is an error if one has to. Says whether a
key can. -/
def settleSpot? (s : Stream) : Option (Bool × Stream) :=
  if s.spot.reaches s.cursor then some (true, s)
  else if s.spot.isOpen && s.spot.isRequired then none
  else some (false, { s with spot := { s.spot with isOpen := false } })

/-! ## Indentation -/

/-- Opens a list or a mapping of lines at a column, in front of the token with a number if one is given,
unless it is open already. Between brackets indentation does not count. -/
def openBlock? (s : Stream) (column : Nat) (number : Option Nat) (t : Token) : Option Stream :=
  if 0 < s.level || s.column.any (column ≤ ·) then some s
  else if deepestLevel ≤ s.outer.length then none
  else
    let s := { s with column := some column, outer := s.column :: s.outer }
    some (match number with
      | some n => s.pushBefore n t
      | none => s.push t)

/-- Closes the lists and mappings that are indented deeper than a column. -/
def closeBlocks (column : Option Nat) : List (Option Nat) → Stream → Stream
  | [], s => s
  | next :: rest, s =>
    if s.column.any fun own => column.all (· < own) then
      closeBlocks column rest { s.push .blockEnd with column := next, outer := rest }
    else s

/-- Closes the lists and mappings that end where a line is indented to a column, or at the end of a
document. -/
def closeTo (s : Stream) (column : Option Nat) : Stream :=
  if 0 < s.level then s else closeBlocks column s.outer s

/-! ## Reading tokens -/

/-- Moves over blanks, comments and line breaks. In front of a key, tabs are no blanks. The first argument
bounds the number of lines. -/
def skipBlank : Nat → Stream → Stream
  | 0, s => s
  | fuel + 1, s =>
    let tabs := 0 < s.level || !s.allowsKey
    let c := (s.cursor.skipWhile fun x => x == ' ' || (tabs && x == '\t')).skipComment
    if c.next?.any isBreak then
      skipBlank fuel { s with cursor := c.skipLine, allowsKey := s.allowsKey || s.level == 0 }
    else { s with cursor := c }

/-- Reads a token of some characters. -/
def pushSign (s : Stream) (length : Nat) (t : Token) : Stream :=
  { s with cursor := s.cursor.skip length }.push t

/-- The end of the text. -/
def finish? (s : Stream) : Option Stream := do
  let c := s.cursor
  let s := { s with cursor := if c.column == 0 then c else { c with line := c.line + 1, column := 0 } }
  let s ← (s.closeTo none).dropSpot?
  return { s with allowsKey := false }.push .streamEnd

/-- Something that stands outside all documents. -/
def outside? (s : Stream) (read : Stream → Option Stream) : Option Stream := do
  let s ← (s.closeTo none).dropSpot?
  read { s with allowsKey := false }

/-- An opening bracket. -/
def openBrackets? (s : Stream) (t : Token) : Option Stream := do
  let number := s.nextNumber
  let s ← s.markSpot?
  if deepestLevel ≤ s.level then none
  else return { s with
    level := s.level + 1
    spot := { number }
    outerSpots := s.spot :: s.outerSpots
    allowsKey := true }.pushSign 1 t

/-- A closing bracket. The opening one is not held back any longer if no key could have started between
them. -/
def closeBrackets? (s : Stream) (t : Token) : Option Stream := do
  let s ← s.dropSpot?
  let s := match s.outerSpots with
    | [] => s
    | spot :: outerSpots => { s with
        level := s.level - 1
        spot := { spot with isHeld := spot.isHeld && spot.number != s.spot.number }
        outerSpots }
  return { s with allowsKey := false }.pushSign 1 t

/-- A dash in front of an item; between brackets it is left to the reader of items to refuse it. -/
def item? (s : Stream) : Option Stream := do
  let s ←
    if 0 < s.level then some s
    else if !s.allowsKey then none
    else s.openBlock? s.cursor.column none .listStart
  let s ← s.dropSpot?
  return { s with allowsKey := true }.pushSign 1 .item

/-- A question mark in front of a key. -/
def key? (s : Stream) : Option Stream := do
  let s ←
    if 0 < s.level then some s
    else if !s.allowsKey then none
    else s.openBlock? s.cursor.column none .mapStart
  let s ← s.dropSpot?
  return { s with allowsKey := s.level == 0 }.pushSign 1 .key

/-- The tokens in front of a key that started at the current spot. -/
def confirmKey? (s : Stream) : Option Stream := do
  let spot := s.spot
  let s ← (s.pushBefore spot.number .key).openBlock? spot.column (some spot.number) .mapStart
  return { s with spot := { spot with isOpen := false }, allowsKey := false }

/-- Makes way for a colon without a key in front of it on its line. -/
def bareValue? (s : Stream) : Option Stream := do
  let s ←
    if 0 < s.level then some s
    else if !s.allowsKey then none
    else s.openBlock? s.cursor.column none .mapStart
  return { s with allowsKey := s.level == 0 }

/-- A colon. If a key may have started on the line, it has, and a token in front of it says so. -/
def value? (s : Stream) : Option Stream := do
  let (isKey, s) ← s.settleSpot?
  let s ← if isKey then s.confirmKey? else s.bareValue?
  return s.pushSign 1 .value

/-- Something that a key may start with, and that none starts right after. -/
def atom? (s : Stream) (read : Cursor → Option (Token × Cursor)) : Option Stream := do
  let s ← s.markSpot?
  let (t, cursor) ← read s.cursor
  return { s with cursor, allowsKey := false }.push t

/-- A text in quotes. -/
def quotedAtom? (s : Stream) (quote : Char) : Option Stream :=
  s.atom? fun c => (quoted? quote c).map fun r => (.scalar false r.text, r.cursor)

/-- A text without quotes. A key may start after it if its line has ended. -/
def plainAtom? (s : Stream) : Option Stream := do
  let margin := match s.column with
    | some n => n + 1
    | none => 0
  let s ← s.markSpot?
  let r ← plain? (0 < s.level) margin s.cursor
  return { s with cursor := r.cursor, allowsKey := r.isBroken }.push (.scalar true r.text)

/-- A block of lines. -/
def blockAtom? (s : Stream) (literal : Bool) : Option Stream := do
  let s ← s.dropSpot?
  let r ← block? literal s.column s.cursor
  return { s with cursor := r.cursor, allowsKey := true }.push (.scalar false r.text)

/-- Characters that no plain text starts with; some of them do where no blank follows. -/
def indicators : List Char := "-?:,[]\x7b\x7d#&*!|>'\"%@`".toList

/-- Whether a plain text starts here. -/
def startsPlain (s : Stream) (x : Char) : Bool :=
  let next := s.cursor.after? 1
  !(isGap x || isBreak x || indicators.contains x)
    || (x == '-' && !next.any isGap)
    || (s.level == 0 && (x == '?' || x == ':') && !endsWord next)

/-- Reads the token that starts with a character. -/
def readAt? (s : Stream) (x : Char) : Option Stream :=
  let inFlow := 0 < s.level
  let isAlone := endsWord (s.cursor.after? 1)
  if s.cursor.column == 0 && x == '%' then
    s.outside? fun s => (directive? s.cursor).map fun (t, cursor) => { s with cursor }.push t
  else if s.cursor.atMarkOf '-' then s.outside? fun s => some (s.pushSign 3 .documentStart)
  else if s.cursor.atMarkOf '.' then s.outside? fun s => some (s.pushSign 3 .documentEnd)
  else if x == '[' then s.openBrackets? .openBracket
  else if x == '\x7b' then s.openBrackets? .openBrace
  else if x == ']' then s.closeBrackets? .closeBracket
  else if x == '\x7d' then s.closeBrackets? .closeBrace
  else if x == ',' then do
    let s ← s.dropSpot?
    return { s with allowsKey := true }.pushSign 1 .comma
  else if x == '-' && isAlone then s.item?
  else if x == '?' && (inFlow || isAlone) then s.key?
  else if x == ':' && (inFlow || isAlone) then s.value?
  else if x == '*' then s.atom? fun c => (name? c).map fun (name, c) => (.reference name, c)
  else if x == '&' then s.atom? fun c => (name? c).map fun (name, c) => (.anchor name, c)
  else if x == '!' then s.atom? tag?
  else if x == '|' && !inFlow then s.blockAtom? true
  else if x == '>' && !inFlow then s.blockAtom? false
  else if x == '\'' || x == '"' then s.quotedAtom? x
  else if s.startsPlain x then s.plainAtom?
  else none

/-- Reads one token more. -/
def advance? (s : Stream) : Option Stream :=
  let s := skipBlank (s.cursor.left + 1) s
  let s := s.closeTo (some s.cursor.column)
  match s.cursor.next? with
  | none => s.finish?
  | some x => s.readAt? x

/-! ## Handing out tokens -/

/-- Whether the next token is still held back: a key may have started with it, and can go on. It is an
error if a key has to start there and cannot. -/
def isHeld? (s : Stream) : Option Bool :=
  match (s.spot :: s.outerSpots).find? fun spot =>
      spot.number == s.taken && spot.isOpen && spot.isHeld with
  | some spot =>
    if spot.reaches s.cursor then some true else if spot.isRequired then none else some false
  | none => some false

/-- Reads on until the next token is settled. The first argument bounds the number of tokens. -/
def settle? : Nat → Stream → Option Stream
  | 0, _ => none
  | fuel + 1, s => do
    let isHeld ← if s.queue.isEmpty then some true else s.isHeld?
    if isHeld then settle? fuel (← s.advance?) else return s

/-- The next token. -/
def peek? (s : Stream) : Option (Token × Stream) := do
  let s ← settle? (s.cursor.left + 3) s
  return (← s.queue.head?, s)

/-- Leaves the next token behind. -/
def take (s : Stream) : Stream := { s with queue := s.queue.drop 1, taken := s.taken + 1 }

/-- The tokens of a text. A mark at the very start that tells the order of bytes does not count, nor does
a second one after it. -/
def ofText (text : List Char) : Stream :=
  let mark := '\uFEFF'
  match text with
  | a :: b :: rest =>
    if a == mark && b == mark then { cursor := { rest, column := 1 } }
    else if a == mark then { cursor := { rest := b :: rest } }
    else { cursor := { rest := text } }
  | _ => { cursor := { rest := if text == [mark] then [] else text } }

end Stream
end Yaml
end Shapewright
