import Shapewright.Json.Parser
import Shapewright.Wire.Raw
import Shapewright.Wire.Window

/-!
# Reading documents from strangers

Bodies of requests are read byte by byte, through a window, by a looser grammar than documents.  It takes
everything that is a document, and besides: strings may hold control characters, the four bytes after
`\u` need not be digits, a number is any row of its characters that denotes one within range, a key may
be `null`, one comma or colon may come first, and a letter of a word at which more has to be fetched is
not compared.  What follows the value is not looked at.

The texts of values are the bytes as they come, escapes aside; in keys what is no character is replaced.

* `Scan` — a reader: it takes bytes from a window and may refuse them.
* `Raw.read` — the value at the start of a body.
* `Raw.readObject` — the fields of the object at the start of a body.
-/

set_option autoImplicit false

namespace Shapewright
namespace Wire

/-- Why a body is refused. -/
inductive Flaw where
  | malformed
  /-- An escape reaches beyond the stretch in sight, which cannot grow any more. -/
  | overrun
  deriving DecidableEq, Repr

/-- A reader of bytes in a window. Arguments called `fuel` bound the number of its steps. -/
abbrev Scan (α : Type) := StateT Window (Except Flaw) α

namespace Scan

/-- The current byte, as the character of its number. -/
def look : Scan Char := do
  return Char.ofNat (← get).current.toNat

/-- The first byte that is no white space. -/
def lookBehindSpace (fuel : Nat) : Scan Char := do
  modify (Window.skipSpace fuel)
  look

/-- Goes on to the next byte. -/
def skip : Scan Unit := modify Window.next

/-- Passes the letters of a word. A letter at which more has to be fetched is not compared. -/
def word : List Char → Scan Unit
  | [] => pure ()
  | c :: rest => do
    let w ← get
    if w.current.toNat == c.toNat then set w.next
    else if w.isWaiting then set w.more.next
    else throw .malformed
    word rest

/-! ## Numbers -/

/-- The characters that numbers are made of. -/
def isNumeralChar (c : Char) : Bool :=
  Json.isDigit c || c == '.' || c == 'e' || c == 'E' || c == '+' || c == '-'

/-- A row of characters of numbers. -/
def numeral : Nat → Scan (List Char)
  | 0 => throw .malformed
  | fuel + 1 => do
    modify (Window.settle fuel)
    let c ← look
    if !isNumeralChar c then return []
    skip
    return c :: (← numeral fuel)

/-- A number by its spelling, which denotes one within range. -/
def number (fuel : Nat) : Scan RawNumber := do
  let text := String.ofList (← numeral fuel)
  match Number.double.read text with
  | .ok _ =>
    modify Window.forget
    return .text text
  | .error _ => throw .malformed

/-! ## Strings -/

/-- The number that four bytes spell in base sixteen; what is no digit counts as 0. -/
def codeUnit (bs : Bytes) : Nat :=
  (bs.take 4).foldl (fun n b => n * 16 + (Bytes.hexValue? (Char.ofNat b.toNat)).getD 0) 0

/-- How many bytes the letter `u` and its digits are. -/
def escapeLength : Nat := 5

/-- How many bytes they are together with a second escape, its backslash included. -/
def pairLength : Nat := 11

/-- The code unit of the escape whose letter `u` is the current byte, more having been fetched if it is
not all there. -/
def firstUnit : Scan Nat := do
  let w ← get
  if w.loaded ≤ escapeLength then
    if w.hasEnded then throw .malformed
    set w.more
  let bs := (← get).ahead
  if bs.length < escapeLength then throw .overrun
  return codeUnit (bs.drop 1)

/-- The code unit of the escape behind this one, if it comes right behind it and something follows it. -/
def secondUnit? : Scan (Option Nat) := do
  let w ← get
  if w.loaded ≤ pairLength && !w.hasEnded then set w.more
  let w ← get
  match w.ahead.drop escapeLength with
  | slash :: letter :: digits =>
    if pairLength < w.loaded && slash.toNat == '\\'.toNat && letter.toNat == 'u'.toNat then
      return some (codeUnit digits)
    else return none
  | _ => return none

/-- The characters that an escape stands for, and its length, the letter `u` being the current byte: two
halves of a pair are one character, and half a pair alone is replaced. -/
def numbered : Scan (List Char × Nat) := do
  let first ← firstUnit
  let alone := Json.characters [.code first]
  if Json.isHighHalf first || Json.isLowHalf first then
    match ← secondUnit? with
    | some second =>
      if Json.isHighHalf first && Json.isLowHalf second then
        return (Json.characters [.code first, .code second], pairLength)
      else return (alone, escapeLength)
    | none => return (alone, escapeLength)
  else return (alone, escapeLength)

/-- The bytes that an escape stands for, from its backslash on. They take its place in the window. -/
def escape (fuel : Nat) : Scan Bytes := do
  skip
  modify (Window.settle fuel)
  let letter ← look
  let (cs, length) ←
    if letter == 'u' then numbered
    else match Json.escapes.lookup letter with
      | some c => pure ([c], 1)
      | none => throw .malformed
  let bs := Bytes.encode (String.ofList cs)
  modify fun w => w.replace length (bs.length - 1)
  return bs

/-- The bytes of `U+FFFD`. -/
def replacement : Bytes := Bytes.encode (String.singleton Json.replacement)

/-- A character beyond ASCII. A byte that starts none is replaced, and so is one that starts a
replacement; the bytes that come in are counted as text on top of those that are there. -/
def wideChar : Scan Bytes := do
  let w ← get
  let mend : Scan Bytes := do
    set { w.replace 1 replacement.length with loaded := w.loaded }
    return replacement
  match Bytes.pieces (w.ahead.take 4) with
  | .char c :: _ =>
    if c == Json.replacement then mend
    else
      let bs := Bytes.encode (String.singleton c)
      set (w.replace bs.length bs.length)
      return bs
  | _ => mend

/-- Whether the current byte starts a character whose end is not in the stretch in sight, the NUL at its
end aside. -/
def isCut (w : Window) : Bool := Bytes.isCut (w.ahead.take 5).dropLast

/-- The text of a key up to its closing quote; `before` is what has been read, the last byte first. -/
def keyText : Nat → Bytes → Scan Bytes
  | 0, _ => throw .malformed
  | fuel + 1, before => do
    modify (Window.settle fuel)
    let w ← get
    match Char.ofNat w.current.toNat with
    | '\x00' => throw .malformed
    | '"' =>
      skip
      return before.reverse
    | '\\' => keyText fuel ((← escape fuel).reverse ++ before)
    | _ =>
      if w.current.toNat < 0x80 then
        skip
        keyText fuel (w.current :: before)
      else if !isCut w then keyText fuel ((← wideChar).reverse ++ before)
      else if w.hasEnded then throw .malformed
      else
        set w.more
        keyText fuel before

/-- The text of a value up to its closing quote; `before` is what has been read, the last byte first. -/
def text : Nat → Bytes → Scan Bytes
  | 0, _ => throw .malformed
  | fuel + 1, before => do
    if (← get).ahead.isEmpty then throw .overrun
    modify (Window.settle fuel)
    let w ← get
    match Char.ofNat w.current.toNat with
    | '\x00' => throw .malformed
    | '"' =>
      skip
      return before.reverse
    | '\\' => text fuel ((← escape fuel).reverse ++ before)
    | _ =>
      skip
      text fuel (w.current :: before)

/-- A key; `null` is the empty one. -/
def key (fuel : Nat) : Scan String := do
  match ← lookBehindSpace fuel with
  | '"' =>
    skip
    let bs ← keyText fuel []
    modify Window.forget
    return Bytes.readable bs
  | 'n' =>
    word "null".toList
    return ""
  | _ => throw .malformed

/-! ## Values -/

mutual

/-- A value, `depth` levels deep. -/
def value (depth : Nat) : Nat → Scan Raw
  | 0 => throw .malformed
  | fuel + 1 => do
    match ← lookBehindSpace fuel with
    | '\x7b' => return .object (← object depth fuel)
    | '[' => return .list (← list depth fuel)
    | '"' =>
      skip
      return .string (← text fuel [])
    | 't' =>
      word "true".toList
      return .bool true
    | 'f' =>
      word "false".toList
      return .bool false
    | 'n' =>
      word "null".toList
      return .null
    | c => if Json.isDigit c || c == '-' then return .number (← number fuel) else throw .malformed

/-- The items of a list, from its opening bracket on. -/
def list (depth : Nat) : Nat → Scan (List Raw)
  | 0 => throw .malformed
  | fuel + 1 => do
    if Json.maxNesting ≤ depth then throw .malformed
    skip
    match ← lookBehindSpace fuel with
    | ']' =>
      skip
      return []
    | _ => items (depth + 1) fuel

/-- The items of a list that has some, up to its closing bracket. -/
def items (depth : Nat) : Nat → Scan (List Raw)
  | 0 => throw .malformed
  | fuel + 1 => do
    let v ← value depth fuel
    match ← lookBehindSpace fuel with
    | ']' =>
      skip
      return [v]
    | ',' =>
      skip
      return v :: (← items depth fuel)
    | _ => throw .malformed

/-- The fields of an object, from its opening brace on. -/
def object (depth : Nat) : Nat → Scan (List (String × Raw))
  | 0 => throw .malformed
  | fuel + 1 => do
    if Json.maxNesting ≤ depth then throw .malformed
    skip
    match ← lookBehindSpace fuel with
    | '\x7d' =>
      skip
      return []
    | _ => return Json.sortFields (← fields (depth + 1) fuel)

/-- The fields of an object that has some, up to its closing brace. -/
def fields (depth : Nat) : Nat → Scan (List (String × Raw))
  | 0 => throw .malformed
  | fuel + 1 => do
    let k ← key fuel
    match ← lookBehindSpace fuel with
    | ':' => skip
    | _ => throw .malformed
    let v ← value depth fuel
    match ← lookBehindSpace fuel with
    | '\x7d' =>
      skip
      return [(k, v)]
    | ',' =>
      skip
      return (k, v) :: (← fields depth fuel)
    | _ => throw .malformed

end

/-- The fields of an object; `null` has none. -/
def document (fuel : Nat) : Scan (List (String × Raw)) := do
  match ← lookBehindSpace fuel with
  | '\x7b' => object 0 fuel
  | 'n' =>
    word "null".toList
    return []
  | _ => throw .malformed

/-- Reads the start of a body. Every step takes a byte or fetches a piece; pieces get longer, so there
are few of them. -/
def run {α : Type} (body : Bytes) (scan : Nat → Scan α) : Except Flaw α :=
  let fuel := 2 * body.length + 128
  let start : Scan α := do
    match ← lookBehindSpace fuel with
    | ',' | ':' => skip
    | _ => pure ()
    scan fuel
  (start (.ofText body)).map Prod.fst

end Scan

/-- The value at the start of a body. -/
def Raw.read (body : Bytes) : Except Flaw Raw := Scan.run body (Scan.value 0)

/-- The fields of the object at the start of a body; `null` has none. -/
def Raw.readObject (body : Bytes) : Except Flaw (List (String × Raw)) :=
  Scan.run body Scan.document

end Wire
end Shapewright
