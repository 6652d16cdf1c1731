import Shapewright.Text.Quoted
import Shapewright.Yaml.Cursor

/-!
# Written texts

A text is written plainly, in quotes, or as a block of indented lines.  Line breaks within the first
two are folded: a single one counts as a blank, and of several the first does not count.

* `Gap` — blanks and line breaks between two words, and what they count as.
* `plain?` — a text without quotes.
* `quoted?` — a text in single or double quotes.
* `block?` — a block of lines, kept as they are or folded.
-/

set_option autoImplicit false

namespace Shapewright
namespace Yaml

/-! ## Gaps -/

/-- Blanks and line breaks between two words. -/
structure Gap where
  /-- The blanks in front of the first break. -/
  blanks : List Char := []
  /-- Whether the line has ended. -/
  isBroken : Bool := false
  /-- The first break, unless it has been escaped. -/
  first : List Char := []
  /-- The other breaks. -/
  others : List Char := []
  deriving Repr

namespace Gap

/-- What a gap counts as: blanks are kept within a line, and breaks are folded. -/
def text (g : Gap) : List Char :=
  if !g.isBroken then g.blanks
  else if g.first.head? == some '\n' then if g.others.isEmpty then [' '] else g.others
  else g.first ++ g.others

/-- Adds the break that comes next. -/
def takeLine (g : Gap) (c : Cursor) : Gap × Cursor :=
  let (text, c) := c.takeLine
  if g.isBroken then ({ g with others := g.others ++ text }, c)
  else ({ g with isBroken := true, first := text }, c)

/-- Reads the rest of a gap. A tab may not stand left of the column `margin` in a line of its own. The
first argument bounds the number of characters. -/
def read? (margin : Nat) : Nat → Gap → Cursor → Option (Gap × Cursor)
  | 0, g, c => some (g, c)
  | fuel + 1, g, c =>
    match c.next? with
    | none => some (g, c)
    | some x =>
      if isGap x then
        if g.isBroken then
          if x == '\t' && c.column < margin then none else read? margin fuel g (c.skip 1)
        else read? margin fuel { g with blanks := g.blanks ++ [x] } (c.skip 1)
      else if isBreak x then
        let (g, c) := g.takeLine c
        read? margin fuel g c
      else some (g, c)

end Gap

/-- A text that has been read, and where reading goes on. -/
structure Reading where
  text : List Char
  cursor : Cursor
  /-- Whether the line has ended behind the text. -/
  isBroken : Bool := false
  deriving Repr

/-- A reading with more text in front. -/
def Reading.prepend (text : List Char) (r : Reading) : Reading := { r with text := text ++ r.text }

/-! ## Plain texts -/

/-- Characters that end a plain word between brackets. -/
def brackets : List Char := ",?[]\x7b\x7d".toList

/-- The plain word at the start of a text: it ends before a blank, before a colon with a blank behind
it, and between brackets before what parts items. -/
def plainWord (inFlow : Bool) : List Char → List Char
  | [] => []
  | c :: rest =>
    if isGap c || isBreak c || (c == ':' && endsWord rest.head?)
        || (inFlow && brackets.contains c) then []
    else c :: plainWord inFlow rest

/-- Reads a plain text word by word, `gap` being the one in front of the next word. The text ends
before a mark or a comment, and before a line that is not indented enough. The first argument after the
margin bounds the number of words. -/
def plainFrom? (inFlow : Bool) (margin : Nat) : Nat → Gap → Cursor → Option Reading
  | 0, gap, c => some ⟨[], c, gap.isBroken⟩
  | fuel + 1, gap, c =>
    let word := if c.atMark || c.isAt '#' then [] else plainWord inFlow c.rest
    let after := c.skip word.length
    if word.isEmpty then some ⟨[], c, gap.isBroken⟩
    else if (after.next?.any fun x => isGap x || isBreak x) then do
      let (next, c) ← Gap.read? margin after.left {} after
      let r ← if !inFlow && c.column < margin then some ⟨[], c, next.isBroken⟩
        else plainFrom? inFlow margin fuel next c
      return r.prepend (gap.text ++ word)
    else some ⟨gap.text ++ word, after, false⟩

/-- A text without quotes, whose lines are indented to a column at least. -/
def plain? (inFlow : Bool) (margin : Nat) (c : Cursor) : Option Reading :=
  plainFrom? inFlow margin c.left {} c

/-! ## Quoted texts -/

/-- What a letter behind a backslash stands for. -/
def escapes : List (Char × Char) :=
  [('0', '\x00'), ('a', '\x07'), ('b', '\x08'), ('t', '\t'), ('\t', '\t'), ('n', '\n'),
   ('v', '\x0b'), ('f', '\x0c'), ('r', '\r'), ('e', '\x1b'), (' ', ' '), ('"', '"'),
   ('\'', '\''), ('\\', '\\'), ('N', '\u0085'), ('_', '\u00a0'), ('L', '\u2028'),
   ('P', '\u2029')]

/-- How many digits follow a letter behind a backslash. -/
def escapeLengths : List (Char × Nat) := [('x', 2), ('u', 4), ('U', 8)]

/-- The character that an escape stands for, by what follows its backslash, and how many characters
that takes. Surrogates are refused. -/
def escape? : List Char → Option (Char × Nat)
  | [] => none
  | letter :: rest => match escapes.lookup letter with
    | some c => some (c, 1)
    | none => do
      let length ← escapeLengths.lookup letter
      let digits := rest.take length
      if digits.length < length then none
      else
        let n ← Text.hexNumber? digits
        if Nat.isValidChar n then some (Char.ofNat n, length + 1) else none

/-- Characters up to a blank, a break or the closing quote, and whether an escaped break ended
them. The first argument after the quote bounds the number of characters. -/
def quotedWord? (quote : Char) : Nat → Cursor → Option Reading
  | 0, c => some ⟨[], c, false⟩
  | fuel + 1, c =>
    match c.rest with
    | [] => some ⟨[], c, false⟩
    | x :: rest =>
      if isGap x || isBreak x then some ⟨[], c, false⟩
      else if x == quote then
        if quote == '\'' && rest.head? == some quote then
          (quotedWord? quote fuel (c.skip 2)).map (·.prepend [quote])
        else some ⟨[], c, false⟩
      else if quote == '"' && x == '\\' then
        if rest.head?.any isBreak then some ⟨[], (c.skip 1).skipLine, true⟩
        else do
          let (y, length) ← escape? rest
          (quotedWord? quote fuel (c.skip (length + 1))).map (·.prepend [y])
      else (quotedWord? quote fuel (c.skip 1)).map (·.prepend [x])

/-- Reads a quoted text word by word. The first argument after the quote bounds their number. -/
def quotedFrom? (quote : Char) : Nat → Cursor → Option Reading
  | 0, _ => none
  | fuel + 1, c =>
    if c.atMark || c.rest.isEmpty then none
    else do
      let word ← quotedWord? quote c.left c
      if word.cursor.isAt quote then some ⟨word.text, word.cursor.skip 1, false⟩
      else
        let start : Gap := { isBroken := word.isBroken }
        let (gap, c) ← Gap.read? 0 word.cursor.left start word.cursor
        (quotedFrom? quote fuel c).map (·.prepend (word.text ++ gap.text))

/-- A text in quotes, the opening one of which comes next. -/
def quoted? (quote : Char) (c : Cursor) : Option Reading :=
  quotedFrom? quote (c.left + 1) (c.skip 1)

/-! ## Blocks of lines -/

/-- What is done with the line breaks at the end of a block. -/
inductive Ending where
  | strip
  /-- One is kept. -/
  | clip
  | keep
  deriving DecidableEq, Repr

/-- How the head of a block says that it ends. -/
def ending? (c : Cursor) : Option Ending :=
  if c.isAt '+' then some .keep else if c.isAt '-' then some .strip else none

/-- How deep the head of a block says that its lines are indented; not at all is an error. -/
def depth? (c : Cursor) : Option (Option Nat) :=
  match c.next? with
  | some x =>
    if x == '0' then none
    else if '1' ≤ x ∧ x ≤ '9' then some (some (x.toNat - '0'.toNat)) else some none
  | none => some none

/-- The head of a block, which says in either order how the block ends and how deep it is indented. -/
def blockHead? (c : Cursor) : Option (Ending × Option Nat × Cursor) :=
  match ending? c with
  | some e => do
    let c := c.skip 1
    let depth ← depth? c
    return (e, depth, if depth.isSome then c.skip 1 else c)
  | none => do
    let depth ← depth? c
    let c := if depth.isSome then c.skip 1 else c
    match depth.isSome, ending? c with
    | true, some e => return (e, depth, c.skip 1)
    | _, _ => return (.clip, depth, c)

/-- Moves over the indentation of a line, up to the given column if there is one. -/
def skipIndent (column : Option Nat) (c : Cursor) : Cursor :=
  let blanks := (c.takeWhile (· == ' ')).length
  match column with
  | some n => c.skip (min blanks (n - c.column))
  | none => c.skip blanks

/-- The breaks of empty lines, the place after the indentation of the next line, and the deepest
column on the way. No tab may be part of the indentation. -/
def blockBreaks? (column : Option Nat) :
    Nat → List Char → Nat → Cursor → Option (List Char × Nat × Cursor)
  | 0, _, _, _ => none
  | fuel + 1, breaks, deepest, c =>
    let c := skipIndent column c
    let deepest := max deepest c.column
    if c.isAt '\t' && column.all (c.column < ·) then none
    else if c.next?.any isBreak then
      let (text, c) := c.takeLine
      blockBreaks? column fuel (breaks ++ text) deepest c
    else some (breaks, deepest, c)

/-- Reads the lines of a block that is indented to a column. `line` is the break behind the lines so
far, `breaks` are those of the empty lines after it, and `inset` says whether the last line started
with a blank. Gives the text, the break behind its last line and the breaks after that. -/
def blockLines? (literal : Bool) (column : Nat) : Nat → (text line breaks : List Char) →
    (inset : Bool) → Cursor → Option (List Char × List Char × List Char × Cursor)
  | 0, _, _, _, _, _ => none
  | fuel + 1, text, line, breaks, inset, c =>
    if c.column != column || c.rest.isEmpty then some (text, line, breaks, c)
    else do
      let blank := c.next?.any isGap
      let fold := !literal && !inset && !blank && line.head? == some '\n'
      let joint := if fold then if breaks.isEmpty then [' '] else [] else line
      let own := c.takeWhile fun x => !isBreak x
      let (line, c) := (c.skip own.length).takeLine
      let (after, _, c) ← blockBreaks? (some column) (c.left + 1) [] 0 c
      blockLines? literal column fuel (text ++ joint ++ breaks ++ own) line after blank c

/-- A block of lines, whose indicator comes next, below something that is indented to a column if it
is not the whole document. -/
def block? (literal : Bool) (parent : Option Nat) (c : Cursor) : Option Reading := do
  let (ending, depth, c) ← blockHead? (c.skip 1)
  let c ← c.finishLine?
  let column := depth.map (parent.getD 0 + ·)
  let fuel := c.left + 1
  let (breaks, deepest, c) ← blockBreaks? column fuel [] 0 c
  let column := column.getD (max deepest (max ((parent.map (· + 1)).getD 0) 1))
  let (text, line, breaks, c) ← blockLines? literal column fuel [] [] breaks false c
  let tail := match ending with
    | .strip => []
    | .clip => line
    | .keep => line ++ breaks
  return ⟨text ++ tail, c, false⟩

end Yaml
end Shapewright
