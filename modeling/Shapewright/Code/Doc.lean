import Shapewright.Text.Blank
import Shapewright.Text.Letter

/-!
# The structure of documentation

The text of a comment before a declaration is paragraphs, headings, lists, code and definitions of
links, told apart by blank lines and indentation.  In the usual layout this structure shows: blocks
have a blank line between them, code is behind a tab, and definitions come last.

* `Doc` — the blocks of a text and the links that it defines.
* `Doc.ofLines` — reads the structure; indentation that all lines share does not count.
* `Doc.lines` — the text in the usual layout.
-/

set_option autoImplicit false

namespace Shapewright
namespace Code

/-- A line of text. -/
abbrev Line := List Char

namespace Line

/-- The line without white space at its ends. -/
def trim (l : Line) : Line :=
  Text.dropWhileEnd Text.isBlank (l.dropWhile Text.isBlank)

/-- The blanks and tabs that a line begins with. -/
def margin (l : Line) : Line :=
  l.takeWhile fun c => c == ' ' || c == '\t'

/-- Whether a line begins with a blank or a tab. -/
def isIndented (l : Line) : Bool :=
  !l.margin.isEmpty

/-- The longest common start of two lines. -/
def common : Line → Line → Line
  | a :: as, b :: bs => if a == b then a :: common as bs else []
  | _, _ => []

/-- What follows `start` in a line that begins with it; another line as it is. -/
def dropStart (start l : Line) : Line :=
  if start.isPrefixOf l then l.drop start.length else l

/-- The text before and after the first place where `part` occurs. -/
def cut (part : Line) : Line → Option (Line × Line)
  | [] => none
  | c :: rest =>
    if part.isPrefixOf (c :: rest) then some ([], (c :: rest).drop part.length)
    else (cut part rest).map fun (before, after) => (c :: before, after)

end Line

/-- Lines without empty ones at the ends. -/
def trimLines (ls : List Line) : List Line :=
  Text.dropWhileEnd List.isEmpty (ls.dropWhile List.isEmpty)

/-- Lines without the indentation that they share; a line of white space is empty. -/
def outdented (ls : List Line) : List Line :=
  match trimLines ls with
  | [] => []
  | first :: rest =>
    let shared := rest.foldl
      (fun start l => if l.isEmpty then start else start.common l.margin) first.margin
    trimLines ((first :: rest).map fun l =>
      let kept := Line.dropStart shared l
      if kept.trim.isEmpty then [] else kept)

/-! ## Blocks -/

/-- A paragraph of a list item, or an item that has several. -/
structure ListItem where
  /-- The digits before the item; none for a bullet. -/
  number : Line
  paragraphs : List (List Line)
  deriving Repr

/-- A block of documentation. -/
inductive Block where
  | paragraph (lines : List Line)
  | heading (text : Line)
  | code (lines : List Line)
  /-- A list; `apart` says that a blank line comes before it, `loose` that one comes between its
  items. -/
  | list (items : List ListItem) (apart loose : Bool)
  deriving Repr

/-- A name that stands for an address. -/
structure LinkDef where
  text : Line
  address : Line
  deriving DecidableEq, Repr

/-- Documentation. -/
structure Doc where
  blocks : List Block
  links : List LinkDef

/-- The beginnings of addresses. -/
def schemes : List Line :=
  ["file", "ftp", "gopher", "http", "https", "mailto", "nntp"].map String.toList

/-- Reads the definition of a link, `[text]: address`. -/
def linkDef? (l : Line) : Option LinkDef :=
  match l with
  | '[' :: _ => match Line.cut "]:".toList l with
    | some (before, gap :: after) =>
      let address := Line.trim after
      if (gap == ' ' || gap == '\t') && !after.isEmpty
          && ((Line.cut "://".toList address).any fun (scheme, _) => schemes.contains scheme) then
        some ⟨before.drop 1, address⟩
      else none
    | _ => none
  | _ => none

/-- A paragraph, or the definitions that its lines are. -/
def paragraphOf (ls : List Line) : Option (List Line) × List LinkDef :=
  match ls.mapM linkDef? with
  | some defs => (none, defs)
  | none => (some ls, [])

/-- The number before a list item, empty for a bullet, and the text behind it. -/
def listMark? (l : Line) : Option (Line × Line) :=
  let found := match l.trim with
    | [] => none
    | c :: rest =>
      if c == '•' || c == '*' || c == '+' || c == '-' then some ([], rest)
      else
        let digits := (c :: rest).takeWhile Char.isDigit
        match (c :: rest).drop digits.length with
        | mark :: after =>
          if !digits.isEmpty && (mark == '.' || mark == ')') then some (digits, after) else none
        | [] => none
  found.filter fun (_, after) => Line.isIndented after && !after.trim.isEmpty

/-- Whether a line begins a list item. -/
def isListLine (l : Line) : Bool := (listMark? l).isSome

/-- An item being read: the lines of its last paragraph are still open and stand backwards. -/
structure OpenItem where
  number : Line
  paragraphs : List (List Line) := []
  lines : List Line

/-- Ends the open paragraph of an item. -/
def OpenItem.endParagraph (i : OpenItem) : OpenItem × List LinkDef :=
  let (paragraph, defs) := paragraphOf i.lines.reverse
  ({ i with paragraphs := i.paragraphs ++ paragraph.toList, lines := [] }, defs)

/-- Ends an item, which stands before other items. -/
def OpenItem.close (i : Option OpenItem) (after : List ListItem × List LinkDef) :
    List ListItem × List LinkDef :=
  match i.map OpenItem.endParagraph with
  | some (item, defs) => (⟨item.number, item.paragraphs⟩ :: after.1, defs ++ after.2)
  | none => after

/-- Reads the items of a list, whose numbers are there or not as `numbered` says. -/
def listItems (numbered : Bool) (item : Option OpenItem) : List Line → List ListItem × List LinkDef
  | [] => OpenItem.close item ([], [])
  | l :: rest =>
    match (listMark? l).filter fun (number, _) => !number.isEmpty == numbered with
    | some (number, after) =>
      OpenItem.close item
        (listItems numbered (some { number, lines := [Line.trim after] }) rest)
    | none =>
      if l.trim.isEmpty then
        let ended := item.map OpenItem.endParagraph
        let (items, defs) := listItems numbered (ended.map Prod.fst) rest
        (items, (ended.map Prod.snd).getD [] ++ defs)
      else listItems numbered (item.map fun i => { i with lines := l.trim :: i.lines }) rest

/-- The block of indented lines: a list if it begins like one, else code. -/
def indentedBlock (ls : List Line) (afterGap : Bool) : Block × List LinkDef :=
  match ls.head?.bind listMark? with
  | some (number, _) =>
    let (items, defs) := listItems (!number.isEmpty) none ls
    let loose := ls.any (·.trim.isEmpty) || items.any fun i => i.paragraphs.length != 1
    (.list items (afterGap || loose) loose, defs)
  | none => (.code (outdented ls), [])

/-! ## Headings -/

/-- Whether a line is marked as a heading. -/
def isMarkedHeading : Line → Bool
  | '#' :: c :: rest => (c == ' ' || c == '\t') && !(Line.trim rest).isEmpty
  | _ => false

/-- Whether every `mark` in a text is followed as `ok` says. -/
def marksFollowed (mark : Char) (ok : Line → Bool) : Line → Bool
  | [] => true
  | c :: rest => (c != mark || ok rest) && marksFollowed mark ok rest

/-- Whether the words of a line that stands alone read like a heading: from a capital to a letter or
digit, with hardly any punctuation. -/
def readsLikeHeading (l : Line) : Bool :=
  let t := l.trim
  t.head?.any Text.isCapital
    && t.getLast?.any (fun c => Text.isLetter c || Text.isDigit c)
    && !t.any (";:!?+*/=[]\x7b\x7d_^°&§~%#@<\">\\".toList.contains ·)
    && marksFollowed '\'' (fun after => after == ['s'] || "s ".toList.isPrefixOf after) t
    && marksFollowed '.' (fun after => !after.isEmpty && after.head? != some ' ') t

/-! ## Reading the structure -/

/-- The lines that belong to an indented block, and the others. The first `forced` lines belong to it
in any case; with `listing` so do list items that are not indented, up to the next blank line. -/
def takeIndented (forced : Nat) (listing : Bool) : List Line → List Line × List Line
  | [] => ([], [])
  | l :: rest =>
    if l.isEmpty || forced > 0 || l.isIndented || (listing && isListLine l) then
      let (taken, others) := takeIndented (forced - 1) (listing && !l.isEmpty) rest
      (l :: taken, others)
    else ([], l :: rest)

/-- The lines at the end of a paragraph that belong to the indented line `next` right after it: list
items, or a line that opens a block. -/
def leftForIndented (ls : List Line) (next : Option Line) : Nat :=
  match next, ls.getLast? with
  | some n, some last =>
    if n.isEmpty || isListLine n then 0
    else if isListLine last then (ls.reverse.takeWhile isListLine).length
    else if last.getLast? == some '\x7b' || last.getLast? == some '\\' then 1
    else 0
  | _, _ => 0

/-- The block of unindented lines. -/
def plainBlock (ls : List Line) (afterGap : Bool) (rest : List Line) : Option Block × List LinkDef :=
  let alone := afterGap && match rest with
    | [] :: next :: _ => !next.isIndented
    | _ => false
  match ls with
  | [l] =>
    if isMarkedHeading l then (some (.heading (Line.trim (l.drop 1))), [])
    else if alone && readsLikeHeading l then (some (.heading l.trim), [])
    else ((paragraphOf ls).1.map .paragraph, (paragraphOf ls).2)
  | _ => ((paragraphOf ls).1.map .paragraph, (paragraphOf ls).2)

/-- Reads blocks from lines of which the first `forced` count as indented. `afterGap` says that a
blank line came before them; the first argument bounds the number of steps. -/
def blocksOf : Nat → Nat → Bool → List Line → List Block × List LinkDef
  | 0, _, _, _ => ([], [])
  | _, _, _, [] => ([], [])
  | fuel + 1, forced, afterGap, l :: rest =>
    if l.isEmpty then blocksOf fuel forced true rest
    else if forced > 0 || l.isIndented then
      let (taken, others) := takeIndented (forced - 1) (isListLine l && forced > 0) rest
      let block := Text.dropWhileEnd List.isEmpty (l :: taken)
      let gap := (l :: taken).drop block.length
      let (block, others) := match gap, others with
        | [], ('\x7d' :: closing) :: after => (block ++ ['\x7d' :: closing], after)
        | _, _ => (block, gap ++ others)
      let (b, defs) := indentedBlock block afterGap
      let (bs, more) := blocksOf fuel 0 false others
      (b :: bs, defs ++ more)
    else
      let isPlain := fun (m : Line) => !m.isEmpty && !m.isIndented
      let taken := l :: rest.takeWhile isPlain
      let others := rest.dropWhile isPlain
      let left := leftForIndented taken others.head?
      let own := taken.take (taken.length - left)
      let next := taken.drop own.length ++ others
      if own.isEmpty then blocksOf fuel left afterGap next
      else
        let (b, defs) := plainBlock own afterGap next
        let (bs, more) := blocksOf fuel left false next
        (b.toList ++ bs, defs ++ more)

/-- The structure of a text. -/
def Doc.ofLines (ls : List Line) : Doc :=
  let body := outdented ls
  let (blocks, links) := blocksOf (2 * body.length + 1) 0 false body
  { blocks, links }

/-! ## Running text -/

/-- Punctuation that an address may hold but not end in. -/
def isAddressPunct (c : Char) : Bool := ".,:;?!".toList.contains c

/-- The characters of the host in an address. -/
def isHostChar (c : Char) : Bool :=
  c.isAlphanum || "_@-.[]:".toList.contains c

/-- The characters of the path in an address, its punctuation left aside. -/
def isPathChar (c : Char) : Bool :=
  c.isAlphanum || "$'()*+&#=@~_/-[]\x7b\x7d%".toList.contains c

/-- The bracket that closes another. -/
def closing? : Char → Option Char
  | '(' => some ')'
  | '[' => some ']'
  | '\x7b' => some '\x7d'
  | _ => none

/-- How far a path goes: brackets have to match and punctuation has to be followed by more. `at_` is
the number of characters read and `best` how many of them are in. -/
def pathLength (brackets : List Char) (at_ best : Nat) : Line → Nat
  | [] => best
  | c :: rest =>
    if isAddressPunct c then pathLength brackets (at_ + 1) best rest
    else if !isPathChar c then best
    else match closing? c with
      | some close => pathLength (close :: brackets) (at_ + 1) best rest
      | none =>
        if c == ')' || c == ']' || c == '\x7d' then
          match brackets with
          | expected :: outer =>
            if expected == c then
              pathLength outer (at_ + 1) (if outer.isEmpty then at_ + 1 else best) rest
            else best
          | [] => best
        else pathLength brackets (at_ + 1) (if brackets.isEmpty then at_ + 1 else best) rest

/-- The number of characters of the address that a text begins with. -/
def addressLength (t : Line) : Option Nat :=
  (schemes.find? fun s => (s ++ "://".toList).isPrefixOf t).bind fun scheme =>
    let after := t.drop (scheme.length + 3)
    match after with
    | c :: _ =>
      if isHostChar c && !isAddressPunct c then
        let host := (Text.dropWhileEnd isAddressPunct (after.takeWhile isHostChar)).length
        some (scheme.length + 3 + host + pathLength [] 0 0 (after.drop host))
      else none
    | [] => none

/-- The number of bytes of the word that a text begins with. -/
def wordSize : Line → Nat
  | c :: rest =>
    if Text.isLetter c || c == '_' then
      let tail := rest.takeWhile fun d => Text.isLetter d || d == '_' || d.isDigit
      (String.ofList (c :: tail)).utf8ByteSize
    else 0
  | [] => 0

/-- Whether a backquote stands at a byte of a text. -/
def tickAt : Nat → Line → Bool
  | _, [] => false
  | 0, c :: _ => c == '`'
  | n + 1, c :: rest => if n + 1 < c.utf8Size then false else tickAt (n + 1 - c.utf8Size) rest

/-- The number of backquotes at the bytes of a text from `at_` on. -/
def ticksFrom (t : Line) (at_ : Nat) : Nat → Nat
  | 0 => 0
  | fuel + 1 => if tickAt at_ t then ticksFrom t (at_ + 1) fuel + 1 else 0

/-- A text with pairs of backquotes and of apostrophes as quotation marks, but for those in addresses
and in rows of three backquotes. `at_` is the byte reached; the next `keep` bytes stay as they are;
`paired` says that the next character was shown with the one before; `addresses` says whether
addresses are looked for. -/
def curled (addresses : Bool) (at_ keep : Nat) (paired : Bool) : Line → Line
  | [] => []
  | c :: rest =>
    let next := at_ + c.utf8Size
    let whole := if addresses then (addressLength (c :: rest)).getD (wordSize (c :: rest)) else 0
    if paired then curled addresses next 0 false rest
    else if keep > 0 then c :: curled addresses next (keep - c.utf8Size) false rest
    else if whole > 0 then c :: curled addresses next (whole - c.utf8Size) false rest
    else if "```".toList.isPrefixOf (c :: rest) then
      c :: curled addresses next (2 + ticksFrom (c :: rest) (at_ + 3) (c :: rest).length) false rest
    else if "``".toList.isPrefixOf (c :: rest) then '“' :: curled addresses next 0 true rest
    else if "''".toList.isPrefixOf (c :: rest) then '”' :: curled addresses next 0 true rest
    else c :: curled addresses next 0 false rest

/-- A piece of running text: plain, or a link with the name it goes by. -/
inductive Piece where
  | plain (text : Line)
  | link (name text : Line)

/-- The pieces of a text: a text in brackets is a link if its name is defined. `plain` is the text
since the last link, `inside` what follows the last open bracket, and `name` what was read since the
first open one, on one line; all stand backwards. -/
def pieces (names : List Line) (plain : Line) (inside : Option Line) (name : Line) :
    Line → List Piece
  | [] => [.plain (outside plain inside).reverse]
  | c :: rest =>
    if c == '[' then pieces names (outside plain inside) (some []) name rest
    else if c == ']' then
      match inside with
      | some text =>
        if names.contains name.reverse then
          .plain plain.reverse :: .link name.reverse text.reverse :: pieces names [] none [] rest
        else pieces names (c :: outside plain inside) none [] rest
      | none => pieces names (c :: plain) none [] rest
    else match inside with
      | some text =>
        let shown := if c == '\n' || c == '\t' then ' ' else c
        pieces names plain (some (c :: text)) (shown :: name) rest
      | none => pieces names (c :: plain) none name rest
where
  /-- The text read so far if no link comes of it. -/
  outside (plain : Line) : Option Line → Line
    | some text => text ++ '[' :: plain
    | none => plain

/-- The text of a piece. -/
def Piece.text : Piece → Line
  | .plain t => curled true 0 0 false t
  | .link _ t => '[' :: curled false 0 0 false t ++ [']']

/-- The name of a piece that is a link. -/
def Piece.name? : Piece → Option Line
  | .plain _ => none
  | .link name _ => some name

/-! ## The usual layout -/

/-- A text whose lines, but for the first, begin with `margin`. -/
def hanging (margin t : Line) : Line :=
  t.flatMap fun c => if c == '\n' then '\n' :: margin else [c]

namespace Doc

/-- The pieces of a paragraph. -/
def piecesOf (d : Doc) (ls : List Line) : List Piece :=
  pieces (d.links.map (·.text)) [] none [] (['\n'].intercalate ls)

/-- The text of a paragraph. -/
def running (d : Doc) (ls : List Line) : Line :=
  (d.piecesOf ls).flatMap Piece.text

/-- The text of a list item: its mark, and its paragraphs beside and below the mark. -/
def itemText (d : Doc) (i : ListItem) : Line :=
  (if i.number.isEmpty then "  - ".toList else ' ' :: i.number ++ ". ".toList)
    ++ "\n    ".toList.intercalate (i.paragraphs.map fun p =>
      hanging "    ".toList (d.running p) ++ ['\n'])

/-- The text of a block. -/
def blockText (d : Doc) : Block → Line
  | .paragraph ls => d.running ls ++ ['\n']
  | .heading t => '#' :: ' ' :: t ++ ['\n']
  | .code ls => ls.flatMap fun l => (if l.isEmpty then [] else '\t' :: l) ++ ['\n']
  | .list items _ loose =>
    (if loose then ['\n'] else []).intercalate (items.map d.itemText)

/-- Whether a blank line comes before a block. -/
def isApart : Block → Bool
  | .list _ apart _ => apart
  | _ => true

/-- The texts of blocks, with the blank lines between them. -/
def blocksText (d : Doc) : List Block → Line
  | [] => []
  | b :: rest =>
    d.blockText b ++ rest.flatMap fun c => (if isApart c then ['\n'] else []) ++ d.blockText c

/-- The paragraphs of a block. -/
def paragraphs : Block → List (List Line)
  | .paragraph ls => [ls]
  | .list items _ _ => items.flatMap (·.paragraphs)
  | _ => []

/-- The names of the links that occur in the text. -/
def usedNames (d : Doc) : List Line :=
  (d.blocks.flatMap paragraphs).flatMap fun p => (d.piecesOf p).filterMap Piece.name?

/-- The definitions that are used, and the others; of two with one name only the first is used. -/
def sortedLinks (d : Doc) : List LinkDef × List LinkDef :=
  let numbered := d.links.zipIdx
  let (used, unused) := numbered.partition fun (l, i) =>
    d.usedNames.contains l.text && !(numbered.any fun (m, j) => j < i && m.text == l.text)
  (used.map Prod.fst, unused.map Prod.fst)

/-- A group of definitions behind a blank line. -/
def linksText (links : List LinkDef) : Line :=
  if links.isEmpty then []
  else '\n' :: links.flatMap fun l => '[' :: l.text ++ "]: ".toList ++ l.address ++ ['\n']

/-- The lines of the text in the usual layout. A text of definitions alone has none. -/
def lines (d : Doc) : List Line :=
  if d.blocks.isEmpty then []
  else
    let (used, unused) := d.sortedLinks
    Text.dropWhileEnd List.isEmpty
      ((d.blocksText d.blocks ++ linksText used ++ linksText unused).splitOn '\n')

end Doc
end Code
end Shapewright
