import Shapewright.Code.Constraint
import Shapewright.Code.Layout
import Shapewright.Naming

/-!
# Source files

* `SourceFile` — a package, its imports and its body.
* `SourceFile.raw` — the file as it is put together.
* `SourceFile.tidy?` — the same file in the usual layout, if it can be parsed.
* `PackageClause` — what the text that names a package may hold beside the name.
* `isIdentifier`, `isTypeText` — what can be parsed.
-/

set_option autoImplicit false

namespace Shapewright
namespace Code

/-! ## Names that parse -/

/-- Whether a character may start an identifier. -/
def isNameStart (c : Char) : Bool :=
  Text.isLetter c || c == '_'

/-- Whether a character may stand in an identifier. -/
def isNameChar (c : Char) : Bool :=
  isNameStart c || Text.isDigit c

/-- Whether a text is an identifier and no keyword. -/
def isIdentifier (s : String) : Bool :=
  match s.toList with
  | [] => false
  | c :: rest => isNameStart c && rest.all isNameChar && !Naming.keywords.contains s

/-- Whether a text names a type, possibly in another package. -/
def isTypeName (s : String) : Bool :=
  s == "interface\x7b\x7d" || (Text.split '.' s).all isIdentifier

/-- Whether a text is a type: slices, maps and pointers of a named one. -/
def isType : List Char → Bool
  | '*' :: rest => isType rest
  | '[' :: ']' :: rest => isType rest
  | 'm' :: 'a' :: 'p' :: '[' :: 's' :: 't' :: 'r' :: 'i' :: 'n' :: 'g' :: ']' :: rest => isType rest
  | cs => isTypeName (String.ofList cs)

/-- Whether a text is a type. -/
def isTypeText (s : String) : Bool := isType s.toList

/-! ## The clause that names the package -/

/-- What the text behind `package` is made of. -/
inductive ClauseToken where
  | name (text : Line)
  | remark (text : Line)
  | newline
  | semicolon
  deriving DecidableEq, Repr

/-- Cuts a text into tokens; a character that cannot stand there makes it fail. The first argument
bounds the number of tokens. -/
def clauseTokens : Nat → Line → Option (List ClauseToken)
  | 0, _ => none
  | _, [] => some []
  | fuel + 1, c :: rest =>
    if c == '\n' then (clauseTokens fuel rest).map (.newline :: ·)
    else if c == ' ' || c == '\t' || c == '\r' then clauseTokens fuel rest
    else if c == ';' then (clauseTokens fuel rest).map (.semicolon :: ·)
    else if isNameStart c then
      let tail := rest.takeWhile isNameChar
      (clauseTokens fuel (rest.drop tail.length)).map (.name (c :: tail) :: ·)
    else if "//".toList.isPrefixOf (c :: rest) then
      let text := (c :: rest).takeWhile (· != '\n')
      (clauseTokens fuel ((c :: rest).drop text.length)).map (.remark text :: ·)
    else if "/*".toList.isPrefixOf (c :: rest) then
      (Line.cut "*/".toList (rest.drop 1)).bind fun (inside, after) =>
        (clauseTokens fuel after).map (.remark ("/*".toList ++ inside ++ "*/".toList) :: ·)
    else none

/-- A remark as it is shown: without carriage returns and white space at its end. -/
def shownRemark (l : Line) : Line :=
  Text.dropWhileEnd Text.isBlank (l.filter (· != '\r'))

/-- The name of a package, with the remarks around it. -/
structure PackageClause where
  /-- Remarks between the keyword and the name. -/
  before : List Line
  name : Line
  /-- Remarks on the line of the name. -/
  beside : List Line
  /-- Lines below that line, each with its remarks. -/
  below : List (List Line)

namespace PackageClause

/-- The remark that a token is. -/
def remark? : ClauseToken → Option Line
  | .remark text => some (shownRemark text)
  | _ => none

/-- Whether a token is a remark. -/
def isRemark (t : ClauseToken) : Bool := (remark? t).isSome

/-- Reads what follows the name: remarks, then at most one semicolon, then lines of remarks. -/
def after? (ts : List ClauseToken) : Option (List Line × List (List Line)) :=
  let beside := ts.takeWhile isRemark
  let rest := ts.drop beside.length
  let rest := if rest.head? == some .semicolon then rest.drop 1 else rest
  if rest.all fun t => isRemark t || t == .newline then
    match rest.splitOn .newline with
    | [] => some (beside.filterMap remark?, [])
    | more :: below =>
      some ((beside ++ more).filterMap remark?, below.map (·.filterMap remark?))
  else none

/-- Reads the text behind `package`. -/
def ofText? (s : String) : Option PackageClause :=
  (clauseTokens (s.toList.length + 1) s.toList).bind fun ts =>
    let before := ts.takeWhile fun t => isRemark t || t == .newline
    match ts.drop before.length with
    | .name text :: rest =>
      if Naming.keywords.contains (String.ofList text) then none
      else (after? rest).map fun (beside, below) =>
        { before := before.filterMap remark?, name := text, beside, below }
    | _ => none

/-- The clause behind `package`, in the usual layout. -/
def text (p : PackageClause) : String :=
  let line := p.before.flatMap (· ++ [' ']) ++ p.name ++ p.beside.flatMap (' ' :: ·)
  let below := if p.below.all List.isEmpty then []
    else [] :: p.below.map fun l => [' '].intercalate l
  String.ofList (['\n'].intercalate (line :: below))

end PackageClause

/-! ## Files -/

/-- An imported package, with another name than its own where one is given. -/
structure Import where
  localName : String := ""
  path : String
  deriving DecidableEq, Repr

/-- A source file. -/
structure SourceFile where
  package : String
  imports : List Import := []
  body : String
  deriving Repr

namespace SourceFile

/-- The line of an import. -/
def importLine (i : Import) : String :=
  "\n\t" ++ (if i.localName == "" then "" else i.localName ++ " ") ++ Text.quote i.path

/-- The file as it is put together. -/
def raw (f : SourceFile) : String :=
  "// Code generated by smithygen. DO NOT EDIT.\n\npackage " ++ f.package ++ "\n"
    ++ (if f.imports.isEmpty then ""
      else "\nimport (" ++ String.join (f.imports.map importLine) ++ "\n)\n")
    ++ "\n" ++ Text.trim f.body ++ "\n"

end SourceFile

/-! ## The usual layout -/

/-- Whether a character is a blank at the end of a line. -/
def isLineBlank (c : Char) : Bool := c == ' ' || c == '\t'

/-- Drops a blank line that follows another. -/
def singleBlanks (afterBlank : Bool) : List String → List String
  | [] => []
  | l :: rest =>
    if l == "" then (if afterBlank then singleBlanks true rest else l :: singleBlanks true rest)
    else l :: singleBlanks false rest

/-- Closes a group of constants that has none on the line that opens it. -/
def closeEmptyGroups : List String → List String
  | a :: b :: rest =>
    if a == "const (" && b == ")" then "const ()" :: closeEmptyGroups rest
    else a :: closeEmptyGroups (b :: rest)
  | rest => rest

/-- A comment in the usual layout. One that a declaration follows is documentation and shows its
structure; if its last line holds a carriage return it is not taken for documentation. -/
def tidyComment (documents : Bool) (ls : List Line) : List Line :=
  let kept := ls.map fun l => l.filter (· != '\r')
  let shown := if documents && !(ls.getLast?.any (·.contains '\r')) then
      (Doc.ofLines (kept.map fun l => Line.dropStart [' '] (l.drop 2))).lines.map fun l =>
        match l with
        | [] => "//".toList
        | '\t' :: _ => "//".toList ++ l
        | _ => "// ".toList ++ l
    else kept
  shown.map (Text.dropWhileEnd Text.isBlank)

/-- Lines with their comments in the usual layout; `comment` is the comment being read. -/
def tidyComments (comment : List Line) : List String → List String
  | [] => (tidyComment false comment).map String.ofList
  | l :: rest =>
    if Text.startsWith "//" l then tidyComments (comment ++ [l.toList]) rest
    else (tidyComment (l != "" && !Line.isIndented l.toList) comment).map String.ofList
      ++ l :: tidyComments [] rest

/-- A line that gives a name the value of a number, with a small `e` before the exponent. -/
def tidyNumber (line : String) : String :=
  match Line.cut " = ".toList line.toList with
  | some (name, value) =>
    if value.all fun c => c.isDigit || "+-.eE".toList.contains c then
      String.ofList (name ++ " = ".toList ++ value.map fun c => if c == 'E' then 'e' else c)
    else line
  | none => line

/-- A source text in the usual layout: comments laid out, constraints above the package, no blanks at the
ends of lines, no two blank lines in a row, and one line end at the end. -/
def tidy (text : String) : String :=
  let ls := gatherConstraints ((tidyComments [] (Text.split '\n' text)).map fun l =>
    tidyNumber (Text.trimRightBy isLineBlank l))
  unlines (closeEmptyGroups (Text.dropWhileEnd (· == "") (singleBlanks false ls)))

/-- Whether a character may stand in a source text at all. -/
def isSourceChar (c : Char) : Bool :=
  c != '\x00' && c != '\ufeff'

/-- The file in the usual layout, if its package and its characters can be parsed. -/
def SourceFile.tidy? (f : SourceFile) : Option String :=
  if f.raw.toList.all isSourceChar then
    (PackageClause.ofText? f.package).map fun clause =>
      tidy { f with package := clause.text }.raw
  else none

end Code
end Shapewright
