import Shapewright.Code.Doc
import Shapewright.Text.Letter

/-!
# Build constraints

A comment that starts with `+build` says for which builds a file is meant, wherever it stands.  Its words
are alternatives, each a list of tags that have to be there, or must not be with an exclamation mark.  In
the usual layout all such comments stand above the package, behind one that says the same in the
newer form `//go:build`.

* `Constraint` — the alternatives of one comment.
* `Constraint.ofComment?` — the constraint that a comment states.
* `Constraint.expression`, `Constraint.comments` — several constraints in the newer and the older form.
* `gatherConstraints` — lines with their constraints above the package.
-/

set_option autoImplicit false

namespace Shapewright
namespace Code

/-- A tag that has to be there, or must not. -/
structure BuildTag where
  isNegated : Bool := false
  name : Line
  deriving DecidableEq, Repr

/-- Alternatives, each of which asks for all of its tags. -/
abbrev Constraint := List (List BuildTag)

namespace Constraint

/-! ## Reading -/

/-- The text of a comment behind `+build`, if it has that start. -/
def text? (comment : Line) : Option Line :=
  let start := "+build".toList
  let body := Line.trim (comment.drop 2)
  let rest := body.drop start.length
  if "//".toList.isPrefixOf comment && start.isPrefixOf body && rest.head?.all Text.isBlank then
    some rest
  else none

/-- The tag for what is never built. -/
def ignored : BuildTag := { name := "ignore".toList }

/-- Whether a text is the name of a tag. -/
def isTagName (l : Line) : Bool :=
  !l.isEmpty && l.all fun c => Text.isLetter c || Text.isDigit c || c == '_' || c == '.'

/-- A name, which stands for what is never built if it is none. -/
def tagNamed (isNegated : Bool) (l : Line) : BuildTag :=
  if isTagName l then { isNegated, name := l } else { ignored with isNegated }

/-- The tag that a part of an alternative stands for. -/
def tagOf : Line → BuildTag
  | ['!'] => ignored
  | '!' :: '!' :: _ => ignored
  | '!' :: rest => tagNamed true rest
  | l => tagNamed false l

/-- How many signs join the tags of a constraint. -/
def size (c : Constraint) : Nat := c.flatten.length - 1

/-- The constraint that a comment states, unless it is too complex to be taken as one. -/
def ofComment? (comment : Line) : Option Constraint := do
  let alternatives := (Text.words (← text? comment)).map fun w => (w.splitOn ',').map tagOf
  let c := if alternatives.isEmpty then [[ignored]] else alternatives
  if 100 < size c then none else return c

/-! ## Writing -/

/-- A tag with its sign. -/
def tagText (t : BuildTag) : Line := if t.isNegated then '!' :: t.name else t.name

/-- Parts with a sign between them; if there are several, each one is in brackets that is `nested`. -/
def joined (sign : String) (parts : List (Bool × Line)) : Line :=
  sign.toList.intercalate (parts.map fun (nested, l) =>
    if nested && 1 < parts.length then '(' :: l ++ [')'] else l)

/-- The tags of an alternative. -/
def allOf (tags : List BuildTag) : Line := joined " && " (tags.map fun t => (false, tagText t))

/-- A constraint. -/
def anyOf (c : Constraint) : Line :=
  joined " || " (c.map fun tags => (1 < tags.length, allOf tags))

/-- Constraints that all have to be met. -/
def expression (cs : List Constraint) : Line :=
  joined " && " (cs.map fun c => (1 < c.length, anyOf c))

/-- A constraint as the constraints that all have to be met for it. -/
def parts : Constraint → List Constraint
  | [tags] => tags.map fun t => [[t]]
  | c => [c]

/-- The comment that states a constraint. -/
def comment (c : Constraint) : Line :=
  "// +build".toList ++ c.flatMap fun tags => ' ' :: [','].intercalate (tags.map tagText)

/-- The comments that state constraints that all have to be met; one is enough where there are no
alternatives. -/
def comments (cs : List Constraint) : List Line :=
  if cs.all fun c => c.length == 1 then [comment [cs.flatMap List.flatten]]
  else (cs.flatMap parts).map comment

end Constraint

/-! ## Lines -/

/-- Whether a line states a constraint. -/
def isConstraint (line : String) : Bool := (Constraint.text? line.toList).isSome

/-- The lines that state the constraints of some comments. Comments that are too complex stay as they
are. -/
def constraintLines (stated : List String) : List String :=
  match stated.mapM fun l => Constraint.ofComment? l.toList with
  | some cs =>
    (("//go:build ".toList ++ Constraint.expression cs) :: Constraint.comments cs).map String.ofList
  | none => stated

/-- How many lines at the start of a file are blank or comments, up to the last blank one. -/
def headLength (lines : List String) : Nat :=
  let head := lines.takeWhile fun l => l == "" || Text.startsWith "//" l
  (Text.dropWhileEnd (· != "") head).length

/-- Lines with their constraints above the package. -/
def gatherConstraints (lines : List String) : List String :=
  let stated := lines.filter isConstraint
  if stated.isEmpty then lines
  else
    let n := headLength lines
    lines.take n ++ constraintLines stated ++ "" :: (lines.drop n).filter (!isConstraint ·)

end Code
end Shapewright
