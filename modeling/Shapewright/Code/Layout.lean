import Shapewright.Text.Split
import Shapewright.Code.Tree

/-!
# Writing code

A statement is a list of lines, an expression is a text that may hold several.  Indentation is put
in front of finished lines, so writing with more indentation is writing with less and then moving
every line to the right.

* `Expr.text`, `Stmt.lines` — the two mutually recursive writers.
* `render` — statements at an indentation.
* `Function.signature`, `Function.text` — a whole function.
-/

set_option autoImplicit false

namespace Shapewright
namespace Code

/-- Items between commas. -/
def commas (items : List String) : String :=
  ", ".intercalate items

/-- Whether a type has to stand in parentheses to be called as a conversion. -/
def needsParens (type : String) : Bool :=
  Text.startsWith "*" type || Text.startsWith "[]" type || Text.startsWith "map[" type

/-- A parameter as it is declared; one without a name is just a type. -/
def Param.text (p : Param) : String :=
  if p.name == "" then p.type else p.name ++ " " ++ p.type

/-- Parameters between their parentheses. -/
def paramList (params : List Param) : String :=
  "(" ++ commas (params.map Param.text) ++ ")"

/-- The results of a function behind its parameters. -/
def resultList : List String → String
  | [] => ""
  | [result] => " " ++ result
  | results => " (" ++ commas results ++ ")"

/-- Lines moved one step to the right. -/
def indented (ls : List String) : List String :=
  ls.map ("\t" ++ ·)

/-- Lines as a text, each closed by a newline. -/
def unlines (ls : List String) : String :=
  String.join (ls.map (· ++ "\n"))

mutual

/-- An expression as it is written. -/
def Expr.text : Expr → String
  | .ident name => name
  | .lit text => text
  | .sel x name => x.text ++ "." ++ name
  | .call fn types args =>
    fn.text ++ (if types.isEmpty then "" else "[" ++ commas types ++ "]")
      ++ "(" ++ commas (exprTexts args) ++ ")"
  | .conv type x =>
    (if needsParens type then "(" ++ type ++ ")" else type) ++ "(" ++ x.text ++ ")"
  | .unary op x => op ++ x.text
  | .binary x op y => x.text ++ " " ++ op ++ " " ++ y.text
  | .index x i => x.text ++ "[" ++ i.text ++ "]"
  | .composite type fields => type ++ "\x7b" ++ commas (fieldTexts fields) ++ "\x7d"
  | .func params results body =>
    "func" ++ paramList params ++ resultList results ++ " \x7b\n"
      ++ unlines (indented (bodyLines body)) ++ "\x7d"

/-- Expressions one by one. -/
def exprTexts : List Expr → List String
  | [] => []
  | x :: xs => x.text :: exprTexts xs

/-- The fields of a composite literal one by one. -/
def fieldTexts : List (String × Expr) → List String
  | [] => []
  | (key, x) :: rest =>
    ((if key == "" then "" else key ++ ": ") ++ x.text) :: fieldTexts rest

/-- The lines of a statement. -/
def Stmt.lines : Stmt → List String
  | .define names values => Text.lines (commas names ++ " := " ++ commas (exprTexts values))
  | .assign names values => Text.lines (commas names ++ " = " ++ commas (exprTexts values))
  | .var name type value =>
    Text.lines ("var " ++ name ++ (if type == "" then "" else " " ++ type)
      ++ (match value with
        | none => ""
        | some x => " = " ++ x.text))
  | .branch init cond yes no =>
    Text.lines ("if " ++ (match init with
        | none => ""
        | some s => "\n".intercalate s.lines ++ "; ") ++ cond.text ++ " \x7b")
      ++ indented (bodyLines yes)
      ++ (if no.isEmpty then [] else "\x7d else \x7b" :: indented (bodyLines no))
      ++ ["\x7d"]
  | .ret values =>
    if values.isEmpty then ["return"] else Text.lines ("return " ++ commas (exprTexts values))
  | .eval x => Text.lines x.text
  | .comment text => (Text.lines text).map ("// " ++ ·)
  | .switch tag cases fallback =>
    (match tag with
      | none => ["switch \x7b"]
      | some x => Text.lines ("switch " ++ x.text ++ " \x7b"))
      ++ caseLines cases
      ++ (if fallback.isEmpty then [] else "default:" :: indented (bodyLines fallback))
      ++ ["\x7d"]

/-- The lines of the cases of a switch. -/
def caseLines : List (List Expr × List Stmt) → List String
  | [] => []
  | (values, body) :: rest =>
    Text.lines ("case " ++ commas (exprTexts values) ++ ":")
      ++ indented (bodyLines body) ++ caseLines rest

/-- The lines of a list of statements. -/
def bodyLines : List Stmt → List String
  | [] => []
  | s :: rest => s.lines ++ bodyLines rest

end

/-- Statements as text, every line behind `indent`. -/
def render (indent : String) (stmts : List Stmt) : String :=
  unlines ((bodyLines stmts).map (indent ++ ·))

/-- The head of a function, up to its body. -/
def Function.signature (f : Function) : String :=
  "func " ++ (match f.receiver with
    | none => ""
    | some r => paramList [r] ++ " ") ++ f.name ++ paramList f.params ++ resultList f.results

/-- The lines of a function's documentation. -/
def Function.docLines (f : Function) : List String :=
  if f.doc == "" then []
  else (Text.lines (Text.trimRightBy (· == '\n') f.doc)).map ("// " ++ ·)

/-- A function as text. -/
def Function.text (f : Function) : String :=
  unlines f.docLines ++ f.signature ++ " \x7b\n" ++ render "\t" f.body ++ "\x7d\n"

end Code
end Shapewright
