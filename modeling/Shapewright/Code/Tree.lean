import Shapewright.Text.Quoted

/-!
# Generated code as a tree

Expressions, statements and functions of the generated program.  Types and identifiers are kept as
they are written; the tree records what the generator has to reason about: which values are built,
which names are introduced and where control goes.

* `Expr`, `Stmt` — the two mutually recursive kinds of node: a function literal holds statements.
* `Function` — a function or, with a receiver, a method.
* `Expr.str`, `Expr.int`, `Expr.callOf`, `Stmt.returnOnError` — the nodes that occur everywhere.
-/

set_option autoImplicit false

namespace Shapewright
namespace Code

/-- A parameter: its name, which may be empty, and its type. -/
structure Param where
  name : String
  type : String
  deriving DecidableEq, Repr

mutual

/-- An expression. -/
inductive Expr where
  /-- A name, possibly qualified by a package. -/
  | ident (name : String)
  /-- Literal text. -/
  | lit (text : String)
  /-- A field or method of a value. -/
  | sel (x : Expr) (name : String)
  /-- A call, with type arguments where the function is generic. -/
  | call (fn : Expr) (types : List String) (args : List Expr)
  /-- A conversion to a type. -/
  | conv (type : String) (x : Expr)
  | unary (op : String) (x : Expr)
  | binary (x : Expr) (op : String) (y : Expr)
  | index (x : Expr) (i : Expr)
  /-- A composite literal; a field with an empty key is positional. -/
  | composite (type : String) (fields : List (String × Expr))
  /-- A function literal. -/
  | func (params : List Param) (results : List String) (body : List Stmt)

/-- A statement. -/
inductive Stmt where
  /-- Introduces names. -/
  | define (names : List String) (values : List Expr)
  /-- Stores into names. -/
  | assign (names : List String) (values : List Expr)
  /-- Declares a variable, with a type, a value or both. -/
  | var (name type : String) (value : Option Expr)
  /-- A condition, with an optional statement before it. -/
  | branch (init : Option Stmt) (cond : Expr) (yes no : List Stmt)
  | ret (values : List Expr)
  | eval (x : Expr)
  | comment (text : String)
  /-- Cases on a value, or on conditions where there is no value. -/
  | switch (tag : Option Expr) (cases : List (List Expr × List Stmt)) (fallback : List Stmt)

end

instance : Inhabited Expr := ⟨.lit ""⟩

instance : Inhabited Stmt := ⟨.comment ""⟩

/-- The absent value. -/
def Expr.nil : Expr := .lit "nil"

/-- A text as a literal. -/
def Expr.str (s : String) : Expr := .lit (Text.quote s)

/-- An integer as a literal. -/
def Expr.int (n : Int) : Expr := .lit (toString n)

/-- A call of a named function. -/
def Expr.callOf (fn : String) (args : List Expr) : Expr := .call (.ident fn) [] args

/-- The address of a value. -/
def Expr.addr (x : Expr) : Expr := .unary "&" x

/-- The negation of a condition. -/
def Expr.not (x : Expr) : Expr := .unary "!" x

/-- Whether an expression is just a name. -/
def Expr.isIdent : Expr → Bool
  | .ident _ => true
  | _ => false

/-- Whether an expression is the literal for the absent value. -/
def Expr.isNil : Expr → Bool
  | .lit text => text == "nil"
  | _ => false

/-- Leaves the function with `zeros` and the error, if there is one. -/
def Stmt.returnOnError (zeros : List Expr) : Stmt :=
  .branch none (.binary (.ident "err") "!=" .nil) [.ret (zeros ++ [.ident "err"])] []

/-- A generated function; with a receiver it is a method of the receiver's type. -/
structure Function where
  doc : String := ""
  receiver : Option Param := none
  name : String
  params : List Param := []
  results : List String := []
  body : List Stmt
  /-- Packages the body refers to beyond those of its context. -/
  imports : List String := []

instance : Inhabited Function := ⟨{ name := "", body := [] }⟩

end Code
end Shapewright
