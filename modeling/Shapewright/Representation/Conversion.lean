import Shapewright.Code.Tree

/-!
# Conversions in generated code

Generated code converts values by calling functions of a support package.  A conversion is such a
call, with what has to be known to use it: whether it can fail, and whether its result has to be
converted to a declared type.

* `Conversion` — the call.
* `Conversion.assign` — statements that store the converted value.
* `Conversion.ret` — statements that return it.
* `support` — a name of the support package.
-/

set_option autoImplicit false

namespace Shapewright

/-- The name that generated code knows the support package by. -/
def supportAlias : String := "runtime"

/-- A name of the support package. -/
def support (name : String) : Code.Expr := .ident (supportAlias ++ "." ++ name)

/-- A call of a function of the support package. -/
def supportCall (name : String) (args : List Code.Expr) : Code.Expr :=
  .call (support name) [] args

/-- An expression that yields a converted value; if it is fallible, a value and an error. -/
structure Conversion where
  expr : Code.Expr
  fallible : Bool := false
  /-- The type that the value is converted to afterwards, if it is not empty. -/
  wrap : String := ""

namespace Conversion

instance : Inhabited Conversion := ⟨{ expr := default }⟩

/-- The value after its last conversion. -/
def wrapped (c : Conversion) (v : Code.Expr) : Code.Expr :=
  if c.wrap == "" then v else .conv c.wrap v

/-- Calls a fallible conversion and leaves the function if it fails. -/
def checked (c : Conversion) (zeros : List Code.Expr) : List Code.Stmt :=
  [.define ["v", "err"] [c.expr], .returnOnError zeros]

/-- Stores a value, or the address of a variable that holds it. -/
def store (target : String) (pointer : Bool) (value : Code.Expr) : List Code.Stmt :=
  if !pointer then [.assign [target] [value]]
  else if value.isIdent then [.assign [target] [.addr value]]
  else [.define ["tmp"] [value], .assign [target] [.addr (.ident "tmp")]]

/-- Statements that store the converted value in `target`, by its address if `pointer` is set. An
error leaves the function with `zeros` and the error. -/
def assign (c : Conversion) (target : String) (pointer : Bool) (zeros : List Code.Expr) :
    List Code.Stmt :=
  if c.fallible then c.checked zeros ++ store target pointer (c.wrapped (.ident "v"))
  else store target pointer (c.wrapped c.expr)

/-- Statements that return the converted value and an error, which is absent on success. -/
def ret (c : Conversion) (zero : Code.Expr) : List Code.Stmt :=
  if !c.fallible then [.ret [c.wrapped c.expr, .nil]]
  else if c.wrap == "" then [.ret [c.expr]]
  else c.checked [zero] ++ [.ret [c.wrapped (.ident "v"), .nil]]

end Conversion
end Shapewright
