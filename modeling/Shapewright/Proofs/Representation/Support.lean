import Shapewright.Generated.Types
import Shapewright.Proofs.Code.Semantics
import Shapewright.Wire.Typed

/-!
# What the functions of the support package do

Generated conversions call functions of the support package and of the package that they are
generated into.  Here those functions get their meaning.

* `Datum` — what the variables of a conversion hold.
* `Support.underlying`, `Support.parsed?` — what a package declares: the built-in types under its
  types, and the constants that its functions read.
* `Support.called` — the results of a call.
* `Support.world` — the world in which conversions are run.  Function literals call functions in
  turn, and the world is numbered by how deep that goes.
-/

set_option autoImplicit false

namespace Shapewright

open Code
open Wire (Raw WireType Served Fault)

/-! ## Data -/

/-- What the variables of a conversion hold. -/
inductive Datum where
  | value (v : Wire.Value)
  /-- A part of a document. -/
  | document (raw : Raw)
  | fault (f : Fault)
  /-- The name that a value has in messages. -/
  | field (name : String)
  /-- A function by its name. -/
  | name (name : String)
  /-- A function literal. -/
  | func (params : List Param) (body : List Stmt)

namespace Datum

noncomputable instance : DecidableEq Datum := Classical.decEq Datum

/-- What a document holds where a datum is put: truth values, integers and texts stand for
themselves. -/
def document? : Datum → Option Raw
  | .value (.bool b) => some (.bool b)
  | .value (.int n) => some (.number (.int n))
  | .value (.text bs) => some (.string bs)
  | .document raw => some raw
  | _ => none

/-- The results of a function that can fail: what stands beside an error is of no use. -/
def results : Served Wire.Value → List (Value Datum)
  | .ok v => [.data (.value v), .nil]
  | .error f => [.nil, .data (.fault f)]

end Datum

/-- What a function that can fail has come to. -/
def Code.Flow.served : Flow Datum → Served Wire.Value
  | .leaves [.data (.value v), .nil] => .ok v
  | .leaves [_, .data (.fault f)] => .error f
  | _ => .error .breakdown

/-- The document that a function has come to. -/
def Code.Flow.document? : Flow Datum → Option Raw
  | .leaves [.data d] => d.document?
  | _ => none

@[simp] theorem Code.Flow.served_leaves_results (x : Served Wire.Value) :
    (Flow.leaves (Datum.results x)).served = x := by
  cases x <;> rfl

theorem Code.Flow.served_leaves_fault (z : Value Datum) (f : Fault) :
    (Flow.leaves [z, .data (.fault f)]).served = .error f := by
  cases z with
  | data d => cases d <;> rfl
  | _ => rfl

/-! ## What a package declares -/

/-- The built-in type that a declared type is made of. -/
def TypeDecl.builtin? (d : TypeDecl) : Option String :=
  match d.body with
  | .builtin type => some type
  | .integers _ => some "int32"
  | .texts _ => some "string"
  | .struct _ => none

/-- The texts of the constants that a type declares. -/
def TypeDecl.constants? (d : TypeDecl) : Option (List String) :=
  match d.body with
  | .texts constants => some (constants.map (·.2))
  | _ => none

namespace Support

/-- The type that is under a type, which is that type itself if it is not declared. -/
def underlying (decls : List TypeDecl) (type : String) : String :=
  ((decls.find? (·.name == type)).bind (·.builtin?)).getD type

/-- The constants that the function with a name reads. -/
def parsed? (decls : List TypeDecl) (fn : String) : Option (List String) :=
  (decls.find? fun d => "Parse" ++ d.name == fn).bind (·.constants?)

/-- The built-in types that conversions refer to. -/
def builtins : List String := ["bool", "int8", "int16", "int32", "int64", "string"]

/-- The width of the integers of a built-in type. -/
def intWidth? : String → Option Nat
  | "int8" => some 8
  | "int16" => some 16
  | "int32" => some 32
  | "int64" => some 64
  | _ => none

/-- A value as one of a built-in type. -/
def convertTo (builtin : String) : Wire.Value → Option Wire.Value
  | .bool b => if builtin == "bool" then some (.bool b) else none
  | .int n => (intWidth? builtin).map fun bits => .int (Number.wrap bits n)
  | .text bs => if builtin == "string" then some (.text bs) else none
  | _ => none

/-! ## Functions -/

section

variable (decls : List TypeDecl) (apply : List Param → List Stmt → List (Value Datum) → Flow Datum)

/-- The type that a function of the support package reads, if it reads without another function. -/
def readerType? (fn : String) (types : List String) : Option WireType :=
  match fn, types with
  | "runtime.BoolFromJSON", [] => some .bool
  | "runtime.StringFromJSON", [] => some .string
  | "runtime.BlobFromJSON", [] => some .blob
  | "runtime.BigIntFromJSON", [] => some .bigInteger
  | "runtime.NumberFromJSON", [type] => (intWidth? (underlying decls type)).map .int
  | _, _ => none

/-- Reads a container, each element by a function literal. -/
def readEach (fn : String) (convert : String → Raw → Served Wire.Value) (field : String)
    (raw : Raw) : Option (Served Wire.Value) :=
  match fn with
  | "runtime.ListFromJSON" => some ((Wire.listFromRaw convert field raw).map .list)
  | "runtime.MapFromJSON" => some ((Wire.mapFromRaw convert field raw).map .map)
  | _ => none

/-- Writes a value without another function. -/
def write (fn : String) (v : Wire.Value) : Option Raw :=
  match fn, v with
  | "runtime.BlobToJSON", .blob bs => some (Wire.blobToRaw bs)
  | "runtime.BigIntToJSON", .int n => some (Wire.bigIntegerToRaw (some n))
  | _, _ => none

/-- Writes a container, each element by a function literal. -/
def writeEach (fn : String) (convert : Wire.Value → Option Raw) (v : Wire.Value) : Option Raw :=
  match fn, v with
  | "runtime.ListToJSON", .list items => (items.mapM convert).map .list
  | "runtime.MapToJSON", .map fields =>
    (fields.mapM fun e => (convert e.2).map fun raw => (e.1, raw)).map .object
  | _, _ => none

/-- The results of a call; none where it has no meaning here. -/
def called (fn : String) (types : List String) : List (Value Datum) → List (Value Datum)
  | [.data (.field f), .data (.document raw)] =>
    ((readerType? decls fn types).map fun t => Datum.results (t.fromRaw f raw)).getD []
  | [.data (.field f), .data (.document raw), .data (.name parser)] =>
    if fn == "runtime.EnumFromJSON" then
      ((parsed? decls parser).map fun cs => Datum.results ((WireType.enum cs).fromRaw f raw)).getD []
    else []
  | [.data (.field f), .data (.document raw), .data (.func params body)] =>
    let convert := fun f item => (apply params body [.data (.field f), .data (.document item)]).served
    ((readEach fn convert f raw).map Datum.results).getD []
  | [.data (.value v)] => ((write fn v).map fun raw => [.data (.document raw)]).getD []
  | [.data (.value v), .data (.func params body)] =>
    let convert := fun v => (apply params body [.data (.value v)]).document?
    ((writeEach fn convert v).map fun raw => [.data (.document raw)]).getD []
  | _ => []

end

/-- The world in which function literals come to what `apply` says. -/
def worldOf (decls : List TypeDecl)
    (apply : List Param → List Stmt → List (Value Datum) → Flow Datum) : World Datum where
  global name := .data (.name name)
  literal _ := .nil
  zero _ := .nil
  call f types args :=
    match f with
    | .data (.name fn) => called decls apply fn types args
    | _ => []
  convert type v :=
    match v with
    | .data (.value v) =>
      ((convertTo (underlying decls type) v).map fun v => .data (.value v)).getD .nil
    | _ => .nil
  select _ _ := .nil
  unary _ _ := .nil
  binary _ _ _ := .nil
  index _ _ := .nil
  composite _ _ := .nil
  closure params _ body := .data (.func params body)

/-- What a function literal comes to: its body is run with the parameters as its only variables. -/
noncomputable def applied (w : World Datum) (params : List Param) (body : List Stmt)
    (args : List (Value Datum)) : Flow Datum :=
  (Flow.ofState (({} : State Datum).define (params.map (·.name)) args)).andThen (runAll w body)

/-- The world of generated conversions, as far as function literals call each other `depth` deep. -/
noncomputable def world (decls : List TypeDecl) : Nat → World Datum
  | 0 => worldOf decls fun _ _ _ => .stuck
  | depth + 1 => worldOf decls (applied (world decls depth))

/-! ## Expressions -/

section

variable {decls : List TypeDecl} {depth : Nat} {scope : Scope Datum}

theorem exists_world_eq (decls : List TypeDecl) (depth : Nat) :
    ∃ apply, world decls depth = worldOf decls apply := by
  cases depth with
  | zero => exact ⟨_, by rw [world]⟩
  | succ depth => exact ⟨_, by rw [world]⟩

theorem eval_supportCall {name : String} {types : List String} {args : List Expr}
    {vs : List (Value Datum)} (hname : isQualified (supportAlias ++ "." ++ name) = true)
    (hargs : evalAll (world decls depth) scope args = some vs) :
    (Expr.call (support name) types args).eval (world decls depth) scope =
      some ((world decls depth).call (.data (.name (supportAlias ++ "." ++ name))) types vs) := by
  refine eval_call (eval_qualified hname |>.trans ?_) hargs
  obtain ⟨apply, happly⟩ := exists_world_eq decls depth
  rw [happly]
  rfl

/-- A function that reads without another one. -/
theorem call_reader {fn : String} {types : List String} {t : WireType}
    (h : readerType? decls fn types = some t) (field : String) (raw : Raw) :
    (world decls depth).call (.data (.name fn)) types [.data (.field field), .data (.document raw)] =
      Datum.results (t.fromRaw field raw) := by
  obtain ⟨apply, happly⟩ := exists_world_eq decls depth
  rw [happly]
  show ((readerType? decls fn types).map fun t => Datum.results (t.fromRaw field raw)).getD [] = _
  rw [h]
  rfl

/-- The function that reads a constant, by the one that knows the constants. -/
theorem call_enum {parser : String} {constants : List String}
    (h : parsed? decls parser = some constants) (field : String) (raw : Raw) :
    (world decls depth).call (.data (.name "runtime.EnumFromJSON")) []
        [.data (.field field), .data (.document raw), .data (.name parser)] =
      Datum.results ((WireType.enum constants).fromRaw field raw) := by
  obtain ⟨apply, happly⟩ := exists_world_eq decls depth
  rw [happly]
  show (if "runtime.EnumFromJSON" == "runtime.EnumFromJSON" then ((parsed? decls parser).map
    fun cs => Datum.results ((WireType.enum cs).fromRaw field raw)).getD [] else []) = _
  rw [beq_self_eq_true, if_pos rfl, h]
  rfl

theorem call_world_succ (fn : String) (types : List String) (args : List (Value Datum)) :
    (world decls (depth + 1)).call (.data (.name fn)) types args =
      called decls (applied (world decls depth)) fn types args := by
  rw [world]
  rfl

theorem global_world (name : String) : (world decls depth).global name = .data (.name name) := by
  obtain ⟨apply, happly⟩ := exists_world_eq decls depth
  rw [happly]
  rfl

/-- The conversion of a value that has the type already. -/
theorem convert_eq {type : String} {v : Wire.Value}
    (h : convertTo (underlying decls type) v = some v) :
    (world decls depth).convert type (.data (.value v)) = .data (.value v) := by
  obtain ⟨apply, happly⟩ := exists_world_eq decls depth
  rw [happly]
  show ((convertTo (underlying decls type) v).map fun v => Value.data (Datum.value v)).getD .nil = _
  rw [h]
  rfl

theorem eval_func (params : List Param) (results : List String) (body : List Stmt) :
    (Expr.func params results body).eval (world decls depth) scope =
      some [.data (.func params body)] := by
  obtain ⟨apply, happly⟩ := exists_world_eq decls depth
  rw [happly]
  rfl

end

end Support

/-- What an expression that is a function literal comes to. -/
noncomputable def Code.Expr.applied (w : World Datum) (args : List (Value Datum)) :
    Expr → Flow Datum
  | .func params _ body => Support.applied w params body args
  | _ => .stuck

end Shapewright
