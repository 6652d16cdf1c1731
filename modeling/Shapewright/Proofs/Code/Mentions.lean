import Mathlib.Data.List.TakeWhile
import Shapewright.Proofs.Code.Semantics
import Shapewright.Representation.Conversion

/-!
# What code mentions

Generated code compiles only if the types and functions that it mentions are declared somewhere.
Types are kept as they are written, so the name of a type is what is left of its text when pointers,
slices and maps are taken away.

* `baseType`, `isOwnType`, `isOwnFunction` — the name in the text of a type, and whether a declaration
  has to be looked for.
* `Mention` — a type or a function that is mentioned.
* `Expr.mentions`, `Stmt.mentions`, `Function.mentions` — what is mentioned anywhere in code.
* `Vocabulary`, `Expr.Within`, `Stmt.Within`, `Function.Within` — code that mentions only what there
  is.

A function counts as mentioned where it is called, and where the support package is given one to read
constants with.  Any other identifier is a variable or a constant.
-/

set_option autoImplicit false

namespace Shapewright
namespace Code

/-! ## Types -/

/-- Whether a character ends a pointer, a slice or a map that is put in front of a type. -/
def isAround (c : Char) : Bool := c == '*' || c == ']'

/-- The type without the pointers, slices and maps around it: what is behind the last of them. -/
def baseType (type : String) : String :=
  String.ofList (type.toList.reverse.takeWhile (!isAround ·)).reverse

/-- The types that need no declaration. -/
def predeclared : List String :=
  ["any", "bool", "byte", "complex64", "complex128", "error", "float32", "float64", "int", "int8",
   "int16", "int32", "int64", "rune", "string", "uint", "uint8", "uint16", "uint32", "uint64",
   "uintptr", "interface\x7b\x7d"]

/-- Whether a type has a name that is neither predeclared nor of another package. -/
def isOwnType (name : String) : Bool :=
  name != "" && !predeclared.contains name && !isQualified name

/-- The functions that need no declaration. -/
def predeclaredFunctions : List String :=
  ["append", "cap", "clear", "close", "complex", "copy", "delete", "imag", "len", "make", "max",
   "min", "new", "panic", "print", "println", "real", "recover"]

/-- Whether a function is neither predeclared nor of another package, nor a method. -/
def isOwnFunction (name : String) : Bool :=
  !predeclaredFunctions.contains name && !isQualified name

theorem baseType_append {start : String} (h : start.toList.getLast?.any isAround = true)
    (type : String) : baseType (start ++ type) = baseType type := by
  obtain ⟨c, hc, haround⟩ := (Option.any_eq_true _ _).1 h
  obtain ⟨rest, hrest⟩ := List.getLast?_eq_some_iff.1 hc
  rw [baseType, baseType, String.toList_append, hrest, List.reverse_append, List.reverse_append]
  congr 2
  -- Whether or not the type itself has something around, nothing is taken beyond `c`.
  induction type.toList.reverse with
  | nil => simp [haround]
  | cons d ds ih =>
    rw [List.cons_append, List.takeWhile_cons, List.takeWhile_cons, ih]

@[simp] theorem baseType_pointer (type : String) : baseType ("*" ++ type) = baseType type :=
  baseType_append (by decide) type

@[simp] theorem baseType_slice (type : String) : baseType ("[]" ++ type) = baseType type :=
  baseType_append (by decide) type

@[simp] theorem baseType_map (type : String) : baseType ("map[string]" ++ type) = baseType type :=
  baseType_append (by decide) type

/-- A name has nothing around it. -/
theorem baseType_of_name {name : String} (h : ∀ c ∈ name.toList, isAround c = false) :
    baseType name = name := by
  rw [baseType, List.takeWhile_eq_self_iff.2 (by simpa using h), List.reverse_reverse,
    String.ofList_toList]

/-! ## Mentions -/

/-- A type or a function that code mentions, as it is written there. -/
inductive Mention where
  | type (text : String)
  | function (name : String)
  deriving DecidableEq, Repr

/-- The function that is called, if it has a name. -/
def Expr.called : Expr → List Mention
  | .ident name => [.function name]
  | _ => []

/-- The function that the support package is given to read constants with. -/
def handed : Expr → List Expr → List Mention
  | .ident name, [_, _, .ident reader] =>
    if name == "runtime.EnumFromJSON" then [.function reader] else []
  | _, _ => []

mutual

/-- What an expression mentions. -/
def Expr.mentions : Expr → List Mention
  | .ident _ | .lit _ => []
  | .sel x _ | .unary _ x => x.mentions
  | .call fn types args =>
    fn.called ++ handed fn args ++ types.map .type ++ fn.mentions ++ exprMentions args
  | .conv type x => .type type :: x.mentions
  | .binary x _ y | .index x y => x.mentions ++ y.mentions
  | .composite type fields => .type type :: fieldMentions fields
  | .func params results body =>
    (params.map (·.type) ++ results).map .type ++ bodyMentions body

/-- What expressions mention. -/
def exprMentions : List Expr → List Mention
  | [] => []
  | x :: xs => x.mentions ++ exprMentions xs

/-- What the fields of a composite literal mention. -/
def fieldMentions : List (String × Expr) → List Mention
  | [] => []
  | (_, x) :: rest => x.mentions ++ fieldMentions rest

/-- What a statement mentions. -/
def Stmt.mentions : Stmt → List Mention
  | .define _ values | .assign _ values | .ret values => exprMentions values
  | .var _ type value => .type type :: (match value with
    | none => []
    | some x => x.mentions)
  | .branch init cond yes no => (match init with
    | none => []
    | some s => s.mentions) ++ cond.mentions ++ bodyMentions yes ++ bodyMentions no
  | .eval x => x.mentions
  | .comment _ => []
  | .switch tag cases fallback => (match tag with
    | none => []
    | some x => x.mentions) ++ caseMentions cases ++ bodyMentions fallback

/-- What the cases of a switch mention. -/
def caseMentions : List (List Expr × List Stmt) → List Mention
  | [] => []
  | (values, body) :: rest => exprMentions values ++ bodyMentions body ++ caseMentions rest

/-- What statements mention. -/
def bodyMentions : List Stmt → List Mention
  | [] => []
  | s :: rest => s.mentions ++ bodyMentions rest

end

-- The equations of the block are made here, once, rather than while the proofs below wait for them.
attribute [local simp] Expr.mentions exprMentions fieldMentions Stmt.mentions caseMentions
  bodyMentions

/-- What a function mentions, in its head or in its body. -/
def Function.mentions (f : Function) : List Mention :=
  ((f.receiver.toList ++ f.params).map (·.type) ++ f.results).map .type ++ bodyMentions f.body

/-! ## Vocabularies -/

/-- The names of the types and functions that there are. -/
structure Vocabulary where
  types : String → Prop
  functions : String → Prop

variable {V : Vocabulary}

/-- What is mentioned is there, unless it is predeclared or of another package. -/
def Mention.Within (V : Vocabulary) : Mention → Prop
  | .type text => isOwnType (baseType text) = true → V.types (baseType text)
  | .function name => isOwnFunction name = true → V.functions name

/-- A type is there, unless it is predeclared or of another package. -/
def TypeWithin (V : Vocabulary) (text : String) : Prop := (Mention.type text).Within V

/-- An expression mentions what is there. -/
def Expr.Within (V : Vocabulary) (x : Expr) : Prop := ∀ m ∈ x.mentions, m.Within V

/-- A statement mentions what is there. -/
def Stmt.Within (V : Vocabulary) (s : Stmt) : Prop := ∀ m ∈ s.mentions, m.Within V

/-- A function mentions what is there. -/
def Function.Within (V : Vocabulary) (f : Function) : Prop := ∀ m ∈ f.mentions, m.Within V

/-- Types that generated code uses and does not declare, and none at all. -/
def foreign : List String :=
  ["", "bool", "string", "error", "int8", "int16", "int32", "int64", "float32", "float64", "[]byte",
   "interface\x7b\x7d", "map[string]interface\x7b\x7d", "time.Time", "*big.Int", "decimal.Decimal",
   "context.Context", "http.ResponseWriter", "*http.Request", "http.Handler", "runtime.UnitSpec",
   "runtime.NumberFormatter"]

theorem typeWithin_foreign {text : String} (h : text ∈ foreign) : TypeWithin V text := by
  have hall : ∀ t ∈ foreign, isOwnType (baseType t) = false := by decide +kernel
  intro hnamed
  rw [hall text h] at hnamed
  cases hnamed

@[simp] theorem typeWithin_pointer {type : String} :
    TypeWithin V ("*" ++ type) ↔ TypeWithin V type := by
  simp [TypeWithin, Mention.Within]

@[simp] theorem typeWithin_slice {type : String} :
    TypeWithin V ("[]" ++ type) ↔ TypeWithin V type := by
  simp [TypeWithin, Mention.Within]

@[simp] theorem typeWithin_map {type : String} :
    TypeWithin V ("map[string]" ++ type) ↔ TypeWithin V type := by
  simp [TypeWithin, Mention.Within]

/-! ### Expressions -/

theorem exprMentions_eq (xs : List Expr) : exprMentions xs = xs.flatMap Expr.mentions := by
  induction xs with
  | nil => rfl
  | cons x xs ih => rw [exprMentions, ih, List.flatMap_cons]

theorem bodyMentions_eq (ss : List Stmt) : bodyMentions ss = ss.flatMap Stmt.mentions := by
  induction ss with
  | nil => rfl
  | cons s ss ih => rw [bodyMentions, ih, List.flatMap_cons]

theorem fieldMentions_eq (fields : List (String × Expr)) :
    fieldMentions fields = fields.flatMap (·.2.mentions) := by
  induction fields with
  | nil => rfl
  | cons f fields ih => rw [fieldMentions, ih, List.flatMap_cons]

theorem caseMentions_eq (cases : List (List Expr × List Stmt)) : caseMentions cases =
    cases.flatMap fun c => c.1.flatMap Expr.mentions ++ c.2.flatMap Stmt.mentions := by
  induction cases with
  | nil => rfl
  | cons c cases ih =>
    rw [caseMentions, ih, List.flatMap_cons, exprMentions_eq, bodyMentions_eq]

/-- What is said of all mentions of a list's items is said of each item. -/
theorem forall_mem_flatMap_iff {α β : Type} {f : α → List β} {P : β → Prop} {xs : List α} :
    (∀ m ∈ xs.flatMap f, P m) ↔ ∀ x ∈ xs, ∀ m ∈ f x, P m := by
  simp only [List.mem_flatMap, forall_exists_index, and_imp]
  exact ⟨fun h x hx m hm => h m x hx hm, fun h m x hx hm => h x hx m hm⟩

@[simp] theorem within_ident (name : String) : (Expr.ident name).Within V := nofun

@[simp] theorem within_lit (text : String) : (Expr.lit text).Within V := nofun

@[simp] theorem within_nil : Expr.nil.Within V := within_lit _

@[simp] theorem within_str (text : String) : (Expr.str text).Within V := within_lit _

@[simp] theorem within_int (n : Int) : (Expr.int n).Within V := within_lit _

@[simp] theorem within_sel {x : Expr} {name : String} : (Expr.sel x name).Within V ↔ x.Within V :=
  Iff.rfl

@[simp] theorem within_unary {op : String} {x : Expr} : (Expr.unary op x).Within V ↔ x.Within V :=
  Iff.rfl

@[simp] theorem within_addr {x : Expr} : x.addr.Within V ↔ x.Within V := Iff.rfl

@[simp] theorem within_not {x : Expr} : x.not.Within V ↔ x.Within V := Iff.rfl

@[simp] theorem within_binary {x y : Expr} {op : String} :
    (Expr.binary x op y).Within V ↔ x.Within V ∧ y.Within V := List.forall_mem_append

@[simp] theorem within_conv {type : String} {x : Expr} :
    (Expr.conv type x).Within V ↔ TypeWithin V type ∧ x.Within V := List.forall_mem_cons

@[simp] theorem within_composite {type : String} {fields : List (String × Expr)} :
    (Expr.composite type fields).Within V ↔
      TypeWithin V type ∧ ∀ f ∈ fields, f.2.Within V := by
  rw [Expr.Within, Expr.mentions, fieldMentions_eq, List.forall_mem_cons, forall_mem_flatMap_iff]
  rfl

@[simp] theorem within_func {params : List Param} {results : List String} {body : List Stmt} :
    (Expr.func params results body).Within V ↔ (∀ p ∈ params, TypeWithin V p.type) ∧
      (∀ t ∈ results, TypeWithin V t) ∧ ∀ s ∈ body, s.Within V := by
  rw [Expr.Within, Expr.mentions, bodyMentions_eq, List.forall_mem_append, forall_mem_flatMap_iff]
  simp only [List.forall_mem_map, List.forall_mem_append, and_assoc]
  rfl

theorem within_call {fn : Expr} {types : List String} {args : List Expr} :
    (Expr.call fn types args).Within V ↔ (∀ m ∈ fn.called ++ handed fn args, m.Within V) ∧
      (∀ t ∈ types, TypeWithin V t) ∧ fn.Within V ∧ ∀ x ∈ args, x.Within V := by
  rw [Expr.Within, Expr.mentions, exprMentions_eq]
  simp only [List.forall_mem_append, forall_mem_flatMap_iff, List.forall_mem_map, and_assoc]
  rfl

/-- A call of a function of the support package, unless it is given one to read constants with. -/
theorem within_call_support {name : String} (hname : name ≠ "EnumFromJSON") {types : List String}
    {args : List Expr} : (Expr.call (support name) types args).Within V ↔
      (∀ t ∈ types, TypeWithin V t) ∧ ∀ x ∈ args, x.Within V := by
  have hforeign : isOwnFunction (supportAlias ++ "." ++ name) = false := by
    simp [isOwnFunction, isQualified, supportAlias]
  have hcalled : ∀ m ∈ (support name).called ++ handed (support name) args, m.Within V := by
    intro m hm
    have hother : (supportAlias ++ "." ++ name == "runtime.EnumFromJSON") = false := by
      have happ : "runtime.EnumFromJSON" = supportAlias ++ "." ++ "EnumFromJSON" := by decide
      rw [beq_eq_false_iff_ne, happ]
      exact fun h => hname ((String.append_right_inj _).1 h)
    have hhanded : handed (support name) args = [] := by
      unfold handed
      split
      · rename_i heq
        cases heq
        rw [hother]
        rfl
      · rfl
    rw [hhanded, List.append_nil, support, Expr.called, List.mem_singleton] at hm
    subst hm
    intro hown
    rw [hforeign] at hown
    cases hown
  rw [within_call, and_iff_right hcalled, support, and_iff_right (within_ident _)]

theorem within_supportCall {name : String} (hname : name ≠ "EnumFromJSON") {args : List Expr} :
    (supportCall name args).Within V ↔ ∀ x ∈ args, x.Within V := by
  rw [supportCall, within_call_support hname, and_iff_right]
  exact fun t ht => absurd ht (by simp)

@[simp] theorem within_support (name : String) : (support name).Within V := within_ident _

/-- A call of a named function of which nothing more is known. -/
theorem within_callOf {fn : String} {args : List Expr} (hfn : (Mention.function fn).Within V)
    (hargs : ∀ x ∈ args, x.Within V) (hplain : fn ≠ "runtime.EnumFromJSON") :
    (Expr.callOf fn args).Within V := by
  refine within_call.2 ⟨fun m hm => ?_, by simp, within_ident _, hargs⟩
  have hhanded : handed (.ident fn) args = [] := by
    unfold handed
    split
    · rename_i heq
      cases heq
      rw [beq_eq_false_iff_ne.2 hplain]
      rfl
    · rfl
  rw [hhanded, List.append_nil, Expr.called, List.mem_singleton] at hm
  exact hm ▸ hfn

/-- A call of a method. -/
@[simp] theorem within_method {x : Expr} {name : String} {args : List Expr} :
    (Expr.call (.sel x name) [] args).Within V ↔ x.Within V ∧ ∀ a ∈ args, a.Within V := by
  rw [within_call]
  simp [Expr.called, handed]

/-! ### Statements -/

@[simp] theorem within_define {names : List String} {values : List Expr} :
    (Stmt.define names values).Within V ↔ ∀ x ∈ values, x.Within V := by
  rw [Stmt.Within, Stmt.mentions, exprMentions_eq, forall_mem_flatMap_iff]
  rfl

@[simp] theorem within_assign {names : List String} {values : List Expr} :
    (Stmt.assign names values).Within V ↔ ∀ x ∈ values, x.Within V := by
  rw [Stmt.Within, Stmt.mentions, exprMentions_eq, forall_mem_flatMap_iff]
  rfl

@[simp] theorem within_ret {values : List Expr} :
    (Stmt.ret values).Within V ↔ ∀ x ∈ values, x.Within V := by
  rw [Stmt.Within, Stmt.mentions, exprMentions_eq, forall_mem_flatMap_iff]
  rfl

@[simp] theorem within_eval {x : Expr} : (Stmt.eval x).Within V ↔ x.Within V := Iff.rfl

@[simp] theorem within_var {name type : String} {value : Option Expr} :
    (Stmt.var name type value).Within V ↔ TypeWithin V type ∧ ∀ x ∈ value, x.Within V := by
  cases value with
  | none => simp [Stmt.Within, Stmt.mentions, TypeWithin]
  | some x => simp [Stmt.Within, Stmt.mentions, TypeWithin, Expr.Within]

@[simp] theorem within_branch {init : Option Stmt} {cond : Expr} {yes no : List Stmt} :
    (Stmt.branch init cond yes no).Within V ↔ (∀ s ∈ init, s.Within V) ∧ cond.Within V ∧
      (∀ s ∈ yes, s.Within V) ∧ ∀ s ∈ no, s.Within V := by
  have hbodies : (Stmt.branch init cond yes no).Within V ↔
      (∀ m ∈ init.toList.flatMap Stmt.mentions, m.Within V) ∧ cond.Within V ∧
        (∀ m ∈ yes.flatMap Stmt.mentions, m.Within V) ∧
        ∀ m ∈ no.flatMap Stmt.mentions, m.Within V := by
    rw [← bodyMentions_eq yes, ← bodyMentions_eq no]
    cases init <;> simp [Stmt.Within, Stmt.mentions, Expr.Within, or_imp, forall_and]
  simp only [hbodies, forall_mem_flatMap_iff, Option.mem_toList]
  rfl

@[simp] theorem within_switch {tag : Option Expr} {cases : List (List Expr × List Stmt)}
    {fallback : List Stmt} : (Stmt.switch tag cases fallback).Within V ↔
      (∀ x ∈ tag, x.Within V) ∧
      (∀ c ∈ cases, (∀ x ∈ c.1, x.Within V) ∧ ∀ s ∈ c.2, s.Within V) ∧
      ∀ s ∈ fallback, s.Within V := by
  have hbodies : (Stmt.switch tag cases fallback).Within V ↔
      (∀ m ∈ tag.toList.flatMap Expr.mentions, m.Within V) ∧
        (∀ m ∈ caseMentions cases, m.Within V) ∧
        ∀ m ∈ fallback.flatMap Stmt.mentions, m.Within V := by
    rw [← bodyMentions_eq]
    cases tag <;> simp [Stmt.Within, Stmt.mentions, or_imp, forall_and]
  simp only [hbodies, caseMentions_eq, List.forall_mem_append, forall_mem_flatMap_iff,
    Option.mem_toList]
  rfl

theorem within_returnOnError {zeros : List Expr} (h : ∀ z ∈ zeros, z.Within V) :
    (Stmt.returnOnError zeros).Within V := by
  simpa [Stmt.returnOnError, or_imp, forall_and] using h

/-! ### Functions -/

theorem Function.within_iff {f : Function} : f.Within V ↔
    (∀ p ∈ f.receiver, TypeWithin V p.type) ∧ (∀ p ∈ f.params, TypeWithin V p.type) ∧
      (∀ t ∈ f.results, TypeWithin V t) ∧ ∀ s ∈ f.body, s.Within V := by
  rw [Function.Within, Function.mentions, bodyMentions_eq]
  simp only [List.forall_mem_append, forall_mem_flatMap_iff, List.forall_mem_map, and_assoc,
    Option.mem_toList]
  rfl

end Code

/-! ## Conversions -/

namespace Conversion

open Code

variable {V : Vocabulary} {c : Conversion} {zeros : List Expr}

/-- A conversion mentions what there is. -/
def Within (V : Vocabulary) (c : Conversion) : Prop := c.expr.Within V ∧ TypeWithin V c.wrap

theorem within_wrapped (h : c.Within V) {x : Expr} (hx : x.Within V) : (c.wrapped x).Within V := by
  rw [wrapped]
  split
  · exact hx
  · exact within_conv.2 ⟨h.2, hx⟩

theorem within_store {target : String} {pointer : Bool} {value : Expr} (h : value.Within V) :
    ∀ s ∈ store target pointer value, s.Within V := by
  unfold store
  split
  · simpa using h
  · split
    · simpa using h
    · simpa using h

theorem within_checked (h : c.Within V) (hz : ∀ z ∈ zeros, z.Within V) :
    ∀ s ∈ c.checked zeros, s.Within V := by
  intro s hs
  rcases List.mem_cons.1 hs with rfl | hs
  · simpa using h.1
  · rw [List.mem_singleton.1 hs]
    exact within_returnOnError hz

/-- Storing a converted value mentions what the conversion mentions. -/
theorem within_assign (h : c.Within V) (target : String) (pointer : Bool)
    (hz : ∀ z ∈ zeros, z.Within V) : ∀ s ∈ c.assign target pointer zeros, s.Within V := by
  unfold assign
  split
  · refine List.forall_mem_append.2 ⟨within_checked h hz, within_store ?_⟩
    exact within_wrapped h (within_ident _)
  · exact within_store (within_wrapped h h.1)

/-- Returning a converted value mentions what the conversion mentions. -/
theorem within_ret (h : c.Within V) {zero : Expr} (hz : zero.Within V) :
    ∀ s ∈ c.ret zero, s.Within V := by
  unfold ret
  split
  · simpa using within_wrapped h h.1
  · split
    · simpa using h.1
    · refine List.forall_mem_append.2 ⟨within_checked h (by simpa using hz), ?_⟩
      simpa using within_wrapped h (within_ident _)

end Conversion
end Shapewright
