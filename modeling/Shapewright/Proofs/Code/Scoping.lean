import Shapewright.Proofs.Code.Mentions
import Shapewright.Proofs.Naming

/-!
# Scopes in generated code

A function body is a block, and so are the branches of a condition and the bodies of function
literals.  A short definition has to introduce at least one name that its block does not have yet, a
variable declaration may only introduce such a name, and what is read has to be visible, in a block
around or outside of the function.

* `Visible`, `Resolves` — names that blocks have, and names that mean something.
* `Expr.Scoped`, `Stmt.Scoped`, `BodyScoped` — code that keeps to these rules.
* `blockAfter`, `bodyScoped_append` — the names of a block after some of its statements.
* `Expr.ClosedBy` — an expression that is fine wherever some names are visible.
* `Stmt.refers` — the names of packages, types, functions and values outside of the function that a
  statement refers to.  A variable of such a name hides what it meant.
* `Conversion.scoped_assign`, `Conversion.scoped_ret` — the statements of a conversion.
-/

set_option autoImplicit false

namespace Shapewright
namespace Code

/-! ## Names -/

/-- The name that a qualified name, a field or an item begins with. -/
def rootOf (name : String) : String :=
  String.ofList (name.toList.takeWhile fun c => c != '.' && c != '[')

theorem rootOf_eq_self {name : String} (hdot : '.' ∉ name.toList) (hbracket : '[' ∉ name.toList) :
    rootOf name = name := by
  rw [rootOf, List.takeWhile_eq_self_iff.2, String.ofList_toList]
  intro c hc
  rw [Bool.and_eq_true, bne_iff_ne, bne_iff_ne]
  exact ⟨fun h => hdot (h ▸ hc), fun h => hbracket (h ▸ hc)⟩

/-- Whether a character separates the names in the text of a type. -/
def isTypePunct (c : Char) : Bool := ['*', '[', ']', '\x7b', '\x7d'].contains c

/-- Letters and digits separate nothing. -/
theorem isTypePunct_of_isPlain {c : Char} (h : Naming.isPlain c = true) : isTypePunct c = false := by
  have hpunct : ['*', '[', ']', '\x7b', '\x7d'].all (!Naming.isPlain ·) = true := by decide
  rw [isTypePunct, List.contains_eq_mem, decide_eq_false_iff_not]
  intro hmem
  have hplain := List.all_eq_true.1 hpunct c hmem
  rw [h] at hplain
  cases hplain

/-- The words that are part of the text of a type and name nothing. -/
def typeWords : List String := ["", "map", "interface"]

/-- The names in the text of a type; of a type of another package the name of the package. -/
def typeNames (text : String) : List String :=
  ((text.toList.splitOnP isTypePunct).map fun w => rootOf (String.ofList w)).filter
    (!typeWords.contains ·)

/-! ## Blocks -/

/-- The names of the blocks around, the innermost first. -/
abbrev Blocks := List (List String)

/-- A block around has the name. -/
def Visible (Γ : Blocks) (name : String) : Prop := ∃ block ∈ Γ, name ∈ block

/-- A name means a variable around, or what is declared outside of the function. -/
def Resolves (outer : String → Prop) (Γ : Blocks) (name : String) : Prop :=
  Visible Γ name ∨ outer name

/-- The names in a type mean something. -/
def TypeScoped (outer : String → Prop) (Γ : Blocks) (text : String) : Prop :=
  ∀ name ∈ typeNames text, Resolves outer Γ name

/-- The names that a statement adds to its block. -/
def Stmt.introduces : Stmt → List String
  | .define names _ => names.filter (· != "_")
  | .var name _ _ => [name]
  | _ => []

mutual

/-- What an expression reads means something, and function literals keep to the rules. -/
def Expr.Scoped (outer : String → Prop) (Γ : Blocks) : Expr → Prop
  | .ident name => Resolves outer Γ (rootOf name)
  | .lit _ => True
  | .sel x _ | .unary _ x => x.Scoped outer Γ
  | .call fn types args =>
    fn.Scoped outer Γ ∧ (∀ t ∈ types, TypeScoped outer Γ t) ∧ ExprsScoped outer Γ args
  | .conv type x => TypeScoped outer Γ type ∧ x.Scoped outer Γ
  | .binary x _ y | .index x y => x.Scoped outer Γ ∧ y.Scoped outer Γ
  | .composite type fields => TypeScoped outer Γ type ∧ FieldsScoped outer Γ fields
  | .func params results body => (∀ t ∈ params.map (·.type) ++ results, TypeScoped outer Γ t) ∧
    BodyScoped outer (params.map (·.name)) Γ body

/-- Expressions one by one. -/
def ExprsScoped (outer : String → Prop) (Γ : Blocks) : List Expr → Prop
  | [] => True
  | x :: xs => x.Scoped outer Γ ∧ ExprsScoped outer Γ xs

/-- The fields of a composite literal one by one. -/
def FieldsScoped (outer : String → Prop) (Γ : Blocks) : List (String × Expr) → Prop
  | [] => True
  | (_, x) :: rest => x.Scoped outer Γ ∧ FieldsScoped outer Γ rest

/-- A statement keeps to the rules in a block that has some names already. -/
def Stmt.Scoped (outer : String → Prop) (block : List String) (Γ : Blocks) : Stmt → Prop
  | .define names values =>
    ExprsScoped outer (block :: Γ) values ∧ ∃ name ∈ names, name ≠ "_" ∧ name ∉ block
  | .assign names values =>
    ExprsScoped outer (block :: Γ) values ∧ ∀ name ∈ names, Visible (block :: Γ) (rootOf name)
  | .var name type value => TypeScoped outer (block :: Γ) type ∧ (match value with
    | none => True
    | some x => x.Scoped outer (block :: Γ)) ∧ name ∉ block
  | .branch none cond yes no => cond.Scoped outer ([] :: block :: Γ) ∧
    BodyScoped outer [] ([] :: block :: Γ) yes ∧ BodyScoped outer [] ([] :: block :: Γ) no
  | .branch (some init) cond yes no => init.Scoped outer [] (block :: Γ) ∧
    cond.Scoped outer (init.introduces :: block :: Γ) ∧
    BodyScoped outer [] (init.introduces :: block :: Γ) yes ∧
    BodyScoped outer [] (init.introduces :: block :: Γ) no
  | .ret values => ExprsScoped outer (block :: Γ) values
  | .eval x => x.Scoped outer (block :: Γ)
  | .comment _ => True
  | .switch tag cases fallback => (match tag with
    | none => True
    | some x => x.Scoped outer (block :: Γ)) ∧ CasesScoped outer (block :: Γ) cases ∧
    BodyScoped outer [] (block :: Γ) fallback

/-- The cases of a switch one by one, each of them a block. -/
def CasesScoped (outer : String → Prop) (Γ : Blocks) : List (List Expr × List Stmt) → Prop
  | [] => True
  | (values, body) :: rest => ExprsScoped outer Γ values ∧ BodyScoped outer [] Γ body ∧
    CasesScoped outer Γ rest

/-- Statements of a block one after the other. -/
def BodyScoped (outer : String → Prop) (block : List String) (Γ : Blocks) : List Stmt → Prop
  | [] => True
  | s :: rest => s.Scoped outer block Γ ∧ BodyScoped outer (s.introduces ++ block) Γ rest

end

-- The equations of the block are made here, once, rather than while the proofs below wait for them.
attribute [local simp] Expr.Scoped ExprsScoped FieldsScoped Stmt.Scoped CasesScoped BodyScoped

/-! ## References -/

/-- The variables that a statement declares with their types. -/
def Stmt.declares : Stmt → List String
  | .var name _ _ => [name]
  | _ => []

/-- The names of the functions that a call mentions. -/
def calledNames (fn : Expr) (args : List Expr) : List String :=
  (fn.called ++ handed fn args).filterMap fun
    | .function name => some (rootOf name)
    | .type _ => none

mutual

/-- The names outside of the function that an expression refers to. -/
def Expr.refers : Expr → List String
  | .ident name => if isQualified name then [rootOf name] else []
  | .lit text => if ["nil", "true", "false"].contains text then [text] else []
  | .sel x _ | .unary _ x => x.refers
  | .call fn types args =>
    calledNames fn args ++ types.flatMap typeNames ++ fn.refers ++ exprRefers args
  | .conv type x => typeNames type ++ x.refers
  | .binary x _ y | .index x y => x.refers ++ y.refers
  | .composite type fields => typeNames type ++ fieldRefers fields
  | .func params results body =>
    (params.map (·.type) ++ results).flatMap typeNames ++ bodyRefers body

/-- What expressions refer to. -/
def exprRefers : List Expr → List String
  | [] => []
  | x :: xs => x.refers ++ exprRefers xs

/-- What the fields of a composite literal refer to. -/
def fieldRefers : List (String × Expr) → List String
  | [] => []
  | (_, x) :: rest => x.refers ++ fieldRefers rest

/-- The names outside of the function that a statement refers to. -/
def Stmt.refers : Stmt → List String
  | .define _ values | .assign _ values | .ret values => exprRefers values
  | .var _ type value => typeNames type ++ (match value with
    | none => []
    | some x => x.refers)
  | .branch init cond yes no => (match init with
    | none => []
    | some s => s.refers) ++ cond.refers ++ bodyRefers yes ++ bodyRefers no
  | .eval x => x.refers
  | .comment _ => []
  | .switch tag cases fallback => (match tag with
    | none => []
    | some x => x.refers) ++ caseRefers cases ++ bodyRefers fallback

/-- What the cases of a switch refer to. -/
def caseRefers : List (List Expr × List Stmt) → List String
  | [] => []
  | (values, body) :: rest => exprRefers values ++ bodyRefers body ++ caseRefers rest

/-- What statements refer to. -/
def bodyRefers : List Stmt → List String
  | [] => []
  | s :: rest => s.refers ++ bodyRefers rest

end

theorem mem_bodyRefers {name : String} {body : List Stmt} :
    name ∈ bodyRefers body ↔ ∃ s ∈ body, name ∈ s.refers := by
  induction body with
  | nil => simp [bodyRefers]
  | cons s body ih => simp [bodyRefers, ih]

/-- A statement declares a variable of a name by which another one refers to something else. -/
def Stmt.Hides (s t : Stmt) : Prop := ∃ name ∈ s.declares, name ∈ t.refers

/-! ## Blocks, statement by statement -/

section

variable {outer : String → Prop} {Γ : Blocks} {block ns : List String}

theorem exprsScoped_iff {xs : List Expr} :
    ExprsScoped outer Γ xs ↔ ∀ x ∈ xs, x.Scoped outer Γ := by
  induction xs with
  | nil => simp [ExprsScoped]
  | cons x xs ih => rw [ExprsScoped, ih, List.forall_mem_cons]

theorem scoped_var_iff {name type : String} {value : Option Expr} :
    (Stmt.var name type value).Scoped outer block Γ ↔ TypeScoped outer (block :: Γ) type ∧
      (∀ x ∈ value, x.Scoped outer (block :: Γ)) ∧ name ∉ block := by
  cases value <;> simp [Stmt.Scoped]

/-- The names of a block after some of its statements. -/
def blockAfter (block : List String) : List Stmt → List String
  | [] => block
  | s :: rest => blockAfter (s.introduces ++ block) rest

theorem bodyScoped_append {xs ys : List Stmt} : BodyScoped outer block Γ (xs ++ ys) ↔
    BodyScoped outer block Γ xs ∧ BodyScoped outer (blockAfter block xs) Γ ys := by
  induction xs generalizing block with
  | nil => simp [BodyScoped, blockAfter]
  | cons s xs ih => rw [List.cons_append, BodyScoped, BodyScoped, blockAfter, ih, and_assoc]

theorem bodyScoped_singleton {s : Stmt} :
    BodyScoped outer block Γ [s] ↔ s.Scoped outer block Γ := by
  rw [BodyScoped, BodyScoped, and_true]

theorem visible_cons_iff {name : String} :
    Visible (block :: Γ) name ↔ name ∈ block ∨ Visible Γ name := by
  simp [Visible]

theorem Visible.cons {name : String} (h : Visible Γ name) : Visible (block :: Γ) name :=
  visible_cons_iff.2 (.inr h)

theorem visible_of_mem {name : String} (h : name ∈ block) : Visible (block :: Γ) name :=
  visible_cons_iff.2 (.inl h)

/-! ## Closed expressions -/

/-- The names in a type are declared outside. -/
def TypeOuter (outer : String → Prop) (text : String) : Prop := ∀ name ∈ typeNames text, outer name

theorem TypeOuter.scoped {text : String} (h : TypeOuter outer text) : TypeScoped outer Γ text :=
  fun name hname => .inr (h name hname)

/-- An expression is fine wherever some names are visible. -/
def Expr.ClosedBy (outer : String → Prop) (ns : List String) (x : Expr) : Prop :=
  ∀ Γ, (∀ n ∈ ns, Visible Γ n) → x.Scoped outer Γ

theorem closedBy_lit (text : String) : (Expr.lit text).ClosedBy outer ns :=
  fun _ _ => trivial

theorem closedBy_ident {name : String} (h : name ∈ ns) (hroot : rootOf name = name) :
    (Expr.ident name).ClosedBy outer ns := by
  intro Γ hΓ
  exact .inl (hroot.symm ▸ hΓ name h)

/-- A name of what is declared outside, possibly in another package. -/
theorem closedBy_outer {name : String} (h : outer (rootOf name)) :
    (Expr.ident name).ClosedBy outer ns :=
  fun _ _ => .inr h

theorem closedBy_call {fn : Expr} {types : List String} {args : List Expr}
    (hfn : fn.ClosedBy outer ns) (htypes : ∀ t ∈ types, TypeOuter outer t)
    (hargs : ∀ x ∈ args, x.ClosedBy outer ns) : (Expr.call fn types args).ClosedBy outer ns := by
  intro Γ hΓ
  exact ⟨hfn Γ hΓ, fun t ht => (htypes t ht).scoped, exprsScoped_iff.2 fun x hx => hargs x hx Γ hΓ⟩

theorem closedBy_conv {type : String} {x : Expr} (htype : TypeOuter outer type)
    (hx : x.ClosedBy outer ns) : (Expr.conv type x).ClosedBy outer ns :=
  fun Γ hΓ => ⟨htype.scoped, hx Γ hΓ⟩

theorem closedBy_empty {type : String} (htype : TypeOuter outer type) :
    (Expr.composite type []).ClosedBy outer ns :=
  fun _ _ => ⟨htype.scoped, trivial⟩

theorem closedBy_func {params : List Param} {results : List String} {body : List Stmt}
    (htypes : ∀ t ∈ params.map (·.type) ++ results, TypeOuter outer t)
    (hbody : ∀ Γ, BodyScoped outer (params.map (·.name)) Γ body) :
    (Expr.func params results body).ClosedBy outer ns :=
  fun Γ _ => ⟨fun t ht => (htypes t ht).scoped, hbody Γ⟩

/-- A name of the support package begins with the name of the package. -/
theorem rootOf_support (name : String) : rootOf (supportAlias ++ "." ++ name) = supportAlias := by
  have htake : (supportAlias ++ "." ++ name).toList.takeWhile (fun c => c != '.' && c != '[') =
      supportAlias.toList := by
    rw [String.toList_append, String.toList_append, List.append_assoc]
    simp [supportAlias]
  rw [rootOf, htake, String.ofList_toList]

theorem closedBy_support (h : outer supportAlias) (name : String) :
    (support name).ClosedBy outer ns :=
  closedBy_outer (by rwa [rootOf_support])

theorem closedBy_supportCall (h : outer supportAlias) {name : String} {args : List Expr}
    (hargs : ∀ x ∈ args, x.ClosedBy outer ns) : (supportCall name args).ClosedBy outer ns :=
  closedBy_call (closedBy_support h name) (by simp) hargs

/-- Leaving with an error needs only the error. -/
theorem scoped_returnOnError {zeros : List Expr} (hz : ∀ z ∈ zeros, z.ClosedBy outer [])
    (herr : Visible (block :: Γ) "err") : (Stmt.returnOnError zeros).Scoped outer block Γ := by
  have hroot : rootOf "err" = "err" := by decide
  have herr' : Resolves outer ([] :: block :: Γ) (rootOf "err") := .inl (hroot.symm ▸ herr.cons)
  refine ⟨⟨herr', trivial⟩, ?_, trivial⟩
  refine bodyScoped_singleton.2 (exprsScoped_iff.2 fun x hx => ?_)
  rcases List.mem_append.1 hx with hx | hx
  · exact hz x hx _ (by simp)
  · rw [List.mem_singleton.1 hx]
    exact .inl (hroot.symm ▸ herr.cons.cons)

end

end Code

/-! ## Conversions -/

namespace Conversion

open Code

variable {outer : String → Prop} {Γ : Blocks} {block ns : List String} {zeros : List Expr}

/-- A conversion is fine wherever some names are visible. -/
structure ClosedBy (outer : String → Prop) (ns : List String) (c : Conversion) : Prop where
  expr : c.expr.ClosedBy outer ns
  wrap : TypeOuter outer c.wrap

variable {c : Conversion}

theorem scoped_wrapped (h : TypeOuter outer c.wrap) {x : Expr} (hx : x.Scoped outer Γ) :
    (c.wrapped x).Scoped outer Γ := by
  rw [wrapped]
  split
  · exact hx
  · exact ⟨h.scoped, hx⟩

theorem rootOf_locals : ∀ name ∈ ["v", "err", "tmp", "raw", "ok", "r", "doc", "field", "s"],
    rootOf name = name := by decide

/-- A variable of generated code is read where it is declared. -/
theorem closedBy_local {name : String}
    (h : name ∈ ["v", "err", "tmp", "raw", "ok", "r", "doc", "field", "s"]) (hns : name ∈ ns) :
    (Expr.ident name).ClosedBy outer ns :=
  closedBy_ident hns (rootOf_locals name h)

theorem scoped_store {target : String} {pointer : Bool} {value : Expr}
    (hvalue : value.Scoped outer (block :: Γ)) (htarget : Visible Γ (rootOf target))
    (htmp : "tmp" ∉ block) : BodyScoped outer block Γ (store target pointer value) := by
  have hassign {block : List String} {x : Expr} (hx : x.Scoped outer (block :: Γ)) :
      BodyScoped outer block Γ [.assign [target] [x]] :=
    bodyScoped_singleton.2 ⟨⟨hx, trivial⟩, by simpa using htarget.cons⟩
  unfold store
  split
  · exact hassign hvalue
  · split
    · exact hassign hvalue
    · refine ⟨⟨⟨hvalue, trivial⟩, "tmp", by simp, by decide, htmp⟩, hassign (x := .addr _) ?_⟩
      have hroot := rootOf_locals "tmp" (by simp)
      exact .inl (visible_of_mem (by rw [hroot]; simp [Stmt.introduces]))

/-- Calling a fallible conversion and leaving if it fails. -/
theorem scoped_checked (h : c.expr.ClosedBy outer ns) (hns : ∀ n ∈ ns, Visible (block :: Γ) n)
    (hz : ∀ z ∈ zeros, z.ClosedBy outer []) (hv : "v" ∉ block) :
    BodyScoped outer block Γ (c.checked zeros) := by
  refine ⟨⟨⟨h _ hns, trivial⟩, "v", by simp, by decide, hv⟩, bodyScoped_singleton.2 ?_⟩
  exact scoped_returnOnError hz (visible_of_mem (by simp [Stmt.introduces]))

theorem blockAfter_checked : blockAfter block (c.checked zeros) = ["v", "err"] ++ block := rfl

/-- **Storing a converted value** keeps to the rules in a block of its own. -/
theorem scoped_assign (h : c.ClosedBy outer ns) (hns : ∀ n ∈ ns, Visible Γ n)
    (hz : ∀ z ∈ zeros, z.ClosedBy outer []) {target : String} (htarget : Visible Γ (rootOf target))
    (pointer : Bool) : BodyScoped outer [] Γ (c.assign target pointer zeros) := by
  have hns' : ∀ n ∈ ns, Visible ([] :: Γ) n := fun n hn => (hns n hn).cons
  unfold assign
  split
  · refine bodyScoped_append.2 ⟨scoped_checked h.expr hns' hz (by simp), ?_⟩
    rw [blockAfter_checked]
    refine scoped_store (scoped_wrapped h.wrap ?_) htarget (by simp)
    have hroot := rootOf_locals "v" (by simp)
    exact .inl (visible_of_mem (by rw [hroot]; simp))
  · exact scoped_store (scoped_wrapped h.wrap (h.expr _ hns')) htarget (by simp)

/-- **Returning a converted value** keeps to the rules in a block without a variable for it. -/
theorem scoped_ret (h : c.ClosedBy outer ns) (hns : ∀ n ∈ ns, n ∈ block) {zero : Expr}
    (hz : zero.ClosedBy outer []) (hv : "v" ∉ block) : BodyScoped outer block Γ (c.ret zero) := by
  have hns' : ∀ n ∈ ns, Visible (block :: Γ) n := fun n hn => visible_of_mem (hns n hn)
  unfold ret
  split
  · exact bodyScoped_singleton.2 ⟨scoped_wrapped h.wrap (h.expr _ hns'), trivial, trivial⟩
  · split
    · exact bodyScoped_singleton.2 ⟨h.expr _ hns', trivial⟩
    · refine bodyScoped_append.2 ⟨scoped_checked h.expr hns' (by simpa using hz) hv, ?_⟩
      rw [blockAfter_checked]
      refine bodyScoped_singleton.2 ⟨scoped_wrapped h.wrap ?_, trivial, trivial⟩
      have hroot := rootOf_locals "v" (by simp)
      exact .inl (visible_of_mem (by rw [hroot]; simp))

end Conversion
end Shapewright
