import Shapewright.Proofs.Code.Scoping

/-!
# Packages that code names

A file has to import each package that its code names, and may import no other.  An identifier or a
type of another package is written with the name of the package before a dot, and the text of a type
can have pointers, slices and maps around that.

* `packagesOf` — the packages that an identifier or the text of a type names.
* `Expr.words`, `Stmt.words`, `bodyWords` — the identifiers and types that code is written with.
* `bodyPackages` — the packages that statements name.
* `Expr.UsesOnly`, `Stmt.UsesOnly`, `Conversion.UsesOnly` — code that names only some packages.
* `Conversion.usesOnly_assign`, `Conversion.usesOnly_ret` — the statements of a conversion.

This differs from what code refers to (`Stmt.refers`) in that the package counts only where the dot
is: a variable may have the name of a package.
-/

set_option autoImplicit false

namespace Shapewright
namespace Code

/-! ## Texts -/

/-- The package that a word names, if it is qualified. -/
def qualifier? (word : List Char) : Option String :=
  if word.contains '.' then some (String.ofList (word.takeWhile (· != '.'))) else none

/-- The packages that an identifier or the text of a type names. -/
def packagesOf (text : String) : List String :=
  (text.toList.splitOnP isTypePunct).filterMap qualifier?

/-- The packages in a type that continues after a separator. -/
theorem packagesOf_append (init : String) (c : Char) {start : String}
    (hstart : start.toList = init.toList ++ [c]) (hc : isTypePunct c = true) (type : String) :
    packagesOf (start ++ type) = packagesOf init ++ packagesOf type := by
  rw [packagesOf, String.toList_append, hstart, List.append_assoc, List.singleton_append,
    List.splitOnP_append_cons _ _ hc, List.filterMap_append]
  rfl

@[simp] theorem packagesOf_pointer (type : String) : packagesOf ("*" ++ type) = packagesOf type :=
  packagesOf_append "" '*' (by decide) (by decide) type

@[simp] theorem packagesOf_slice (type : String) : packagesOf ("[]" ++ type) = packagesOf type :=
  packagesOf_append "[" ']' (by decide) (by decide) type

@[simp] theorem packagesOf_map (type : String) :
    packagesOf ("map[string]" ++ type) = packagesOf type :=
  packagesOf_append "map[string" ']' (by decide) (by decide) type

theorem packagesOf_of_word {text : String} (h : ∀ c ∈ text.toList, isTypePunct c = false) :
    packagesOf text = (qualifier? text.toList).toList := by
  rw [packagesOf, List.splitOnP_eq_singleton h, List.filterMap_cons]
  cases qualifier? text.toList <;> rfl

/-- A name of letters, digits and underscores names no package. -/
theorem packagesOf_of_plain {name : String}
    (h : ∀ c ∈ name.toList, Naming.isPlain c = true ∨ c = '_') : packagesOf name = [] := by
  have hpunct : ∀ c ∈ name.toList, isTypePunct c = false := by
    intro c hc
    rcases h c hc with hplain | rfl
    · exact isTypePunct_of_isPlain hplain
    · decide
  have hdot : name.toList.contains '.' = false := by
    rw [List.contains_eq_mem, decide_eq_false_iff_not]
    intro hmem
    rcases h '.' hmem with hplain | hmark
    · exact absurd hplain (by decide)
    · exact absurd hmark (by decide)
  rw [packagesOf_of_word hpunct, qualifier?, hdot]
  rfl

/-- A name of the support package names that package. -/
theorem packagesOf_support {name : String} (h : name.toList.all Naming.isPlain = true) :
    packagesOf (supportAlias ++ "." ++ name) = [supportAlias] := by
  have hname := List.all_eq_true.1 h
  have hpunct : ∀ c ∈ (supportAlias ++ "." ++ name).toList, isTypePunct c = false := by
    have hfixed : ((supportAlias ++ ".").toList.all fun c => !isTypePunct c) = true := by decide
    intro c hc
    rw [String.toList_append, List.mem_append] at hc
    rcases hc with hc | hc
    · simpa using List.all_eq_true.1 hfixed c hc
    · exact isTypePunct_of_isPlain (hname c hc)
  rw [packagesOf_of_word hpunct, qualifier?, if_pos (by simp), String.toList_append,
    String.toList_append, List.append_assoc]
  simp [supportAlias]

/-! ## Words -/

mutual

/-- The identifiers and types that an expression is written with. -/
def Expr.words : Expr → List String
  | .ident name => [name]
  | .lit _ => []
  | .sel x name => name :: x.words
  | .call fn types args => types ++ fn.words ++ exprWords args
  | .conv type x => type :: x.words
  | .unary _ x => x.words
  | .binary x _ y | .index x y => x.words ++ y.words
  | .composite type fields => type :: fieldWords fields
  | .func params results body =>
    params.map (·.name) ++ params.map (·.type) ++ results ++ bodyWords body

/-- The words of expressions. -/
def exprWords : List Expr → List String
  | [] => []
  | x :: xs => x.words ++ exprWords xs

/-- The words of the fields of a composite literal. -/
def fieldWords : List (String × Expr) → List String
  | [] => []
  | (_, x) :: rest => x.words ++ fieldWords rest

/-- The identifiers and types that a statement is written with. -/
def Stmt.words : Stmt → List String
  | .define names values | .assign names values => names ++ exprWords values
  | .var name type value => name :: type :: (match value with
    | none => []
    | some x => x.words)
  | .branch init cond yes no => (match init with
    | none => []
    | some s => s.words) ++ cond.words ++ bodyWords yes ++ bodyWords no
  | .ret values => exprWords values
  | .eval x => x.words
  | .comment _ => []
  | .switch tag cases fallback => (match tag with
    | none => []
    | some x => x.words) ++ caseWords cases ++ bodyWords fallback

/-- The words of the cases of a switch. -/
def caseWords : List (List Expr × List Stmt) → List String
  | [] => []
  | (values, body) :: rest => exprWords values ++ bodyWords body ++ caseWords rest

/-- The words of statements. -/
def bodyWords : List Stmt → List String
  | [] => []
  | s :: rest => s.words ++ bodyWords rest

end

-- The equations of the block are made here, once, rather than while the proofs below wait for them.
attribute [local simp] Expr.words exprWords fieldWords Stmt.words caseWords bodyWords

/-- The packages that an expression names. -/
def Expr.packages (x : Expr) : List String := x.words.flatMap packagesOf

/-- The packages that statements name. -/
def bodyPackages (ss : List Stmt) : List String := (bodyWords ss).flatMap packagesOf

theorem exprWords_eq (xs : List Expr) : exprWords xs = xs.flatMap Expr.words := by
  induction xs with
  | nil => rfl
  | cons x xs ih => rw [exprWords, ih, List.flatMap_cons]

theorem bodyWords_eq (ss : List Stmt) : bodyWords ss = ss.flatMap Stmt.words := by
  induction ss with
  | nil => rfl
  | cons s ss ih => rw [bodyWords, ih, List.flatMap_cons]

@[simp] theorem Stmt.words_define {names : List String} {values : List Expr} :
    (Stmt.define names values).words = names ++ values.flatMap Expr.words := by
  rw [Stmt.words, exprWords_eq]

@[simp] theorem Stmt.words_var {name type : String} {value : Option Expr} :
    (Stmt.var name type value).words = name :: type :: value.toList.flatMap Expr.words := by
  cases value <;> simp [Stmt.words]

@[simp] theorem Stmt.words_branch {init : Option Stmt} {cond : Expr} {yes no : List Stmt} :
    (Stmt.branch init cond yes no).words = init.toList.flatMap Stmt.words ++ cond.words ++
      yes.flatMap Stmt.words ++ no.flatMap Stmt.words := by
  cases init <;> simp [Stmt.words, bodyWords_eq]

/-! ## Code that names some packages only -/

variable {S : String → Prop}

/-- All packages that a text names are among some. -/
def Clear (S : String → Prop) (text : String) : Prop := ∀ p ∈ packagesOf text, S p

/-- All packages that an expression names are among some. -/
def Expr.UsesOnly (S : String → Prop) (x : Expr) : Prop := ∀ w ∈ x.words, Clear S w

/-- All packages that a statement names are among some. -/
def Stmt.UsesOnly (S : String → Prop) (s : Stmt) : Prop := ∀ w ∈ s.words, Clear S w

theorem Expr.usesOnly_iff {x : Expr} : x.UsesOnly S ↔ ∀ p ∈ x.packages, S p :=
  forall_mem_flatMap_iff.symm

theorem usesOnly_body_iff {ss : List Stmt} :
    (∀ s ∈ ss, s.UsesOnly S) ↔ ∀ p ∈ bodyPackages ss, S p := by
  rw [bodyPackages, bodyWords_eq, forall_mem_flatMap_iff, forall_mem_flatMap_iff]
  rfl

theorem clear_of_eq_nil {text : String} (h : packagesOf text = []) : Clear S text := by
  simp [Clear, h]

/-- The variables and types that generated code has of its own. -/
def ownTexts : List String :=
  ["", "r", "raw", "ok", "v", "err", "doc", "tmp", "s", "field", "string", "error",
   "interface\x7b\x7d"]

@[simp] theorem clear_own {text : String} (h : ownTexts.contains text = true) : Clear S text := by
  have hall : ∀ t ∈ ownTexts, packagesOf t = [] := by decide +kernel
  exact clear_of_eq_nil (hall text (List.contains_iff_mem.1 h))

@[simp] theorem clear_pointer {type : String} : Clear S ("*" ++ type) ↔ Clear S type := by
  rw [Clear, packagesOf_pointer, Clear]

@[simp] theorem clear_slice {type : String} : Clear S ("[]" ++ type) ↔ Clear S type := by
  rw [Clear, packagesOf_slice, Clear]

@[simp] theorem clear_map {type : String} : Clear S ("map[string]" ++ type) ↔ Clear S type := by
  rw [Clear, packagesOf_map, Clear]

/-! ### Expressions -/

@[simp] theorem usesOnly_ident {name : String} : (Expr.ident name).UsesOnly S ↔ Clear S name :=
  List.forall_mem_singleton

@[simp] theorem usesOnly_lit (text : String) : (Expr.lit text).UsesOnly S := nofun

@[simp] theorem usesOnly_nil : Expr.nil.UsesOnly S := usesOnly_lit _

@[simp] theorem usesOnly_str (text : String) : (Expr.str text).UsesOnly S := usesOnly_lit _

@[simp] theorem usesOnly_int (n : Int) : (Expr.int n).UsesOnly S := usesOnly_lit _

@[simp] theorem usesOnly_addr {x : Expr} : x.addr.UsesOnly S ↔ x.UsesOnly S := Iff.rfl

@[simp] theorem usesOnly_binary {x y : Expr} {op : String} :
    (Expr.binary x op y).UsesOnly S ↔ x.UsesOnly S ∧ y.UsesOnly S := List.forall_mem_append

@[simp] theorem usesOnly_conv {type : String} {x : Expr} :
    (Expr.conv type x).UsesOnly S ↔ Clear S type ∧ x.UsesOnly S := List.forall_mem_cons

@[simp] theorem usesOnly_empty {type : String} :
    (Expr.composite type []).UsesOnly S ↔ Clear S type := List.forall_mem_singleton

@[simp] theorem usesOnly_call {fn : Expr} {types : List String} {args : List Expr} :
    (Expr.call fn types args).UsesOnly S ↔
      (∀ t ∈ types, Clear S t) ∧ fn.UsesOnly S ∧ ∀ x ∈ args, x.UsesOnly S := by
  rw [Expr.UsesOnly, Expr.words, exprWords_eq]
  simp only [List.forall_mem_append, forall_mem_flatMap_iff, and_assoc]
  rfl

@[simp] theorem usesOnly_func {params : List Param} {results : List String} {body : List Stmt} :
    (Expr.func params results body).UsesOnly S ↔ (∀ p ∈ params, Clear S p.name) ∧
      (∀ p ∈ params, Clear S p.type) ∧ (∀ t ∈ results, Clear S t) ∧ ∀ s ∈ body, s.UsesOnly S := by
  rw [Expr.UsesOnly, Expr.words, bodyWords_eq]
  simp only [List.forall_mem_append, List.forall_mem_map, forall_mem_flatMap_iff, and_assoc]
  rfl

theorem usesOnly_support (h : S supportAlias) {name : String}
    (hname : name.toList.all Naming.isPlain = true) : (support name).UsesOnly S := by
  rw [support, usesOnly_ident, Clear, packagesOf_support hname]
  simpa using h

/-- A call of a function of the support package. -/
theorem usesOnly_supportCall (h : S supportAlias) {name : String}
    (hname : name.toList.all Naming.isPlain = true) {args : List Expr}
    (hargs : ∀ x ∈ args, x.UsesOnly S) : (supportCall name args).UsesOnly S :=
  usesOnly_call.2 ⟨by simp, usesOnly_support h hname, hargs⟩

/-- It names the support package. -/
theorem supportAlias_mem_packages {name : String} (hname : name.toList.all Naming.isPlain = true)
    (args : List Expr) : supportAlias ∈ (supportCall name args).packages := by
  refine List.mem_flatMap.2 ⟨supportAlias ++ "." ++ name, ?_, by simp [packagesOf_support hname]⟩
  exact List.mem_append_left _ (List.mem_singleton_self _)

/-! ### Statements -/

@[simp] theorem usesOnly_define {names : List String} {values : List Expr} :
    (Stmt.define names values).UsesOnly S ↔
      (∀ n ∈ names, Clear S n) ∧ ∀ x ∈ values, x.UsesOnly S := by
  rw [Stmt.UsesOnly, Stmt.words_define, List.forall_mem_append, forall_mem_flatMap_iff]
  rfl

@[simp] theorem usesOnly_assign {names : List String} {values : List Expr} :
    (Stmt.assign names values).UsesOnly S ↔
      (∀ n ∈ names, Clear S n) ∧ ∀ x ∈ values, x.UsesOnly S := by
  rw [Stmt.UsesOnly, Stmt.words, exprWords_eq, List.forall_mem_append, forall_mem_flatMap_iff]
  rfl

@[simp] theorem usesOnly_ret {values : List Expr} :
    (Stmt.ret values).UsesOnly S ↔ ∀ x ∈ values, x.UsesOnly S := by
  rw [Stmt.UsesOnly, Stmt.words, exprWords_eq, forall_mem_flatMap_iff]
  rfl

@[simp] theorem usesOnly_var {name type : String} {value : Option Expr} :
    (Stmt.var name type value).UsesOnly S ↔
      Clear S name ∧ Clear S type ∧ ∀ x ∈ value, x.UsesOnly S := by
  cases value <;> simp [Stmt.UsesOnly, Expr.UsesOnly]

@[simp] theorem usesOnly_branch {init : Option Stmt} {cond : Expr} {yes no : List Stmt} :
    (Stmt.branch init cond yes no).UsesOnly S ↔ (∀ s ∈ init, s.UsesOnly S) ∧ cond.UsesOnly S ∧
      (∀ s ∈ yes, s.UsesOnly S) ∧ ∀ s ∈ no, s.UsesOnly S := by
  rw [Stmt.UsesOnly, Stmt.words_branch]
  simp only [List.forall_mem_append, forall_mem_flatMap_iff, Option.mem_toList, and_assoc]
  rfl

theorem usesOnly_returnOnError {zeros : List Expr} (hz : ∀ z ∈ zeros, z.UsesOnly S) :
    (Stmt.returnOnError zeros).UsesOnly S := by
  simpa [Stmt.returnOnError, ownTexts, or_imp, forall_and] using hz

end Code

/-! ## Conversions -/

namespace Conversion

open Code

variable {S : String → Prop} {c : Conversion} {zeros : List Expr}

/-- All packages that a conversion names are among some. -/
def UsesOnly (S : String → Prop) (c : Conversion) : Prop := c.expr.UsesOnly S ∧ Clear S c.wrap

theorem usesOnly_wrapped (h : c.UsesOnly S) {x : Expr} (hx : x.UsesOnly S) :
    (c.wrapped x).UsesOnly S := by
  rw [wrapped]
  split
  · exact hx
  · exact usesOnly_conv.2 ⟨h.2, hx⟩

theorem usesOnly_store {target : String} (htarget : Clear S target) {pointer : Bool} {value : Expr}
    (h : value.UsesOnly S) : ∀ s ∈ store target pointer value, s.UsesOnly S := by
  unfold store
  split
  · simpa [htarget] using h
  · split
    · simpa [htarget] using h
    · simpa [htarget, ownTexts] using h

theorem usesOnly_checked (h : c.UsesOnly S) (hz : ∀ z ∈ zeros, z.UsesOnly S) :
    ∀ s ∈ c.checked zeros, s.UsesOnly S := by
  intro s hs
  rcases List.mem_cons.1 hs with rfl | hs
  · simpa [ownTexts] using h.1
  · rw [List.mem_singleton.1 hs]
    exact usesOnly_returnOnError hz

/-- Storing a converted value names the packages that the conversion names. -/
theorem usesOnly_assign (h : c.UsesOnly S) {target : String} (htarget : Clear S target)
    (pointer : Bool) (hz : ∀ z ∈ zeros, z.UsesOnly S) :
    ∀ s ∈ c.assign target pointer zeros, s.UsesOnly S := by
  have hv : (Expr.ident "v").UsesOnly S := by simp [ownTexts]
  unfold assign
  split
  · exact List.forall_mem_append.2
      ⟨usesOnly_checked h hz, usesOnly_store htarget (usesOnly_wrapped h hv)⟩
  · exact usesOnly_store htarget (usesOnly_wrapped h h.1)

/-- Returning a converted value names the packages that the conversion names. -/
theorem usesOnly_ret (h : c.UsesOnly S) {zero : Expr} (hz : zero.UsesOnly S) :
    ∀ s ∈ c.ret zero, s.UsesOnly S := by
  have hv : (Expr.ident "v").UsesOnly S := by simp [ownTexts]
  unfold ret
  split
  · simpa using usesOnly_wrapped h h.1
  · split
    · simpa using h.1
    · refine List.forall_mem_append.2 ⟨usesOnly_checked h (by simpa using hz), ?_⟩
      simpa using usesOnly_wrapped h hv

end Conversion
end Shapewright
