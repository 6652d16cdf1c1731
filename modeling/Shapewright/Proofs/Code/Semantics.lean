import Mathlib.Data.List.Nodup
import Shapewright.Code.Tree
import Shapewright.Text.Split

/-!
# What generated statements do

A meaning for the statements that generated functions consist of.  Calls, conversions and literals
mean whatever a `World` says they do; what the statements themselves do is fixed: which names they
introduce and for how long, where values are stored, and where control goes.

* `Value` — what a variable can hold: nothing, a truth value, the address of a variable, or data.
* `State` — the open blocks with the variables declared in them, and the cells that hold the values.
* `Scope` — what names stand for in a state.
* `Expr.eval` — the values of an expression; a call may have several.
* `Stmt.run`, `runAll` — what a statement leads to: a state, or the values that the function is left
  with.

A name is looked up in the open blocks, the innermost first.  A qualified name never is a variable.
-/

set_option autoImplicit false

namespace Shapewright
namespace Code

/-! ## States -/

/-- What a variable can hold. -/
inductive Value (δ : Type) where
  | nil
  | bool (b : Bool)
  /-- The address of the variable that has a cell. -/
  | addr (cell : Nat)
  | data (x : δ)
  deriving DecidableEq, Repr

/-- What the names of variables stand for: a cell and the value in it. -/
abbrev Scope (δ : Type) := String → Option (Nat × Value δ)

/-- Variables and their values. -/
structure State (δ : Type) where
  /-- The open blocks, the innermost first: variables with their cells. -/
  blocks : List (List (String × Nat)) := [[]]
  cells : Nat → Value δ := fun _ => .nil
  /-- The first cell that no variable has had. -/
  next : Nat := 0

namespace State

variable {δ : Type}

/-- The cell of a variable. -/
def cell? (s : State δ) (name : String) : Option Nat :=
  s.blocks.findSome? (·.lookup name)

/-- What the names of variables stand for. -/
def scope (s : State δ) : Scope δ := fun name =>
  (s.cell? name).map fun cell => (cell, s.cells cell)

/-- The innermost block. -/
def block (s : State δ) : List (String × Nat) := s.blocks.head?.getD []

/-- A new variable in the innermost block. -/
def declare (s : State δ) (name : String) (v : Value δ) : State δ :=
  { blocks := ((name, s.next) :: s.block) :: s.blocks.tail
    cells := fun cell => if cell = s.next then v else s.cells cell
    next := s.next + 1 }

/-- Stores a value in a cell. -/
def store (s : State δ) (cell : Nat) (v : Value δ) : State δ :=
  { s with cells := fun x => if x = cell then v else s.cells x }

/-- Introduces a variable. A name that the innermost block has already is only stored into. -/
def put (s : State δ) (name : String) (v : Value δ) : State δ :=
  match s.block.lookup name with
  | some cell => s.store cell v
  | none => s.declare name v

/-- Introduces variables, as many as there are values. -/
def define (s : State δ) : List String → List (Value δ) → Option (State δ)
  | [], [] => some s
  | name :: names, v :: vs => (s.put name v).define names vs
  | _, _ => none

/-- Stores values in variables, as many as there are. -/
def assign (s : State δ) : List String → List (Value δ) → Option (State δ)
  | [], [] => some s
  | name :: names, v :: vs => (s.cell? name).bind fun cell => (s.store cell v).assign names vs
  | _, _ => none

/-- Opens a block. -/
def push (s : State δ) : State δ := { s with blocks := [] :: s.blocks }

/-- Closes the innermost block. -/
def pop (s : State δ) : State δ := { s with blocks := s.blocks.tail }

end State

/-! ## Expressions -/

/-- What the program is about, beyond its statements. -/
structure World (δ : Type) where
  /-- What a name stands for that is no variable. -/
  global : String → Value δ
  literal : String → Value δ
  /-- The value of a variable that is declared without one. -/
  zero : String → Value δ
  call : Value δ → List String → List (Value δ) → List (Value δ)
  convert : String → Value δ → Value δ
  select : Value δ → String → Value δ
  unary : String → Value δ → Value δ
  binary : Value δ → String → Value δ → Value δ
  index : Value δ → Value δ → Value δ
  composite : String → List (String × Value δ) → Value δ
  closure : List Param → List String → List Stmt → Value δ

/-- Whether a type has a value that stands for absence. -/
def isNillable (type : String) : Bool :=
  Text.startsWith "*" type || Text.startsWith "[]" type || Text.startsWith "map[" type
    || type == "interface\x7b\x7d"

/-- The value of a variable that is declared without one. -/
def World.initial {δ : Type} (w : World δ) (type : String) : Value δ :=
  if isNillable type then .nil else w.zero type

/-- Whether a name is that of another package. -/
def isQualified (name : String) : Bool := name.toList.contains '.'

/-- The value of a name. -/
def World.read {δ : Type} (w : World δ) (scope : Scope δ) (name : String) : Value δ :=
  if isQualified name then w.global name else ((scope name).map (·.2)).getD (w.global name)

/-- The only value of an expression that has one. -/
def single {α : Type} : Option (List α) → Option α
  | some [v] => some v
  | _ => none

section

variable {δ : Type} [DecidableEq δ] (w : World δ) (scope : Scope δ)

mutual

/-- The values of an expression. -/
def Expr.eval : Expr → Option (List (Value δ))
  | .ident name => some [w.read scope name]
  | .lit text => some [if text == "nil" then .nil else w.literal text]
  | .sel x name => (single x.eval).map fun v => [w.select v name]
  | .call fn types args => do
    let f ← single fn.eval
    let vs ← evalAll args
    return w.call f types vs
  | .conv type x => (single x.eval).map fun v => [w.convert type v]
  | .unary op x =>
    match op, x with
    | "&", .ident name => (scope name).map fun e => [.addr e.1]
    | _, x => (single x.eval).map fun v => [w.unary op v]
  | .binary x op y => do
    let a ← single x.eval
    let b ← single y.eval
    return [if op == "!=" then .bool (a != b) else w.binary a op b]
  | .index x i => do
    let a ← single x.eval
    let b ← single i.eval
    return [w.index a b]
  | .composite type fields => (evalFields fields).map fun vs => [w.composite type vs]
  | .func params results body => some [w.closure params results body]

/-- The values of expressions that have one each. -/
def evalAll : List Expr → Option (List (Value δ))
  | [] => some []
  | x :: rest => do
    let v ← single x.eval
    let vs ← evalAll rest
    return v :: vs

/-- The values of the fields of a composite literal. -/
def evalFields : List (String × Expr) → Option (List (String × Value δ))
  | [] => some []
  | (key, x) :: rest => do
    let v ← single x.eval
    let vs ← evalFields rest
    return (key, v) :: vs

end

/-- The values of a list of expressions: of each its only one, or all those of a single call. -/
def results : List Expr → Option (List (Value δ))
  | [x] => x.eval w scope
  | xs => evalAll w scope xs

end

/-- Expressions that have one value each, the same wherever they stand. -/
def Constant (xs : List Expr) : Prop :=
  ∀ (δ : Type) [DecidableEq δ] (w : World δ), ∃ vs, ∀ scope, evalAll w scope xs = some vs

/-! ## Statements -/

/-- What running statements leads to. -/
inductive Flow (δ : Type) where
  | goesOn (s : State δ)
  /-- The function is left with values. -/
  | leaves (vs : List (Value δ))
  /-- The statements have no meaning. -/
  | stuck

namespace Flow

variable {δ : Type}

/-- Going on to a state, if there is one. -/
def ofState : Option (State δ) → Flow δ
  | some s => .goesOn s
  | none => .stuck

/-- What follows, unless the function has been left. -/
def andThen (f : Flow δ) (next : State δ → Flow δ) : Flow δ :=
  match f with
  | .goesOn s => next s
  | .leaves vs => .leaves vs
  | .stuck => .stuck

end Flow

section

variable {δ : Type} [DecidableEq δ] (w : World δ)

mutual

/-- Runs a statement. Cases on a value have no meaning here. -/
def Stmt.run : Stmt → State δ → Flow δ
  | .define names values, s => .ofState ((results w s.scope values).bind (s.define names))
  | .assign names values, s => .ofState ((results w s.scope values).bind (s.assign names))
  | .var name type value, s =>
    match value with
    | none => .goesOn (s.declare name (w.initial type))
    | some x => .ofState ((single (x.eval w s.scope)).map (s.declare name))
  | .branch init cond yes no, s =>
    -- The block of the condition is around those of both branches.
    (runInit init s.push).andThen fun s =>
      match single (cond.eval w s.scope) with
      | some (.bool true) => (runAll yes s.push).andThen fun s => .goesOn s.pop.pop
      | some (.bool false) => (runAll no s.push).andThen fun s => .goesOn s.pop.pop
      | _ => .stuck
  | .ret values, s =>
    match results w s.scope values with
    | some vs => .leaves vs
    | none => .stuck
  | .eval x, s => if (x.eval w s.scope).isSome then .goesOn s else .stuck
  | .comment _, s => .goesOn s
  | .switch .., _ => .stuck

/-- Runs the statement before a condition. -/
def runInit : Option Stmt → State δ → Flow δ
  | none, s => .goesOn s
  | some init, s => init.run s

/-- Runs statements one after the other. -/
def runAll : List Stmt → State δ → Flow δ
  | [], s => .goesOn s
  | x :: rest, s => (x.run s).andThen (runAll rest)

end

end

/-! ## States in which every variable has a cell of its own -/

namespace State

variable {δ : Type} {s : State δ}

/-- Every variable, be it visible or not, has a cell of its own that has been used. -/
structure Valid (s : State δ) : Prop where
  used : ∀ e ∈ s.blocks.flatten, e.2 < s.next
  apart : (s.blocks.flatten.map (·.2)).Nodup

theorem mem_of_cell? {name : String} {cell : Nat} (h : s.cell? name = some cell) :
    (name, cell) ∈ s.blocks.flatten := by
  obtain ⟨b, hb, hl⟩ := List.exists_of_findSome?_eq_some h
  obtain ⟨front, back, rfl, -⟩ := List.lookup_eq_some_iff.1 hl
  exact List.mem_flatten.2 ⟨_, hb, by simp⟩

theorem Valid.cell_lt (h : s.Valid) {name : String} {cell : Nat} (hc : s.cell? name = some cell) :
    cell < s.next :=
  h.used _ (mem_of_cell? hc)

theorem Valid.cell_ne (h : s.Valid) {x y : String} {c c' : Nat} (hxy : x ≠ y)
    (hx : s.cell? x = some c) (hy : s.cell? y = some c') : c ≠ c' := by
  rintro rfl
  have heq := List.inj_on_of_nodup_map h.apart (mem_of_cell? hx) (mem_of_cell? hy) rfl
  exact hxy (congrArg Prod.fst heq)

theorem cell?_eq_or (s : State δ) (name : String) :
    s.cell? name = (s.block.lookup name).or (s.blocks.tail.findSome? (·.lookup name)) := by
  cases hb : s.blocks with
  | nil => simp [cell?, block, hb]
  | cons b rest =>
    simp only [cell?, block, hb, List.findSome?_cons, List.head?_cons, Option.getD_some,
      List.tail_cons]
    cases b.lookup name <;> rfl

theorem cell?_congr {t : State δ} (h : s.blocks = t.blocks) (name : String) :
    s.cell? name = t.cell? name := by
  rw [cell?, h]
  rfl

theorem cell?_declare (s : State δ) (name : String) (v : Value δ) (x : String) :
    (s.declare name v).cell? x = if x = name then some s.next else s.cell? x := by
  rw [cell?_eq_or, cell?_eq_or s]
  by_cases hx : x = name
  · simp [declare, block, hx]
  · have hb : (x == name) = false := by simpa using hx
    simp [declare, block, hx, List.lookup_cons, hb]

theorem flatten_declare (s : State δ) (name : String) (v : Value δ) :
    (s.declare name v).blocks.flatten = (name, s.next) :: s.blocks.flatten := by
  cases hb : s.blocks <;> simp [declare, block, hb]

theorem Valid.declare (h : s.Valid) (name : String) (v : Value δ) : (s.declare name v).Valid := by
  constructor
  · intro e he
    rw [flatten_declare] at he
    rcases List.mem_cons.1 he with rfl | he
    · exact Nat.lt_succ_self _
    · exact Nat.lt_succ_of_lt (h.used e he)
  · rw [flatten_declare, List.map_cons, List.nodup_cons]
    refine ⟨fun hmem => ?_, h.apart⟩
    obtain ⟨e, he, heq⟩ := List.mem_map.1 hmem
    exact absurd (h.used e he) (by rw [heq]; exact Nat.lt_irrefl _)

theorem Valid.store (h : s.Valid) (cell : Nat) (v : Value δ) : (s.store cell v).Valid :=
  ⟨h.used, h.apart⟩

theorem Valid.push (h : s.Valid) : s.push.Valid := ⟨h.used, h.apart⟩

@[simp] theorem pop_push (s : State δ) : s.push.pop = s := rfl

/-! ## Introducing a variable -/

theorem Valid.put (h : s.Valid) (name : String) (v : Value δ) : (s.put name v).Valid := by
  rw [State.put]
  split
  · exact h.store _ v
  · exact h.declare name v

theorem tail_put (s : State δ) (name : String) (v : Value δ) :
    (s.put name v).blocks.tail = s.blocks.tail := by
  rw [put]
  split <;> rfl

theorem scope_eq_some_iff {name : String} {cell : Nat} {v : Value δ} :
    s.scope name = some (cell, v) ↔ s.cell? name = some cell ∧ s.cells cell = v := by
  simp only [scope, Option.map_eq_some_iff, Prod.mk.injEq]
  constructor
  · rintro ⟨c, hc, rfl, rfl⟩
    exact ⟨hc, rfl⟩
  · rintro ⟨hc, rfl⟩
    exact ⟨cell, hc, rfl, rfl⟩

theorem scope_declare_self (s : State δ) (name : String) (v : Value δ) :
    (s.declare name v).scope name = some (s.next, v) :=
  scope_eq_some_iff.2 ⟨by rw [cell?_declare, if_pos rfl], by simp [declare]⟩

theorem Valid.scope_declare_of_ne (h : s.Valid) {name x : String} (v : Value δ) (hx : x ≠ name) :
    (s.declare name v).scope x = s.scope x := by
  rw [scope, scope, cell?_declare, if_neg hx]
  cases hc : s.cell? x with
  | none => rfl
  | some c =>
    have hne : c ≠ s.next := Nat.ne_of_lt (h.cell_lt hc)
    simp [State.declare, hne]

theorem Valid.scope_store_of_ne (h : s.Valid) {name x : String} {cell : Nat} (v : Value δ)
    (hcell : s.cell? name = some cell) (hx : x ≠ name) : (s.store cell v).scope x = s.scope x := by
  have hcells : (s.store cell v).cell? x = s.cell? x := rfl
  rw [scope, scope, hcells]
  cases hc : s.cell? x with
  | none => rfl
  | some c =>
    have hne : c ≠ cell := h.cell_ne hx hc hcell
    simp [State.store, hne]

theorem scope_store_self {name : String} {cell : Nat} (v : Value δ)
    (hcell : s.cell? name = some cell) : (s.store cell v).scope name = some (cell, v) :=
  scope_eq_some_iff.2 ⟨hcell, by simp [store]⟩

theorem cell?_of_block {name : String} {cell : Nat} (h : s.block.lookup name = some cell) :
    s.cell? name = some cell := by
  rw [cell?_eq_or, h]
  rfl

/-- The name stands for the value from now on. -/
theorem exists_scope_put_self (s : State δ) (name : String) (v : Value δ) :
    ∃ cell, (s.put name v).scope name = some (cell, v) := by
  rw [put]
  split
  · rename_i cell hcell
    exact ⟨cell, scope_store_self v (cell?_of_block hcell)⟩
  · exact ⟨s.next, scope_declare_self s name v⟩

/-- Other names stand for what they stood for. -/
theorem Valid.scope_put_of_ne (h : s.Valid) {name x : String} (v : Value δ) (hx : x ≠ name) :
    (s.put name v).scope x = s.scope x := by
  rw [State.put]
  split
  · rename_i cell hcell
    exact h.scope_store_of_ne v (cell?_of_block hcell) hx
  · exact h.scope_declare_of_ne v hx

/-! ## States without certain values -/

/-- No cell holds one of the values. -/
def Avoids (s : State δ) (vs : List (Value δ)) : Prop := ∀ cell, s.cells cell ∉ vs

section

variable {vs : List (Value δ)} {v : Value δ}

theorem Avoids.declare (h : s.Avoids vs) (hv : v ∉ vs) (name : String) :
    (s.declare name v).Avoids vs := by
  intro cell
  simp only [State.declare]
  split
  · exact hv
  · exact h cell

theorem Avoids.store (h : s.Avoids vs) (hv : v ∉ vs) (cell : Nat) : (s.store cell v).Avoids vs := by
  intro x
  simp only [State.store]
  split
  · exact hv
  · exact h x

theorem Avoids.push (h : s.Avoids vs) : s.push.Avoids vs := h

theorem Avoids.put (h : s.Avoids vs) (hv : v ∉ vs) (name : String) : (s.put name v).Avoids vs := by
  rw [State.put]
  split
  · exact h.store hv _
  · exact h.declare hv name

theorem Avoids.scope (h : s.Avoids vs) {name : String} {e : Nat × Value δ}
    (he : s.scope name = some e) : e.2 ∉ vs := by
  rw [← (scope_eq_some_iff.1 he).2]
  exact h e.1

end

end State

/-! ## Running statements -/

section

variable {δ : Type} [DecidableEq δ] {w : World δ} {scope : Scope δ} {s : State δ}

theorem eval_ident {name : String} {cell : Nat} {v : Value δ} (hname : isQualified name = false)
    (h : scope name = some (cell, v)) : (Expr.ident name).eval w scope = some [v] := by
  show some [w.read scope name] = some [v]
  rw [World.read, hname, h]
  rfl

theorem eval_qualified {name : String} (h : isQualified name = true) :
    (Expr.ident name).eval w scope = some [w.global name] := by
  show some [w.read scope name] = some [w.global name]
  rw [World.read, if_pos h]

@[simp] theorem eval_nil : Expr.nil.eval w scope = some [.nil] := rfl

theorem eval_addr {name : String} {cell : Nat} {v : Value δ} (h : scope name = some (cell, v)) :
    (Expr.addr (.ident name)).eval w scope = some [.addr cell] := by
  show (scope name).map (fun e => [Value.addr e.1]) = some [.addr cell]
  rw [h]
  rfl

theorem eval_call {fn : Expr} {types : List String} {args : List Expr} {f : Value δ}
    {vs : List (Value δ)} (hf : fn.eval w scope = some [f])
    (hargs : evalAll w scope args = some vs) :
    (Expr.call fn types args).eval w scope = some (w.call f types vs) := by
  show ((single (fn.eval w scope)).bind fun f => (evalAll w scope args).bind fun vs =>
    some (w.call f types vs)) = _
  rw [hf, hargs]
  rfl

theorem eval_differs {x y : Expr} {a b : Value δ} (hx : x.eval w scope = some [a])
    (hy : y.eval w scope = some [b]) :
    (Expr.binary x "!=" y).eval w scope = some [.bool (a != b)] := by
  show ((single (x.eval w scope)).bind fun a => (single (y.eval w scope)).bind fun b =>
    some [Value.bool (a != b)]) = _
  rw [hx, hy]
  rfl

theorem eval_conv {type : String} {x : Expr} {v : Value δ} (h : x.eval w scope = some [v]) :
    (Expr.conv type x).eval w scope = some [w.convert type v] := by
  show (single (x.eval w scope)).map (fun v => [w.convert type v]) = _
  rw [h]
  rfl

theorem evalAll_eq_bind (x : Expr) (rest : List Expr) : evalAll w scope (x :: rest) =
    (single (x.eval w scope)).bind fun v => (evalAll w scope rest).bind fun vs => some (v :: vs) :=
  rfl

theorem evalAll_cons {x : Expr} {rest : List Expr} {v : Value δ} {vs : List (Value δ)}
    (h : x.eval w scope = some [v]) (hrest : evalAll w scope rest = some vs) :
    evalAll w scope (x :: rest) = some (v :: vs) := by
  rw [evalAll_eq_bind, h, hrest]
  rfl

theorem results_concat {zeros : List Expr} {x : Expr} {zs : List (Value δ)} {v : Value δ}
    (hz : evalAll w scope zeros = some zs) (hx : x.eval w scope = some [v]) :
    results w scope (zeros ++ [x]) = some (zs ++ [v]) := by
  have hall : ∀ (zeros : List Expr) (zs : List (Value δ)), evalAll w scope zeros = some zs →
      evalAll w scope (zeros ++ [x]) = some (zs ++ [v]) := by
    intro zeros
    induction zeros with
    | nil =>
      intro zs h
      cases h
      exact evalAll_cons hx rfl
    | cons z zeros ih =>
      intro zs h
      rw [evalAll_eq_bind] at h
      obtain ⟨u, hu, us, hus, rfl⟩ : ∃ u, single (z.eval w scope) = some u ∧
          ∃ us, evalAll w scope zeros = some us ∧ u :: us = zs := by
        simpa [Option.bind_eq_some_iff] using h
      rw [List.cons_append, evalAll_eq_bind, hu, ih us hus]
      rfl
  match zeros, hz with
  | [], hz =>
    cases hz
    exact hx
  | [z], hz => exact hall [z] zs hz
  | z :: z' :: rest, hz => exact hall _ zs hz

theorem runAll_cons (x : Stmt) (rest : List Stmt) (s : State δ) :
    runAll w (x :: rest) s = (x.run w s).andThen (runAll w rest) :=
  rfl

theorem runAll_append (xs ys : List Stmt) (s : State δ) :
    runAll w (xs ++ ys) s = (runAll w xs s).andThen (runAll w ys) := by
  induction xs generalizing s with
  | nil => rfl
  | cons x xs ih =>
    rw [List.cons_append, runAll_cons, runAll_cons]
    cases x.run w s with
    | goesOn s' => exact ih s'
    | leaves vs => rfl
    | stuck => rfl

theorem run_ret {values : List Expr} {vs : List (Value δ)}
    (h : results w s.scope values = some vs) : (Stmt.ret values).run w s = .leaves vs := by
  simp [Stmt.run, h]

theorem runInit_none (w : World δ) (s : State δ) : runInit w none s = .goesOn s := rfl

@[simp] theorem andThen_runAll_nil (f : Flow δ) : f.andThen (runAll w []) = f := by
  cases f <;> rfl

/-- A condition runs one of its branches in a block inside its own. -/
theorem run_branch {init : Option Stmt} {cond : Expr} {s₁ : State δ} {b : Bool} (yes no : List Stmt)
    (hinit : runInit w init s.push = .goesOn s₁) (h : cond.eval w s₁.scope = some [.bool b]) :
    (Stmt.branch init cond yes no).run w s
      = (runAll w (if b then yes else no) s₁.push).andThen fun t => .goesOn t.pop.pop := by
  rw [Stmt.run, hinit]
  cases b <;> simp [Flow.andThen, h, single]

/-- An error leaves the function, and no error goes on. -/
theorem run_returnOnError {zeros : List Expr} {zs : List (Value δ)} {cell : Nat} {e : Value δ}
    (hz : evalAll w s.scope zeros = some zs) (he : s.scope "err" = some (cell, e)) :
    (Stmt.returnOnError zeros).run w s = if e = .nil then .goesOn s else .leaves (zs ++ [e]) := by
  have herr : (Expr.ident "err").eval w s.scope = some [e] := eval_ident (by decide) he
  have hcond : (Expr.binary (.ident "err") "!=" .nil).eval w s.scope = some [.bool (e != .nil)] :=
    eval_differs herr eval_nil
  rw [Stmt.returnOnError, run_branch _ _ (runInit_none w s.push) hcond]
  by_cases hnil : e = .nil
  · simp [hnil, runAll, Flow.andThen]
  · have hne : (e != .nil) = true := by simpa using hnil
    have hret : results w s.push.push.scope (zeros ++ [.ident "err"]) = some (zs ++ [e]) :=
      results_concat hz herr
    rw [hne, if_neg hnil, if_pos rfl, runAll_cons, run_ret hret]
    rfl

end

end Code
end Shapewright
