import Shapewright.Proofs.Binding.Planning

/-!
# Generated code carries out its declaration

`Declaration.statements` is the code that binds one member.  This file says what running it leads
to, whatever the calls in it come to.

* `Conversion.run_assign_of_gives`, `run_assign_of_fails` — storing a converted value.
* `Declaration.Event`, `Declaration.Happens` — the ways in which the calls can come out.
* `Declaration.Realises` — where each of them has to lead, by the mode of the declaration.
* `Declaration.Planned.realises` — each of them leads there.
-/

set_option autoImplicit false

namespace Shapewright

open Code

/-! ## Names of the support package -/

section

variable {δ : Type} [DecidableEq δ] {w : World δ} {scope : Scope δ}

/-- What a name of the support package stands for. -/
def Code.World.support {δ : Type} (w : World δ) (name : String) : Value δ :=
  w.global (supportAlias ++ "." ++ name)

theorem eval_support {name : String} :
    (support name).eval w scope = some [w.support name] := by
  refine eval_qualified ?_
  simp [isQualified, supportAlias]

theorem eval_str {text : String} :
    (Expr.str text).eval w scope = some [w.literal (Text.quote text)] := by
  have hquote : Text.quote text ≠ "nil" := by
    intro h
    have hhead := congrArg (·.toList.head?) h
    simp [Text.quote] at hhead
  simp [Expr.str, Expr.eval, hquote]

end

/-! ## Storing a value -/

/-- What a call returns after its values: no error, if it can return one. -/
def noError {δ : Type} (fallible : Bool) : List (Value δ) := if fallible then [.nil] else []

/-- A cell holds a value, or the address of another one that does. -/
def Code.State.Holds {δ : Type} (s : State δ) (cell : Nat) (pointer : Bool) (v : Value δ) : Prop :=
  if pointer then ∃ inner, s.cells cell = .addr inner ∧ s.cells inner = v else s.cells cell = v

/-- Storing an address leaves what is at the address. -/
theorem Code.State.holds_store_addr {δ : Type} {s : State δ} {cell inner : Nat} {v : Value δ}
    (hv : s.cells inner = v) (hne : inner ≠ cell) :
    (s.store cell (.addr inner)).Holds cell true v := by
  refine ⟨inner, ?_, ?_⟩
  · simp [State.store]
  · simp [State.store, hne, hv]

namespace Conversion

variable {δ : Type} [DecidableEq δ] {w : World δ} {s : State δ}

/-- The value after its last conversion. -/
def finished (c : Conversion) (w : World δ) (v : Value δ) : Value δ :=
  if c.wrap == "" then v else w.convert c.wrap v

theorem run_assign_one {target : String} {x : Expr} {cell : Nat} {v : Value δ}
    (hx : x.eval w s.scope = some [v]) (hc : s.cell? target = some cell) :
    (Stmt.assign [target] [x]).run w s = .goesOn (s.store cell v) := by
  simp [Stmt.run, results, hx, State.assign, hc, Flow.ofState]

theorem run_define {names : List String} {x : Expr} {vs : List (Value δ)} {s' : State δ}
    (hx : x.eval w s.scope = some vs) (hs : s.define names vs = some s') :
    (Stmt.define names [x]).run w s = .goesOn s' := by
  simp [Stmt.run, results, hx, hs, Flow.ofState]

theorem run_store {target : String} {cell : Nat} {v : Value δ} (value : Expr) (pointer : Bool)
    (hs : s.Valid) (htarget : s.cell? target = some cell) (htmp : target ≠ "tmp")
    (hv : value.eval w s.scope = some [v])
    (hident : value.isIdent = true →
      ∃ name inner, value = .ident name ∧ name ≠ target ∧ s.scope name = some (inner, v)) :
    ∃ s', runAll w (store target pointer value) s = .goesOn s' ∧
      s'.blocks.tail = s.blocks.tail ∧ s'.Holds cell pointer v := by
  cases pointer with
  | false =>
    refine ⟨s.store cell v, ?_, rfl, ?_⟩
    · simp only [store, Bool.not_false, if_true, runAll, run_assign_one hv htarget]
      rfl
    · simp [State.Holds, State.store]
  | true =>
    cases hi : value.isIdent with
    | true =>
      obtain ⟨name, inner, rfl, hne, hname⟩ := hident hi
      obtain ⟨hcell, hvalue⟩ := State.scope_eq_some_iff.1 hname
      refine ⟨s.store cell (.addr inner), ?_, rfl,
        State.holds_store_addr hvalue (hs.cell_ne hne hcell htarget)⟩
      simp only [store, Bool.not_true, Bool.false_eq_true, if_false, hi, if_true, runAll,
        run_assign_one (eval_addr hname) htarget]
      rfl
    | false =>
      have hs' := hs.put "tmp" v
      obtain ⟨inner, htmp'⟩ := s.exists_scope_put_self "tmp" v
      obtain ⟨hcell, hvalue⟩ := State.scope_eq_some_iff.1 htmp'
      have htarget' : (s.put "tmp" v).cell? target = some cell := by
        have hscope := hs.scope_put_of_ne v htmp
        rw [State.scope_eq_some_iff.2 ⟨htarget, rfl⟩, State.scope_eq_some_iff] at hscope
        exact hscope.1
      refine ⟨(s.put "tmp" v).store cell (.addr inner), ?_, State.tail_put s "tmp" v,
        State.holds_store_addr hvalue (hs'.cell_ne (Ne.symm htmp) hcell htarget')⟩
      have hdefine : (Stmt.define ["tmp"] [value]).run w s = .goesOn (s.put "tmp" v) :=
        run_define hv rfl
      simp only [store, Bool.not_true, Bool.false_eq_true, if_false, hi, runAll, hdefine,
        Flow.andThen, run_assign_one (eval_addr htmp') htarget']

section

variable {c : Conversion} {target : String} {pointer : Bool} {zeros : List Expr}
  {zs : List (Value δ)} {v e : Value δ}

theorem run_checked (hz : ∀ scope, evalAll w scope zeros = some zs)
    (hc : c.expr.eval w s.scope = some [v, e]) :
    runAll w (c.checked zeros) s
      = if e = .nil then .goesOn ((s.put "v" v).put "err" e) else .leaves (zs ++ [e]) := by
  have hdefine : (Stmt.define ["v", "err"] [c.expr]).run w s
      = .goesOn ((s.put "v" v).put "err" e) := run_define hc rfl
  obtain ⟨cell, herr⟩ := (s.put "v" v).exists_scope_put_self "err" e
  rw [checked, runAll, hdefine, Flow.andThen, runAll, run_returnOnError (hz _) herr]
  split <;> rfl

/-- **A conversion that fails** leaves the function with its error. -/
theorem run_assign_of_fails (hz : ∀ scope, evalAll w scope zeros = some zs)
    (hfallible : c.fallible = true) (hc : c.expr.eval w s.scope = some [v, e]) (he : e ≠ .nil) :
    runAll w (c.assign target pointer zeros) s = .leaves (zs ++ [e]) := by
  rw [assign, if_pos hfallible, runAll_append, run_checked hz hc, if_neg he]
  rfl

theorem eval_wrapped {scope : Scope δ} {x : Expr} (hx : x.eval w scope = some [v]) :
    (c.wrapped x).eval w scope = some [c.finished w v] := by
  rw [wrapped, finished]
  split
  · exact hx
  · exact eval_conv hx

theorem eq_ident_of_isIdent_wrapped {x : Expr} (h : (c.wrapped x).isIdent = true) :
    c.wrapped x = x ∧ c.wrap = "" := by
  rw [wrapped] at h ⊢
  split at h
  · rename_i hwrap
    rw [if_pos hwrap]
    exact ⟨rfl, by simpa using hwrap⟩
  · cases h

/-- **A conversion that succeeds** stores what it gives. -/
theorem run_assign_of_gives (pointer : Bool) (hz : ∀ scope, evalAll w scope zeros = some zs)
    (hs : s.Valid) {cell : Nat} (htarget : s.cell? target = some cell)
    (hfresh : target ∉ ["v", "err", "tmp"])
    (hc : c.expr.eval w s.scope = some (v :: noError c.fallible))
    (hident : c.expr.isIdent = true →
      ∃ name inner, c.expr = .ident name ∧ name ≠ target ∧ s.scope name = some (inner, v)) :
    ∃ s', runAll w (c.assign target pointer zeros) s = .goesOn s' ∧
      s'.blocks.tail = s.blocks.tail ∧ s'.Holds cell pointer (c.finished w v) := by
  simp only [List.mem_cons, List.not_mem_nil, or_false, not_or] at hfresh
  obtain ⟨hv, herr, htmp⟩ := hfresh
  cases hf : c.fallible with
  | false =>
    rw [hf] at hc
    rw [assign, hf, if_neg (by simp)]
    refine run_store _ pointer hs htarget htmp (eval_wrapped hc) fun hi => ?_
    obtain ⟨heq, hwrap⟩ := eq_ident_of_isIdent_wrapped hi
    rw [heq] at hi ⊢
    simpa [finished, hwrap] using hident hi
  | true =>
    rw [hf] at hc
    -- The value is in a variable of its own now, and the target is as visible as before.
    have hs' := (hs.put "v" v).put "err" .nil
    obtain ⟨inner, hput⟩ := s.exists_scope_put_self "v" v
    have hscope : ∀ x, x ≠ "err" → ((s.put "v" v).put "err" .nil).scope x = (s.put "v" v).scope x :=
      fun x hx => (hs.put "v" v).scope_put_of_ne .nil hx
    have hvscope : ((s.put "v" v).put "err" .nil).scope "v" = some (inner, v) :=
      (hscope "v" (by decide)).trans hput
    have htarget' : ((s.put "v" v).put "err" .nil).cell? target = some cell := by
      have h := (hscope target herr).trans (hs.scope_put_of_ne v hv)
      rw [State.scope_eq_some_iff.2 ⟨htarget, rfl⟩, State.scope_eq_some_iff] at h
      exact h.1
    obtain ⟨s', hrun, htail, hholds⟩ := run_store (c.wrapped (.ident "v")) pointer hs' htarget'
      htmp (eval_wrapped (eval_ident (by decide) hvscope)) fun hi => by
        obtain ⟨heq, hwrap⟩ := eq_ident_of_isIdent_wrapped hi
        refine ⟨"v", inner, heq, Ne.symm hv, ?_⟩
        simpa [finished, hwrap] using hvscope
    refine ⟨s', ?_, ?_, hholds⟩
    · rw [assign, if_pos hf, runAll_append, run_checked hz hc, if_pos rfl]
      exact hrun
    · rw [htail, State.tail_put, State.tail_put]

end

end Conversion

/-- A variable holds a value, or the address of another one that does. -/
def Code.State.Binds {δ : Type} (s : State δ) (name : String) (pointer : Bool) (v : Value δ) :
    Prop :=
  ∃ cell, s.cell? name = some cell ∧ s.Holds cell pointer v

namespace Declaration

/-! ## What can happen, and where it leads -/

/-- The ways in which the calls of a declaration can come out. -/
inductive Event (δ : Type) where
  | extractionFails (e : Value δ)
  /-- There is no raw value. -/
  | absent
  | conversionFails (raw e : Value δ)
  | converts (raw v : Value δ)

section

variable {δ : Type} [DecidableEq δ] (d : Declaration) (w : World δ) (s : State δ) (v₀ : Value δ)

/-- The value that the variable is declared with: the default, or else the one of its type. -/
def Starts : Prop :=
  match d.default? with
  | none => v₀ = w.initial d.type
  | some x => x.eval w s.scope = some [v₀]

/-- The state in which the raw value is converted, with the variables that have come up so far. -/
def converting (raw ok : Value δ) : State δ :=
  let declared := s.declare d.var v₀
  if d.extraction.fallible then ((declared.put "raw" raw).put "ok" ok).put "err" .nil
  else (declared.push.put "raw" raw).put "ok" ok

/-- The extraction gives a raw value and whether there is one, and no error. -/
def Extracts (raw : Value δ) (ok : Bool) : Prop :=
  d.extraction.expr.eval w (s.declare d.var v₀).scope
    = some (raw :: .bool ok :: noError d.extraction.fallible)

/-- The calls come out in a certain way. Only what is fallible can fail, and an error is not nil. -/
def Happens : Event δ → Prop
  | .extractionFails e => d.extraction.fallible = true ∧ e ≠ .nil ∧
      ∃ raw ok, d.extraction.expr.eval w (s.declare d.var v₀).scope = some [raw, ok, e]
  | .absent => ∃ raw, d.Extracts w s v₀ raw false
  | .conversionFails raw e => d.Extracts w s v₀ raw true ∧ d.convert.fallible = true ∧ e ≠ .nil ∧
      ∃ v, d.convert.expr.eval w (d.converting s v₀ raw (.bool true)).scope = some [v, e]
  | .converts raw v => d.Extracts w s v₀ raw true ∧
      d.convert.expr.eval w (d.converting s v₀ raw (.bool true)).scope
        = some (v :: noError d.convert.fallible)

/-- The error for a member that has to have a value. -/
def Missing (missing : Value δ) : Prop :=
  w.call (w.support "MissingField") [] [w.literal (Text.quote d.name), w.support d.origin.constant]
    = [missing]

/-- Where the statements have to lead, if failures return `zs` and an error. -/
def Realises (zs : List (Value δ)) : Event δ → Flow δ → Prop
  | .extractionFails e, flow => flow = .leaves (zs ++ [e])
  | .absent, flow => match d.mode with
    | .orThrow => ∀ missing, d.Missing w missing → flow = .leaves (zs ++ [missing])
    | .withDefault => ∃ x v s', d.default? = some x ∧ x.eval w s.scope = some [v] ∧
        flow = .goesOn s' ∧ s'.Binds d.var false v
    | .nullable => ∃ s', flow = .goesOn s' ∧ s'.Binds d.var false .nil
  | .conversionFails _ e, flow => flow = .leaves (zs ++ [e])
  | .converts _ v, flow =>
    ∃ s', flow = .goesOn s' ∧ s'.Binds d.var d.pointer (d.convert.finished w v)

end

/-! ## Running the statements -/

section

variable {δ : Type} {d : Declaration} {s : State δ} {v₀ : Value δ}

/-- The names that generated code uses itself are no variable's. -/
theorem ne_of_not_mem_reserved (h : d.var ∉ reserved) : d.var ≠ "raw" ∧ d.var ≠ "ok" ∧
    d.var ≠ "v" ∧ d.var ≠ "err" ∧ d.var ≠ "tmp" := by
  simp only [reserved, List.mem_cons, not_or] at h
  exact ⟨h.2.1, h.2.2.1, h.2.2.2.1, h.2.2.2.2.1, h.2.2.2.2.2.2.1⟩

theorem converting_of_fallible (hf : d.extraction.fallible = true) (v₀ raw ok : Value δ) :
    d.converting s v₀ raw ok
      = (((s.declare d.var v₀).put "raw" raw).put "ok" ok).put "err" .nil := by
  rw [converting, hf]
  rfl

theorem converting_of_infallible (hf : d.extraction.fallible = false) (v₀ raw ok : Value δ) :
    d.converting s v₀ raw ok = ((s.declare d.var v₀).push.put "raw" raw).put "ok" ok := by
  rw [converting, hf]
  rfl

theorem valid_converting (hs : s.Valid) (d : Declaration) (v₀ raw ok : Value δ) :
    (d.converting s v₀ raw ok).Valid := by
  have hdecl := hs.declare d.var v₀
  rw [converting]
  split
  · exact ((hdecl.put "raw" raw).put "ok" ok).put "err" .nil
  · exact (hdecl.push.put "raw" raw).put "ok" ok

/-- What the names stand for when the raw value is converted. -/
theorem scope_converting (hs : s.Valid) (hvar : d.var ∉ reserved) (v₀ raw ok : Value δ) :
    (∃ cell, (d.converting s v₀ raw ok).scope "raw" = some (cell, raw)) ∧
    (∃ cell, (d.converting s v₀ raw ok).scope "ok" = some (cell, ok)) ∧
    (d.converting s v₀ raw ok).scope d.var = some (s.next, v₀) := by
  obtain ⟨hraw, hok, -, herr, -⟩ := ne_of_not_mem_reserved hvar
  have hdecl := hs.declare d.var v₀
  have hself := s.scope_declare_self d.var v₀
  have hboth : ∀ t : State δ, t.Valid → t.scope d.var = some (s.next, v₀) →
      (∃ cell, ((t.put "raw" raw).put "ok" ok).scope "raw" = some (cell, raw)) ∧
      (∃ cell, ((t.put "raw" raw).put "ok" ok).scope "ok" = some (cell, ok)) ∧
      ((t.put "raw" raw).put "ok" ok).scope d.var = some (s.next, v₀) := by
    intro t ht hvar'
    refine ⟨?_, (t.put "raw" raw).exists_scope_put_self "ok" ok, ?_⟩
    · rw [(ht.put "raw" raw).scope_put_of_ne ok (by decide)]
      exact t.exists_scope_put_self "raw" raw
    · rw [(ht.put "raw" raw).scope_put_of_ne ok hok, ht.scope_put_of_ne raw hraw, hvar']
  rw [converting]
  split
  · have hvalid := (hdecl.put "raw" raw).put "ok" ok
    obtain ⟨h₁, h₂, h₃⟩ := hboth _ hdecl hself
    rw [hvalid.scope_put_of_ne .nil (by decide), hvalid.scope_put_of_ne .nil (by decide),
      hvalid.scope_put_of_ne .nil herr]
    exact ⟨h₁, h₂, h₃⟩
  · exact hboth _ hdecl.push hself

variable [DecidableEq δ] {w : World δ} {zeros : List Expr} {zs : List (Value δ)}

theorem run_var (h : d.Starts w s v₀) :
    (Stmt.var d.var d.type d.default?).run w s = .goesOn (s.declare d.var v₀) := by
  rw [Starts] at h
  cases hd : d.default? with
  | none =>
    rw [hd] at h
    rw [h]
    rfl
  | some x =>
    rw [hd] at h
    simp only at h
    simp [Stmt.run, h, single, Flow.ofState]

/-- **An extraction that fails** leaves the function with its error. -/
theorem run_statements_of_extractionFails (hz : ∀ scope, evalAll w scope zeros = some zs)
    (hstart : d.Starts w s v₀) (hf : d.extraction.fallible = true) {raw ok e : Value δ}
    (he : e ≠ .nil)
    (hext : d.extraction.expr.eval w (s.declare d.var v₀).scope = some [raw, ok, e]) :
    runAll w (d.statements zeros) s = .leaves (zs ++ [e]) := by
  have hdefine : (Stmt.define ["raw", "ok", "err"] [d.extraction.expr]).run w (s.declare d.var v₀)
      = .goesOn ((((s.declare d.var v₀).put "raw" raw).put "ok" ok).put "err" e) :=
    Conversion.run_define hext rfl
  obtain ⟨cell, herr⟩ := State.exists_scope_put_self
    (((s.declare d.var v₀).put "raw" raw).put "ok" ok) "err" e
  rw [statements, hf, if_pos rfl, runAll, run_var hstart, Flow.andThen, runAll, hdefine,
    Flow.andThen, runAll, run_returnOnError (hz _) herr, if_neg he]
  rfl

theorem eval_missing {missing : Value δ} (h : d.Missing w missing) (scope : Scope δ) :
    (supportCall "MissingField" [.str d.name, support d.origin.constant]).eval w scope
      = some [missing] := by
  rw [Missing] at h
  rw [← h]
  exact eval_call eval_support (evalAll_cons eval_str (evalAll_cons eval_support rfl))

section

variable (hs : s.Valid) (hvar : d.var ∉ reserved) (hz : ∀ scope, evalAll w scope zeros = some zs)
  (hstart : d.Starts w s v₀) {raw : Value δ}

include hs hvar hstart

/-- What cannot fail is extracted in the block of the condition. -/
theorem run_statements_of_infallible (hf : d.extraction.fallible = false) {ok : Bool}
    (hext : d.Extracts w s v₀ raw ok) :
    runAll w (d.statements zeros) s
      = (runAll w (if ok then d.convert.assign d.var d.pointer zeros else d.absent zeros)
          (d.converting s v₀ raw (.bool ok)).push).andThen fun t => .goesOn t.pop.pop := by
  obtain ⟨-, ⟨cell, hok⟩, -⟩ := scope_converting hs hvar v₀ raw (.bool ok)
  have hinit : runInit w (some (.define ["raw", "ok"] [d.extraction.expr]))
      (s.declare d.var v₀).push = .goesOn (d.converting s v₀ raw (.bool ok)) := by
    rw [Extracts, hf] at hext
    rw [converting_of_infallible hf]
    exact Conversion.run_define hext rfl
  rw [statements, hf, if_neg (by simp), runAll, run_var hstart, Flow.andThen, runAll,
    run_branch _ _ hinit (eval_ident (by decide) hok), andThen_runAll_nil]

include hz in
/-- What can fail is extracted before the condition, and its error is looked at. -/
theorem run_statements_of_fallible (hf : d.extraction.fallible = true) {ok : Bool}
    (hext : d.Extracts w s v₀ raw ok) :
    runAll w (d.statements zeros) s
      = (runAll w (if ok then d.convert.assign d.var d.pointer zeros else d.absent zeros)
          (d.converting s v₀ raw (.bool ok)).push.push).andThen fun t => .goesOn t.pop.pop := by
  obtain ⟨-, ⟨cell, hok⟩, -⟩ := scope_converting hs hvar v₀ raw (.bool ok)
  have hconv := converting_of_fallible (s := s) hf v₀ raw (.bool ok)
  have hdefine : (Stmt.define ["raw", "ok", "err"] [d.extraction.expr]).run w
      (s.declare d.var v₀) = .goesOn (d.converting s v₀ raw (.bool ok)) := by
    rw [Extracts, hf] at hext
    rw [hconv]
    exact Conversion.run_define hext rfl
  obtain ⟨cell', herr⟩ : ∃ cell', (d.converting s v₀ raw (.bool ok)).scope "err"
      = some (cell', .nil) := by
    rw [hconv]
    exact State.exists_scope_put_self _ "err" .nil
  rw [statements, hf, if_pos rfl, runAll, run_var hstart, Flow.andThen, runAll, hdefine,
    Flow.andThen, runAll, run_returnOnError (hz _) herr, if_pos rfl, Flow.andThen, runAll,
    run_branch _ _ (runInit_none w _) (eval_ident (by decide) hok), andThen_runAll_nil]

include hz

/-- **Running the statements** comes down to one of the branches, once there is an answer whether
there is a raw value. -/
theorem run_statements_of_extracts {ok : Bool} (hext : d.Extracts w s v₀ raw ok) :
    ∃ inner : State δ, inner.Valid ∧ inner.scope = (d.converting s v₀ raw (.bool ok)).scope ∧
      (∀ t : State δ, t.blocks.tail = inner.blocks.tail → t.pop.pop.cell? d.var = some s.next) ∧
      runAll w (d.statements zeros) s = (runAll w (if ok then d.convert.assign d.var d.pointer zeros
        else d.absent zeros) inner).andThen fun t => .goesOn t.pop.pop := by
  have hvalid := valid_converting hs d v₀ raw (.bool ok)
  obtain ⟨-, -, hself⟩ := scope_converting hs hvar v₀ raw (.bool ok)
  cases hf : d.extraction.fallible with
  | false =>
    refine ⟨(d.converting s v₀ raw (.bool ok)).push, hvalid.push, rfl, fun t ht => ?_,
      run_statements_of_infallible hs hvar hstart hf hext⟩
    have hblocks : t.pop.pop.blocks = (s.declare d.var v₀).blocks := by
      show t.blocks.tail.tail = _
      rw [ht, converting_of_infallible hf]
      show (State.put _ _ _).blocks.tail = _
      rw [State.tail_put, State.tail_put]
      rfl
    rw [State.cell?_congr hblocks, State.cell?_declare, if_pos rfl]
  | true =>
    refine ⟨(d.converting s v₀ raw (.bool ok)).push.push, hvalid.push.push, rfl, fun t ht => ?_,
      run_statements_of_fallible hs hvar hz hstart hf hext⟩
    have hblocks : t.pop.pop.blocks = (d.converting s v₀ raw (.bool ok)).blocks := by
      show t.blocks.tail.tail = _
      rw [ht]
      rfl
    rw [State.cell?_congr hblocks]
    exact (State.scope_eq_some_iff.1 hself).1

/-- **A required value that is absent** leaves the function with the error for it. -/
theorem run_statements_of_missing (hext : d.Extracts w s v₀ raw false) (hmode : d.mode = .orThrow)
    {missing : Value δ} (hmissing : d.Missing w missing) :
    runAll w (d.statements zeros) s = .leaves (zs ++ [missing]) := by
  obtain ⟨inner, -, -, -, hrun⟩ := run_statements_of_extracts hs hvar hz hstart hext
  have hret := run_ret (results_concat (hz inner.scope) (eval_missing hmissing inner.scope))
  rw [hrun, if_neg (by decide), absent, hmode, if_pos (by decide), runAll, hret]
  rfl

/-- **Another value that is absent** leaves the variable as it was declared. -/
theorem run_statements_of_absent (hext : d.Extracts w s v₀ raw false) (hmode : d.mode ≠ .orThrow) :
    ∃ s', runAll w (d.statements zeros) s = .goesOn s' ∧ s'.Binds d.var false v₀ := by
  obtain ⟨inner, -, hscope, hcell, hrun⟩ := run_statements_of_extracts hs hvar hz hstart hext
  obtain ⟨-, -, hself⟩ := scope_converting hs hvar v₀ raw (.bool false)
  rw [← hscope, State.scope_eq_some_iff] at hself
  refine ⟨inner.pop.pop, ?_, s.next, hcell inner rfl, hself.2⟩
  have hbeq : (d.mode == .orThrow) = false := by simpa using hmode
  rw [hrun, if_neg (by decide), absent, hbeq, if_neg (by decide)]
  rfl

/-- **A value that is not converted** leaves the function with the error of the conversion. -/
theorem run_statements_of_conversionFails (hext : d.Extracts w s v₀ raw true)
    (hf : d.convert.fallible = true) {v e : Value δ} (he : e ≠ .nil)
    (hc : d.convert.expr.eval w (d.converting s v₀ raw (.bool true)).scope = some [v, e]) :
    runAll w (d.statements zeros) s = .leaves (zs ++ [e]) := by
  obtain ⟨inner, -, hscope, -, hrun⟩ := run_statements_of_extracts hs hvar hz hstart hext
  rw [← hscope] at hc
  rw [hrun, if_pos rfl, Conversion.run_assign_of_fails hz hf hc he]
  rfl

/-- **A value that is converted** ends up in the variable, or behind the address in it. -/
theorem run_statements_of_converts {v : Value δ} (hext : d.Extracts w s v₀ raw true)
    (hident : d.convert.expr.isIdent = true → d.convert.expr = .ident "raw")
    (hc : d.convert.expr.eval w (d.converting s v₀ raw (.bool true)).scope
      = some (v :: noError d.convert.fallible)) :
    ∃ s', runAll w (d.statements zeros) s = .goesOn s' ∧
      s'.Binds d.var d.pointer (d.convert.finished w v) := by
  obtain ⟨inner, hvalid, hscope, hcell, hrun⟩ := run_statements_of_extracts hs hvar hz hstart hext
  obtain ⟨⟨cell, hraw⟩, -, hself⟩ := scope_converting hs hvar v₀ raw (.bool true)
  rw [← hscope] at hc hraw hself
  obtain ⟨hneraw, -, hnev, hneerr, hnetmp⟩ := ne_of_not_mem_reserved hvar
  have hfresh : d.var ∉ ["v", "err", "tmp"] := by simp [hnev, hneerr, hnetmp]
  have hname : d.convert.expr.isIdent = true → ∃ name cell, d.convert.expr = .ident name ∧
      name ≠ d.var ∧ inner.scope name = some (cell, v) := by
    intro hi
    have hexpr := hident hi
    refine ⟨"raw", cell, hexpr, Ne.symm hneraw, ?_⟩
    rw [hexpr, eval_ident (by decide) hraw] at hc
    rw [hraw, (List.cons.inj (Option.some.inj hc)).1]
  obtain ⟨s', hassign, htail, hholds⟩ := Conversion.run_assign_of_gives d.pointer hz hvalid
    (State.scope_eq_some_iff.1 hself).1 hfresh hc hname
  refine ⟨s'.pop.pop, ?_, s.next, hcell s' htail, hholds⟩
  rw [hrun, if_pos rfl, hassign]
  rfl

end

/-- **Every event** leads where the declaration says. -/
theorem Planned.realises (h : d.Planned) (hs : s.Valid)
    (hz : ∀ scope, evalAll w scope zeros = some zs) (hstart : d.Starts w s v₀) {event : Event δ}
    (hevent : d.Happens w s v₀ event) :
    d.Realises w s zs event (runAll w (d.statements zeros) s) := by
  have hvar := h.var_not_mem
  cases event with
  | extractionFails e =>
    obtain ⟨hf, he, raw, ok, hext⟩ := hevent
    exact run_statements_of_extractionFails hz hstart hf he hext
  | absent =>
    obtain ⟨raw, hext⟩ := hevent
    have hdefault := h.default_isSome
    simp only [Realises]
    split
    · rename_i hmode
      exact fun missing => run_statements_of_missing hs hvar hz hstart hext hmode
    · rename_i hmode
      rw [hmode] at hdefault
      obtain ⟨x, hx⟩ := Option.isSome_iff_exists.1 hdefault
      obtain ⟨s', hrun, hbinds⟩ := run_statements_of_absent hs hvar hz hstart hext (by simp [hmode])
      rw [Starts, hx] at hstart
      exact ⟨x, v₀, s', hx, hstart, hrun, hbinds⟩
    · rename_i hmode
      rw [hmode] at hdefault
      have hnone : d.default? = none := Option.not_isSome_iff_eq_none.1 (by rw [hdefault]; decide)
      have hnil : v₀ = .nil := by
        rw [Starts, hnone] at hstart
        rw [hstart, World.initial, if_pos (h.nillable hmode)]
      rw [← hnil]
      exact run_statements_of_absent hs hvar hz hstart hext (by simp [hmode])
  | conversionFails raw e =>
    obtain ⟨hext, hf, he, v, hc⟩ := hevent
    exact run_statements_of_conversionFails hs hvar hz hstart hext hf he hc
  | converts raw v =>
    obtain ⟨hext, hc⟩ := hevent
    exact run_statements_of_converts hs hvar hz hstart hext h.convert.ident hc

end

end Declaration
end Shapewright
