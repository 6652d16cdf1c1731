import Shapewright.Proofs.Binding.Realisation

/-!
# When binding a member can fail

`Declaration.throws` is computed from the plan.  Here it is compared with the generated code: it is
set exactly if the calls in the code can come out in such a way that the function is left.

* `Declaration.failing` — a world in which whatever can fail does.
* `Declaration.CarriedOut`, `Declaration.CanLeave` — where runs of the code have to lead, and that
  one leaves the function.
* `Registry.declare_realised` — every declaration that is made is carried out, and throws exactly if
  its code can leave the function.
-/

set_option autoImplicit false

namespace Shapewright

open Code

/-! ## Constants -/

theorem Code.constant_nil : Constant [.nil] := fun _ _ _ =>
  ⟨[.nil], fun _ => evalAll_cons eval_nil rfl⟩

namespace Declaration

/-! ## A world in which calls fail -/

/-- What the functions stand for that have to be told apart. -/
def known : List (Value String) := (extractors ++ oneValued).map .data

/-- A world in which one extraction comes out as told, and every call fails that can. -/
def failing (extractor : String) (answer : List (Value String)) : World String where
  global := .data
  literal _ := .nil
  zero _ := .nil
  call f _ _ :=
    if f = .data extractor then answer
    else if f ∈ oneValued.map .data then [.data "error"]
    else [.nil, .data "error"]
  convert _ _ := .nil
  select _ _ := .nil
  unary _ _ := .nil
  binary _ _ _ := .nil
  index _ _ := .nil
  composite _ _ := .nil
  closure _ _ _ := .nil

section

variable {extractor : String} {answer : List (Value String)} {scope : Scope String}

theorem isQualified_of_mem {fn : String} (h : fn ∈ extractors ++ oneValued) :
    isQualified fn = true := by
  have hall : ∀ fn ∈ extractors ++ oneValued, isQualified fn = true := by decide
  exact hall fn h

theorem not_mem_oneValued {fn : String} (h : fn ∈ extractors) : fn ∉ oneValued := by
  have hall : ∀ fn ∈ extractors, fn ∉ oneValued := by decide
  exact hall fn h

theorem call_extractor (types : List String) (args : List (Value String)) :
    (failing extractor answer).call (.data extractor) types args = answer :=
  if_pos rfl

theorem call_oneValued (hextractor : extractor ∈ extractors) {fn : String} (h : fn ∈ oneValued)
    (types : List String) (args : List (Value String)) :
    (failing extractor answer).call (.data fn) types args = [.data "error"] := by
  have hne : (Value.data fn : Value String) ≠ .data extractor := by
    intro heq
    cases heq
    exact not_mem_oneValued hextractor h
  exact (if_neg hne).trans (if_pos (List.mem_map.2 ⟨fn, h, rfl⟩))

theorem call_of_not_known (hextractor : extractor ∈ extractors) {f : Value String} (h : f ∉ known)
    (types : List String) (args : List (Value String)) :
    (failing extractor answer).call f types args = [.nil, .data "error"] := by
  have hmem : ∀ fn ∈ extractors ++ oneValued, f ≠ .data fn := fun fn hfn heq =>
    h (List.mem_map.2 ⟨fn, hfn, heq.symm⟩)
  have hone : f ∉ oneValued.map .data := by
    intro hf
    obtain ⟨fn, hfn, heq⟩ := List.mem_map.1 hf
    exact hmem fn (List.mem_append_right _ hfn) heq.symm
  exact (if_neg (hmem extractor (List.mem_append_left _ hextractor))).trans (if_neg hone)

theorem eval_argument (hextractor : extractor ∈ extractors) {x : Expr} (hx : x.Argument) :
    ∃ v, x.eval (failing extractor answer) scope = some [v] := by
  cases hx with
  | ident name => exact ⟨_, by rw [Expr.eval]⟩
  | lit text => exact ⟨_, by rw [Expr.eval]⟩
  | func => exact ⟨_, by rw [Expr.eval]⟩
  | @split name h =>
    have hmem : supportAlias ++ "." ++ name ∈ oneValued := by
      have hall : ∀ name ∈ ["SplitList", "SplitHttpDates"],
        supportAlias ++ "." ++ name ∈ oneValued := by decide
      exact hall name h
    refine ⟨.data "error", ?_⟩
    rw [supportCall, eval_call eval_support (evalAll_cons (by rw [Expr.eval]) rfl)]
    exact congrArg some (call_oneValued hextractor hmem _ _)

theorem exists_evalAll (hextractor : extractor ∈ extractors) {xs : List Expr}
    (hxs : ∀ x ∈ xs, x.Argument) : ∃ vs, evalAll (failing extractor answer) scope xs = some vs := by
  induction xs with
  | nil => exact ⟨[], rfl⟩
  | cons x xs ih =>
    obtain ⟨v, hv⟩ : ∃ v, x.eval (failing extractor answer) scope = some [v] :=
      eval_argument hextractor (hxs x (by simp))
    obtain ⟨vs, hvs⟩ := ih fun y hy => hxs y (by simp [hy])
    exact ⟨v :: vs, evalAll_cons hv hvs⟩

/-- The extraction of a declaration comes out as told. -/
theorem exists_extractor {e : Extraction} (h : e.Callable) : ∃ extractor ∈ extractors,
    ∀ answer scope, e.expr.eval (failing extractor answer) scope = some answer := by
  obtain ⟨fn, args, he, hfn, hargs⟩ := h
  refine ⟨fn, hfn, fun answer scope => ?_⟩
  obtain ⟨vs, hvs⟩ : ∃ vs, evalAll (failing fn answer) scope args = some vs :=
    exists_evalAll hfn hargs
  rw [he, eval_call (eval_qualified (isQualified_of_mem (List.mem_append_left _ hfn))) hvs]
  exact congrArg some (call_extractor _ _)

/-- The conversion of a declaration fails if it can, unless a variable has taken the name of its
function and stands for another one. -/
theorem eval_conversion (hextractor : extractor ∈ extractors) {c : Conversion} (h : c.Callable)
    (hf : c.fallible = true) (hscope : ∀ name e, scope name = some e → e.2 ∉ known) :
    c.expr.eval (failing extractor answer) scope = some [.nil, .data "error"] := by
  obtain ⟨fn, types, args, hc, hfn, hargs⟩ := h.call hf
  obtain ⟨vs, hvs⟩ : ∃ vs, evalAll (failing extractor answer) scope args = some vs :=
    exists_evalAll hextractor hargs
  have hglobal : (Value.data fn : Value String) ∉ known := by
    intro hmem
    obtain ⟨fn', hfn', heq⟩ := List.mem_map.1 hmem
    cases heq
    exact hfn hfn'
  have hread : (failing extractor answer).read scope fn ∉ known := by
    rw [World.read]
    split
    · exact hglobal
    · cases hs : scope fn with
      | none => exact hglobal
      | some e => exact hscope fn e hs
  rw [hc, eval_call (by rw [Expr.eval]) hvs]
  exact congrArg some (call_of_not_known hextractor hread _ _)

/-- Variables can be declared, and stand for no function that has to be told apart. -/
theorem exists_starts (hextractor : extractor ∈ extractors) {d : Declaration} (h : d.Planned)
    (s : State String) : ∃ v₀, d.Starts (failing extractor answer) s v₀ ∧ v₀ ∉ known := by
  have hnil : (.nil : Value String) ∉ known := by decide
  cases hd : d.default? with
  | none =>
    refine ⟨.nil, ?_, hnil⟩
    simp only [Starts, hd, World.initial]
    split <;> rfl
  | some x =>
    simp only [Starts, hd]
    obtain ⟨text, rfl | ⟨type, rfl⟩ | rfl⟩ := h.default_some x hd
    · refine ⟨.nil, ?_, hnil⟩
      rw [Expr.eval]
      split <;> rfl
    · exact ⟨.nil, eval_conv (by rw [Expr.eval]), hnil⟩
    · refine ⟨.data "error", ?_, by decide⟩
      rw [supportCall, eval_call eval_support (evalAll_cons (by rw [Expr.eval]) rfl)]
      exact congrArg some (call_oneValued hextractor (by decide) _ _)

end

/-! ## Leaving the function -/

/-- However the calls come out, the code leads where the declaration says. -/
def CarriedOut (d : Declaration) (zeros : List Expr) : Prop :=
  ∀ (δ : Type) [DecidableEq δ] (w : World δ) (s : State δ) (v₀ : Value δ) (zs : List (Value δ))
    (event : Event δ), s.Valid → evalAll w s.scope zeros = some zs → d.Starts w s v₀ →
    d.Happens w s v₀ event → d.Realises w s zs event (runAll w (d.statements zeros) s)

/-- The calls can come out in such a way that the function is left. -/
def CanLeave (d : Declaration) (zeros : List Expr) : Prop :=
  ∃ (δ : Type) (_ : DecidableEq δ) (w : World δ) (s : State δ) (v₀ : Value δ) (event : Event δ)
    (vs : List (Value δ)), s.Valid ∧ d.Starts w s v₀ ∧ d.Happens w s v₀ event ∧
    runAll w (d.statements zeros) s = .leaves vs

section

variable {d : Declaration} {zeros : List Expr}

theorem Planned.carriedOut (h : d.Planned) (hz : Constant zeros) : d.CarriedOut zeros := by
  intro δ _ w s v₀ zs event hs hzs hstart hevent
  obtain ⟨us, hus⟩ := hz δ w
  have heq : us = zs := Option.some.inj ((hus s.scope).symm.trans hzs)
  exact h.realises hs (heq ▸ hus) hstart hevent

theorem avoids_converting {s : State String} (hs : s.Avoids known) {v₀ : Value String}
    (hv : v₀ ∉ known) : (d.converting s v₀ .nil (.bool true)).Avoids known := by
  have hnil : (.nil : Value String) ∉ known := by decide
  have hbool : (.bool true : Value String) ∉ known := by decide
  have hdecl := hs.declare hv d.var
  rw [converting]
  split
  · exact ((hdecl.put hnil "raw").put hbool "ok").put hnil "err"
  · exact (hdecl.push.put hnil "raw").put hbool "ok"

/-- **A declaration that throws** has a run that leaves the function. -/
theorem Planned.canLeave (h : d.Planned) (hz : Constant zeros) (hthrows : d.throws = true) :
    d.CanLeave zeros := by
  obtain ⟨extractor, hmem, hext⟩ := exists_extractor h.extraction
  have hvalid : ({} : State String).Valid := ⟨by simp, by simp⟩
  have havoids : ({} : State String).Avoids known := fun _ =>
    (by decide : (.nil : Value String) ∉ known)
  have herror : (.data "error" : Value String) ≠ .nil := nofun
  -- Whichever call can fail, the extraction is told to let it come to that.
  suffices hscript : ∃ answer event,
      (∀ v₀, v₀ ∉ known → d.Happens (failing extractor answer) {} v₀ event) ∧
      ∀ zs flow, d.Realises (failing extractor answer) {} zs event flow → ∃ vs, flow = .leaves vs by
    obtain ⟨answer, event, hevent, hrealises⟩ := hscript
    obtain ⟨v₀, hstart, hv⟩ : ∃ v₀, d.Starts (failing extractor answer) {} v₀ ∧ v₀ ∉ known :=
      exists_starts hmem h {}
    obtain ⟨zs, hzs⟩ := hz String (failing extractor answer)
    obtain ⟨vs, hvs⟩ := hrealises zs _ (h.realises hvalid hzs hstart (hevent v₀ hv))
    exact ⟨String, inferInstance, _, {}, v₀, event, vs, hvalid, hstart, hevent v₀ hv, hvs⟩
  simp only [throws, Bool.or_eq_true, beq_iff_eq] at hthrows
  rcases hthrows with (hmode | hf) | hf
  · refine ⟨.nil :: .bool false :: noError d.extraction.fallible, .absent,
      fun v₀ _ => ⟨.nil, hext _ _⟩, fun zs flow hflow => ?_⟩
    simp only [Realises, hmode] at hflow
    exact ⟨_, hflow (.data "error") (call_oneValued hmem (by decide) _ _)⟩
  · refine ⟨.nil :: .bool true :: noError d.extraction.fallible,
      .conversionFails .nil (.data "error"), fun v₀ hv => ⟨hext _ _, hf, herror, .nil, ?_⟩,
      fun zs flow hflow => ⟨_, hflow⟩⟩
    exact eval_conversion hmem h.convert hf fun name e => (avoids_converting havoids hv).scope
  · exact ⟨[.nil, .bool false, .data "error"], .extractionFails (.data "error"),
      fun v₀ _ => ⟨hf, herror, _, _, hext _ _⟩, fun zs flow hflow => ⟨_, hflow⟩⟩

/-- **A declaration that does not throw** has no run that leaves the function. -/
theorem Planned.throws_of_canLeave (h : d.Planned) (hz : Constant zeros)
    (hleave : d.CanLeave zeros) : d.throws = true := by
  obtain ⟨δ, _, w, s, v₀, event, vs, hs, hstart, hevent, hrun⟩ := hleave
  obtain ⟨zs, hzs⟩ := hz δ w
  have hrealises := h.realises hs hzs hstart hevent
  rw [hrun] at hrealises
  cases event with
  | extractionFails e => simp [throws, hevent.1]
  | absent =>
    simp only [Realises] at hrealises
    split at hrealises
    · rename_i hmode
      simp [throws, hmode]
    · obtain ⟨x, v, s', -, -, hflow, -⟩ := hrealises
      cases hflow
    · obtain ⟨s', hflow, -⟩ := hrealises
      cases hflow
  | conversionFails raw e => simp [throws, hevent.2.1]
  | converts raw v =>
    obtain ⟨s', hflow, -⟩ := hrealises
    cases hflow

end

end Declaration

/-- **Generated code carries out its declaration**, and the declaration says whether it can leave
the function. -/
theorem Registry.declare_realised {g : Registry} {m : Member} {target : Shape} {origin : Origin}
    {uri : Option UriPattern} {d : Declaration} (h : g.declare m target origin uri = .ok d)
    {zeros : List Expr} (hz : Constant zeros) :
    d.CarriedOut zeros ∧ (d.throws = true ↔ d.CanLeave zeros) :=
  ⟨(planned_declare h).carriedOut hz, (planned_declare h).canLeave hz,
    (planned_declare h).throws_of_canLeave hz⟩

/-- A time in a header that need not be there, under a name that generated code uses itself: where
all calls succeed it is bound by its address, and the function can be left. -/
theorem Registry.declare_realised_header :
    ∃ d, declare { catalog := {} }
        { name := "v", container := ⟨"ex#In"⟩, target := ⟨"smithy.api#Timestamp"⟩ }
        { id := ⟨"smithy.api#Timestamp"⟩, kind := .timestamp } .header none = .ok d ∧
      (∃ s', runAll { Declaration.failing "" [] with
          call := fun f _ _ => if f = .data "runtime.HeaderParam" then [.data "now", .bool true]
            else [.data "time", .nil] } (d.statements [.nil]) {} = .goesOn s' ∧
        s'.Binds "vParam" true (.data "time")) ∧
      d.CanLeave [.nil] := by
  refine ⟨_, rfl, ?_⟩
  have h := @declare_realised { catalog := {} }
    { name := "v", container := ⟨"ex#In"⟩, target := ⟨"smithy.api#Timestamp"⟩ }
    { id := ⟨"smithy.api#Timestamp"⟩, kind := .timestamp } .header none _ rfl _ constant_nil
  exact ⟨h.1 String _ {} .nil [.nil] (.converts (.data "now") (.data "time")) ⟨by simp, by simp⟩
    rfl rfl ⟨rfl, rfl⟩, h.2.1 rfl⟩

end Shapewright
