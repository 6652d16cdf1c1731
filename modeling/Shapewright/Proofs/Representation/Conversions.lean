import Shapewright.Proofs.Representation.Support
import Shapewright.Proofs.Wire.Documents

/-!
# What generated conversions do

The representations of the types that lose nothing in a document, and what is generated for them.

* `Representation.written`, `Representation.readBack` — running the functions that are generated for
  the elements of a container.
* `Representation.Carries` — the representations of the types that lose nothing.
* `Representation.DeclaredIn` — a package declares what the conversions refer to.
* `Representation.written_eq`, `Representation.readBack_eq` — what is generated writes and reads as
  the type does.
-/

set_option autoImplicit false

namespace Shapewright

open Code Support
open Wire (Raw WireType Served Fault)

namespace Representation

/-- The document that a value is written to by the function for elements of a container. -/
noncomputable def written (decls : List TypeDecl) (depth : Nat) (r : Representation)
    (v : Wire.Value) : Option Raw :=
  ((elementWriter r.type (r.toRaw (.ident "e"))).applied (world decls depth)
    [.data (.value v)]).document?

/-- The value that is read from a document by the function for elements of a container. -/
noncomputable def readBack (decls : List TypeDecl) (depth : Nat) (r : Representation)
    (field : String) (raw : Raw) : Served Wire.Value :=
  ((elementReader r.type (r.zero true) (r.fromRaw (.ident "field") (.ident "raw"))).applied
    (world decls depth) [.data (.field field), .data (.document raw)]).served

end Representation

/-! ## Representations that lose nothing -/

/-- The texts of the constants of an enumeration. -/
def Shape.constants (s : Shape) : List String := s.memberList.map (·.enumValue.asString)

/-- The types of values that a representation carries without loss. -/
inductive Representation.Carries : Representation → WireType → Prop
  | boolean {s : Shape} (hk : s.kind = .boolean) (named : Bool) :
    Carries (.simple s "bool" named) .bool
  | string {s : Shape} (hk : s.kind = .string) (named : Bool) :
    Carries (.simple s "string" named) .string
  | integer {s : Shape} {builtin : String} {bits : Nat}
    (hb : Registry.builtin? s.kind = some builtin) (hk : s.kind.width? = some bits) (named : Bool) :
    Carries (.simple s builtin named) (.int bits)
  | bigInteger (s : Shape) : Carries (.bigInteger s) .bigInteger
  | blob (s : Shape) : Carries (.blob s) .blob
  | enum {s : Shape} (hk : s.kind = .enum) : Carries (.enum s) (.enum s.constants)
  | intEnum {s : Shape} (hk : s.kind = .intEnum) : Carries (.intEnum s) (.int 32)
  | list (s : Shape) {element : Representation} {t : WireType} (h : Carries element t) :
    Carries (.list s element) (.list t)
  | map (s : Shape) {value : Representation} {t : WireType} (h : Carries value t) :
    Carries (.map s value) (.map t)

/-- Whether a package declares what the conversions of a representation refer to. -/
def Representation.DeclaredIn (decls : List TypeDecl) : Representation → Prop
  | .simple s builtin named => named = true → underlying decls (typeName s) = builtin
  | .enum s => parsed? decls ("Parse" ++ typeName s) = some s.constants
  | .intEnum s => underlying decls (typeName s) = "int32"
  | .list _ element => element.DeclaredIn decls
  | .map _ value => value.DeclaredIn decls
  | _ => True

/-! ## Reading -/

/-- The variables of a function that reads: the name of the field, and the document. -/
def reading (field : String) (raw : Raw) : State Datum :=
  (({} : State Datum).put "field" (.data (.field field))).put "raw" (.data (.document raw))

theorem valid_reading (field : String) (raw : Raw) : (reading field raw).Valid :=
  (State.Valid.put ⟨by simp, by simp⟩ "field" _).put "raw" _

theorem eval_field (w : World Datum) (field : String) (raw : Raw) :
    (Expr.ident "field").eval w (reading field raw).scope = some [.data (.field field)] :=
  eval_ident (by decide) (show (reading field raw).scope "field" = some (0, _) from rfl)

theorem eval_raw (w : World Datum) (field : String) (raw : Raw) :
    (Expr.ident "raw").eval w (reading field raw).scope = some [.data (.document raw)] :=
  eval_ident (by decide) (show (reading field raw).scope "raw" = some (1, _) from rfl)

section

variable {w : World Datum} {s : State Datum} {c : Conversion} {x : Served Wire.Value}

/-- What is returned after a conversion that can fail: its outcome. -/
theorem served_ret (zero : Expr) (hc : c.fallible = true) (hwrap : c.wrap = "")
    (hexpr : c.expr.eval w s.scope = some (Datum.results x)) :
    (runAll w (c.ret zero) s).served = x := by
  have hresults : results w s.scope [c.expr] = some (Datum.results x) := hexpr
  rw [Conversion.ret, hc, hwrap, Bool.not_true, if_neg Bool.false_ne_true, beq_self_eq_true,
    if_pos rfl, runAll_cons, run_ret hresults]
  exact Flow.served_leaves_results x

/-- The same if the value is converted once more, to a type that is its own. -/
theorem served_ret_wrapped (text : String) (hs : s.Valid) (hc : c.fallible = true)
    (hexpr : c.expr.eval w s.scope = some (Datum.results x))
    (hconvert : ∀ v, x = .ok v → w.convert c.wrap (.data (.value v)) = .data (.value v)) :
    (runAll w (c.ret (.lit text)) s).served = x := by
  by_cases hwrap : c.wrap = ""
  · exact served_ret _ hc hwrap hexpr
  have hne : ¬ (c.wrap == "") = true := fun h => hwrap (beq_iff_eq.1 h)
  have hresults : results w s.scope [c.expr] = some (Datum.results x) := hexpr
  -- The value and the error are kept in variables before one of them is returned.
  obtain ⟨a, e, hae⟩ : ∃ a e, Datum.results x = [a, e] := by
    cases x <;> exact ⟨_, _, rfl⟩
  have hdefine : (Stmt.define ["v", "err"] [c.expr]).run w s =
      .goesOn ((s.put "v" a).put "err" e) := by
    rw [Stmt.run, hresults, hae]
    rfl
  obtain ⟨cell, hv⟩ := s.exists_scope_put_self "v" a
  obtain ⟨cell', herr⟩ := (s.put "v" a).exists_scope_put_self "err" e
  have hcheck : (Stmt.returnOnError [.lit text]).run w ((s.put "v" a).put "err" e) = _ :=
    run_returnOnError rfl herr
  rw [Conversion.ret, hc, Bool.not_true, if_neg Bool.false_ne_true, if_neg hne, Conversion.checked,
    List.cons_append, List.singleton_append, runAll_cons, hdefine]
  show (runAll w _ ((s.put "v" a).put "err" e)).served = x
  rw [runAll_cons, hcheck]
  cases x with
  | error f =>
    cases hae
    rw [if_neg (by simp)]
    exact Flow.served_leaves_fault _ f
  | ok v =>
    cases hae
    have hvar : (Expr.ident "v").eval w ((s.put "v" (.data (.value v))).put "err" .nil).scope =
        some [.data (.value v)] := by
      refine eval_ident (by decide) (((hs.put "v" _).scope_put_of_ne .nil ?_).trans hv)
      decide
    have hlast : results w ((s.put "v" (.data (.value v))).put "err" .nil).scope
        [c.wrapped (.ident "v"), .nil] = some [.data (.value v), .nil] := by
      rw [Conversion.wrapped, if_neg hne]
      refine evalAll_cons ?_ (evalAll_cons eval_nil rfl)
      rw [eval_conv hvar, hconvert v rfl]
    rw [if_pos rfl]
    show (runAll w [.ret _] _).served = _
    rw [runAll_cons, run_ret hlast]
    rfl

end

namespace Representation

variable {decls : List TypeDecl} {r : Representation} {t : WireType}

theorem readBack_eq_served (decls : List TypeDecl) (depth : Nat) (r : Representation)
    (field : String) (raw : Raw) :
    r.readBack decls depth field raw =
      (runAll (world decls depth) ((r.fromRaw (.ident "field") (.ident "raw")).ret (r.zero true))
        (reading field raw)).served := rfl

section

variable {name : String} {types : List String} {depth : Nat} (field : String) (raw : Raw)

/-- A call of a function that reads without another one. -/
theorem eval_reader (hname : isQualified (supportAlias ++ "." ++ name) = true)
    (hreader : readerType? decls (supportAlias ++ "." ++ name) types = some t) :
    (Expr.call (support name) types [.ident "field", .ident "raw"]).eval (world decls depth)
      (reading field raw).scope = some (Datum.results (t.fromRaw field raw)) := by
  have hargs : evalAll (world decls depth) (reading field raw).scope [.ident "field", .ident "raw"] =
      some [.data (.field field), .data (.document raw)] :=
    evalAll_cons (eval_field _ _ _) (evalAll_cons (eval_raw _ _ _) rfl)
  rw [eval_supportCall hname hargs, call_reader hreader]

/-- Reading a type that may be declared with a name. -/
theorem served_simple {s : Shape} {builtin text : String} {named : Bool}
    (hname : isQualified (supportAlias ++ "." ++ name) = true)
    (hreader : readerType? decls (supportAlias ++ "." ++ name) types = some t)
    (hdecls : (simple s builtin named).DeclaredIn decls)
    (hconvert : ∀ v, t.fromRaw field raw = .ok v → convertTo builtin v = some v) :
    (runAll (world decls depth)
      ((fallible name types [.ident "field", .ident "raw"] (wrapType s named)).ret (.lit text))
      (reading field raw)).served = t.fromRaw field raw := by
  have hexpr : (Expr.call (support name) types [.ident "field", .ident "raw"]).eval
      (world decls depth) (reading field raw).scope = _ := eval_reader field raw hname hreader
  cases named with
  | false => exact served_ret _ rfl rfl hexpr
  | true =>
    refine served_ret_wrapped text (valid_reading field raw) rfl hexpr fun v hv => ?_
    refine convert_eq ?_
    show convertTo (underlying decls (typeName s)) v = some v
    rw [hdecls rfl]
    exact hconvert v hv

end

theorem underlying_type {s : Shape} {builtin : String} {named : Bool}
    (hdecls : (simple s builtin named).DeclaredIn decls)
    (hbuiltin : underlying decls builtin = builtin) :
    underlying decls (simple s builtin named).type = builtin := by
  cases named with
  | false => exact hbuiltin
  | true => exact hdecls rfl

theorem readerType?_number {type : String} {bits : Nat}
    (h : intWidth? (underlying decls type) = some bits) :
    readerType? decls "runtime.NumberFromJSON" [type] = some (.int bits) := by
  rw [readerType?, h]
  rfl

/-- The built-in types of integers. -/
theorem intWidth?_builtin {kind : Kind} {builtin : String} {bits : Nat}
    (hb : Registry.builtin? kind = some builtin) (hk : kind.width? = some bits) :
    intWidth? builtin = some bits ∧ builtin ∈ builtins := by
  cases kind with
  | byte | short | integer | long =>
    cases hb
    cases hk
    decide
  | intEnum => cases hb
  | _ => cases hk

/-- The functions that read constants are no variables of a function that reads. -/
theorem eval_parseFunction (w : World Datum) (type field : String) (raw : Raw) :
    (Expr.ident ("Parse" ++ type)).eval w (reading field raw).scope =
      some [w.global ("Parse" ++ type)] := by
  have hhead : ∀ name, name.toList.head? ≠ some 'P' → ("Parse" ++ type == name) = false := by
    refine fun name hname => beq_false_of_ne fun heq => hname ?_
    rw [← heq, String.toList_append]
    rfl
  have hscope : (reading field raw).scope ("Parse" ++ type) = none := by
    have hraw : ("Parse" ++ type == "raw") = false := hhead _ (by decide)
    have hfield : ("Parse" ++ type == "field") = false := hhead _ (by decide)
    show (([("raw", 1), ("field", 0)].lookup ("Parse" ++ type)).or none).map _ = none
    rw [List.lookup_cons, hraw, List.lookup_cons, hfield]
    rfl
  simp [Expr.eval, World.read, hscope]

theorem evalAll_each (w : World Datum) (field : String) (raw : Raw) {params : List Param}
    {results : List String} {body : List Stmt}
    (h : ∀ scope, (Expr.func params results body).eval w scope = some [.data (.func params body)]) :
    evalAll w (reading field raw).scope [.ident "field", .ident "raw", .func params results body] =
      some [.data (.field field), .data (.document raw), .data (.func params body)] :=
  evalAll_cons (eval_field _ _ _) (evalAll_cons (eval_raw _ _ _) (evalAll_cons (h _) rfl))

/-- Integers of every width are read by one function, which is told the type. -/
theorem fromRaw_integer {s : Shape} {builtin : String} {bits : Nat} (hk : s.kind.width? = some bits)
    (named : Bool) : (simple s builtin named).fromRaw (.ident "field") (.ident "raw") =
      fallible "NumberFromJSON" [(simple s builtin named).type] [.ident "field", .ident "raw"] "" := by
  rw [fromRaw]
  split
  · rename_i h
    rw [h] at hk
    cases hk
  · rename_i h
    rw [h] at hk
    cases hk
  · rfl

/-- **What is generated to read** a representation reads as its type does. -/
theorem readBack_eq (hr : r.Carries t) (hdecls : r.DeclaredIn decls)
    (hbuiltins : ∀ b ∈ builtins, underlying decls b = b) {depth : Nat} (hdepth : t.nesting ≤ depth)
    (field : String) (raw : Raw) : r.readBack decls depth field raw = t.fromRaw field raw := by
  induction hr generalizing depth field raw with
  | @boolean s hk named =>
    rw [readBack_eq_served]
    simp only [fromRaw, zero, hk]
    refine served_simple field raw (by decide) rfl hdecls fun v hv => ?_
    cases raw with
    | bool b =>
      cases hv
      rfl
    | _ => cases hv
  | @string s hk named =>
    rw [readBack_eq_served]
    simp only [fromRaw, zero, hk]
    refine served_simple field raw (by decide) rfl hdecls fun v hv => ?_
    cases raw with
    | string text =>
      cases hv
      rfl
    | _ => cases hv
  | @integer s builtin bits hb hk named =>
    obtain ⟨hwidth, hmem⟩ := intWidth?_builtin hb hk
    have hreader : readerType? decls "runtime.NumberFromJSON" [(simple s builtin named).type] =
        some (.int bits) :=
      readerType?_number (by rw [underlying_type hdecls (hbuiltins builtin hmem), hwidth])
    rw [readBack_eq_served, fromRaw_integer hk]
    exact served_ret _ rfl rfl (eval_reader field raw (by decide) hreader)
  | bigInteger s => exact served_ret _ rfl rfl (eval_reader field raw (by decide) rfl)
  | blob s => exact served_ret _ rfl rfl (eval_reader field raw (by decide) rfl)
  | @enum s hk =>
    have hargs : evalAll (world decls depth) (reading field raw).scope
        [.ident "field", .ident "raw", .ident ("Parse" ++ typeName s)] =
        some [.data (.field field), .data (.document raw), .data (.name ("Parse" ++ typeName s))] := by
      refine evalAll_cons (eval_field _ _ _) (evalAll_cons (eval_raw _ _ _) (evalAll_cons ?_ rfl))
      rw [eval_parseFunction, global_world]
    refine served_ret _ rfl rfl ((eval_supportCall (by decide) hargs).trans ?_)
    exact congrArg some (call_enum hdecls field raw)
  | @intEnum s hk =>
    refine served_ret _ rfl rfl (eval_reader field raw (by decide) (readerType?_number ?_))
    rw [show underlying decls (typeName s) = "int32" from hdecls]
    rfl
  | @list s element t h ih =>
    obtain ⟨n, rfl⟩ : ∃ n, depth = n + 1 := Nat.exists_eq_add_one.2 (Nat.zero_lt_of_lt hdepth)
    have hread : element.readBack decls n = t.fromRaw :=
      funext₂ (ih hdecls (Nat.le_of_succ_le_succ hdepth))
    refine served_ret _ rfl rfl ((eval_supportCall (by decide)
      (evalAll_each _ field raw fun _ => eval_func _ _ _)).trans ?_)
    rw [call_world_succ]
    show some (Datum.results ((Wire.listFromRaw (element.readBack decls n) field raw).map .list)) = _
    rw [hread]
    rfl
  | @map s value t h ih =>
    obtain ⟨n, rfl⟩ : ∃ n, depth = n + 1 := Nat.exists_eq_add_one.2 (Nat.zero_lt_of_lt hdepth)
    have hread : value.readBack decls n = t.fromRaw :=
      funext₂ (ih hdecls (Nat.le_of_succ_le_succ hdepth))
    refine served_ret _ rfl rfl ((eval_supportCall (by decide)
      (evalAll_each _ field raw fun _ => eval_func _ _ _)).trans ?_)
    rw [call_world_succ]
    show some (Datum.results ((Wire.mapFromRaw (value.readBack decls n) field raw).map .map)) = _
    rw [hread]
    rfl

/-! ## Writing -/

/-- The variable of a function that writes. -/
def writing (v : Wire.Value) : State Datum := ({} : State Datum).put "e" (.data (.value v))

theorem eval_element (w : World Datum) (v : Wire.Value) :
    (Expr.ident "e").eval w (writing v).scope = some [.data (.value v)] :=
  eval_ident (by decide) (show (writing v).scope "e" = some (0, _) from rfl)

/-- What is written is the document of what the expression yields. -/
theorem written_of_eval {depth : Nat} {v : Wire.Value} {d : Datum} {raw : Raw}
    (h : (r.toRaw (.ident "e")).eval (world decls depth) (writing v).scope = some [.data d])
    (hd : d.document? = some raw) : r.written decls depth v = some raw := by
  have hret : results (world decls depth) (writing v).scope [r.toRaw (.ident "e")] =
      some [.data d] := h
  show (runAll (world decls depth) [.ret [r.toRaw (.ident "e")]] (writing v)).document? = _
  rw [runAll_cons, run_ret hret]
  exact hd

theorem mapM_eq_some {α β : Type} {f : α → Option β} {g : α → β} {xs : List α}
    (h : ∀ x ∈ xs, f x = some (g x)) : xs.mapM f = some (xs.map g) := by
  induction xs with
  | nil => rfl
  | cons x xs ih =>
    rw [List.mapM_cons, h x List.mem_cons_self, ih fun y hy => h y (List.mem_cons_of_mem x hy)]
    rfl

theorem wrap_of_fits {bits : Nat} {n : Int} (hbits : 0 < bits) (h : Wire.fits bits n = true) :
    Number.wrap bits n = n := by
  obtain ⟨hlow, hhigh⟩ := Bool.and_eq_true_iff.1 h
  have hlow : -(2 ^ (bits - 1) : Nat) ≤ n := of_decide_eq_true hlow
  have hhigh : n < (2 ^ (bits - 1) : Nat) := of_decide_eq_true hhigh
  have hpow : 2 ^ bits = 2 * 2 ^ (bits - 1) := by
    rw [← Nat.pow_succ', Nat.succ_eq_add_one, Nat.sub_add_cancel hbits]
  show n.bmod (2 ^ bits) = n
  exact Int.bmod_eq_of_le (by omega) (by omega)

section

variable {depth : Nat} {v : Wire.Value}

/-- A value that is converted to its own built-in type. -/
theorem eval_converted {builtin : String} (hbuiltin : underlying decls builtin = builtin)
    (hv : convertTo builtin v = some v) :
    (Expr.conv builtin (.ident "e")).eval (world decls depth) (writing v).scope =
      some [.data (.value v)] := by
  rw [eval_conv (eval_element _ v), convert_eq (by rw [hbuiltin, hv])]

theorem eval_simple {s : Shape} {builtin : String} {named : Bool}
    (hbuiltin : underlying decls builtin = builtin) (hv : convertTo builtin v = some v) :
    ((simple s builtin named).toRaw (.ident "e")).eval (world decls depth) (writing v).scope =
      some [.data (.value v)] := by
  cases named with
  | false => exact eval_element _ v
  | true => exact eval_converted hbuiltin hv

/-- A call of a function that writes without another one. -/
theorem eval_writer {name : String} {raw : Raw}
    (hname : isQualified (supportAlias ++ "." ++ name) = true)
    (hwrite : write (supportAlias ++ "." ++ name) v = some raw) :
    (supportCall name [.ident "e"]).eval (world decls depth) (writing v).scope =
      some [.data (.document raw)] := by
  rw [supportCall, eval_supportCall hname (evalAll_cons (eval_element _ v) rfl)]
  obtain ⟨apply, happly⟩ := exists_world_eq decls depth
  rw [happly]
  show some (((write _ v).map fun raw => [Value.data (Datum.document raw)]).getD []) = _
  rw [hwrite]
  rfl

/-- A call of a function that writes a container, each element by a function literal. -/
theorem eval_writeEach {name type : String} {value : Expr} {raw : Raw}
    (hname : isQualified (supportAlias ++ "." ++ name) = true)
    (hwrite : writeEach (supportAlias ++ "." ++ name) (fun v =>
      ((elementWriter type value).applied (world decls depth) [.data (.value v)]).document?) v =
        some raw) :
    (supportCall name [.ident "e", elementWriter type value]).eval (world decls (depth + 1))
      (writing v).scope = some [.data (.document raw)] := by
  have hargs : evalAll (world decls (depth + 1)) (writing v).scope
      [.ident "e", elementWriter type value] = some [.data (.value v), .data
        (.func [⟨"e", type⟩] [.ret [value]])] :=
    evalAll_cons (eval_element _ v) (evalAll_cons (eval_func _ _ _) rfl)
  rw [supportCall, eval_supportCall hname hargs, call_world_succ]
  have hcalled : called decls (applied (world decls depth)) (supportAlias ++ "." ++ name) []
      [.data (.value v), .data (.func [⟨"e", type⟩] [.ret [value]])] =
      ((some raw).map fun raw => [.data (.document raw)]).getD [] := by
    rw [← hwrite]
    rfl
  rw [hcalled]
  rfl

end

/-- **What is generated to write** a representation writes as its type does. -/
theorem written_eq (hr : r.Carries t) (hbuiltins : ∀ b ∈ builtins, underlying decls b = b)
    {depth : Nat} (hdepth : t.nesting ≤ depth) {v : Wire.Value} (hv : t.Holds v) :
    r.written decls depth v = some (t.toRaw v) := by
  induction hr generalizing depth v with
  | boolean hk named =>
    cases hv
    exact written_of_eval (eval_simple (hbuiltins _ (by decide)) rfl) rfl
  | string hk named =>
    cases hv
    exact written_of_eval (eval_simple (hbuiltins _ (by decide)) rfl) rfl
  | @integer s builtin bits hb hk named =>
    obtain ⟨hwidth, hmem⟩ := intWidth?_builtin hb hk
    cases hv with
    | @int bits n hbits hfits =>
      refine written_of_eval (eval_simple (hbuiltins builtin hmem) ?_) rfl
      rw [convertTo, hwidth, Option.map_some, wrap_of_fits hbits hfits]
  | bigInteger s =>
    cases hv
    exact written_of_eval (r := .bigInteger s) (eval_writer (by decide) rfl) rfl
  | blob s =>
    cases hv
    exact written_of_eval (r := .blob s) (eval_writer (by decide) rfl) rfl
  | @enum s hk =>
    cases hv
    exact written_of_eval (r := .enum s) (eval_converted (hbuiltins "string" (by decide)) rfl) rfl
  | @intEnum s hk =>
    cases hv with
    | @int bits n hbits hfits =>
      refine written_of_eval (r := .intEnum s) (eval_converted (hbuiltins "int32" (by decide)) ?_) rfl
      show some (Wire.Value.int (Number.wrap 32 n)) = _
      rw [wrap_of_fits hbits hfits]
  | @list s element t h ih =>
    obtain ⟨n, rfl⟩ : ∃ n, depth = n + 1 := Nat.exists_eq_add_one.2 (Nat.zero_lt_of_lt hdepth)
    cases hv with
    | @list t items hitems =>
      have hwrite : items.mapM (element.written decls n) = some (items.map t.toRaw) :=
        mapM_eq_some fun v hv => ih (Nat.le_of_succ_le_succ hdepth) (hitems v hv)
      refine written_of_eval (r := .list s element) (eval_writeEach (by decide) ?_) rfl
      exact congrArg (Option.map Raw.list) hwrite
  | @map s value t h ih =>
    obtain ⟨n, rfl⟩ : ∃ n, depth = n + 1 := Nat.exists_eq_add_one.2 (Nat.zero_lt_of_lt hdepth)
    cases hv with
    | @map t fields hkeys hfields =>
      have hwrite : fields.mapM (fun e => (value.written decls n e.2).map fun raw => (e.1, raw)) =
          some (fields.map fun e => (e.1, t.toRaw e.2)) := by
        refine mapM_eq_some fun e he => ?_
        rw [ih (Nat.le_of_succ_le_succ hdepth) (hfields e he)]
        rfl
      refine written_of_eval (r := .map s value) (eval_writeEach (by decide) ?_) rfl
      exact congrArg (Option.map Raw.object) hwrite

end Representation

end Shapewright
