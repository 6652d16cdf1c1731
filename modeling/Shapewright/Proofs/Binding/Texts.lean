import Shapewright.Binding.Declaration
import Shapewright.Proofs.Binding.Realisation
import Shapewright.Proofs.Binding.Resolving
import Shapewright.Proofs.Representation.RoundTrip
import Shapewright.Proofs.Wire.Lists
import Shapewright.Proofs.Wire.Sets

/-!
# What conversions of text do

A value from the path, the query or a header arrives as text, and is converted by functions of the
support package other than those for documents.  Here these functions get their meaning, and what is
generated for a representation is shown to read text as its type does.

* `Splitting` — how a text is split into parts.
* `Support.textWorld` — the world in which text is converted.
* `Representation.ReadAs` — the types of the values that text is converted to.
* `Representation.served_partReader` — the function for one part of a list reads as the type does.
* `Registry.readsText_of_fromText` — whatever text is converted to at all has such a type.
-/

set_option autoImplicit false

namespace Shapewright

open Code Support
open Wire (WireType Served)

/-- How a text is split into parts, as a list and as a list of dates. Bytes that are no text may be
split in any way. -/
structure Splitting where
  parts : Bytes → List Bytes
  dates : Bytes → List Bytes
  parts_encode : ∀ s, parts (Bytes.encode s) = (Wire.splitList s).map Bytes.encode
  dates_encode : ∀ s, dates (Bytes.encode s) = (Wire.splitHttpDates s).map Bytes.encode

/-- The way of the wire. -/
def Splitting.usual : Splitting where
  parts := Wire.listParts
  dates := Wire.dateParts
  parts_encode := Wire.listParts_encode
  dates_encode := Wire.dateParts_encode

/-! ## Functions -/

namespace Support

/-- The built-in types of floating point numbers. -/
def floats : List String := ["float32", "float64"]

/-- The format of a built-in type. -/
def floatFormat? : String → Option Number.Format
  | "float32" => some Number.single
  | "float64" => some Number.double
  | _ => none

/-- The time format that a constant of the support package stands for. -/
def formatNamed : String → String
  | "runtime.HttpDate" => "http-date"
  | "runtime.EpochSeconds" => "epoch-seconds"
  | _ => "date-time"

section

variable (decls : List TypeDecl) (split : Splitting)
  (apply : List Param → List Stmt → List (Value Datum) → Flow Datum)

/-- The type that a function reads from text. -/
def textReader? (fn : String) (types : List String) : Option WireType :=
  match fn, types with
  | "runtime.ParseBool", [] => some .bool
  | "runtime.ParseInt", [type] => (intWidth? (underlying decls type)).map .int
  | "runtime.ParseFloat", [type] => (floatFormat? (underlying decls type)).map .float
  | "runtime.ParseBigInt", [] => some .bigInteger
  | "runtime.ParseDecimal", [] => some .decimal
  | "runtime.ParseBlob", [] => some .blob
  | fn, [] => (parsed? decls fn).map .enum
  | _, _ => none

/-- The parts of a text. -/
def splitBy? (fn : String) (text : Bytes) : Option (List Bytes) :=
  match fn with
  | "runtime.SplitList" => some (split.parts text)
  | "runtime.SplitHttpDates" => some (split.dates text)
  | "runtime.SplitSet" => some (Text.firstBy id (split.parts text))
  | _ => none

/-- Converts parts one by one; of a set, the first value with each key is kept. -/
def convertParts? (fn : String) (convert : Wire.Value → Served Wire.Value)
    (parts : List Wire.Value) : Option (Served (List Wire.Value)) :=
  match fn with
  | "runtime.ConvertEach" => some (parts.mapM convert)
  | "runtime.ConvertSet" => some ((parts.mapM convert).map (Text.firstBy Wire.Value.key))
  | _ => none

/-- The results of a call; none where it has no meaning here. -/
def calledOnText (fn : String) (types : List String) : List (Value Datum) → List (Value Datum)
  | [.data (.field f), .data (.value (.text bs))] =>
    ((textReader? decls fn types).map fun t => Datum.results (t.parse f bs)).getD []
  | [.data (.field f), .data (.value (.text bs)), .data (.name format)] =>
    if fn == "runtime.ParseTimestamp" then
      Datum.results ((WireType.timestamp (formatNamed format)).parse f bs)
    else []
  | [.data (.value (.text bs))] =>
    ((splitBy? split fn bs).map fun parts => [.data (.value (.list (parts.map .text)))]).getD []
  | [.data (.field f), .data (.value (.list parts)), .data (.func params body)] =>
    let convert := fun v => (apply params body [.data (.field f), .data (.value v)]).served
    ((convertParts? fn convert parts).map fun vs => Datum.results (vs.map .list)).getD []
  | _ => []

end

/-- The world in which function literals come to what `apply` says; `spelled` is what literals
stand for. -/
def textWorldOf (decls : List TypeDecl) (split : Splitting) (spelled : String → String)
    (apply : List Param → List Stmt → List (Value Datum) → Flow Datum) : World Datum :=
  { worldOf decls apply with
    literal := fun text => .data (.field (spelled text))
    call := fun f types args =>
      match f with
      | .data (.name fn) => calledOnText decls split apply fn types args
      | _ => [] }

/-- The world in which text is converted. Lists of lists are not read from text, so that function
literals do not call others. -/
noncomputable def textWorld (decls : List TypeDecl) (split : Splitting) (spelled : String → String) :
    World Datum :=
  textWorldOf decls split spelled (applied (textWorldOf decls split spelled fun _ _ _ => .stuck))

section

variable {decls : List TypeDecl} {split : Splitting} {spelled : String → String}
  {apply : List Param → List Stmt → List (Value Datum) → Flow Datum} {scope : Scope Datum}

theorem eval_textCall {name : String} {types : List String} {args : List Expr}
    {vs : List (Value Datum)} (hname : isQualified (supportAlias ++ "." ++ name) = true)
    (hargs : evalAll (textWorldOf decls split spelled apply) scope args = some vs) :
    (Expr.call (support name) types args).eval (textWorldOf decls split spelled apply) scope =
      some (calledOnText decls split apply (supportAlias ++ "." ++ name) types vs) :=
  eval_call (eval_qualified hname) hargs

theorem convert_textWorldOf {type : String} {v : Wire.Value}
    (h : convertTo (underlying decls type) v = some v) :
    (textWorldOf decls split spelled apply).convert type (.data (.value v)) = .data (.value v) := by
  show ((convertTo (underlying decls type) v).map fun v => Value.data (Datum.value v)).getD .nil = _
  rw [h]
  rfl

end

end Support

/-! ## Types -/

namespace Representation

/-- The time format in which a value arrives as text. -/
def textFormat (r : Representation) (origin : Origin) : String :=
  formatNamed (supportAlias ++ "." ++ Binding.timeFormat r origin)

/-- The types of the values that text from a part of a request is converted to. -/
inductive ReadAs (origin : Origin) : Representation → WireType → Prop
  | boolean {s : Shape} (hk : s.kind = .boolean) (named : Bool) :
    ReadAs origin (.simple s "bool" named) .bool
  | string {s : Shape} (hk : s.kind = .string) (named : Bool) :
    ReadAs origin (.simple s "string" named) .string
  | integer {s : Shape} {builtin : String} {bits : Nat}
    (hb : Registry.builtin? s.kind = some builtin) (hk : s.kind.width? = some bits) (named : Bool) :
    ReadAs origin (.simple s builtin named) (.int bits)
  | float {s : Shape} {builtin : String} {f : Number.Format}
    (hb : Registry.builtin? s.kind = some builtin) (hk : s.kind.format? = some f) (named : Bool) :
    ReadAs origin (.simple s builtin named) (.float f)
  | bigInteger {s : Shape} (hk : s.kind = .bigInteger) : ReadAs origin (.bigInteger s) .bigInteger
  | bigDecimal {s : Shape} (hk : s.kind = .bigDecimal) : ReadAs origin (.bigDecimal s) .decimal
  | blob {s : Shape} (hk : s.kind = .blob) : ReadAs origin (.blob s) .blob
  | timestamp {s : Shape} (hk : s.kind = .timestamp) (format : String) :
    ReadAs origin (.timestamp s format) (.timestamp (textFormat (.timestamp s format) origin))
  | enum {s : Shape} (hk : s.kind = .enum) : ReadAs origin (.enum s) (.enum s.constants)
  | intEnum {s : Shape} (hk : s.kind = .intEnum) : ReadAs origin (.intEnum s) (.int 32)

variable {origin : Origin} {r : Representation} {t : WireType}

theorem ReadAs.sized (h : r.ReadAs origin t) : t.Sized := by
  cases h with
  | @float s builtin f hb hk named =>
    cases hkind : s.kind with
    | float | double =>
      rw [hkind] at hk
      cases hk
      exact Nat.succ_pos _
    | _ =>
      rw [hkind] at hk
      cases hk
  | _ => trivial

/-! ## Reading one text -/

/-- The variables of the function for a part of a list. -/
def converting (field : String) (text : Bytes) : State Datum :=
  (({} : State Datum).put "field" (.data (.field field))).put "s" (.data (.value (.text text)))

theorem valid_converting (field : String) (text : Bytes) : (converting field text).Valid :=
  (State.Valid.put ⟨by simp, by simp⟩ "field" _).put "s" _

section

variable {decls : List TypeDecl} {split : Splitting} {spelled : String → String}
  {apply : List Param → List Stmt → List (Value Datum) → Flow Datum}
  {field : String} {text : Bytes} {c : Conversion}

theorem eval_converting_field (w : World Datum) (field : String) (text : Bytes) :
    (Expr.ident "field").eval w (converting field text).scope = some [.data (.field field)] :=
  eval_ident (by decide) (show (converting field text).scope "field" = some (0, _) from rfl)

theorem eval_converting_text (w : World Datum) (field : String) (text : Bytes) :
    (Expr.ident "s").eval w (converting field text).scope = some [.data (.value (.text text))] :=
  eval_ident (by decide) (show (converting field text).scope "s" = some (1, _) from rfl)

theorem evalAll_converting (w : World Datum) (field : String) (text : Bytes) :
    evalAll w (converting field text).scope [.ident "field", .ident "s"] =
      some [.data (.field field), .data (.value (.text text))] :=
  evalAll_cons (eval_converting_field w field text)
    (evalAll_cons (eval_converting_text w field text) rfl)

theorem evalAll_converting_format (w : World Datum) (field : String) (text : Bytes) (format : String) :
    evalAll w (converting field text).scope [.ident "field", .ident "s", support format] =
      some [.data (.field field), .data (.value (.text text)), w.support format] :=
  evalAll_cons (eval_converting_field w field text)
    (evalAll_cons (eval_converting_text w field text) (evalAll_cons eval_support rfl))

/-- A call of a function that reads text. -/
theorem eval_textReader {name : String} {types : List String}
    (hname : isQualified (supportAlias ++ "." ++ name) = true)
    (hreader : textReader? decls (supportAlias ++ "." ++ name) types = some t) :
    (Expr.call (support name) types [.ident "field", .ident "s"]).eval
      (textWorldOf decls split spelled apply) (converting field text).scope =
      some (Datum.results (t.parse field text)) := by
  rw [eval_textCall hname (evalAll_converting _ field text)]
  show some (((textReader? decls _ types).map _).getD []) = _
  rw [hreader]
  rfl

/-- The type that a simple value is converted to is made of its built-in type. -/
theorem underlying_declaredName {s : Shape} {builtin : String} {named : Bool}
    (hdecls : (simple s builtin named).DeclaredIn decls)
    (hbuiltin : underlying decls builtin = builtin)
    (hname : Binding.declaredName (simple s builtin named) ≠ "") :
    underlying decls (Binding.declaredName (simple s builtin named)) = builtin := by
  have hdeclared : Binding.declaredName (simple s builtin named) =
      if (simple s builtin named).type == builtin then "" else (simple s builtin named).type := rfl
  rw [hdeclared] at hname ⊢
  split at hname
  · exact absurd rfl hname
  · rename_i hne
    rw [if_neg hne]
    exact underlying_type hdecls hbuiltin

theorem textReader?_int {type : String} {bits : Nat}
    (h : intWidth? (underlying decls type) = some bits) :
    textReader? decls (supportAlias ++ "." ++ "ParseInt") [type] = some (.int bits) := by
  show (intWidth? (underlying decls type)).map WireType.int = _
  rw [h]
  rfl

theorem textReader?_float {type : String} {f : Number.Format}
    (h : floatFormat? (underlying decls type) = some f) :
    textReader? decls (supportAlias ++ "." ++ "ParseFloat") [type] = some (.float f) := by
  show (floatFormat? (underlying decls type)).map WireType.float = _
  rw [h]
  rfl

/-- The built-in types of floating point numbers. -/
theorem floatFormat?_builtin {kind : Kind} {builtin : String} {f : Number.Format}
    (hb : Registry.builtin? kind = some builtin) (hk : kind.format? = some f) :
    floatFormat? builtin = some f ∧ builtin ∈ floats := by
  cases kind with
  | float | double =>
    cases hb
    cases hk
    decide
  | _ => cases hk

theorem parser_ne {name : String} (type : String) (hname : name.toList.head? ≠ some 'P') :
    "Parse" ++ type ≠ name := by
  rintro rfl
  rw [String.toList_append] at hname
  exact hname rfl

theorem textReader?_parse (decls : List TypeDecl) (type : String) :
    textReader? decls ("Parse" ++ type) [] = (parsed? decls ("Parse" ++ type)).map .enum := by
  unfold textReader?
  split
  case h_7 => rfl
  case h_8 hnil _ _ _ _ _ _ => exact absurd rfl hnil
  all_goals exact absurd ‹_› (parser_ne type (by decide))

/-- The functions that read constants are no variables of a function that converts. -/
theorem eval_parse (type : String) :
    (Expr.callOf ("Parse" ++ type) [.ident "field", .ident "s"]).eval
      (textWorldOf decls split spelled apply) (converting field text).scope =
      some (calledOnText decls split apply ("Parse" ++ type) []
        [.data (.field field), .data (.value (.text text))]) := by
  have hscope : (converting field text).scope ("Parse" ++ type) = none := by
    have hs : ("Parse" ++ type == "s") = false := beq_false_of_ne (parser_ne type (by decide))
    have hfield : ("Parse" ++ type == "field") = false :=
      beq_false_of_ne (parser_ne type (by decide))
    show (([("s", 1), ("field", 0)].lookup ("Parse" ++ type)).or none).map _ = none
    rw [List.lookup_cons, hs, List.lookup_cons, hfield]
    rfl
  refine eval_call (f := .data (.name ("Parse" ++ type))) ?_ (evalAll_converting _ field text)
  simp only [Expr.eval, World.read, hscope, Option.map_none, Option.getD_none, ite_self]
  rfl

theorem served_partReader_eq (r : Representation) (c : Conversion) (w : World Datum)
    (field : String) (text : Bytes) :
    ((Binding.partReader r c).applied w [.data (.field field), .data (.value (.text text))]).served =
      (runAll w (c.ret (r.zero true)) (converting field text)).served := rfl

/-- Reading a type that may be declared with a name of its own. -/
theorem served_declared {s : Shape} {builtin zero : String} {named : Bool}
    {x : Served Wire.Value} (hdecls : (simple s builtin named).DeclaredIn decls)
    (hbuiltin : underlying decls builtin = builtin)
    (hwrap : c.wrap = Binding.declaredName (simple s builtin named)) (hfallible : c.fallible = true)
    (hexpr : c.expr.eval (textWorldOf decls split spelled apply) (converting field text).scope =
      some (Datum.results x))
    (hconvert : ∀ v, x = .ok v → convertTo builtin v = some v) :
    (runAll (textWorldOf decls split spelled apply) (c.ret (.lit zero))
      (converting field text)).served = x := by
  by_cases hname : Binding.declaredName (simple s builtin named) = ""
  · exact served_ret _ hfallible (hwrap.trans hname) hexpr
  · refine served_ret_wrapped _ (valid_converting field text) hfallible hexpr fun v hv => ?_
    refine convert_textWorldOf ?_
    rw [hwrap, underlying_declaredName hdecls hbuiltin hname]
    exact hconvert v hv

/-- A text is read without a function, and cannot fail: it is returned as it is, or converted to the
type that is declared for it. -/
theorem served_string {s : Shape} {named : Bool} {zero : Expr}
    (hdecls : (simple s "string" named).DeclaredIn decls)
    (hbuiltin : underlying decls "string" = "string") :
    (runAll (textWorldOf decls split spelled apply)
      ((⟨.ident "s", false, Binding.declaredName (simple s "string" named)⟩ : Conversion).ret zero)
      (converting field text)).served = .ok (.text text) := by
  have htext := eval_converting_text (textWorldOf decls split spelled apply) field text
  have hwrapped : (Conversion.wrapped ⟨.ident "s", false, Binding.declaredName (simple s "string"
      named)⟩ (.ident "s")).eval (textWorldOf decls split spelled apply)
      (converting field text).scope = some [.data (.value (.text text))] := by
    rw [Conversion.wrapped]
    split
    · exact htext
    · rename_i hname
      rw [eval_conv htext, convert_textWorldOf]
      rw [underlying_declaredName hdecls hbuiltin fun heq => hname (beq_iff_eq.2 heq)]
      rfl
  have hvalues : results (textWorldOf decls split spelled apply) (converting field text).scope
      [_, .nil] = some _ := evalAll_cons hwrapped (evalAll_cons eval_nil rfl)
  show (runAll _ [.ret _] _).served = _
  rw [runAll_cons, run_ret hvalues]
  rfl

/-- **The function for one part** of a list reads as the type does. -/
theorem served_partReader {m : Member} (hr : r.ReadAs origin t) (hdecls : r.DeclaredIn decls)
    (hbuiltins : ∀ b ∈ builtins ++ floats, underlying decls b = b)
    (hc : Binding.fromText m origin r (.ident "field") (.ident "s") = .ok c) :
    ((Binding.partReader r c).applied (textWorldOf decls split spelled apply)
      [.data (.field field), .data (.value (.text text))]).served = t.parse field text := by
  rw [served_partReader_eq]
  have hmem (b : String) (hb : b ∈ builtins ∨ b ∈ floats) : underlying decls b = b :=
    hbuiltins b (List.mem_append.2 hb)
  cases hr with
  | @boolean s hk named =>
    simp only [Binding.fromText, shape, hk] at hc
    cases hc
    simp only [zero, hk]
    refine served_declared hdecls (hmem "bool" (.inl (by decide))) rfl rfl
      (eval_textReader (by decide) rfl) fun v hv => ?_
    cases hb : Wire.parseBool field text with
    | error e =>
      rw [WireType.parse, hb] at hv
      cases hv
    | ok b =>
      rw [WireType.parse, hb] at hv
      cases hv
      rfl
  | @string s hk named =>
    simp only [Binding.fromText, shape, hk] at hc
    cases hc
    exact served_string hdecls (hmem "string" (.inl (by decide)))
  | @integer s builtin bits hb hk named =>
    obtain ⟨hwidth, hbuiltin⟩ := intWidth?_builtin hb hk
    have hunder := underlying_type hdecls (hmem builtin (.inl hbuiltin))
    cases hkind : s.kind with
    | byte | short | integer | long =>
      simp only [Binding.fromText, shape, hkind] at hc
      cases hc
      exact served_ret _ rfl rfl (eval_textReader (by decide)
        (textReader?_int (by rw [hunder, hwidth])))
    | intEnum =>
      rw [hkind] at hb
      cases hb
    | _ =>
      rw [hkind] at hk
      cases hk
  | @float s builtin f hb hk named =>
    obtain ⟨hformat, hbuiltin⟩ := floatFormat?_builtin hb hk
    have hunder := underlying_type hdecls (hmem builtin (.inr hbuiltin))
    cases hkind : s.kind with
    | float | double =>
      simp only [Binding.fromText, shape, hkind] at hc
      cases hc
      exact served_ret _ rfl rfl (eval_textReader (by decide)
        (textReader?_float (by rw [hunder, hformat])))
    | _ =>
      rw [hkind] at hk
      cases hk
  | bigInteger hk | bigDecimal hk | blob hk =>
    simp only [Binding.fromText, shape, hk] at hc
    cases hc
    exact served_ret _ rfl rfl (eval_textReader (by decide) rfl)
  | @timestamp s hk format =>
    simp only [Binding.fromText, shape, hk] at hc
    cases hc
    have hargs := evalAll_converting_format (textWorldOf decls split spelled apply) field text
      (Binding.timeFormat (.timestamp s format) origin)
    exact served_ret _ rfl rfl ((eval_textCall (by decide) hargs).trans rfl)
  | @enum s hk =>
    simp only [Binding.fromText, shape, hk, parser?] at hc
    cases hc
    refine served_ret _ rfl rfl ((eval_parse (typeName s)).trans ?_)
    have hreader : textReader? decls ("Parse" ++ typeName s) [] = some (.enum s.constants) := by
      rw [textReader?_parse, show parsed? decls _ = some s.constants from hdecls]
      rfl
    show some (((textReader? decls _ _).map _).getD []) = _
    rw [hreader]
    rfl
  | @intEnum s hk =>
    simp only [Binding.fromText, shape, hk] at hc
    cases hc
    refine served_ret _ rfl rfl (eval_textReader (by decide) (textReader?_int ?_))
    rw [show underlying decls (intEnum s).type = "int32" from hdecls]
    rfl

end

end Representation

/-! ## Shapes whose values are read from text -/

namespace Registry

variable {g : Registry} {cs : List Contributor} {decls : List TypeDecl} {s : Shape}
  {r : Representation}

/-- A shape that is no container is represented in the same way however small the bound is. -/
theorem ofShape_of_resolve {n : Nat} (hk : s.kind ∉ containers) (h : g.resolve n s = .ok r) :
    g.ofShape s = .ok r := by
  cases n with
  | zero => cases h
  | succ n =>
    rw [← h, ofShape, depthBound, resolve, resolve]
    cases hkind : s.kind with
    | list | set | map =>
      rw [hkind] at hk
      exact absurd (by decide) hk
    | _ => rfl

/-- Text is converted to values of a type, wherever a package declares what is generated for them. -/
def ReadsText (g : Registry) (origin : Origin) (r : Representation) : Prop :=
  ∃ t, r.ReadAs origin t ∧ ∀ cs decls, g.Emits cs decls r → (∀ d ∈ decls, d.name ∉ floats) →
    r.DeclaredIn decls

/-- So it is where the value is of a built-in type, or of one that is made of a built-in type. -/
theorem readsText_simple {origin : Origin} {builtin : String} {named : Bool}
    (hb : builtin? s.kind = some builtin) (h : g.ofShape s = .ok (.simple s builtin named)) :
    g.ReadsText origin (.simple s builtin named) := by
  have hinteger {bits : Nat} (hw : s.kind.width? = some bits) :
      g.ReadsText origin (.simple s builtin named) :=
    ⟨_, .integer hb hw _, fun _ _ he _ => he.declaredIn (.integer hb hw _) h⟩
  have hfloat {f : Number.Format} (hf : s.kind.format? = some f) :
      g.ReadsText origin (.simple s builtin named) := by
    refine ⟨_, .float hb hf _, fun _ _ he hfloats => ?_⟩
    have hbuiltin := underlying_of_apart fun d hd heq => hfloats d hd
      (heq ▸ (Representation.floatFormat?_builtin hb hf).2)
    exact he.declaredIn_simple hb hbuiltin h
  cases hk : s.kind with
  | boolean =>
    obtain rfl : "bool" = builtin := Option.some.inj (by rw [← hb, hk]; rfl)
    exact ⟨_, .boolean hk _, fun _ _ he _ => he.declaredIn (.boolean hk _) h⟩
  | string =>
    obtain rfl : "string" = builtin := Option.some.inj (by rw [← hb, hk]; rfl)
    exact ⟨_, .string hk _, fun _ _ he _ => he.declaredIn (.string hk _) h⟩
  | byte | short | integer | long => exact hinteger (by rw [hk]; rfl)
  | float | double => exact hfloat (by rw [hk]; rfl)
  | _ =>
    rw [hk] at hb
    cases hb

/-- **Whatever text is converted to** has a type. -/
theorem readsText_of_fromText {n : Nat} {m item : Member} {origin : Origin} {field raw : Expr}
    {c : Conversion} (hr : g.resolve n s = .ok r) (hk : s.kind.isCollection = false)
    (hc : Binding.fromText m origin (refine item r) field raw = .ok c) :
    g.ReadsText origin (refine item r) := by
  have hleaf (hkind : s.kind ∉ containers) : g.ofShape s = .ok r := ofShape_of_resolve hkind hr
  cases represents_of_resolve hr with
  | simple hb =>
    refine readsText_simple hb (hleaf fun hmem => ?_)
    simp only [containers, List.mem_cons, List.not_mem_nil, or_false] at hmem
    rcases hmem with hkind | hkind | hkind <;> (rw [hkind] at hb; cases hb)
  | timestamp format hkind => exact ⟨_, .timestamp hkind _, fun _ _ _ _ => trivial⟩
  | blob hkind => exact ⟨_, .blob hkind, fun _ _ _ _ => trivial⟩
  | bigInteger hkind => exact ⟨_, .bigInteger hkind, fun _ _ _ _ => trivial⟩
  | bigDecimal hkind => exact ⟨_, .bigDecimal hkind, fun _ _ _ _ => trivial⟩
  | enum hkind =>
    exact ⟨_, .enum hkind, fun _ _ he _ =>
      he.declaredIn (.enum hkind) (hleaf (by rw [hkind]; decide))⟩
  | intEnum hkind =>
    exact ⟨_, .intEnum hkind, fun _ _ he _ =>
      he.declaredIn (.intEnum hkind) (hleaf (by rw [hkind]; decide))⟩
  | document hkind => simp [refine, Binding.fromText, Representation.shape, hkind] at hc
  | structure_ hkind =>
    rcases hkind with hkind | hkind <;>
      simp [refine, Binding.fromText, Representation.shape, hkind] at hc
  | list hkind =>
    rcases hkind with hkind | hkind <;> (rw [hkind] at hk; cases hk)
  | map hkind => simp [refine, Binding.fromText, Representation.shape, hkind] at hc

end Registry
end Shapewright
