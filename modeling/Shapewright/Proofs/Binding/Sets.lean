import Shapewright.Proofs.Binding.Resolving
import Shapewright.Proofs.Binding.Texts
import Shapewright.Proofs.Wire.Repeats

/-!
# Sets that are bound

A member that is a set is bound to the path, the query, a header or the body.  From text it is made a
set: of the values that the parts are converted to, one is kept for each key.  From a document it is
read as a list would be, item by item, and what the document repeats is repeated.

* `Code.World.ReadsLists` — a world in which lists are read item by item.
* `Conversion.Yields` — the outcome of a conversion.
* `Binding.yields_fromText` — a set that arrives as text.
* `Binding.eval_fromRaw` — a set in a document.
* `Registry.bound_sets` — both, for every declaration of a set.
-/

set_option autoImplicit false

namespace Shapewright

open Code Support
open Wire (Raw WireType Served)

/-! ## Outcomes -/

/-- What a conversion comes to: a value, with an error beside it if the conversion can fail. -/
def Conversion.Yields (c : Conversion) (w : World Datum) (scope : Scope Datum)
    (x : Served Wire.Value) : Prop :=
  c.expr.eval w scope = some (if c.fallible then Datum.results x
    else (x.toOption.map fun v => Value.data (.value v)).toList)

/-- The parts of a text for a list with some elements. -/
def Splitting.of (split : Splitting) (element : Representation) (origin : Origin) (text : Bytes) :
    List Bytes :=
  if Binding.splitter element origin == "SplitHttpDates" then split.dates text else split.parts text

/-- The set that text is converted to: the values of its parts, the first with each key. -/
def Wire.WireType.setOf (t : WireType) (field : String) (parts : List Bytes) :
    Served (List Wire.Value) :=
  (parts.mapM (t.parse field)).map (Text.firstBy Wire.Value.key)

/-- It is the set that the parts are read as. -/
theorem Wire.WireType.setOf_eq (t : WireType) (field : String) (parts : List Bytes) :
    t.setOf field parts = t.parseList true field parts := by
  rw [setOf, parseList, if_pos rfl, Wire.convertSet, funext (Wire.withoutRepeats_eq Wire.Value.key)]
  rfl

namespace Binding

/-! ## Sets that arrive as text -/

section

variable {decls : List TypeDecl} {split : Splitting} {spelled : String → String}
  {scope : Scope Datum} {s : Shape} {element : Representation} {origin : Origin} {t : WireType}
  {m : Member} {field raw : Expr} {name : String} {text : Bytes}

/-- The parts are what the splitting function returns. -/
theorem eval_splitter {apply : List Param → List Stmt → List (Value Datum) → Flow Datum}
    (hraw : raw.eval (textWorldOf decls split spelled apply) scope =
      some [.data (.value (.text text))]) :
    (supportCall (splitter element origin) [raw]).eval (textWorldOf decls split spelled apply)
      scope = some [.data (.value (.list ((split.of element origin text).map .text)))] := by
  have hargs : evalAll (textWorldOf decls split spelled apply) scope [raw] =
      some [.data (.value (.text text))] := evalAll_cons hraw rfl
  rw [splitter, Splitting.of, splitter]
  split
  · exact (eval_textCall (by decide) hargs).trans rfl
  · exact (eval_textCall (by decide) hargs).trans rfl

/-- Only texts need no conversion that can fail. -/
theorem string_of_fromText {c : Conversion} (hr : element.ReadAs origin t)
    (hc : fromText m origin element field raw = .ok c) (hfallible : c.fallible = false) :
    t = .string ∧ element.shape.kind = .string := by
  cases hr with
  | string hk named => exact ⟨rfl, hk⟩
  | @integer s builtin bits hb hk named =>
    cases hkind : s.kind with
    | byte | short | integer | long | intEnum =>
      simp only [fromText, Representation.shape, hkind] at hc
      cases hc
      cases hfallible
    | _ =>
      rw [hkind] at hk
      cases hk
  | @float s builtin f hb hk named =>
    cases hkind : s.kind with
    | float | double =>
      simp only [fromText, Representation.shape, hkind] at hc
      cases hc
      cases hfallible
    | _ =>
      rw [hkind] at hk
      cases hk
  | boolean hk | bigInteger hk | bigDecimal hk | blob hk | timestamp hk | enum hk | intEnum hk =>
    simp only [fromText, Representation.shape, Representation.parser?, hk] at hc
    cases hc
    cases hfallible

/-- Texts that are converted by nothing are only split. -/
theorem setOf_string (name : String) (parts : List Bytes) :
    WireType.string.setOf name parts = .ok ((Text.firstBy id parts).map .text) := by
  have hread : parts.mapM (WireType.string.parse name) = .ok (parts.map .text) :=
    Wire.mapM_eq_ok fun _ _ => rfl
  rw [WireType.setOf, hread]
  show Except.ok (Text.firstBy Wire.Value.key (parts.map .text)) = _
  rw [Text.firstBy_map]
  rfl

/-- The parts of a list are converted by a function for its elements, which are no lists. -/
theorem exists_part_of_fromText {c : Conversion}
    (hc : fromText m origin (.list s element) field raw = .ok c) :
    element.shape.kind.isCollection = false ∧ ∃ c',
      fromText m origin element (.ident "field") (.ident "s") = .ok c' ∧
      c = fromParts s element origin c' field raw := by
  rw [fromText] at hc
  split at hc
  · cases hc
  · rename_i hkind
    obtain ⟨c', hc', hc⟩ := Outcome.exists_ok_of_bind hc
    exact ⟨by simpa using hkind, c', hc', (Except.ok.inj hc).symm⟩

/-- **A set that arrives as text** is the set of its parts. -/
theorem yields_fromText {c : Conversion} (hset : s.kind = .set) (hr : element.ReadAs origin t)
    (hdecls : element.DeclaredIn decls)
    (hbuiltins : ∀ b ∈ builtins ++ floats, underlying decls b = b)
    (hc : fromText m origin (.list s element) field raw = .ok c)
    (hfield : field.eval (textWorld decls split spelled) scope = some [.data (.field name)])
    (hraw : raw.eval (textWorld decls split spelled) scope = some [.data (.value (.text text))]) :
    c.Yields (textWorld decls split spelled) scope
      ((t.setOf name (split.of element origin text)).map .list) := by
  obtain ⟨-, c', hc', rfl⟩ := exists_part_of_fromText hc
  rw [fromParts, Conversion.Yields]
  simp only [hset, beq_self_eq_true, if_true]
  split
  · rename_i hplain
    obtain ⟨hfallible, hwrap⟩ := Bool.and_eq_true_iff.1 hplain
    obtain ⟨rfl, hkind⟩ := string_of_fromText hr hc' (by simpa using hfallible)
    have hsplit : split.of element origin text = split.parts text := by
      rw [Splitting.of, splitter, hkind]
      rfl
    rw [hsplit, setOf_string]
    exact (eval_textCall (by decide) (evalAll_cons hraw rfl)).trans rfl
  · have hargs : evalAll (textWorld decls split spelled) scope
        [field, supportCall (splitter element origin) [raw], partReader element c'] =
        some [.data (.field name), .data (.value (.list ((split.of element origin text).map .text))),
          .data (.func [⟨"field", "string"⟩, ⟨"s", "string"⟩] (c'.ret (element.zero true)))] :=
      evalAll_cons hfield (evalAll_cons (eval_splitter hraw) (evalAll_cons rfl rfl))
    have hparts : (((split.of element origin text).map Wire.Value.text).mapM fun v =>
        (applied (textWorldOf decls split spelled fun _ _ _ => .stuck)
          [⟨"field", "string"⟩, ⟨"s", "string"⟩] (c'.ret (element.zero true))
          [.data (.field name), .data (.value v)]).served) =
        (split.of element origin text).mapM (t.parse name) := by
      rw [List.mapM_map]
      exact congrArg (fun f => List.mapM f _)
        (funext fun _ => Representation.served_partReader hr hdecls hbuiltins hc')
    refine (eval_textCall (by decide) hargs).trans ?_
    rw [WireType.setOf, ← hparts]
    rfl

end

/-! ## Sets in documents -/

end Binding

/-- A world in which the support package reads lists item by item. What values are, and what function
literals come to, is up to the world. -/
structure Code.World.ReadsLists {δ : Type} (w : World δ) (α : Type) where
  /-- The value of a field's name. -/
  named : String → Value δ
  document : Raw → Value δ
  /-- What a function literal makes of an item. -/
  convert : List Param → List Stmt → String → Raw → Served α
  results : Served (List α) → List (Value δ)
  called : ∀ params types body name doc, w.call (w.support "ListFromJSON") []
    [named name, document doc, w.closure params types body] =
      results (Wire.listFromRaw (convert params body) name doc)

/-- What the items of a list with some elements are converted to. -/
def Code.World.ReadsLists.item {δ α : Type} {w : World δ} (R : w.ReadsLists α)
    (element : Representation) : String → Raw → Served α :=
  R.convert [⟨"field", "string"⟩, ⟨"raw", "interface\x7b\x7d"⟩]
    ((element.fromRaw (.ident "field") (.ident "raw")).ret (element.zero true))

/-- A list has an element for each item of the document, and no others. -/
theorem Wire.exists_items_of_listFromRaw {α : Type} {convert : String → Raw → Served α}
    {field : String} {doc : Raw} {vs : List α} (h : listFromRaw convert field doc = .ok vs) :
    ∃ items, doc = .list items ∧ List.Forall₂ (fun e v =>
      convert (field ++ "[" ++ toString e.2 ++ "]") e.1 = .ok v) items.zipIdx vs := by
  cases doc with
  | list items => exact ⟨items, rfl, Outcome.forall₂_of_mapM h⟩
  | _ => cases h

namespace Binding

/-- **A set in a document** is read like a list. -/
theorem eval_fromRaw {δ α : Type} [DecidableEq δ] {w : World δ} (R : w.ReadsLists α)
    {scope : Scope δ} (s : Shape) (element : Representation) {field raw : Expr} {name : String}
    {doc : Raw} (hfield : field.eval w scope = some [R.named name])
    (hraw : raw.eval w scope = some [R.document doc]) :
    ((Representation.list s element).fromRaw field raw).expr.eval w scope =
      some (R.results (Wire.listFromRaw (R.item element) name doc)) := by
  rw [Code.World.ReadsLists.item, ← R.called _ [element.type, "error"]]
  exact eval_call eval_support (evalAll_cons hfield (evalAll_cons hraw (evalAll_cons rfl rfl)))

/-! ## Declarations of sets -/

/-- Where a set is bound decides how it is converted. -/
theorem convert_of_bind {m : Member} {target : Shape} {r : Representation} {origin o : Origin}
    {uri : Option UriPattern} {e : Extraction} {c : Conversion} (hset : r.shape.kind = .set)
    (h : bind m target r origin uri = .ok (o, e, c)) :
    (o.isText = true → fromText m o r (.str m.name) (.ident "raw") = .ok c) ∧
      (o.isText = false → c = r.fromRaw (.str m.name) (.ident "raw")) := by
  unfold bind at h
  split at h
  · obtain ⟨e', -, h⟩ := Outcome.exists_ok_of_bind h
    obtain ⟨c', hc, h⟩ := Outcome.exists_ok_of_bind h
    cases h
    exact ⟨fun _ => hc, nofun⟩
  · obtain ⟨c', hc, h⟩ := Outcome.exists_ok_of_bind h
    cases h
    exact ⟨fun _ => hc, nofun⟩
  · obtain ⟨c', hc, h⟩ := Outcome.exists_ok_of_bind h
    cases h
    exact ⟨fun _ => hc, nofun⟩
  · obtain ⟨c', hc, h⟩ := Outcome.exists_ok_of_bind h
    cases h
    rw [fromPayload, hset] at hc
    exact ⟨nofun, fun _ => (Except.ok.inj hc).symm⟩
  · cases h
    exact ⟨nofun, fun _ => rfl⟩

end Binding

namespace Registry

variable {g : Registry} {m : Member} {target : Shape} {origin : Origin} {uri : Option UriPattern}
  {d : Declaration}

theorem shape_refine (item : Member) (r : Representation) : (refine item r).shape = r.shape := by
  cases r <;> rfl

/-- A set is represented by what its item refers to. -/
theorem exists_element_of_ofMember {r : Representation} (ht : g.catalog.target m = .ok target)
    (hset : target.kind = .set) (h : g.ofMember m = .ok r) :
    ∃ (n : Nat) (item : Member) (t : Shape) (element : Representation),
      g.resolve n t = .ok element ∧ r = .list target (refine item element) := by
  obtain ⟨t, ht', h⟩ := Outcome.exists_ok_of_bind h
  obtain rfl := Except.ok.inj (ht.symm.trans ht')
  obtain ⟨r', hr', h⟩ := Outcome.exists_ok_of_bind h
  rw [ofShape, depthBound, resolve, hset] at hr'
  simp only [builtin?] at hr'
  split at hr'
  · cases hr'
  · rename_i item _
    obtain ⟨element, helement, hr'⟩ := Outcome.exists_ok_of_bind hr'
    obtain ⟨t', -, helement⟩ := Outcome.exists_ok_of_bind helement
    obtain ⟨inner, hinner, helement⟩ := Outcome.exists_ok_of_bind helement
    cases helement
    cases hr'
    cases h
    exact ⟨_, item, t', inner, hinner, rfl⟩

/-- **Sets that are bound.** -/
theorem bound_sets (ht : g.catalog.target m = .ok target) (hset : target.kind = .set)
    (hd : g.declare m target origin uri = .ok d) :
    ∃ element, g.ofMember m = .ok (.list target element) ∧
      (d.origin.isText = true → ∃ t, element.ReadAs d.origin t ∧
        ∀ cs decls, g.Emits cs decls element → (∀ x ∈ decls, x.name ∉ floats) →
        ∀ split spelled scope text,
          (Expr.ident "raw").eval (textWorld decls split spelled) scope =
            some [.data (.value (.text text))] →
          ∃ outcome, outcome = t.setOf (spelled (Text.quote m.name))
              (split.of element d.origin text) ∧
            d.convert.Yields (textWorld decls split spelled) scope (outcome.map .list) ∧
            ∀ vs, outcome = .ok vs → vs.Pairwise fun v w => v.Equal w → v.OppositeZeros w) ∧
      (d.origin.isText = false → ∀ (δ α : Type) [DecidableEq δ] (w : World δ) (R : w.ReadsLists α)
        scope name doc, w.literal (Text.quote m.name) = R.named name →
          (Expr.ident "raw").eval w scope = some [R.document doc] →
          ∃ outcome, outcome = Wire.listFromRaw (R.item element) name doc ∧
            d.convert.expr.eval w scope = some (R.results outcome) ∧
            ∀ vs, outcome = .ok vs → ∃ items, doc = .list items ∧ List.Forall₂ (fun e v =>
              R.item element (name ++ "[" ++ toString e.2 ++ "]") e.1 = .ok v)
              items.zipIdx vs) := by
  obtain ⟨r, hsettled⟩ := exists_settled_of_declare hd
  obtain ⟨n, item, t, inner, hinner, rfl⟩ :=
    exists_element_of_ofMember ht hset hsettled.represented
  obtain ⟨htext, hdoc⟩ := Binding.convert_of_bind (r := .list target _) hset hsettled.bound
  refine ⟨_, hsettled.represented, fun horigin => ?_, fun horigin => ?_⟩
  · have hc := htext horigin
    obtain ⟨hkind, c, hpart, -⟩ := Binding.exists_part_of_fromText hc
    rw [shape_refine, (represents_of_resolve hinner).shape] at hkind
    obtain ⟨t', hread, hdeclared⟩ := readsText_of_fromText hinner hkind hpart
    refine ⟨t', hread, fun cs decls hemits hfloats split spelled scope text hraw => ?_⟩
    have hbuiltins : ∀ b ∈ builtins ++ floats, underlying decls b = b := by
      intro b hb
      rcases List.mem_append.1 hb with hb | hb
      · exact hemits.underlying_builtin b hb
      · exact underlying_of_apart fun x hx heq => hfloats x hx (heq ▸ hb)
    refine ⟨_, rfl, Binding.yields_fromText hset hread (hdeclared cs decls hemits hfloats)
      hbuiltins hc eval_str hraw, fun vs hvs => ?_⟩
    obtain ⟨ws, hws, rfl⟩ := Outcome.exists_ok_of_map hvs
    exact WireType.pairwise_firstBy_key hread.sized hws
  · intro δ α _ w R scope name doc hliteral hraw
    rw [hdoc horigin]
    exact ⟨_, rfl, Binding.eval_fromRaw R target _ (eval_str.trans (by rw [hliteral])) hraw,
      fun vs hvs => Wire.exists_items_of_listFromRaw hvs⟩

/-! ## A set of numbers -/

/-- A set of integers. -/
def scores : Shape :=
  { id := ⟨"ex#Scores"⟩, kind := .set
    item := some { name := "member", container := ⟨"ex#Scores"⟩, target := ⟨"smithy.api#Integer"⟩ } }

/-- A model with this set. -/
def scoresRegistry : Registry :=
  { catalog := ⟨OrderedMap.insert {} "ex#Scores" scores⟩ }

/-- A member that is such a set. -/
def scoresMember : Member :=
  { name := "scores", container := ⟨"ex#Input"⟩, target := ⟨"ex#Scores"⟩ }

/-- The variable that holds a raw value. -/
def rawOnly (d : Datum) : State Datum := ({} : State Datum).put "raw" (.data d)

/-- The world of documents, in which every literal is the name of the member. -/
noncomputable def scoresWorld : World Datum :=
  { world [] 1 with literal := fun _ => .data (.field "scores") }

/-- In the world of documents lists are read item by item. -/
noncomputable def scoresReads : scoresWorld.ReadsLists Wire.Value where
  named name := .data (.field name)
  document doc := .data (.document doc)
  convert params body field doc :=
    (applied (world [] 0) params body [.data (.field field), .data (.document doc)]).served
  results x := Datum.results (x.map .list)
  called params types body name doc := by
    have hclosure : scoresWorld.closure params types body = .data (.func params body) := by
      obtain ⟨apply, happly⟩ := exists_world_eq [] 1
      show (world [] 1).closure params types body = _
      rw [happly]
      rfl
    have hname : scoresWorld.support "ListFromJSON" = .data (.name "runtime.ListFromJSON") :=
      show (world [] 1).global _ = _ from global_world _
    have hcall : scoresWorld.call = (world [] 1).call := rfl
    rw [hclosure, hname, hcall, call_world_succ]
    rfl

/-- How its numbers are represented. -/
def scoreElement : Representation :=
  .simple { id := ⟨"smithy.api#Integer"⟩, kind := .integer } "int32" false

theorem item_scoreElement (field : String) (doc : Raw) :
    scoresReads.item scoreElement field doc = (WireType.int 32).fromRaw field doc :=
  Representation.readBack_eq (.integer rfl rfl false) nofun (by simp [underlying]) (by decide)
    field doc

theorem parts_scores : Splitting.usual.of scoreElement .query (Bytes.encode "1, 01, 2") =
    ["1", "01", "2"].map Bytes.encode := by
  have hparts : Wire.splitList "1, 01, 2" = ["1", "01", "2"] := by decide +kernel
  have hof : Splitting.usual.of scoreElement .query (Bytes.encode "1, 01, 2") =
      Splitting.usual.parts (Bytes.encode "1, 01, 2") := rfl
  rw [hof, Splitting.parts_encode, hparts]

theorem parseList_scores (field : String) :
    (WireType.int 32).parseList true field (["1", "01", "2"].map Bytes.encode) =
      .ok [.int 1, .int 2] := rfl

/-- The same number in two spellings is one element of a set in a query, and the numbers of a document
are elements. -/
theorem bound_sets_scores :
    (∃ d, scoresRegistry.declare scoresMember scores .query none = .ok d ∧
      d.convert.Yields (textWorld [] .usual id)
        (rawOnly (.value (.text (Bytes.encode "1, 01, 2")))).scope
        (.ok (.list [.int 1, .int 2]))) ∧
    ∃ d, scoresRegistry.declare scoresMember scores .body none = .ok d ∧
      d.convert.expr.eval scoresWorld
        (rawOnly (.document (.list [.number (.text "1"), .number (.text "2")]))).scope =
        some (Datum.results (.ok (.list [.int 1, .int 2]))) := by
  have ht : scoresRegistry.catalog.target scoresMember = .ok scores := rfl
  have hrep : scoresRegistry.ofMember scoresMember = .ok (.list scores scoreElement) := rfl
  have hraw (d : Datum) (w : World Datum) :
      (Expr.ident "raw").eval w (rawOnly d).scope = some [.data d] :=
    eval_ident (by decide) (show (rawOnly d).scope "raw" = some (0, _) from rfl)
  constructor
  · obtain ⟨d, hd⟩ : ∃ d, scoresRegistry.declare scoresMember scores .query none = .ok d := ⟨_, rfl⟩
    have horigin : d.origin = .query := by
      cases hd
      rfl
    obtain ⟨element, helement, htext, -⟩ := bound_sets ht rfl hd
    obtain rfl : scoreElement = element := by
      cases hrep.symm.trans helement
      rfl
    obtain ⟨t, hread, h⟩ := htext (by rw [horigin]; rfl)
    obtain ⟨outcome, houtcome, hyields, -⟩ := h [] [] ⟨.nil, by simp, none, rfl, nofun⟩ (by simp)
      .usual id _ (Bytes.encode "1, 01, 2") (hraw _ _)
    obtain rfl : t = .int 32 := by
      generalize hr : scoreElement = r at hread
      cases hread with
      | integer hb hk named =>
        cases hr
        cases hk
        rfl
      | float hb hk named =>
        cases hr
        cases hk
      | _ => simp [scoreElement] at hr
    have hset : outcome = .ok [.int 1, .int 2] := by
      rw [houtcome, horigin, parts_scores, WireType.setOf_eq, parseList_scores]
    rw [hset] at hyields
    exact ⟨d, hd, hyields⟩
  · obtain ⟨d, hd⟩ : ∃ d, scoresRegistry.declare scoresMember scores .body none = .ok d := ⟨_, rfl⟩
    have horigin : d.origin.isText = false := by
      cases hd
      rfl
    obtain ⟨element, helement, -, hdoc⟩ := bound_sets ht rfl hd
    obtain rfl : scoreElement = element := by
      cases hrep.symm.trans helement
      rfl
    obtain ⟨outcome, houtcome, heval, -⟩ := hdoc horigin Datum Wire.Value scoresWorld scoresReads _
      "scores" (.list [.number (.text "1"), .number (.text "2")]) rfl (hraw _ _)
    have hset : outcome = .ok [.int 1, .int 2] := by
      rw [houtcome, funext₂ item_scoreElement]
      rfl
    rw [hset] at heval
    exact ⟨d, hd, heval⟩

/-- **A set in a document can repeat a value:** what is bound has the same number twice. -/
theorem bound_sets_repeated :
    ∃ d vs, scoresRegistry.declare scoresMember scores .body none = .ok d ∧
      d.convert.expr.eval scoresWorld
        (rawOnly (.document (.list [.number (.text "1"), .number (.text "1")]))).scope =
        some (Datum.results (.ok (.list vs))) ∧
      ¬ vs.Pairwise fun v w => ¬ v.Equal w := by
  refine ⟨_, [.int 1, .int 1], rfl, ?_, fun h => List.rel_of_pairwise_cons h List.mem_cons_self rfl⟩
  have hraw : (Expr.ident "raw").eval scoresWorld (rawOnly (.document (.list
      [.number (.text "1"), .number (.text "1")]))).scope = some [scoresReads.document _] :=
    eval_ident (by decide) (show (rawOnly _).scope "raw" = some (0, _) from rfl)
  have heval := Binding.eval_fromRaw scoresReads scores scoreElement
    (show (Expr.str "scores").eval scoresWorld _ = some [scoresReads.named "scores"] from eval_str)
    hraw
  rw [funext₂ item_scoreElement] at heval
  exact heval

end Registry
end Shapewright
