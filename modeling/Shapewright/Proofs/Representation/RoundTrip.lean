import Shapewright.Proofs.Failure
import Shapewright.Proofs.Json.RoundTrip
import Shapewright.Proofs.OrderedMap
import Shapewright.Proofs.Representation.Conversions
import Shapewright.Proofs.Shape.Nodes

/-!
# Documents lose nothing

A shape that is built from truth values, integers, texts, constants and bytes by lists, sets and maps
has conversions that are inverse to each other: what is generated to read such a shape from a document
gives back the value that was written.

* `Registry.BuiltAs` — the shapes, with the types of their values.
* `Registry.exists_ofShape` — such a shape has a representation.  Choosing one is bounded by the size
  of the catalog, and that is enough: a longer chain of containers would repeat one, and then be
  endless.
* `Registry.Emits` — a package holds what is generated for a representation.
* `Registry.readBack_written` — the round trip.
-/

set_option autoImplicit false

namespace Shapewright

open Code Support
open Wire (Raw WireType Served Fault)

/-! ## Shapes -/

/-- A shape is built by containers around values that lose nothing, which gives its values a type. -/
inductive Registry.BuiltAs (g : Registry) : Shape → WireType → Prop
  | boolean {s : Shape} (hk : s.kind = .boolean) : BuiltAs g s .bool
  | string {s : Shape} (hk : s.kind = .string) : BuiltAs g s .string
  /-- The bounded integers, enumerations of integers included. -/
  | integer {s : Shape} {bits : Nat} (hk : s.kind.width? = some bits) : BuiltAs g s (.int bits)
  | bigInteger {s : Shape} (hk : s.kind = .bigInteger) : BuiltAs g s .bigInteger
  | blob {s : Shape} (hk : s.kind = .blob) : BuiltAs g s .blob
  | enum {s : Shape} (hk : s.kind = .enum) : BuiltAs g s (.enum s.constants)
  | list {s target : Shape} {m : Member} {t : WireType} (hk : s.kind = .list ∨ s.kind = .set)
    (hm : s.item = some m) (ht : g.catalog.target m = .ok target) (h : BuiltAs g target t) :
    BuiltAs g s (.list t)
  | map {s target : Shape} {m : Member} {t : WireType} (hk : s.kind = .map)
    (hm : s.value = some m) (ht : g.catalog.target m = .ok target) (h : BuiltAs g target t) :
    BuiltAs g s (.map t)

/-- The representation of what is inside all containers. -/
def Representation.core : Representation → Representation
  | .list _ element => element.core
  | .map _ value => value.core
  | r => r

namespace Registry

variable {g : Registry} {s : Shape} {t : WireType}

/-- The kinds that containers have. -/
def containers : List Kind := [.list, .set, .map]

/-- A shape is built in one way only. -/
theorem BuiltAs.unique {t' : WireType} (h : g.BuiltAs s t) (h' : g.BuiltAs s t') : t = t' := by
  induction h generalizing t' with
  | list hk hm ht h ih =>
    cases h' with
    | list hk' hm' ht' h' =>
      cases hm.symm.trans hm'
      cases ht.symm.trans ht'
      rw [ih h']
    | _ => grind [Kind.width?]
  | map hk hm ht h ih =>
    cases h' with
    | map hk' hm' ht' h' =>
      cases hm.symm.trans hm'
      cases ht.symm.trans ht'
      rw [ih h']
    | _ => grind [Kind.width?]
  | _ => cases h' <;> grind [Kind.width?]

/-- Representations that lose nothing do not depend on the member that refers to them. -/
theorem refine_of_carries {r : Representation} (h : r.Carries t) (m : Member) : refine m r = r := by
  cases h <;> rfl

theorem resolve_simple {builtin : String} (hb : builtin? s.kind = some builtin) (n : Nat) :
    g.resolve (n + 1) s =
      .ok (.simple s builtin (!s.id.isPrelude && !g.options.inlineSimple)) := by
  rw [resolve]
  simp only [hb]

/-- A shape without elements has a representation however small the bound is. -/
theorem BuiltAs.exists_leaf (h : g.BuiltAs s t) (ht : t.nesting = 0) :
    ∃ r : Representation, (∀ n, g.resolve (n + 1) s = .ok r) ∧ r.Carries t ∧ r.core = r ∧
      r.shape = s := by
  cases h with
  | boolean hk => exact ⟨_, resolve_simple (by rw [hk]; rfl), .boolean hk _, rfl, rfl⟩
  | string hk => exact ⟨_, resolve_simple (by rw [hk]; rfl), .string hk _, rfl, rfl⟩
  | integer hk =>
    cases hb : builtin? s.kind with
    | some builtin => exact ⟨_, resolve_simple hb, .integer hb hk _, rfl, rfl⟩
    | none =>
      have hkind : s.kind = .intEnum := by
        cases hkind : s.kind with
        | intEnum => rfl
        | byte | short | integer | long =>
          rw [hkind] at hb
          cases hb
        | _ =>
          rw [hkind] at hk
          cases hk
      rw [hkind] at hk
      cases hk
      exact ⟨.intEnum s, fun n => by rw [resolve, hkind]; rfl, .intEnum hkind, rfl, rfl⟩
  | bigInteger hk => exact ⟨.bigInteger s, fun n => by rw [resolve, hk]; rfl, .bigInteger s, rfl, rfl⟩
  | blob hk => exact ⟨.blob s, fun n => by rw [resolve, hk]; rfl, .blob s, rfl, rfl⟩
  | enum hk => exact ⟨.enum s, fun n => by rw [resolve, hk]; rfl, .enum hk, rfl, rfl⟩
  | list | map => cases ht

/-- The representation of the elements of a container, where the member does not matter. -/
theorem resolve_element {r : Representation} {m : Member} {target : Shape} {n : Nat}
    (hr : g.resolve n target = .ok r) (hc : r.Carries t) (ht : g.catalog.target m = .ok target) :
    (do
      let target ← g.catalog.target m
      return refine m (← resolve g n target)) = Except.ok r := by
  rw [ht]
  show (resolve g n target >>= fun r => pure (refine m r)) = _
  rw [hr]
  exact congrArg Except.ok (refine_of_carries hc m)

/-- A shape has a representation if the bound is beyond the nesting of its containers. -/
theorem BuiltAs.exists_resolve (h : g.BuiltAs s t) {depth : Nat} (hdepth : t.nesting < depth) :
    ∃ r, g.resolve depth s = .ok r ∧ r.Carries t ∧ g.ofShape r.core.shape = .ok r.core := by
  obtain ⟨n, rfl⟩ : ∃ n, depth = n + 1 := Nat.exists_eq_add_one.2 (Nat.zero_lt_of_lt hdepth)
  have leaf : ∀ {s : Shape} {t : WireType}, g.BuiltAs s t → t.nesting = 0 → ∀ n,
      ∃ r, g.resolve (n + 1) s = .ok r ∧ r.Carries t ∧ g.ofShape r.core.shape = .ok r.core := by
    intro s t h ht n
    obtain ⟨r, hr, hc, hcore, hshape⟩ := h.exists_leaf ht
    refine ⟨r, hr n, hc, ?_⟩
    rw [hcore, hshape]
    exact hr _
  induction h generalizing n with
  | @list s target m t hk hm ht h ih =>
    obtain ⟨k, rfl⟩ : ∃ k, n = k + 1 :=
      Nat.exists_eq_add_one.2 (Nat.zero_lt_of_lt (Nat.lt_of_succ_lt_succ hdepth))
    obtain ⟨r, hr, hc, hcore⟩ := ih k (Nat.lt_of_succ_lt_succ hdepth)
    refine ⟨.list s r, ?_, .list s hc, hcore⟩
    rw [resolve]
    rcases hk with hk | hk <;> simp only [hk, hm, builtin?, resolve_element hr hc ht] <;> rfl
  | @map s target m t hk hm ht h ih =>
    obtain ⟨k, rfl⟩ : ∃ k, n = k + 1 :=
      Nat.exists_eq_add_one.2 (Nat.zero_lt_of_lt (Nat.lt_of_succ_lt_succ hdepth))
    obtain ⟨r, hr, hc, hcore⟩ := ih k (Nat.lt_of_succ_lt_succ hdepth)
    refine ⟨.map s r, ?_, .map s hc, hcore⟩
    rw [resolve]
    simp only [hk, hm, builtin?, resolve_element hr hc ht]
    rfl
  | boolean hk => exact leaf (.boolean hk) rfl n
  | string hk => exact leaf (.string hk) rfl n
  | integer hk => exact leaf (.integer hk) rfl n
  | bigInteger hk => exact leaf (.bigInteger hk) rfl n
  | blob hk => exact leaf (.blob hk) rfl n
  | enum hk => exact leaf (.enum hk) rfl n

/-! ## How deep containers are nested -/

theorem BuiltAs.mem_containers (h : g.BuiltAs s t) (ht : 0 < t.nesting) : s.kind ∈ containers := by
  cases h with
  | list hk =>
    rcases hk with hk | hk <;> rw [hk] <;> decide
  | map hk =>
    rw [hk]
    decide
  | _ => cases ht

/-- A container refers to a shape that is nested less deep by one. -/
theorem BuiltAs.exists_target (h : g.BuiltAs s t) (ht : 0 < t.nesting) :
    ∃ m target t', g.catalog.target m = .ok target ∧ g.BuiltAs target t' ∧
      t.nesting = t'.nesting + 1 := by
  cases h with
  | list hk hm hm' h => exact ⟨_, _, _, hm', h, rfl⟩
  | map hk hm hm' h => exact ⟨_, _, _, hm', h, rfl⟩
  | _ => cases ht

/-- Containers are shapes of the model, not of the prelude. -/
theorem get?_of_target {m : Member} {target : Shape} (h : g.catalog.target m = .ok target)
    (hk : target.kind ∈ containers) : g.catalog.entries.get? m.target.text = some target := by
  have hprelude : ∀ s ∈ Prelude.shapes, s.kind ∉ containers := by decide
  have hexpect : g.catalog.expect m.target = .ok target := Outcome.at_eq_ok.1 h
  rw [Catalog.expect] at hexpect
  split at hexpect
  · rename_i found hfound
    cases hexpect
    rw [Catalog.find?] at hfound
    split at hfound
    · exact absurd hk (hprelude target (List.mem_of_find?_eq_some hfound))
    · exact hfound
  · cases hexpect

/-- The containers inside a shape have different ids: one that came back would be nested deeper than
itself. -/
theorem BuiltAs.exists_ids (n : Nat) (h : g.BuiltAs s t) (hn : t.nesting = n + 1) :
    ∃ ids : List String, ids.Nodup ∧ ids.length = n ∧ ∀ id ∈ ids, ∃ target t',
      g.catalog.entries.get? id = some target ∧ g.BuiltAs target t' ∧ t'.nesting ≤ n := by
  induction n generalizing s t with
  | zero => exact ⟨[], .nil, rfl, by simp⟩
  | succ n ih =>
    obtain ⟨m, target, t', hm, htarget, hnest⟩ := h.exists_target (by omega)
    have hn' : t'.nesting = n + 1 := by omega
    have hget := get?_of_target hm (htarget.mem_containers (by omega))
    obtain ⟨ids, hnodup, hlength, hids⟩ := ih htarget hn'
    refine ⟨m.target.text :: ids, List.nodup_cons.2 ⟨fun hmem => ?_, hnodup⟩, by simp [hlength], ?_⟩
    · obtain ⟨found, t'', hfound, hbuilt, hle⟩ := hids _ hmem
      cases hget.symm.trans hfound
      rw [htarget.unique hbuilt] at hn'
      omega
    · intro id hid
      rcases List.mem_cons.1 hid with rfl | hid
      · exact ⟨target, t', hget, htarget, by omega⟩
      · obtain ⟨found, t'', hfound, hbuilt, hle⟩ := hids id hid
        exact ⟨found, t'', hfound, hbuilt, by omega⟩

/-- **The size of the catalog** bounds the nesting. -/
theorem BuiltAs.nesting_lt (h : g.BuiltAs s t) (hc : g.catalog.entries.Coherent) :
    t.nesting < g.depthBound := by
  by_contra hge
  have hbound : g.depthBound = g.catalog.entries.keys.length + 2 := rfl
  obtain ⟨n, hn⟩ : ∃ n, t.nesting = n + 1 := Nat.exists_eq_add_one.2 (by omega)
  obtain ⟨ids, hnodup, hlength, hids⟩ := h.exists_ids n hn
  have hsubset : ids ⊆ g.catalog.entries.keys := by
    intro id hid
    obtain ⟨target, t', hget, -⟩ := hids id hid
    exact (hc id).2 (by rw [hget]; rfl)
  have hle := List.Nodup.length_le_of_subset hnodup hsubset
  omega

/-- **Every such shape** has a representation. -/
theorem BuiltAs.exists_ofShape (h : g.BuiltAs s t) (hc : g.catalog.entries.Coherent) :
    ∃ r, g.ofShape s = .ok r ∧ r.Carries t ∧ g.ofShape r.core.shape = .ok r.core :=
  h.exists_resolve (h.nesting_lt hc)

/-! ## Packages -/

/-- A package declares what is generated for the shape inside the containers of a representation: its
types have different names, and none hides a built-in type. -/
structure Emits (g : Registry) (cs : List Contributor) (decls : List TypeDecl)
    (r : Representation) : Prop where
  distinct : (decls.map (·.name)).Nodup
  apart : ∀ d ∈ decls, d.name ∉ builtins
  declared : ∃ d?, g.typeDecl cs r.core.shape = .ok d? ∧ ∀ d, d? = some d → d ∈ decls

section

variable {cs : List Contributor} {decls : List TypeDecl} {r : Representation}

/-- A type is made of itself if nothing is declared with its name. -/
theorem underlying_of_apart {type : String} (h : ∀ d ∈ decls, d.name ≠ type) :
    underlying decls type = type := by
  have hnone : decls.find? (·.name == type) = none :=
    List.find?_eq_none.2 fun d hd heq => h d hd (beq_iff_eq.1 heq)
  rw [underlying, hnone]
  rfl

theorem Emits.underlying_builtin (h : g.Emits cs decls r) : ∀ b ∈ builtins, underlying decls b = b :=
  fun _ hb => underlying_of_apart fun d hd heq => h.apart d hd (heq ▸ hb)

/-- A declaration is found by what goes with its name. -/
theorem Emits.find?_eq_some (h : g.Emits cs decls r) {d : TypeDecl} (hd : d ∈ decls)
    {p : TypeDecl → Bool} (hp : ∀ x, p x = true ↔ x.name = d.name) : decls.find? p = some d := by
  cases hfound : decls.find? p with
  | none => exact absurd ((hp d).2 rfl) (List.find?_eq_none.1 hfound d hd)
  | some found =>
    have hname : found.name = d.name := (hp found).1 (List.find?_some hfound)
    have hmem : found ∈ decls := List.mem_of_find?_eq_some hfound
    rw [List.inj_on_of_nodup_map h.distinct hmem hd hname]

theorem Emits.underlying_name (h : g.Emits cs decls r) {d : TypeDecl} (hd : d ∈ decls) :
    underlying decls d.name = d.builtin?.getD d.name := by
  rw [underlying, h.find?_eq_some hd fun x => beq_iff_eq]
  rfl

theorem Emits.parsed?_name (h : g.Emits cs decls r) {d : TypeDecl} (hd : d ∈ decls) :
    parsed? decls ("Parse" ++ d.name) = d.constants? := by
  rw [parsed?, h.find?_eq_some hd fun x => ?_]
  · rfl
  · simp

/-- What is declared for a simple shape, unless its name is that of the built-in type. -/
theorem typeDecl_simple {builtin : String} {named : Bool} (cs : List Contributor)
    (hb : builtin? s.kind = some builtin) (hr : g.ofShape s = .ok (.simple s builtin named)) :
    g.typeDecl cs s =
      .ok (if (Representation.simple s builtin named).type == builtin then none
        else some { name := (Representation.simple s builtin named).type, doc := s.documentation
                    body := .builtin builtin }) := by
  rw [typeDecl, hr]
  dsimp only [bind, Except.bind, Representation.builtin?]
  split
  case h_5 => split <;> rfl
  all_goals
    rename_i hk
    rw [hk] at hb
    cases hb

/-- The record of an enumeration lists its constants. -/
def constantRecord (s : Shape) : Record :=
  { shape := s
    fields := s.memberList.map fun m => { member := m, name := constantName s m.name } }

theorem record_enumeration (hk : s.kind.isEnumeration = true) :
    g.record s = .ok (constantRecord s) := by
  rw [record, if_pos hk]
  rfl

theorem constants?_enumDecl (cs : List Contributor) (s : Shape) :
    (enumDecl cs (constantRecord s)).constants? = some s.constants := by
  simp [enumDecl, constantRecord, TypeDecl.constants?, Shape.constants, Function.comp_def]

theorem typeDecl_enum (cs : List Contributor) (hk : s.kind = .enum)
    (hr : g.ofShape s = .ok (.enum s)) :
    g.typeDecl cs s = .ok (some (enumDecl cs (constantRecord s))) := by
  rw [typeDecl, hr]
  simp only [hk, record_enumeration (show s.kind.isEnumeration = true by rw [hk]; rfl)]
  rfl

/-- An enumeration of integers is declared with the integers of 32 bits. -/
theorem exists_of_typeDecl_intEnum {d? : Option TypeDecl} (hk : s.kind = .intEnum)
    (hr : g.ofShape s = .ok (.intEnum s)) (h : g.typeDecl cs s = .ok d?) :
    ∃ d, d? = some d ∧ d.name = typeName s ∧ d.builtin? = some "int32" := by
  rw [typeDecl, hr] at h
  simp only [hk, record_enumeration (show s.kind.isEnumeration = true by rw [hk]; rfl)] at h
  obtain ⟨d, hd, h⟩ := Outcome.exists_ok_of_bind (show (intEnumDecl cs (constantRecord s) >>=
    fun d => pure (some d)) = .ok d? from h)
  obtain ⟨constants, -, hd⟩ := Outcome.exists_ok_of_bind hd
  obtain rfl := Except.ok.inj hd
  obtain rfl := Except.ok.inj h
  exact ⟨_, rfl, rfl, rfl⟩

/-- A simple type that is declared is declared with its built-in type. -/
theorem Emits.declaredIn_simple {builtin : String} {named : Bool}
    (h : g.Emits cs decls (.simple s builtin named)) (hb : builtin? s.kind = some builtin)
    (hbuiltin : underlying decls builtin = builtin)
    (hr : g.ofShape s = .ok (.simple s builtin named)) :
    (Representation.simple s builtin named).DeclaredIn decls := by
  rintro rfl
  obtain ⟨d?, hd, hmem⟩ := h.declared
  have heq := hd.symm.trans (typeDecl_simple cs hb hr)
  split at heq
  · rename_i hname
    -- The type has the name of the built-in one, and nothing is declared.
    have hname : typeName s = builtin := beq_iff_eq.1 hname
    rw [hname]
    exact hbuiltin
  · cases heq
    have hname := h.underlying_name (hmem _ rfl)
    exact hname

theorem Emits.declaredIn (h : g.Emits cs decls r) (hc : r.Carries t)
    (hcore : g.ofShape r.core.shape = .ok r.core) : r.DeclaredIn decls := by
  induction hc with
  | boolean hk named =>
    exact h.declaredIn_simple (by rw [hk]; rfl) (h.underlying_builtin _ (by decide)) hcore
  | string hk named =>
    exact h.declaredIn_simple (by rw [hk]; rfl) (h.underlying_builtin _ (by decide)) hcore
  | integer hb hk named =>
    have hmem := (Representation.intWidth?_builtin hb hk).2
    exact h.declaredIn_simple hb (h.underlying_builtin _ hmem) hcore
  | @enum s hk =>
    obtain ⟨d?, hd, hmem⟩ := h.declared
    cases hd.symm.trans (typeDecl_enum cs hk hcore)
    have hparsed := h.parsed?_name (hmem _ rfl)
    exact hparsed.trans (constants?_enumDecl cs s)
  | @intEnum s hk =>
    obtain ⟨d?, hd, hmem⟩ := h.declared
    obtain ⟨d, hsome, hname, hbuiltin⟩ := exists_of_typeDecl_intEnum hk hcore hd
    have hunder := h.underlying_name (hmem d hsome)
    rw [hname, hbuiltin] at hunder
    exact hunder
  | list s hc ih => exact ih ⟨h.distinct, h.apart, h.declared⟩ hcore
  | map s hc ih => exact ih ⟨h.distinct, h.apart, h.declared⟩ hcore
  | bigInteger | blob => exact trivial

/-- **Reading undoes writing.** A shape that is built from types that lose nothing has a
representation, and what is generated for it writes every value as a document.  Once a library has
written that document as text and decoded the text, keeping numbers as they are spelled, reading
gives the value back, whatever the field is called. -/
theorem readBack_written (hcat : g.catalog.entries.Coherent) (hs : g.BuiltAs s t) :
    ∃ r, g.ofShape s = .ok r ∧
      ∀ (cs : List Contributor) (decls : List TypeDecl), g.Emits cs decls r →
      ∀ v, t.Holds v → ∀ depth, t.nesting ≤ depth →
        ∃ doc, r.written decls depth v = some doc ∧
          ∀ (encode : Raw → String) (decode : String → Option Raw),
            decode (encode doc) = some doc.spelled →
            ∀ field, (decode (encode doc)).map (r.readBack decls depth field) = some (.ok v) := by
  obtain ⟨r, hr, hcarries, hcore⟩ := hs.exists_ofShape hcat
  refine ⟨r, hr, fun cs decls hemits v hv depth hdepth => ?_⟩
  refine ⟨t.toRaw v, r.written_eq hcarries hemits.underlying_builtin hdepth hv, ?_⟩
  intro encode decode hlibrary field
  have hread := r.readBack_eq hcarries (hemits.declaredIn hcarries hcore) hemits.underlying_builtin
    hdepth field (t.toRaw v).spelled
  rw [hlibrary, Option.map_some, hread, WireType.fromRaw_toRaw hv]

end

/-! ## A table of constants -/

/-- An enumeration with two constants. -/
def levels : Shape :=
  (({ id := ⟨"ex#Level"⟩, kind := .enum } : Shape).addMember "LOW" ShapeId.unit {}).addMember
    "HIGH" ShapeId.unit {}

/-- A list of its constants. -/
def levelRow : Shape :=
  { id := ⟨"ex#Row"⟩, kind := .list
    item := some { name := "member", container := ⟨"ex#Row"⟩, target := ⟨"ex#Level"⟩ } }

/-- A map of such lists. -/
def levelTable : Shape :=
  { id := ⟨"ex#Table"⟩, kind := .map
    value := some { name := "value", container := ⟨"ex#Table"⟩, target := ⟨"ex#Row"⟩ } }

/-- A model with these shapes. -/
def tableRegistry : Registry :=
  { catalog := ⟨((OrderedMap.insert {} "ex#Level" levels).insert "ex#Row" levelRow).insert "ex#Table"
      levelTable⟩ }

/-- Two rows, one of which is empty. -/
def tableValue : Wire.Value :=
  .map [("a", .list [.text (Bytes.encode "HIGH"), .text (Bytes.encode "LOW")]), ("b", .list [])]

/-- The package with the declarations for the enumeration. -/
def tableDecls : List TypeDecl := [enumDecl [] (constantRecord levels)]

theorem builtAs_table : tableRegistry.BuiltAs levelTable (.map (.list (.enum levels.constants))) :=
  .map rfl rfl rfl (.list (.inl rfl) rfl rfl (.enum rfl))

theorem holds_table : (WireType.map (.list (.enum levels.constants))).Holds tableValue := by
  refine .map (by decide) fun e he => ?_
  simp only [List.mem_cons, List.not_mem_nil, or_false] at he
  rcases he with rfl | rfl
  · refine .list fun v hv => ?_
    simp only [List.mem_cons, List.not_mem_nil, or_false] at hv
    rcases hv with rfl | rfl
    · exact .enum (by decide)
    · exact .enum (by decide)
  · exact .list (by simp)

/-- The document for the table has its fields in order. -/
theorem isValue_table :
    ((WireType.map (.list (.enum levels.constants))).toRaw tableValue).json.IsValue := by
  have hrow : Json.IsValue (.array [.string "HIGH", .string "LOW"]) :=
    .array (List.forall_mem_cons.2 ⟨.string _, List.forall_mem_singleton.2 (.string _)⟩)
  show (Json.object [("a", .array [.string "HIGH", .string "LOW"]), ("b", .array [])]).IsValue
  exact .object (by decide)
    (List.forall_mem_cons.2 ⟨hrow, List.forall_mem_singleton.2 (.array nofun)⟩)

theorem emits_table :
    tableRegistry.Emits [] tableDecls (.map levelTable (.list levelRow (.enum levels))) := by
  refine ⟨by simp [tableDecls], fun d hd => ?_, _, typeDecl_enum [] rfl rfl, fun d hd => ?_⟩
  · rw [List.mem_singleton.1 hd]
    decide
  · cases hd
    exact List.mem_singleton.2 rfl

/-- The table is written as text and read back by the model's own reader of documents. -/
theorem readBack_written_table :
    ∃ r, tableRegistry.ofShape levelTable = .ok r ∧
      ∃ doc, r.written tableDecls 2 tableValue = some doc ∧
        ((Json.parse? doc.json.compact).map Raw.ofJson).map (r.readBack tableDecls 2 "table") =
          some (.ok tableValue) := by
  have hcat : tableRegistry.catalog.entries.Coherent :=
    ((OrderedMap.coherent_empty.insert _ _).insert _ _).insert _ _
  obtain ⟨r, hr, h⟩ := readBack_written hcat builtAs_table
  obtain rfl : Representation.map levelTable (.list levelRow (.enum levels)) = r := Except.ok.inj hr
  obtain ⟨doc, hdoc, hback⟩ := h [] tableDecls emits_table tableValue holds_table 2 (by decide)
  have hraw : (WireType.map (.list (.enum levels.constants))).toRaw tableValue = doc :=
    Option.some.inj ((Representation.written_eq (.map _ (.list _ (.enum rfl)))
      emits_table.underlying_builtin (by decide) holds_table).symm.trans hdoc)
  refine ⟨_, hr, doc, hdoc, hback (fun raw => raw.json.compact)
    (fun text => (Json.parse? text).map Raw.ofJson) ?_ "table"⟩
  rw [← hraw, Json.parse?_compact rfl, if_pos (by decide)]
  show some (Raw.ofJson (WireType.toRaw _ tableValue).json) = _
  rw [Raw.ofJson, isValue_table.canonical_eq]
  rfl

end Registry
end Shapewright
