import Shapewright.Proofs.Assembly.Walk
import Shapewright.Proofs.Document
import Shapewright.Proofs.Failure

/-!
# Nulls in documents

A document may have a null where a shape, a member or a reference to a mixin belongs.  Most of them
are passed over on the way to a catalog.  This file says which are not.

* `Assembly.ofDocuments` — the way from documents to a catalog.
* `Document.Harmless` — documents without a null that is ever looked at: a null for a shape that an
  earlier document has, a null among the mixins of a shape, or a null among the members of a shape
  that has members under names.
* `Assembly.load_eq_ofDocuments` — loading goes this way.
* `Assembly.ofDocuments_harmless` — harmless documents never end in a null reference, and documents
  that make a catalog are harmless.

Documents that are not harmless may still be refused for another reason first; what they cannot do is
make a catalog.
-/

set_option autoImplicit false

namespace Shapewright

/-! ## Applied traits -/

namespace Assembly

variable {a b : Assembly}

theorem mem_ids_erase {id x : String} (h : x ∈ a.ids) (hx : x ≠ id) :
    x ∈ ({ a with shapes := a.shapes.map (·.erase id) } : Assembly).ids := by
  cases hm : a.shapes with
  | none => simp [ids, hm] at h
  | some m =>
    rw [ids, hm] at h
    simpa [ids] using OrderedMap.mem_keys_erase h hx

/-- Carrying out a statement changes nothing but traits, and may then remove the statement. -/
theorem applyOne_spec (a : Assembly) (id : String) :
    (a.applyOne id).failure ≠ some .nullReference ∧
      ∃ b, a.Retains b ∧ ((a.applyOne id).assembly = b ∨
        (∃ s, a.shape? id = some s ∧ s.isApply = true) ∧
          (a.applyOne id).assembly = { b with shapes := b.shapes.map (·.erase id) }) := by
  have hsame : a.Retains a := ⟨rfl, fun _ => rfl, fun _ h => h⟩
  unfold applyOne
  split
  · exact ⟨by simp, a, hsame, .inl rfl⟩
  · rename_i s hs
    split
    · rename_i happly
      have hretains := retains_apply a id s.traits
      have hfail := failure_apply_ne a id s.traits
      simp only
      split
      · exact ⟨hfail, _, hretains, .inl rfl⟩
      · exact ⟨hfail, _, hretains, .inr ⟨⟨s, hs, happly⟩, rfl⟩⟩
    · exact ⟨by simp, a, hsame, .inl rfl⟩

theorem Retains.intact (h : a.Retains b) (ha : a.Intact) : b.Intact := by
  intro id t ht
  obtain ⟨s, hs, hbare⟩ := h.exists_shape ht
  have hs' : s.bare.Intact b.cells.length :=
    ⟨(ha id s hs).mixins, h.cells ▸ (ha id s hs).members⟩
  rw [hbare] at hs'
  exact ⟨hs'.mixins, hs'.members⟩

theorem intact_applyOne (ha : a.Intact) (id : String) : (a.applyOne id).assembly.Intact := by
  obtain ⟨-, b, hb, heq | ⟨-, heq⟩⟩ := applyOne_spec a id
  · exact heq ▸ hb.intact ha
  · rw [heq]
    intro x t ht
    rw [shape?_erase] at ht
    split at ht
    · cases ht
    · exact hb.intact ha x t ht

/-- A shape that is listed and has a null among its members. -/
def ListsNull (a : Assembly) (id : String) : Prop :=
  id ∈ a.ids ∧ ∃ s, a.shape? id = some s ∧ s.HasNullMember

theorem Retains.listsNull (h : a.Retains b) {id : String} (ha : a.ListsNull id) :
    b.ListsNull id := by
  obtain ⟨hid, s, hs, hnull⟩ := ha
  have hbare := h.bare id
  rw [hs] at hbare
  obtain ⟨t, ht, hbare⟩ := Option.map_eq_some_iff.1 hbare
  refine ⟨h.listed id hid, t, ht, ?_⟩
  have ht' : t.bare.HasNullMember := hbare ▸ hnull
  exact ht'

theorem listsNull_applyOne {id : String} (ha : a.ListsNull id) (x : String) :
    (a.applyOne x).assembly.ListsNull id := by
  obtain ⟨-, b, hb, heq | ⟨⟨t, ht, happly⟩, heq⟩⟩ := applyOne_spec a x
  · exact heq ▸ hb.listsNull ha
  · -- A statement has no members of its own, so the shape is another one.
    have hx : id ≠ x := by
      rintro rfl
      obtain ⟨-, s, hs, hnull⟩ := ha
      rw [hs, Option.some_inj] at ht
      rw [← ht, ShapeDef.isApply, beq_iff_eq] at happly
      rw [ShapeDef.HasNullMember, happly] at hnull
      exact absurd hnull.1 (by decide)
    obtain ⟨hid, s, hs, hnull⟩ := hb.listsNull ha
    rw [heq]
    refine ⟨mem_ids_erase hid hx, s, ?_, hnull⟩
    rw [shape?_erase, if_neg hx, hs]

theorem failure_forEach_ne {α : Type} {step : Assembly → α → Update} {f : Failure}
    (h : ∀ b x, (step b x).failure ≠ some f) (xs : List α) (a : Assembly) :
    (Update.forEach step xs a).failure ≠ some f := by
  induction xs generalizing a with
  | nil => simp [Update.forEach]
  | cons x xs ih =>
    rw [Update.forEach]
    simp only
    split
    · exact h a x
    · exact ih _

/-- **Applied traits** are refused for no null, and leave nulls where they are. -/
theorem applyAll_spec (a : Assembly) : a.applyAll.failure ≠ some .nullReference ∧
    (a.Intact → a.applyAll.assembly.Intact) ∧
    ∀ id, a.ListsNull id → a.applyAll.assembly.ListsNull id :=
  ⟨failure_forEach_ne (fun b x => (applyOne_spec b x).1) a.ids a,
    forEach_preserves fun _ hb x _ => intact_applyOne hb x,
    fun id => forEach_preserves (P := (·.ListsNull id)) fun _ hb x _ => listsNull_applyOne hb x⟩

/-! ## The catalog -/

open Noting

theorem avoids_absolute (f : Failure) (ns id : String) : (absolute ns id).Avoids f := by
  unfold absolute
  split
  · exact avoids_pure f _
  · split
    · exact avoids_pure f _
    · exact (avoids_warn f _).bind fun _ _ => avoids_pure f _

theorem avoids_importMember (f : Failure) (container : ShapeId) (name : String) (m : MemberDef) :
    (importMember container name m).Avoids f :=
  (avoids_absolute f _ _).bind fun _ _ => avoids_pure f _

theorem avoids_resolveRef (f : Failure) (ns : String) (ref : Ref) : (resolveRef ns ref).Avoids f := by
  unfold resolveRef
  split
  · exact avoids_pure f _
  · split
    · exact avoids_pure f _
    · exact avoids_absolute f _ _

theorem avoids_resolveRefs (f : Failure) (ns : String) (refs : List Ref) :
    (resolveRefs ns refs).Avoids f :=
  avoids_mapM fun ref _ => avoids_resolveRef f ns ref

/-- Members that are all there are imported. -/
theorem avoids_importMembers {id : ShapeId} {s : ShapeDef Nat} {shape : Shape}
    (h : ∀ name m, (name, m) ∈ s.memberEntries → ∃ i < a.cells.length, m = some i) :
    (importMembers a id s shape).Avoids .nullReference := by
  refine avoids_foldlM shape fun shape e he => ?_
  obtain ⟨name, m⟩ := e
  obtain ⟨i, hi, rfl⟩ := h name m he
  have hcell : (some i).bind a.cell? = some a.cells[i] := List.getElem?_eq_getElem hi
  simp only [hcell]
  exact (avoids_importMember _ _ _ _).bind fun _ _ => avoids_pure _ _

/-- Where members are imported, none is a null. -/
theorem not_mem_of_gives_importMembers {id : ShapeId} {s : ShapeDef Nat} {shape r : Shape}
    (h : (importMembers a id s shape).Gives r) (name : String) : (name, none) ∉ s.memberEntries := by
  intro hmem
  obtain ⟨b, d, hstep⟩ := exists_gives_of_foldlM h _ hmem
  exact not_gives_throw _ _ hstep

/-- Shapes of these types are imported with their members. -/
theorem kindOf_of_mem (id : String) {s : ShapeDef Nat} (h : s.type ∈ memberTypes) :
    ∃ kind ∈ [Kind.structure_, .union, .enum, .intEnum], kindOf id s = .ok kind ∧
      s.type ≠ "string" := by
  simp only [memberTypes, List.mem_cons, List.not_mem_nil, or_false] at h
  rcases h with h | h | h | h
  · exact ⟨.structure_, by simp, by rw [kindOf, h]; rfl, by rw [h]; decide⟩
  · exact ⟨.union, by simp, by rw [kindOf, h]; rfl, by rw [h]; decide⟩
  · exact ⟨.enum, by simp, by rw [kindOf, h]; rfl, by rw [h]; decide⟩
  · exact ⟨.intEnum, by simp, by rw [kindOf, h]; rfl, by rw [h]; decide⟩

/-- And no others: a string with constants has no members. -/
theorem mem_of_kindOf {id : String} {s : ShapeDef Nat} {kind : Kind} (h : kindOf id s = .ok kind)
    (hkind : kind ∈ [Kind.structure_, .union, .intEnum] ∨ kind = .enum ∧ s.type ≠ "string") :
    s.type ∈ memberTypes := by
  have hmem : kind ∈ [Kind.structure_, .union, .intEnum, .enum] := by
    rcases hkind with hkind | ⟨rfl, -⟩
    · exact List.mem_append_left [Kind.enum] hkind
    · simp
  unfold kindOf at h
  simp only at h
  split at h
  · cases h
  · cases h
    exact absurd hmem (by decide)
  · split at h <;> cases h <;> exact absurd hmem (by decide)
  · rename_i hstring
    split at h <;> cases h
    · exact absurd hstring (hkind.resolve_left (by decide)).2
    · exact absurd hmem (by decide)
  · split at h
    · rename_i k hk
      cases h
      have hname : kind.name = s.type := by simpa using List.find?_some hk
      rw [← hname]
      simp only [List.mem_cons, List.not_mem_nil, or_false] at hmem
      rcases hmem with rfl | rfl | rfl | rfl <;> decide
    · cases h

theorem kindOf_ne (id : String) (s : ShapeDef Nat) : kindOf id s ≠ .error .nullReference := by
  unfold kindOf
  simp only
  split
  · simp
  · simp
  · simp
  · simp
  · split <;> simp

/-- **A shape without nulls** is imported, or refused for another reason. -/
theorem avoids_importShape {key : String} {s : ShapeDef Nat} (h : s.Intact a.cells.length) :
    (importShape a key s).Avoids .nullReference := by
  unfold importShape
  simp only
  refine (avoids_lift (kindOf_ne key s)).bind fun kind hkind => ?_
  have hk := eq_ok_of_gives_lift hkind
  have hmembers (hkind : kind ∈ [Kind.structure_, .union, .intEnum] ∨
      kind = .enum ∧ s.type ≠ "string") (shape : Shape) :
      (importMembers a ⟨key⟩ s shape).Avoids .nullReference :=
    avoids_importMembers (h.members (mem_of_kindOf hk hkind))
  have hmember := avoids_importMember .nullReference ⟨key⟩
  have href := avoids_resolveRef .nullReference (ShapeId.namespace_ ⟨key⟩)
  have hrefs := avoids_resolveRefs .nullReference (ShapeId.namespace_ ⟨key⟩)
  split
  · split
    · exact avoids_throw (by simp)
    · exact (hmember _ _).bind fun _ _ => avoids_pure _ _
  · split
    · exact avoids_throw (by simp)
    · exact (hmember _ _).bind fun _ _ => avoids_pure _ _
  · split
    · exact (hmember _ _).bind fun _ _ => (hmember _ _).bind fun _ _ => avoids_pure _ _
    · exact avoids_throw (by simp)
  · exact hmembers (.inl (by decide)) _
  · exact hmembers (.inl (by decide)) _
  · exact hmembers (.inl (by decide)) _
  · split
    · exact avoids_pure _ _
    · rename_i hstring
      exact hmembers (.inr ⟨rfl, by simpa using hstring⟩) _
  · exact (href _).bind fun _ _ => (href _).bind fun _ _ => (hrefs _).bind fun _ _ =>
      avoids_pure _ _
  · exact (hrefs _).bind fun _ _ => (hrefs _).bind fun _ _ => avoids_pure _ _
  · exact (hrefs _).bind fun _ _ => (hrefs _).bind fun _ _ => avoids_pure _ _
  · exact avoids_pure _ _

/-- **A shape that is imported** has no nulls among its members. -/
theorem not_hasNullMember_of_gives_importShape {key : String} {s : ShapeDef Nat} {r : Shape}
    (h : (importShape a key s).Gives r) : ¬ s.HasNullMember := by
  rintro ⟨htype, name, hmem⟩
  obtain ⟨kind, hkind, hk, hstring⟩ := kindOf_of_mem key htype
  obtain ⟨kind', hlift, h⟩ := exists_gives_of_bind h
  have hsame : kind = kind' := Except.ok.inj (hk.symm.trans (eq_ok_of_gives_lift hlift))
  subst hsame
  have hmembers {shape : Shape} (hr : (importMembers a ⟨key⟩ s shape).Gives r) : False :=
    not_mem_of_gives_importMembers hr name hmem
  simp only [List.mem_cons, List.not_mem_nil, or_false] at hkind
  rcases hkind with rfl | rfl | rfl | rfl
  · exact hmembers h
  · exact hmembers h
  · simp only [beq_eq_false_iff_ne.2 hstring, Bool.false_eq_true, if_false] at h
    exact hmembers h
  · exact hmembers h

theorem checkTargets_ne (c : Catalog) : checkTargets c ≠ .error .nullReference := by
  refine Outcome.forM_ne_error fun s _ => Outcome.forM_ne_error fun id _ => ?_
  split <;> simp

/-- **An assembly without nulls** makes a catalog, or is refused for another reason. -/
theorem avoids_toCatalog (h : a.Intact) : a.toCatalog.Avoids .nullReference := by
  refine Avoids.bind (avoids_foldlM ({} : Catalog) fun c id _ => ?_) fun c _ => ?_
  · unfold importNext
    split
    · exact avoids_pure _ _
    · rename_i s hs
      refine (avoids_importShape (h id s hs)).bind fun shape _ => avoids_lift ?_
      unfold Catalog.add
      split
      · simp
      · split <;> simp
  · exact (avoids_lift (checkTargets_ne c)).bind fun _ _ => avoids_pure _ _

/-- **A catalog** is made of shapes without nulls among their members. -/
theorem not_listsNull_of_gives_toCatalog {c : Catalog} (h : a.toCatalog.Gives c) (id : String) :
    ¬ a.ListsNull id := by
  rintro ⟨hid, s, hs, hnull⟩
  obtain ⟨c', hc', -⟩ := exists_gives_of_bind h
  obtain ⟨c₁, c₂, hstep⟩ := exists_gives_of_foldlM hc' id hid
  rw [importNext, hs] at hstep
  obtain ⟨shape, hshape, -⟩ := exists_gives_of_bind hstep
  exact not_hasNullMember_of_gives_importShape hshape hnull

/-! ## From documents to a catalog -/

/-- The catalog of documents: they are gathered, their mixins and applied traits are settled, and
their shapes are imported. -/
def ofDocuments (docs : List Document) : Noting Catalog := do
  let a ← gatherAll docs {}
  let a ← proceed a.expandAll
  (← proceed a.applyAll).toCatalog

end Assembly

/-- The nulls of documents are passed over: none stands for a shape that an earlier document has,
and none among the mixins or the members of what they choose for an id. -/
structure Document.Harmless (docs : List Document) : Prop where
  shapes : docs.Pairwise Document.Spares
  mixins : ∀ id s, Document.chosen docs id = some s → ¬ s.HasNullMixin
  members : ∀ id s, Document.chosen docs id = some s → ¬ s.HasNullMember

namespace Assembly

variable {a : Assembly} {docs : List Document}

open Noting

theorem Gathered.exists_chosen (h : Gathered a docs) {id : String} {s : ShapeDef Nat}
    (hs : a.shape? id = some s) : ∃ t, Document.chosen docs id = some t ∧ t.frame = s.frame := by
  have hframe := h.frames id
  rw [frame?, hs] at hframe
  exact Option.map_eq_some_iff.1 hframe.symm

theorem Gathered.exists_shape (h : Gathered a docs) {id : String} {t : ShapeDef MemberDef}
    (ht : Document.chosen docs id = some t) : ∃ s, a.shape? id = some s ∧ s.frame = t.frame := by
  have hframe := h.frames id
  rw [ht] at hframe
  exact Option.map_eq_some_iff.1 hframe

theorem Gathered.intact (h : Gathered a docs) (hd : Document.Harmless docs) : a.Intact := by
  intro id s hs
  obtain ⟨t, ht, hframe⟩ := h.exists_chosen hs
  refine ⟨?_, fun htype name m hm => ?_⟩
  · rw [← ShapeDef.hasNullMixin_congr hframe]
    exact hd.mixins id t ht
  · cases m with
    | some i => exact ⟨i, h.below id s hs name i hm, rfl⟩
    | none =>
      refine absurd ?_ (hd.members id t ht)
      rw [ShapeDef.hasNullMember_congr hframe]
      exact ⟨htype, name, hm⟩

/-- **Loading a model** is reading its files and making the catalog of what they hold. -/
theorem load_eq_ofDocuments {fs : Files} {paths files : List String} {parsers : Parsers}
    (hfiles : modelFiles fs paths = .ok files) (hne : files ≠ [])
    (hdocs : files.mapM (readModel fs · parsers) = .ok docs) :
    load fs paths parsers = ofDocuments docs := by
  have hfold : ∀ a : Assembly, files.foldlM (fun (a : Assembly) path => do
      proceed (a.merge (← lift (readModel fs path parsers)))) a = gatherAll docs a := by
    have hread := Outcome.forall₂_of_mapM hdocs
    clear hfiles hne hdocs
    induction hread with
    | nil => exact fun _ => rfl
    | cons hread _ ih =>
      intro a
      rw [List.foldlM_cons, gatherAll, List.foldlM_cons, hread]
      exact congrArg (proceed _ >>= ·) (funext ih)
  have hempty : files.isEmpty = false := by simpa using hne
  have hlift : lift (modelFiles fs paths) = pure files := by rw [hfiles, lift]
  rw [load, gather, hlift]
  simp only [pure_bind, hempty, Bool.false_eq_true, if_false, hfold, bind_assoc]
  rfl

/-- **Nulls in documents.** Documents whose nulls are harmless make a catalog or are refused for
another reason than a null; and documents that make a catalog are harmless. Loading a model goes this
way with the documents of its files. -/
theorem ofDocuments_harmless (h : ∀ d ∈ docs, ∃ text, Document.parse text = .ok d) :
    (Document.Harmless docs → (ofDocuments docs).run.1 ≠ .error .nullReference) ∧
      (∀ c, (ofDocuments docs).run.1 = .ok c → Document.Harmless docs) ∧
      ∀ fs paths files parsers, modelFiles fs paths = .ok files → files ≠ [] →
        files.mapM (readModel fs · parsers) = .ok docs → load fs paths parsers = ofDocuments docs := by
  have hkept : ∀ d ∈ docs, Kept d.shapes := fun d hd => by
    obtain ⟨text, htext⟩ := h d hd
    exact Document.kept_of_parse htext
  refine ⟨fun hd => ?_, fun c hc => ?_, fun _ _ _ _ => load_eq_ofDocuments⟩
  · have havoids : (ofDocuments docs).Avoids .nullReference := by
      refine (gathered_nil.avoids_gatherAll hkept hd.shapes).bind fun a ha => ?_
      have hgathered := (gathered_nil.of_gives_gatherAll hkept .nil ha).1
      obtain ⟨hexpand, hexpanded⟩ := sound_expandAll (hgathered.intact hd)
      refine (avoids_proceed hexpand).bind fun a' ha' => ?_
      obtain ⟨hfail, rfl⟩ := of_gives_proceed ha'
      obtain ⟨happly, happlied, -⟩ := applyAll_spec a.expandAll.assembly
      refine (avoids_proceed happly).bind fun a'' ha'' => ?_
      obtain ⟨-, rfl⟩ := of_gives_proceed ha''
      exact avoids_toCatalog (happlied (hexpanded hfail))
    exact havoids []
  · obtain ⟨a, ha, hc⟩ := exists_gives_of_bind ⟨[], hc⟩
    obtain ⟨hgathered, hspares⟩ := gathered_nil.of_gives_gatherAll hkept .nil ha
    obtain ⟨a', ha', hc⟩ := exists_gives_of_bind hc
    obtain ⟨hfail, rfl⟩ := of_gives_proceed ha'
    obtain ⟨a'', ha'', hc⟩ := exists_gives_of_bind hc
    obtain ⟨-, rfl⟩ := of_gives_proceed ha''
    have hwalk {id : String} {s : ShapeDef Nat} (hs : a.shape? id = some s) :=
      of_expandAll hfail (fun _ _ hs => (hgathered.kept.lookup hs).1) hs
    refine ⟨hspares, fun id t ht => ?_, fun id t ht hnull => ?_⟩
    · obtain ⟨s, hs, hframe⟩ := hgathered.exists_shape ht
      rw [← ShapeDef.hasNullMixin_congr hframe]
      exact (hwalk hs).1
    · obtain ⟨s, hs, hframe⟩ := hgathered.exists_shape ht
      rw [← ShapeDef.hasNullMember_congr hframe] at hnull
      obtain ⟨-, u, hu, hkeeps, hid⟩ := hwalk hs
      exact not_listsNull_of_gives_toCatalog hc id
        ((applyAll_spec _).2.2 id ⟨hid, u, hu, hkeeps.hasNullMember hnull⟩)

/-- Whether something ends in a null reference. -/
def followsNull {α : Type} : Outcome α → Bool
  | .error .nullReference => true
  | _ => false

theorem eq_nullReference_of_follows {α : Type} {x : Outcome α} (h : followsNull x = true) :
    x = .error .nullReference := by
  unfold followsNull at h
  split at h
  · rfl
  · cases h

/-- A document that gives a structure a null for a member. -/
def nullMember : Document :=
  { version := "2.0", shapes := some (OrderedMap.ofFields [
      ("ex#A", some { type := "structure", members := some (OrderedMap.ofFields [("a", none)]) })]) }

/-- The document is read, and its null is followed. -/
theorem ofDocuments_nullMember : (∃ text, Document.parse text = .ok nullMember) ∧
    (ofDocuments [nullMember]).run.1 = .error .nullReference :=
  ⟨Document.exists_parse [(.version, .string "2.0"), (.shapes, .object
      [("ex#A", .object [("type", .string "structure"), ("members", .object [("a", .null)])])])]
      (by decide) rfl (by decide),
    eq_nullReference_of_follows (by decide +kernel)⟩

/-- A null for a shape that an earlier document has is not harmless. -/
theorem ofDocuments_harmless_taken :
    let first : Document :=
      { version := "2.0", shapes := some (OrderedMap.ofFields [("ex#A", some {})]) }
    let second : Document :=
      { version := "2.0", shapes := some (OrderedMap.ofFields [("ex#A", none)]) }
    (∀ d ∈ [first, second], ∃ text, Document.parse text = .ok d) ∧
      ¬ Document.Harmless [first, second] := by
  intro first second
  have hparse {v : Json} {s : Option (ShapeDef MemberDef)} (hv : v.allNumbers Json.isNumber = true)
      (hs : Document.readValues? {} [(.version, .string "2.0"), (.shapes, .object [("ex#A", v)])] =
        some { version := "2.0", shapes := some (OrderedMap.ofFields [("ex#A", s)]) }) :
      ∃ text, Document.parse text =
        .ok { version := "2.0", shapes := some (OrderedMap.ofFields [("ex#A", s)]) } :=
    Document.exists_parse _ (by simpa [Json.allNumbers, Json.allNumbersFields] using hv) hs
      (by simp)
  have hdocs : ∀ d ∈ [first, second], ∃ text, Document.parse text = .ok d :=
    List.forall_mem_cons.2 ⟨hparse (v := .object []) rfl rfl,
      List.forall_mem_singleton.2 (hparse (v := .null) rfl rfl)⟩
  exact ⟨hdocs, fun h => (ofDocuments_harmless hdocs).1 h
    (eq_nullReference_of_follows (by decide +kernel))⟩

end Assembly
end Shapewright
