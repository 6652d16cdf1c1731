import Shapewright.Proofs.Assembly.Expansion
import Shapewright.Proofs.Assembly.Joining
import Shapewright.Proofs.Shape.Edits

/-!
# Documents that are read, and assemblies that are gathered

A map keeps its keys in a list of their own, and nothing in its type ties the list to what is bound.
What is known about mixins and about merging is known of maps that list exactly what they bind.
This file shows that there are no others in an assembly that was gathered from documents.

* `Kept` — the map of shapes and the maps of each shape list what they bind.
* `Document.kept_of_parse` — so it is in a document that was read from a text.
* `Assembly.kept_merge` — a document that joins an assembly keeps it so.
* `Assembly.coherent_gathered` — all of it together.
-/

set_option autoImplicit false

namespace Shapewright

/-- The map of shapes, if there is one, lists what it binds, and so do the maps of every shape. -/
structure Kept {μ : Type} (shapes : Option (OrderedMap (Option (ShapeDef μ)))) : Prop where
  listed : ∀ m, shapes = some m → m.Coherent
  each : ∀ m id s, shapes = some m → m.get? id = some (some s) → s.Coherent

theorem kept_none {μ : Type} : Kept (none : Option (OrderedMap (Option (ShapeDef μ)))) :=
  ⟨by rintro m ⟨⟩, by rintro m id s ⟨⟩⟩

/-- A shape that can be looked up is listed, and its maps list what they bind. -/
theorem Kept.lookup {μ : Type} {shapes : Option (OrderedMap (Option (ShapeDef μ)))}
    (h : Kept shapes) {id : String} {s : ShapeDef μ}
    (hs : (shapes.bind (·.get? id)).join = some s) :
    id ∈ (shapes.map (·.keys)).getD [] ∧ s.Coherent := by
  rw [Option.join_eq_some_iff, Option.bind_eq_some_iff] at hs
  obtain ⟨m, rfl, hget⟩ := hs
  exact ⟨(h.listed m rfl id).2 (by rw [hget]; rfl), h.each m id s rfl hget⟩

namespace OrderedMap

variable {α β : Type}

theorem coherent_map_iff (f : α → β) (m : OrderedMap α) : (m.map f).Coherent ↔ m.Coherent := by
  refine forall_congr' fun key => ?_
  rw [get?_map, Option.isSome_map]
  rfl

end OrderedMap

/-! ## Reading -/

namespace Document

section

variable {α : Type}

/-- What every field preserves is preserved by all of them. -/
theorem readFields?_preserves {P : α → Prop} {Q : Json → Prop} {names : List String}
    {step : α → String → Json → Option α}
    (hstep : ∀ acc key v acc', Q v → P acc → step acc key v = some acc' → P acc') {start a : α}
    {v : Json} (hv : ∀ fields, v = .object fields → ∀ f ∈ fields, Q f.2) (hstart : P start)
    (h : readFields? names step start v = some a) : P a := by
  cases v with
  | object fields =>
    replace hv := hv fields rfl
    rw [readFields?] at h
    induction fields generalizing start with
    | nil =>
      cases h
      exact hstart
    | cons f rest ih =>
      rw [List.foldlM_cons] at h
      obtain ⟨acc, hacc, h⟩ := Option.bind_eq_some_iff.1 h
      obtain ⟨hf, hrest⟩ := List.forall_mem_cons.1 hv
      exact ih (hstep _ _ _ _ hf hstart hacc) h hrest
  | _ => cases h

theorem read_of_readNullable? {read : Json → Option α} {v : Json} {a : α}
    (h : readNullable? read v = some (some a)) : read v = some a := by
  unfold readNullable? at h
  split at h
  · cases h
  · obtain ⟨a', ha, heq⟩ := Option.map_eq_some_iff.1 h
    cases heq
    exact ha

/-- A map that is read lists what it binds, and what it binds was read. -/
theorem coherent_of_readMap? {read : Json → Option α} {v : Json} {m : OrderedMap α}
    (h : readMap? read v = some m) :
    m.Coherent ∧ ∀ k a, m.get? k = some a → ∃ v', read v' = some a := by
  obtain ⟨hm, fields, rfl, -, hget⟩ := of_readMap? h
  refine ⟨hm, fun k a ha => ?_⟩
  obtain ⟨v', -, hv'⟩ := Option.bind_eq_some_iff.1 ((hget k).symm.trans ha)
  exact ⟨v', hv'⟩

end

theorem coherent_of_ofJson? {v : Json} {t : Traits} (h : Traits.ofJson? v = some t) :
    OrderedMap.Coherent t := by
  obtain ⟨fields, -, h⟩ := Option.bind_eq_some_iff.1 h
  cases h
  exact OrderedMap.coherent_ofFields _

/-- Only two fields of a shape are maps. -/
theorem coherent_readShapeField? (s : ShapeDef MemberDef) (key : String) (v : Json)
    (s' : ShapeDef MemberDef) (hs : s.Coherent) (h : readShapeField? s key v = some s') :
    s'.Coherent := by
  unfold readShapeField? at h
  split at h
  case h_6 =>
    obtain ⟨members, hmembers, rfl⟩ := Option.map_eq_some_iff.1 h
    refine ⟨?_, hs.traits⟩
    rintro m rfl
    exact (coherent_of_readMap? (read_of_readNullable? hmembers)).1
  case h_21 =>
    obtain ⟨traits, htraits, rfl⟩ := Option.map_eq_some_iff.1 h
    refine ⟨hs.members, ?_⟩
    rintro t rfl
    exact coherent_of_ofJson? (read_of_readNullable? htraits)
  case h_22 =>
    cases h
    exact hs
  all_goals
    obtain ⟨x, -, rfl⟩ := Option.map_eq_some_iff.1 h
    exact ⟨hs.members, hs.traits⟩

theorem coherent_readShape? {v : Json} {s : ShapeDef MemberDef} (h : readShape? v = some s) :
    s.Coherent :=
  readFields?_preserves (Q := fun _ => True)
    (fun s key v s' _ hs => coherent_readShapeField? s key v s' hs) (fun _ _ _ _ => trivial)
    ⟨by rintro m ⟨⟩, by rintro t ⟨⟩⟩ h

theorem kept_readShapes? {v : Json} {m : OrderedMap (Option (ShapeDef MemberDef))}
    (h : readShapes? v = some m) : Kept (some m) := by
  unfold readShapes? at h
  split at h
  · obtain ⟨hlisted, heach⟩ := coherent_of_readMap? h
    refine ⟨?_, ?_⟩
    · rintro _ ⟨⟩
      exact hlisted
    · rintro _ id s ⟨⟩ hget
      obtain ⟨v', hv'⟩ := heach id _ hget
      exact coherent_readShape? (read_of_readNullable? hv')
  · cases h

/-- There are no shapes, or they were read from a text of their own. -/
def AreRead (shapes : Option (OrderedMap (Option (ShapeDef MemberDef)))) : Prop :=
  ∀ m, shapes = some m → ∃ text v, Json.parse? text = some v ∧ readShapes? v = some m

theorem areRead_none : AreRead none := by rintro m ⟨⟩

theorem areRead_readField? {d d' : Document} {field : Option DocumentField} {cs rest : List Char}
    (hd : AreRead d.shapes) (h : readField? d field cs = some (d', rest)) : AreRead d'.shapes := by
  unfold readField? at h
  split at h
  · split at h
    · obtain ⟨x, -, heq⟩ := Option.map_eq_some_iff.1 h
      cases heq
      exact hd
    · cases h
      exact hd
    · cases h
  · obtain ⟨x, -, h⟩ := Option.bind_eq_some_iff.1 h
    obtain ⟨y, -, h⟩ := Option.bind_eq_some_iff.1 h
    cases h
    exact hd
  · obtain ⟨⟨text, rest⟩, -, h⟩ := Option.bind_eq_some_iff.1 h
    obtain ⟨v, hv, h⟩ := Option.bind_eq_some_iff.1 h
    obtain ⟨shapes, hshapes, h⟩ := Option.bind_eq_some_iff.1 h
    cases h
    rintro m rfl
    exact ⟨_, v, hv, read_of_readNullable? hshapes⟩
  · obtain ⟨x, -, heq⟩ := Option.map_eq_some_iff.1 h
    cases heq
    exact hd

theorem areRead_readBody? {fuel : Nat} {d d' : Document} {cs rest : List Char}
    (hd : AreRead d.shapes) (h : readBody? fuel d cs = some (d', rest)) : AreRead d'.shapes := by
  induction fuel generalizing d cs with
  | zero => cases h
  | succ fuel ih =>
    unfold readBody? at h
    split at h
    · obtain ⟨⟨field, cs₁⟩, -, h⟩ := Option.bind_eq_some_iff.1 h
      simp only at h
      split at h
      · obtain ⟨⟨d₁, cs₂⟩, hfield, h⟩ := Option.bind_eq_some_iff.1 h
        have hread := areRead_readField? hd hfield
        simp only at h
        split at h
        · cases h
          exact hread
        · exact ih hread h
        · cases h
      · cases h
    · cases h

theorem areRead_first? {cs rest : List Char} {d : Document} (h : first? cs = some (some d, rest)) :
    AreRead d.shapes := by
  unfold first? at h
  split at h
  · cases h
  · split at h
    · cases h
      exact areRead_none
    · obtain ⟨⟨d', rest'⟩, hbody, heq⟩ := Option.map_eq_some_iff.1 h
      cases heq
      exact areRead_readBody? areRead_none hbody
  · cases h

/-- The shapes of a document that is read are read as a document of their own. -/
theorem areRead_of_parse {text : String} {d : Document} (h : parse text = .ok d) :
    AreRead d.shapes := by
  unfold parse at h
  split at h
  · cases h
  · rename_i d? rest hfirst
    split at h
    · cases h
    · split at h
      · cases h
      · split at h
        · cases h
        · cases h
          exact areRead_first? hfirst

/-- **A document that is read** lists what it binds. -/
theorem kept_of_parse {text : String} {d : Document} (h : parse text = .ok d) : Kept d.shapes := by
  cases hshapes : d.shapes with
  | none => exact kept_none
  | some m =>
    obtain ⟨-, v, -, hread⟩ := areRead_of_parse h m hshapes
    exact kept_readShapes? hread

theorem coherent_of_kept {d : Document} (h : Kept d.shapes) : d.Coherent :=
  ⟨fun _ _ hs => (h.lookup hs).1, fun _ _ hs => (h.lookup hs).2⟩

end Document

/-! ## Gathering -/

namespace ShapeDef

theorem coherent_resolve_iff (cells : List MemberDef) (s : ShapeDef Nat) :
    (s.resolve cells).Coherent ↔ s.Coherent := by
  constructor
  · intro h
    refine ⟨fun m hm => ?_, h.traits⟩
    exact (OrderedMap.coherent_map_iff _ m).1 (h.members _ (by rw [resolve, hm]; rfl))
  · intro h
    refine ⟨fun m hm => ?_, h.traits⟩
    obtain ⟨m', hm', rfl⟩ := Option.map_eq_some_iff.1 hm
    exact (OrderedMap.coherent_map_iff _ m').2 (h.members m' hm')

end ShapeDef

namespace Assembly

variable {a : Assembly}

theorem coherent_of_kept (h : Kept a.shapes) : a.Coherent :=
  ⟨fun _ _ hs => (h.lookup hs).1, fun _ _ hs => (h.lookup hs).2⟩

theorem kept_insert (h : Kept a.shapes) (id : String) {s : Option (ShapeDef Nat)}
    (hs : ∀ t, s = some t → t.Coherent) : Kept (a.insert id s).shapes := by
  have hold : (a.shapes.getD {}).Coherent ∧ ∀ x t, (a.shapes.getD {}).get? x = some (some t) →
      t.Coherent := by
    cases hm : a.shapes with
    | none => exact ⟨OrderedMap.coherent_empty, fun x t hx => by cases hx⟩
    | some m => exact ⟨h.listed m hm, fun x t => h.each m x t hm⟩
  refine ⟨?_, ?_⟩
  · rintro m ⟨⟩
    exact hold.1.insert id s
  · rintro m x t ⟨⟩ hx
    rw [OrderedMap.get?_insert] at hx
    split at hx
    · exact hs t (Option.some.inj hx)
    · exact hold.2 x t hx

theorem kept_apply (h : Kept a.shapes) (target : String) (traits : Option Traits) :
    Kept (a.apply target traits).assembly.shapes := by
  unfold apply
  simp only
  split
  · exact h
  · rename_i s hs
    have hcoherent := (h.lookup hs).2
    split
    · refine kept_insert h _ ?_
      rintro t ⟨⟩
      refine ⟨hcoherent.members, ?_⟩
      rintro t ⟨⟩
      exact coherent_addTraits hcoherent.traits traits
    · split
      · exact h
      · exact h

theorem kept_mergeShape (h : Kept a.shapes) (id : String) {incoming : Option (ShapeDef Nat)}
    (hs : ∀ t, incoming = some t → t.Coherent) :
    Kept (a.mergeShape id incoming).assembly.shapes := by
  unfold mergeShape
  split
  · exact kept_insert h id hs
  · exact h
  · split
    · exact kept_apply h id _
    · split
      · exact kept_apply (kept_insert h id hs) id _
      · exact h

theorem kept_ofDocument {d : Document} (h : Kept d.shapes) (next : Nat) :
    Kept (ofDocument next d).shapes := by
  cases hm : d.shapes with
  | none =>
    rw [ofDocument, hm]
    exact kept_none
  | some shapes =>
    have hmap := map_resolve_internShapes shapes (List.replicate next default) []
    rw [List.length_replicate] at hmap
    have hshapes : (ofDocument next d).shapes = some (internShapes next shapes).1 := by
      rw [ofDocument, hm]
    rw [hshapes]
    refine ⟨fun m hm' => ?_, fun m id s hm' hget => ?_⟩
    · rw [← Option.some.inj hm', ← OrderedMap.coherent_map_iff, hmap]
      exact h.listed shapes hm
    · rw [← Option.some.inj hm'] at hget
      have hresolved := congrArg (·.get? id) hmap
      simp only [OrderedMap.get?_map, hget, Option.map_some] at hresolved
      exact (ShapeDef.coherent_resolve_iff _ s).1 (h.each shapes id _ hm hresolved.symm)

/-- What every step preserves is preserved by all of them. -/
theorem forEach_preserves {α : Type} {step : Assembly → α → Update} {P : Assembly → Prop}
    {xs : List α} (hstep : ∀ b, P b → ∀ x ∈ xs, P (step b x).assembly) (ha : P a) :
    P (Update.forEach step xs a).assembly := by
  induction xs generalizing a with
  | nil => exact ha
  | cons x rest ih =>
    have hx := hstep a ha x (by simp)
    rw [Update.forEach]
    simp only
    split
    · exact hx
    · exact ih (fun b hb y hy => hstep b hb y (by simp [hy])) hx

theorem kept_merge {d : Document} (h : Kept a.shapes) (hd : Kept d.shapes) :
    Kept (a.merge d).assembly.shapes := by
  cases hempty : a.isEmpty with
  | true =>
    rw [merge, if_pos hempty]
    exact kept_ofDocument hd 0
  | false =>
    obtain ⟨warnings, hmerge⟩ := merge_of_nonempty hempty d
    rw [hmerge]
    refine forEach_preserves (P := fun b => Kept b.shapes) (fun b hb id _ => ?_) h
    exact kept_mergeShape hb id fun s hs => ((kept_ofDocument hd _).lookup hs).2

/-- **Documents that are read** have maps that list what they bind, and so has the assembly that is
gathered from them. -/
theorem coherent_gathered {docs : List Document}
    (h : ∀ d ∈ docs, ∃ text, Document.parse text = .ok d) :
    (∀ d ∈ docs, d.Coherent) ∧ (Update.forEach merge docs {}).assembly.Coherent := by
  have hkept : ∀ d ∈ docs, Kept d.shapes := by
    intro d hd
    obtain ⟨text, htext⟩ := h d hd
    exact Document.kept_of_parse htext
  refine ⟨fun d hd => Document.coherent_of_kept (hkept d hd), coherent_of_kept ?_⟩
  exact forEach_preserves (P := fun b => Kept b.shapes)
    (fun b hb d hd => kept_merge hb (hkept d hd)) kept_none

end Assembly

end Shapewright
