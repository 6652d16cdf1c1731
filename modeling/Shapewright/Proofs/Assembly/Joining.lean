import Mathlib.Data.List.Duplicate
import Shapewright.Assembly.Merge
import Shapewright.Proofs.Assembly.Resolution

/-!
# One document joins an assembly

`Assembly.merge` adds one document to what has been gathered.  What the assembly says about an id is
joined with what the document says about it (`ShapeView.join`): a definition gives the shape, and a
statement that applies traits puts its traits over those of the shape, whichever of the two comes
first.

* `Assembly.mergeShape_spec` — one shape: when it is refused, and what it makes of its id.
* `Assembly.forEach_mergeShape` — the shapes of a document, one after the other.
* `Assembly.merge_spec` — the whole document.

Two definitions of one id do not go together, and neither do two statements about one id: the second
is refused, unless the definition has come before it.
-/

set_option autoImplicit false

namespace Shapewright

/-! ## What is said about an id -/

namespace ShapeView

/-- Whether this is a statement that applies traits. -/
def isApply (v : ShapeView) : Bool := v.shape.isApply

/-- The shape of one view, with the traits of another over its own. -/
def overlay (v w : ShapeView) : ShapeView :=
  { shape := v.shape, trait? := fun id => (w.trait? id).or (v.trait? id) }

/-- What two say together: the shape comes from the definition, and a statement's traits win. -/
def join : Option ShapeView → Option ShapeView → Option ShapeView
  | v, none => v
  | none, some w => some w
  | some v, some w => some (if w.isApply then v.overlay w else w.overlay v)

/-- The id is defined. -/
def IsDefined (v : Option ShapeView) : Prop := ∃ p, v = some p ∧ p.isApply = false

/-- There is nothing but a statement about the id. -/
def IsApplied (v : Option ShapeView) : Prop := ∃ p, v = some p ∧ p.isApply = true

/-- Both define the id, or both only apply traits to it. -/
def Clash (v w : Option ShapeView) : Prop :=
  (IsDefined v ∧ IsDefined w) ∨ (IsApplied v ∧ IsApplied w)

theorem not_isDefined_none : ¬ IsDefined none := by rintro ⟨p, h, -⟩; cases h

theorem not_isApplied_none : ¬ IsApplied none := by rintro ⟨p, h, -⟩; cases h

@[simp] theorem isDefined_some {v : ShapeView} : IsDefined (some v) ↔ v.isApply = false := by
  simp [IsDefined]

@[simp] theorem isApplied_some {v : ShapeView} : IsApplied (some v) ↔ v.isApply = true := by
  simp [IsApplied]

@[simp] theorem isApply_overlay (v w : ShapeView) : (v.overlay w).isApply = v.isApply := rfl

@[simp] theorem join_none (v : Option ShapeView) : join v none = v := by cases v <;> rfl

theorem none_join (w : Option ShapeView) : join none w = w := by cases w <;> rfl

theorem overlay_assoc (u v w : ShapeView) : (u.overlay v).overlay w = u.overlay (v.overlay w) := by
  simp only [overlay, Option.or_assoc]

theorem isDefined_join_iff (v w : Option ShapeView) :
    IsDefined (join v w) ↔ IsDefined v ∨ IsDefined w := by
  cases w with
  | none => simp [not_isDefined_none]
  | some w =>
    cases v with
    | none => simp [none_join, not_isDefined_none]
    | some v => by_cases hw : w.isApply = true <;> simp [join, hw]

theorem isApplied_join {v w : Option ShapeView} (h : IsApplied (join v w)) :
    IsApplied v ∨ IsApplied w := by
  cases w with
  | none => exact .inl (by simpa using h)
  | some w =>
    cases v with
    | none => exact .inr (by simpa [none_join] using h)
    | some v => by_cases hw : w.isApply = true <;> simp_all [join]

theorem IsDefined.not_isApplied {v : Option ShapeView} (h : IsDefined v) : ¬ IsApplied v := by
  obtain ⟨p, rfl, hp⟩ := h
  simp [hp]

theorem isDefined_or_isApplied (v : ShapeView) : IsDefined (some v) ∨ IsApplied (some v) := by
  cases h : v.isApply <;> simp [h]

theorem isApplied_of_not_clash {v : Option ShapeView} {w : ShapeView} (h : ¬ Clash v (some w))
    (hv : IsDefined v) : IsApplied (some w) :=
  (isDefined_or_isApplied w).resolve_left fun hw => h (.inl ⟨hv, hw⟩)

/-- Only a statement about what is defined may come a second time. -/
theorem not_clash_join_self_iff {v : Option ShapeView} {w : ShapeView} (h : ¬ Clash v (some w)) :
    ¬ Clash (join v (some w)) (some w) ↔ IsDefined v := by
  constructor
  · intro hagain
    by_contra hv
    rcases isDefined_or_isApplied w with hw | hw
    · exact hagain (.inl ⟨(isDefined_join_iff v _).2 (.inr hw), hw⟩)
    · have hnone : v = none := by
        cases v with
        | none => rfl
        | some p =>
          have hp := (isDefined_or_isApplied p).resolve_left hv
          exact absurd (.inr ⟨hp, hw⟩) h
      rw [hnone, none_join] at hagain
      exact hagain (.inr ⟨hw, hw⟩)
  · intro hv
    have hw := isApplied_of_not_clash h hv
    have hjoin := (isDefined_join_iff v (some w)).2 (.inl hv)
    rintro (⟨-, hw'⟩ | ⟨hj, -⟩)
    · exact hw'.not_isApplied hw
    · exact hjoin.not_isApplied hj

/-- What is joined twice need not be joined the second time, if it goes with what was there. -/
theorem join_join_self {v w : Option ShapeView} (hv : IsDefined v) (hw : IsApplied w) :
    join (join v w) w = join v w := by
  obtain ⟨p, rfl, -⟩ := hv
  obtain ⟨q, rfl, hq⟩ := hw
  have hself : q.overlay q = q := by simp [overlay]
  simp [join, hq, overlay_assoc, hself]

/-- The order does not matter for two that do not clash. -/
theorem join_right_comm (u : Option ShapeView) {v w : Option ShapeView} (h : ¬ Clash v w) :
    join (join u v) w = join (join u w) v := by
  have hswap : ∀ {p q : ShapeView}, p.isApply = false → q.isApply = true →
      join (join u (some p)) (some q) = join (join u (some q)) (some p) := by
    intro p q hp hq
    cases u with
    | none => simp [join, hp, hq]
    | some u => by_cases hu : u.isApply = true <;> simp [join, hp, hq, overlay_assoc]
  cases v with
  | none => simp
  | some p =>
    cases w with
    | none => simp
    | some q =>
      cases hp : p.isApply <;> cases hq : q.isApply
      · exact absurd (.inl ⟨by simpa using hp, by simpa using hq⟩) h
      · exact hswap hp hq
      · exact (hswap hq hp).symm
      · exact absurd (.inr ⟨by simpa using hp, by simpa using hq⟩) h

end ShapeView

/-! ## Documents -/

namespace Document

/-- What a document says about an id. -/
def view (d : Document) (id : String) : Option ShapeView := (d.shape? id).map ShapeDef.view

/-- The document defines the id. -/
def Defines (d : Document) (id : String) : Prop := ShapeView.IsDefined (d.view id)

/-- The document applies traits to the id. -/
def Applies (d : Document) (id : String) : Prop := ShapeView.IsApplied (d.view id)

/-- Whether a document is indistinguishable from none at all. -/
def isBlank (d : Document) : Bool := d.version == "" && d.shapes.isNone

/-- No null stands for a shape. -/
def NonNull (d : Document) : Prop := ∀ id ∈ d.ids, (d.shape? id).isSome

/-- Every shape is listed, and the maps of each list exactly what they bind. -/
structure Coherent (d : Document) : Prop where
  listed : ∀ id s, d.shape? id = some s → id ∈ d.ids
  each : ∀ id s, d.shape? id = some s → s.Coherent

theorem view_of_isBlank {d : Document} (h : d.isBlank = true) (id : String) : d.view id = none := by
  rw [isBlank, Bool.and_eq_true, Option.isNone_iff_eq_none] at h
  simp [view, shape?, h.2]

end Document

/-! ## One shape at a time -/

/-- The traits of a shape list what they bind, and more cells do not change its members. -/
structure ShapeDef.Grounded (cells : List MemberDef) (s : ShapeDef Nat) : Prop where
  traits : ∀ t : Traits, s.traits = some t → OrderedMap.Coherent t
  cells : ∀ more, s.resolve (cells ++ more) = s.resolve cells

namespace Assembly

/-- Every shape of the assembly is grounded in its cells. -/
def Grounded (a : Assembly) : Prop := ∀ id s, a.shape? id = some s → s.Grounded a.cells

/-- The id names a shape and not a member. -/
def NamesShape (id : String) : Prop := splitTarget id = (id, "")

@[simp] theorem isApply_view_resolve (cells : List MemberDef) (s : ShapeDef Nat) :
    (s.resolve cells).view.isApply = s.isApply := rfl

theorem view_eq_some {a : Assembly} {id : String} {s : ShapeDef Nat} (h : a.shape? id = some s) :
    a.view id = some (s.resolve a.cells).view := by
  rw [view, h]
  rfl

theorem view_insert_self (a : Assembly) (id : String) (s : ShapeDef Nat) :
    (a.insert id (some s)).view id = some (s.resolve a.cells).view := by
  rw [view_eq_some (s := s) (by simp), cells_insert]

/-- Traits that are added win over those that were there. -/
theorem get?_addTraits (old : Option Traits) {more : Option Traits}
    (hmore : ∀ t : Traits, more = some t → OrderedMap.Coherent t) (id : String) :
    Traits.get? (addTraits old more) id
      = (more.bind (Traits.get? · id)).or (old.bind (Traits.get? · id)) := by
  have hold : Traits.get? (old.getD {}) id = old.bind (Traits.get? · id) := by
    cases old <;> rfl
  cases hm : more with
  | none => exact hold
  | some t =>
    rw [addTraits, Option.map_some, Option.getD_some, Traits.get?_addAll_entries _ (hmore t hm), hold]
    rfl

/-- Applying the traits of a statement to a shape lays them over its own. -/
theorem view_addTraits (cells : List MemberDef) (s p : ShapeDef Nat)
    (hp : ∀ t : Traits, p.traits = some t → OrderedMap.Coherent t) :
    (({ s with traits := some (addTraits s.traits p.traits) } : ShapeDef Nat).resolve cells).view
      = (s.resolve cells).view.overlay (p.resolve cells).view := by
  have htrait : ∀ id, Traits.get? (addTraits s.traits p.traits) id
      = (p.trait? id).or (s.trait? id) := get?_addTraits s.traits hp
  show ShapeView.mk _ (fun id => Traits.get? (addTraits s.traits p.traits) id) = _
  simp only [htrait]
  rfl

theorem coherent_addTraits {old : Option Traits}
    (h : ∀ t : Traits, old = some t → OrderedMap.Coherent t) (more : Option Traits) :
    OrderedMap.Coherent (addTraits old more) := by
  have hold : OrderedMap.Coherent (old.getD {}) := by
    cases old with
    | none => exact OrderedMap.coherent_empty
    | some t => exact h t rfl
  rw [addTraits, Traits.addAll_eq_insertAll]
  exact hold.insertAll _

theorem grounded_addTraits {cells : List MemberDef} {s : ShapeDef Nat} (h : s.Grounded cells)
    (more : Option Traits) :
    ShapeDef.Grounded cells { s with traits := some (addTraits s.traits more) } := by
  refine ⟨?_, fun cs => ?_⟩
  · rintro t ⟨⟩
    exact coherent_addTraits h.traits more
  · have hmembers := congrArg ShapeDef.members (h.cells cs)
    simp only [ShapeDef.resolve] at hmembers ⊢
    rw [hmembers]

theorem apply_of_namesShape {a : Assembly} {id : String} {s : ShapeDef Nat} (hid : NamesShape id)
    (hs : a.shape? id = some s) (traits : Option Traits) :
    a.apply id traits =
      { assembly := a.insert id (some { s with traits := some (addTraits s.traits traits) }) } := by
  rw [apply, hid]
  simp [hs]

/-- What a step leaves when the view `w` has joined what was said about `id`. -/
structure JoinsAt (a : Assembly) (id : String) (w : ShapeView) (b : Assembly) : Prop where
  cells : b.cells = a.cells
  others : ∀ x, x ≠ id → b.shape? x = a.shape? x
  view : b.view id = ShapeView.join (a.view id) (some w)
  grounded : ∀ s, b.shape? id = some s → s.Grounded b.cells
  nonempty : b.isEmpty = false

theorem joinsAt_insert {a b : Assembly} {id : String} {w : ShapeView} {s : ShapeDef Nat}
    (hcells : b.cells = a.cells) (hothers : ∀ x, x ≠ id → b.shape? x = a.shape? x)
    (hs : s.Grounded a.cells)
    (hview : some (s.resolve a.cells).view = ShapeView.join (a.view id) (some w)) :
    JoinsAt a id w (b.insert id (some s)) := by
  refine ⟨hcells, fun x hx => by simp [hx, hothers x hx], ?_, fun t ht => ?_, ?_⟩
  · rw [view_insert_self, hcells, hview]
  · rw [shape?_insert, if_pos rfl, Option.some_inj] at ht
    rw [cells_insert, hcells]
    exact ht ▸ hs
  · simp [isEmpty, insert]

/-- **One shape**: it is refused if it clashes with what is there, and joins it otherwise. -/
theorem mergeShape_spec {a : Assembly} {id : String} {s : ShapeDef Nat} {w : ShapeView}
    (ha : a.Grounded) (hs : s.Grounded a.cells) (hw : (s.resolve a.cells).view = w)
    (hid : ∀ p, a.shape? id = some p → p.isApply ≠ s.isApply → NamesShape id) :
    ((a.mergeShape id (some s)).failure = none ↔ ¬ ShapeView.Clash (a.view id) (some w)) ∧
      ((a.mergeShape id (some s)).failure = none →
        JoinsAt a id w (a.mergeShape id (some s)).assembly) := by
  subst hw
  cases hp : a.shape? id with
  | none =>
    have hview : a.view id = none := by rw [view, hp]; rfl
    have hmerge : a.mergeShape id (some s) = { assembly := a.insert id (some s) } := by
      simp only [mergeShape, hp]
    rw [hmerge]
    refine ⟨⟨fun _ => ?_, fun _ => rfl⟩, fun _ => joinsAt_insert rfl (fun _ _ => rfl) hs ?_⟩
    · rw [hview]
      rintro (⟨h, -⟩ | ⟨h, -⟩)
      · exact ShapeView.not_isDefined_none h
      · exact ShapeView.not_isApplied_none h
    · rw [hview, ShapeView.none_join]
  | some p =>
    have hpg := ha id p hp
    have hview := view_eq_some hp
    have hclash : ShapeView.Clash (a.view id) (some (s.resolve a.cells).view)
        ↔ p.isApply = s.isApply := by
      rw [hview, ShapeView.Clash]
      cases hp' : p.isApply <;> cases hs' : s.isApply <;> simp [hp', hs']
    simp only [mergeShape, hp]
    rw [hclash]
    cases hp' : p.isApply <;> cases hs' : s.isApply
    · simp
    · -- The shape is there, and the statement comes to it.
      have hnames := hid p hp (by simp [hp', hs'])
      simp only [Bool.not_false, Bool.and_true, if_true, apply_of_namesShape hnames hp]
      refine ⟨by simp, fun _ => joinsAt_insert rfl (fun _ _ => rfl)
        (grounded_addTraits hpg _) ?_⟩
      rw [view_addTraits _ _ _ hs.traits, hview]
      simp [ShapeView.join, hs']
    · -- The statement is there, and the shape takes its place before its traits are applied.
      have hnames := hid p hp (by simp [hp', hs'])
      have hput : (a.insert id (some s)).shape? id = some s := by simp
      simp only [Bool.not_true, Bool.and_false, Bool.false_eq_true, if_false, Bool.not_false,
        Bool.and_true, if_true, apply_of_namesShape hnames hput]
      refine ⟨by simp, fun _ => joinsAt_insert rfl (fun x hx => by simp [hx])
        (grounded_addTraits hs _) ?_⟩
      rw [view_addTraits _ _ _ hpg.traits, hview]
      simp [ShapeView.join, hs']
    · simp

theorem JoinsAt.view_of_ne {a b : Assembly} {id x : String} {w : ShapeView}
    (h : JoinsAt a id w b) (hx : x ≠ id) : b.view x = a.view x := by
  rw [Assembly.view, Assembly.view, h.others x hx, h.cells]

theorem JoinsAt.grounded_all {a b : Assembly} {id : String} {w : ShapeView}
    (h : JoinsAt a id w b) (ha : a.Grounded) : b.Grounded := by
  intro x s hs
  by_cases hx : x = id
  · exact h.grounded s (hx ▸ hs)
  · rw [h.others x hx] at hs
    exact h.cells ▸ ha x s hs

/-! ## One document -/

section

variable {α : Type} (step : Assembly → α → Update) (x : α) (rest : List α) (a : Assembly)

theorem failure_forEach_cons : (Update.forEach step (x :: rest) a).failure = none ↔
    (step a x).failure = none ∧
      (Update.forEach step rest (step a x).assembly).failure = none := by
  rw [Update.forEach]
  cases h : (step a x).failure <;> simp [h]

theorem assembly_forEach_cons (h : (step a x).failure = none) :
    (Update.forEach step (x :: rest) a).assembly
      = (Update.forEach step rest (step a x).assembly).assembly := by
  rw [Update.forEach]
  simp [h]

end

/-- Shapes with the given views can join the assembly one after the other: none of them clashes with
what is there, and one that is listed again is a statement about a shape that is there. -/
def Admits (a : Assembly) (ids : List String) (w : String → Option ShapeView) : Prop :=
  ∀ id ∈ ids, ¬ ShapeView.Clash (a.view id) (w id) ∧
    (List.Duplicate id ids → ShapeView.IsDefined (a.view id))

/-- What is left when the views `w` of some ids have joined what was said about them. -/
structure Joins (a : Assembly) (ids : List String) (w : String → Option ShapeView) (b : Assembly) :
    Prop where
  cells : b.cells = a.cells
  view : ∀ id, b.view id = if id ∈ ids then ShapeView.join (a.view id) (w id) else a.view id
  grounded : b.Grounded
  nonempty : a.isEmpty = false → b.isEmpty = false

theorem admits_cons_iff {a b : Assembly} {id : String} {rest : List String}
    {w : String → Option ShapeView} {q : ShapeView} (hq : w id = some q) (h : JoinsAt a id q b)
    (hclash : ¬ ShapeView.Clash (a.view id) (some q)) :
    a.Admits (id :: rest) w ↔ b.Admits rest w := by
  have hself : ¬ ShapeView.Clash (b.view id) (w id) ↔ ShapeView.IsDefined (a.view id) := by
    rw [h.view, hq]
    exact ShapeView.not_clash_join_self_iff hclash
  constructor
  · intro had x hx
    by_cases hxid : x = id
    · subst hxid
      have hdef := (had x (by simp)).2 (.cons_mem hx)
      refine ⟨hself.2 hdef, fun _ => ?_⟩
      rw [h.view, ShapeView.isDefined_join_iff]
      exact .inl hdef
    · rw [h.view_of_ne hxid]
      obtain ⟨hc, hd⟩ := had x (List.mem_cons_of_mem _ hx)
      exact ⟨hc, fun hdup => hd (.cons_duplicate hdup)⟩
  · intro had x hx
    by_cases hxid : x = id
    · subst hxid
      refine ⟨hq ▸ hclash, fun hdup => hself.1 ?_⟩
      exact (had x hdup.mem_cons_self).1
    · obtain ⟨hc, hd⟩ := had x ((List.mem_cons.1 hx).resolve_left hxid)
      rw [h.view_of_ne hxid] at hc hd
      exact ⟨hc, fun hdup => hd (hdup.of_duplicate_cons hxid)⟩

/-- A definition and a statement that meet after a step met before it. -/
theorem JoinsAt.meet {a b : Assembly} {id x : String} {w : String → Option ShapeView} {q : ShapeView}
    (hq : w id = some q) (h : JoinsAt a id q b)
    (hmeet : (ShapeView.IsDefined (b.view x) ∧ ShapeView.IsApplied (w x)) ∨
      (ShapeView.IsApplied (b.view x) ∧ ShapeView.IsDefined (w x))) :
    (ShapeView.IsDefined (a.view x) ∧ ShapeView.IsApplied (w x)) ∨
      (ShapeView.IsApplied (a.view x) ∧ ShapeView.IsDefined (w x)) := by
  by_cases hxid : x = id
  · subst hxid
    rw [h.view, ← hq, ShapeView.isDefined_join_iff] at hmeet
    rcases hmeet with ⟨hdef, hwa⟩ | ⟨hja, hwd⟩
    · exact .inl ⟨hdef.resolve_right fun h => h.not_isApplied hwa, hwa⟩
    · have hjd := (ShapeView.isDefined_join_iff (a.view x) (w x)).2 (.inr hwd)
      exact absurd hja hjd.not_isApplied
  · rwa [h.view_of_ne hxid] at hmeet

/-- One more id in front of others. It may be among them, as one that is only added to. -/
theorem Joins.cons {a b c : Assembly} {id : String} {rest : List String}
    {w : String → Option ShapeView} {q : ShapeView} (hq : w id = some q) (h : JoinsAt a id q b)
    (hclash : ¬ ShapeView.Clash (a.view id) (some q)) (had : b.Admits rest w)
    (hrest : b.Joins rest w c) : a.Joins (id :: rest) w c := by
  refine ⟨hrest.cells.trans h.cells, fun x => ?_, hrest.grounded, fun _ => hrest.nonempty h.nonempty⟩
  rw [hrest.view]
  by_cases hxid : x = id
  · subst hxid
    rw [h.view, ← hq, if_pos List.mem_cons_self]
    split
    · rename_i hmem
      have hdef := ((admits_cons_iff hq h hclash).2 had x List.mem_cons_self).2 (.cons_mem hmem)
      refine ShapeView.join_join_self hdef ?_
      rw [hq]
      exact ShapeView.isApplied_of_not_clash hclash hdef
    · rfl
  · rw [h.view_of_ne hxid]
    simp [hxid]

/-- **One document, shape by shape**. -/
theorem forEach_mergeShape {shape? : String → Option (ShapeDef Nat)}
    {w : String → Option ShapeView} : ∀ (ids : List String) (a : Assembly), a.Grounded →
    (∀ id ∈ ids, ∃ s, shape? id = some s ∧ s.Grounded a.cells ∧
      w id = some (s.resolve a.cells).view) →
    (∀ id ∈ ids, (ShapeView.IsDefined (a.view id) ∧ ShapeView.IsApplied (w id)) ∨
      (ShapeView.IsApplied (a.view id) ∧ ShapeView.IsDefined (w id)) → NamesShape id) →
    ((Update.forEach (fun a id => a.mergeShape id (shape? id)) ids a).failure = none
      ↔ a.Admits ids w) ∧
    ((Update.forEach (fun a id => a.mergeShape id (shape? id)) ids a).failure = none →
      a.Joins ids w (Update.forEach (fun a id => a.mergeShape id (shape? id)) ids a).assembly) := by
  intro ids
  induction ids with
  | nil =>
    intro a ha _ _
    exact ⟨by simp [Update.forEach, Admits], fun _ => ⟨rfl, by simp [Update.forEach], ha, id⟩⟩
  | cons id rest ih =>
    intro a ha hinc hnames
    obtain ⟨s, hs, hsg, hw⟩ := hinc id (by simp)
    have hmixed : ∀ p, a.shape? id = some p → p.isApply ≠ s.isApply → NamesShape id := by
      intro p hp hne
      refine hnames id (by simp) ?_
      rw [view_eq_some hp, hw]
      cases hp' : p.isApply <;> cases hs' : s.isApply <;> simp_all
    obtain ⟨hiff, hjoins⟩ := mergeShape_spec ha hsg rfl hmixed
    rw [failure_forEach_cons, hs]
    by_cases hfail : (a.mergeShape id (some s)).failure = none
    · have hj := hjoins hfail
      have hclash := hiff.1 hfail
      have hinc' : ∀ x ∈ rest, ∃ s', shape? x = some s' ∧
          s'.Grounded (a.mergeShape id (some s)).assembly.cells ∧
          w x = some (s'.resolve (a.mergeShape id (some s)).assembly.cells).view := by
        rw [hj.cells]
        exact fun x hx => hinc x (List.mem_cons_of_mem _ hx)
      obtain ⟨hiff', hjoins'⟩ := ih _ (hj.grounded_all ha) hinc' fun x hx hmeet =>
        hnames x (List.mem_cons_of_mem _ hx) (hj.meet hw hmeet)
      rw [admits_cons_iff hw hj hclash, assembly_forEach_cons _ _ _ _ (by rw [hs]; exact hfail), hs]
      refine ⟨by rw [hiff']; simp [hfail], fun h => ?_⟩
      exact .cons hw hj hclash (hiff'.1 h.2) (hjoins' h.2)
    · refine ⟨⟨fun h => absurd h.1 hfail, fun had => ?_⟩, fun h => absurd h.1 hfail⟩
      exact absurd (hiff.2 (hw ▸ (had id (by simp)).1)) hfail

theorem mem_ids_iff_view {d : Document} (hc : d.Coherent) (hn : d.NonNull) (id : String) :
    id ∈ d.ids ↔ (d.view id).isSome := by
  rw [Document.view, Option.isSome_map]
  refine ⟨hn id, fun h => ?_⟩
  obtain ⟨s, hs⟩ := Option.isSome_iff_exists.1 h
  exact hc.listed id s hs

/-- The shapes of a document are grounded in the cells they are put into. -/
theorem grounded_ofDocument {d : Document} (hc : d.Coherent) (front : List MemberDef) {id : String}
    {s : ShapeDef Nat} (hs : (ofDocument front.length d).shape? id = some s) :
    s.Grounded (front ++ (ofDocument front.length d).cells) ∧
      d.view id = some (s.resolve (front ++ (ofDocument front.length d).cells)).view := by
  have hall : ∀ back, d.shape? id
      = some (s.resolve (front ++ (ofDocument front.length d).cells ++ back)) := by
    intro back
    rw [← resolve_shape?_ofDocument d front back id, hs]
    rfl
  have hnil := hall []
  rw [List.append_nil] at hnil
  refine ⟨⟨fun t ht => ?_, fun more => ?_⟩, ?_⟩
  · exact (hc.each id _ hnil).traits t ht
  · exact Option.some_inj.1 ((hall more).symm.trans hnil)
  · rw [Document.view, hnil]
    rfl

theorem exists_shape?_ofDocument (next : Nat) {d : Document} (hn : d.NonNull) {id : String}
    (hid : id ∈ d.ids) : ∃ s, (ofDocument next d).shape? id = some s := by
  have h := resolve_shape?_ofDocument d (List.replicate next default) [] id
  rw [List.length_replicate] at h
  have hsome := hn id hid
  rw [← h, Option.isSome_map] at hsome
  exact Option.isSome_iff_exists.1 hsome

theorem mergeVersion_ne_empty {ours theirs : String} (h : ours ≠ "") :
    (mergeVersion ours theirs).1 ≠ "" := by
  rw [mergeVersion]
  split_ifs with h₁ h₂ h₃
  · exact h
  · rintro rfl
    simp [Text.startsWith] at h₂
  · exact h
  · exact h

/-- The assembly at the point where the first shape of a document is about to join it. -/
def opened (a : Assembly) (d : Document) : Assembly :=
  { a with
    version := (mergeVersion a.version (ofDocument a.cells.length d).version).1
    metadata := a.metadata.orElse fun _ => (ofDocument a.cells.length d).metadata
    cells := a.cells ++ (ofDocument a.cells.length d).cells }

theorem view_opened {a : Assembly} (ha : a.Grounded) (d : Document) (id : String) :
    (a.opened d).view id = a.view id := by
  show (a.shape? id).map _ = (a.shape? id).map _
  cases hs : a.shape? id with
  | none => rfl
  | some s => exact congrArg (fun t => some (ShapeDef.view t)) ((ha id s hs).cells _)

theorem grounded_opened {a : Assembly} (ha : a.Grounded) (d : Document) :
    (a.opened d).Grounded := by
  intro id s hs
  refine ⟨(ha id s hs).traits, fun more => ?_⟩
  rw [opened, List.append_assoc, (ha id s hs).cells, (ha id s hs).cells]

theorem isEmpty_opened {a : Assembly} (h : a.isEmpty = false) (d : Document) :
    (a.opened d).isEmpty = false := by
  rw [isEmpty, Bool.and_eq_false_iff] at h ⊢
  refine h.imp_left fun hv => ?_
  exact beq_eq_false_iff_ne.2 (mergeVersion_ne_empty (beq_eq_false_iff_ne.1 hv))

theorem merge_of_nonempty {a : Assembly} (h : a.isEmpty = false) (d : Document) :
    ∃ warnings, a.merge d = { Update.forEach (fun b id => b.mergeShape id
      ((ofDocument a.cells.length d).shape? id)) d.ids (a.opened d) with warnings } := by
  rw [merge, if_neg (by simp [h]), ← ids_ofDocument a.cells.length d]
  exact ⟨_, rfl⟩

/-- **One document**: when it can join an assembly that is not empty, and what it makes of it. -/
theorem merge_spec {a : Assembly} {d : Document} (ha : a.Grounded) (hne : a.isEmpty = false)
    (hc : d.Coherent) (hn : d.NonNull)
    (hnames : ∀ id, (ShapeView.IsDefined (a.view id) ∧ d.Applies id) ∨
      (ShapeView.IsApplied (a.view id) ∧ d.Defines id) → NamesShape id) :
    ((a.merge d).failure = none ↔ a.Admits d.ids d.view) ∧
      ((a.merge d).failure = none → (a.merge d).assembly.Grounded ∧
        (a.merge d).assembly.isEmpty = false ∧
        ∀ id, (a.merge d).assembly.view id = ShapeView.join (a.view id) (d.view id)) := by
  have hincoming : ∀ id ∈ d.ids, ∃ s, (ofDocument a.cells.length d).shape? id = some s ∧
      s.Grounded (a.opened d).cells ∧ d.view id = some (s.resolve (a.opened d).cells).view := by
    intro id hid
    obtain ⟨s, hs⟩ := exists_shape?_ofDocument a.cells.length hn hid
    exact ⟨s, hs, grounded_ofDocument hc a.cells hs⟩
  obtain ⟨hiff, hjoins⟩ := forEach_mergeShape d.ids (a.opened d) (grounded_opened ha d) hincoming
    fun id _ h => hnames id (by rwa [view_opened ha] at h)
  obtain ⟨warnings, hmerge⟩ := merge_of_nonempty hne d
  rw [hmerge]
  simp only [Admits, view_opened ha] at hiff
  refine ⟨hiff, fun h => ?_⟩
  have hj := hjoins h
  refine ⟨hj.grounded, hj.nonempty (isEmpty_opened hne d), fun id => ?_⟩
  rw [hj.view, view_opened ha]
  split
  · rfl
  · rename_i hid
    rw [mem_ids_iff_view hc hn, Option.not_isSome_iff_eq_none] at hid
    rw [hid, ShapeView.join_none]

end Assembly

end Shapewright
