import Shapewright.Proofs.Assembly.Coherence
import Shapewright.Proofs.Assembly.Noting

/-!
# What gathering does to nulls

A document may have a null where a shape, a member or a reference to a mixin belongs.  Applying
traits leaves nulls where they are, so this file looks at what is left of a shape without its traits:

* `ShapeDef.frame` — the type, the mixins, and which of the listed members are nulls.
* `ShapeDef.HasNullMixin`, `ShapeDef.HasNullMember` — the nulls that can do harm in a shape.
* `Document.chosen` — the shape that documents together give an id: the first definition, or else the
  first statement that applies traits to it.
* `Document.Spares` — no null of a document stands where an earlier document has a shape.

`Assembly.Gathered` says that an assembly has the frames that its documents choose.  A document that
joins it keeps it so, and the only null that a join does not pass over is one that stands for a shape
that is there (`Assembly.failure_merge_eq_nullReference`).
-/

set_option autoImplicit false

namespace Shapewright

/-! ## Frames -/

/-- What is left of a shape without its traits and the contents of its members. -/
structure Frame where
  type : String
  mixins : Option (List Ref)
  /-- The listed members; `false` where a null stands for one. -/
  members : List (String × Bool)

/-- What two say together: the first counts, but a statement gives way to a definition. -/
def Frame.join : Option Frame → Option Frame → Option Frame
  | none, g => g
  | some f, none => some f
  | some f, some g => if f.type == applyType && g.type != applyType then some g else some f

@[simp] theorem Frame.join_none (f : Option Frame) : Frame.join f none = f := by
  cases f <;> rfl

theorem Frame.join_join_self (f g : Option Frame) :
    Frame.join (Frame.join f g) g = Frame.join f g := by
  rcases f with _ | f <;> rcases g with _ | g
  · rfl
  · by_cases h : (g.type == applyType) = true <;> simp [Frame.join]
  · rfl
  · by_cases h : (f.type == applyType && g.type != applyType) = true <;> simp [Frame.join, h]

namespace ShapeDef

variable {μ : Type}

/-- What is left of a shape without its traits and the contents of its members. -/
def frame (s : ShapeDef μ) : Frame :=
  { type := s.type, mixins := s.mixins
    members := s.memberEntries.map fun e => (e.1, e.2.isSome) }

/-- A shape without its traits. -/
def bare (s : ShapeDef μ) : ShapeDef μ := { s with traits := none }

/-- The members of a shape lie below position `n`. -/
def Below (n : Nat) (s : ShapeDef Nat) : Prop :=
  ∀ name i, (name, some i) ∈ s.memberEntries → i < n

theorem Below.mono {n m : Nat} {s : ShapeDef Nat} (h : s.Below n) (hnm : n ≤ m) : s.Below m :=
  fun name i hi => Nat.lt_of_lt_of_le (h name i hi) hnm

theorem memberEntries_resolve (cells : List MemberDef) (s : ShapeDef Nat) :
    (s.resolve cells).memberEntries
      = s.memberEntries.map fun e => (e.1, resolveMember cells e.2) := by
  cases hm : s.members with
  | none => simp [memberEntries, resolve, hm]
  | some m =>
    have htoList : (m.map (resolveMember cells)).toList
        = m.toList.map fun e => (e.1, resolveMember cells e.2) := by
      rw [OrderedMap.toList, OrderedMap.toList, List.map_filterMap]
      refine List.filterMap_congr fun k _ => ?_
      rw [OrderedMap.get?_map]
      cases m.get? k <;> rfl
    simpa [memberEntries, resolve, hm] using htoList

/-- Members that more cells do not change are among the cells that there are. -/
theorem below_of_resolve_append {cells : List MemberDef} {s : ShapeDef Nat}
    (h : ∀ more, s.resolve (cells ++ more) = s.resolve cells) : s.Below cells.length := by
  intro name i hi
  by_contra hlt
  have hentries := congrArg memberEntries (h (List.replicate (i + 1) default))
  rw [memberEntries_resolve, memberEntries_resolve, List.map_inj_left] at hentries
  have hget := (Prod.mk.inj (hentries _ hi)).2
  simp only [resolveMember, Option.bind_some] at hget
  rw [List.getElem?_eq_none (Nat.le_of_not_lt hlt), List.getElem?_eq_none_iff, List.length_append,
    List.length_replicate] at hget
  omega

theorem frame_resolve {cells : List MemberDef} {s : ShapeDef Nat} (h : s.Below cells.length) :
    (s.resolve cells).frame = s.frame := by
  rw [frame, frame, memberEntries_resolve, List.map_map]
  congr 1
  refine List.map_congr_left fun e he => ?_
  obtain ⟨name, m⟩ := e
  cases m with
  | none => rfl
  | some i => simp [resolveMember, h name i he]

end ShapeDef

/-! ## Nulls -/

/-- The types of the shapes that have members under names. -/
def memberTypes : List String := ["structure", "union", "enum", "intEnum"]

namespace ShapeDef

variable {μ ν : Type}

/-- A null stands for one of the mixins. -/
def HasNullMixin (s : ShapeDef μ) : Prop := ∃ refs, s.mixins = some refs ∧ none ∈ refs

/-- A null stands for one of the members, in a shape that has members under names. -/
def HasNullMember (s : ShapeDef μ) : Prop :=
  s.type ∈ memberTypes ∧ ∃ name, (name, none) ∈ s.memberEntries

theorem hasNullMixin_congr {s : ShapeDef μ} {t : ShapeDef ν} (h : s.frame = t.frame) :
    s.HasNullMixin ↔ t.HasNullMixin := by
  have hmixins : s.mixins = t.mixins := congrArg Frame.mixins h
  rw [HasNullMixin, HasNullMixin, hmixins]

theorem hasNullMember_congr {s : ShapeDef μ} {t : ShapeDef ν} (h : s.frame = t.frame) :
    s.HasNullMember ↔ t.HasNullMember := by
  have htype : s.type = t.type := congrArg Frame.type h
  have hmember {κ : Type} (u : ShapeDef κ) (name : String) :
      (name, none) ∈ u.memberEntries ↔ (name, false) ∈ u.frame.members := by
    simp [frame]
  simp only [HasNullMember, htype, hmember, h]

end ShapeDef

/-! ## What documents choose -/

namespace Document

/-- The shape that documents together give an id: the first that defines it, or else the first that
applies traits to it. -/
def chosen (docs : List Document) (id : String) : Option (ShapeDef MemberDef) :=
  let found := docs.filterMap (·.shape? id)
  (found.find? (!·.isApply)).or found.head?

/-- Wherever a document has a shape, the other one has no null. -/
def Spares (d other : Document) : Prop :=
  ∀ id ∈ other.ids, (d.shape? id).isSome → (other.shape? id).isSome

theorem isSome_chosen_iff {docs : List Document} {id : String} :
    (chosen docs id).isSome ↔ ∃ d ∈ docs, (d.shape? id).isSome := by
  have hmem : (chosen docs id).isSome ↔ docs.filterMap (·.shape? id) ≠ [] := by
    cases hfound : docs.filterMap (·.shape? id) <;> simp [chosen, hfound]
  rw [hmem, ne_eq, List.filterMap_eq_nil_iff]
  simp [Option.isSome_iff_ne_none]

/-- One more document joins the choice. -/
theorem frame_chosen_concat (docs : List Document) (d : Document) (id : String) :
    (chosen (docs ++ [d]) id).map ShapeDef.frame
      = Frame.join ((chosen docs id).map ShapeDef.frame) ((d.shape? id).map ShapeDef.frame) := by
  rw [chosen, chosen, List.filterMap_append]
  generalize docs.filterMap (·.shape? id) = found
  cases ht : d.shape? id with
  | none => simp [ht]
  | some t =>
    have hone : [d].filterMap (·.shape? id) = [t] := by simp [ht]
    rw [hone, List.find?_append, List.head?_append]
    cases hdef : found.find? (!·.isApply) with
    | some s =>
      have hs : (s.type == applyType) = false := by simpa [ShapeDef.isApply] using List.find?_some hdef
      simp [Frame.join, ShapeDef.frame, hs]
    | none =>
      cases hhead : found.head? with
      | none => cases ht' : t.isApply <;> simp [Frame.join, ht']
      | some s =>
        -- Nothing but statements so far, and the first of them counts.
        have hs : s.type == applyType := by
          simpa [ShapeDef.isApply] using List.find?_eq_none.1 hdef s (List.mem_of_mem_head? hhead)
        cases ht' : t.isApply <;> simp_all [Frame.join, ShapeDef.frame, ShapeDef.isApply]

end Document

/-! ## One shape joins -/

namespace Assembly

variable {a b : Assembly}

/-- What is left of the shape with an id. -/
def frame? (a : Assembly) (id : String) : Option Frame := (a.shape? id).map ShapeDef.frame

/-- The members of every shape are among the cells. -/
def Below (a : Assembly) : Prop := ∀ id s, a.shape? id = some s → s.Below a.cells.length

/-- Nothing has changed but traits. -/
structure Retains (a b : Assembly) : Prop where
  cells : b.cells.length = a.cells.length
  bare : ∀ id, (b.shape? id).map ShapeDef.bare = (a.shape? id).map ShapeDef.bare
  listed : ∀ id ∈ a.ids, id ∈ b.ids

theorem Retains.exists_shape (h : a.Retains b) {id : String} {t : ShapeDef Nat}
    (ht : b.shape? id = some t) : ∃ s, a.shape? id = some s ∧ s.bare = t.bare := by
  have hbare := h.bare id
  rw [ht] at hbare
  exact Option.map_eq_some_iff.1 hbare.symm

theorem Retains.frame? (h : a.Retains b) (id : String) : b.frame? id = a.frame? id := by
  have hframe : ∀ c : Assembly, c.frame? id = ((c.shape? id).map ShapeDef.bare).map
      ShapeDef.frame := fun c => by rw [Option.map_map]; rfl
  rw [hframe, hframe, h.bare]

theorem Retains.below (h : a.Retains b) (ha : a.Below) : b.Below := by
  intro id t ht
  obtain ⟨s, hs, hbare⟩ := h.exists_shape ht
  have hbelow : s.bare.Below b.cells.length := h.cells ▸ ha id s hs
  rw [hbare] at hbelow
  exact hbelow

theorem frame?_insert (a : Assembly) (id : String) (s : Option (ShapeDef Nat)) (x : String) :
    (a.insert id s).frame? x = if x = id then s.map ShapeDef.frame else a.frame? x := by
  rw [frame?, shape?_insert]
  split <;> rfl

theorem mem_ids_insert {id x : String} (s : Option (ShapeDef Nat)) (h : x ∈ a.ids) :
    x ∈ (a.insert id s).ids := by
  cases hm : a.shapes with
  | none => simp [ids, hm] at h
  | some m =>
    have hx : x ∈ m.keys := by simpa [ids, hm] using h
    show x ∈ (((a.shapes.getD {}).insert id s).keys)
    rw [hm, Option.getD_some, OrderedMap.insert]
    split
    · exact hx
    · exact List.mem_append_left _ hx

/-- Applying traits changes nothing but traits. -/
theorem retains_apply (a : Assembly) (target : String) (traits : Option Traits) :
    a.Retains (a.apply target traits).assembly := by
  unfold apply
  simp only
  split
  · exact ⟨rfl, fun _ => rfl, fun _ h => h⟩
  · rename_i s hs
    split
    · refine ⟨rfl, fun x => ?_, fun x hx => mem_ids_insert _ hx⟩
      rw [shape?_insert]
      split
      · rename_i hx
        rw [hx, hs]
        rfl
      · rfl
    · split
      · exact ⟨rfl, fun _ => rfl, fun _ h => h⟩
      · exact ⟨List.length_set, fun _ => rfl, fun _ h => h⟩

/-- Traits that cannot be applied are never refused for a null. -/
theorem failure_apply_ne (a : Assembly) (target : String) (traits : Option Traits) :
    (a.apply target traits).failure ≠ some .nullReference := by
  unfold apply
  simp only
  split
  · simp
  · split
    · simp
    · split <;> simp

/-- **One shape**: the only null that is not passed over stands for a shape that is there. -/
theorem failure_mergeShape_eq_nullReference_iff (id : String) (incoming : Option (ShapeDef Nat)) :
    (a.mergeShape id incoming).failure = some .nullReference
      ↔ incoming = none ∧ (a.frame? id).isSome := by
  have hsome : (a.frame? id).isSome = (a.shape? id).isSome := by rw [frame?, Option.isSome_map]
  rw [hsome]
  unfold mergeShape
  split
  · rename_i h
    simp [h]
  · rename_i h
    simp [h]
  · rename_i present s h
    refine ⟨fun hf => absurd hf ?_, fun hf => nomatch hf.1⟩
    split
    · exact failure_apply_ne _ _ _
    · split
      · exact failure_apply_ne _ _ _
      · simp

/-- **One shape** that is not refused joins what is there. -/
theorem frame?_mergeShape {id : String} {incoming : Option (ShapeDef Nat)}
    (h : (a.mergeShape id incoming).failure = none) (x : String) :
    (a.mergeShape id incoming).assembly.frame? x
      = if x = id then Frame.join (a.frame? id) (incoming.map ShapeDef.frame) else a.frame? x := by
  revert h
  unfold mergeShape
  split
  · rename_i hnone
    intro _
    have hframe : a.frame? id = none := by rw [frame?, hnone]; rfl
    rw [frame?_insert, hframe]
    split <;> rfl
  · exact fun h => nomatch h
  · rename_i present s hp
    have hpresent : a.frame? id = some present.frame := by rw [frame?, hp]; rfl
    split
    · rename_i hkinds
      intro _
      rw [(retains_apply a id s.traits).frame?]
      split
      · rename_i hx
        rw [hx, hpresent]
        simp_all [Frame.join, ShapeDef.frame, ShapeDef.isApply]
      · rfl
    · split
      · rename_i hkinds
        intro _
        rw [(retains_apply (a.insert id (some s)) id present.traits).frame?, frame?_insert, hpresent]
        split
        · simp_all [Frame.join, ShapeDef.frame, ShapeDef.isApply]
        · rfl
      · exact fun h => nomatch h

theorem below_insert (ha : a.Below) (id : String) {s : Option (ShapeDef Nat)}
    (hs : ∀ t, s = some t → t.Below a.cells.length) : (a.insert id s).Below := by
  intro x t ht
  rw [shape?_insert] at ht
  split at ht
  · exact hs t ht
  · exact ha x t ht

/-- Joining keeps the number of cells, and the members of shapes among them. -/
theorem below_mergeShape (ha : a.Below) (id : String) {incoming : Option (ShapeDef Nat)}
    (hs : ∀ t, incoming = some t → t.Below a.cells.length) :
    (a.mergeShape id incoming).assembly.Below ∧
      (a.mergeShape id incoming).assembly.cells.length = a.cells.length := by
  unfold mergeShape
  split
  · exact ⟨below_insert ha id hs, rfl⟩
  · exact ⟨ha, rfl⟩
  · split
    · have h := retains_apply a id
      exact ⟨(h _).below ha, (h _).cells⟩
    · split
      · rename_i s _ _ _
        have h := retains_apply (a.insert id (some s)) id
        exact ⟨(h _).below (below_insert ha id hs), (h _).cells⟩
      · exact ⟨ha, rfl⟩

/-! ## One document joins -/

/-- Shapes that join one after the other. -/
theorem frame?_forEach_mergeShape {incoming : String → Option (ShapeDef Nat)} {ids : List String}
    (h : (Update.forEach (fun a id => a.mergeShape id (incoming id)) ids a).failure = none)
    (x : String) :
    (Update.forEach (fun a id => a.mergeShape id (incoming id)) ids a).assembly.frame? x
      = if x ∈ ids then Frame.join (a.frame? x) ((incoming x).map ShapeDef.frame)
        else a.frame? x := by
  induction ids generalizing a with
  | nil => rfl
  | cons id rest ih =>
    obtain ⟨hid, hrest⟩ := (failure_forEach_cons _ _ _ _).1 h
    rw [assembly_forEach_cons _ _ _ _ hid, ih hrest, frame?_mergeShape hid]
    by_cases hx : x = id
    · subst hx
      simp [Frame.join_join_self]
    · simp [hx]

/-- A null among the shapes is refused only where a shape is there. -/
theorem exists_of_forEach_mergeShape {incoming : String → Option (ShapeDef Nat)}
    {ids : List String}
    (h : (Update.forEach (fun a id => a.mergeShape id (incoming id)) ids a).failure
      = some .nullReference) : ∃ id ∈ ids, incoming id = none ∧ (a.frame? id).isSome := by
  induction ids generalizing a with
  | nil => exact nomatch h
  | cons id rest ih =>
    by_cases hid : (a.mergeShape id (incoming id)).failure = none
    · rw [Update.forEach] at h
      simp only [hid, Option.isSome_none, Bool.false_eq_true, if_false] at h
      obtain ⟨x, hx, hnone, hsome⟩ := ih h
      rw [frame?_mergeShape hid] at hsome
      refine ⟨x, List.mem_cons_of_mem _ hx, hnone, ?_⟩
      split at hsome
      · rename_i hxid
        rwa [← hxid, hnone, Option.map_none, Frame.join_none] at hsome
      · exact hsome
    · rw [Update.forEach] at h
      simp only [if_pos (Option.isSome_iff_ne_none.2 hid)] at h
      exact ⟨id, by simp, (failure_mergeShape_eq_nullReference_iff id _).1 h⟩

/-- Where a shape is there, a null for it does not join. -/
theorem failure_forEach_mergeShape_ne {incoming : String → Option (ShapeDef Nat)}
    {ids : List String} {id : String} (hid : id ∈ ids) (hnone : incoming id = none)
    (hsome : (a.frame? id).isSome) :
    (Update.forEach (fun a id => a.mergeShape id (incoming id)) ids a).failure ≠ none := by
  intro h
  induction ids generalizing a with
  | nil => simp at hid
  | cons x rest ih =>
    obtain ⟨hx, hrest⟩ := (failure_forEach_cons _ _ _ _).1 h
    by_cases hidx : id = x
    · have hnull := (failure_mergeShape_eq_nullReference_iff id none).2 ⟨rfl, hsome⟩
      rw [← hidx, hnone, hnull] at hx
      cases hx
    · refine ih ((List.mem_cons.1 hid).resolve_left hidx) ?_ hrest
      rwa [frame?_mergeShape hx, if_neg hidx]

/-- A shape of a document, after its members were put into cells. -/
theorem exists_shape?_eq_resolve {next : Nat} {d : Document} {id : String} {s : ShapeDef Nat}
    (hs : (ofDocument next d).shape? id = some s) :
    s.Below (next + (ofDocument next d).cells.length) ∧
      (d.shape? id).map ShapeDef.frame = some s.frame := by
  have hresolve (back : List MemberDef) :=
    resolve_shape?_ofDocument d (List.replicate next default) back id
  simp only [List.length_replicate, hs, Option.map_some] at hresolve
  have hnil := hresolve []
  rw [List.append_nil] at hnil
  have hbelow := ShapeDef.below_of_resolve_append fun more =>
    Option.some.inj ((hresolve more).trans hnil.symm)
  refine ⟨?_, ?_⟩
  · rwa [List.length_append, List.length_replicate] at hbelow
  · rw [← hnil, Option.map_some, ShapeDef.frame_resolve hbelow]

/-- Putting the members of a document into cells changes no frame. -/
theorem frame?_ofDocument (next : Nat) (d : Document) (id : String) :
    (ofDocument next d).frame? id = (d.shape? id).map ShapeDef.frame := by
  cases hs : (ofDocument next d).shape? id with
  | none =>
    have hnone := resolve_shape?_ofDocument d (List.replicate next default) [] id
    rw [List.length_replicate, hs, Option.map_none] at hnone
    rw [frame?, hs, ← hnone]
    rfl
  | some s =>
    rw [frame?, hs, (exists_shape?_eq_resolve hs).2]
    rfl

/-! ## All documents -/

/-- The assembly has the frames that documents choose, and its maps list what they bind. -/
structure Gathered (a : Assembly) (docs : List Document) : Prop where
  frames : ∀ id, a.frame? id = (Document.chosen docs id).map ShapeDef.frame
  below : a.Below
  kept : Kept a.shapes

theorem gathered_nil : Gathered {} [] := by
  have hnone : ∀ id, ({} : Assembly).shape? id = none := fun _ => rfl
  refine ⟨fun id => ?_, fun id s hs => ?_, kept_none⟩
  · rw [frame?, hnone]
    rfl
  · rw [hnone] at hs
    cases hs

variable {docs : List Document} {d : Document}

/-- A document that does not spare what is there puts a null in its place. -/
theorem Gathered.exists_null_iff (h : Gathered a docs) :
    (∃ id ∈ d.ids, (ofDocument a.cells.length d).shape? id = none ∧ (a.frame? id).isSome)
      ↔ ∃ other ∈ docs, ¬ other.Spares d := by
  have hnone : ∀ id, (ofDocument a.cells.length d).shape? id = none ↔ d.shape? id = none := by
    intro id
    have hframe := frame?_ofDocument a.cells.length d id
    rw [frame?] at hframe
    rw [← Option.map_eq_none_iff, hframe, Option.map_eq_none_iff]
  have hsome : ∀ id, (a.frame? id).isSome ↔ ∃ other ∈ docs, (other.shape? id).isSome := by
    intro id
    rw [h.frames, Option.isSome_map, Document.isSome_chosen_iff]
  simp only [hnone, hsome, Document.Spares, not_forall, Option.not_isSome_iff_eq_none]
  constructor
  · rintro ⟨id, hid, hd, other, hother, hs⟩
    exact ⟨other, hother, id, hid, hs, hd⟩
  · rintro ⟨other, hother, id, hid, hs, hd⟩
    exact ⟨id, hid, hd, other, hother, hs⟩

theorem frame?_of_isEmpty (h : a.isEmpty = true) (id : String) : a.frame? id = none := by
  rw [isEmpty, Bool.and_eq_true, Option.isNone_iff_eq_none] at h
  rw [frame?, shape?, h.2]
  rfl

/-- **A document that joins** keeps the assembly gathered, and spares what is there. -/
theorem Gathered.merge (h : Gathered a docs) (hd : Kept d.shapes)
    (hf : (a.merge d).failure = none) :
    Gathered (a.merge d).assembly (docs ++ [d]) ∧ ∀ other ∈ docs, other.Spares d := by
  cases hempty : a.isEmpty with
  | true =>
    have hmerge : a.merge d = { assembly := ofDocument 0 d } := by rw [Assembly.merge, if_pos hempty]
    have hnone := frame?_of_isEmpty hempty
    refine ⟨⟨fun id => ?_, fun id s hs => ?_, kept_merge h.kept hd⟩, ?_⟩
    · rw [hmerge, Document.frame_chosen_concat, ← h.frames, hnone]
      exact frame?_ofDocument 0 d id
    · rw [hmerge] at hs ⊢
      simpa using (exists_shape?_eq_resolve hs).1
    · by_contra hspares
      push Not at hspares
      obtain ⟨id, -, -, hsome⟩ := h.exists_null_iff.2 hspares
      rw [hnone] at hsome
      cases hsome
  | false =>
    obtain ⟨warnings, hmerge⟩ := merge_of_nonempty hempty d
    have hkept := kept_merge h.kept hd
    rw [hmerge] at hf hkept ⊢
    refine ⟨⟨fun id => ?_, ?_, hkept⟩, ?_⟩
    · have hnot : id ∉ d.ids → (d.shape? id).map ShapeDef.frame = none := by
        intro hid
        rw [Option.map_eq_none_iff]
        by_contra hsome
        obtain ⟨s, hs⟩ := Option.ne_none_iff_exists'.1 hsome
        exact hid (hd.lookup hs).1
      rw [Document.frame_chosen_concat, ← h.frames]
      refine (frame?_forEach_mergeShape hf id).trans ?_
      rw [← frame?_ofDocument a.cells.length]
      split
      · rfl
      · rename_i hid
        rw [frame?_ofDocument, hnot hid, Frame.join_none]
        rfl
    · have hopened : (a.opened d).Below ∧
          (a.opened d).cells.length = a.cells.length + (ofDocument a.cells.length d).cells.length :=
        ⟨fun id s hs => (h.below id s hs).mono (by simp [opened]), by simp [opened]⟩
      refine (forEach_preserves (P := fun b => b.Below ∧ b.cells.length
        = a.cells.length + (ofDocument a.cells.length d).cells.length) ?_ hopened).1
      rintro b ⟨hbelow, hlen⟩ id -
      have hincoming : ∀ s, (ofDocument a.cells.length d).shape? id = some s →
          s.Below b.cells.length := fun s hs => hlen ▸ (exists_shape?_eq_resolve hs).1
      obtain ⟨hbelow', hlen'⟩ := below_mergeShape hbelow id hincoming
      exact ⟨hbelow', hlen'.trans hlen⟩
    · by_contra hspares
      push Not at hspares
      obtain ⟨id, hid, hnone, hsome⟩ := h.exists_null_iff.2 hspares
      exact failure_forEach_mergeShape_ne (a := a.opened d) hid hnone hsome hf

/-- **A null is refused** only where it does not spare what is there. -/
theorem Gathered.failure_merge_ne (h : Gathered a docs) (hd : ∀ other ∈ docs, other.Spares d) :
    (a.merge d).failure ≠ some .nullReference := by
  intro hf
  cases hempty : a.isEmpty with
  | true =>
    rw [Assembly.merge, if_pos hempty] at hf
    cases hf
  | false =>
    obtain ⟨warnings, hmerge⟩ := merge_of_nonempty hempty d
    rw [hmerge] at hf
    have hnull := exists_of_forEach_mergeShape (a := a.opened d) hf
    obtain ⟨other, hother, hnot⟩ := h.exists_null_iff.1 hnull
    exact hnot (hd other hother)

/-- Gathers documents one after the other. -/
def gatherAll (docs : List Document) (a : Assembly) : Noting Assembly :=
  docs.foldlM (fun a d => proceed (a.merge d)) a

/-- **All documents**: nulls that spare what is there are passed over. -/
theorem Gathered.avoids_gatherAll {rest : List Document} (h : Gathered a docs)
    (hrest : ∀ d ∈ rest, Kept d.shapes) (hspares : (docs ++ rest).Pairwise Document.Spares) :
    (gatherAll rest a).Avoids .nullReference := by
  induction rest generalizing a docs with
  | nil => exact Noting.avoids_pure _ a
  | cons d rest ih =>
    have hd : ∀ other ∈ docs, other.Spares d := fun other hother =>
      (List.pairwise_append.1 hspares).2.2 other hother d (by simp)
    rw [gatherAll, List.foldlM_cons]
    refine (Noting.avoids_proceed (h.failure_merge_ne hd)).bind fun b hb => ?_
    obtain ⟨hf, rfl⟩ := Noting.of_gives_proceed hb
    refine ih (h.merge (hrest d (by simp)) hf).1 (fun x hx => hrest x (by simp [hx])) ?_
    rwa [List.append_assoc]

/-- **All documents** that are gathered spare each other, and the assembly has what they choose. -/
theorem Gathered.of_gives_gatherAll {rest : List Document} (h : Gathered a docs)
    (hrest : ∀ d ∈ rest, Kept d.shapes) (hspares : docs.Pairwise Document.Spares)
    (hb : (gatherAll rest a).Gives b) :
    Gathered b (docs ++ rest) ∧ (docs ++ rest).Pairwise Document.Spares := by
  induction rest generalizing a docs with
  | nil =>
    rw [← Noting.gives_pure_iff.1 hb, List.append_nil]
    exact ⟨h, hspares⟩
  | cons d rest ih =>
    rw [gatherAll, List.foldlM_cons] at hb
    obtain ⟨c, hc, hb⟩ := Noting.exists_gives_of_bind hb
    obtain ⟨hf, rfl⟩ := Noting.of_gives_proceed hc
    obtain ⟨hmerge, hd⟩ := h.merge (hrest d (by simp)) hf
    have hall := ih hmerge (fun x hx => hrest x (by simp [hx]))
      (List.pairwise_append.2 ⟨hspares, by simp, by simpa using hd⟩) hb
    rwa [List.append_assoc] at hall

end Assembly

end Shapewright
