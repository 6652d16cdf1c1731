import Shapewright.Proofs.Assembly.Walk

/-!
# Why the walk through mixins ends

Mixins may list each other, and `Expansion.expand` follows them wherever they lead.  What brings it
to an end is not the shape it looks at but the list of shapes it has marked: a shape is marked
before its mixins are looked at, and one that is marked is passed by.  So a chain of mixins that are
all new is no longer than the list of shapes, and the bound on its length that
`Assembly.expandAll` sets is never reached.

* `Expansion.expand_add` — a walk that stays within its bound is the same within a larger one.
* `Expansion.Roams a e` — what the walk preserves: the shapes are those of `a`, none names a null
  as a mixin, and those that are marked are there.
* `Expansion.ends_expand` — the walk stays within a bound that exceeds the number of shapes that
  are not marked.
* `Assembly.expandAll_ends` — the whole: it ends, and a second walk changes nothing.

Nothing is asked of the graph of mixins: a shape may be its own mixin.
-/

set_option autoImplicit false

namespace Shapewright

/-- What is wrong with mixins that are named and still do not fit. -/
inductive Failure.IsMisfit : Failure → Prop
  | missing (id : String) : IsMisfit (.mixinMissing id)
  | mismatch (target type id : String) : IsMisfit (.mixinMismatch target type id)

theorem Failure.IsMisfit.ne_endlessNesting {f : Failure} (h : f.IsMisfit) (id : ShapeId) :
    f ≠ .endlessNesting id := by
  cases h <;> simp

namespace Expansion

open Assembly

/-! ## The bound -/

/-- The walk has not met its bound. -/
def WithinBound (e : Expansion) : Prop := ∀ id, e.failure ≠ some (.endlessNesting id)

theorem withinBound_of_none {e : Expansion} (h : e.failure = none) : e.WithinBound := by
  simp [WithinBound, h]

theorem expandMixins_eq_of_withinBound {visit further : Expansion → String → Expansion}
    (hvisit : ∀ e target, (visit e target).WithinBound → further e target = visit e target)
    (id : String) (s : ShapeDef Nat) :
    ∀ (refs : List Ref) (e : Expansion) (b : Borrowed),
      (expandMixins visit e id s b refs).1.WithinBound →
      expandMixins further e id s b refs = expandMixins visit e id s b refs := by
  intro refs
  induction refs with
  | nil =>
    intro e b _
    rw [expandMixins, expandMixins]
  | cons ref rest ihrest =>
    intro e b h
    cases ref with
    | none => rw [expandMixins, expandMixins]
    | some target =>
      rw [expandMixins] at h ⊢
      rw [expandMixins]
      by_cases hfail : (visit e target).failure = none
      · rw [hvisit e target (withinBound_of_none hfail)]
        simp only [hfail, Option.isSome_none, Bool.false_eq_true, if_false] at h ⊢
        by_cases hborrow : ((visit e target).borrow id s b target).1.failure.isSome = true
        · simp only [if_pos hborrow]
        · simp only [if_neg hborrow] at h ⊢
          exact ihrest _ _ h
      · simp only [if_pos (Option.isSome_iff_ne_none.2 hfail)] at h
        simp only [hvisit e target h, if_pos (Option.isSome_iff_ne_none.2 hfail)]

/-- **A larger bound** makes no difference to a walk that has not met its own. -/
theorem expand_add (more depth : Nat) : ∀ (e : Expansion) (id : String),
    (expand depth e id).WithinBound → expand (depth + more) e id = expand depth e id := by
  induction depth with
  | zero =>
    intro e id h
    rw [expand] at h
    exact absurd rfl (h ⟨id⟩)
  | succ depth ih =>
    intro e id h
    rw [Nat.add_right_comm, expand, expand]
    rw [expand] at h
    by_cases hdone : e.done.contains id = true
    · simp only [if_pos hdone]
    · simp only [if_neg hdone] at h ⊢
      cases hs : e.assembly.shape? id with
      | none => rfl
      | some s =>
        cases hm : s.mixins with
        | none => simp only [hm]
        | some refs =>
          simp only [hs, hm] at h ⊢
          rw [expandMixins_eq_of_withinBound ih id s refs { e with done := id :: e.done } {}]
          split at h
          · exact h
          · rename_i hfail
            exact withinBound_of_none (by simpa using hfail)

theorem expandEach_add (more depth : Nat) (ids : List String) (e : Expansion)
    (h : (expandEach depth ids e).WithinBound) :
    expandEach (depth + more) ids e = expandEach depth ids e := by
  induction ids generalizing e with
  | nil => rfl
  | cons id rest ih =>
    rw [expandEach] at h ⊢
    rw [expandEach]
    by_cases hfail : (expand depth e id).failure = none
    · rw [expand_add more depth e id (withinBound_of_none hfail)]
      simp only [hfail, Option.isSome_none, Bool.false_eq_true, if_false] at h ⊢
      exact ih _ h
    · simp only [if_pos (Option.isSome_iff_ne_none.2 hfail)] at h ⊢
      rw [expand_add more depth e id h]
      simp only [if_pos (Option.isSome_iff_ne_none.2 hfail)]

/-! ## The invariant -/

/-- A walk among the shapes of `a`, none of which names a null as a mixin. -/
structure Roams (a : Assembly) (e : Expansion) : Prop where
  ids : e.assembly.ids = a.ids
  listed : ∀ id s, e.assembly.shape? id = some s → id ∈ a.ids
  named : ∀ id s, e.assembly.shape? id = some s → ¬ s.HasNullMixin
  done : ∀ id ∈ e.done, ∃ s, e.assembly.shape? id = some s

variable {a : Assembly} {e : Expansion} {id : String} {s : ShapeDef Nat}

theorem Roams.enter (h : Roams a e) (hs : e.assembly.shape? id = some s) :
    Roams a { e with done := id :: e.done } :=
  ⟨h.ids, h.listed, h.named, List.forall_mem_cons.2 ⟨⟨s, hs⟩, h.done⟩⟩

/-- Binding a shape that is there to another that names no null. -/
theorem Roams.leave (h : Roams a e) {old : ShapeDef Nat}
    (hold : e.assembly.shape? id = some old) (hs : ¬ s.HasNullMixin) :
    Roams a { e with assembly := e.assembly.insert id (some s) } := by
  refine ⟨?_, fun x t ht => ?_, fun x t ht => ?_, fun x hx => ?_⟩
  · exact (ids_insert_of_shape? hold _).trans h.ids
  · rw [shape?_insert] at ht
    split at ht
    · rename_i hx
      exact hx ▸ h.listed id old hold
    · exact h.listed x t ht
  · rw [shape?_insert] at ht
    split at ht
    · rwa [← Option.some.inj ht]
    · exact h.named x t ht
  · obtain ⟨t, ht⟩ := h.done x hx
    by_cases hxid : x = id
    · exact ⟨s, by simp [hxid]⟩
    · exact ⟨t, by simp [hxid, ht]⟩

/-- What a part of the walk leaves that stays within its bound. -/
structure Ends (a : Assembly) (e : Expansion) : Prop where
  misfit : ∀ f, e.failure = some f → f.IsMisfit
  roams : e.failure = none → Roams a e

theorem Ends.withinBound (h : Ends a e) : e.WithinBound :=
  fun id hf => (h.misfit _ hf).ne_endlessNesting id rfl

theorem Roams.ends (h : Roams a e) (hf : e.failure = none) : Ends a e :=
  ⟨fun f h => absurd (hf.symm.trans h) (by simp), fun _ => h⟩

/-- A part of the walk that has just stopped. -/
theorem ends_of_isMisfit {f : Failure} (hf : e.failure = some f) (h : f.IsMisfit) : Ends a e :=
  ⟨fun g hg => Option.some.inj (hf.symm.trans hg) ▸ h, fun hg => by simp [hf] at hg⟩

/-! ## One step of the walk -/

/-- Taking over from a mixin that is marked changes nothing but what is taken over, or fails. -/
theorem borrow_cases (h : Roams a e) (id : String) {target : String} (htarget : target ∈ e.done)
    (s : ShapeDef Nat) (b : Borrowed) :
    (e.borrow id s b target).1 = e ∨
      (e.borrow id s b target).1.failure = some (.mixinMismatch target s.type id) := by
  obtain ⟨mixin, hmixin⟩ := h.done target htarget
  rw [borrow, hmixin]
  by_cases hbad : (mixin.members.isSome && s.type != mixin.type) = true
  · simp [hbad]
  · simp [hbad]

theorem ends_expandMixins {visit : Expansion → String → Expansion} {depth : Nat}
    (hsteps : ∀ e target, e.failure = none → Steps e target (visit e target))
    (hvisit : ∀ e target, Roams a e → e.failure = none → remaining a e < depth →
      Ends a (visit e target)) (id : String) (s : ShapeDef Nat) :
    ∀ (targets : List String) (e : Expansion) (b : Borrowed), Roams a e → e.failure = none →
      remaining a e < depth → Ends a (expandMixins visit e id s b (targets.map some)).1 := by
  intro targets
  induction targets with
  | nil =>
    intro e b hr hf _
    rw [List.map_nil, expandMixins]
    exact hr.ends hf
  | cons target rest ihrest =>
    intro e b hr hf hdepth
    have hend := hvisit e target hr hf hdepth
    rw [List.map_cons, expandMixins]
    by_cases hfail : (visit e target).failure = none
    · obtain ⟨hwalk, hdone⟩ := (hsteps e target hf).walks hfail
      have hr₁ := hend.roams hfail
      simp only [hfail, Option.isSome_none, Bool.false_eq_true, if_false]
      rcases borrow_cases hr₁ id hdone s b with hsame | hmismatch
      · simp only [hsame, hfail, Option.isSome_none, Bool.false_eq_true, if_false]
        exact ihrest _ _ hr₁ hfail (Nat.lt_of_le_of_lt (remaining_le hwalk.done) hdepth)
      · simp only [hmismatch, Option.isSome_some, if_true]
        exact ends_of_isMisfit hmismatch (.mismatch target s.type id)
    · rw [if_pos (Option.isSome_iff_ne_none.2 hfail)]
      exact hend

/-- **One step of the walk** stays within a bound above the number of shapes that are not marked:
every level of it marks one more. -/
theorem ends_expand (a : Assembly) (depth : Nat) : ∀ (e : Expansion) (id : String), Roams a e →
    e.failure = none → remaining a e < depth → Ends a (expand depth e id) := by
  induction depth with
  | zero => intro e id _ _ h; omega
  | succ depth ih =>
    intro e id hr hf hdepth
    rw [expand]
    by_cases hdone : id ∈ e.done
    · rw [if_pos (by simpa using hdone)]
      exact hr.ends hf
    rw [if_neg (by simpa using hdone)]
    simp only
    cases hs : e.assembly.shape? id with
    | none => exact ends_of_isMisfit rfl (.missing id)
    | some s =>
      have henter := hr.enter hs
      cases hm : s.mixins with
      | none =>
        simp only [hm]
        exact henter.ends hf
      | some refs =>
        obtain ⟨targets, rfl⟩ := exists_targets fun hmem => hr.named id s hs ⟨refs, hm, hmem⟩
        have hlt := remaining_lt (hr.listed id s hs) hdone
        have hend := ends_expandMixins (steps_expand depth) ih id s targets
          { e with done := id :: e.done } {} henter hf (by omega)
        have hwalk := (borrows_expandMixins (steps_expand depth) id s (targets.map some)
          { e with done := id :: e.done } {} hf).walks
        simp only [hm]
        generalize expandMixins (expand depth) { e with done := id :: e.done } id s {}
          (targets.map some) = r at hend hwalk
        by_cases hfail : r.1.failure = none
        · obtain ⟨t, ht, -⟩ := (hwalk hfail).1.keeps id s hs
          rw [if_neg (by simp [hfail])]
          exact ((hend.roams hfail).leave ht (ShapeDef.not_hasNullMixin_of_none rfl)).ends hfail
        · rw [if_pos (Option.isSome_iff_ne_none.2 hfail)]
          exact hend

/-! ## The whole walk -/

theorem ends_expandEach {depth : Nat} {ids : List String} (hr : Roams a e) (hf : e.failure = none)
    (hdepth : remaining a e < depth) : Ends a (expandEach depth ids e) := by
  induction ids generalizing e with
  | nil => exact hr.ends hf
  | cons id rest ih =>
    have hend := ends_expand a depth e id hr hf hdepth
    rw [expandEach]
    by_cases hfail : (expand depth e id).failure = none
    · have hwalk := ((steps_expand depth e id hf).walks hfail).1
      simp only [hfail, Option.isSome_none, Bool.false_eq_true, if_false]
      exact ih (hend.roams hfail) hfail (Nat.lt_of_le_of_lt (remaining_le hwalk.done) hdepth)
    · simp only [if_pos (Option.isSome_iff_ne_none.2 hfail)]
      exact hend

/-- A walk through shapes that list no mixins only marks them. -/
theorem expandEach_of_settled (depth : Nat) {ids : List String} (hf : e.failure = none)
    (h : ∀ id ∈ ids, e.Settled id) :
    ∃ done, expandEach (depth + 1) ids e = { e with done } := by
  induction ids generalizing e with
  | nil => exact ⟨e.done, rfl⟩
  | cons id rest ih =>
    obtain ⟨hid, hrest⟩ := List.forall_mem_cons.1 h
    obtain ⟨done, hdone⟩ : ∃ done, expand (depth + 1) e id = { e with done } := by
      obtain ⟨s, hs, hm⟩ := hid
      rw [expand]
      split
      · exact ⟨e.done, rfl⟩
      · exact ⟨id :: e.done, by simp only [hs, hm]⟩
    obtain ⟨done', hdone'⟩ := ih (e := { e with done }) hf hrest
    rw [expandEach, hdone]
    exact ⟨done', by simpa only [hf, Option.isSome_none, Bool.false_eq_true, if_false] using hdone'⟩

end Expansion

namespace Assembly

open Expansion

/-- Expands every shape, along chains of at most so many mixins. -/
def expandWithin (depth : Nat) (a : Assembly) : Update :=
  let e := expandEach depth a.ids { assembly := a }
  { assembly := e.assembly, failure := e.failure }

variable {a : Assembly}

/-- The walk starts with nothing marked, so its bound has to exceed the number of shapes. -/
theorem ends_start (hlisted : ∀ id s, a.shape? id = some s → id ∈ a.ids)
    (hnamed : ∀ id s, a.shape? id = some s → ¬ s.HasNullMixin) {depth : Nat}
    (hdepth : a.ids.length < depth) : Ends a (expandEach depth a.ids { assembly := a }) := by
  refine ends_expandEach ⟨rfl, hlisted, hnamed, by simp⟩ rfl (Nat.lt_of_le_of_lt ?_ hdepth)
  exact List.length_filter_le _ a.ids

/-- An assembly whose shapes list no mixins is left as it is. -/
theorem expandAll_of_settled (h : ∀ id ∈ a.ids, ∃ s, a.shape? id = some s ∧ s.mixins = none) :
    a.expandAll = { assembly := a } := by
  obtain ⟨done, hdone⟩ := expandEach_of_settled (a.ids.length + 1) (e := { assembly := a }) rfl h
  rw [expandAll, hdone]

/-- **Expanding mixins ends**, also where mixins list each other: any bound above the number of
shapes gives the same, and only a mixin that is missing or of another type can be in the way.
Where nothing is, the same shapes are there, none of them lists mixins, and expanding them once more
leaves the assembly exactly as it is. -/
theorem expandAll_ends (hlisted : ∀ id s, a.shape? id = some s → id ∈ a.ids)
    (hnamed : ∀ id s, a.shape? id = some s → ¬ s.HasNullMixin) :
    (∀ depth, a.ids.length < depth → a.expandWithin depth = a.expandAll) ∧
      (∀ f, a.expandAll.failure = some f → f.IsMisfit) ∧
      (a.expandAll.failure = none →
        a.expandAll.assembly.ids = a.ids ∧
        (∀ id s, a.expandAll.assembly.shape? id = some s → s.mixins = none) ∧
        a.expandAll.assembly.expandAll = { assembly := a.expandAll.assembly }) := by
  have hend := ends_start hlisted hnamed (show a.ids.length < a.ids.length + 2 by omega)
  refine ⟨fun depth hdepth => ?_, hend.misfit, fun hf => ?_⟩
  · have hleast := ends_start hlisted hnamed (Nat.lt_succ_self a.ids.length)
    have hsame (more : Nat) := expandEach_add more _ a.ids { assembly := a } hleast.withinBound
    obtain ⟨more, rfl⟩ := Nat.exists_eq_add_of_le hdepth
    rw [expandWithin, expandAll, hsame more, ← hsame 1]
  · have hr := hend.roams hf
    obtain ⟨hwalk, hdone⟩ := (steps_expandEach (e := { assembly := a }) rfl).1 hf
    have hsettled : ∀ id ∈ a.ids, ∃ s, a.expandAll.assembly.shape? id = some s ∧ s.mixins = none :=
      fun id hid => (hwalk.reached id (hdone id hid)).resolve_left (by simp)
    refine ⟨hr.ids, fun id s hs => ?_, expandAll_of_settled fun id hid => ?_⟩
    · obtain ⟨t, ht, hm⟩ := hsettled id (hr.listed id s hs)
      rwa [Option.some.inj (hs.symm.trans ht)]
    · exact hsettled id (hr.ids ▸ hid)

/-- Two structures with a member each, each the mixin of the other. -/
def circle : Assembly :=
  { version := "2.0"
    shapes := some (OrderedMap.ofFields [
      ("ex#A", some { type := "structure", members := some (OrderedMap.ofFields [("a", some 0)])
                      mixins := some [some "ex#B"] }),
      ("ex#B", some { type := "structure", members := some (OrderedMap.ofFields [("b", some 1)])
                      mixins := some [some "ex#A"] })])
    cells := [{ target := "String" }, { target := "String" }] }

theorem shape?_circle {id : String} {s : ShapeDef Nat} (h : circle.shape? id = some s) :
    id ∈ circle.ids ∧ ¬ s.HasNullMixin := by
  by_cases ha : id = "ex#A"
  · subst ha
    cases h
    exact ⟨by decide, by simp [ShapeDef.HasNullMixin]⟩
  by_cases hb : id = "ex#B"
  · subst hb
    cases h
    exact ⟨by decide, by simp [ShapeDef.HasNullMixin]⟩
  simp [circle, shape?, OrderedMap.get?, OrderedMap.ofFields, OrderedMap.bind,
    OrderedMap.lookup_cons_eq_ite, ha, hb] at h

/-- Each of the two gets the member of the other, whatever the bound. -/
theorem expandAll_ends_circle :
    circle.Uses "ex#A" "ex#B" ∧ circle.Uses "ex#B" "ex#A" ∧
      (∀ depth, 2 < depth → circle.expandWithin depth = circle.expandAll) ∧
      circle.expandAll.failure = none ∧
      circle.ids.map (fun id => (circle.expandAll.assembly.shape? id).map (·.memberNames))
        = [some ["a", "b"], some ["a", "b"]] ∧
      circle.expandAll.assembly.expandAll = { assembly := circle.expandAll.assembly } := by
  have hok : circle.expandAll.failure = none := Option.isNone_iff_eq_none.1 (by decide +kernel)
  obtain ⟨hbound, -, hend⟩ := expandAll_ends (a := circle) (fun _ _ h => (shape?_circle h).1)
    fun _ _ h => (shape?_circle h).2
  exact ⟨⟨_, _, rfl, rfl, by simp⟩, ⟨_, _, rfl, rfl, by simp⟩, hbound, hok, by decide +kernel,
    (hend hok).2.2⟩

end Assembly
end Shapewright
