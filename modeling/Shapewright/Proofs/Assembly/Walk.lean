import Shapewright.Proofs.Assembly.Frames

/-!
# What the walk through mixins does to nulls

The walk takes over members from mixins and leaves no shape with mixins behind.  Whether shapes are
null or mixins go in circles does not matter here, so this file has an invariant of its own:

* `Expansion.Walks e e'` — what any part of the walk that does not fail leaves: a shape that was
  reached on the way lists no mixins any more, and nulls among members stay.
* `Expansion.Sound e` — no shape has a null that can do harm.

A walk that does not fail has reached every shape, so no shape had a null among its mixins
(`Assembly.of_expandAll`).  A walk through sound shapes never meets a null
(`Assembly.sound_expandAll`): a mixin that is taken over from is there, because its own walk came
first.
-/

set_option autoImplicit false

namespace Shapewright

/-- A shape without a null that can do harm: none for a mixin, and where it has members under names,
each of them is among the first `n` cells. -/
structure ShapeDef.Intact (n : Nat) (s : ShapeDef Nat) : Prop where
  mixins : ¬ s.HasNullMixin
  members : s.type ∈ memberTypes → ∀ name m, (name, m) ∈ s.memberEntries → ∃ i < n, m = some i

/-- Whatever null can do harm in the one can do so in the other. -/
structure ShapeDef.KeepsNulls (s t : ShapeDef Nat) : Prop where
  type : t.type = s.type
  mixins : s.HasNullMixin → t.HasNullMixin
  members : ∀ name, (name, none) ∈ s.memberEntries → (name, none) ∈ t.memberEntries

namespace ShapeDef

theorem KeepsNulls.refl (s : ShapeDef Nat) : s.KeepsNulls s := ⟨rfl, id, fun _ => id⟩

theorem KeepsNulls.trans {s t u : ShapeDef Nat} (h : s.KeepsNulls t) (h' : t.KeepsNulls u) :
    s.KeepsNulls u :=
  ⟨h'.type.trans h.type, h'.mixins ∘ h.mixins, fun name => h'.members name ∘ h.members name⟩

theorem KeepsNulls.hasNullMember {s t : ShapeDef Nat} (h : s.KeepsNulls t)
    (hs : s.HasNullMember) : t.HasNullMember :=
  ⟨h.type ▸ hs.1, hs.2.imp h.members⟩

theorem not_hasNullMixin_of_none {s : ShapeDef Nat} (h : s.mixins = none) : ¬ s.HasNullMixin := by
  rintro ⟨refs, hrefs, -⟩
  rw [h] at hrefs
  cases hrefs

theorem mem_memberEntries {s : ShapeDef Nat} {members : OrderedMap (Option Nat)}
    (h : s.members = some members) {name : String} {m : Option Nat} :
    (name, m) ∈ s.memberEntries ↔ name ∈ members.keys ∧ members.get? name = some m := by
  simp only [memberEntries, h, Option.map_some, Option.getD_some, OrderedMap.toList,
    List.mem_filterMap, Option.map_eq_some_iff, Prod.mk.injEq]
  constructor
  · rintro ⟨k, hk, v, hv, rfl, rfl⟩
    exact ⟨hk, hv⟩
  · rintro ⟨hk, hv⟩
    exact ⟨name, hk, m, hv, rfl, rfl⟩

/-- A name is listed with one member only. -/
theorem eq_of_mem_memberEntries {s : ShapeDef Nat} {name : String} {m m' : Option Nat}
    (h : (name, m) ∈ s.memberEntries) (h' : (name, m') ∈ s.memberEntries) : m = m' := by
  cases hm : s.members with
  | none => simp [memberEntries, hm] at h
  | some members =>
    rw [mem_memberEntries hm] at h h'
    exact Option.some.inj (h.2.symm.trans h'.2)

end ShapeDef

/-! ## Taking over -/

namespace Borrowed

/-- Whatever is taken over for a shape of a type is there, if its members have to be. -/
def Lends (n : Nat) (type : String) (b : Borrowed) : Prop :=
  type ∈ memberTypes → ∀ name m, b.members.get? name = some m → ∃ i < n, m = some i

theorem Lends.addMixin {n : Nat} {b : Borrowed} {type : String} {mixin : ShapeDef Nat}
    (h : b.Lends n type) (hmixin : mixin.Intact n)
    (htype : mixin.members.isSome → type = mixin.type) : (b.addMixin mixin).Lends n type := by
  intro hlists name m hm
  rw [members_addMixin, OrderedMap.get?_insertNew, Option.or_eq_some_iff] at hm
  rcases hm with hm | ⟨-, hm⟩
  · exact h hlists name m hm
  · obtain ⟨front, back, heq, -⟩ := List.lookup_eq_some_iff.1 hm
    have hmem : (name, m) ∈ mixin.memberEntries := by simp [heq]
    have hsome : mixin.members.isSome := by
      cases hnone : mixin.members with
      | none => simp [ShapeDef.memberEntries, hnone] at hmem
      | some members => rfl
    exact hmixin.members (htype hsome ▸ hlists) name m hmem

/-- The members of a shape that has taken over are its own or those that were taken over. -/
theorem mem_memberEntries_finish {b : Borrowed} {s : ShapeDef Nat} {name : String}
    {m : Option Nat} (h : (name, m) ∈ (b.finish s).memberEntries) :
    (name, m) ∈ s.memberEntries ∨ b.members.get? name = some m := by
  by_cases hsize : ((b.addOwn s).members.size == 0) = true
  · have hmembers : (b.finish s).members = s.members := by simp [finish, hsize]
    rw [ShapeDef.memberEntries, hmembers] at h
    exact .inl h
  · have hmembers : (b.finish s).members = some (b.addOwn s).members := by simp [finish, hsize]
    have hget := ((ShapeDef.mem_memberEntries hmembers).1 h).2
    rw [members_addOwn, OrderedMap.get?_insertAll, Option.or_eq_some_iff] at hget
    refine hget.imp (fun hown => ?_) (·.2)
    obtain ⟨front, back, heq, -⟩ := List.lookup_eq_some_iff.1 hown
    rw [← List.mem_reverse, heq]
    simp

/-- A shape that has taken over still has its own members. -/
theorem mem_memberEntries_finish_of_own {b : Borrowed} (hb : b.members.Tidy) {s : ShapeDef Nat}
    {name : String} {m : Option Nat} (h : (name, m) ∈ s.memberEntries) :
    (name, m) ∈ (b.finish s).memberEntries := by
  have hget : (b.addOwn s).members.get? name = some m := by
    rw [members_addOwn, OrderedMap.get?_insertAll]
    cases hl : s.memberEntries.reverse.lookup name with
    | none =>
      rw [List.lookup_eq_none_iff] at hl
      simpa using hl _ (List.mem_reverse.2 h)
    | some m' =>
      obtain ⟨front, back, heq, -⟩ := List.lookup_eq_some_iff.1 hl
      have hmem : (name, m') ∈ s.memberEntries := by
        rw [← List.mem_reverse, heq]
        simp
      rw [ShapeDef.eq_of_mem_memberEntries hmem h, Option.some_or]
  have hkey : name ∈ (b.addOwn s).members.keys :=
    ((hb.insertAll s.memberEntries).1.coherent name).2 (Option.isSome_iff_exists.2 ⟨m, hget⟩)
  have hsize : ((b.addOwn s).members.size == 0) = false := by
    rw [beq_eq_false_iff_ne, OrderedMap.size]
    exact Nat.pos_iff_ne_zero.1 (List.length_pos_of_mem hkey)
  have hmembers : (b.finish s).members = some (b.addOwn s).members := by simp [finish, hsize]
  exact (ShapeDef.mem_memberEntries hmembers).2 ⟨hkey, hget⟩

theorem keepsNulls_finish {b : Borrowed} (hb : b.members.Tidy) {s : ShapeDef Nat}
    (hs : ¬ s.HasNullMixin) : s.KeepsNulls (b.finish s) :=
  ⟨rfl, fun h => absurd h hs, fun _ => mem_memberEntries_finish_of_own hb⟩

theorem intact_finish {n : Nat} {b : Borrowed} {s : ShapeDef Nat} (hs : s.Intact n)
    (hb : b.Lends n s.type) : (b.finish s).Intact n := by
  refine ⟨ShapeDef.not_hasNullMixin_of_none rfl, fun htype name m hm => ?_⟩
  rcases mem_memberEntries_finish hm with hm | hm
  · exact hs.members htype name m hm
  · exact hb htype name m hm

end Borrowed

namespace Expansion

open Assembly

/-! ## The invariants of the walk -/

/-- A shape is there and lists no mixins. -/
def Settled (e : Expansion) (id : String) : Prop :=
  ∃ s, e.assembly.shape? id = some s ∧ s.mixins = none

/-- What a part of the walk that did not fail has made of `e`. -/
structure Walks (e e' : Expansion) : Prop where
  done : ∀ id ∈ e.done, id ∈ e'.done
  reached : ∀ id ∈ e'.done, id ∈ e.done ∨ e'.Settled id
  settled : ∀ id, e.Settled id → e'.Settled id
  keeps : ∀ id s, e.assembly.shape? id = some s →
    ∃ t, e'.assembly.shape? id = some t ∧ s.KeepsNulls t
  cells : e'.assembly.cells = e.assembly.cells
  listed : ∀ id ∈ e.assembly.ids, id ∈ e'.assembly.ids

/-- No shape has a null that can do harm, and those that are done are there. -/
structure Sound (e : Expansion) : Prop where
  intact : ∀ id s, e.assembly.shape? id = some s → s.Intact e.assembly.cells.length
  done : ∀ id ∈ e.done, ∃ s, e.assembly.shape? id = some s

theorem Walks.refl (e : Expansion) : Walks e e :=
  ⟨fun _ => id, fun _ => .inl, fun _ => id, fun _ s hs => ⟨s, hs, .refl s⟩, rfl, fun _ => id⟩

theorem Walks.trans {e e' e'' : Expansion} (h : Walks e e') (h' : Walks e' e'') :
    Walks e e'' := by
  refine ⟨fun id => h'.done id ∘ h.done id, fun id hid => ?_, fun id => h'.settled id ∘ h.settled id,
    fun id s hs => ?_, h'.cells.trans h.cells, fun id => h'.listed id ∘ h.listed id⟩
  · rcases h'.reached id hid with hid | hid
    · exact (h.reached id hid).imp_right (h'.settled id)
    · exact .inr hid
  · obtain ⟨t, ht, hst⟩ := h.keeps id s hs
    obtain ⟨u, hu, htu⟩ := h'.keeps id t ht
    exact ⟨u, hu, hst.trans htu⟩

/-- Reaching a shape that lists no mixins. -/
theorem Walks.pass {e : Expansion} {id : String} {s : ShapeDef Nat}
    (hs : e.assembly.shape? id = some s) (hm : s.mixins = none) :
    Walks e { e with done := id :: e.done } := by
  refine ⟨fun x => List.mem_cons_of_mem _, fun x hx => ?_, fun _ h => h, fun _ t ht =>
    ⟨t, ht, .refl t⟩, rfl, fun _ h => h⟩
  rcases List.mem_cons.1 hx with rfl | hx
  · exact .inr ⟨s, hs, hm⟩
  · exact .inl hx

/-- Leaving a shape that has taken over from its mixins. -/
theorem Walks.leave {e e' : Expansion} {id : String} {s : ShapeDef Nat} {b : Borrowed}
    (h : Walks { e with done := id :: e.done } e') (hs : e.assembly.shape? id = some s)
    (hb : b.members.Tidy) (hnull : ¬ s.HasNullMixin) :
    Walks e { e' with assembly := e'.assembly.insert id (some (b.finish s)) } := by
  have hsettled : ∀ x, e'.Settled x →
      Settled { e' with assembly := e'.assembly.insert id (some (b.finish s)) } x := by
    rintro x ⟨t, ht, hm⟩
    by_cases hx : x = id
    · exact ⟨b.finish s, by simp [hx], rfl⟩
    · exact ⟨t, by simp [hx, ht], hm⟩
  refine ⟨fun x hx => h.done x (List.mem_cons_of_mem _ hx), fun x hx => ?_,
    fun x hx => hsettled x (h.settled x hx), fun x t ht => ?_, h.cells,
    fun x hx => mem_ids_insert _ (h.listed x hx)⟩
  · rcases h.reached x hx with hx | hx
    · rcases List.mem_cons.1 hx with rfl | hx
      · exact .inr ⟨b.finish s, by simp, rfl⟩
      · exact .inl hx
    · exact .inr (hsettled x hx)
  · by_cases hx : x = id
    · subst hx
      rw [hs, Option.some_inj] at ht
      subst ht
      exact ⟨b.finish s, by simp, Borrowed.keepsNulls_finish hb hnull⟩
    · obtain ⟨u, hu, htu⟩ := h.keeps x t ht
      exact ⟨u, by simp [hx, hu], htu⟩

theorem Sound.enter {e : Expansion} {id : String} {s : ShapeDef Nat} (h : e.Sound)
    (hs : e.assembly.shape? id = some s) : Sound { e with done := id :: e.done } := by
  refine ⟨h.intact, fun x hx => ?_⟩
  rcases List.mem_cons.1 hx with rfl | hx
  · exact ⟨s, hs⟩
  · exact h.done x hx

theorem Sound.leave {e : Expansion} {id : String} {s : ShapeDef Nat} (h : e.Sound)
    (hs : s.Intact e.assembly.cells.length) :
    Sound { e with assembly := e.assembly.insert id (some s) } := by
  refine ⟨fun x t ht => ?_, fun x hx => ?_⟩
  · rw [shape?_insert] at ht
    split at ht
    · cases ht
      exact hs
    · exact h.intact x t ht
  · by_cases hxid : x = id
    · exact ⟨s, by simp [hxid]⟩
    · obtain ⟨t, ht⟩ := h.done x hx
      exact ⟨t, by simp [hxid, ht]⟩

/-! ## One step of the walk -/

/-- What expanding the shape `id` does, if `e'` is what it leaves of `e`. -/
structure Steps (e : Expansion) (id : String) (e' : Expansion) : Prop where
  walks : e'.failure = none → Walks e e' ∧ id ∈ e'.done
  safe : e.Sound → e'.failure ≠ some .nullReference
  sound : e.Sound → e'.failure = none → e'.Sound

/-- What taking over from mixins does for a shape of a type, if `r` is what it leaves of `e` and of
what was taken over before. -/
structure Borrows (e : Expansion) (type : String) (b : Borrowed) (refs : List Ref)
    (r : Expansion × Borrowed) : Prop where
  walks : r.1.failure = none → Walks e r.1 ∧ none ∉ refs ∧ (b.members.Tidy → r.2.members.Tidy)
  safe : e.Sound → none ∉ refs → r.1.failure ≠ some .nullReference
  sound : e.Sound → r.1.failure = none → r.1.Sound
  lends : e.Sound → b.Lends e.assembly.cells.length type → r.1.failure = none →
    r.2.Lends e.assembly.cells.length type

/-- A mixin that is done lends what it has, unless the types differ. -/
theorem borrows_borrow {e : Expansion} (hf : e.failure = none) (id target : String)
    (s : ShapeDef Nat) (b : Borrowed) (hdone : target ∈ e.done) :
    Borrows e s.type b [some target] (e.borrow id s b target) := by
  rw [borrow]
  cases hget : e.assembly.shape? target with
  | none =>
    refine ⟨by simp, fun he _ => ?_, by simp, by simp⟩
    obtain ⟨t, ht⟩ := he.done target hdone
    rw [hget] at ht
    cases ht
  | some mixin =>
    by_cases hbad : (mixin.members.isSome && s.type != mixin.type) = true
    · simp only [hbad, if_true]
      exact ⟨by simp, by simp, by simp, by simp⟩
    · simp only [hbad, Bool.false_eq_true, if_false]
      refine ⟨fun _ => ⟨.refl e, by simp, fun h => (h.insertNew _).1⟩, fun _ _ => by simp [hf],
        fun he _ => he, fun he hb _ => hb.addMixin (he.intact target mixin hget) fun hsome => ?_⟩
      simpa [hsome] using hbad

/-- Taking over from mixins, one after the other. -/
theorem borrows_expandMixins {visit : Expansion → String → Expansion}
    (hvisit : ∀ e target, e.failure = none → Steps e target (visit e target)) (id : String)
    (s : ShapeDef Nat) : ∀ (refs : List Ref) (e : Expansion) (b : Borrowed), e.failure = none →
      Borrows e s.type b refs (expandMixins visit e id s b refs) := by
  intro refs
  induction refs with
  | nil =>
    intro e b hf
    rw [expandMixins]
    exact ⟨fun _ => ⟨.refl e, by simp, fun h => h⟩, fun _ _ => by simp [hf], fun he _ => he,
      fun _ hb _ => hb⟩
  | cons ref rest ihrest =>
    intro e b hf
    cases ref with
    | none =>
      rw [expandMixins]
      exact ⟨by simp, fun _ h => absurd List.mem_cons_self h, by simp, by simp⟩
    | some target =>
      have hstep := hvisit e target hf
      rw [expandMixins]
      by_cases hfail : (visit e target).failure = none
      · obtain ⟨hwalk₁, hdone⟩ := hstep.walks hfail
        have hb := borrows_borrow hfail id target s b hdone
        simp only [hfail, Option.isSome_none, Bool.false_eq_true, if_false]
        by_cases hfail₂ : ((visit e target).borrow id s b target).1.failure = none
        · obtain ⟨hwalk₂, -, htidy₂⟩ := hb.walks hfail₂
          have hrest := ihrest ((visit e target).borrow id s b target).1
            ((visit e target).borrow id s b target).2 hfail₂
          simp only [hfail₂, Option.isSome_none, Bool.false_eq_true, if_false]
          have hsound := fun he => hb.sound (hstep.sound he hfail) hfail₂
          have hcells := hwalk₂.cells.trans hwalk₁.cells
          refine ⟨fun h => ?_, fun he hnone => hrest.safe (hsound he) (by simpa using hnone),
            fun he h => hrest.sound (hsound he) h, fun he hl h => ?_⟩
          · obtain ⟨hwalk₃, hnone, htidy₃⟩ := hrest.walks h
            exact ⟨hwalk₁.trans (hwalk₂.trans hwalk₃), by simpa using hnone,
              fun ht => htidy₃ (htidy₂ ht)⟩
          · have hl₂ := hb.lends (hstep.sound he hfail) (hwalk₁.cells ▸ hl) hfail₂
            have hl₃ := hrest.lends (hsound he) (hwalk₂.cells ▸ hl₂) h
            rwa [hcells] at hl₃
        · rw [if_pos (Option.isSome_iff_ne_none.2 hfail₂)]
          exact ⟨fun h => absurd h hfail₂, fun he _ => hb.safe (hstep.sound he hfail) (by simp),
            fun _ h => absurd h hfail₂, fun _ _ h => absurd h hfail₂⟩
      · rw [if_pos (Option.isSome_iff_ne_none.2 hfail)]
        exact ⟨fun h => absurd h hfail, fun he _ => hstep.safe he, fun _ h => absurd h hfail,
          fun _ _ h => absurd h hfail⟩

/-- **One step of the walk**. -/
theorem steps_expand (depth : Nat) : ∀ (e : Expansion) (id : String), e.failure = none →
    Steps e id (expand depth e id) := by
  induction depth with
  | zero =>
    intro e id _
    rw [expand]
    exact ⟨by simp, by simp, by simp⟩
  | succ depth ih =>
    intro e id hf
    rw [expand]
    by_cases hdone : id ∈ e.done
    · rw [if_pos (by simpa using hdone)]
      exact ⟨fun _ => ⟨.refl e, hdone⟩, fun _ => by simp [hf], fun he _ => he⟩
    rw [if_neg (by simpa using hdone)]
    simp only
    cases hs : e.assembly.shape? id with
    | none => exact ⟨by simp, by simp, by simp⟩
    | some s =>
      cases hm : s.mixins with
      | none =>
        simp only [hm]
        exact ⟨fun _ => ⟨.pass hs hm, List.mem_cons_self⟩, fun _ => by simp [hf],
          fun he _ => he.enter hs⟩
      | some refs =>
        have hb := borrows_expandMixins ih id s refs { e with done := id :: e.done } {} hf
        simp only [hm]
        generalize expandMixins (expand depth) { e with done := id :: e.done } id s {} refs = r at hb
        have hnull : none ∉ refs → ¬ s.HasNullMixin := by
          rintro hnone ⟨refs', hrefs', hmem⟩
          rw [hm, Option.some_inj] at hrefs'
          exact hnone (hrefs' ▸ hmem)
        by_cases hfail : r.1.failure = none
        · obtain ⟨hwalk, hnone, htidy⟩ := hb.walks hfail
          rw [if_neg (by simp [hfail])]
          refine ⟨fun _ => ⟨hwalk.leave hs (htidy OrderedMap.tidy_empty) (hnull hnone),
            hwalk.done id List.mem_cons_self⟩, fun _ => by simp [hfail], fun he _ => ?_⟩
          have hlends := hb.lends (he.enter hs) (fun _ _ _ h => by simp at h) hfail
          have hintact := Borrowed.intact_finish (he.intact id s hs) hlends
          exact (hb.sound (he.enter hs) hfail).leave (hwalk.cells ▸ hintact)
        · rw [if_pos (Option.isSome_iff_ne_none.2 hfail)]
          refine ⟨fun h => absurd h hfail, fun he => hb.safe (he.enter hs) fun hnone => ?_,
            fun _ h => absurd h hfail⟩
          exact (he.intact id s hs).mixins ⟨refs, hm, hnone⟩

/-! ## The whole walk -/

theorem steps_expandEach {depth : Nat} {ids : List String} {e : Expansion} (hf : e.failure = none) :
    ((expandEach depth ids e).failure = none → Walks e (expandEach depth ids e) ∧
      ∀ id ∈ ids, id ∈ (expandEach depth ids e).done) ∧
    (e.Sound → (expandEach depth ids e).failure ≠ some .nullReference ∧
      ((expandEach depth ids e).failure = none → (expandEach depth ids e).Sound)) := by
  induction ids generalizing e with
  | nil => exact ⟨fun _ => ⟨.refl e, by simp⟩, fun he => ⟨by simp [expandEach, hf], fun _ => he⟩⟩
  | cons id rest ih =>
    have hstep := steps_expand depth e id hf
    rw [expandEach]
    by_cases hfail : (expand depth e id).failure = none
    · obtain ⟨hwalk, hdone⟩ := hstep.walks hfail
      obtain ⟨hall, hsafe⟩ := ih hfail
      simp only [hfail, Option.isSome_none, Bool.false_eq_true, if_false]
      refine ⟨fun h => ?_, fun he => hsafe (hstep.sound he hfail)⟩
      obtain ⟨hwalks, hreached⟩ := hall h
      exact ⟨hwalk.trans hwalks, List.forall_mem_cons.2 ⟨hwalks.done id hdone, hreached⟩⟩
    · simp only [if_pos (Option.isSome_iff_ne_none.2 hfail)]
      exact ⟨fun h => absurd h hfail, fun he => ⟨hstep.safe he, fun h => absurd h hfail⟩⟩

end Expansion

namespace Assembly

variable {a : Assembly}

/-- No shape has a null that can do harm. -/
def Intact (a : Assembly) : Prop := ∀ id s, a.shape? id = some s → s.Intact a.cells.length

open Expansion

/-- **Where the walk does not fail**, no shape had a null among its mixins, and every shape that was
there is there with its nulls. -/
theorem of_expandAll (h : a.expandAll.failure = none) (hlisted : ∀ id s, a.shape? id = some s →
    id ∈ a.ids) {id : String} {s : ShapeDef Nat} (hs : a.shape? id = some s) :
    ¬ s.HasNullMixin ∧ ∃ t, a.expandAll.assembly.shape? id = some t ∧ s.KeepsNulls t ∧
      id ∈ a.expandAll.assembly.ids := by
  obtain ⟨hwalk, hdone⟩ := (steps_expandEach (e := { assembly := a }) rfl).1 h
  have hid := hlisted id s hs
  obtain ⟨t, ht, hkeeps⟩ := hwalk.keeps id s hs
  refine ⟨fun hnull => ?_, t, ht, hkeeps, hwalk.listed id hid⟩
  -- The walk has come by, and what it leaves lists no mixins.
  obtain ⟨u, hu, hm⟩ := (hwalk.reached id (hdone id hid)).resolve_left (by simp)
  have htu : t = u := Option.some.inj (ht.symm.trans hu)
  exact ShapeDef.not_hasNullMixin_of_none hm (htu ▸ hkeeps.mixins hnull)

/-- **A walk through sound shapes** meets no null, and leaves them sound. -/
theorem sound_expandAll (h : a.Intact) : a.expandAll.failure ≠ some .nullReference ∧
    (a.expandAll.failure = none → a.expandAll.assembly.Intact) := by
  have hsound : Expansion.Sound { assembly := a } := ⟨h, fun id hid => absurd hid (by simp)⟩
  obtain ⟨hsafe, hend⟩ := (steps_expandEach (e := { assembly := a }) rfl).2 hsound
  exact ⟨hsafe, fun hf => (hend hf).intact⟩

end Assembly
end Shapewright
