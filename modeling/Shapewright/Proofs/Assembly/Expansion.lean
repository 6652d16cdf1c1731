import Mathlib.Data.Option.Basic
import Mathlib.Logic.Relation
import Shapewright.Proofs.Assembly.Mixed

/-!
# Expanding the mixins of an assembly

`Assembly.expandAll` walks through the mixins depth first, marks every shape before it looks at its
mixins, and rewrites shapes while others still refer to them.  This file says what comes out,
without the walk:

* `Assembly.Expands a id s` — the shape `s` is what `id` stands for once mixins are settled, by
  recursion on the graph of mixins: a shape that lists none stays, and one that lists some is
  `mixed` with what *they* stand for.
* `Assembly.MixinsFit` — every mixin is there, and lends members only to shapes of its own type.

`Expansion.Progress` is the invariant of the walk.  A shape is in one of three states: not reached
yet, open (its mixins are being looked at), or settled.  Shapes that are not settled are still as
they were given, and settled ones are as the reference has them.  The mixins of a shape are settled
when it takes over from them, because an open one would lie on a cycle.
-/

set_option autoImplicit false

namespace Shapewright
namespace Assembly

/-! ## The reference -/

/-- One shape lists another as a mixin. -/
def Uses (a : Assembly) (id target : String) : Prop :=
  ∃ s mixins, a.shape? id = some s ∧ s.mixins = some mixins ∧ some target ∈ mixins

/-- No shape is its own mixin, be it through others. -/
def Acyclic (a : Assembly) : Prop := ∀ id, ¬ Relation.TransGen a.Uses id id

/-- No null stands for a shape or for a reference to a mixin. -/
structure NonNull (a : Assembly) : Prop where
  shapes : ∀ id ∈ a.ids, (a.shape? id).isSome
  mixins : ∀ id s mixins, a.shape? id = some s → s.mixins = some mixins → none ∉ mixins

/-- Every shape is listed, and the maps of each list exactly what they bind. -/
structure Coherent (a : Assembly) : Prop where
  listed : ∀ id s, a.shape? id = some s → id ∈ a.ids
  each : ∀ id s, a.shape? id = some s → s.Coherent

/-- What an id stands for once mixins are settled. -/
inductive Expands (a : Assembly) : String → ShapeDef Nat → Prop
  | plain {id : String} {s : ShapeDef Nat} (h : a.shape? id = some s) (hm : s.mixins = none) :
      Expands a id s
  | mixed {id : String} {s : ShapeDef Nat} {targets : List String} {ms : List (ShapeDef Nat)}
      (h : a.shape? id = some s) (hm : s.mixins = some (targets.map some))
      (hlen : targets.length = ms.length)
      (hms : ∀ target m, (target, m) ∈ targets.zip ms → Expands a target m) :
      Expands a id (s.mixed ms)

/-- Every mixin exists, and one that has a field for members, once it is expanded, is used by shapes
of its own type only. -/
structure MixinsFit (a : Assembly) : Prop where
  found : ∀ id target, a.Uses id target → (a.shape? target).isSome
  typed : ∀ id s target m, a.shape? id = some s → a.Uses id target → a.Expands target m →
    m.members.isSome → m.type = s.type

variable {a : Assembly}

theorem Expands.exists_shape {id : String} {e : ShapeDef Nat} (h : a.Expands id e) :
    ∃ s, a.shape? id = some s ∧ e.type = s.type := by
  cases h with
  | plain h _ => exact ⟨_, h, rfl⟩
  | mixed h _ _ _ => exact ⟨_, h, rfl⟩

theorem getElem_mem_zip {targets : List String} {ms : List (ShapeDef Nat)}
    (hlen : targets.length = ms.length) {i : Nat} (hi : i < ms.length) :
    (targets[i], ms[i]) ∈ targets.zip ms :=
  List.mem_iff_getElem.2 ⟨i, by simp; omega, by simp⟩

/-- **An id stands for one shape.** -/
theorem Expands.unique {id : String} {e e' : ShapeDef Nat} (h : a.Expands id e)
    (h' : a.Expands id e') : e = e' := by
  induction h generalizing e' with
  | plain h hm =>
    cases h' with
    | plain h' _ => exact Option.some_inj.1 (h.symm.trans h')
    | mixed h' hm' _ _ =>
      rw [h, Option.some_inj] at h'
      subst h'
      rw [hm] at hm'
      cases hm'
  | @mixed id s targets ms h hm hlen _ ih =>
    cases h' with
    | plain h' hm' =>
      rw [h, Option.some_inj] at h'
      subst h'
      rw [hm] at hm'
      cases hm'
    | @mixed _ s' targets' ms' h' hm' hlen' hms' =>
      rw [h, Option.some_inj] at h'
      subst h'
      rw [hm, Option.some_inj] at hm'
      have htargets : targets = targets' := List.map_injective_iff.2 (Option.some_injective _) hm'
      subst htargets
      have heq : ms = ms' := by
        refine List.ext_getElem (hlen.symm.trans hlen') fun i hi hi' => ?_
        exact ih _ _ (getElem_mem_zip hlen hi) (hms' _ _ (getElem_mem_zip hlen' hi'))
      rw [heq]

theorem Expands.coherent (hc : a.Coherent) {id : String} {e : ShapeDef Nat}
    (h : a.Expands id e) : e.Coherent := by
  induction h with
  | plain h _ => exact hc.each _ _ h
  | @mixed id s targets ms h _ hlen _ ih =>
    refine (hc.each _ _ h).mixed fun m hm => ?_
    obtain ⟨i, hi, rfl⟩ := List.mem_iff_getElem.1 hm
    exact ih _ _ (getElem_mem_zip hlen hi)

theorem Expands.of_shape?_eq {b : Assembly} (hb : ∀ id, b.shape? id = a.shape? id) {id : String}
    {e : ShapeDef Nat} (h : a.Expands id e) : b.Expands id e := by
  induction h with
  | plain h hm => exact .plain ((hb _).trans h) hm
  | mixed h hm hlen _ ih => exact .mixed ((hb _).trans h) hm hlen ih

/-- The mixins of a shape are there and suit it. -/
def FitsAt (a : Assembly) (id : String) : Prop :=
  ∀ s target, a.shape? id = some s → a.Uses id target →
    ∃ m, a.Expands target m ∧ (m.members.isSome → m.type = s.type)

section

variable {id : String} {s : ShapeDef Nat} {targets : List String} {ms : List (ShapeDef Nat)}

/-- Taking over from what the mixins of a shape stand for gives what the shape stands for. -/
theorem expands_finish (hc : a.Coherent) (hs : a.shape? id = some s)
    (hm : s.mixins = some (targets.map some)) (hlen : targets.length = ms.length)
    (hms : ∀ target m, (target, m) ∈ targets.zip ms → a.Expands target m) :
    a.Expands id ((ms.foldl Borrowed.addMixin {}).finish s) := by
  have hcoh : ∀ m ∈ ms, m.Coherent := by
    intro m hmem
    obtain ⟨i, hi, rfl⟩ := List.mem_iff_getElem.1 hmem
    exact (hms _ _ (getElem_mem_zip hlen hi)).coherent hc
  rw [Borrowed.finish_foldl_addMixin (hc.each id s hs) hcoh]
  exact .mixed hs hm hlen hms

theorem fitsAt_of_zip (hs : a.shape? id = some s) (hm : s.mixins = some (targets.map some))
    (hlen : targets.length = ms.length)
    (hms : ∀ target m, (target, m) ∈ targets.zip ms →
      a.Expands target m ∧ (m.members.isSome → m.type = s.type)) : a.FitsAt id := by
  rintro s' target hs' ⟨s'', mixins, hs'', hm'', hmem⟩
  rw [hs, Option.some_inj] at hs' hs''
  subst hs' hs''
  rw [hm, Option.some_inj] at hm''
  subst hm''
  obtain ⟨t, ht, hteq⟩ := List.mem_map.1 hmem
  cases hteq
  obtain ⟨i, hi, rfl⟩ := List.mem_iff_getElem.1 ht
  exact ⟨ms[i], hms _ _ (getElem_mem_zip hlen (by omega))⟩

end

/-- Mixins fit if they fit shape by shape. -/
theorem mixinsFit_of_fitsAt (h : ∀ id s, a.shape? id = some s → a.FitsAt id) : a.MixinsFit := by
  constructor
  · intro id target hu
    obtain ⟨s, hs⟩ : ∃ s, a.shape? id = some s := hu.imp fun _ h => h.choose_spec.1
    obtain ⟨m, hm, -⟩ := h id s hs s target hs hu
    obtain ⟨t, ht, -⟩ := hm.exists_shape
    rw [ht]
    rfl
  · intro id s target m hs hu hm hmembers
    obtain ⟨m', hm', htype⟩ := h id s hs s target hs hu
    rw [hm'.unique hm] at htype
    exact htype hmembers

end Assembly

namespace Expansion

open Assembly

/-! ## The invariant of the walk -/

/-- How far a walk through `a` has come while the shapes `opened` are open. -/
structure Progress (a : Assembly) (opened : List String) (e : Expansion) : Prop where
  cells : e.assembly.cells = a.cells
  pending : ∀ id, id ∉ e.done ∨ id ∈ opened → e.assembly.shape? id = a.shape? id
  settled : ∀ id ∈ e.done, id ∉ opened →
    ∃ s, a.Expands id s ∧ e.assembly.shape? id = some s ∧ a.FitsAt id

/-- How many of the listed shapes have not been reached. -/
def remaining (a : Assembly) (e : Expansion) : Nat :=
  (a.ids.filter fun id => !e.done.contains id).length

variable {a : Assembly}

theorem remaining_le {e e' : Expansion} (h : ∀ id ∈ e.done, id ∈ e'.done) :
    remaining a e' ≤ remaining a e := by
  refine (List.monotone_filter_right a.ids fun id hid => ?_).length_le
  simp only [Bool.not_eq_eq_eq_not, Bool.not_true, List.contains_eq_mem, decide_eq_false_iff_not]
    at hid ⊢
  exact fun hmem => hid (h id hmem)

theorem remaining_lt {e : Expansion} {id : String} (hid : id ∈ a.ids) (hdone : id ∉ e.done) :
    remaining a { e with done := id :: e.done } < remaining a e := by
  have hfilter : (a.ids.filter fun x => !(id :: e.done).contains x)
      = (a.ids.filter fun x => !e.done.contains x).filter fun x => x != id := by
    rw [List.filter_filter]
    refine List.filter_congr fun x _ => ?_
    by_cases hx : x = id <;> simp [hx]
  rw [remaining, hfilter]
  refine List.length_filter_lt_length_iff_exists.2 ⟨id, ?_, by simp⟩
  simpa [hdone] using hid

/-- Reaching a shape for the first time opens it. -/
theorem Progress.enter {opened : List String} {e : Expansion} {id : String}
    (h : Progress a opened e) (hdone : id ∉ e.done) :
    Progress a (id :: opened) { e with done := id :: e.done } := by
  refine ⟨h.cells, fun x hx => ?_, fun x hx hopen => ?_⟩
  · by_cases hxid : x = id
    · exact hxid ▸ h.pending id (.inl hdone)
    · refine h.pending x (hx.imp (fun hn hd => hn (List.mem_cons_of_mem _ hd)) fun hmem => ?_)
      exact (List.mem_cons.1 hmem).resolve_left hxid
  · rw [List.mem_cons, not_or] at hopen
    exact h.settled x ((List.mem_cons.1 hx).resolve_left hopen.1) hopen.2

/-- A shape that lists no mixins is settled as soon as it is reached. -/
theorem Progress.pass {opened : List String} {e : Expansion} {id : String} {s : ShapeDef Nat}
    (h : Progress a opened e) (hs : a.shape? id = some s) (hm : s.mixins = none)
    (hdone : id ∉ e.done) : Progress a opened { e with done := id :: e.done } := by
  refine ⟨h.cells, fun x hx => ?_, fun x hx hopen => ?_⟩
  · exact h.pending x (hx.imp_left fun hn hd => hn (List.mem_cons_of_mem _ hd))
  · rcases List.mem_cons.1 hx with rfl | hx
    · refine ⟨s, .plain hs hm, (h.pending x (.inl hdone)).trans hs, ?_⟩
      rintro s' target hs' ⟨s'', mixins, hs'', hm'', -⟩
      rw [hs, Option.some_inj] at hs''
      rw [← hs'', hm] at hm''
      cases hm''
    · exact h.settled x hx hopen

/-- A shape is settled when it has taken over from its mixins. -/
theorem Progress.leave {opened : List String} {e : Expansion} {id : String} {s : ShapeDef Nat}
    (h : Progress a (id :: opened) e) (hdone : id ∈ e.done) (hopen : id ∉ opened)
    (hs : a.Expands id s) (hfit : a.FitsAt id) :
    Progress a opened { e with assembly := e.assembly.insert id (some s) } := by
  refine ⟨h.cells, fun x hx => ?_, fun x hx hxopen => ?_⟩
  · have hxid : x ≠ id := by
      rintro rfl
      exact hx.elim (fun hn => hn hdone) hopen
    rw [shape?_insert, if_neg hxid]
    exact h.pending x (hx.imp_right (List.mem_cons_of_mem _))
  · by_cases hxid : x = id
    · subst hxid
      exact ⟨s, hs, by simp, hfit⟩
    · rw [shape?_insert, if_neg hxid]
      exact h.settled x hx (by simp [hxid, hxopen])

/-! ## One step of the walk -/

/-- What expanding the shape `id` does, if `e'` is what it leaves of `e`. -/
structure Reaches (a : Assembly) (opened : List String) (e : Expansion) (id : String)
    (e' : Expansion) : Prop where
  onSuccess : e'.failure = none →
    Progress a opened e' ∧ (∀ x ∈ e.done, x ∈ e'.done) ∧ id ∈ e'.done
  succeeds : a.MixinsFit → (a.shape? id).isSome → e'.failure = none

/-- What taking over from the mixins `targets` does for a shape `s`, if `r` is what it leaves of `e`
and of what was taken over before. -/
structure Gathers (a : Assembly) (opened : List String) (e : Expansion) (s : ShapeDef Nat)
    (b : Borrowed) (targets : List String) (r : Expansion × Borrowed) : Prop where
  onSuccess : r.1.failure = none →
    Progress a opened r.1 ∧ (∀ x ∈ e.done, x ∈ r.1.done) ∧
      ∃ ms : List (ShapeDef Nat), targets.length = ms.length ∧ r.2 = ms.foldl Borrowed.addMixin b ∧
        ∀ target m, (target, m) ∈ targets.zip ms →
          a.Expands target m ∧ (m.members.isSome → m.type = s.type)
  succeeds : a.MixinsFit → r.1.failure = none

/-- A settled mixin lends what it has, unless the types differ. -/
theorem gathers_borrow {opened : List String} {e : Expansion} {id target : String}
    {s : ShapeDef Nat} (b : Borrowed) (hp : Progress a opened e) (hf : e.failure = none)
    (hs : a.shape? id = some s) (hu : a.Uses id target) (hdone : target ∈ e.done)
    (hopen : target ∉ opened) : Gathers a opened e s b [target] (e.borrow id s b target) := by
  obtain ⟨m, hm, hget, -⟩ := hp.settled target hdone hopen
  rw [borrow, hget]
  by_cases hbad : (m.members.isSome && s.type != m.type) = true
  · simp only [hbad, if_true]
    rw [Bool.and_eq_true, bne_iff_ne] at hbad
    exact ⟨fun h => by simp at h,
      fun hfit => absurd (hfit.typed id s target m hs hu hm hbad.1).symm hbad.2⟩
  · simp only [hbad, Bool.false_eq_true, if_false]
    refine ⟨fun _ => ⟨hp, fun _ h => h, [m], rfl, rfl, fun t m' hmem => ?_⟩, fun _ => hf⟩
    simp only [List.zip_cons_cons, List.zip_nil_right, List.mem_singleton, Prod.mk.injEq] at hmem
    obtain ⟨rfl, rfl⟩ := hmem
    refine ⟨hm, fun hsome => ?_⟩
    by_contra hne
    exact hbad (by simpa [hsome] using fun h : s.type = m'.type => hne h.symm)

/-- Taking over from the mixins of an open shape, one after the other. -/
theorem gathers_expandMixins {visit : Expansion → String → Expansion} {depth : Nat}
    (opened : List String) {id : String} {s : ShapeDef Nat} (hac : a.Acyclic)
    (hs : a.shape? id = some s)
    (hreach : ∀ o ∈ opened, o = id ∨ Relation.TransGen a.Uses o id)
    (hvisit : ∀ e target, Progress a opened e → e.failure = none →
      (∀ o ∈ opened, Relation.TransGen a.Uses o target) → remaining a e < depth →
      Reaches a opened e target (visit e target)) :
    ∀ (targets : List String) (e : Expansion) (b : Borrowed), (∀ t ∈ targets, a.Uses id t) →
      Progress a opened e → e.failure = none → remaining a e < depth →
      Gathers a opened e s b targets (expandMixins visit e id s b (targets.map some)) := by
  intro targets
  induction targets with
  | nil =>
    intro e b _ hp hf _
    rw [List.map_nil, expandMixins]
    exact ⟨fun _ => ⟨hp, fun _ h => h, [], rfl, rfl, by simp⟩, fun _ => hf⟩
  | cons target rest ihrest =>
    intro e b huses hp hf hdepth
    have hu : a.Uses id target := huses target (by simp)
    -- Every open shape leads to the mixin, so an open mixin would lead to itself.
    have hchain : ∀ o ∈ opened, Relation.TransGen a.Uses o target := by
      intro o ho
      rcases hreach o ho with rfl | ho
      · exact .single hu
      · exact ho.tail hu
    have hopen : target ∉ opened := fun h => hac target (hchain target h)
    have hr := hvisit e target hp hf hchain hdepth
    rw [List.map_cons, expandMixins]
    by_cases hfail : (visit e target).failure = none
    · obtain ⟨hp₁, hkept₁, hdone⟩ := hr.onSuccess hfail
      have hb := gathers_borrow b hp₁ hfail hs hu hdone hopen
      simp only [hfail, Option.isSome_none, Bool.false_eq_true, if_false]
      by_cases hfail₂ : ((visit e target).borrow id s b target).1.failure = none
      · obtain ⟨hp₂, hkept₂, ms₁, hlen₁, hb₁, hms₁⟩ := hb.onSuccess hfail₂
        simp only [hfail₂, Option.isSome_none, Bool.false_eq_true, if_false]
        have hrest := ihrest ((visit e target).borrow id s b target).1
          ((visit e target).borrow id s b target).2
          (fun t ht => huses t (List.mem_cons_of_mem _ ht)) hp₂ hfail₂
          (Nat.lt_of_le_of_lt (remaining_le fun x hx => hkept₂ x (hkept₁ x hx)) hdepth)
        refine ⟨fun h => ?_, hrest.succeeds⟩
        obtain ⟨hp₃, hkept₃, ms, hlen, hb₃, hms⟩ := hrest.onSuccess h
        obtain ⟨m, rfl⟩ := List.length_eq_one_iff.1 hlen₁.symm
        refine ⟨hp₃, fun x hx => hkept₃ x (hkept₂ x (hkept₁ x hx)), m :: ms, by simp [hlen],
          by rw [hb₃, hb₁]; rfl, fun t m' hmem => ?_⟩
        rw [List.zip_cons_cons, List.mem_cons] at hmem
        rcases hmem with heq | hmem
        · exact hms₁ t m' (by simpa using heq)
        · exact hms t m' hmem
      · rw [if_pos (Option.isSome_iff_ne_none.2 hfail₂)]
        exact ⟨fun h => absurd h hfail₂, hb.succeeds⟩
    · rw [if_pos (Option.isSome_iff_ne_none.2 hfail)]
      exact ⟨fun h => absurd h hfail,
        fun hfit => hr.succeeds hfit (hfit.found id target hu)⟩

/-- A list of references without a null is a list of targets. -/
theorem exists_targets {mixins : List Ref} (h : none ∉ mixins) :
    ∃ targets : List String, mixins = targets.map some := by
  induction mixins with
  | nil => exact ⟨[], rfl⟩
  | cons r rest ih =>
    rw [List.mem_cons, not_or] at h
    obtain ⟨targets, rfl⟩ := ih h.2
    cases r with
    | none => exact absurd rfl h.1
    | some t => exact ⟨t :: targets, rfl⟩

/-- **One step of the walk**: expanding a shape settles it and all it depends on. -/
theorem reaches_expand (hc : a.Coherent) (hn : a.NonNull) (hac : a.Acyclic) :
    ∀ (depth : Nat) (opened : List String) (e : Expansion) (id : String), Progress a opened e →
      e.failure = none → (∀ o ∈ opened, Relation.TransGen a.Uses o id) → remaining a e < depth →
      Reaches a opened e id (expand depth e id) := by
  intro depth
  induction depth with
  | zero => intro opened e id _ _ _ h; omega
  | succ depth ih =>
    intro opened e id hp hf hreach hdepth
    have hopen : id ∉ opened := fun h => hac id (hreach id h)
    rw [expand]
    by_cases hdone : id ∈ e.done
    · rw [if_pos (by simpa using hdone)]
      exact ⟨fun _ => ⟨hp, fun _ h => h, hdone⟩, fun _ _ => hf⟩
    rw [if_neg (by simpa using hdone)]
    have hget : e.assembly.shape? id = a.shape? id := hp.pending id (.inl hdone)
    simp only [hget]
    cases hs : a.shape? id with
    | none => exact ⟨fun h => by simp at h, fun _ h => by simp [hs] at h⟩
    | some s =>
      cases hm : s.mixins with
      | none =>
        simp only [hm]
        exact ⟨fun _ => ⟨hp.pass hs hm hdone, fun _ h => List.mem_cons_of_mem _ h, by simp⟩,
          fun _ _ => hf⟩
      | some mixins =>
        obtain ⟨targets, rfl⟩ := exists_targets (hn.mixins id s mixins hs hm)
        have huses : ∀ t ∈ targets, a.Uses id t := fun t ht =>
          ⟨s, _, hs, hm, List.mem_map_of_mem ht⟩
        have hids : id ∈ a.ids := hc.listed id s hs
        have hlt := remaining_lt (a := a) hids hdone
        have hg := gathers_expandMixins (id :: opened) hac hs
          (fun o ho => (List.mem_cons.1 ho).imp_right (hreach o))
          (fun e' target => ih (id :: opened) e' target) targets
          { e with done := id :: e.done } {} huses (hp.enter hdone) hf (by omega)
        simp only [hm]
        generalize expandMixins (expand depth) { e with done := id :: e.done } id s {}
          (targets.map some) = r at hg
        by_cases hfail : r.1.failure = none
        · obtain ⟨hp', hkept, ms, hlen, hb, hms⟩ := hg.onSuccess hfail
          have hid : id ∈ r.1.done := hkept id (by simp)
          have hexp : a.Expands id (r.2.finish s) := by
            rw [hb]
            exact expands_finish hc hs hm hlen fun t m hmem => (hms t m hmem).1
          have hfit : a.FitsAt id := fitsAt_of_zip hs hm hlen hms
          rw [if_neg (by simp [hfail])]
          exact ⟨fun _ => ⟨hp'.leave hid hopen hexp hfit,
            fun x hx => hkept x (List.mem_cons_of_mem _ hx), hid⟩, fun _ _ => hfail⟩
        · rw [if_pos (Option.isSome_iff_ne_none.2 hfail)]
          exact ⟨fun h => absurd h hfail, fun hfit _ => hg.succeeds hfit⟩

/-! ## The whole walk -/

theorem expandEach_spec (hc : a.Coherent) (hn : a.NonNull) (hac : a.Acyclic) {depth : Nat} :
    ∀ (ids : List String) (e : Expansion), Progress a [] e → e.failure = none →
      remaining a e < depth → (∀ id ∈ ids, (a.shape? id).isSome) →
      ((expandEach depth ids e).failure = none →
        Progress a [] (expandEach depth ids e) ∧ (∀ x ∈ e.done, x ∈ (expandEach depth ids e).done) ∧
          ∀ id ∈ ids, id ∈ (expandEach depth ids e).done) ∧
      (a.MixinsFit → (expandEach depth ids e).failure = none) := by
  intro ids
  induction ids with
  | nil =>
    intro e hp hf _ _
    exact ⟨fun _ => ⟨hp, fun _ h => h, by simp⟩, fun _ => hf⟩
  | cons id rest ih =>
    intro e hp hf hdepth hsome
    have hr := reaches_expand hc hn hac depth [] e id hp hf (by simp) hdepth
    rw [expandEach]
    by_cases hfail : (expand depth e id).failure = none
    · obtain ⟨hp', hkept, hdone⟩ := hr.onSuccess hfail
      obtain ⟨hsucc, hfit⟩ := ih (expand depth e id) hp' hfail
        (Nat.lt_of_le_of_lt (remaining_le hkept) hdepth)
        fun x hx => hsome x (List.mem_cons_of_mem _ hx)
      simp only [hfail, Option.isSome_none, Bool.false_eq_true, if_false]
      refine ⟨fun h => ?_, hfit⟩
      obtain ⟨hp'', hkept', hall⟩ := hsucc h
      refine ⟨hp'', fun x hx => hkept' x (hkept x hx), fun x hx => ?_⟩
      rcases List.mem_cons.1 hx with rfl | hx
      · exact hkept' x hdone
      · exact hall x hx
    · simp only [if_pos (Option.isSome_iff_ne_none.2 hfail)]
      exact ⟨fun h => absurd h hfail, fun hfit => hr.succeeds hfit (hsome id (by simp))⟩

end Expansion

namespace Assembly

variable {a : Assembly}

open Expansion

theorem expandAll_spec (hc : a.Coherent) (hn : a.NonNull) (hac : a.Acyclic) :
    (a.expandAll.failure = none →
      Progress a [] { assembly := a.expandAll.assembly, done := a.ids }) ∧
      (a.MixinsFit → a.expandAll.failure = none) := by
  have hstart : Progress a [] { assembly := a } :=
    ⟨rfl, fun _ _ => rfl, fun id hid => absurd hid (by simp)⟩
  have hdepth : remaining a { assembly := a } < a.ids.length + 2 := by
    have := List.length_filter_le (fun id => !([] : List String).contains id) a.ids
    exact Nat.lt_of_le_of_lt this (by omega)
  obtain ⟨hsucc, hfit⟩ := expandEach_spec hc hn hac a.ids { assembly := a } hstart rfl hdepth
    hn.shapes
  refine ⟨fun h => ?_, hfit⟩
  obtain ⟨hp, -, hall⟩ := hsucc h
  -- Nothing but listed shapes is settled, so the walk may as well have reached exactly those.
  refine ⟨hp.cells, fun id hid => hp.pending id (hid.imp_left fun hn hdone => hn ?_),
    fun id hid _ => hp.settled id (hall id hid) (by simp)⟩
  obtain ⟨s, hs, -, -⟩ := hp.settled id hdone (by simp)
  obtain ⟨t, ht, -⟩ := hs.exists_shape
  exact hc.listed id t ht

theorem failure_expandAll_eq_none_iff (hc : a.Coherent) (hn : a.NonNull) (hac : a.Acyclic) :
    a.expandAll.failure = none ↔ a.MixinsFit := by
  refine ⟨fun h => mixinsFit_of_fitsAt fun id s hs => ?_, (expandAll_spec hc hn hac).2⟩
  obtain ⟨-, -, -, hfit⟩ := ((expandAll_spec hc hn hac).1 h).settled id (hc.listed id s hs)
    (by simp)
  exact hfit

theorem shape?_expandAll_eq_some_iff (hc : a.Coherent) (hn : a.NonNull) (hac : a.Acyclic)
    (h : a.expandAll.failure = none) (id : String) (e : ShapeDef Nat) :
    a.expandAll.assembly.shape? id = some e ↔ a.Expands id e := by
  have hp := (expandAll_spec hc hn hac).1 h
  constructor
  · intro he
    by_cases hid : id ∈ a.ids
    · obtain ⟨s, hs, hget, -⟩ := hp.settled id hid (by simp)
      rw [hget, Option.some_inj] at he
      exact he ▸ hs
    · rw [hp.pending id (.inl hid)] at he
      exact absurd (hc.listed id e he) hid
  · intro he
    obtain ⟨s, hs, -⟩ := he.exists_shape
    obtain ⟨e', he', hget, -⟩ := hp.settled id (hc.listed id s hs) (by simp)
    rw [he.unique he']
    exact hget

/-! ## The order of the shapes -/

/-- The same shapes, listed in another order. -/
structure Reorders (b a : Assembly) : Prop where
  ids : b.ids.Perm a.ids
  shapes : ∀ id, b.shape? id = a.shape? id

namespace Reorders

variable {b : Assembly}

theorem coherent (h : b.Reorders a) (hc : a.Coherent) : b.Coherent :=
  ⟨fun id s hs => h.ids.mem_iff.2 (hc.listed id s (h.shapes id ▸ hs)),
    fun id s hs => hc.each id s (h.shapes id ▸ hs)⟩

theorem nonNull (h : b.Reorders a) (hn : a.NonNull) : b.NonNull :=
  ⟨fun id hid => h.shapes id ▸ hn.shapes id (h.ids.mem_iff.1 hid),
    fun id s mixins hs hm => hn.mixins id s mixins (h.shapes id ▸ hs) hm⟩

theorem uses_iff (h : b.Reorders a) (id target : String) : b.Uses id target ↔ a.Uses id target := by
  rw [Uses, Uses, h.shapes]

theorem acyclic (h : b.Reorders a) (hac : a.Acyclic) : b.Acyclic :=
  fun id hid => hac id (Relation.TransGen.mono (fun x y => (h.uses_iff x y).1) id id hid)

theorem expands_iff (h : b.Reorders a) (id : String) (e : ShapeDef Nat) :
    b.Expands id e ↔ a.Expands id e :=
  ⟨Expands.of_shape?_eq fun id => (h.shapes id).symm, Expands.of_shape?_eq h.shapes⟩

theorem mixinsFit (h : b.Reorders a) (hfit : a.MixinsFit) : b.MixinsFit := by
  refine ⟨fun id target hu => ?_, fun id s target m hs hu hm => ?_⟩
  · rw [h.shapes]
    exact hfit.found id target ((h.uses_iff id target).1 hu)
  · exact hfit.typed id s target m (h.shapes id ▸ hs) ((h.uses_iff id target).1 hu)
      ((h.expands_iff target m).1 hm)

end Reorders

theorem shape?_expandAll_of_reorders {b : Assembly} (hc : a.Coherent) (hn : a.NonNull)
    (hac : a.Acyclic) (ha : a.expandAll.failure = none) (h : b.Reorders a) :
    b.expandAll.failure = none ∧
      ∀ id, b.expandAll.assembly.shape? id = a.expandAll.assembly.shape? id := by
  have hb : b.expandAll.failure = none :=
    (failure_expandAll_eq_none_iff (h.coherent hc) (h.nonNull hn) (h.acyclic hac)).2
      (h.mixinsFit ((failure_expandAll_eq_none_iff hc hn hac).1 ha))
  refine ⟨hb, fun id => Option.ext fun e => ?_⟩
  rw [shape?_expandAll_eq_some_iff (h.coherent hc) (h.nonNull hn) (h.acyclic hac) hb,
    shape?_expandAll_eq_some_iff hc hn hac ha]
  exact h.expands_iff id e

/-! ## A diamond -/

/-- An assembly whose mixins can be counted down has no cycles. -/
theorem acyclic_of_rank (rank : String → Nat) (h : ∀ id t, a.Uses id t → rank t < rank id) :
    a.Acyclic := by
  have hlt : ∀ x y, Relation.TransGen a.Uses x y → rank y < rank x := by
    intro x y hxy
    induction hxy with
    | single hu => exact h _ _ hu
    | tail _ hu ih => exact Nat.lt_trans (h _ _ hu) ih
  exact fun id hid => Nat.lt_irrefl _ (hlt id id hid)

/-- A structure with members and traits of the given names. -/
def sample (names : List String) (mixins : Option (List Ref)) (traits : List String) :
    ShapeDef Nat :=
  { type := "structure"
    members := some (.tabulate names fun name => some (names.idxOf? name))
    mixins
    traits := some (.tabulate traits fun _ => some none) }

theorem coherent_sample {names traits : List String} (mixins : Option (List Ref))
    (hn : names.Nodup) (ht : traits.Nodup) : (sample names mixins traits).Coherent := by
  constructor
  · rintro members ⟨⟩
    exact (OrderedMap.tidy_tabulate hn fun _ _ => rfl).coherent
  · rintro t ⟨⟩
    exact (OrderedMap.tidy_tabulate ht fun _ _ => rfl).coherent

/-- Four structures; the first reaches the last through both of the others. -/
def diamond : Assembly :=
  let cells := List.replicate 2 { target := "smithy.api#String" }
  ((({ version := "2.0", cells : Assembly }
    |>.insert "ex#Widget" (some (sample ["size"] (some [some "ex#Left", some "ex#Right"]) [])))
    |>.insert "ex#Left" (some (sample ["name"] (some [some "ex#Base"]) [Trait.mixin])))
    |>.insert "ex#Right" (some (sample ["id", "size"] (some [some "ex#Base"]) [Trait.required])))
    |>.insert "ex#Base" (some (sample ["id"] none [Trait.mixin, Trait.documentation]))

theorem shape?_diamond (id : String) : diamond.shape? id
    = if id = "ex#Base" then some (sample ["id"] none [Trait.mixin, Trait.documentation])
      else if id = "ex#Right" then
        some (sample ["id", "size"] (some [some "ex#Base"]) [Trait.required])
      else if id = "ex#Left" then some (sample ["name"] (some [some "ex#Base"]) [Trait.mixin])
      else if id = "ex#Widget" then
        some (sample ["size"] (some [some "ex#Left", some "ex#Right"]) [])
      else none := by
  simp only [diamond, shape?_insert]
  rfl

theorem coherent_diamond : diamond.Coherent := by
  refine ⟨fun id s hs => ?_, fun id s hs => ?_⟩
  · have hids : diamond.ids = ["ex#Widget", "ex#Left", "ex#Right", "ex#Base"] := by decide
    rw [hids]
    rw [shape?_diamond] at hs
    split_ifs at hs <;> simp_all
  · rw [shape?_diamond] at hs
    split_ifs at hs <;> cases hs <;> exact coherent_sample _ (by decide) (by decide)

theorem uses_diamond {id target : String} (h : diamond.Uses id target) :
    (id = "ex#Right" ∧ target = "ex#Base") ∨ (id = "ex#Left" ∧ target = "ex#Base") ∨
      (id = "ex#Widget" ∧ (target = "ex#Left" ∨ target = "ex#Right")) := by
  obtain ⟨s, mixins, hs, hm, hmem⟩ := h
  rw [shape?_diamond] at hs
  split_ifs at hs <;> cases hs <;> cases hm <;> simp_all

theorem nonNull_diamond : diamond.NonNull := by
  refine ⟨fun id hid => ?_, fun id s mixins hs hm => ?_⟩
  · have hids : diamond.ids = ["ex#Widget", "ex#Left", "ex#Right", "ex#Base"] := by decide
    rw [hids] at hid
    simp only [List.mem_cons, List.not_mem_nil, or_false] at hid
    rcases hid with rfl | rfl | rfl | rfl <;> rfl
  · rw [shape?_diamond] at hs
    split_ifs at hs <;> cases hs <;> cases hm <;> simp

theorem acyclic_diamond : diamond.Acyclic := by
  refine acyclic_of_rank (fun id => if id = "ex#Widget" then 2 else if id = "ex#Base" then 0 else 1)
    fun id target hu => ?_
  rcases uses_diamond hu with ⟨rfl, rfl⟩ | ⟨rfl, rfl⟩ | ⟨rfl, rfl | rfl⟩ <;> decide

theorem type_diamond {id : String} {s : ShapeDef Nat} (hs : diamond.shape? id = some s) :
    s.type = "structure" := by
  rw [shape?_diamond] at hs
  split_ifs at hs <;> cases hs <;> rfl

theorem mixinsFit_diamond : diamond.MixinsFit := by
  refine ⟨fun id target hu => ?_, fun id s target m hs hu hm _ => ?_⟩
  · rcases uses_diamond hu with ⟨-, rfl⟩ | ⟨-, rfl⟩ | ⟨-, rfl | rfl⟩ <;> rfl
  · obtain ⟨t, ht, htype⟩ := hm.exists_shape
    rw [htype, type_diamond ht, type_diamond hs]

/-! ## The main statement -/

theorem exists_mixesIn_expandAll (hc : a.Coherent) (hn : a.NonNull) (hac : a.Acyclic)
    (h : a.expandAll.failure = none) {id : String} {s : ShapeDef Nat} {targets : List String}
    (hs : a.shape? id = some s) (hm : s.mixins = some (targets.map some)) :
    ∃ e ms, a.expandAll.assembly.shape? id = some e ∧
      targets.map a.expandAll.assembly.shape? = ms.map some ∧ e.MixesIn s ms := by
  obtain ⟨e, he, hget, -⟩ := ((expandAll_spec hc hn hac).1 h).settled id (hc.listed id s hs)
    (by simp)
  refine ⟨e, ?_⟩
  cases he with
  | plain hs' hm' =>
    rw [hs, Option.some_inj] at hs'
    rw [← hs', hm] at hm'
    cases hm'
  | @mixed _ s' targets' ms hs' hm' hlen hms =>
    rw [hs, Option.some_inj] at hs'
    subst hs'
    rw [hm, Option.some_inj] at hm'
    have htargets : targets = targets' :=
      List.map_injective_iff.2 (Option.some_injective _) hm'
    subst htargets
    refine ⟨ms, hget, List.ext_getElem (by simp [hlen]) fun i hi hi' => ?_, ?_⟩
    · rw [List.length_map] at hi hi'
      rw [List.getElem_map, List.getElem_map, shape?_expandAll_eq_some_iff hc hn hac h]
      exact hms _ _ (getElem_mem_zip hlen hi')
    · refine ShapeDef.mixesIn_mixed (hc.each id s hs) fun m hmem => ?_
      obtain ⟨i, hi, rfl⟩ := List.mem_iff_getElem.1 hmem
      exact (hms _ _ (getElem_mem_zip hlen hi)).coherent hc

/-- **Expanding mixins** succeeds exactly when they fit.  Then every shape is what the reference
says: one without a list of mixins stays as it is, down to the order and the repetitions of its
members, and one with such a list has the members and traits of its expanded mixins and its own.
The order in which the shapes are listed makes no difference. -/
theorem expandAll_reference (hc : a.Coherent) (hn : a.NonNull) (hac : a.Acyclic) :
    (a.expandAll.failure = none ↔ a.MixinsFit) ∧
      (a.expandAll.failure = none →
        (∀ id e, a.expandAll.assembly.shape? id = some e ↔ a.Expands id e) ∧
        (∀ id s, a.shape? id = some s → s.mixins = none →
          a.expandAll.assembly.shape? id = some s) ∧
        (∀ id s (targets : List String), a.shape? id = some s →
          s.mixins = some (targets.map some) → ∃ e ms,
            a.expandAll.assembly.shape? id = some e ∧
            targets.map a.expandAll.assembly.shape? = ms.map some ∧ e.MixesIn s ms) ∧
        a.expandAll.assembly.cells = a.cells ∧
        ∀ b : Assembly, b.Reorders a → b.expandAll.failure = none ∧
          ∀ id, b.expandAll.assembly.shape? id = a.expandAll.assembly.shape? id) := by
  refine ⟨failure_expandAll_eq_none_iff hc hn hac, fun h => ⟨?_, ?_, ?_, ?_, ?_⟩⟩
  · exact shape?_expandAll_eq_some_iff hc hn hac h
  · intro id s hs hm
    exact (shape?_expandAll_eq_some_iff hc hn hac h id s).2 (.plain hs hm)
  · intro id s targets hs hm
    exact exists_mixesIn_expandAll hc hn hac h hs hm
  · exact ((expandAll_spec hc hn hac).1 h).cells
  · intro b hb
    exact shape?_expandAll_of_reorders hc hn hac h hb

/-- In the diamond, what the first and the last shape have in common comes first. -/
theorem expandAll_reference_diamond :
    diamond.Coherent ∧ diamond.NonNull ∧ diamond.Acyclic ∧ diamond.expandAll.failure = none ∧
      ∃ e, diamond.expandAll.assembly.shape? "ex#Widget" = some e ∧
        e.memberNames = ["id", "name", "size"] ∧ e.trait? Trait.mixin = none ∧
        (e.trait? Trait.documentation).isSome := by
  obtain ⟨hiff, h⟩ := expandAll_reference coherent_diamond nonNull_diamond acyclic_diamond
  have hok := hiff.2 mixinsFit_diamond
  obtain ⟨hshape, -⟩ := h hok
  have hbase : diamond.Expands "ex#Base" _ := .plain rfl rfl
  have hleft := @Expands.mixed diamond "ex#Left" _ ["ex#Base"] [_] rfl rfl rfl
    (by simpa using hbase)
  have hright := @Expands.mixed diamond "ex#Right" _ ["ex#Base"] [_] rfl rfl rfl
    (by simpa using hbase)
  have hwidget := @Expands.mixed diamond "ex#Widget" _ ["ex#Left", "ex#Right"] [_, _] rfl rfl rfl
    (by
      simp only [List.zip_cons_cons, List.zip_nil_right, List.mem_cons, List.not_mem_nil, or_false,
        Prod.mk.injEq]
      rintro t m (⟨rfl, rfl⟩ | ⟨rfl, rfl⟩)
      · exact hleft
      · exact hright)
  refine ⟨coherent_diamond, nonNull_diamond, acyclic_diamond, hok, _, (hshape _ _).2 hwidget, ?_⟩
  decide

/-- A structure whose document gives the member `a` twice. -/
def repeating : ShapeDef Nat :=
  { type := "structure"
    members := some { keys := ["a", "a"], bindings := [("a", some 0)] } }

/-- A member that a document repeats is listed twice, and without a list of mixins it stays so: the
names are not the first occurrences of what there is to list. -/
theorem memberNames_expandAll_repeating :
    let a : Assembly := ({ cells := [{ target := "smithy.api#String" }] } : Assembly).insert "ex#A"
      (some repeating)
    a.Coherent ∧ a.NonNull ∧ a.Acyclic ∧ a.expandAll.failure = none ∧
      ∃ e, a.expandAll.assembly.shape? "ex#A" = some e ∧
        e.memberNames ≠ Text.firstBy id repeating.memberNames := by
  intro a
  have hshape : ∀ id, a.shape? id = if id = "ex#A" then some repeating else none := fun id =>
    shape?_insert _ _ _ id
  have hplain : ∀ id s, a.shape? id = some s → id = "ex#A" ∧ s = repeating := by
    intro id s hs
    rw [hshape] at hs
    split_ifs at hs with hid
    exact ⟨hid, (Option.some_inj.1 hs).symm⟩
  have huses : ∀ id target, ¬ a.Uses id target := by
    rintro id target ⟨s, mixins, hs, hm, -⟩
    obtain ⟨-, rfl⟩ := hplain id s hs
    cases hm
  have hc : a.Coherent := by
    refine ⟨fun id s hs => ?_, fun id s hs => ?_⟩
    · obtain ⟨rfl, -⟩ := hplain id s hs
      decide
    · obtain ⟨-, rfl⟩ := hplain id s hs
      refine ⟨?_, by rintro t ⟨⟩⟩
      rintro members ⟨⟩ name
      by_cases hname : name = "a" <;> simp [OrderedMap.get?, OrderedMap.lookup_cons_eq_ite, hname]
  have hn : a.NonNull := by
    refine ⟨fun id hid => ?_, fun id s mixins hs hm => ?_⟩
    · have hids : a.ids = ["ex#A"] := by decide
      rw [hids, List.mem_singleton] at hid
      rw [hid]
      rfl
    · obtain ⟨-, rfl⟩ := hplain id s hs
      cases hm
  have hac : a.Acyclic := acyclic_of_rank (fun _ => 0) fun id t hu => absurd hu (huses id t)
  have hok : a.expandAll.failure = none := (failure_expandAll_eq_none_iff hc hn hac).2
    ⟨fun id t hu => absurd hu (huses id t), fun id _ t _ _ hu => absurd hu (huses id t)⟩
  refine ⟨hc, hn, hac, hok, repeating, ?_, by decide⟩
  exact (shape?_expandAll_eq_some_iff hc hn hac hok "ex#A" repeating).2 (.plain rfl rfl)

end Assembly
end Shapewright
