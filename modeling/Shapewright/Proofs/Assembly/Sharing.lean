import Shapewright.Proofs.Assembly.Apart
import Shapewright.Proofs.Assembly.Expansion
import Shapewright.Proofs.Assembly.Walk
import Shapewright.Proofs.Document

/-!
# Members in common

A shape that takes over from a mixin has the mixin's members, not copies of them.  Traits that are
applied to a member of a shape therefore show wherever else that member is, and this file says where.

* `Assembly.Shares` — two shapes have a member in common.
* `Assembly.Descends` — an assembly has its members from those of another, through mixins.
  Taking over keeps to that, whether or not mixins go in circles (`Assembly.descends_expandAll`).
* `Assembly.Source` — the shape that declares what another one has under a name: itself, or else the
  source of the first mixin that offers the name.
* `Assembly.apply_of_splitTarget` — applying traits to a member changes its cell, and nothing else.
* `Assembly.apply_expanded` — the payoff: where applied traits show after documents are gathered and
  mixins are settled, and when the change stays within one shape.
-/

set_option autoImplicit false

namespace Shapewright
namespace Assembly

open Relation

variable {a b : Assembly} {id id' name name' : String}

/-- The member of a shape with a name. -/
def memberAt? (a : Assembly) (id name : String) : Option MemberDef :=
  (a.position? id name).bind a.cell?

/-- Two shapes have a member in common, under these names. -/
def Shares (a : Assembly) (id name id' name' : String) : Prop :=
  ∃ i, a.position? id name = some i ∧ a.position? id' name' = some i

/-! ## Where members come from -/

/-- Shapes have their members, under the same names, from those that they reach through mixins. -/
structure Descends (a b : Assembly) : Prop where
  mixins : ∀ id s refs, b.shape? id = some s → s.mixins = some refs →
    ∃ t, a.shape? id = some t ∧ t.mixins = some refs
  members : ∀ id name i, b.position? id name = some i →
    ∃ source, a.position? source name = some i ∧ ReflTransGen a.Uses id source

/-- What a shape has taken over comes from shapes that it reaches through mixins. -/
def Brings (a : Assembly) (id : String) (r : Borrowed) : Prop :=
  ∀ name i, r.members.get? name = some (some i) →
    ∃ source, a.position? source name = some i ∧ ReflTransGen a.Uses id source

theorem Descends.refl (a : Assembly) : a.Descends a :=
  ⟨fun _ s _ hs hm => ⟨s, hs, hm⟩, fun id _ _ hi => ⟨id, hi, .refl⟩⟩

theorem member?_of_lookup {s : ShapeDef Nat} {m : Option Nat} {entries : List (String × Option Nat)}
    (hsub : ∀ e ∈ entries, e ∈ s.memberEntries) (h : entries.lookup name = some m) :
    s.member? name = some m := by
  obtain ⟨front, back, heq, -⟩ := List.lookup_eq_some_iff.1 h
  have hmem : (name, m) ∈ s.memberEntries := hsub _ (by simp [heq])
  cases hm : s.members with
  | none => simp [ShapeDef.memberEntries, hm] at hmem
  | some members => simpa [ShapeDef.member?, hm] using ((ShapeDef.mem_memberEntries hm).1 hmem).2

/-- A mixin brings what it has itself. -/
theorem Brings.addMixin {r : Borrowed} {target : String} {mixin : ShapeDef Nat}
    (h : a.Brings id r) (hb : a.Descends b) (hu : a.Uses id target)
    (hmixin : b.shape? target = some mixin) : a.Brings id (r.addMixin mixin) := by
  intro name i hi
  rw [Borrowed.members_addMixin, OrderedMap.get?_insertNew, Option.or_eq_some_iff] at hi
  rcases hi with hi | ⟨-, hi⟩
  · exact h name i hi
  · have hm : mixin.member? name = some (some i) := member?_of_lookup (fun _ he => he) hi
    have hposition : b.position? target name = some i := by
      simp [position?, hmixin, ShapeDef.position?, hm]
    obtain ⟨source, hsource, hpath⟩ := hb.members target name i hposition
    exact ⟨source, hsource, .head hu hpath⟩

/-- What a shape has in the end is its own or was brought by mixins. -/
theorem Brings.finish {r : Borrowed} {s : ShapeDef Nat} {i : Nat} (h : a.Brings id r)
    (hb : a.Descends b) (hs : b.shape? id = some s) (hi : (r.finish s).position? name = some i) :
    ∃ source, a.position? source name = some i ∧ ReflTransGen a.Uses id source := by
  have hmember : (r.finish s).member? name = some (some i) := Option.join_eq_some_iff.1 hi
  have hown (hm : s.member? name = some (some i)) :
      ∃ source, a.position? source name = some i ∧ ReflTransGen a.Uses id source := by
    refine hb.members id name i ?_
    simp [position?, hs, ShapeDef.position?, hm]
  by_cases hsize : ((r.addOwn s).members.size == 0) = true
  · have hmembers : (r.finish s).members = s.members := by simp [Borrowed.finish, hsize]
    rw [ShapeDef.member?, hmembers] at hmember
    exact hown hmember
  · have hmembers : (r.finish s).members = some (r.addOwn s).members := by
      simp [Borrowed.finish, hsize]
    rw [ShapeDef.member?, hmembers, Option.bind_some, Borrowed.members_addOwn,
      OrderedMap.get?_insertAll, Option.or_eq_some_iff] at hmember
    rcases hmember with hmember | ⟨-, hmember⟩
    · exact hown (member?_of_lookup (fun _ he => List.mem_reverse.1 he) hmember)
    · exact h name i hmember

/-- Taking over keeps to where members come from. -/
theorem descends_borrow {e : Expansion} {s : ShapeDef Nat} {r : Borrowed} {target : String}
    (he : a.Descends e.assembly) (hr : a.Brings id r) (hu : a.Uses id target) :
    a.Descends (e.borrow id s r target).1.assembly ∧ a.Brings id (e.borrow id s r target).2 := by
  rw [Expansion.borrow]
  split
  · exact ⟨he, hr⟩
  · rename_i mixin hmixin
    split
    · exact ⟨he, hr⟩
    · exact ⟨he, hr.addMixin he hu hmixin⟩

theorem descends_expandMixins {visit : Expansion → String → Expansion}
    (hvisit : ∀ e target, a.Descends e.assembly → a.Descends (visit e target).assembly)
    (id : String) (s : ShapeDef Nat) (refs : List Ref) (hrefs : ∀ t, some t ∈ refs → a.Uses id t)
    (e : Expansion) (r : Borrowed) (he : a.Descends e.assembly) (hr : a.Brings id r) :
    a.Descends (Expansion.expandMixins visit e id s r refs).1.assembly ∧
      a.Brings id (Expansion.expandMixins visit e id s r refs).2 := by
  induction refs generalizing e r with
  | nil =>
    rw [Expansion.expandMixins]
    exact ⟨he, hr⟩
  | cons ref rest ihrest =>
    cases ref with
    | none =>
      rw [Expansion.expandMixins]
      exact ⟨he, hr⟩
    | some target =>
      rw [Expansion.expandMixins]
      have hstep := hvisit e target he
      simp only
      split
      · exact ⟨hstep, hr⟩
      · obtain ⟨hborrow, hbrings⟩ := descends_borrow (s := s) hstep hr (hrefs target (by simp))
        split
        · exact ⟨hborrow, hbrings⟩
        · exact ihrest (fun t ht => hrefs t (List.mem_cons_of_mem _ ht)) _ _ hborrow hbrings

theorem descends_expand (depth : Nat) (e : Expansion) (id : String) (he : a.Descends e.assembly) :
    a.Descends (Expansion.expand depth e id).assembly := by
  induction depth generalizing e id with
  | zero =>
    rw [Expansion.expand]
    exact he
  | succ depth ih =>
    rw [Expansion.expand]
    split
    · exact he
    · simp only
      split
      · exact he
      · rename_i s hs
        split
        · exact he
        · rename_i refs hrefs
          have huses : ∀ t, some t ∈ refs → a.Uses id t := by
            intro t ht
            obtain ⟨u, hu, hmixins⟩ := he.mixins id s refs hs hrefs
            exact ⟨u, refs, hu, hmixins, ht⟩
          obtain ⟨hwalk, hbrings⟩ := descends_expandMixins ih id s refs huses
            { e with done := id :: e.done } {} he (fun _ _ h => by simp at h)
          split
          · exact hwalk
          · refine ⟨fun x t refs' ht hm => ?_, fun x name i hi => ?_⟩
            · rw [shape?_insert] at ht
              split at ht
              · cases ht
                cases hm
              · exact hwalk.mixins x t refs' ht hm
            · rw [position?_insert] at hi
              split at hi
              · rename_i hx
                subst hx
                exact hbrings.finish he hs hi
              · exact hwalk.members x name i hi

theorem descends_expandEach (depth : Nat) (ids : List String) (e : Expansion)
    (he : a.Descends e.assembly) : a.Descends (Expansion.expandEach depth ids e).assembly := by
  induction ids generalizing e with
  | nil => exact he
  | cons id rest ih =>
    have hstep := descends_expand depth e id he
    rw [Expansion.expandEach]
    split
    · exact hstep
    · exact ih _ hstep

/-- **Where members come from** once mixins are settled, be it that they go in circles. -/
theorem descends_expandAll (a : Assembly) : a.Descends a.expandAll.assembly :=
  descends_expandEach _ _ _ (.refl a)

/-- **Shapes that have a member in common** have it under the same name, from one shape that declares
it and that both reach through mixins. -/
theorem Descends.of_shares (h : a.Descends b) (ha : a.Apart) (hs : b.Shares id name id' name') :
    name = name' ∧ ∃ source, (a.position? source name).isSome = true ∧
      ReflTransGen a.Uses id source ∧ ReflTransGen a.Uses id' source := by
  obtain ⟨i, hi, hi'⟩ := hs
  obtain ⟨source, hsource, hpath⟩ := h.members id name i hi
  obtain ⟨source', hsource', hpath'⟩ := h.members id' name' i hi'
  obtain ⟨rfl, rfl⟩ := ha source source' name name' i hsource hsource'
  exact ⟨rfl, source, by rw [hsource]; rfl, hpath, hpath'⟩

/-! ## Applying traits to a member -/

/-- An id and a name without the mark between them are told apart. -/
theorem splitTarget_withMember {id name : String} (hid : '$' ∉ id.toList) (hname : '$' ∉ name.toList) :
    splitTarget (id ++ "$" ++ name) = (id, name) := by
  have hlist : (id ++ "$" ++ name).toList = id.toList ++ '$' :: name.toList := by simp
  rw [splitTarget, Text.split, hlist, List.splitOn_append_cons_self_of_not_mem hid,
    List.splitOn_eq_singleton hname]
  simp

theorem member?_eq (a : Assembly) (s : ShapeDef Nat) (name : String) :
    a.member? s name = (s.position? name).bind fun i => (a.cell? i).map fun c => (i, c) := by
  rw [member?, ShapeDef.position?, ShapeDef.member?]
  cases s.members with
  | none => rfl
  | some members =>
    simp only [Option.bind_eq_bind, Option.bind_some, Option.pure_def]
    cases members.get? name with
    | none => rfl
    | some m =>
      cases m with
      | none => rfl
      | some i =>
        simp only [Option.bind_some, Option.join_some]
        cases a.cell? i <;> rfl

/-- A member with traits added to its own. -/
def addTo (traits : Option Traits) (c : MemberDef) : MemberDef :=
  { c with traits := some (addTraits c.traits traits) }

/-- **Applying traits to a member** changes its cell, and nothing else. -/
theorem apply_of_splitTarget {target : String} {i : Nat} {c : MemberDef} (traits : Option Traits)
    (ht : splitTarget target = (id, name)) (hname : name ≠ "") (hi : a.position? id name = some i)
    (hc : a.cell? i = some c) :
    a.apply target traits = { assembly := { a with cells := a.cells.set i (addTo traits c) } } := by
  obtain ⟨s, hs, hposition⟩ := Option.bind_eq_some_iff.1 hi
  have hm : a.member? s name = some (i, c) := by
    rw [member?_eq, hposition, Option.bind_some, hc]
    rfl
  rw [apply, ht]
  simp only [hs, beq_eq_false_iff_ne.2 hname, Bool.false_eq_true, if_false, hm]
  rfl

/-- **Where a change shows**: at the members of other shapes that are the same one. -/
theorem memberAt?_set {i : Nat} {c : MemberDef} {traits : Option Traits}
    (hi : a.position? id name = some i) (hc : a.cell? i = some c) (id' name' : String) :
    let b := { a with cells := a.cells.set i (addTo traits c) }
    (a.Shares id' name' id name → b.memberAt? id' name' = (a.memberAt? id' name').map (addTo traits)) ∧
      (¬ a.Shares id' name' id name → b.memberAt? id' name' = a.memberAt? id' name') := by
  intro b
  have hlt : i < a.cells.length := (List.getElem?_eq_some_iff.1 hc).1
  have hposition : b.position? id' name' = a.position? id' name' := rfl
  have hcell (j : Nat) : b.cell? j = if i = j then some (addTo traits c) else a.cell? j := by
    rw [cell?, List.getElem?_set]
    split <;> rfl
  constructor
  · rintro ⟨j, hj, hj'⟩
    obtain rfl : i = j := Option.some.inj (hi.symm.trans hj')
    rw [memberAt?, memberAt?, hposition, hj, Option.bind_some, Option.bind_some, hcell, if_pos rfl, hc]
    rfl
  · intro hnot
    rw [memberAt?, memberAt?, hposition]
    cases hj : a.position? id' name' with
    | none => rfl
    | some j =>
      rw [Option.bind_some, Option.bind_some, hcell, if_neg]
      rintro rfl
      exact hnot ⟨i, hj, hi⟩

/-- Some traits are not there yet. -/
theorem exists_addTo_ne (c : MemberDef) : ∃ traits, addTo traits c ≠ c := by
  by_contra hall
  push Not at hall
  -- A trait cannot have two values at once.
  have hvalue (v : Json) : Traits.get? (c.traits.getD {}) Trait.documentation = some ⟨v⟩ := by
    let one : Traits := OrderedMap.insert {} Trait.documentation (some ⟨v⟩)
    have htraits : some (addTraits c.traits (some one)) = c.traits :=
      congrArg MemberDef.traits (hall (some one))
    rw [← htraits, Option.getD_some]
    exact Traits.get?_addAll_entries _ (OrderedMap.coherent_empty.insert _ _) _
  have hsame := (hvalue .null).symm.trans (hvalue (.bool true))
  cases hsame

/-! ## Sources -/

/-- A shape has something under a name, of its own or through mixins. -/
def Offers (a : Assembly) (id name : String) : Prop :=
  ∃ source s, ReflTransGen a.Uses id source ∧ a.shape? source = some s ∧
    (s.member? name).isSome = true

/-- The shape that declares what another one has under a name: itself, or else the source of the
first mixin that offers the name. -/
inductive Source (a : Assembly) (name : String) : String → String → Prop
  | own {id : String} {s : ShapeDef Nat} (h : a.shape? id = some s)
      (hm : (s.member? name).isSome = true) : Source a name id id
  | mixin {id target source : String} {s : ShapeDef Nat} {front back : List String}
      (h : a.shape? id = some s) (hown : s.member? name = none)
      (hmixins : s.mixins = some ((front ++ target :: back).map some))
      (hfirst : ∀ t ∈ front, ¬ a.Offers t name) (hs : Source a name target source) :
      Source a name id source

theorem offers_iff {s : ShapeDef Nat} (hs : a.shape? id = some s) :
    a.Offers id name ↔ (s.member? name).isSome = true ∨ ∃ t, a.Uses id t ∧ a.Offers t name := by
  constructor
  · rintro ⟨source, t, hpath, ht, hm⟩
    rcases ReflTransGen.cases_head hpath with rfl | ⟨x, hx, hrest⟩
    · obtain rfl := Option.some.inj (hs.symm.trans ht)
      exact .inl hm
    · exact .inr ⟨x, hx, source, t, hrest, ht, hm⟩
  · rintro (hm | ⟨t, ht, source, u, hpath, hu, hm⟩)
    · exact ⟨id, s, .refl, hs, hm⟩
    · exact ⟨source, u, .head ht hpath, hu, hm⟩

theorem uses_iff_mem {s : ShapeDef Nat} {targets : List String} (hs : a.shape? id = some s)
    (hm : s.mixins = some (targets.map some)) (t : String) : a.Uses id t ↔ t ∈ targets := by
  constructor
  · rintro ⟨u, refs, hu, hrefs, ht⟩
    obtain rfl := Option.some.inj (hs.symm.trans hu)
    obtain rfl := Option.some.inj (hm.symm.trans hrefs)
    simpa using ht
  · exact fun ht => ⟨s, _, hs, hm, List.mem_map_of_mem ht⟩

/-- A shape is the source of what it has itself. -/
theorem Source.eq_of_own {source : String} {s : ShapeDef Nat} (h : a.Source name id source)
    (hs : a.shape? id = some s) (hm : (s.member? name).isSome = true) : source = id := by
  cases h with
  | own => rfl
  | mixin hs' hown =>
    obtain rfl := Option.some.inj (hs.symm.trans hs')
    rw [hown] at hm
    cases hm

/-- What a shape does not have itself comes from the first mixin that offers it. -/
theorem Source.exists_mixin {source : String} {s : ShapeDef Nat} (h : a.Source name id source)
    (hs : a.shape? id = some s) (hown : s.member? name = none) :
    ∃ front target back, s.mixins = some ((front ++ target :: back).map some) ∧
      (∀ t ∈ front, ¬ a.Offers t name) ∧ a.Source name target source := by
  cases h with
  | own hs' hm =>
    obtain rfl := Option.some.inj (hs.symm.trans hs')
    rw [hown] at hm
    cases hm
  | mixin hs' _ hmixins hfirst htarget =>
    obtain rfl := Option.some.inj (hs.symm.trans hs')
    exact ⟨_, _, _, hmixins, hfirst, htarget⟩

theorem Source.offers {source : String} (h : a.Source name id source) : a.Offers id name := by
  induction h with
  | own h hm => exact (offers_iff h).2 (.inl hm)
  | mixin h _ hmixins _ _ ih => exact (offers_iff h).2 (.inr ⟨_, ⟨_, _, h, hmixins, by simp⟩, ih⟩)

/-- The source of what a shape has under a name has this member there. -/
def Supplies (a : Assembly) (id name : String) (m : Option Nat) : Prop :=
  ∃ source s, a.Source name id source ∧ a.shape? source = some s ∧ s.member? name = some m

theorem supplies_iff_own {s : ShapeDef Nat} {m m' : Option Nat} (hs : a.shape? id = some s)
    (hown : s.member? name = some m) : a.Supplies id name m' ↔ m = m' := by
  have hsome : (s.member? name).isSome = true := by
    rw [hown]
    rfl
  constructor
  · rintro ⟨source, t, hsource, ht, hm⟩
    obtain rfl := hsource.eq_of_own hs hsome
    obtain rfl := Option.some.inj (hs.symm.trans ht)
    exact Option.some.inj (hown.symm.trans hm)
  · rintro rfl
    exact ⟨id, s, .own hs hsome, hs, hown⟩

theorem supplies_iff_mixin {s : ShapeDef Nat} {m : Option Nat} (hs : a.shape? id = some s)
    (hown : s.member? name = none) : a.Supplies id name m ↔
      ∃ front target back, s.mixins = some ((front ++ target :: back).map some) ∧
        (∀ t ∈ front, ¬ a.Offers t name) ∧ a.Supplies target name m := by
  constructor
  · rintro ⟨source, t, hsource, ht, hm⟩
    obtain ⟨front, target, back, hmixins, hfirst, htarget⟩ := hsource.exists_mixin hs hown
    exact ⟨front, target, back, hmixins, hfirst, source, t, htarget, ht, hm⟩
  · rintro ⟨front, target, back, hmixins, hfirst, source, t, htarget, ht, hm⟩
    exact ⟨source, t, .mixin hs hown hmixins hfirst htarget, ht, hm⟩

/-- Some mixin has something under a name, told by what each of them has. -/
theorem isSome_findSome?_member?_iff {targets : List String} {ms : List (ShapeDef Nat)}
    {offers : String → Prop} {has : String → Option Nat → Prop}
    (h : List.Forall₂ (fun t e => ((e.member? name).isSome = true ↔ offers t) ∧
      ∀ m, e.member? name = some m ↔ has t m) targets ms) :
    (ms.findSome? (·.member? name)).isSome = true ↔ ∃ t ∈ targets, offers t := by
  rw [List.findSome?_isSome_iff]
  induction h with
  | nil => simp
  | cons ht _ ih => simp [ht.1, ih]

/-- The first mixin that has something under a name, told by what each of them has. -/
theorem findSome?_member?_eq_some_iff {targets : List String} {ms : List (ShapeDef Nat)}
    {offers : String → Prop} {has : String → Option Nat → Prop} {m : Option Nat}
    (h : List.Forall₂ (fun t e => ((e.member? name).isSome = true ↔ offers t) ∧
      ∀ m, e.member? name = some m ↔ has t m) targets ms) :
    ms.findSome? (·.member? name) = some m ↔ ∃ front t back, targets = front ++ t :: back ∧
      (∀ x ∈ front, ¬ offers x) ∧ has t m := by
  induction h with
  | nil => simp
  | @cons t e targets ms ht _ ih =>
    rw [List.findSome?_cons]
    cases he : e.member? name with
    | some m' =>
      have hoffers : offers t := ht.1.1 (by rw [he]; rfl)
      simp only [Option.some_inj]
      constructor
      · rintro rfl
        exact ⟨[], t, targets, rfl, by simp, (ht.2 _).1 he⟩
      · rintro ⟨front, x, back, heq, hfirst, hx⟩
        cases front with
        | nil =>
          obtain ⟨rfl, -⟩ := List.cons.inj heq
          exact Option.some.inj (he.symm.trans ((ht.2 m).2 hx))
        | cons y front =>
          obtain ⟨rfl, -⟩ := List.cons.inj heq
          exact absurd hoffers (hfirst _ (by simp))
    | none =>
      have hnot : ¬ offers t := fun ho => by
        have hsome := ht.1.2 ho
        rw [he] at hsome
        cases hsome
      rw [ih]
      constructor
      · rintro ⟨front, x, back, rfl, hfirst, hx⟩
        exact ⟨t :: front, x, back, rfl, List.forall_mem_cons.2 ⟨hnot, hfirst⟩, hx⟩
      · rintro ⟨front, x, back, heq, hfirst, hx⟩
        cases front with
        | nil =>
          obtain ⟨rfl, -⟩ := List.cons.inj heq
          have hsome := (ht.2 m).2 hx
          rw [he] at hsome
          cases hsome
        | cons y front =>
          obtain ⟨-, rfl⟩ := List.cons.inj heq
          exact ⟨front, x, back, rfl, fun z hz => hfirst z (List.mem_cons_of_mem _ hz), hx⟩

/-- What a shape stands for has a member under a name where the shape offers one, and it is that of
the source. -/
theorem Expands.member?_spec (hc : a.Coherent) {e : ShapeDef Nat} (h : a.Expands id e) :
    ((e.member? name).isSome = true ↔ a.Offers id name) ∧
      ∀ m, e.member? name = some m ↔ a.Supplies id name m := by
  induction h with
  | @plain id s hs hm =>
    have hnot (t : String) : ¬ a.Uses id t := by
      rintro ⟨u, refs, hu, hrefs, -⟩
      obtain rfl := Option.some.inj (hs.symm.trans hu)
      rw [hm] at hrefs
      cases hrefs
    refine ⟨by simp [offers_iff hs, hnot], fun m => ?_⟩
    cases hown : s.member? name with
    | some m' => rw [Option.some_inj, supplies_iff_own hs hown]
    | none => simp [supplies_iff_mixin hs hown, hm]
  | @mixed id s targets ms hs hm hlen hms ih =>
    have hall := List.forall₂_iff_zip.2 ⟨hlen, fun {t e} hte => ih t e hte⟩
    have hcoherent : ∀ m ∈ ms, m.Coherent := by
      intro m hmem
      obtain ⟨i, hi, rfl⟩ := List.mem_iff_getElem.1 hmem
      exact (hms _ _ (getElem_mem_zip hlen hi)).coherent hc
    have hmember := ShapeDef.member?_mixed (hc.each id s hs) hcoherent name
    constructor
    · rw [hmember, ShapeDef.mixedMember?, Option.isSome_or, Bool.or_eq_true,
        isSome_findSome?_member?_iff hall, offers_iff hs]
      simp only [uses_iff_mem hs hm]
    · intro m
      rw [hmember, ShapeDef.mixedMember?]
      cases hown : s.member? name with
      | some m' => rw [Option.some_or, Option.some_inj, supplies_iff_own hs hown]
      | none =>
        rw [Option.none_or, findSome?_member?_eq_some_iff hall, supplies_iff_mixin hs hown, hm]
        simp only [Option.some_inj, (List.map_injective_iff.2 (Option.some_injective _)).eq_iff]

theorem Source.unique {source source' : String} (h : a.Source name id source)
    (h' : a.Source name id source') : source = source' := by
  induction h with
  | own hs hm => exact (h'.eq_of_own hs hm).symm
  | @mixin id target source s front back hs hown hmixins hfirst htarget ih =>
    obtain ⟨front', target', back', hmixins', hfirst', htarget'⟩ := h'.exists_mixin hs hown
    have htargets := List.map_injective_iff.2 (Option.some_injective _)
      (Option.some.inj (hmixins.symm.trans hmixins'))
    -- Neither of the two mixins can stand before the other, as both offer the name.
    rcases List.append_eq_append_iff.1 htargets with ⟨mid, hfront, hback⟩ | ⟨mid, hfront, hback⟩
    · cases mid with
      | nil =>
        obtain ⟨rfl, -⟩ := List.cons.inj hback
        exact ih htarget'
      | cons x mid =>
        obtain ⟨rfl, -⟩ := List.cons.inj hback
        exact absurd htarget.offers (hfirst' _ (by simp [hfront]))
    · cases mid with
      | nil =>
        obtain ⟨rfl, -⟩ := List.cons.inj hback
        exact ih htarget'
      | cons x mid =>
        obtain ⟨rfl, -⟩ := List.cons.inj hback
        exact absurd htarget'.offers (hfirst _ (by simp [hfront]))

theorem Source.exists_shape {source : String} (h : a.Source name id source) :
    ∃ s, a.shape? id = some s := by
  cases h with
  | own h _ => exact ⟨_, h⟩
  | mixin h _ _ _ _ => exact ⟨_, h⟩

/-- **Once mixins are settled** a shape has the member of its source. -/
theorem position?_expandAll_eq_some_iff (hc : a.Coherent) (hn : a.NonNull) (hac : a.Acyclic)
    (h : a.expandAll.failure = none) (i : Nat) :
    a.expandAll.assembly.position? id name = some i ↔
      ∃ source, a.Source name id source ∧ a.position? source name = some i := by
  have hiff := shape?_expandAll_eq_some_iff hc hn hac h id
  constructor
  · intro hi
    obtain ⟨e, he, hposition⟩ := Option.bind_eq_some_iff.1 hi
    have hmember : e.member? name = some (some i) := Option.join_eq_some_iff.1 hposition
    obtain ⟨source, s, hsource, hs, hm⟩ := ((((hiff e).1 he).member?_spec hc).2 _).1 hmember
    exact ⟨source, hsource, by simp [position?, hs, ShapeDef.position?, hm]⟩
  · rintro ⟨source, hsource, hi⟩
    obtain ⟨s, hs, hposition⟩ := Option.bind_eq_some_iff.1 hi
    have hmember : s.member? name = some (some i) := Option.join_eq_some_iff.1 hposition
    obtain ⟨t, ht⟩ := hsource.exists_shape
    obtain ⟨e, he, -⟩ := ((expandAll_spec hc hn hac).1 h).settled id (hc.listed id t ht) (by simp)
    have hm := ((he.member?_spec hc).2 _).2 ⟨source, s, hsource, hs, hmember⟩
    simp [position?, (hiff e).2 he, ShapeDef.position?, hm]

/-! ## The whole way from documents -/

/-- Nothing has changed but the member of one shape. -/
def Framed (a b : Assembly) (id name : String) : Prop :=
  b.shapes = a.shapes ∧
    ∀ id' name', ¬ (id' = id ∧ name' = name) → b.memberAt? id' name' = a.memberAt? id' name'

/-- A change of a member stays within its shape exactly if no other shape has the member. -/
theorem framed_apply_iff {i : Nat} {c : MemberDef} (hi : a.position? id name = some i)
    (hc : a.cell? i = some c)
    (happly : ∀ traits, a.apply (id ++ "$" ++ name) traits =
      { assembly := { a with cells := a.cells.set i (addTo traits c) } })
    (hsame : ∀ id' name', a.Shares id' name' id name → name' = name) :
    (∀ traits, a.Framed (a.apply (id ++ "$" ++ name) traits).assembly id name) ↔
      ∀ id', a.Shares id' name id name → id' = id := by
  constructor
  · intro hframed id' hs
    by_contra hne
    obtain ⟨traits, hchange⟩ := exists_addTo_ne c
    have hkept := (hframed traits).2 id' name fun h => hne h.1
    obtain ⟨j, hj, hj'⟩ := hs
    obtain rfl : i = j := Option.some.inj (hi.symm.trans hj')
    have hother : a.memberAt? id' name = some c := by rw [memberAt?, hj]; exact hc
    rw [happly traits, (memberAt?_set hi hc id' name).1 ⟨i, hj, hi⟩, hother] at hkept
    exact hchange (Option.some.inj hkept)
  · intro hnone traits
    rw [happly traits]
    refine ⟨rfl, fun id' name' hother => ?_⟩
    refine (memberAt?_set hi hc id' name').2 fun hs => hother ?_
    obtain rfl := hsame id' name' hs
    exact ⟨hnone id' hs, rfl⟩

/-- Once mixins are settled, the shapes that share a member have it from one source. -/
theorem shares_iff_source {i : Nat} (happart : a.Apart) (hcoherent : a.Coherent) (hn : a.NonNull)
    (hac : a.Acyclic) (h : a.expandAll.failure = none)
    (hi : a.expandAll.assembly.position? id name = some i) (id' : String) :
    a.expandAll.assembly.Shares id' name id name ↔
      ∃ source, a.Source name id' source ∧ a.Source name id source := by
  have hiff (x : String) (j : Nat) : a.expandAll.assembly.position? x name = some j ↔
      ∃ source, a.Source name x source ∧ a.position? source name = some j :=
    position?_expandAll_eq_some_iff hcoherent hn hac h j
  constructor
  · rintro ⟨j, hj, hj'⟩
    obtain ⟨source, hsource, hat⟩ := (hiff id' j).1 hj
    obtain ⟨source', hsource', hat'⟩ := (hiff id j).1 hj'
    obtain ⟨rfl, -⟩ := happart source source' name name j hat hat'
    exact ⟨source, hsource, hsource'⟩
  · rintro ⟨source, hsource, hsource'⟩
    obtain ⟨source'', hsource'', hat⟩ := (hiff id i).1 hi
    obtain rfl := hsource'.unique hsource''
    exact ⟨i, (hiff id' i).2 ⟨source, hsource, hat⟩, hi⟩

/-- **Traits that are applied to a member** after documents are gathered and mixins are settled.

They are added to the member and show wherever else it is: in shapes that have it under the same name,
from the shape that declares it.  Whatever is no such member stays as it is.  So the change is framed
by the one shape exactly if no other shape shares the member, and where mixins do not go in circles
those that share it are told by where they have it from. -/
theorem apply_expanded {docs : List Document} {c : MemberDef}
    (hdocs : ∀ d ∈ docs, ∃ text, Document.parse text = .ok d)
    (ha : (Update.forEach merge docs {}).assembly = a) (hb : a.expandAll = { assembly := b })
    (hid : '$' ∉ id.toList) (hmark : '$' ∉ name.toList) (hname : name ≠ "")
    (hmember : b.memberAt? id name = some c) :
    (∀ traits, ∃ b', b.apply (id ++ "$" ++ name) traits = { assembly := b' } ∧
      b'.shapes = b.shapes ∧ ∀ id' name',
        (b.Shares id' name' id name →
          b'.memberAt? id' name' = (b.memberAt? id' name').map (addTo traits)) ∧
        (¬ b.Shares id' name' id name → b'.memberAt? id' name' = b.memberAt? id' name')) ∧
    (∀ id' name', b.Shares id' name' id name → name' = name ∧
      ∃ source, (a.position? source name).isSome = true ∧
        ReflTransGen a.Uses id' source ∧ ReflTransGen a.Uses id source) ∧
    ((∀ traits, b.Framed (b.apply (id ++ "$" ++ name) traits).assembly id name) ↔
      ∀ id', b.Shares id' name id name → id' = id) ∧
    (a.NonNull → a.Acyclic → ∀ id', b.Shares id' name id name ↔
      ∃ source, a.Source name id' source ∧ a.Source name id source) := by
  have hexpanded : a.expandAll.assembly = b := congrArg Update.assembly hb
  have happart : a.Apart := ha ▸ apart_gathered docs
  have hdescends : a.Descends b := hexpanded ▸ descends_expandAll a
  obtain ⟨i, hi, hc⟩ := Option.bind_eq_some_iff.1 hmember
  have happly (traits : Option Traits) :=
    apply_of_splitTarget traits (splitTarget_withMember hid hmark) hname hi hc
  have hshares (id' name' : String) (hs : b.Shares id' name' id name) : name' = name ∧
      ∃ source, (a.position? source name).isSome = true ∧
        ReflTransGen a.Uses id' source ∧ ReflTransGen a.Uses id source := by
    obtain ⟨rfl, hsource⟩ := hdescends.of_shares happart hs
    exact ⟨rfl, hsource⟩
  refine ⟨fun traits => ⟨_, happly traits, rfl, memberAt?_set hi hc⟩, hshares,
    framed_apply_iff hi hc happly fun id' name' hs => (hshares id' name' hs).1, fun hn hac id' => ?_⟩
  subst hexpanded
  exact shares_iff_source happart (ha ▸ (coherent_gathered hdocs).2) hn hac
    (congrArg Update.failure hb) hi id'

/-- A structure that takes its only member over from a mixin. -/
def lent : Document :=
  { version := "2.0", shapes := some (OrderedMap.ofFields [
      ("ex#M", some { type := "structure"
                      members := some (OrderedMap.ofFields [("a", some { target := "String" })]) }),
      ("ex#S", some { type := "structure", mixins := some [some "ex#M"] })]) }

theorem parse_lent : ∃ text, Document.parse text = .ok lent :=
  Document.exists_parse [(.version, .string "2.0"), (.shapes, .object
    [("ex#M", .object [("type", .string "structure"),
      ("members", .object [("a", .object [("target", .string "String")])])]),
      ("ex#S", .object [("type", .string "structure"),
        ("mixins", .array [.object [("target", .string "ex#M")]])])])]
    (by decide) rfl (by decide)

/-- The assembly of that document, its mixins settled. -/
def lentExpanded : Assembly := (Update.forEach merge [lent] {}).assembly.expandAll.assembly

theorem expandAll_lent :
    (Update.forEach merge [lent] {}).assembly.expandAll = { assembly := lentExpanded } := by
  have hok : (Update.forEach merge [lent] {}).assembly.expandAll.failure = none :=
    Option.isNone_iff_eq_none.1 (by decide +kernel)
  exact congrArg (fun failure => ({ assembly := lentExpanded, failure } : Update)) hok

theorem memberAt?_lent : lentExpanded.memberAt? "ex#S" "a" = some { target := "String" } := by
  have hmember : (lentExpanded.memberAt? "ex#S" "a").map (fun m => (m.target, m.traits.isNone)) =
      some ("String", true) := by decide +kernel
  obtain ⟨⟨target, traits⟩, hget, hm⟩ := Option.map_eq_some_iff.1 hmember
  obtain ⟨rfl, htraits⟩ := Prod.mk.inj hm
  obtain rfl := Option.isNone_iff_eq_none.1 htraits
  exact hget

/-- **A change leaks**: applied to the member of the structure, traits show in the mixin. -/
theorem not_framed_lent :
    let more : Traits := OrderedMap.insert {} Trait.required (some ⟨.object []⟩)
    (Update.forEach merge [lent] {}).assembly.expandAll.failure = none ∧
      (lentExpanded.apply ("ex#S" ++ "$" ++ "a") (some more)).failure = none ∧
      ¬ lentExpanded.Framed
        (lentExpanded.apply ("ex#S" ++ "$" ++ "a") (some more)).assembly "ex#S" "a" := by
  refine ⟨congrArg Update.failure expandAll_lent, Option.isNone_iff_eq_none.1 (by decide +kernel),
    fun h => ?_⟩
  have hsame := congrArg (Option.map fun c => c.traits.isSome) (h.2 "ex#M" "a" (by decide))
  have hbefore : (lentExpanded.memberAt? "ex#M" "a").map (fun c => c.traits.isSome)
      = some false := by decide +kernel
  have hafter : ((lentExpanded.apply ("ex#S" ++ "$" ++ "a") (some (OrderedMap.insert {}
      Trait.required (some ⟨.object []⟩)))).assembly.memberAt? "ex#M" "a").map
      (fun c => c.traits.isSome) = some true := by decide +kernel
  rw [hbefore, hafter] at hsame
  cases hsame

theorem apply_expanded_lent :
    ((∀ d ∈ [lent], ∃ text, Document.parse text = .ok d) ∧
      (Update.forEach merge [lent] {}).assembly.expandAll = { assembly := lentExpanded } ∧
      ('$' ∉ "ex#S".toList ∧ '$' ∉ "a".toList ∧ "a" ≠ "") ∧
      lentExpanded.memberAt? "ex#S" "a" = some { target := "String" }) ∧
    ∃ traits, ¬ lentExpanded.Framed
      (lentExpanded.apply ("ex#S" ++ "$" ++ "a") traits).assembly "ex#S" "a" := by
  have hparse : ∀ d ∈ [lent], ∃ text, Document.parse text = .ok d :=
    List.forall_mem_singleton.2 parse_lent
  have hid : '$' ∉ "ex#S".toList := by decide
  have hmark : '$' ∉ "a".toList := by decide
  obtain ⟨-, -, hframed, -⟩ :=
    apply_expanded hparse rfl expandAll_lent hid hmark (by decide) memberAt?_lent
  refine ⟨⟨hparse, expandAll_lent, ⟨hid, hmark, by decide⟩, memberAt?_lent⟩, ?_⟩
  by_contra hall
  push Not at hall
  have hmixin : lentExpanded.position? "ex#M" "a" = some 0 := by decide +kernel
  have huser : lentExpanded.position? "ex#S" "a" = some 0 := by decide +kernel
  have hshares : lentExpanded.Shares "ex#M" "a" "ex#S" "a" := ⟨0, hmixin, huser⟩
  exact absurd (hframed.1 hall "ex#M" hshares) (by decide)

end Assembly
end Shapewright
