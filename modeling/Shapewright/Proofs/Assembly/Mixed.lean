import Shapewright.Assembly.Mixin
import Shapewright.Proofs.Assembly.Shapes

/-!
# What a shape has once its mixins are settled

`ShapeDef.mixed s ms` is the shape `s` with what it takes over from the shapes `ms`, said without
any order of steps: which names it has, and where the member or trait of each name comes from.

* Members come from the shape itself, and otherwise from the *first* mixin that has one of the name.
* Traits come from the shape itself, and otherwise from the *last* mixin that has one, unless the
  trait is not handed on (`isInheritable`).
* The names are listed in the order of the mixins and then of the shape, each where it occurs first.

`Borrowed.finish_foldl_addMixin` says that taking over from one mixin after the other comes to that.
-/

set_option autoImplicit false

namespace Shapewright

/-- Whether a mixin hands a trait on: those that make a shape a mixin or a trait stay behind. -/
def Trait.isInheritable (id : String) : Bool := id != Trait.mixin && id != Trait.trait

namespace ShapeDef

variable {μ : Type}

/-- The names of the members of a shape and its mixins. -/
def mixedMemberNames (s : ShapeDef μ) (ms : List (ShapeDef μ)) : List String :=
  Text.firstBy id (ms.flatMap memberNames ++ s.memberNames)

/-- The member with a name: the shape's own one, or else that of the first mixin that has it. -/
def mixedMember? (s : ShapeDef μ) (ms : List (ShapeDef μ)) (name : String) : Option (Option μ) :=
  (s.member? name).or (ms.findSome? (·.member? name))

/-- The ids of the traits of a shape, and of its mixins if they are handed on. -/
def mixedTraitNames (s : ShapeDef μ) (ms : List (ShapeDef μ)) : List String :=
  Text.firstBy id (ms.flatMap (fun m => m.traitNames.filter Trait.isInheritable) ++ s.traitNames)

/-- The value of a trait: the shape's own one, or else that of the last mixin that hands it on. -/
def mixedTrait? (s : ShapeDef μ) (ms : List (ShapeDef μ)) (id : String) : Option Node :=
  (s.trait? id).or
    (if Trait.isInheritable id then ms.reverse.findSome? (·.trait? id) else none)

/-- The shape with what it takes over from mixins. Where there are no members at all, the field for
them stays as it is. -/
def mixed (s : ShapeDef μ) (ms : List (ShapeDef μ)) : ShapeDef μ :=
  { s with
    members := if s.mixedMemberNames ms = [] then s.members
      else some (.tabulate (s.mixedMemberNames ms) (s.mixedMember? ms))
    traits := some (.tabulate (s.mixedTraitNames ms) fun id => (s.mixedTrait? ms id).map some)
    mixins := none }

end ShapeDef

namespace Borrowed

/-! ## One mixin after the other -/

theorem members_addMixin (b : Borrowed) (m : ShapeDef Nat) :
    (b.addMixin m).members = b.members.insertNew m.memberEntries := rfl

theorem traits_addMixin (b : Borrowed) (m : ShapeDef Nat) :
    (b.addMixin m).traits = b.traits.insertAll
      ((m.traitEntries.filter fun e => Trait.isInheritable e.1).map fun e => (e.1, some e.2)) :=
  Traits.addAll_eq_insertAll _ _

theorem members_addOwn (b : Borrowed) (s : ShapeDef Nat) :
    (b.addOwn s).members = b.members.insertAll s.memberEntries := rfl

theorem traits_addOwn (b : Borrowed) (s : ShapeDef Nat) :
    (b.addOwn s).traits = b.traits.insertAll (s.traitEntries.map fun e => (e.1, some e.2)) :=
  Traits.addAll_eq_insertAll _ _

/-- What has been taken over from some mixins: which members, in which order, and which traits. -/
structure From (ms : List (ShapeDef Nat)) (b : Borrowed) : Prop where
  tidyMembers : b.members.Tidy
  memberNames : b.members.keys = Text.firstBy id (ms.flatMap ShapeDef.memberNames)
  member : ∀ name, b.members.get? name = ms.findSome? (·.member? name)
  tidyTraits : OrderedMap.Tidy b.traits
  traitNames : b.traits.keys
    = Text.firstBy id (ms.flatMap fun m => m.traitNames.filter Trait.isInheritable)
  trait : ∀ id, OrderedMap.get? b.traits id
    = (if Trait.isInheritable id then ms.reverse.findSome? (·.trait? id) else none).map some

theorem from_nil : From [] {} := by
  refine ⟨OrderedMap.tidy_empty, rfl, fun _ => rfl, OrderedMap.tidy_empty, rfl, fun id => ?_⟩
  simp

theorem From.addMixin {ms : List (ShapeDef Nat)} {b : Borrowed} {m : ShapeDef Nat}
    (h : From ms b) (hm : m.Coherent) : From (ms ++ [m]) (b.addMixin m) := by
  have hlists := ((hm.lists_traits.filter Trait.isInheritable).map (some : Node → Option Node))
  obtain ⟨htidy, hkeys⟩ := h.tidyMembers.insertNew m.memberEntries
  obtain ⟨httidy, htkeys⟩ := h.tidyTraits.insertAll
    ((m.traitEntries.filter fun e => Trait.isInheritable e.1).map fun e => (e.1, some e.2))
  refine ⟨htidy, ?_, fun name => ?_, ?_, ?_, fun id => ?_⟩
  · rw [members_addMixin, hkeys, h.memberNames, Text.firstBy_id_append_left,
      hm.map_fst_members, List.flatMap_append, List.flatMap_singleton]
  · rw [members_addMixin, OrderedMap.get?_insertNew_of_lists _ hm.lists_members, h.member,
      List.findSome?_append, List.findSome?_singleton]
  · rw [traits_addMixin]
    exact httidy
  · have hfst : ((m.traitEntries.filter fun e => Trait.isInheritable e.1).map
        fun e => (e.1, some e.2)).map (·.1) = m.traitNames.filter Trait.isInheritable := by
      rw [← hm.map_fst_traits, List.filter_map, List.map_map]
      rfl
    rw [traits_addMixin, htkeys, h.traitNames, Text.firstBy_id_append_left, hfst,
      List.flatMap_append, List.flatMap_singleton]
  · rw [traits_addMixin, OrderedMap.get?_insertAll_of_lists _ hlists, h.trait,
      List.reverse_append, List.reverse_singleton, List.singleton_append, List.findSome?_cons]
    by_cases hid : Trait.isInheritable id = true
    · rw [if_pos hid, if_pos hid, if_pos hid]
      cases m.trait? id <;> rfl
    · rw [if_neg hid, if_neg hid, if_neg hid]
      rfl

theorem From.foldl_addMixin {ms rest : List (ShapeDef Nat)} {b : Borrowed} (h : From ms b)
    (hrest : ∀ m ∈ rest, m.Coherent) : From (ms ++ rest) (rest.foldl Borrowed.addMixin b) := by
  induction rest generalizing ms b with
  | nil => simpa using h
  | cons m rest ih =>
    have hstep := h.addMixin (hrest m (by simp))
    simpa using ih hstep fun m' hm' => hrest m' (List.mem_cons_of_mem _ hm')

/-! ## The shape itself -/

theorem From.members_addOwn {ms : List (ShapeDef Nat)} {b : Borrowed} {s : ShapeDef Nat}
    (h : From ms b) (hs : s.Coherent) :
    (b.addOwn s).members = .tabulate (s.mixedMemberNames ms) (s.mixedMember? ms) := by
  obtain ⟨htidy, hkeys⟩ := h.tidyMembers.insertAll s.memberEntries
  rw [Borrowed.members_addOwn]
  refine htidy.eq_tabulate ?_ fun name => ?_
  · rw [hkeys, h.memberNames, Text.firstBy_id_append_left, hs.map_fst_members]
    rfl
  · rw [OrderedMap.get?_insertAll_of_lists _ hs.lists_members, h.member]
    rfl

theorem From.traits_addOwn {ms : List (ShapeDef Nat)} {b : Borrowed} {s : ShapeDef Nat}
    (h : From ms b) (hs : s.Coherent) :
    (b.addOwn s).traits
      = .tabulate (s.mixedTraitNames ms) fun id => (s.mixedTrait? ms id).map some := by
  obtain ⟨htidy, hkeys⟩ := h.tidyTraits.insertAll (s.traitEntries.map fun e => (e.1, some e.2))
  rw [Borrowed.traits_addOwn]
  refine htidy.eq_tabulate ?_ fun id => ?_
  · have hfst : (s.traitEntries.map fun e => (e.1, some e.2)).map (·.1) = s.traitNames := by
      rw [List.map_map, ← hs.map_fst_traits]
      rfl
    rw [hkeys, h.traitNames, Text.firstBy_id_append_left, hfst]
    rfl
  · rw [OrderedMap.get?_insertAll_of_lists _ (hs.lists_traits.map some), h.trait,
      ShapeDef.mixedTrait?]
    cases s.trait? id <;> simp

/-- **Taking over from one mixin after the other** gives the shape its reference form. -/
theorem finish_foldl_addMixin {s : ShapeDef Nat} {ms : List (ShapeDef Nat)} (hs : s.Coherent)
    (hms : ∀ m ∈ ms, m.Coherent) : finish (ms.foldl addMixin {}) s = s.mixed ms := by
  have h : From ms (ms.foldl addMixin {}) := by simpa using from_nil.foldl_addMixin hms
  have hmembers := h.members_addOwn hs
  have hsize : ((ms.foldl addMixin {}).addOwn s).members.size = (s.mixedMemberNames ms).length :=
    congrArg OrderedMap.size hmembers
  rw [finish, hsize, hmembers, h.traits_addOwn hs, ShapeDef.mixed]
  by_cases hnil : s.mixedMemberNames ms = [] <;> simp [hnil]

end Borrowed

/-! ## The reference form is coherent -/

namespace ShapeDef

variable {μ : Type}

theorem isSome_member?_iff {s : ShapeDef μ} (h : s.Coherent) (name : String) :
    (s.member? name).isSome ↔ name ∈ s.memberNames := by
  cases hm : s.members with
  | none => simp [member?, memberNames, hm]
  | some members => simpa [member?, memberNames, hm] using (h.members _ hm name).symm

theorem isSome_trait?_iff {s : ShapeDef μ} (h : s.Coherent) (id : String) :
    (s.trait? id).isSome ↔ id ∈ s.traitNames := by
  cases ht : s.traits with
  | none => simp [trait?, traitNames, ht]
  | some t => simpa [trait?, traitNames, ht, Traits.isSome_get?] using (h.traits _ ht id).symm

theorem isSome_mixedMember?_iff {s : ShapeDef μ} {ms : List (ShapeDef μ)} (hs : s.Coherent)
    (hms : ∀ m ∈ ms, m.Coherent) (name : String) :
    (s.mixedMember? ms name).isSome ↔ name ∈ s.mixedMemberNames ms := by
  rw [mixedMember?, Option.isSome_or, Bool.or_eq_true, List.findSome?_isSome_iff,
    isSome_member?_iff hs, mixedMemberNames, Text.mem_firstBy_id, List.mem_append,
    List.mem_flatMap, or_comm]
  refine or_congr_left (exists_congr fun m => and_congr_right fun hm => ?_)
  exact isSome_member?_iff (hms m hm) name

theorem isSome_mixedTrait?_iff {s : ShapeDef μ} {ms : List (ShapeDef μ)} (hs : s.Coherent)
    (hms : ∀ m ∈ ms, m.Coherent) (id : String) :
    (s.mixedTrait? ms id).isSome ↔ id ∈ s.mixedTraitNames ms := by
  rw [mixedTrait?, Option.isSome_or, Bool.or_eq_true, isSome_trait?_iff hs, mixedTraitNames,
    Text.mem_firstBy_id, List.mem_append, List.mem_flatMap, or_comm]
  refine or_congr_left ?_
  by_cases hid : Trait.isInheritable id = true
  · rw [if_pos hid, List.findSome?_isSome_iff]
    refine exists_congr fun m => ?_
    rw [List.mem_reverse, List.mem_filter]
    exact and_congr_right fun hm => (isSome_trait?_iff (hms m hm) id).trans (by simp [hid])
  · simp [hid]

theorem Coherent.mixed {s : ShapeDef μ} {ms : List (ShapeDef μ)} (hs : s.Coherent)
    (hms : ∀ m ∈ ms, m.Coherent) : (s.mixed ms).Coherent := by
  constructor
  · intro members hmembers
    rw [ShapeDef.mixed] at hmembers
    dsimp only at hmembers
    split at hmembers
    · exact hs.members members hmembers
    · cases hmembers
      exact (OrderedMap.tidy_tabulate (Text.nodup_firstBy_id _)
        fun name => (isSome_mixedMember?_iff hs hms name).2).coherent
  · intro traits htraits
    cases htraits
    refine (OrderedMap.tidy_tabulate (Text.nodup_firstBy_id _) fun id hid => ?_).coherent
    rw [Option.isSome_map]
    exact (isSome_mixedTrait?_iff hs hms id).2 hid

/-! ## Reading the reference form -/

/-- A shape `e` has the members and traits of `s` and of the mixins `ms`: names where they occur
first, members from the first mixin and traits from the last, and its own before those. -/
structure MixesIn (e s : ShapeDef μ) (ms : List (ShapeDef μ)) : Prop where
  memberNames : e.memberNames = Text.firstBy id (ms.flatMap ShapeDef.memberNames ++ s.memberNames)
  member : ∀ name, e.member? name = (s.member? name).or (ms.findSome? (·.member? name))
  trait : ∀ id, e.trait? id = (s.trait? id).or
    (if Trait.isInheritable id then ms.reverse.findSome? (·.trait? id) else none)

theorem member?_mixed {s : ShapeDef μ} {ms : List (ShapeDef μ)} (hs : s.Coherent)
    (hms : ∀ m ∈ ms, m.Coherent) (name : String) :
    (s.mixed ms).member? name = s.mixedMember? ms name := by
  have hiff := isSome_mixedMember?_iff hs hms name
  by_cases hnil : s.mixedMemberNames ms = []
  · have hnone : s.mixedMember? ms name = none := by
      rw [← Option.not_isSome_iff_eq_none, hiff, hnil]
      simp
    have hown : s.member? name = none := (Option.or_eq_none_iff.1 hnone).1
    simpa [ShapeDef.mixed, member?, hnil, hnone] using hown
  · simp only [ShapeDef.mixed, member?, hnil, if_false, Option.bind_some, OrderedMap.get?_tabulate]
    split
    · rfl
    · rename_i hname
      exact (Option.not_isSome_iff_eq_none.1 (mt hiff.1 hname)).symm

theorem memberNames_mixed (s : ShapeDef μ) (ms : List (ShapeDef μ)) :
    (s.mixed ms).memberNames = s.mixedMemberNames ms := by
  by_cases hnil : s.mixedMemberNames ms = []
  · have hown : s.memberNames = [] := by
      rw [List.eq_nil_iff_forall_not_mem]
      intro name hname
      have hmem : name ∈ s.mixedMemberNames ms :=
        Text.mem_firstBy_id.2 (List.mem_append_right _ hname)
      rw [hnil] at hmem
      cases hmem
    rw [hnil, ← hown]
    simp [ShapeDef.mixed, memberNames, hnil]
  · simp [ShapeDef.mixed, memberNames, hnil, OrderedMap.tabulate]

theorem trait?_mixed {s : ShapeDef μ} {ms : List (ShapeDef μ)} (hs : s.Coherent)
    (hms : ∀ m ∈ ms, m.Coherent) (id : String) :
    (s.mixed ms).trait? id = s.mixedTrait? ms id := by
  have hiff := isSome_mixedTrait?_iff hs hms id
  have hget : OrderedMap.get? (OrderedMap.tabulate (s.mixedTraitNames ms)
      fun id => (s.mixedTrait? ms id).map some) id = (s.mixedTrait? ms id).map some := by
    rw [OrderedMap.get?_tabulate]
    split
    · rfl
    · rename_i hid
      rw [Option.not_isSome_iff_eq_none.1 (mt hiff.1 hid)]
      rfl
  show Traits.get? (OrderedMap.tabulate (s.mixedTraitNames ms) _) id = _
  rw [Traits.get?, hget, Option.map_map]
  exact Option.map_id_apply

theorem mixesIn_mixed {s : ShapeDef μ} {ms : List (ShapeDef μ)} (hs : s.Coherent)
    (hms : ∀ m ∈ ms, m.Coherent) : (s.mixed ms).MixesIn s ms :=
  ⟨memberNames_mixed s ms, member?_mixed hs hms, trait?_mixed hs hms⟩

end ShapeDef
end Shapewright
