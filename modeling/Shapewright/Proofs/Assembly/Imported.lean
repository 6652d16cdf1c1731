import Shapewright.Assembly.Import
import Shapewright.Proofs.Assembly.Noting
import Shapewright.Proofs.Assembly.Shapes
import Shapewright.Proofs.Failure

/-!
# What a catalog can be relied on for

A catalog that was made from an assembly is more than a list of shapes: the parts that the kind of a
shape calls for are there, every member names a target, and no reference leads nowhere.  Whoever
uses such a catalog need not look for any of this again.

* `Shape.everyMember` — the members of a shape, elements of containers included.
* `Shape.Formed` — a shape has the parts that its kind calls for.
* `Catalog.Keyed` — every shape of a catalog stands under its id; `Catalog.keyed_of_foldlM` — that
  is so however shapes are added.
* `Catalog.Imported` — what is known of the catalog of an assembly.
* `Catalog.imported_of_gives` — the payoff: whatever an assembly is made into is such a catalog.
* `Catalog.find?_of_gives` — the catalog of an assembly holds what its shapes are imported as.
* `Catalog.Loaded.formed_of_knows`, `Imported.exists_target` — how it is used: what is found is
  formed, and so is the target of each of its members.

References are settled in one pass and checked in another, when all shapes are there.  That is why
`Catalog.Loaded`, which holds of every catalog on the way, says nothing about references.
-/

set_option autoImplicit false

namespace Shapewright

/-! ## Shapes -/

namespace Shape

/-- The members of a shape and, of a container, its elements. -/
def everyMember (s : Shape) : List Member :=
  s.memberList ++ [s.item, s.key, s.value].filterMap fun m => m

/-- The parts that the kind of a shape calls for are there, and its members have targets. -/
structure Formed (s : Shape) : Prop where
  kind : s.kind ∈ Kind.all
  item : s.kind.isCollection = true → s.item.isSome = true
  value : s.kind = .map → s.value.isSome = true
  targets : ∀ m ∈ s.everyMember, m.target.isEmpty = false

/-- The targets of members come first among the references. -/
theorem references_eq (s : Shape) : s.references =
    s.everyMember.map (·.target) ++ [s.input, s.output] ++ s.errors ++ s.operations ++ s.resources := by
  simp [references, everyMember, List.map_filterMap]

theorem mem_references_of_mem {s : Shape} {m : Member} (h : m ∈ s.everyMember) :
    m.target ∈ s.references := by
  rw [references_eq]
  simp only [List.mem_append, List.append_assoc]
  exact .inl (List.mem_map_of_mem h)

theorem everyMember_of_addMember {s : Shape} {name : String} {target : ShapeId} {traits : Traits}
    {m : Member} (h : m ∈ (s.addMember name target traits).everyMember) :
    m = { name, container := s.id, target, traits } ∨ m ∈ s.everyMember := by
  rcases List.mem_append.1 h with h | h
  · exact (OrderedMap.mem_values_of_insert h).imp_right (List.mem_append_left _)
  · exact .inr (List.mem_append_right _ h)

/-- A member with a target may be added to any shape. -/
theorem Formed.addMember {s : Shape} (h : s.Formed) (name : String) {target : ShapeId}
    (traits : Traits) (ht : target.isEmpty = false) : (s.addMember name target traits).Formed where
  kind := h.kind
  item := h.item
  value := h.value
  targets := by
    intro m hm
    rcases everyMember_of_addMember hm with rfl | hm
    · exact ht
    · exact h.targets m hm

end Shape

/-- The namespace of an id that is made of two parts. -/
theorem ShapeId.namespace_make {ns : String} (h : '#' ∉ ns.toList) (name : String) :
    (make ns name).namespace_ = ns := by
  have hall : ∀ c ∈ ns.toList, (c != '#') = true := fun c hc => bne_iff_ne.2 fun heq => h (heq ▸ hc)
  have htext : (ns ++ "#" ++ name).toList = ns.toList ++ '#' :: name.toList := by simp
  have hcut : Text.cut '#' (ns ++ "#" ++ name) = some (ns, name) := by
    rw [Text.cut, htext, List.dropWhile_append_of_pos hall, List.takeWhile_append_of_pos hall]
    simp
  simp only [namespace_, make, hcut]

/-- The shapes of the prelude are in its namespace. -/
theorem Prelude.isPrelude_of_mem {s : Shape} (hs : s ∈ Prelude.shapes) : s.id.isPrelude = true := by
  have hmake (name : String) : (Prelude.id name).isPrelude = true :=
    beq_iff_eq.2 (ShapeId.namespace_make (by decide) name)
  rw [Prelude.shapes, List.mem_append, List.mem_append, List.mem_map, List.mem_map] at hs
  rcases hs with (⟨_, -, rfl⟩ | ⟨_, -, rfl⟩) | hs
  · exact hmake _
  · exact hmake _
  · rw [List.mem_singleton.1 hs]
    exact hmake _

/-- The shapes of the prelude are formed, and have no members. -/
theorem Prelude.formed : ∀ s ∈ Prelude.shapes, s.Formed ∧ s.everyMember = [] := by
  intro s hs
  have hplain : ∀ s ∈ Prelude.shapes, s.everyMember = [] ∧ s.kind ∈ Kind.all ∧
      s.kind.isCollection = false ∧ s.kind ≠ .map := by
    have hdata : ∀ s ∈ Prelude.shapes, (s.members.keys = [] ∧ s.item.isNone = true ∧
        s.key.isNone = true ∧ s.value.isNone = true) ∧ s.kind ∈ Kind.all ∧
        s.kind.isCollection = false ∧ s.kind ≠ .map := by decide
    intro s hs
    obtain ⟨⟨hmembers, hitem, hkey, hvalue⟩, hkinds⟩ := hdata s hs
    rw [Option.isNone_iff_eq_none] at hitem hkey hvalue
    refine ⟨?_, hkinds⟩
    simp [Shape.everyMember, Shape.memberList, OrderedMap.values, hmembers, hitem, hkey, hvalue]
  obtain ⟨hmembers, hkind, hitem, hvalue⟩ := hplain s hs
  refine ⟨⟨hkind, by simp [hitem], fun hk => absurd hk hvalue, ?_⟩, hmembers⟩
  simp [hmembers]

/-! ## Catalogs -/

namespace Catalog

/-- Every shape of a catalog stands under its id, and none has an id of the prelude. -/
structure Keyed (c : Catalog) : Prop where
  tidy : c.entries.Tidy
  ids : ∀ key s, c.entries.get? key = some s → s.id = ⟨key⟩
  own : ∀ s ∈ c.shapes, s.id.isPrelude = false

/-- What holds of a catalog while shapes are loaded. -/
structure Loaded (c : Catalog) : Prop where
  tidy : c.entries.Tidy
  ids : ∀ key s, c.entries.get? key = some s → s.id = ⟨key⟩
  own : ∀ s ∈ c.shapes, s.id.isPrelude = false
  formed : ∀ s ∈ c.shapes, s.Formed

/-- What holds of the catalog of an assembly. -/
structure Imported (c : Catalog) : Prop extends Loaded c where
  /-- Every reference leads somewhere. -/
  closed : ∀ s ∈ c.shapes, ∀ id ∈ s.references, id.isEmpty = false → (c.find? id).isSome = true

/-- Shapes that can be referred to: the model's own and those of the prelude. -/
def Knows (c : Catalog) (s : Shape) : Prop :=
  s ∈ c.shapes ∨ s ∈ Prelude.shapes

variable {c : Catalog} {s : Shape}

theorem keyed_empty : Keyed {} where
  tidy := OrderedMap.tidy_empty
  ids := by simp
  own := by simp [shapes, OrderedMap.values]

/-- A shape is added under its id, which stood under nothing before. -/
theorem of_add_eq_ok {c' : Catalog} (hadd : c.add s = .ok c') : s.id.isPrelude = false ∧
    c.entries.get? s.id.text = none ∧ c' = ⟨c.entries.insert s.id.text s⟩ := by
  rw [add] at hadd
  split at hadd
  · cases hadd
  · rename_i hown
    split at hadd
    · cases hadd
    · rename_i hnew
      exact ⟨by simpa using hown, by simpa [OrderedMap.contains] using hnew,
        (Except.ok.inj hadd).symm⟩

/-- Adding a shape leaves those that are there. -/
theorem get?_of_add {d : Catalog} {r : Shape} {key : String} (hadd : c.add s = .ok d)
    (hget : c.entries.get? key = some r) : d.entries.get? key = some r := by
  obtain ⟨-, hnew, rfl⟩ := of_add_eq_ok hadd
  have hne : key ≠ s.id.text := by
    rintro rfl
    rw [hnew] at hget
    cases hget
  rw [OrderedMap.get?_insert, if_neg hne, hget]

theorem Keyed.of_add {c' : Catalog} (h : c.Keyed) (hadd : c.add s = .ok c') : c'.Keyed := by
  obtain ⟨hown, -, rfl⟩ := of_add_eq_ok hadd
  refine ⟨h.tidy.insert _ _, fun key t ht => ?_, fun t ht => ?_⟩
  · rw [OrderedMap.get?_insert] at ht
    split at ht
    · rename_i hkey
      rw [← Option.some.inj ht, hkey]
    · exact h.ids key t ht
  · rcases OrderedMap.mem_values_of_insert ht with rfl | ht
    · exact hown
    · exact h.own t ht

/-- **Shapes that are added** stand under their ids. -/
theorem keyed_of_foldlM {shapes : List Shape} (h : shapes.foldlM add {} = .ok c) : c.Keyed :=
  Outcome.of_foldlM h keyed_empty fun _ _ _ hc hadd => hc.of_add hadd

/-- What is found is known. -/
theorem Keyed.knows_of_find? (h : c.Keyed) {id : ShapeId} (hfind : c.find? id = some s) :
    c.Knows s := by
  rw [find?] at hfind
  split at hfind
  · exact .inr (List.mem_of_find?_eq_some hfind)
  · exact .inl (h.tidy.coherent.mem_values.2 ⟨id.text, hfind⟩)

/-- The model's own shapes are found by their ids. -/
theorem Keyed.find?_id (h : c.Keyed) (hs : s ∈ c.shapes) : c.find? s.id = some s := by
  obtain ⟨key, hget⟩ := h.tidy.coherent.mem_values.1 hs
  rw [find?, h.own s hs, h.ids key s hget]
  exact hget

/-- What is found by an id has this id. -/
theorem Keyed.id_of_find? (h : c.Keyed) {id : ShapeId} (hfind : c.find? id = some s) :
    s.id = id := by
  rw [find?] at hfind
  split at hfind
  · simpa using List.find?_some hfind
  · exact h.ids id.text s hfind

theorem Loaded.keyed (h : c.Loaded) : c.Keyed := ⟨h.tidy, h.ids, h.own⟩

theorem loaded_empty : Loaded {} where
  tidy := keyed_empty.tidy
  ids := keyed_empty.ids
  own := keyed_empty.own
  formed := by simp [shapes, OrderedMap.values]

theorem Loaded.of_add {c' : Catalog} (h : c.Loaded) (hs : s.Formed) (hadd : c.add s = .ok c') :
    c'.Loaded := by
  obtain ⟨htidy, hids, hown⟩ := h.keyed.of_add hadd
  obtain ⟨-, -, rfl⟩ := of_add_eq_ok hadd
  refine ⟨htidy, hids, hown, fun t ht => ?_⟩
  rcases OrderedMap.mem_values_of_insert ht with rfl | ht
  · exact hs
  · exact h.formed t ht

/-- What is found is known. -/
theorem Loaded.knows_of_find? (h : c.Loaded) {id : ShapeId} (hfind : c.find? id = some s) :
    c.Knows s :=
  h.keyed.knows_of_find? hfind

/-- The model's own shapes are found by their ids. -/
theorem Loaded.find?_id (h : c.Loaded) (hs : s ∈ c.shapes) : c.find? s.id = some s :=
  h.keyed.find?_id hs

theorem find?_of_expect {id : ShapeId} (h : c.expect id = .ok s) :
    c.find? id = some s := by
  rw [expect] at h
  split at h
  · rename_i found hfound
    rw [hfound, Except.ok.inj h]
  · cases h

/-- What is found by an id has this id. -/
theorem Loaded.id_of_find? (h : c.Loaded) {id : ShapeId} (hfind : c.find? id = some s) :
    s.id = id :=
  h.keyed.id_of_find? hfind

theorem Loaded.formed_of_knows (h : c.Loaded) (hs : c.Knows s) : s.Formed :=
  hs.elim (h.formed s) fun hs => (Prelude.formed s hs).1

/-- **Members have targets**, and these are known. -/
theorem Imported.exists_target (h : c.Imported) (hs : c.Knows s) {m : Member}
    (hm : m ∈ s.everyMember) : ∃ t, c.find? m.target = some t ∧ c.Knows t := by
  rcases hs with hs | hs
  · have htarget := (h.formed s hs).targets m hm
    have hsome := h.closed s hs m.target (Shape.mem_references_of_mem hm) htarget
    obtain ⟨t, ht⟩ := Option.isSome_iff_exists.1 hsome
    exact ⟨t, ht, h.knows_of_find? ht⟩
  · rw [(Prelude.formed s hs).2] at hm
    cases hm

end Catalog

/-! ## References -/

namespace Assembly

open Noting

variable {a : Assembly} {key : String} {s : ShapeDef Nat} {shape r : Shape}

theorem kindOf_mem_all {kind : Kind} (h : kindOf key s = .ok kind) : kind ∈ Kind.all := by
  unfold kindOf at h
  simp only at h
  split at h
  · cases h
  · cases h
    decide
  · split at h <;> cases h <;> decide
  · split at h <;> cases h <;> decide
  · split at h
    · rename_i k hk
      cases h
      exact List.mem_of_find?_eq_some hk
    · cases h

/-- **A reference** is never the empty id. -/
theorem isEmpty_of_gives_absolute {ns id : String} {target : ShapeId}
    (h : (absolute ns id).Gives target) : target.isEmpty = false := by
  have hprelude : ∀ s ∈ Prelude.shapes, s.id.isEmpty = false := by decide
  unfold absolute at h
  split at h
  · rename_i hmark
    obtain rfl := gives_pure_iff.1 h
    rw [ShapeId.isEmpty, beq_eq_false_iff_ne]
    rintro rfl
    cases hmark
  · split at h
    · rename_i found hfound
      obtain rfl := gives_pure_iff.1 h
      exact hprelude found (List.mem_of_find?_eq_some hfound)
    · obtain ⟨_, _, h⟩ := exists_gives_of_bind h
      obtain rfl := gives_pure_iff.1 h
      rw [ShapeId.isEmpty, beq_eq_false_iff_ne]
      intro he
      have hlength := congrArg String.length he
      simp [ShapeId.make] at hlength

theorem isEmpty_of_gives_importMember {container : ShapeId} {name : String} {m : MemberDef}
    {r : Member} (h : (importMember container name m).Gives r) : r.target.isEmpty = false := by
  obtain ⟨target, htarget, h⟩ := exists_gives_of_bind h
  obtain rfl := gives_pure_iff.1 h
  exact isEmpty_of_gives_absolute htarget

/-! ## One shape -/

/-- Members are added to a shape that is formed. -/
theorem formed_of_gives_importMembers {id : ShapeId} (h : (importMembers a id s shape).Gives r)
    (hshape : shape.Formed) : r.id = shape.id ∧ r.Formed := by
  refine of_gives_foldlM (P := fun r => r.id = shape.id ∧ r.Formed) h ⟨rfl, hshape⟩ ?_
  rintro r ⟨hid, hr⟩ ⟨name, i⟩ - d hd
  simp only at hd
  split at hd
  · exact absurd hd (not_gives_throw _ _)
  · obtain ⟨m, hm, hd⟩ := exists_gives_of_bind hd
    obtain rfl := gives_pure_iff.1 hd
    exact ⟨hid, hr.addMember _ _ (isEmpty_of_gives_importMember hm)⟩

/-- Constants stand for the structure without members. -/
theorem formed_importLegacyEnum (h : shape.Formed) :
    (importLegacyEnum shape).id = shape.id ∧ (importLegacyEnum shape).Formed := by
  have hunit : ShapeId.unit.isEmpty = false := by decide
  unfold importLegacyEnum
  generalize ((Traits.get? shape.traits Trait.enum).map Node.items).getD [] = items
  induction items generalizing shape with
  | nil => exact ⟨rfl, h⟩
  | cons item items ih =>
    rw [List.foldl_cons]
    exact ih (h.addMember _ _ hunit)

/-- A list or set is formed, whatever it holds. -/
theorem formed_of_gives_collection {kind : Kind} (hall : kind ∈ Kind.all)
    (hc : kind.isCollection = true)
    (h : (match s.member with
      | none => throw (.missingItem s.type ⟨key⟩)
      | some m => do
        let item ← importMember ⟨key⟩ "member" m
        return { id := ⟨key⟩, kind, traits := s.traits.getD {}, item := some item
                 : Shape } : Noting Shape).Gives r) : r.id = ⟨key⟩ ∧ r.Formed := by
  split at h
  · exact absurd h (not_gives_throw _ _)
  · obtain ⟨item, hitem, h⟩ := exists_gives_of_bind h
    obtain rfl := gives_pure_iff.1 h
    refine ⟨rfl, hall, fun _ => rfl, fun he => ?_, ?_⟩
    · rw [show kind = .map from he] at hc
      cases hc
    · simpa [Shape.everyMember, Shape.memberList, OrderedMap.values] using
        isEmpty_of_gives_importMember hitem

/-- **A shape that is imported** keeps its id, and is formed. -/
theorem formed_of_gives_importShape (h : (importShape a key s).Gives r) :
    r.id = ⟨key⟩ ∧ r.Formed := by
  obtain ⟨kind, hkind, h⟩ := exists_gives_of_bind h
  have hall := kindOf_mem_all (eq_ok_of_gives_lift hkind)
  -- Kinds that call for no parts: a shape of its kind alone is formed.
  have hplain {shape : Shape} (hk : shape.kind = kind) (hc : kind.isCollection = false)
      (hmap : kind ≠ .map) (hmembers : shape.everyMember = []) : shape.Formed := by
    refine ⟨hk ▸ hall, fun he => ?_, fun he => absurd (hk ▸ he) hmap, by simp [hmembers]⟩
    rw [hk, hc] at he
    cases he
  simp only at h
  split at h
  · exact formed_of_gives_collection hall rfl h
  · exact formed_of_gives_collection hall rfl h
  · split at h
    · obtain ⟨k, hk, h⟩ := exists_gives_of_bind h
      obtain ⟨v, hv, h⟩ := exists_gives_of_bind h
      obtain rfl := gives_pure_iff.1 h
      refine ⟨rfl, hall, fun he => (by cases he), fun _ => rfl, ?_⟩
      simpa [Shape.everyMember, Shape.memberList, OrderedMap.values] using
        ⟨isEmpty_of_gives_importMember hk, isEmpty_of_gives_importMember hv⟩
    · exact absurd h (not_gives_throw _ _)
  · exact formed_of_gives_importMembers h (hplain rfl rfl (by decide) rfl)
  · exact formed_of_gives_importMembers h (hplain rfl rfl (by decide) rfl)
  · exact formed_of_gives_importMembers h (hplain rfl rfl (by decide) rfl)
  · split at h
    · obtain rfl := gives_pure_iff.1 h
      exact formed_importLegacyEnum (hplain rfl rfl (by decide) rfl)
    · exact formed_of_gives_importMembers h (hplain rfl rfl (by decide) rfl)
  · obtain ⟨_, _, h⟩ := exists_gives_of_bind h
    obtain ⟨_, _, h⟩ := exists_gives_of_bind h
    obtain ⟨_, _, h⟩ := exists_gives_of_bind h
    obtain rfl := gives_pure_iff.1 h
    exact ⟨rfl, hplain rfl rfl (by decide) rfl⟩
  · obtain ⟨_, _, h⟩ := exists_gives_of_bind h
    obtain ⟨_, _, h⟩ := exists_gives_of_bind h
    obtain rfl := gives_pure_iff.1 h
    exact ⟨rfl, hplain rfl rfl (by decide) rfl⟩
  · obtain ⟨_, _, h⟩ := exists_gives_of_bind h
    obtain ⟨_, _, h⟩ := exists_gives_of_bind h
    obtain rfl := gives_pure_iff.1 h
    exact ⟨rfl, hplain rfl rfl (by decide) rfl⟩
  · rename_i hlist hset hmap _ _ _ _ _ _ _
    obtain rfl := gives_pure_iff.1 h
    refine ⟨rfl, hplain rfl ?_ hmap rfl⟩
    cases kind with
    | list => exact absurd rfl hlist
    | set => exact absurd rfl hset
    | _ => rfl

end Assembly

/-! ## The whole catalog -/

namespace Catalog

open Noting Assembly

/-- Where targets were checked, every reference leads somewhere. -/
theorem isSome_find?_of_checkTargets {c : Catalog} (h : checkTargets c = .ok ()) :
    ∀ s ∈ c.shapes, ∀ id ∈ s.references, id.isEmpty = false → (c.find? id).isSome = true := by
  intro s hs id hid hne
  have hcheck := Outcome.of_forM_eq_ok (Outcome.of_forM_eq_ok h s hs) id hid
  rw [hne, Bool.false_or] at hcheck
  by_contra hnone
  rw [if_neg hnone] at hcheck
  cases hcheck

/-- **What an assembly is made into** can be relied on. -/
theorem imported_of_gives {a : Assembly} {c : Catalog} (h : a.toCatalog.Gives c) : c.Imported := by
  obtain ⟨c', hload, h⟩ := exists_gives_of_bind h
  obtain ⟨⟨⟩, hcheck, h⟩ := exists_gives_of_bind h
  obtain rfl := gives_pure_iff.1 h
  refine ⟨of_gives_foldlM (P := Loaded) hload loaded_empty fun c hc id _ d hd => ?_,
    isSome_find?_of_checkTargets (eq_ok_of_gives_lift hcheck)⟩
  unfold importNext at hd
  split at hd
  · exact gives_pure_iff.1 hd ▸ hc
  · obtain ⟨shape, hshape, hd⟩ := exists_gives_of_bind hd
    exact hc.of_add (formed_of_gives_importShape hshape).2 (eq_ok_of_gives_lift hd)

/-- **What is imported** is what the catalog holds. -/
theorem find?_of_gives {a : Assembly} {c : Catalog} (h : a.toCatalog.Gives c) {key : String}
    {s : ShapeDef Nat} (hkey : key ∈ a.ids) (hs : a.shape? key = some s) :
    ∃ r, (importShape a key s).Gives r ∧ c.find? ⟨key⟩ = some r := by
  have hc : c.Imported := imported_of_gives h
  obtain ⟨c', hload, h⟩ := exists_gives_of_bind h
  obtain ⟨⟨⟩, -, h⟩ := exists_gives_of_bind h
  obtain rfl := gives_pure_iff.1 h
  obtain ⟨r, hr, hget⟩ : ∃ r, (importShape a key s).Gives r ∧ c'.entries.get? key = some r := by
    refine of_gives_foldlM_of_mem
      (P := fun c => ∃ r, (importShape a key s).Gives r ∧ c.entries.get? key = some r)
      hload hkey (fun b d hd => ?_) fun b hb id _ d hd => ?_
    · rw [importNext, hs] at hd
      obtain ⟨r, hr, hd⟩ := exists_gives_of_bind hd
      obtain ⟨-, -, rfl⟩ := of_add_eq_ok (eq_ok_of_gives_lift hd)
      refine ⟨r, hr, ?_⟩
      rw [OrderedMap.get?_insert, (formed_of_gives_importShape hr).1, if_pos rfl]
    · obtain ⟨r, hr, hget⟩ := hb
      refine ⟨r, hr, ?_⟩
      rw [importNext] at hd
      split at hd
      · exact gives_pure_iff.1 hd ▸ hget
      · obtain ⟨shape, -, hd⟩ := exists_gives_of_bind hd
        exact get?_of_add (eq_ok_of_gives_lift hd) hget
  have hmem : r ∈ c'.shapes := hc.tidy.coherent.mem_values.2 ⟨key, hget⟩
  have hfind := hc.find?_id hmem
  rw [hc.ids key r hget] at hfind
  exact ⟨r, hr, hfind⟩

end Catalog
end Shapewright
