import Shapewright.Assembly.Basic
import Shapewright.Proofs.OrderedMap

/-!
# Looking at shapes and assemblies

* `ShapeDef.memberNames`, `member?`, `traitNames`, `trait?` — what a shape says, null and missing
  fields aside.
* `ShapeDef.Coherent` — the maps of a shape list what they bind.
* `Assembly.shape?_insert`, `Assembly.ids_insert_of_shape?` — an assembly with a shape put in is looked
  up as a function is updated, and lists no new id if the shape replaces another.
* `Traits.listsFunction_entries`, `Traits.addAll_eq_insertAll` — traits as functions.
-/

set_option autoImplicit false

namespace Shapewright

/-! ## Traits -/

namespace Traits

theorem addAll_eq_insertAll (t : Traits) (entries : List (String × Node)) :
    t.addAll entries = t.insertAll (entries.map fun e => (e.1, some e.2)) := by
  rw [OrderedMap.insertAll, List.foldl_map]
  rfl

theorem isSome_get? (t : Traits) (id : String) :
    (get? t id).isSome = (OrderedMap.get? t id).isSome := by
  rw [get?, Option.isSome_map]

/-- The entries of coherent traits are the function that reads them. -/
theorem listsFunction_entries {t : Traits} (h : OrderedMap.Coherent t) :
    ListsFunction t.entries t.get? :=
  listsFunction_filterMap fun id hid => (h id).2 (isSome_get? t id ▸ hid)

theorem map_fst_entries {t : Traits} (h : OrderedMap.Coherent t) :
    t.entries.map (·.1) = t.keys :=
  map_fst_filterMap fun id hid => (isSome_get? t id).trans ((h id).1 hid)

/-- Adding the entries of other traits: those win, and keep the value they are read with. -/
theorem get?_addAll_entries (t : Traits) {more : Traits} (h : OrderedMap.Coherent more)
    (id : String) : get? (t.addAll more.entries) id = (more.get? id).or (t.get? id) := by
  have hlists := (listsFunction_entries h).map (some : Node → Option Node)
  rw [get?, addAll_eq_insertAll, OrderedMap.get?_insertAll_of_lists t hlists]
  cases more.get? id <;> rfl

end Traits

/-! ## Shapes -/

namespace ShapeDef

variable {μ : Type}

/-- The names of the members as they are listed. -/
def memberNames (s : ShapeDef μ) : List String := (s.members.map (·.keys)).getD []

/-- The member with a name; a null may stand for it. -/
def member? (s : ShapeDef μ) (name : String) : Option (Option μ) := s.members.bind (·.get? name)

/-- The ids of the traits as they are listed. -/
def traitNames (s : ShapeDef μ) : List String := (s.traits.map (·.keys)).getD []

/-- The value of a trait that is present. -/
def trait? (s : ShapeDef μ) (id : String) : Option Node := s.traits.bind (Traits.get? · id)

/-- The maps of a shape list exactly what they bind. -/
structure Coherent (s : ShapeDef μ) : Prop where
  members : ∀ m, s.members = some m → m.Coherent
  traits : ∀ t : Traits, s.traits = some t → OrderedMap.Coherent t

/-- The members of a shape with their names. -/
def memberEntries (s : ShapeDef μ) : List (String × Option μ) :=
  (s.members.map (·.toList)).getD []

/-- The traits of a shape with their values. -/
def traitEntries (s : ShapeDef μ) : List (String × Node) :=
  (s.traits.map Traits.entries).getD []

theorem Coherent.lists_members {s : ShapeDef μ} (h : s.Coherent) :
    ListsFunction s.memberEntries s.member? := by
  intro name m
  cases hm : s.members with
  | none => simp [memberEntries, member?, hm]
  | some members =>
    simpa [memberEntries, member?, hm] using (h.members _ hm).listsFunction name m

theorem Coherent.map_fst_members {s : ShapeDef μ} (h : s.Coherent) :
    s.memberEntries.map (·.1) = s.memberNames := by
  cases hm : s.members with
  | none => simp [memberEntries, memberNames, hm]
  | some members => simpa [memberEntries, memberNames, hm] using (h.members _ hm).map_fst_toList

theorem Coherent.lists_traits {s : ShapeDef μ} (h : s.Coherent) :
    ListsFunction s.traitEntries s.trait? := by
  intro id n
  cases ht : s.traits with
  | none => simp [traitEntries, trait?, ht]
  | some t =>
    simpa [traitEntries, trait?, ht] using Traits.listsFunction_entries (h.traits _ ht) id n

theorem Coherent.map_fst_traits {s : ShapeDef μ} (h : s.Coherent) :
    s.traitEntries.map (·.1) = s.traitNames := by
  cases ht : s.traits with
  | none => simp [traitEntries, traitNames, ht]
  | some t => simpa [traitEntries, traitNames, ht] using Traits.map_fst_entries (h.traits _ ht)

end ShapeDef

/-! ## Assemblies -/

namespace Assembly

@[simp] theorem shape?_insert (a : Assembly) (id : String) (s : Option (ShapeDef Nat))
    (k : String) : (a.insert id s).shape? k = if k = id then s else a.shape? k := by
  have hget : (a.shapes.getD {}).get? k = a.shapes.bind (·.get? k) := by
    cases a.shapes <;> rfl
  by_cases hk : k = id
  · simp [shape?, insert, hk]
  · simp [shape?, insert, hk, hget]

@[simp] theorem cells_insert (a : Assembly) (id : String) (s : Option (ShapeDef Nat)) :
    (a.insert id s).cells = a.cells := rfl

/-- Removes an id. -/
theorem shape?_erase (a : Assembly) (id x : String) :
    ({ a with shapes := a.shapes.map (·.erase id) } : Assembly).shape? x
      = if x = id then none else a.shape? x := by
  cases hm : a.shapes with
  | none => simp [shape?, hm]
  | some m => by_cases hx : x = id <;> simp [shape?, hm, hx]

theorem exists_shapes_of_shape? {a : Assembly} {id : String} {s : ShapeDef Nat}
    (h : a.shape? id = some s) : ∃ m, a.shapes = some m ∧ m.contains id = true := by
  obtain ⟨m, hm, hget⟩ := Option.bind_eq_some_iff.1 (Option.join_eq_some_iff.1 h)
  exact ⟨m, hm, by rw [OrderedMap.contains, hget]; rfl⟩

theorem ids_insert_of_shape? {a : Assembly} {id : String} {s : ShapeDef Nat}
    (h : a.shape? id = some s) (t : Option (ShapeDef Nat)) : (a.insert id t).ids = a.ids := by
  obtain ⟨m, hm, hcontains⟩ := exists_shapes_of_shape? h
  show ((a.shapes.getD {}).insert id t).keys = (a.shapes.map (·.keys)).getD []
  rw [hm, Option.getD_some, OrderedMap.insert, if_pos hcontains]
  rfl

end Assembly
end Shapewright
