import Shapewright.Proofs.Assembly.Operations
import Shapewright.Proofs.Text.Distinct

/-!
# The order of operations

The walk through the resources of a service keeps one state from beginning to end: what it has
found, and the ids it has looked at.  What it finds does not depend on how far it has come, though.
It is told by a list that has no memory at all, of every id in the place where it is listed and as
often as it is: the first occurrences in this list are the operations.

* `Catalog.Preorder` — the ids that shapes list as operations, in pre-order; `Preorder.unique` —
  there is one such list; `Preorder.mem_iff` — what is in it.
* `Catalog.exists_preorder_of_walk` — a walk visits this list.
* `Catalog.Walk.Follows` — the first occurrences were found.
* `Catalog.operations_preorder` — the payoff: when operations are found, which, and in which order.

A resource that is reached in two ways is walked through twice, so its ids are in the list twice.
This does not matter to the first occurrences.
-/

set_option autoImplicit false

namespace Shapewright
namespace Catalog

variable {c : Catalog} {s : Shape}

/-! ## The list without memory -/

/-- What shapes list as operations: the ids of the first shape, those of the resources below it, and
then those of the shapes behind it. -/
inductive Preorder (c : Catalog) : List ShapeId → List ShapeId → Prop
  | nil : Preorder c [] []
  | cons {id : ShapeId} {rest below behind : List ShapeId} {s : Shape} (hs : c.find? id = some s)
    (hbelow : Preorder c s.resources below) (hbehind : Preorder c rest behind) :
    Preorder c (id :: rest) (s.operations ++ below ++ behind)

theorem Preorder.unique {roots ids ids' : List ShapeId} (h : c.Preorder roots ids)
    (h' : c.Preorder roots ids') : ids = ids' := by
  induction h generalizing ids' with
  | nil =>
    cases h'
    rfl
  | cons hs _ _ ihbelow ihbehind =>
    obtain _ | ⟨hs', hbelow', hbehind'⟩ := h'
    cases hs.symm.trans hs'
    rw [ihbelow hbelow', ihbehind hbehind']

/-- What is listed in pre-order is what the shapes that are reached list. -/
theorem Preorder.mem_iff (hc : c.Keyed) {roots ids : List ShapeId} (h : c.Preorder roots ids)
    {i : ShapeId} : i ∈ ids ↔
      ∃ r ∈ roots, ∃ s, c.find? r = some s ∧ ∃ t, c.Reaches s t ∧ i ∈ t.operations := by
  induction h with
  | nil => simp
  | @cons id rest below behind s hs _ _ ihbelow ihbehind =>
    have hdown (r : ShapeId) (hr : r ∈ s.resources) (u : Shape) (hu : c.find? r = some u) :
        c.Lists s u :=
      ⟨(hc.knows_of_find? hs).mem_shapes_of_mem (List.mem_append_right _ hr), r, hr, hu⟩
    simp only [List.mem_append, ihbelow, ihbehind, List.exists_mem_cons_iff]
    refine or_congr_left ⟨?_, ?_⟩
    · rintro (hi | ⟨r, hr, u, hu, t, ht, hi⟩)
      · exact ⟨s, hs, s, .refl, hi⟩
      · exact ⟨s, hs, t, .head (hdown r hr u hu) ht, hi⟩
    · rintro ⟨s', hs', t, ht, hi⟩
      cases hs.symm.trans hs'
      rcases ht.cases_head with rfl | ⟨u, ⟨-, r, hr, hu⟩, ht⟩
      · exact .inl hi
      · exact .inr ⟨r, hr, u, hu, t, ht, hi⟩

/-! ## A walk visits this list -/

/-- Resources are walked through one after the other, if this is so for each of them. -/
theorem exists_preorder_of_resources {n : Nat}
    (hwalk : ∀ w w' s, c.walk n w s = .ok w' → ∃ below, c.Preorder s.resources below ∧
      (s.operations ++ below).foldlM (Walk.visit c) w = .ok w')
    {resources : List ShapeId} {w w' : Walk}
    (h : resources.foldlM (fun w id => do walk c n w (← c.expect id)) w = .ok w') :
    ∃ ids, c.Preorder resources ids ∧ ids.foldlM (Walk.visit c) w = .ok w' := by
  induction resources generalizing w with
  | nil => exact ⟨[], .nil, h⟩
  | cons id rest ih =>
    rw [List.foldlM_cons] at h
    obtain ⟨w₁, hfirst, hrest⟩ := Outcome.exists_ok_of_bind h
    obtain ⟨s, hs, hfirst⟩ := Outcome.exists_ok_of_bind hfirst
    obtain ⟨below, hbelow, hvisits⟩ := hwalk w w₁ s hfirst
    obtain ⟨behind, hbehind, hvisits'⟩ := ih hrest
    refine ⟨_, .cons (find?_of_expect hs) hbelow hbehind, ?_⟩
    rw [List.foldlM_append, hvisits]
    exact hvisits'

/-- **A walk** visits the ids of a shape and then those below it, in pre-order. -/
theorem exists_preorder_of_walk {n : Nat} {w w' : Walk} (h : c.walk n w s = .ok w') :
    ∃ below, c.Preorder s.resources below ∧
      (s.operations ++ below).foldlM (Walk.visit c) w = .ok w' := by
  induction n generalizing w w' s with
  | zero => cases h
  | succ n ih =>
    obtain ⟨w₁, hvisits, h⟩ := Outcome.exists_ok_of_bind h
    obtain ⟨below, hbelow, hvisits'⟩ := exists_preorder_of_resources (fun _ _ _ => ih) h
    refine ⟨below, hbelow, ?_⟩
    rw [List.foldlM_append, hvisits]
    exact hvisits'

/-! ## What is found on the way -/

/-- A walk that has visited ids knows them, and has found what their first occurrences lead to. -/
structure Walk.Follows (c : Catalog) (w : Walk) (ids : List ShapeId) : Prop where
  seen : ∀ id, id ∈ w.seen ↔ id ∈ ids
  found : w.found.map some = (Text.firstBy id ids).map c.find?

theorem Walk.Follows.visit {w w' : Walk} {ids : List ShapeId} {id : ShapeId} (h : w.Follows c ids)
    (hvisit : Walk.visit c w id = .ok w') : w'.Follows c (ids ++ [id]) := by
  rw [Walk.visit] at hvisit
  split at hvisit
  · rename_i hseen
    obtain rfl := Except.ok.inj hvisit
    have hmem : id ∈ ids := (h.seen id).1 (List.contains_iff_mem.1 hseen)
    refine ⟨fun i => ?_, ?_⟩
    · rw [h.seen, List.mem_append, List.mem_singleton]
      exact ⟨.inl, fun hi => hi.elim (fun hi => hi) fun hi => hi ▸ hmem⟩
    · rw [Text.firstBy_id_concat, if_pos hmem, h.found]
  · rename_i hseen
    have hnew : id ∉ ids := fun hmem => hseen (List.contains_iff_mem.2 ((h.seen id).2 hmem))
    obtain ⟨op, hop, hvisit⟩ := Outcome.exists_ok_of_bind hvisit
    split at hvisit
    · cases hvisit
    · obtain rfl := Except.ok.inj hvisit
      refine ⟨fun i => ?_, ?_⟩
      · rw [List.mem_cons, h.seen, List.mem_append, List.mem_singleton, or_comm]
      · rw [Text.firstBy_id_concat, if_neg hnew, List.map_append, List.map_append, h.found]
        simp [find?_of_expect hop]

theorem Walk.Follows.visits {w w' : Walk} {ids next : List ShapeId} (h : w.Follows c ids)
    (hvisits : next.foldlM (Walk.visit c) w = .ok w') : w'.Follows c (ids ++ next) := by
  induction next generalizing w ids with
  | nil =>
    obtain rfl := Except.ok.inj hvisits
    rwa [List.append_nil]
  | cons id next ih =>
    rw [List.foldlM_cons] at hvisits
    obtain ⟨w₁, hvisit, hvisits⟩ := Outcome.exists_ok_of_bind hvisits
    rw [List.append_cons]
    exact ih (h.visit hvisit) hvisits

/-- The operations of a service are the first occurrences in pre-order. -/
theorem exists_preorder_of_operations {service : ShapeId} {ops : List Shape}
    (h : c.operations service = .ok ops) :
    ∃ ids, c.Preorder [service] ids ∧ ops.map some = (Text.firstBy id ids).map c.find? := by
  obtain ⟨s, hs, h⟩ := Outcome.exists_ok_of_bind h
  obtain ⟨w, hw, h⟩ := Outcome.exists_ok_of_bind h
  obtain rfl := Except.ok.inj h
  obtain ⟨below, hbelow, hvisits⟩ := exists_preorder_of_walk hw
  have hstart : Walk.Follows c {} [] := ⟨fun _ => .rfl, rfl⟩
  refine ⟨_, .cons (find?_of_expect hs) hbelow .nil, ?_⟩
  rw [List.append_nil]
  exact (hstart.visits hvisits).found

/-- What is found by ids has these ids. -/
theorem Keyed.map_id_of_find? (hc : c.Keyed) {found : List Shape} {ids : List ShapeId}
    (h : found.map some = ids.map c.find?) : found.map (·.id) = ids := by
  induction ids generalizing found with
  | nil => rw [List.map_eq_nil_iff.1 h, List.map_nil]
  | cons id ids ih =>
    obtain ⟨op, rest, rfl, hop, hrest⟩ := List.map_eq_cons_iff.1 h
    rw [List.map_cons, ih hrest, hc.id_of_find? hop.symm]

/-- **Which operations, and in which order.** In a catalog that shapes were added to, and for a
service none of whose resources is inside itself: its operations are found exactly if the service is
there, and whatever it and the resources below it list is there, operations as operations. They are
then the first occurrences in pre-order, so each operation that is listed is there once, and nothing
else is. -/
theorem operations_preorder {shapes : List Shape} (h : shapes.foldlM add {} = .ok c)
    {service : ShapeId} (hacyclic : ∀ s, c.find? service = some s → c.AcyclicFrom s) :
    ((∃ ops, c.operations service = .ok ops) ↔
      ∃ s, c.find? service = some s ∧ c.Resolves s) ∧
    ∀ ops, c.operations service = .ok ops →
      (∃ ids, c.Preorder [service] ids ∧ ops.map (·.id) = Text.firstBy id ids) ∧
      (ops.map (·.id)).Nodup ∧
      ∀ op, op ∈ ops ↔ ∃ s, c.find? service = some s ∧ ∃ t, c.Reaches s t ∧
        ∃ id ∈ t.operations, c.find? id = some op := by
  have hc : c.Keyed := keyed_of_foldlM h
  refine ⟨⟨fun ⟨ops, hops⟩ => ?_, fun ⟨s, hs, hall⟩ => ?_⟩, fun ops hops => ?_⟩
  · obtain ⟨s, hs, -⟩ := Outcome.exists_ok_of_bind hops
    have hfind := find?_of_expect hs
    rw [operations_of_find? hfind] at hops
    obtain ⟨w, hw, -⟩ := Outcome.exists_ok_of_bind hops
    exact ⟨s, hfind, (hc.exists_walk_iff (hc.knows_of_find? hfind) (hacyclic s hfind)).1 ⟨w, hw⟩⟩
  · obtain ⟨w, hw⟩ := (hc.exists_walk_iff (hc.knows_of_find? hs) (hacyclic s hs)).2 hall
    rw [operations_of_find? hs, hw]
    exact ⟨w.found, rfl⟩
  · obtain ⟨ids, hids, hfound⟩ := exists_preorder_of_operations hops
    have hmap : ops.map (·.id) = Text.firstBy id ids := hc.map_id_of_find? hfound
    refine ⟨⟨ids, hids, hmap⟩, ?_, fun op => ?_⟩
    · rw [hmap]
      exact Text.nodup_firstBy_id ids
    · have hop : op ∈ ops ↔ ∃ id ∈ ids, c.find? id = some op := by
        have hsome : op ∈ ops ↔ some op ∈ ops.map some := by simp
        rw [hsome, hfound, List.mem_map]
        simp only [Text.mem_firstBy_id]
      simp only [hop, hids.mem_iff hc, List.mem_singleton, exists_eq_left]
      exact ⟨fun ⟨id, ⟨s, hs, t, ht, hid⟩, hfind⟩ => ⟨s, hs, t, ht, id, hid, hfind⟩,
        fun ⟨s, hs, t, ht, id, hid, hfind⟩ => ⟨id, ⟨s, hs, t, ht, hid⟩, hfind⟩⟩

/-- A shared resource, reached from a service and from another resource. -/
def ferryShapes : List Shape :=
  [{ id := ⟨"ex#Ferry"⟩, kind := .service, operations := [⟨"ex#Sail"⟩],
     resources := [⟨"ex#Deck"⟩, ⟨"ex#Cabin"⟩] },
   { id := ⟨"ex#Deck"⟩, kind := .resource, operations := [⟨"ex#Board"⟩, ⟨"ex#Sail"⟩],
     resources := [⟨"ex#Cabin"⟩] },
   { id := ⟨"ex#Cabin"⟩, kind := .resource, operations := [⟨"ex#Knock"⟩, ⟨"ex#Board"⟩] },
   { id := ⟨"ex#Knock"⟩, kind := .operation },
   { id := ⟨"ex#Board"⟩, kind := .operation },
   { id := ⟨"ex#Sail"⟩, kind := .operation }]

/-- Their catalog. -/
def ferry : Catalog :=
  ⟨ferryShapes.foldl (fun entries s => entries.insert s.id.text s) {}⟩

theorem operations_preorder_ferry :
    ferryShapes.foldlM add {} = .ok ferry ∧
    (∀ s, ferry.find? ⟨"ex#Ferry"⟩ = some s → ferry.AcyclicFrom s) ∧
    (∃ s, ferry.find? ⟨"ex#Ferry"⟩ = some s ∧ ferry.Resolves s) ∧
    ∃ ops ids, ferry.operations ⟨"ex#Ferry"⟩ = .ok ops ∧ ferry.Preorder [⟨"ex#Ferry"⟩] ids ∧
      ops.map (·.id) = Text.firstBy id ids ∧
      ops.map (·.id) = [⟨"ex#Sail"⟩, ⟨"ex#Board"⟩, ⟨"ex#Knock"⟩] := by
  have hadd : ferryShapes.foldlM add {} = .ok ferry := by rfl
  have hacyclic (s : Shape) : ferry.AcyclicFrom s :=
    acyclicFrom_of_measure (fun s => s.resources.length) (by decide) s
  have hops : ∃ ops, ferry.operations ⟨"ex#Ferry"⟩ = .ok ops ∧
      ops.map (·.id) = [⟨"ex#Sail"⟩, ⟨"ex#Board"⟩, ⟨"ex#Knock"⟩] := ⟨_, rfl, rfl⟩
  obtain ⟨ops, hops, hnames⟩ := hops
  obtain ⟨hiff, horder⟩ := operations_preorder hadd fun s _ => hacyclic s
  obtain ⟨⟨ids, hids, hfirst⟩, -⟩ := horder ops hops
  exact ⟨hadd, fun s _ => hacyclic s, hiff.1 ⟨ops, hops⟩, ops, ids, hops, hids, hfirst, hnames⟩

end Catalog
end Shapewright
