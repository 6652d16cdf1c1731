import Mathlib.Data.List.Chain
import Mathlib.Data.List.Nodup
import Mathlib.Logic.Relation
import Shapewright.Catalog

/-!
# How deep shapes are nested

Several walks go from a shape of a model to the shapes inside it, whatever "inside" means to them: the
elements of a container, the resources of a service.  Each is bounded by the size of the catalog, and
that is enough if no shape is inside itself.

* `not_transGen_of_measure` — shapes that get smaller on the way down are not inside themselves.
* `Catalog.length_le_of_isChain` — the way down is not longer than there are shapes.
-/

set_option autoImplicit false

namespace Shapewright

/-- Nothing leads back to itself if there is a measure by which every step makes it smaller. -/
theorem not_transGen_of_measure {α : Type} {R : α → α → Prop} (size : α → Nat)
    (h : ∀ s t, R s t → size t < size s) (s : α) : ¬ Relation.TransGen R s s := by
  have hpath : ∀ s t, Relation.TransGen R s t → size t < size s := by
    intro s t hst
    induction hst with
    | single hst => exact h _ _ hst
    | tail _ hst ih => exact Nat.lt_trans (h _ _ hst) ih
  exact fun hcycle => absurd (hpath s s hcycle) (Nat.lt_irrefl _)

namespace Catalog

variable {c : Catalog} {R : Shape → Shape → Prop} {s : Shape} {l : List Shape}

/-- The shapes of the model are not more than its keys. -/
theorem length_shapes_le (c : Catalog) : c.shapes.length ≤ c.entries.keys.length :=
  List.length_filterMap_le _ _

/-- All shapes on the way down, the last one apart, have something inside. -/
theorem dropLast_subset_shapes (hR : ∀ s t, R s t → s ∈ c.shapes) (h : l.IsChain R) :
    l.dropLast ⊆ c.shapes := by
  induction h with
  | nil | singleton => simp
  | cons_cons hst _ ih => exact List.cons_subset.2 ⟨hR _ _ hst, ih⟩

/-- **The way down** is not longer than there are shapes if only shapes of the model have something
inside and none of those on the way is inside itself: then they all differ. -/
theorem length_le_of_isChain (hR : ∀ s t, R s t → s ∈ c.shapes)
    (hacyclic : ∀ t, Relation.ReflTransGen R s t → ¬ Relation.TransGen R t t)
    (h : (s :: l).IsChain R) : l.length ≤ c.entries.keys.length := by
  have hpaths : (s :: l).Pairwise (Relation.TransGen R) :=
    (h.imp fun _ _ => Relation.TransGen.single).pairwise
  have hreaches : ∀ t ∈ s :: l, Relation.ReflTransGen R s t :=
    List.forall_mem_cons.2 ⟨.refl, fun t ht => (List.rel_of_pairwise_cons hpaths ht).to_reflTransGen⟩
  have hnodup : (s :: l).Nodup := hpaths.imp_of_mem fun {t u} ht _ hpath => by
    rintro rfl
    exact hacyclic t (hreaches t ht) hpath
  have hle := (hnodup.sublist (List.dropLast_sublist _)).length_le_of_subset
    (dropLast_subset_shapes hR h)
  rw [List.length_dropLast, List.length_cons, Nat.add_sub_cancel] at hle
  exact Nat.le_trans hle (length_shapes_le c)

end Catalog
end Shapewright
