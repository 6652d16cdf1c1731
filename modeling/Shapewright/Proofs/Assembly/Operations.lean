import Shapewright.Proofs.Assembly.Imported
import Shapewright.Proofs.Assembly.Nesting

/-!
# The operations of a service

The operations of a service are found by a walk through its resources and theirs.  It is stopped by
an id that leads nowhere and by an operation that is none.  The references of an assembly were
checked when its catalog was made, so in this there is little to stumble over: an id that is listed
as an operation and is none, and the empty id, which the check passes over wherever it stands.

* `Catalog.Lists`, `Catalog.Reaches` — resources of a shape, and resources of those.
* `Catalog.Walk.Sound` — what is found are operations; `Imported.mem_shapes_of_operations` — and
  they are the model's own.
* `Catalog.Keyed.obstacle_of_walk` — what stops a walk; it may also be cut off where resources are
  nested as deep as its bound, which they are not if none is inside itself
  (`Keyed.obstacle_of_acyclic`).
* `Catalog.Imported.fault_of_obstacle` — what is left of this in the catalog of an assembly.
* `Catalog.Passes.lists` — what a walk that succeeds has seen; `Keyed.exists_walk_iff` — when it
  succeeds.
* `Assembly.operations_of_service` — the payoff: every failure, and when there is none.
-/

set_option autoImplicit false

namespace Shapewright
namespace Catalog

/-- A shape of the model lists another one among its resources. -/
def Lists (c : Catalog) (s t : Shape) : Prop :=
  s ∈ c.shapes ∧ ∃ id ∈ s.resources, c.find? id = some t

/-- A shape is another one, or is found among its resources, their resources and so on. -/
def Reaches (c : Catalog) (s t : Shape) : Prop := Relation.ReflTransGen c.Lists s t

/-- No shape that is reached lists itself, directly or through others. -/
def AcyclicFrom (c : Catalog) (s : Shape) : Prop :=
  ∀ t, c.Reaches s t → ¬ Relation.TransGen c.Lists t t

/-- Why the operations of a service cannot be listed: what is listed as an operation is none, or the
empty id is listed. -/
inductive Fault (c : Catalog) (s : Shape) : Failure → Prop
  | notAnOperation {t op : Shape} {id : ShapeId} (ht : c.Reaches s t) (hid : id ∈ t.operations)
    (hop : c.find? id = some op) (hkind : op.kind ≠ .operation) :
    Fault c s (.notAnOperation id op.kind)
  | emptyId {t : Shape} (ht : c.Reaches s t) (hid : ⟨""⟩ ∈ t.operations ∨ ⟨""⟩ ∈ t.resources)
    (hnone : c.find? ⟨""⟩ = none) : Fault c s (.shapeNotFound ⟨""⟩)

/-- What stops a walk: what is listed as an operation is none, or an id that is listed leads
nowhere. -/
inductive Obstacle (c : Catalog) (s : Shape) : Failure → Prop
  | notAnOperation {t op : Shape} {id : ShapeId} (ht : c.Reaches s t) (hid : id ∈ t.operations)
    (hop : c.find? id = some op) (hkind : op.kind ≠ .operation) :
    Obstacle c s (.notAnOperation id op.kind)
  | missing {t : Shape} {id : ShapeId} (ht : c.Reaches s t)
    (hid : id ∈ t.operations ++ t.resources) (hnone : c.find? id = none) :
    Obstacle c s (.shapeNotFound id)

variable {c : Catalog} {s t : Shape}

/-- No shape lists itself if there is a measure by which resources are smaller. -/
theorem acyclicFrom_of_measure (size : Shape → Nat)
    (h : ∀ s ∈ c.shapes, ∀ id ∈ s.resources, ∀ t ∈ c.find? id, size t < size s) (s : Shape) :
    c.AcyclicFrom s := by
  have hlists : ∀ s t, c.Lists s t → size t < size s := by
    rintro s t ⟨hs, id, hid, ht⟩
    exact h s hs id hid t ht
  exact fun t _ => not_transGen_of_measure size hlists t

theorem expect_of_find? {id : ShapeId} (h : c.find? id = some s) : c.expect id = .ok s := by
  rw [expect, h]

/-- A shape that is not there. -/
theorem of_expect_eq_error {id : ShapeId} {f : Failure} (h : c.expect id = .error f) :
    c.find? id = none ∧ f = .shapeNotFound id := by
  rw [expect] at h
  split at h
  · cases h
  · rename_i hnone
    exact ⟨hnone, (Except.error.inj h).symm⟩

/-! ## What is found -/

/-- What every visit keeps is kept by a whole walk. -/
theorem Walk.of_walk {P : Walk → Prop} {n : Nat} {w w' : Walk} (hw : P w)
    (hvisit : ∀ w id w', P w → Walk.visit c w id = .ok w' → P w') (h : c.walk n w s = .ok w') :
    P w' := by
  induction n generalizing w w' s with
  | zero => cases h
  | succ n ih =>
    obtain ⟨w₁, hvisits, h⟩ := Outcome.exists_ok_of_bind h
    refine Outcome.of_foldlM h (Outcome.of_foldlM hvisits hw hvisit) fun w id w' hw hstep => ?_
    obtain ⟨t, -, hstep⟩ := Outcome.exists_ok_of_bind hstep
    exact ih hw hstep

/-- What is found on a walk are operations. -/
def Walk.Sound (c : Catalog) (w : Walk) : Prop :=
  ∀ op ∈ w.found, op.kind = .operation ∧ ∃ id, c.find? id = some op

theorem Walk.Sound.visit {w w' : Walk} {id : ShapeId} (h : w.Sound c)
    (hvisit : Walk.visit c w id = .ok w') : w'.Sound c := by
  unfold Walk.visit at hvisit
  split at hvisit
  · exact Except.ok.inj hvisit ▸ h
  · obtain ⟨op, hop, hvisit⟩ := Outcome.exists_ok_of_bind hvisit
    split at hvisit
    · cases hvisit
    · rename_i hkind
      obtain rfl := Except.ok.inj hvisit
      intro op' hop'
      rcases List.mem_append.1 hop' with hop' | hop'
      · exact h op' hop'
      · rw [List.mem_singleton.1 hop']
        exact ⟨by simpa using hkind, id, find?_of_expect hop⟩

/-- **The operations of a service** are operations of the model. -/
theorem Imported.mem_shapes_of_operations (hc : c.Imported) {service : ShapeId} {ops : List Shape}
    (h : c.operations service = .ok ops) : ∀ op ∈ ops, op ∈ c.shapes := by
  obtain ⟨s, -, h⟩ := Outcome.exists_ok_of_bind h
  obtain ⟨w, hw, h⟩ := Outcome.exists_ok_of_bind h
  obtain rfl := Except.ok.inj h
  have hsound : w.Sound c := Walk.of_walk (by simp [Walk.Sound]) (fun _ _ _ => Walk.Sound.visit) hw
  intro op hop
  obtain ⟨hkind, id, hfind⟩ := hsound op hop
  have hprelude : ∀ s ∈ Prelude.shapes, s.kind ≠ .operation := by decide
  exact (hc.knows_of_find? hfind).resolve_right fun hmem => hprelude op hmem hkind

/-! ## Why a walk fails -/

theorem Reaches.head {u : Shape} (hst : c.Lists s t) (htu : c.Reaches t u) : c.Reaches s u :=
  Relation.ReflTransGen.head hst htu

/-- What stops a walk further down stops the whole walk. -/
theorem Obstacle.of_lists {f : Failure} (hst : c.Lists s t) (h : c.Obstacle t f) :
    c.Obstacle s f := by
  rcases h with ⟨ht, hid, hop, hkind⟩ | ⟨ht, hid, hnone⟩
  · exact .notAnOperation (.head hst ht) hid hop hkind
  · exact .missing (.head hst ht) hid hnone

/-- The prelude has no services and resources. -/
theorem Knows.mem_shapes_of_mem (hs : c.Knows s) {id : ShapeId}
    (hid : id ∈ s.operations ++ s.resources) : s ∈ c.shapes := by
  have hprelude : ∀ s ∈ Prelude.shapes, s.operations ++ s.resources = [] := by decide
  refine hs.resolve_right fun hmem => ?_
  rw [hprelude s hmem] at hid
  cases hid

/-- What is reached from a shape that is known is known. -/
theorem Keyed.knows_of_reaches (hc : c.Keyed) (hs : c.Knows s) (hst : c.Reaches s t) :
    c.Knows t := by
  induction hst with
  | refl => exact hs
  | tail _ hlists _ =>
    obtain ⟨-, id, -, hfind⟩ := hlists
    exact hc.knows_of_find? hfind

/-- An id that a shape lists and that leads nowhere. -/
theorem obstacle_of_expect {id : ShapeId} (hid : id ∈ s.operations ++ s.resources) {f : Failure}
    (h : c.expect id = .error f) : c.Obstacle s f := by
  obtain ⟨hnone, rfl⟩ := of_expect_eq_error h
  exact .missing .refl hid hnone

theorem obstacle_of_visit {w : Walk} {id : ShapeId} (hid : id ∈ s.operations) {f : Failure}
    (h : Walk.visit c w id = .error f) : c.Obstacle s f := by
  rw [Walk.visit] at h
  split at h
  · cases h
  · rcases Outcome.error_or_of_bind h with h | ⟨op, hop, h⟩
    · exact obstacle_of_expect (List.mem_append_left _ hid) h
    · split at h
      · rename_i hkind
        obtain rfl := Except.error.inj h
        exact .notAnOperation .refl hid (find?_of_expect hop) (by simpa using hkind)
      · cases h

/-- **A walk** is stopped by something that it reaches, or because it is as deep as its bound. -/
theorem Keyed.obstacle_of_walk (hc : c.Keyed) {n : Nat} {w : Walk} (hs : c.Knows s) {f : Failure}
    (h : c.walk n w s = .error f) :
    c.Obstacle s f ∨ ∃ l : List Shape, l.length = n ∧ (s :: l).IsChain c.Lists := by
  induction n generalizing w s with
  | zero => exact .inr ⟨[], rfl, .singleton s⟩
  | succ n ih =>
    rcases Outcome.error_or_of_bind h with h | ⟨w', -, h⟩
    · obtain ⟨id, hid, w', h⟩ := Outcome.exists_error_of_foldlM h
      exact .inl (obstacle_of_visit hid h)
    · obtain ⟨id, hid, w', h⟩ := Outcome.exists_error_of_foldlM h
      rcases Outcome.error_or_of_bind h with h | ⟨t, ht, h⟩
      · exact .inl (obstacle_of_expect (List.mem_append_right _ hid) h)
      · have hlists : c.Lists s t :=
          ⟨hs.mem_shapes_of_mem (List.mem_append_right _ hid), id, hid, find?_of_expect ht⟩
        rcases ih (hc.knows_of_find? (find?_of_expect ht)) h with hstop | ⟨l, hlength, hchain⟩
        · exact .inl (hstop.of_lists hlists)
        · exact .inr ⟨t :: l, by rw [List.length_cons, hlength], .cons_cons hlists hchain⟩

/-- Where no resource is inside itself, the bound is out of reach. -/
theorem Keyed.obstacle_of_acyclic (hc : c.Keyed) (hs : c.Knows s) (hacyclic : c.AcyclicFrom s)
    {w : Walk} {f : Failure} (h : c.walk (c.entries.size + 2) w s = .error f) :
    c.Obstacle s f := by
  rcases hc.obstacle_of_walk hs h with hstop | ⟨l, hlength, hchain⟩
  · exact hstop
  · have hle := length_le_of_isChain (fun _ _ hlists => hlists.1) hacyclic hchain
    have hsize : c.entries.size = c.entries.keys.length := rfl
    omega

/-- In the catalog of an assembly, an id that is listed and leads nowhere is the empty one. -/
theorem Imported.fault_of_obstacle (hc : c.Imported) (hs : c.Knows s) {f : Failure}
    (h : c.Obstacle s f) : c.Fault s f := by
  obtain ⟨ht, hid, hop, hkind⟩ | @⟨t, id, ht, hid, hnone⟩ := h
  · exact .notAnOperation ht hid hop hkind
  · have hempty : id = ⟨""⟩ := by
      cases he : id.isEmpty with
      | true => exact congrArg ShapeId.mk (eq_of_beq he)
      | false =>
        have hmem : id ∈ t.references := by
          rw [Shape.references_eq, List.append_assoc]
          exact List.mem_append_right _ hid
        have hmodel := (hc.keyed.knows_of_reaches hs ht).mem_shapes_of_mem hid
        have hsome := hc.closed t hmodel id hmem he
        rw [hnone] at hsome
        cases hsome
    subst hempty
    exact .emptyId ht (List.mem_append.1 hid) hnone

/-! ## When a walk succeeds -/

/-- The ids that were looked at are those of operations. -/
def Walk.Visited (c : Catalog) (w : Walk) : Prop :=
  ∀ id ∈ w.seen, ∃ op, c.find? id = some op ∧ op.kind = .operation

theorem Walk.Visited.visit {w w' : Walk} {id : ShapeId} (h : w.Visited c)
    (hvisit : Walk.visit c w id = .ok w') :
    w'.Visited c ∧ ∃ op, c.find? id = some op ∧ op.kind = .operation := by
  unfold Walk.visit at hvisit
  split at hvisit
  · rename_i hseen
    exact Except.ok.inj hvisit ▸ ⟨h, h id (List.contains_iff_mem.1 hseen)⟩
  · obtain ⟨op, hop, hvisit⟩ := Outcome.exists_ok_of_bind hvisit
    split at hvisit
    · cases hvisit
    · rename_i hkind
      obtain rfl := Except.ok.inj hvisit
      have hfound : ∃ op, c.find? id = some op ∧ op.kind = .operation :=
        ⟨op, find?_of_expect hop, by simpa using hkind⟩
      exact ⟨List.forall_mem_cons.2 ⟨hfound, h⟩, hfound⟩

/-- A walk from where operations were found on succeeds. -/
def Passes (c : Catalog) (s : Shape) : Prop :=
  ∃ n w w', Walk.Visited c w ∧ c.walk n w s = .ok w'

/-- A walk that succeeds finds what it is told to look for, and succeeds further down. -/
theorem Passes.lists (h : c.Passes s) :
    (∀ id ∈ s.operations, ∃ op, c.find? id = some op ∧ op.kind = .operation) ∧
      ∀ id ∈ s.resources, ∃ t, c.find? id = some t ∧ c.Passes t := by
  obtain ⟨n, w, w', hw, hwalk⟩ := h
  cases n with
  | zero => cases hwalk
  | succ n =>
    obtain ⟨w₁, hvisits, hwalk⟩ := Outcome.exists_ok_of_bind hwalk
    have hkeep (w : Walk) (id : ShapeId) (w' : Walk) (hw : w.Visited c)
        (hvisit : Walk.visit c w id = .ok w') : w'.Visited c := (hw.visit hvisit).1
    refine ⟨fun id hid => ?_, fun id hid => ?_⟩
    · obtain ⟨w, w', hw, hvisit⟩ := Outcome.exists_ok_of_foldlM hvisits hw hkeep id hid
      exact (hw.visit hvisit).2
    · have hdown (w : Walk) (id : ShapeId) (w' : Walk) (hw : w.Visited c)
          (hstep : (do c.walk n w (← c.expect id)) = .ok w') : w'.Visited c := by
        obtain ⟨t, -, hstep⟩ := Outcome.exists_ok_of_bind hstep
        exact Walk.of_walk hw hkeep hstep
      obtain ⟨w, w', hw, hstep⟩ :=
        Outcome.exists_ok_of_foldlM hwalk (Outcome.of_foldlM hvisits hw hkeep) hdown id hid
      obtain ⟨t, ht, hstep⟩ := Outcome.exists_ok_of_bind hstep
      exact ⟨t, find?_of_expect ht, n, w, w', hw, hstep⟩

/-- A walk that succeeds does so at every shape that is reached. -/
theorem Passes.reaches (h : c.Passes s) (hst : c.Reaches s t) : c.Passes t := by
  induction hst with
  | refl => exact h
  | tail _ hlists ih =>
    obtain ⟨-, id, hid, hfind⟩ := hlists
    obtain ⟨t, ht, hpasses⟩ := ih.lists.2 id hid
    rw [hfind] at ht
    exact Option.some.inj ht ▸ hpasses

/-- Whatever is listed on the way from a shape is there, and what is listed as an operation is one.
-/
def Resolves (c : Catalog) (s : Shape) : Prop :=
  ∀ t, c.Reaches s t →
    (∀ id ∈ t.operations, ∃ op, c.find? id = some op ∧ op.kind = .operation) ∧
    ∀ id ∈ t.resources, (c.find? id).isSome = true

theorem Passes.resolves (h : c.Passes s) : c.Resolves s := by
  intro t ht
  obtain ⟨hoperation, hresource⟩ := (h.reaches ht).lists
  refine ⟨hoperation, fun id hid => ?_⟩
  obtain ⟨r, hr, -⟩ := hresource id hid
  rw [hr]
  rfl

/-- What stops a walk does not resolve. -/
theorem Obstacle.not_resolves {f : Failure} (h : c.Obstacle s f) : ¬ c.Resolves s := by
  intro hall
  rcases h with ⟨ht, hid, hop, hkind⟩ | ⟨ht, hid, hnone⟩
  · obtain ⟨op', hop', hkind'⟩ := (hall _ ht).1 _ hid
    cases hop.symm.trans hop'
    exact hkind hkind'
  · rcases List.mem_append.1 hid with hid | hid
    · obtain ⟨op', hop', -⟩ := (hall _ ht).1 _ hid
      cases hnone.symm.trans hop'
    · have hsome := (hall _ ht).2 _ hid
      rw [hnone] at hsome
      cases hsome

/-- **A walk succeeds** exactly if all that it comes across resolves. -/
theorem Keyed.exists_walk_iff (hc : c.Keyed) (hs : c.Knows s) (hacyclic : c.AcyclicFrom s) :
    (∃ w, c.walk (c.entries.size + 2) {} s = .ok w) ↔ c.Resolves s := by
  refine ⟨fun ⟨w, hw⟩ => ?_, fun hall => ?_⟩
  · have hpasses : c.Passes s := ⟨_, {}, w, by simp [Walk.Visited], hw⟩
    exact hpasses.resolves
  · cases hw : c.walk (c.entries.size + 2) {} s with
    | ok w => exact ⟨w, rfl⟩
    | error f => exact absurd hall (hc.obstacle_of_acyclic hs hacyclic hw).not_resolves

/-- What a walk from a service finds are its operations. -/
theorem operations_of_find? {service : ShapeId} (h : c.find? service = some s) :
    c.operations service =
      (c.walk (c.entries.size + 2) {} s >>= fun w => .ok w.found) := by
  rw [operations, expect_of_find? h]
  rfl

end Catalog

/-! ## From an assembly on -/

namespace Assembly

open Catalog

/-- **The operations of a service** of the catalog of an assembly, if no resource is inside itself:
listing them fails only for an id that is listed as an operation and is none, or for the empty id,
which nothing has and which the service or a resource lists. It succeeds exactly if every id that is
listed as an operation is one, and every resource that is listed is there. -/
theorem operations_of_service {a : Assembly} {c : Catalog} (h : a.toCatalog.run.1 = .ok c)
    {s : Shape} (hs : s ∈ c.services) (hacyclic : c.AcyclicFrom s) :
    (∀ f, c.operations s.id = .error f → c.Fault s f) ∧
    ((∃ ops, c.operations s.id = .ok ops) ↔ ∀ t, c.Reaches s t →
      (∀ id ∈ t.operations, ∃ op, c.find? id = some op ∧ op.kind = .operation) ∧
      ∀ id ∈ t.resources, (c.find? id).isSome = true) := by
  have hc : c.Imported := imported_of_gives ⟨[], h⟩
  have hmem : s ∈ c.shapes := (List.mem_filter.1 hs).1
  have hoperations := operations_of_find? (hc.find?_id hmem)
  refine ⟨fun f hf => ?_, Iff.trans ?_ (hc.keyed.exists_walk_iff (.inl hmem) hacyclic)⟩
  · rw [hoperations] at hf
    rcases Outcome.error_or_of_bind hf with hf | ⟨w, -, hf⟩
    · exact hc.fault_of_obstacle (.inl hmem) (hc.keyed.obstacle_of_acyclic (.inl hmem) hacyclic hf)
    · cases hf
  · rw [hoperations]
    refine ⟨fun ⟨ops, hops⟩ => ?_, fun ⟨w, hw⟩ => ⟨w.found, by rw [hw]; rfl⟩⟩
    obtain ⟨w, hw, -⟩ := Outcome.exists_ok_of_bind hops
    exact ⟨w, hw⟩

/-- A service with a resource that lists a structure among its operations. -/
def atlas : Assembly :=
  let service : ShapeDef Nat :=
    { type := "service", operations := [some "ex#Find"], resources := [some "Road"] }
  let road : ShapeDef Nat :=
    { type := "resource", read := some "ex#Find", operations := [some "ex#Length"] }
  (((({ version := "2.0" } : Assembly).insert "ex#Atlas" (some service)).insert "ex#Road" (some road)).insert
    "ex#Find" (some { type := "operation" })).insert "ex#Length" (some { type := "structure" })

/-- Its catalog. -/
def atlasCatalog : Catalog :=
  let service : Shape :=
    { id := ⟨"ex#Atlas"⟩, kind := .service, operations := [⟨"ex#Find"⟩], resources := [⟨"ex#Road"⟩] }
  let road : Shape :=
    { id := ⟨"ex#Road"⟩, kind := .resource, operations := [⟨"ex#Find"⟩, ⟨"ex#Length"⟩] }
  { entries := (((({} : OrderedMap Shape).insert "ex#Atlas" service).insert "ex#Road" road).insert
      "ex#Find" { id := ⟨"ex#Find"⟩, kind := .operation }).insert
      "ex#Length" { id := ⟨"ex#Length"⟩, kind := .structure_ } }

theorem toCatalog_atlas : atlas.toCatalog.run.1 = .ok atlasCatalog := by rfl

theorem acyclicFrom_atlas (s : Shape) : atlasCatalog.AcyclicFrom s :=
  acyclicFrom_of_measure (fun s => s.resources.length) (by decide) s

theorem operations_of_service_atlas :
    ∃ s ∈ atlasCatalog.services, s.id = ⟨"ex#Atlas"⟩ ∧
      atlasCatalog.operations s.id = .error (.notAnOperation ⟨"ex#Length"⟩ .structure_) ∧
      atlasCatalog.Fault s (.notAnOperation ⟨"ex#Length"⟩ .structure_) := by
  have hfail : atlasCatalog.operations ⟨"ex#Atlas"⟩ =
      .error (.notAnOperation ⟨"ex#Length"⟩ .structure_) := by rfl
  exact ⟨_, List.mem_cons_self, rfl, hfail,
    (operations_of_service toCatalog_atlas List.mem_cons_self (acyclicFrom_atlas _)).1 _ hfail⟩

/-- A service that lists a null among its operations. -/
def blankAtlas : Assembly :=
  ({ version := "2.0" } : Assembly).insert "ex#Atlas" (some { type := "service", operations := [none] })

/-- The service in its catalog. -/
def blankService : Shape := { id := ⟨"ex#Atlas"⟩, kind := .service, operations := [⟨""⟩] }

/-- What is listed and is no operation is not all there is to fail for: the empty id is looked for
as well. -/
theorem operations_blankService :
    ¬ ∀ (a : Assembly) (c : Catalog), a.toCatalog.run.1 = .ok c → ∀ s ∈ c.services,
      c.AcyclicFrom s → ∀ f, c.operations s.id = .error f → ∃ id kind, f = .notAnOperation id kind := by
  intro h
  have hcatalog : blankAtlas.toCatalog.run.1 =
      .ok { entries := ({} : OrderedMap Shape).insert "ex#Atlas" blankService } := by rfl
  obtain ⟨id, kind, hf⟩ := h blankAtlas _ hcatalog blankService List.mem_cons_self
    (acyclicFrom_of_measure (fun s => s.resources.length) (by decide) blankService)
    (.shapeNotFound ⟨""⟩) (by rfl)
  cases hf

end Assembly
end Shapewright
