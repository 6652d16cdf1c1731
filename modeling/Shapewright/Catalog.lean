import Shapewright.Failure
import Shapewright.Shape.Prelude

/-!
# Catalogs

A catalog holds the shapes of a model in the order in which they were loaded; the shapes of the
prelude can be found in every catalog but belong to none.

* `Catalog.add` — loading a shape.
* `find?`, `expect`, `target` — resolving ids.
* `shapes`, `ofKind`, `services`, `namespaces` — listing.
* `operations` — the operations that can be reached from a service.
-/

set_option autoImplicit false

namespace Shapewright

/-- The shapes of a model. -/
structure Catalog where
  entries : OrderedMap Shape := {}
  deriving Repr

namespace Catalog

instance : Inhabited Catalog := ⟨{}⟩

/-- Adds a shape after the others. -/
def add (c : Catalog) (s : Shape) : Outcome Catalog :=
  if s.id.isPrelude then .error (.preludeRedefined s.id)
  else if c.entries.contains s.id.text then .error (.duplicateInCatalog s.id)
  else .ok ⟨c.entries.insert s.id.text s⟩

/-- The shape with an id. -/
def find? (c : Catalog) (id : ShapeId) : Option Shape :=
  if id.isPrelude then Prelude.find? id else c.entries.get? id.text

/-- The shape with an id, which has to exist. -/
def expect (c : Catalog) (id : ShapeId) : Outcome Shape :=
  match c.find? id with
  | some s => .ok s
  | none => .error (.shapeNotFound id)

/-- The shape that a member refers to. -/
def target (c : Catalog) (m : Member) : Outcome Shape :=
  (c.expect m.target).at_ (.member m.id)

/-- The model's own shapes in load order. -/
def shapes (c : Catalog) : List Shape := c.entries.values

/-- The shapes of a kind in load order. -/
def ofKind (c : Catalog) (kind : Kind) : List Shape :=
  c.shapes.filter fun s => s.kind == kind

/-- The services in load order. -/
def services (c : Catalog) : List Shape := c.ofKind .service

/-- The namespaces of the model, sorted. -/
def namespaces (c : Catalog) : List String :=
  Text.sorted (Text.firstBy id (c.entries.keys.map fun k => (ShapeId.mk k).namespace_))

/-- The operations found so far, and the ids that were looked at. -/
structure Walk where
  found : List Shape := []
  seen : List ShapeId := []

/-- Adds an operation unless its id was looked at before. -/
def Walk.visit (c : Catalog) (w : Walk) (id : ShapeId) : Outcome Walk :=
  if w.seen.contains id then .ok w
  else do
    let op ← c.expect id
    if op.kind != .operation then throw (.notAnOperation id op.kind)
    return ⟨w.found ++ [op], id :: w.seen⟩

/-- The operations of a service or resource, and then those of its resources. The first argument
bounds how deep resources are nested: for one that contains itself, a walk without a bound does not
end, and here the bound is reported. -/
def walk (c : Catalog) : Nat → Walk → Shape → Outcome Walk
  | 0, _, s => .error (.endlessNesting s.id)
  | depth + 1, w, s => do
    let w ← s.operations.foldlM (Walk.visit c) w
    s.resources.foldlM (fun w id => do walk c depth w (← c.expect id)) w

/-- The operations that can be reached from a service, each once, in declaration order. A chain of
resources as long as the bound repeats one, so that only a walk without an end meets it. -/
def operations (c : Catalog) (service : ShapeId) : Outcome (List Shape) := do
  let s ← c.expect service
  return (← c.walk (c.entries.size + 2) {} s).found

end Catalog
end Shapewright
