import Shapewright.Assembly.Merge
import Shapewright.Assembly.Mixin
import Shapewright.Catalog
import Shapewright.Naming

/-!
# From an assembly to a catalog

Building a catalog settles what documents leave open: the kind of each shape, the full id of each
reference, and that every reference has a target.

* `Noting` — work that may fail and notes warnings on the way.
* `absolute` — the full id of a reference.
* `importShape` — one shape.
* `checkTargets` — every reference must lead somewhere.
* `Assembly.toCatalog` — the catalog of an assembly whose mixins and applied traits are settled.
-/

set_option autoImplicit false

namespace Shapewright

/-- Work that may fail, noting warnings on the way. -/
abbrev Noting := ExceptT Failure (StateM (List Warning))

namespace Noting

/-- Notes a warning. -/
def warn (w : Warning) : Noting Unit :=
  modify (· ++ [w])

/-- Work that notes nothing. -/
def lift {α : Type} : Outcome α → Noting α
  | .ok a => pure a
  | .error f => throw f

/-- The outcome of some work, and what was noted. -/
def run {α : Type} (work : Noting α) : Outcome α × List Warning :=
  (ExceptT.run work).run []

end Noting

namespace Assembly

/-- The full id of a reference. One without a namespace means a shape of the prelude, or else one in
the namespace of the shape it stands in. -/
def absolute (ns id : String) : Noting ShapeId := do
  if Text.hasChar '#' id then return ⟨id⟩
  match Prelude.find? (Prelude.id id) with
  | some s => return s.id
  | none =>
    Noting.warn (.relativeId id ns)
    return ShapeId.make ns id

/-- The full id of a reference that may be missing. -/
def resolveRef (ns : String) : Ref → Noting ShapeId
  | none => return ⟨""⟩
  | some target => if target == "" then return ⟨""⟩ else absolute ns target

/-- The full ids of references. -/
def resolveRefs (ns : String) (refs : List Ref) : Noting (List ShapeId) :=
  refs.mapM (resolveRef ns)

/-- A member of a shape. -/
def importMember (container : ShapeId) (name : String) (m : MemberDef) : Noting Member := do
  let target ← absolute container.namespace_ m.target
  return { name, container, target, traits := m.traits.getD {} }

/-- The members of a structure, union or enumeration. -/
def importMembers (a : Assembly) (id : ShapeId) (s : ShapeDef Nat) (shape : Shape) :
    Noting Shape := do
  ((s.members.map (·.toList)).getD []).foldlM (fun (shape : Shape) (name, i) => do
    match i.bind a.cell? with
    | none => throw .nullReference
    | some m =>
      let m ← importMember id name m
      return shape.addMember name m.target m.traits) shape

/-- The constants of an enumeration that is written as a trait of a string. One without a name is
named after its value. -/
def importLegacyEnum (shape : Shape) : Shape :=
  let items := ((Traits.get? shape.traits Trait.enum).map Node.items).getD []
  items.foldl (fun (shape : Shape) item =>
    let value := item.fieldString "value"
    let given := item.fieldString "name"
    let name := if given == "" then Naming.constant value else given
    let doc := item.fieldString "documentation"
    let traits : Traits := OrderedMap.insert {} Trait.enumValue (some (.ofString value))
    let traits := if doc == "" then traits
      else OrderedMap.insert traits Trait.documentation (some (.ofString doc))
    shape.addMember name ShapeId.unit traits) shape

/-- The kind of a shape. A list of unique items is a set, and a string with constants is an
enumeration. -/
def kindOf (id : String) (s : ShapeDef Nat) : Outcome Kind :=
  let has := fun (trait : String) => (s.traits.map (Traits.has · trait)).getD false
  match s.type with
  | "apply" => .error (.unresolvedApply id)
  | "set" => .ok .set
  | "list" => .ok (if has Trait.uniqueItems then .set else .list)
  | "string" => .ok (if has Trait.enum then .enum else .string)
  | type => match Kind.ofName? type with
    | some kind => .ok kind
    | none => .error (.unsupportedType id type)

/-- The references to the operations that make up the life cycle of a resource. -/
def lifecycle (s : ShapeDef Nat) : List Ref :=
  [s.create, s.put, s.read, s.update, s.delete, s.list].filter Option.isSome

/-- A shape of the catalog. -/
def importShape (a : Assembly) (key : String) (s : ShapeDef Nat) : Noting Shape := do
  let id : ShapeId := ⟨key⟩
  let ns := id.namespace_
  let kind ← Noting.lift (kindOf key s)
  let shape : Shape := { id, kind, traits := s.traits.getD {} }
  match kind with
  | .list | .set =>
    match s.member with
    | none => throw (.missingItem s.type id)
    | some m => return { shape with item := some (← importMember id "member" m) }
  | .map =>
    match s.key, s.value with
    | some k, some v =>
      let k ← importMember id "key" k
      let v ← importMember id "value" v
      return { shape with key := some k, value := some v }
    | _, _ => throw (.incompleteMap key)
  | .structure_ | .union | .intEnum => importMembers a id s shape
  | .enum =>
    if s.type == "string" then return importLegacyEnum shape
    importMembers a id s shape
  | .operation =>
    let input ← resolveRef ns s.input
    let output ← resolveRef ns s.output
    let errors ← resolveRefs ns s.errors
    return { shape with input, output, errors }
  | .service =>
    let operations ← resolveRefs ns s.operations
    let resources ← resolveRefs ns s.resources
    return { shape with version := s.version, operations, resources }
  | .resource =>
    let operations ← resolveRefs ns (lifecycle s ++ s.operations ++ s.collectionOperations)
    let resources ← resolveRefs ns s.resources
    return { shape with operations, resources }
  | _ => return shape

/-- Every reference of a shape must lead somewhere; the empty one leads nowhere. -/
def checkShape (c : Catalog) (s : Shape) : Outcome Unit :=
  s.references.forM fun id =>
    if id.isEmpty || (c.find? id).isSome then .ok () else .error (.undefinedTarget id s.id)

/-- Every reference in a catalog must lead somewhere. -/
def checkTargets (c : Catalog) : Outcome Unit :=
  c.shapes.forM (checkShape c)

/-- Adds one shape to a catalog; nulls are passed over. -/
def importNext (a : Assembly) (c : Catalog) (id : String) : Noting Catalog :=
  match a.shape? id with
  | none => return c
  | some s => do
    let shape ← importShape a id s
    Noting.lift (c.add shape)

/-- The catalog of an assembly. -/
def toCatalog (a : Assembly) : Noting Catalog := do
  let c ← a.ids.foldlM (importNext a) {}
  Noting.lift (checkTargets c)
  return c

end Assembly
end Shapewright
