import Shapewright.Document.Basic
import Shapewright.Shape.Id

/-!
# Assemblies

Documents are gathered into one assembly before a catalog is built from them.  A shape that borrows
from a mixin has the mixin's members, not copies of them: traits applied to one show in the other.
So an assembly keeps its members apart, and shapes refer to them.

* `Assembly` — the shapes, and the members they refer to.
* `Assembly.ofDocument` — the assembly of one document.
* `Update` — what a step of gathering leaves: the assembly as far as it got, and why it stopped.
* `Assembly.apply` — merging traits into a shape or a member.
-/

set_option autoImplicit false

namespace Shapewright

/-- Something to tell the user that does not stop the work. -/
inductive Warning where
  | versionMismatch (ours theirs : String)
  | relativeId (id namespace_ : String)
  deriving DecidableEq, Repr

/-- The wording of a warning. -/
def Warning.message : Warning → String
  | .versionMismatch ours theirs => "smithy version mismatch: " ++ ours ++ " and " ++ theirs
  | .relativeId id ns => "non-absolute id " ++ Text.quote id ++ ", assuming namespace " ++ ns

/-- Documents gathered into one. -/
structure Assembly where
  version : String := ""
  metadata : Option Node := none
  /-- Shapes by id; a null may stand for one. Their members are positions in `cells`. -/
  shapes : Option (OrderedMap (Option (ShapeDef Nat))) := none
  /-- All members. -/
  cells : List MemberDef := []
  deriving Repr

/-- What a step leaves. -/
structure Update where
  assembly : Assembly
  failure : Option Failure := none
  warnings : List Warning := []

namespace Assembly

instance : Inhabited Assembly := ⟨{}⟩

/-- Puts the members of a shape into cells from position `next` on. -/
def internMembers (next : Nat) (members : OrderedMap (Option MemberDef)) :
    OrderedMap (Option Nat) × List MemberDef :=
  let (bindings, cells) := members.bindings.foldl (fun (bs, cs) (key, m) => match m with
    | none => (bs ++ [(key, none)], cs)
    | some m => (bs ++ [(key, some (next + cs.length))], cs ++ [m]))
    (([] : List (String × Option Nat)), ([] : List MemberDef))
  ({ keys := members.keys, bindings }, cells)

/-- Puts the members of a shape into cells from position `next` on. -/
def internShape (next : Nat) (s : ShapeDef MemberDef) : ShapeDef Nat × List MemberDef :=
  let (members, cells) := match s.members with
    | none => (none, [])
    | some members =>
      let (members, cells) := internMembers next members
      (some members, cells)
  ({ type := s.type, version := s.version, member := s.member, key := s.key, value := s.value,
     members, mixins := s.mixins, create := s.create, put := s.put, read := s.read,
     update := s.update, delete := s.delete, list := s.list,
     collectionOperations := s.collectionOperations, operations := s.operations,
     resources := s.resources, input := s.input, output := s.output, errors := s.errors,
     traits := s.traits }, cells)

/-- Puts the members of shapes into cells from position `next` on. -/
def internShapes (next : Nat) (shapes : OrderedMap (Option (ShapeDef MemberDef))) :
    OrderedMap (Option (ShapeDef Nat)) × List MemberDef :=
  let (bindings, cells) := shapes.bindings.foldl (fun (bs, cs) (id, s) => match s with
    | none => (bs ++ [(id, none)], cs)
    | some s =>
      let (s, more) := internShape (next + cs.length) s
      (bs ++ [(id, some s)], cs ++ more))
    (([] : List (String × Option (ShapeDef Nat))), ([] : List MemberDef))
  ({ keys := shapes.keys, bindings }, cells)

/-- The assembly of one document, its members in cells from position `next` on. -/
def ofDocument (next : Nat) (d : Document) : Assembly :=
  match d.shapes with
  | none => { version := d.version, metadata := d.metadata }
  | some shapes =>
    let (shapes, cells) := internShapes next shapes
    { version := d.version, metadata := d.metadata, shapes := some shapes, cells }

/-- Whether nothing has been gathered yet. -/
def isEmpty (a : Assembly) : Bool :=
  a.version == "" && a.shapes.isNone

/-- The ids in order. -/
def ids (a : Assembly) : List String :=
  (a.shapes.map (·.keys)).getD []

/-- The shape with an id, unless a null stands for it. -/
def shape? (a : Assembly) (id : String) : Option (ShapeDef Nat) :=
  (a.shapes.bind (·.get? id)).join

/-- Binds an id to a shape or to null. -/
def insert (a : Assembly) (id : String) (s : Option (ShapeDef Nat)) : Assembly :=
  { a with shapes := some ((a.shapes.getD {}).insert id s) }

/-- The member at a position. -/
def cell? (a : Assembly) (i : Nat) : Option MemberDef := a.cells[i]?

/-- The member of a shape with a name, with its position. -/
def member? (a : Assembly) (s : ShapeDef Nat) (name : String) : Option (Nat × MemberDef) := do
  let i ← (← (← s.members).get? name)
  return (i, ← a.cell? i)

/-- Adds traits to others; later values win, and a value that was left out is filled in. -/
def addTraits (old : Option Traits) (more : Option Traits) : Traits :=
  (old.getD {}).addAll ((more.map Traits.entries).getD [])

/-- The shape and member that an id names: an id with exactly one `$` names a member. -/
def splitTarget (target : String) : String × String :=
  match Text.split '$' target with
  | [shape, member] => (shape, member)
  | _ => (target, "")

/-- Merges traits into a shape or a member. -/
def apply (a : Assembly) (target : String) (traits : Option Traits) : Update :=
  let (shapeId, name) := splitTarget target
  match a.shape? shapeId with
  | none => { assembly := a, failure := some (.applyTargetMissing shapeId) }
  | some s =>
    if name == "" then
      { assembly := a.insert shapeId (some { s with traits := some (addTraits s.traits traits) }) }
    else match a.member? s name with
      | none => { assembly := a, failure := some (.applyMemberMissing shapeId name) }
      | some (i, m) =>
        { assembly := { a with
            cells := a.cells.set i { m with traits := some (addTraits m.traits traits) } } }

/-- The namespaces of the ids, in the order in which they occur first. -/
def namespaces (a : Assembly) : List String :=
  Text.firstBy id (a.ids.map fun k => (ShapeId.mk k).namespace_)

end Assembly

/-- Goes on with a list of items as long as nothing fails; the warnings add up. -/
def Update.forEach {α : Type} (step : Assembly → α → Update) : List α → Assembly → Update
  | [], a => { assembly := a }
  | x :: rest, a =>
    let u := step a x
    if u.failure.isSome then u
    else
      let v := forEach step rest u.assembly
      { v with warnings := u.warnings ++ v.warnings }

end Shapewright
