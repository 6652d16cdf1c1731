import Shapewright.Assembly.Basic

/-!
# Gathering documents

* `Assembly.merge` — adds a document.
* `Assembly.applyAll` — carries out the statements that apply traits to other shapes.
-/

set_option autoImplicit false

namespace Shapewright
namespace Assembly

/-- The version of an assembly after a document of another version joins it: the second edition
takes over from the first, and other pairs that differ are worth a warning. -/
def mergeVersion (ours theirs : String) : String × List Warning :=
  if ours == theirs then (ours, [])
  else if Text.startsWith "1" ours && Text.startsWith "2" theirs then (theirs, [])
  else if Text.startsWith "2" ours && Text.startsWith "1" theirs then (ours, [])
  else (ours, [.versionMismatch ours theirs])

/-- Adds one shape. A statement that applies traits may meet the shape it is about in either order;
anything else must not be there yet. -/
def mergeShape (a : Assembly) (id : String) (incoming : Option (ShapeDef Nat)) : Update :=
  match a.shape? id, incoming with
  | none, _ => { assembly := a.insert id incoming }
  | some _, none => { assembly := a, failure := some .nullReference }
  | some present, some s =>
    if s.isApply && !present.isApply then a.apply id s.traits
    else if present.isApply && !s.isApply then (a.insert id (some s)).apply id present.traits
    else { assembly := a, failure := some (.duplicateInAssembly id) }

/-- Adds a document. The first one is taken as it is. -/
def merge (a : Assembly) (d : Document) : Update :=
  if a.isEmpty then { assembly := ofDocument 0 d }
  else
    let incoming := ofDocument a.cells.length d
    let (version, warnings) := mergeVersion a.version incoming.version
    let start := { a with
      version
      metadata := a.metadata.orElse fun _ => incoming.metadata
      cells := a.cells ++ incoming.cells }
    let u := Update.forEach (fun a id => a.mergeShape id (incoming.shape? id)) incoming.ids start
    { u with warnings := warnings ++ u.warnings }

/-- Carries out and removes one statement that applies traits; other shapes stay. -/
def applyOne (a : Assembly) (id : String) : Update :=
  match a.shape? id with
  | none => { assembly := a }
  | some s =>
    if s.isApply then
      let u := a.apply id s.traits
      if u.failure.isSome then u
      else { u with assembly := { u.assembly with
               shapes := u.assembly.shapes.map (·.erase id) } }
    else { assembly := a }

/-- Carries out and removes the statements that apply traits. -/
def applyAll (a : Assembly) : Update :=
  Update.forEach applyOne a.ids a

end Assembly
end Shapewright
