import Shapewright.Catalog
import Shapewright.Representation.Basic

/-!
# Choosing representations

* `Options` — what a user may choose.
* `Registry` — a catalog with options.
* `Registry.ofShape`, `Registry.ofMember` — the representation of a shape and of a member's target.
* `importSet` — the packages of a file.
-/

set_option autoImplicit false

namespace Shapewright

/-- The support package that generated code uses unless another is chosen. -/
def defaultSupportPackage : String := "github.com/boynton/smithygen/runtime"

/-- What a user may choose about generated code. -/
structure Options where
  /-- Simple shapes of the model are declared with their built-in type. -/
  inlineSimple : Bool := false
  /-- The path of the support package; empty means the usual one. -/
  supportPackage : String := ""
  deriving Repr

/-- The path of the support package. -/
def Options.package (o : Options) : String :=
  if o.supportPackage == "" then defaultSupportPackage else o.supportPackage

/-- Package paths as a file lists them: sorted, each once, the empty one left out. -/
def importSet (paths : List String) : List String :=
  Text.sorted (Text.firstBy id (paths.filter (· != "")))

/-- A catalog with the options that decide on representations. -/
structure Registry where
  catalog : Catalog
  options : Options := {}

namespace Registry

/-- The built-in type of a simple kind. -/
def builtin? : Kind → Option String
  | .boolean => some "bool"
  | .byte => some "int8"
  | .short => some "int16"
  | .integer => some "int32"
  | .long => some "int64"
  | .float => some "float32"
  | .double => some "float64"
  | .string => some "string"
  | _ => none

/-- The representation of the target of a member: a time format on the member comes before that of
the target. -/
def refine (m : Member) : Representation → Representation
  | .timestamp s format =>
    let own := m.traits.string Trait.timestampFormat
    .timestamp s (if own == "" then format else own)
  | r => r

/-- The representation of a shape. The first argument bounds how deep containers are nested: for one
that contains itself, a walk without a bound does not end, and here the bound is reported. -/
def resolve (g : Registry) : Nat → Shape → Outcome Representation
  | 0, s => .error (.endlessNesting s.id)
  | depth + 1, s =>
    let element := fun (m : Member) => do
      let target ← g.catalog.target m
      return refine m (← resolve g depth target)
    match builtin? s.kind with
    | some builtin =>
      .ok (.simple s builtin (!s.id.isPrelude && !g.options.inlineSimple))
    | none => match s.kind with
      | .timestamp => .ok (.timestamp s (s.traits.string Trait.timestampFormat))
      | .blob => .ok (.blob s)
      | .bigInteger => .ok (.bigInteger s)
      | .bigDecimal => .ok (.bigDecimal s)
      | .document => .ok (.document s)
      | .enum => .ok (.enum s)
      | .intEnum => .ok (.intEnum s)
      | .list | .set => match s.item with
        | none => .error (.missingItem s.kind.name s.id)
        | some m => return .list s (← element m)
      | .map => match s.value with
        | none => .error (.missingValue s.kind s.id)
        | some m => return .map s (← element m)
      | .structure_ | .union => .ok (.structure_ s)
      | kind => .error (.unsupportedKind s.id kind)

/-- Deeper than any chain of containers that does not repeat one. -/
def depthBound (g : Registry) : Nat := g.catalog.entries.size + 2

/-- The representation of a shape. -/
def ofShape (g : Registry) (s : Shape) : Outcome Representation :=
  g.resolve g.depthBound s

/-- The representation of the target of a member. -/
def ofMember (g : Registry) (m : Member) : Outcome Representation := do
  let target ← g.catalog.target m
  return refine m (← g.ofShape target)

end Registry
end Shapewright
