import Shapewright.Text.Split

/-!
# Shape ids

A shape is named by its namespace and its name, `example.weather#City`; a member by its shape and
its own name behind a `$`.  Ids are read leniently: each part is cut out of the text wherever its
mark stands first, and is empty if there is none.

* `ShapeId` — an id as it is written.
* `ShapeId.namespace_`, `name`, `member` — its parts.
* `ShapeId.isPrelude` — whether it names one of the shapes that every model knows.
-/

set_option autoImplicit false

namespace Shapewright

/-- The id of a shape or of a member. The empty one refers to nothing. -/
structure ShapeId where
  text : String
  deriving DecidableEq, Repr, Inhabited

namespace ShapeId

/-- The id of a name in a namespace. -/
def make (namespace_ name : String) : ShapeId :=
  ⟨namespace_ ++ "#" ++ name⟩

/-- The part before the first `#`. -/
def namespace_ (id : ShapeId) : String :=
  match Text.cut '#' id.text with
  | some (ns, _) => ns
  | none => ""

/-- The part between the first `#` and the `$` after it. -/
def name (id : ShapeId) : String :=
  let rest := match Text.cut '#' id.text with
    | some (_, rest) => rest
    | none => id.text
  match Text.cut '$' rest with
  | some (name, _) => name
  | none => rest

/-- The part behind the first `$`. -/
def member (id : ShapeId) : String :=
  match Text.cut '$' id.text with
  | some (_, member) => member
  | none => ""

/-- The id of a member of a shape. -/
def withMember (id : ShapeId) (member : String) : ShapeId :=
  ⟨id.text ++ "$" ++ member⟩

/-- The namespace of the shapes that every model knows. -/
def preludeNamespace : String := "smithy.api"

/-- Whether an id is in the namespace of the shapes that every model knows. -/
def isPrelude (id : ShapeId) : Bool :=
  id.namespace_ == preludeNamespace

/-- Whether the id refers to nothing. -/
def isEmpty (id : ShapeId) : Bool :=
  id.text == ""

/-- The structure without members that stands for no input or no output. -/
def unit : ShapeId := make preludeNamespace "Unit"

end ShapeId
end Shapewright
