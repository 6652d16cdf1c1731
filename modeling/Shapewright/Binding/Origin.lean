import Shapewright.Shape.Basic

/-!
# Where a value comes from

Each member of an operation's input is bound to a part of the request.

* `Origin` — the parts of a request.
* `Origin.of` — the part that a member's traits choose.
* `Mode`, `modeOf` — what happens to a member whose value is absent.
-/

set_option autoImplicit false

namespace Shapewright

/-- The part of a request that a value comes from. -/
inductive Origin where
  /-- No part was chosen. -/
  | none_
  /-- A label in the path. -/
  | path
  /-- A query parameter. -/
  | query
  | header
  /-- The whole body. -/
  | payload
  /-- A field of the body. -/
  | body
  /-- A number that stands for no part. -/
  | other (index : Nat)
  deriving DecidableEq, Repr

namespace Origin

/-- The parts in the order of their numbers. -/
def all : List Origin := [.none_, .path, .query, .header, .payload, .body]

/-- The word for a part of a request. -/
def name : Origin → String
  | .none_ => "none"
  | .path => "path"
  | .query => "query"
  | .header => "header"
  | .payload => "payload"
  | .body => "body"
  | .other index => "OriginType(" ++ toString index ++ ")"

/-- The part with a number. -/
def ofIndex (index : Nat) : Origin := (all[index]?).getD (.other index)

/-- The constant that generated code names a part by; what was not chosen is in the body. -/
def constant : Origin → String
  | .path => "OriginPath"
  | .query => "OriginQuery"
  | .header => "OriginHeader"
  | .payload => "OriginPayload"
  | _ => "OriginBody"

/-- Whether values from this part arrive as text. -/
def isText : Origin → Bool
  | .path | .query | .header => true
  | _ => false

/-- The part of a request that a member is bound to: payload before label, query and header. -/
def of (m : Member) : Origin :=
  if m.traits.has Trait.httpPayload then .payload
  else if m.traits.has Trait.httpLabel then .path
  else if m.traits.has Trait.httpQuery then .query
  else if m.traits.has Trait.httpHeader then .header
  else .none_

end Origin

/-- What happens to a member whose value is absent. -/
inductive Mode where
  /-- It gets a default. -/
  | withDefault
  /-- The request fails. -/
  | orThrow
  /-- It stays absent. -/
  | nullable
  deriving DecidableEq, Repr

/-- The mode with a number; those beyond the list count as the last. -/
def Mode.ofIndex (index : Nat) : Mode :=
  ([.withDefault, .orThrow, .nullable][index]?).getD .nullable

/-- The word for a mode. -/
def Mode.name : Mode → String
  | .withDefault => "with-default"
  | .orThrow => "or-throw"
  | .nullable => "nullable"

/-- The mode of a member, with its default if it has one. The member's own default comes before that
of its target, and both come before being required; a default of null is none. -/
def modeOf (m : Member) (target : Shape) : Mode × Option Node :=
  let default? := (Traits.get? m.traits Trait.default_).orElse fun _ =>
    Traits.get? target.traits Trait.default_
  match default? with
  | some n => if n.kind != .null then (.withDefault, some n) else absent
  | none => absent
where
  /-- The mode of a member without a default. -/
  absent : Mode × Option Node := (if m.isRequired then .orThrow else .nullable, none)

/-- Whether a member always has a value once it is bound. -/
def isNonNullable (m : Member) (target : Shape) : Bool :=
  (modeOf m target).1 != .nullable

end Shapewright
