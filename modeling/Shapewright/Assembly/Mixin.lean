import Shapewright.Assembly.Basic

/-!
# Mixins

A shape may list mixins.  It takes over their members, in the order of the list, and then its own;
of two members with the same name the shape's own one counts, else that of the first mixin.  Traits
are taken over too, but there the last mixin counts, and the traits that make a shape a mixin or a
trait are left behind.

* `Borrowed` — the members and traits gathered for a shape.
* `Expansion.expand` — one shape, after its mixins; `Expansion.expandMixins` — all that a shape lists,
  each after what expands it.
* `Assembly.expandAll` — every shape.

A shape is marked as done before its mixins are looked at, so mixins that list each other come to an
end.
-/

set_option autoImplicit false

namespace Shapewright

/-- What a shape takes over. -/
structure Borrowed where
  members : OrderedMap (Option Nat) := {}
  traits : Traits := {}

namespace Borrowed

/-- Takes over from a mixin. -/
def addMixin (b : Borrowed) (mixin : ShapeDef Nat) : Borrowed :=
  let members := ((mixin.members.map (·.toList)).getD []).foldl
    (fun acc (name, m) => if acc.contains name then acc else acc.insert name m) b.members
  let kept := ((mixin.traits.map Traits.entries).getD []).filter fun (id, _) =>
    id != Trait.mixin && id != Trait.trait
  { members, traits := b.traits.addAll kept }

/-- Adds a shape's own members and traits. -/
def addOwn (b : Borrowed) (s : ShapeDef Nat) : Borrowed :=
  let members := ((s.members.map (·.toList)).getD []).foldl
    (fun acc (name, m) => acc.insert name m) b.members
  { members, traits := b.traits.addAll ((s.traits.map Traits.entries).getD []) }

/-- The shape with what it has taken over; it no longer lists mixins. -/
def finish (b : Borrowed) (s : ShapeDef Nat) : ShapeDef Nat :=
  let all := b.addOwn s
  { s with
    members := if all.members.size == 0 then s.members else some all.members
    traits := some all.traits
    mixins := none }

end Borrowed

/-- An assembly under expansion, with the ids that are done. -/
structure Expansion where
  assembly : Assembly
  done : List String := []
  failure : Option Failure := none

namespace Expansion

/-- Takes over from one mixin that has been expanded. -/
def borrow (e : Expansion) (id : String) (s : ShapeDef Nat) (b : Borrowed) (target : String) :
    Expansion × Borrowed :=
  match e.assembly.shape? target with
  | none => ({ e with failure := some .nullReference }, b)
  | some mixin =>
    if mixin.members.isSome && s.type != mixin.type then
      ({ e with failure := some (.mixinMismatch target s.type id) }, b)
    else (e, b.addMixin mixin)

/-- Expands the mixins of a shape one after the other with `expand` and takes over from each. -/
def expandMixins (expand : Expansion → String → Expansion) (e : Expansion) (id : String)
    (s : ShapeDef Nat) (b : Borrowed) : List Ref → Expansion × Borrowed
  | [] => (e, b)
  | none :: _ => ({ e with failure := some .nullReference }, b)
  | some target :: rest =>
    let e := expand e target
    if e.failure.isSome then (e, b)
    else
      let (e, b) := e.borrow id s b target
      if e.failure.isSome then (e, b) else expandMixins expand e id s b rest

/-- Expands a shape, unless it is done. The first argument bounds how many mixins can follow one
another; `expandAll` gives a bound that is never met. -/
def expand : Nat → Expansion → String → Expansion
  | 0, e, id => { e with failure := some (.endlessNesting ⟨id⟩) }
  | depth + 1, e, id =>
    if e.done.contains id then e
    else
      let e := { e with done := id :: e.done }
      match e.assembly.shape? id with
      | none => { e with failure := some (.mixinMissing id) }
      | some s =>
        match s.mixins with
        | none => e
        | some mixins =>
          let (e, b) := expandMixins (expand depth) e id s {} mixins
          if e.failure.isSome then e
          else { e with assembly := e.assembly.insert id (some (b.finish s)) }

/-- Expands shapes one after the other, as long as nothing fails. -/
def expandEach (depth : Nat) : List String → Expansion → Expansion
  | [], e => e
  | id :: rest, e =>
    let e := expand depth e id
    if e.failure.isSome then e else expandEach depth rest e

end Expansion

/-- Expands every shape. A chain of mixins that are not done cannot be longer than the assembly. -/
def Assembly.expandAll (a : Assembly) : Update :=
  let e := Expansion.expandEach (a.ids.length + 2) a.ids { assembly := a }
  { assembly := e.assembly, failure := e.failure }

end Shapewright
