import Shapewright.Json.Basic

/-!
# Maps that remember their order

A map from texts whose keys have an order: that of insertion, or that of a document the map was
read from.  A document may repeat a key; then the key is listed as often as it occurs, and its last
value counts.

* `OrderedMap` — the listed keys and the bindings.
* `get?`, `contains`, `toList`, `values` — looking.
* `insert`, `erase` — a new key goes to the end, a bound one keeps its place.
* `ofFields` — a map from the fields of a document.
-/

set_option autoImplicit false

namespace Shapewright

/-- A map with an order on its keys. -/
structure OrderedMap (α : Type) where
  /-- The keys in order; one may be listed more than once. -/
  keys : List String := []
  /-- The value of each key, once. -/
  bindings : List (String × α) := []
  deriving Repr

namespace OrderedMap

variable {α β : Type}

instance : Inhabited (OrderedMap α) := ⟨{}⟩

/-- The value bound to a key. -/
def get? (m : OrderedMap α) (key : String) : Option α :=
  m.bindings.lookup key

/-- Whether a key is bound. -/
def contains (m : OrderedMap α) (key : String) : Bool :=
  (m.get? key).isSome

/-- Replaces the value of a bound key, or adds a binding. -/
def bind (key : String) (v : α) : List (String × α) → List (String × α)
  | [] => [(key, v)]
  | (k, w) :: rest => if k == key then (k, v) :: rest else (k, w) :: bind key v rest

/-- Binds a key. A new one is listed last; one that is bound keeps its place. -/
def insert (m : OrderedMap α) (key : String) (v : α) : OrderedMap α :=
  { keys := if m.contains key then m.keys else m.keys ++ [key]
    bindings := bind key v m.bindings }

/-- Removes a key wherever it is listed. -/
def erase (m : OrderedMap α) (key : String) : OrderedMap α :=
  if m.contains key then
    { keys := m.keys.filter (· != key)
      bindings := m.bindings.filter fun (k, _) => k != key }
  else m

/-- The keys with their values, in order. -/
def toList (m : OrderedMap α) : List (String × α) :=
  m.keys.filterMap fun k => (m.get? k).map fun v => (k, v)

/-- The values in the order of their keys. -/
def values (m : OrderedMap α) : List α :=
  m.keys.filterMap m.get?

/-- How many keys are listed. -/
def size (m : OrderedMap α) : Nat :=
  m.keys.length

/-- The map of a list of fields: every key is listed where it occurs, the last value counts. -/
def ofFields (fields : List (String × α)) : OrderedMap α :=
  { keys := fields.map (·.1)
    bindings := fields.foldl (fun bs (k, v) => bind k v bs) [] }

/-- The map with a function applied to every value. -/
def map (f : α → β) (m : OrderedMap α) : OrderedMap β :=
  { keys := m.keys, bindings := m.bindings.map fun (k, v) => (k, f v) }

end OrderedMap
end Shapewright
