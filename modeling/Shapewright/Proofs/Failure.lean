import Mathlib.Data.List.Forall2
import Shapewright.Failure

/-!
# Steps that succeed

A computation that can fail succeeds only if each of its steps does.

* `Outcome.exists_ok_of_bind`, `Outcome.exists_ok_of_map` — the step before another one.
* `Outcome.ok_of_toOption` — an outcome whose result is known.
* `Outcome.forall₂_of_mapM`, `Outcome.forall₂_of_mapM_eq_some`, `Outcome.exists_ok_of_mapM`,
  `Outcome.exists_mem_of_mapM` — the same step for every item of a list.
* `Outcome.of_foldlM` — what every step keeps; `Outcome.exists_ok_of_foldlM` — each of the steps.
* `Outcome.error_or_of_bind`, `Outcome.exists_error_of_foldlM` — the step that fails.
* `Outcome.mapM_eq_ok_iff`, `Outcome.mapM_eq_error_iff` — when the same step succeeds for a list, and
  what it fails with.
* `Outcome.exists_mapM_eq_ok` — steps that succeed for every item make one for all of them.
* `Outcome.forM_ne_error` — a reason for which no step fails.
* `Outcome.of_forM_eq_ok` — where all steps succeed.
* `Outcome.at_eq_ok` — naming the place of a failure changes no success.
* `Failure.ofCollected_eq_none`, `Failure.message_within` — failures together and with their place.
-/

set_option autoImplicit false

namespace Shapewright
namespace Outcome

variable {α β : Type}

theorem exists_ok_of_bind {ε : Type} {x : Except ε α} {f : α → Except ε β} {b : β} (h : (x >>= f) = .ok b) :
    ∃ a, x = .ok a ∧ f a = .ok b := by
  cases x with
  | error e => cases h
  | ok a => exact ⟨a, rfl, h⟩

theorem exists_ok_of_map {ε : Type} {x : Except ε α} {f : α → β} {b : β} (h : x.map f = .ok b) :
    ∃ a, x = .ok a ∧ f a = b := by
  cases x with
  | error e => cases h
  | ok a => exact ⟨a, rfl, Except.ok.inj h⟩

theorem ok_of_toOption {ε : Type} {x : Except ε α} {a : α} (h : x.toOption = some a) : x = .ok a := by
  cases x with
  | error e => cases h
  | ok b => exact congrArg Except.ok (Option.some.inj h)

/-- A failure comes from one of two steps. -/
theorem error_or_of_bind {ε : Type} {x : Except ε α} {f : α → Except ε β} {e : ε}
    (h : (x >>= f) = .error e) : x = .error e ∨ ∃ a, x = .ok a ∧ f a = .error e := by
  cases x with
  | error e' => exact .inl (congrArg Except.error (Except.error.inj h))
  | ok a => exact .inr ⟨a, rfl, h⟩

/-- Each item of the outcome comes from the item in its place. -/
theorem forall₂_of_mapM {ε : Type} {f : α → Except ε β} {xs : List α} {ys : List β}
    (h : xs.mapM f = .ok ys) : List.Forall₂ (fun x y => f x = .ok y) xs ys := by
  induction xs generalizing ys with
  | nil =>
    cases h
    exact .nil
  | cons x xs ih =>
    rw [List.mapM_cons] at h
    obtain ⟨y, hy, h⟩ := exists_ok_of_bind h
    obtain ⟨zs, hzs, h⟩ := exists_ok_of_bind h
    cases h
    exact .cons hy (ih hzs)

/-- Items succeed together if each of them does. -/
theorem mapM_eq_ok_iff {ε : Type} {f : α → Except ε β} {xs : List α} {ys : List β} :
    xs.mapM f = .ok ys ↔ List.Forall₂ (fun x y => f x = .ok y) xs ys := by
  refine ⟨forall₂_of_mapM, fun h => ?_⟩
  induction h with
  | nil => rfl
  | cons hx _ ih =>
    rw [List.mapM_cons, hx, ih]
    rfl

/-- The first item that fails decides how items fail together. -/
theorem mapM_eq_error_iff {ε : Type} {f : α → Except ε β} {xs : List α} {e : ε} :
    xs.mapM f = .error e ↔ ∃ front x back, xs = front ++ x :: back ∧
      (∀ y ∈ front, ∃ b, f y = .ok b) ∧ f x = .error e := by
  constructor
  · intro h
    induction xs with
    | nil => cases h
    | cons x xs ih =>
      rw [List.mapM_cons] at h
      rcases error_or_of_bind h with hx | ⟨b, hx, h⟩
      · exact ⟨[], x, xs, rfl, by simp, hx⟩
      · rcases error_or_of_bind h with hxs | ⟨bs, -, h⟩
        · obtain ⟨front, y, back, rfl, hfront, hy⟩ := ih hxs
          exact ⟨x :: front, y, back, rfl, List.forall_mem_cons.2 ⟨⟨b, hx⟩, hfront⟩, hy⟩
        · cases h
  · rintro ⟨front, x, back, rfl, hfront, hx⟩
    induction front with
    | nil =>
      rw [List.nil_append, List.mapM_cons, hx]
      rfl
    | cons y front ih =>
      obtain ⟨⟨b, hy⟩, hfront⟩ := List.forall_mem_cons.1 hfront
      rw [List.cons_append, List.mapM_cons, hy, ih hfront]
      rfl

/-- The same for steps that give no reason. -/
theorem forall₂_of_mapM_eq_some {f : α → Option β} {xs : List α} {ys : List β}
    (h : xs.mapM f = some ys) : List.Forall₂ (fun x y => f x = some y) xs ys := by
  induction xs generalizing ys with
  | nil =>
    cases h
    exact .nil
  | cons x xs ih =>
    rw [List.mapM_cons] at h
    obtain ⟨y, hy, h⟩ := Option.bind_eq_some_iff.1 h
    obtain ⟨zs, hzs, h⟩ := Option.bind_eq_some_iff.1 h
    cases h
    exact .cons hy (ih hzs)

theorem exists_ok_of_mapM {ε : Type} {f : α → Except ε β} {xs : List α} {ys : List β}
    (h : xs.mapM f = .ok ys) : ∀ x ∈ xs, ∃ y, f x = .ok y := by
  intro x hx
  obtain ⟨i, hi, rfl⟩ := List.mem_iff_getElem.1 hx
  have hall := List.forall₂_iff_get.1 (forall₂_of_mapM h)
  exact ⟨_, hall.2 i hi (hall.1 ▸ hi)⟩

/-- Each outcome is that of some item. -/
theorem exists_mem_of_mapM {f : α → Outcome β} {xs : List α} {ys : List β}
    (h : xs.mapM f = .ok ys) : ∀ y ∈ ys, ∃ x ∈ xs, f x = .ok y := by
  intro y hy
  obtain ⟨i, hi, rfl⟩ := List.mem_iff_getElem.1 hy
  have hall := List.forall₂_iff_get.1 (forall₂_of_mapM h)
  have hi' : i < xs.length := hall.1 ▸ hi
  exact ⟨_, List.getElem_mem hi', hall.2 i hi' hi⟩

/-- The same for steps that give no reason. -/
theorem exists_mem_of_mapM_eq_some {f : α → Option β} {xs : List α} {ys : List β}
    (h : xs.mapM f = some ys) : ∀ y ∈ ys, ∃ x ∈ xs, f x = some y := by
  intro y hy
  obtain ⟨i, hi, rfl⟩ := List.mem_iff_getElem.1 hy
  have hall := List.forall₂_iff_get.1 (forall₂_of_mapM_eq_some h)
  have hi' : i < xs.length := hall.1 ▸ hi
  exact ⟨_, List.getElem_mem hi', hall.2 i hi' hi⟩

/-- Items fail together where one of them does. -/
theorem exists_mapM_eq_error_iff {ε : Type} {f : α → Except ε β} {xs : List α} :
    (∃ e, xs.mapM f = .error e) ↔ ∃ x ∈ xs, ∃ e, f x = .error e := by
  constructor
  · rintro ⟨e, h⟩
    induction xs with
    | nil => cases h
    | cons x xs ih =>
      rw [List.mapM_cons] at h
      rcases error_or_of_bind h with hx | ⟨y, -, h⟩
      · exact ⟨x, List.mem_cons_self, e, hx⟩
      · rcases error_or_of_bind h with hxs | ⟨ys, -, h⟩
        · obtain ⟨z, hz, he⟩ := ih hxs
          exact ⟨z, List.mem_cons_of_mem x hz, he⟩
        · cases h
  · rintro ⟨x, hx, e, he⟩
    cases hxs : xs.mapM f with
    | error e => exact ⟨e, rfl⟩
    | ok ys =>
      obtain ⟨y, hy⟩ := exists_ok_of_mapM hxs x hx
      rw [he] at hy
      cases hy

/-- What succeeds for each item of a list, with an outcome that goes with the item of another list,
succeeds for the list. -/
theorem exists_mapM_eq_ok {γ : Type} {f : α → Outcome β} {R : β → γ → Prop} {xs : List α}
    {zs : List γ} (h : List.Forall₂ (fun x z => ∃ y, f x = .ok y ∧ R y z) xs zs) :
    ∃ ys, xs.mapM f = .ok ys ∧ List.Forall₂ R ys zs := by
  induction h with
  | nil => exact ⟨[], rfl, .nil⟩
  | cons hx _ ih =>
    obtain ⟨y, hy, hR⟩ := hx
    obtain ⟨ys, hys, hall⟩ := ih
    refine ⟨y :: ys, ?_, .cons hR hall⟩
    rw [List.mapM_cons, hy, hys]
    rfl

/-- Steps that do not fail for a reason for any of the items do not fail for it together. -/
theorem forM_ne_error {f : α → Outcome Unit} {e : Failure} {xs : List α}
    (h : ∀ x ∈ xs, f x ≠ .error e) : xs.forM f ≠ .error e := by
  induction xs with
  | nil => exact nofun
  | cons x xs ih =>
    show (f x >>= fun _ => xs.forM f) ≠ .error e
    have hx := h x (by simp)
    cases hfx : f x with
    | error e' =>
      rw [hfx] at hx
      exact fun he => hx (congrArg Except.error (Except.error.inj he))
    | ok u => exact ih fun y hy => h y (by simp [hy])

/-- Steps that succeed together succeed for each item. -/
theorem of_forM_eq_ok {f : α → Outcome Unit} {xs : List α} (h : xs.forM f = .ok ()) :
    ∀ x ∈ xs, f x = .ok () := by
  induction xs with
  | nil => simp
  | cons x xs ih =>
    obtain ⟨_, hx, hxs⟩ := exists_ok_of_bind (show (f x >>= fun _ => xs.forM f) = .ok () from h)
    intro y hy
    rcases List.mem_cons.1 hy with rfl | hy
    · exact hx
    · exact ih hxs y hy

/-- What holds of the start and is kept by every step holds of the outcome. -/
theorem of_foldlM {P : β → Prop} {f : β → α → Outcome β} {xs : List α} {b r : β}
    (h : xs.foldlM f b = .ok r) (hb : P b) (hf : ∀ b x r, P b → f b x = .ok r → P r) : P r := by
  induction xs generalizing b with
  | nil =>
    obtain rfl := Except.ok.inj h
    exact hb
  | cons x xs ih =>
    rw [List.foldlM_cons] at h
    obtain ⟨b', hb', h⟩ := exists_ok_of_bind h
    exact ih h (hf b x b' hb hb')

/-- Every step of some that succeed together is one that succeeds, from where the steps before it lead. -/
theorem exists_ok_of_foldlM {P : β → Prop} {f : β → α → Outcome β} {xs : List α} {b r : β}
    (h : xs.foldlM f b = .ok r) (hb : P b) (hf : ∀ b x r, P b → f b x = .ok r → P r) :
    ∀ x ∈ xs, ∃ b r, P b ∧ f b x = .ok r := by
  induction xs generalizing b with
  | nil => simp
  | cons x xs ih =>
    rw [List.foldlM_cons] at h
    obtain ⟨b', hb', h⟩ := exists_ok_of_bind h
    exact List.forall_mem_cons.2 ⟨⟨b, b', hb, hb'⟩, ih h (hf b x b' hb hb')⟩

/-- Steps fail together where one of them does. -/
theorem exists_error_of_foldlM {f : β → α → Outcome β} {xs : List α} {b : β} {e : Failure}
    (h : xs.foldlM f b = .error e) : ∃ x ∈ xs, ∃ b, f b x = .error e := by
  induction xs generalizing b with
  | nil => cases h
  | cons x xs ih =>
    rw [List.foldlM_cons] at h
    rcases error_or_of_bind h with h | ⟨b', -, h⟩
    · exact ⟨x, List.mem_cons_self, b, h⟩
    · obtain ⟨y, hy, hfail⟩ := ih h
      exact ⟨y, List.mem_cons_of_mem x hy, hfail⟩

theorem at_eq_ok {x : Outcome α} {place : Place} {a : α} : x.at_ place = .ok a ↔ x = .ok a := by
  cases x with
  | error e => exact ⟨nofun, nofun⟩
  | ok b => exact Iff.rfl

end Outcome

namespace Failure

theorem ofCollected_eq_none {failures : List Failure} :
    ofCollected failures = none ↔ failures = [] := by
  cases failures <;> simp [ofCollected]

end Failure
end Shapewright
