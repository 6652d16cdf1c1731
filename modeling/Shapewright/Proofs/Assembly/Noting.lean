import Shapewright.Assembly.Load

/-!
# Work that may fail and notes warnings

What such work leaves depends on what was noted before only in the warnings.  Two properties of work
follow its steps:

* `Noting.Avoids f` — it does not fail for the reason `f`.
* `Noting.Gives a` — it can end with the value `a`.

There is a rule for each of the ways in which work is put together: one step after another, a step
for every item of a list, and steps that cannot fail.
-/

set_option autoImplicit false

namespace Shapewright
namespace Noting

variable {α β : Type}

/-- What some work leaves after warnings that are noted already. -/
def after (work : Noting α) (noted : List Warning) : Outcome α × List Warning :=
  (ExceptT.run work).run noted

/-- Whatever was noted before, the work does not fail for this reason. -/
def Avoids (f : Failure) (work : Noting α) : Prop :=
  ∀ noted, (work.after noted).1 ≠ .error f

/-- After some warnings the work ends with this value. -/
def Gives (work : Noting α) (a : α) : Prop :=
  ∃ noted, (work.after noted).1 = .ok a

/-! ## One step after another -/

theorem after_bind (work : Noting α) (next : α → Noting β) (noted : List Warning) :
    (work >>= next).after noted = match work.after noted with
      | (.ok a, more) => (next a).after more
      | (.error f, more) => (.error f, more) := by
  show (ExceptT.bindCont next _).run _ = _
  cases h : work.after noted with
  | mk r more =>
    have hrun : (work : StateM (List Warning) (Except Failure α)) noted = (r, more) := h
    simp only [hrun]
    cases r <;> rfl

theorem Avoids.bind {f : Failure} {work : Noting α} {next : α → Noting β} (h : work.Avoids f)
    (hnext : ∀ a, work.Gives a → (next a).Avoids f) : (work >>= next).Avoids f := by
  intro noted
  rw [after_bind]
  have hwork := h noted
  cases hr : work.after noted with
  | mk r more =>
    rw [hr] at hwork
    cases r with
    | ok a => exact hnext a ⟨noted, congrArg Prod.fst hr⟩ more
    | error e => exact fun he => hwork (congrArg Except.error (Except.error.inj he))

theorem exists_gives_of_bind {work : Noting α} {next : α → Noting β} {b : β}
    (h : (work >>= next).Gives b) : ∃ a, work.Gives a ∧ (next a).Gives b := by
  obtain ⟨noted, h⟩ := h
  rw [after_bind] at h
  cases hr : work.after noted with
  | mk r more =>
    rw [hr] at h
    cases r with
    | ok a => exact ⟨a, ⟨noted, congrArg Prod.fst hr⟩, more, h⟩
    | error e => cases h

/-! ## Single steps -/

@[simp] theorem avoids_pure (f : Failure) (a : α) : (pure a : Noting α).Avoids f :=
  fun _ h => nomatch h

theorem gives_pure_iff {a b : α} : (pure a : Noting α).Gives b ↔ a = b :=
  ⟨fun ⟨_, h⟩ => Except.ok.inj h, fun h => ⟨[], congrArg Except.ok h⟩⟩

theorem avoids_throw {f g : Failure} (h : g ≠ f) : (throw g : Noting α).Avoids f :=
  fun _ he => h (Except.error.inj he)

theorem not_gives_throw (f : Failure) (a : α) : ¬ (throw f : Noting α).Gives a :=
  fun ⟨_, h⟩ => nomatch h

@[simp] theorem avoids_warn (f : Failure) (w : Warning) : (warn w).Avoids f :=
  fun _ h => nomatch h

theorem avoids_lift {f : Failure} {x : Outcome α} (h : x ≠ .error f) : (lift x).Avoids f := by
  cases x with
  | ok a => exact avoids_pure f a
  | error g => exact avoids_throw fun he => h (congrArg Except.error he)

theorem eq_ok_of_gives_lift {x : Outcome α} {a : α} (h : (lift x).Gives a) : x = .ok a := by
  cases x with
  | ok b => exact congrArg Except.ok (gives_pure_iff.1 h)
  | error f => exact absurd h (not_gives_throw f a)

/-! ## A step for every item -/

theorem avoids_mapM {f : Failure} {step : α → Noting β} {xs : List α}
    (h : ∀ x ∈ xs, (step x).Avoids f) : (xs.mapM step).Avoids f := by
  induction xs with
  | nil => exact avoids_pure f []
  | cons x xs ih =>
    rw [List.mapM_cons]
    refine (h x (by simp)).bind fun y _ => ?_
    exact (ih fun z hz => h z (by simp [hz])).bind fun ys _ => avoids_pure f (y :: ys)

theorem avoids_forM {f : Failure} {step : α → Noting Unit} {xs : List α}
    (h : ∀ x ∈ xs, (step x).Avoids f) : (xs.forM step).Avoids f := by
  induction xs with
  | nil => exact avoids_pure f ()
  | cons x xs ih =>
    show (step x >>= fun _ => xs.forM step).Avoids f
    exact (h x (by simp)).bind fun _ _ => ih fun z hz => h z (by simp [hz])

theorem avoids_foldlM {f : Failure} {step : β → α → Noting β} {xs : List α} (b : β)
    (h : ∀ b, ∀ x ∈ xs, (step b x).Avoids f) : (xs.foldlM step b).Avoids f := by
  induction xs generalizing b with
  | nil => exact avoids_pure f b
  | cons x xs ih =>
    rw [List.foldlM_cons]
    exact (h b x (by simp)).bind fun c _ => ih c fun d z hz => h d z (by simp [hz])

/-- Where a fold ends with a value, so does each of its steps. -/
theorem exists_gives_of_foldlM {step : β → α → Noting β} {xs : List α} {b c : β}
    (h : (xs.foldlM step b).Gives c) : ∀ x ∈ xs, ∃ b d, (step b x).Gives d := by
  induction xs generalizing b with
  | nil => simp
  | cons x xs ih =>
    rw [List.foldlM_cons] at h
    obtain ⟨d, hd, hrest⟩ := exists_gives_of_bind h
    intro y hy
    rcases List.mem_cons.1 hy with rfl | hy
    · exact ⟨b, d, hd⟩
    · exact ih hrest y hy

/-- What holds at the start of a fold and is kept by its steps holds of what the fold ends with. -/
theorem of_gives_foldlM {step : β → α → Noting β} {xs : List α} {b c : β} {P : β → Prop}
    (h : (xs.foldlM step b).Gives c) (hb : P b)
    (hstep : ∀ b, P b → ∀ x ∈ xs, ∀ d, (step b x).Gives d → P d) : P c := by
  induction xs generalizing b with
  | nil => exact gives_pure_iff.1 h ▸ hb
  | cons x xs ih =>
    rw [List.foldlM_cons] at h
    obtain ⟨d, hd, hrest⟩ := exists_gives_of_bind h
    refine ih hrest (hstep b hb x (by simp) d hd) fun b hb y hy => ?_
    exact hstep b hb y (List.mem_cons_of_mem x hy)

/-- What a step of a fold brings about, and later ones keep, holds of what the fold ends with. -/
theorem of_gives_foldlM_of_mem {step : β → α → Noting β} {xs : List α} {b c : β} {P : β → Prop}
    (h : (xs.foldlM step b).Gives c) {x : α} (hx : x ∈ xs)
    (hstart : ∀ b d, (step b x).Gives d → P d)
    (hstep : ∀ b, P b → ∀ y ∈ xs, ∀ d, (step b y).Gives d → P d) : P c := by
  induction xs generalizing b with
  | nil => cases hx
  | cons y xs ih =>
    rw [List.foldlM_cons] at h
    obtain ⟨d, hd, hrest⟩ := exists_gives_of_bind h
    have hlater (b : β) (hb : P b) (z : α) (hz : z ∈ xs) : ∀ d, (step b z).Gives d → P d :=
      hstep b hb z (List.mem_cons_of_mem y hz)
    rcases List.mem_cons.1 hx with rfl | hx
    · exact of_gives_foldlM hrest (hstart b d hd) hlater
    · exact ih hrest hx hlater

/-! ## Steps of gathering -/

theorem avoids_proceed {f : Failure} {u : Update} (h : u.failure ≠ some f) :
    (Assembly.proceed u).Avoids f := by
  refine (avoids_forM fun w _ => avoids_warn f w).bind fun _ _ => ?_
  cases hu : u.failure with
  | none => exact avoids_pure f u.assembly
  | some g => exact avoids_throw fun he => h (by rw [hu, he])

theorem of_gives_proceed {u : Update} {a : Assembly} (h : (Assembly.proceed u).Gives a) :
    u.failure = none ∧ u.assembly = a := by
  obtain ⟨_, _, h⟩ := exists_gives_of_bind h
  cases hu : u.failure with
  | none =>
    rw [hu] at h
    exact ⟨rfl, gives_pure_iff.1 h⟩
  | some g =>
    rw [hu] at h
    exact absurd h (not_gives_throw g a)

end Noting
end Shapewright
