import Shapewright.Files
import Shapewright.Proofs.Failure

/-!
# What stays when files are added

Directories and new files are only put where there was nothing.  So whatever was found before is found
afterwards, by every path that led to it: the directories that the path goes through are still there.

* `Files.Extends` — nothing that was there is gone or has changed.
* `Files.Extends.status`, `Files.Extends.read`, `Files.Extends.occupied` — so paths lead to what they led to.
* `Files.extends_makeDirectories` — directories are made.
* `Files.extends_write` — a text is written where there was nothing.
-/

set_option autoImplicit false

namespace Shapewright
namespace Files

variable {fs gs hs : Files} {names here : List String} {path text : String} {e : Entry}

/-- Nothing that was there is gone or has changed. -/
def Extends (fs gs : Files) : Prop := ∀ names e, fs.find? names = some e → gs.find? names = some e

theorem Extends.refl (fs : Files) : fs.Extends fs := fun _ _ h => h

theorem Extends.trans (h : fs.Extends gs) (h' : gs.Extends hs) : fs.Extends hs :=
  fun names e he => h' names e (h names e he)

/-! ## Looking -/

/-- A path is followed as before, unless something was missing. -/
theorem Extends.follow (h : fs.Extends gs) (parts here : List String)
    (hfound : fs.follow here parts ≠ .error .missing) : gs.follow here parts = fs.follow here parts := by
  induction parts generalizing here with
  | nil => rfl
  | cons part rest ih =>
    rw [Files.follow] at hfound ⊢
    rw [Files.follow]
    cases hhere : fs.find? here with
    | none =>
      rw [hhere] at hfound
      exact absurd rfl hfound
    | some e =>
      rw [hhere] at hfound
      rw [h here e hhere]
      cases e with
      | file => rfl
      | directory =>
        simp only at hfound ⊢
        split
        · rename_i hstay
          rw [if_pos hstay] at hfound
          exact ih here hfound
        · rename_i hstay
          rw [if_neg hstay] at hfound
          split
          · rename_i hup
            rw [if_pos hup] at hfound
            exact ih _ hfound
          · rename_i hup
            rw [if_neg hup] at hfound
            split
            · rfl
            · rename_i hlong
              rw [if_neg hlong] at hfound
              exact ih _ hfound

theorem Extends.locate (h : fs.Extends gs) (hfound : fs.locate path ≠ .error .missing) :
    gs.locate path = fs.locate path := by
  rw [Files.locate] at hfound ⊢
  rw [Files.locate]
  split
  · rfl
  · rename_i hempty
    rw [if_neg hempty] at hfound
    split
    · rfl
    · rename_i hzero
      rw [if_neg hzero] at hfound
      split
      · rfl
      · rename_i hlong
        rw [if_neg hlong] at hfound
        exact h.follow _ _ hfound

/-- **A path leads to what it led to**, unless something was missing. -/
theorem Extends.status (h : fs.Extends gs) (hfound : fs.status path ≠ .error .missing) :
    gs.status path = fs.status path := by
  rw [Files.status] at hfound ⊢
  rw [Files.status]
  cases hlocate : fs.locate path with
  | error fault =>
    have hfault : fault ≠ .missing := fun hmissing => hfound (by rw [hlocate, hmissing]; rfl)
    rw [h.locate (by rw [hlocate]; simpa using hfault), hlocate]
    rfl
  | ok here =>
    rw [hlocate] at hfound
    rw [h.locate (by rw [hlocate]; nofun), hlocate]
    cases hhere : fs.find? here with
    | none =>
      simp only [bind, Except.bind, hhere] at hfound
      exact absurd rfl hfound
    | some e =>
      simp only [bind, Except.bind, hhere, h here e hhere]

/-- The text of a file that is read. -/
theorem read_eq_ok_iff : fs.read path = .ok text ↔ fs.status path = .ok (.file text) := by
  rw [read]
  split
  · rename_i hstatus
    simp [hstatus]
  · rename_i hstatus
    simp [hstatus]
  · rename_i hstatus
    simp [hstatus]

/-- **Files keep their text.** -/
theorem Extends.read (h : fs.Extends gs) (hread : fs.read path = .ok text) :
    gs.read path = .ok text := by
  rw [read_eq_ok_iff] at hread ⊢
  rw [h.status (by rw [hread]; nofun), hread]

theorem occupied_iff : fs.occupied path = true ↔ fs.status path ≠ .error .missing := by
  rw [occupied]
  split
  · rename_i hstatus
    simp [hstatus]
  · rename_i hstatus
    simpa using hstatus

/-- What was in the way still is. -/
theorem Extends.occupied (h : fs.Extends gs) (hoccupied : fs.occupied path = true) :
    gs.occupied path = true := by
  rw [occupied_iff] at hoccupied ⊢
  rwa [h.status hoccupied]

/-- A file that can be read is in the way. -/
theorem occupied_of_read (h : fs.read path = .ok text) : fs.occupied path = true := by
  rw [occupied_iff, read_eq_ok_iff.1 h]
  nofun

/-! ## Adding -/

/-- Binding names changes what no other names are bound to. -/
theorem lookup_insert_of_ne (hne : names ≠ here) :
    (fs.insert here e).entries.lookup names = fs.entries.lookup names := by
  have hfilter (entries : List (List String × Entry)) :
      (entries.filter fun entry => entry.1 != here).lookup names = entries.lookup names := by
    induction entries with
    | nil => rfl
    | cons entry rest ih =>
      obtain ⟨p, e⟩ := entry
      by_cases hp : p = here
      · rw [List.filter_cons_of_neg (by simp [hp]), ih, List.lookup_cons,
          beq_eq_false_iff_ne.2 (hp ▸ hne)]
      · rw [List.filter_cons_of_pos (by simp [hp]), List.lookup_cons, List.lookup_cons, ih]
  rw [insert, List.lookup_append, hfilter, List.lookup_cons, beq_eq_false_iff_ne.2 hne,
    List.lookup_nil]
  simp

/-- An entry is added where there was nothing. -/
theorem extends_insert (h : fs.find? here = none) : fs.Extends (fs.insert here e) := by
  intro names e' hfound
  have hne : names ≠ here := by
    rintro rfl
    rw [h] at hfound
    cases hfound
  rw [find?, lookup_insert_of_ne hne]
  exact hfound

theorem extends_makeDirectory (h : fs.makeDirectory path = .ok gs) : fs.Extends gs := by
  rw [makeDirectory] at h
  split at h
  · cases h
  · split at h
    · rename_i hnone
      cases h
      exact extends_insert hnone
    · cases h
      exact .refl fs
    · cases h

/-- **Directories are made** where there was nothing. -/
theorem extends_makeDirectories (h : fs.makeDirectories path = .ok gs) : fs.Extends gs := by
  rw [makeDirectories] at h
  generalize path.toList.length + 1 = depth at h
  induction depth generalizing fs gs path with
  | zero =>
    cases h
    exact .refl fs
  | succ depth ih =>
    rw [makeDirectoriesWithin] at h
    split at h
    · cases h
      exact .refl fs
    · cases h
    · simp only at h
      split at h
      · obtain ⟨hs, hparent, h⟩ := Outcome.exists_ok_of_bind h
        exact (ih hparent).trans (extends_makeDirectory h)
      · rw [pure_bind] at h
        exact extends_makeDirectory h

/-- **A text is written** where there was nothing. -/
theorem extends_write (hfree : fs.occupied path = false) (h : fs.write path text = .ok gs) :
    fs.Extends gs := by
  have hmissing : fs.status path = .error .missing := by
    by_contra hfound
    rw [occupied_iff.2 hfound] at hfree
    cases hfree
  rw [write] at h
  cases hlocate : fs.locate path with
  | error fault =>
    rw [hlocate] at h
    cases h
  | ok here =>
    have hnone : fs.find? here = none := by
      rw [status, hlocate] at hmissing
      cases hfind : fs.find? here with
      | none => rfl
      | some e =>
        simp only [bind, Except.bind, hfind] at hmissing
        cases hmissing
    simp only [hlocate, hnone] at h
    split at h
    · cases h
    · rename_i hsome
      cases hsome
    · cases h
      exact extends_insert hnone
    · cases h

end Files
end Shapewright
