import Shapewright.Proofs.Assembly.Nulls
import Shapewright.Proofs.Assembly.Sharing
import Shapewright.Proofs.Text.Pieces

/-!
# Carrying out statements

Statements that apply traits stand among the shapes they are about.  They are carried out in order,
and each is removed when that is done, so what a later one finds depends on what was done before.

* `Assembly.isStatement` — the entries that are statements.
* `Assembly.HasTarget` — a statement finds what it is about; `Assembly.failure_apply_eq_none_iff`.
* `Assembly.Finds` — it does so after others have been carried out.
* `Assembly.traitAt?` — the traits of shapes and members in one; `Assembly.traitAt?_apply` says which
  of them a statement changes.
* `Assembly.Carried` — what some statements leave of an assembly; `Carried.applyOne` is one step.
* `Assembly.applyAll_statements` — the payoff: when all of them can be carried out, and what they
  leave.
-/

set_option autoImplicit false

namespace Shapewright
namespace Assembly

variable {a b : Assembly} {k : String}

/-! ## Targets -/

/-- The entry with an id is a statement that applies traits. -/
def isStatement (a : Assembly) (id : String) : Bool := (a.shape? id).any ShapeDef.isApply

/-- What a statement is about is there. -/
def HasTarget (a : Assembly) (k : String) : Prop :=
  (a.shape? (splitTarget k).1).isSome = true ∧
    ((splitTarget k).2 = "" ∨ (a.memberAt? (splitTarget k).1 (splitTarget k).2).isSome = true)

/-- What stands before the mark names no member itself. -/
theorem splitTarget_fst (k : String) : splitTarget (splitTarget k).1 = ((splitTarget k).1, "") := by
  by_cases h : ∃ target member, Text.split '$' k = [target, member]
  · obtain ⟨target, member, h⟩ := h
    have hfst : (splitTarget k).1 = target := by rw [splitTarget, h]
    have hmem : target ∈ Text.split '$' k := by rw [h]; simp
    obtain ⟨piece, hpiece, rfl⟩ := List.mem_map.1 hmem
    rw [hfst, splitTarget, Text.split, String.toList_ofList,
      List.splitOn_eq_singleton (not_mem_of_mem_splitOn hpiece)]
    rfl
  · have hself : splitTarget k = (k, "") := by
      rw [splitTarget]
      split
      · rename_i target member heq
        exact absurd ⟨target, member, heq⟩ h
      · rfl
    rw [hself, hself]

/-! ## Traits of shapes and members -/

/-- The value of a trait of a shape, or of its member with a name that is not empty. -/
def traitAt? (a : Assembly) (target name x : String) : Option Node :=
  if name = "" then (a.shape? target).bind (·.trait? x)
  else (a.memberAt? target name).bind fun c => c.traits.bind (Traits.get? · x)

/-- A statement is about a shape, or about a member, be it under the name that it has in another
shape. -/
def aims (a : Assembly) (k target name : String) : Bool :=
  if (splitTarget k).2 = "" then name == "" && (splitTarget k).1 == target
  else name != "" && (a.position? (splitTarget k).1 (splitTarget k).2).any fun i =>
    a.position? target name == some i

/-- A statement that finds what it is about is about that. -/
theorem aims_splitTarget (h : a.HasTarget k) :
    a.aims k (splitTarget k).1 (splitTarget k).2 = true := by
  rw [aims]
  split
  · rename_i hname
    simp [hname]
  · rename_i hname
    obtain ⟨c, hc⟩ := Option.isSome_iff_exists.1 (h.2.resolve_left hname)
    obtain ⟨i, hi, -⟩ := Option.bind_eq_some_iff.1 hc
    simp [hname, hi]

/-- A shape with traits added to its own. -/
def layOver (traits : Option Traits) (s : ShapeDef Nat) : ShapeDef Nat :=
  { s with traits := some (addTraits s.traits traits) }

/-- What a statement does whose target is there. -/
theorem apply_cases (h : a.HasTarget k) (traits : Option Traits) :
    (∃ s, (splitTarget k).2 = "" ∧ a.shape? (splitTarget k).1 = some s ∧
      a.apply k traits = { assembly := a.insert (splitTarget k).1 (some (layOver traits s)) }) ∨
    ∃ i c, (splitTarget k).2 ≠ "" ∧
      a.position? (splitTarget k).1 (splitTarget k).2 = some i ∧ a.cell? i = some c ∧
      a.apply k traits = { assembly := { a with cells := a.cells.set i (addTo traits c) } } := by
  obtain ⟨hshape, hmember⟩ := h
  by_cases hname : (splitTarget k).2 = ""
  · obtain ⟨s, hs⟩ := Option.isSome_iff_exists.1 hshape
    refine .inl ⟨s, hname, hs, ?_⟩
    rw [apply]
    simp only [hs, hname, beq_self_eq_true, if_true]
    rfl
  · obtain ⟨c, hc⟩ := Option.isSome_iff_exists.1 (hmember.resolve_left hname)
    obtain ⟨i, hi, hcell⟩ := Option.bind_eq_some_iff.1 hc
    exact .inr ⟨i, c, hname, hi, hcell, apply_of_splitTarget traits rfl hname hi hcell⟩

/-- **A statement can be carried out** if its target is there. -/
theorem failure_apply_eq_none_iff (a : Assembly) (k : String) (traits : Option Traits) :
    (a.apply k traits).failure = none ↔ a.HasTarget k := by
  constructor
  · intro h
    rw [apply] at h
    cases hs : a.shape? (splitTarget k).1 with
    | none =>
      simp only [hs] at h
      cases h
    | some s =>
      refine ⟨by rw [hs]; rfl, ?_⟩
      by_cases hname : (splitTarget k).2 = ""
      · exact .inl hname
      · right
        simp only [hs, beq_eq_false_iff_ne.2 hname, Bool.false_eq_true, if_false, member?_eq] at h
        rw [memberAt?, position?, hs, Option.bind_some]
        cases hi : s.position? (splitTarget k).2 with
        | none =>
          rw [hi] at h
          cases h
        | some i =>
          rw [hi, Option.bind_some] at h
          rw [Option.bind_some]
          cases hc : a.cell? i with
          | none =>
            rw [hc] at h
            cases h
          | some c => rfl
  · intro h
    obtain ⟨s, -, -, heq⟩ | ⟨i, c, -, -, -, heq⟩ := apply_cases h traits <;> rw [heq]

/-! ## What one statement changes -/

theorem ids_erase_of_shape? {id : String} {s : ShapeDef Nat} (h : a.shape? id = some s) :
    ({ a with shapes := a.shapes.map (·.erase id) } : Assembly).ids = a.ids.filter (· != id) := by
  obtain ⟨m, hm, hcontains⟩ := exists_shapes_of_shape? h
  simp only [ids, hm, Option.map_some, Option.getD_some]
  rw [OrderedMap.erase, if_pos hcontains]

theorem ids_apply (h : a.HasTarget k) (traits : Option Traits) :
    (a.apply k traits).assembly.ids = a.ids := by
  obtain ⟨s, -, hs, heq⟩ | ⟨i, c, -, -, -, heq⟩ := apply_cases h traits
  · rw [heq]
    exact ids_insert_of_shape? hs _
  · rw [heq]
    rfl

theorem targets_apply (h : a.HasTarget k) (traits : Option Traits) :
    (a.apply k traits).assembly.cells.map (·.target) = a.cells.map (·.target) := by
  obtain ⟨s, -, hs, heq⟩ | ⟨i, c, -, -, hc, heq⟩ := apply_cases h traits
  · rw [heq]
    rfl
  · rw [heq]
    have htarget : (a.cells.map (·.target))[i]? = some c.target := by
      rw [List.getElem?_map, show a.cells[i]? = some c from hc]
      rfl
    obtain ⟨hi, hget⟩ := List.getElem?_eq_some_iff.1 htarget
    show (a.cells.set i (addTo traits c)).map (·.target) = _
    rw [List.map_set, show (addTo traits c).target = c.target from rfl, ← hget, List.set_getElem_self]

/-- Other shapes are left alone. -/
theorem shape?_apply_of_ne (h : a.HasTarget k) (traits : Option Traits) {id : String}
    (hid : id ≠ (splitTarget k).1) : (a.apply k traits).assembly.shape? id = a.shape? id := by
  obtain ⟨s, -, hs, heq⟩ | ⟨i, c, -, -, -, heq⟩ := apply_cases h traits
  · rw [heq, shape?_insert, if_neg hid]
  · rw [heq]
    rfl

/-- **What a statement changes**: the traits of what it is about. -/
theorem traitAt?_apply (h : a.HasTarget k) {traits : Option Traits}
    {target name : String} (hc : a.aims k target name = true → ∀ t : Traits, traits = some t →
      OrderedMap.Coherent t) (x : String) :
    (a.apply k traits).assembly.traitAt? target name x =
      if a.aims k target name = true then
        (traits.bind (Traits.get? · x)).or (a.traitAt? target name x)
      else a.traitAt? target name x := by
  obtain ⟨s, hname, hs, heq⟩ | ⟨i, c, hname, hi, hcell, heq⟩ := apply_cases h traits
  · have hposition : (a.insert (splitTarget k).1 (some (layOver traits s))).position? =
        a.position? := by
      have hsame := position?_apply a k traits
      rw [heq] at hsame
      exact funext fun id => funext fun name => hsame id name
    rw [heq]
    rw [aims, if_pos hname] at hc ⊢
    by_cases hempty : name = ""
    · simp only [traitAt?, hempty, if_true, shape?_insert, beq_self_eq_true, Bool.true_and,
        beq_iff_eq] at hc ⊢
      by_cases htarget : target = (splitTarget k).1
      · rw [if_pos htarget, if_pos htarget.symm, htarget, hs]
        exact get?_addTraits s.traits (hc htarget.symm) x
      · rw [if_neg htarget, if_neg (Ne.symm htarget)]
    · simp only [traitAt?, if_neg hempty, memberAt?, hposition, beq_eq_false_iff_ne.2 hempty,
        Bool.false_and, Bool.false_eq_true, if_false]
      rfl
  · rw [heq]
    rw [aims, if_neg hname] at hc ⊢
    obtain ⟨hshared, hapart⟩ := @memberAt?_set a _ _ i c traits hi hcell target name
    by_cases hempty : name = ""
    · simp only [traitAt?, hempty, if_true, bne_self_eq_false, Bool.false_and, Bool.false_eq_true,
        if_false]
      rfl
    · have hshares : (name != "" && (a.position? (splitTarget k).1 (splitTarget k).2).any fun i =>
          a.position? target name == some i) = true ↔
          a.Shares target name (splitTarget k).1 (splitTarget k).2 := by
        simp [Shares, hi, hempty]
      simp only [traitAt?, if_neg hempty]
      split
      · rename_i hshare
        rw [hshared (hshares.1 hshare)]
        obtain ⟨j, hj, hj'⟩ := hshares.1 hshare
        obtain rfl : i = j := Option.some.inj (hi.symm.trans hj')
        rw [memberAt?, hj, Option.bind_some, hcell]
        exact get?_addTraits c.traits (hc hshare) x
      · rename_i hnot
        rw [hapart fun h => hnot (hshares.2 h)]

/-! ## What a run changes -/

/-- The statement finds what it is about after those of a list are carried out: its target is there,
and is none of those. -/
def Finds (a : Assembly) (done : List String) (k : String) : Prop :=
  a.HasTarget k ∧ ((splitTarget k).1 ∈ done → a.isStatement (splitTarget k).1 = false)

/-- The value that the statements of a list give a trait: the last one that has it counts. A statement
that is listed again is gone by then. -/
def applied (a : Assembly) (done : List String) (target name x : String) : Option Node :=
  (Text.firstBy id done).reverse.findSome? fun k =>
    if a.isStatement k && a.aims k target name then (a.shape? k).bind (·.trait? x) else none

/-- What is left when the entries of a list have been looked at. -/
structure Carried (a : Assembly) (done : List String) (b : Assembly) : Prop where
  ids : b.ids = a.ids.filter fun id => !(done.contains id && a.isStatement id)
  targets : b.cells.map (·.target) = a.cells.map (·.target)
  bare : ∀ id, (b.shape? id).map ShapeDef.bare =
    if id ∈ done ∧ a.isStatement id = true then none else (a.shape? id).map ShapeDef.bare
  waiting : ∀ id, id ∉ done → (splitTarget id).1 ≠ id → b.shape? id = a.shape? id
  traits : ∀ target, a.isStatement target = false → ∀ name x,
    b.traitAt? target name x = (a.applied done target name x).or (a.traitAt? target name x)

theorem carried_nil (a : Assembly) : a.Carried [] a where
  ids := by simp
  targets := rfl
  bare id := by simp
  waiting id _ _ := rfl
  traits target _ name x := by rw [applied]; rfl

/-- What is put behind a list is the last to count, unless it is listed already. -/
theorem applied_concat (a : Assembly) (done : List String) (k target name x : String) :
    a.applied (done ++ [k]) target name x =
      if k ∉ done ∧ a.isStatement k = true ∧ a.aims k target name = true then
        ((a.shape? k).bind (·.trait? x)).or (a.applied done target name x)
      else a.applied done target name x := by
  rw [applied, Text.firstBy_id_concat]
  by_cases hk : k ∈ done
  · rw [if_pos hk, if_neg fun h => h.1 hk]
    rfl
  · rw [if_neg hk, List.reverse_append, List.reverse_singleton, List.singleton_append,
      List.findSome?_cons]
    by_cases haims : a.isStatement k = true ∧ a.aims k target name = true
    · have hcond : (a.isStatement k && a.aims k target name) = true := by rwa [Bool.and_eq_true]
      rw [if_pos hcond, if_pos ⟨hk, haims⟩]
      cases (a.shape? k).bind (·.trait? x) <;> rfl
    · have hcond : ¬ (a.isStatement k && a.aims k target name) = true := by rwa [Bool.and_eq_true]
      rw [if_neg hcond, if_neg fun h => haims h.2]
      rfl

/-- The traits of a listed statement are among those that the list gives to what it is about. -/
theorem isSome_applied {ids : List String} {x : String} {s : ShapeDef Nat} (hmem : k ∈ ids)
    (hk : a.isStatement k = true) (htarget : a.HasTarget k) (hs : a.shape? k = some s)
    (hx : (s.trait? x).isSome = true) :
    (a.applied ids (splitTarget k).1 (splitTarget k).2 x).isSome = true := by
  rw [applied, List.findSome?_isSome_iff]
  refine ⟨k, List.mem_reverse.2 (Text.mem_firstBy_id.2 hmem), ?_⟩
  rw [hk, aims_splitTarget htarget, hs]
  exact hx

namespace Carried

variable {done : List String}

theorem isStatement_eq (h : a.Carried done b) (id : String) :
    b.isStatement id = (!done.contains id && a.isStatement id) := by
  have hbare (c : Assembly) : c.isStatement id =
      ((c.shape? id).map ShapeDef.bare).any ShapeDef.isApply := by
    rw [isStatement]
    cases c.shape? id <;> rfl
  rw [hbare b, h.bare]
  by_cases hid : id ∈ done
  · by_cases happly : a.isStatement id = true
    · simp [hid, happly]
    · rw [if_neg fun h => happly h.2, ← hbare, List.contains_iff_mem.2 hid]
      simpa using happly
  · rw [if_neg fun h => hid h.1, ← hbare]
    simp [hid]

/-- The statements that are left are those that were not removed. -/
theorem isStatement_iff (h : a.Carried done b) {id : String} :
    b.isStatement id = true ↔ id ∉ done ∧ a.isStatement id = true := by
  rw [h.isStatement_eq]
  simp

/-- An entry that is no statement, or was removed, changes nothing. -/
theorem skip (h : a.Carried done b) (hk : k ∈ done ∨ a.isStatement k = false) :
    a.Carried (done ++ [k]) b := by
  have hsame (id : String) : id ∈ done ++ [k] ∧ a.isStatement id = true ↔
      id ∈ done ∧ a.isStatement id = true := by
    rw [List.mem_append, List.mem_singleton]
    constructor
    · rintro ⟨hid | rfl, happly⟩
      · exact ⟨hid, happly⟩
      · exact ⟨hk.resolve_right (by simp [happly]), happly⟩
    · exact fun ⟨hid, happly⟩ => ⟨.inl hid, happly⟩
  refine ⟨?_, h.targets, fun id => ?_, fun id hid => ?_, fun target htarget name x => ?_⟩
  · rw [h.ids]
    refine List.filter_congr fun id _ => ?_
    rw [Bool.not_inj_iff, Bool.eq_iff_iff, Bool.and_eq_true, Bool.and_eq_true, List.contains_iff_mem,
      List.contains_iff_mem]
    exact (hsame id).symm
  · simp only [h.bare, hsame]
  · exact h.waiting id fun hmem => hid (List.mem_append_left _ hmem)
  · rw [h.traits target htarget, applied_concat, if_neg]
    rintro ⟨hnot, happly, -⟩
    rcases hk with hk | hk
    · exact hnot hk
    · rw [hk] at happly
      cases happly

/-- The positions of members of what is left. -/
theorem position?_eq (h : a.Carried done b) {id : String}
    (hid : id ∈ done → a.isStatement id = false) (name : String) :
    b.position? id name = a.position? id name := by
  have hbare (c : Assembly) : c.position? id name =
      ((c.shape? id).map ShapeDef.bare).bind (·.position? name) := by
    rw [position?]
    cases c.shape? id <;> rfl
  rw [hbare b, hbare a, h.bare, if_neg]
  rintro ⟨hmem, happly⟩
  rw [hid hmem] at happly
  cases happly

/-- A statement finds its target if that was there and is left. -/
theorem hasTarget_iff (h : a.Carried done b) : b.HasTarget k ↔ a.Finds done k := by
  have hshape : (b.shape? (splitTarget k).1).isSome = true ↔
      (a.shape? (splitTarget k).1).isSome = true ∧
        ((splitTarget k).1 ∈ done → a.isStatement (splitTarget k).1 = false) := by
    have hbare := congrArg Option.isSome (h.bare (splitTarget k).1)
    rw [Option.isSome_map] at hbare
    rw [hbare]
    split
    · rename_i hgone
      simp [hgone]
    · rename_i hleft
      rw [Option.isSome_map]
      refine (and_iff_left fun hmem => ?_).symm
      rw [← Bool.not_eq_true]
      exact fun happly => hleft ⟨hmem, happly⟩
  have hlength : b.cells.length = a.cells.length := by
    simpa using congrArg List.length h.targets
  rw [HasTarget, hshape, Finds, HasTarget, and_assoc, and_assoc]
  refine and_congr_right fun _ => ?_
  rw [and_comm]
  refine and_congr_left fun hleft => or_congr_right ?_
  rw [memberAt?, memberAt?, h.position?_eq hleft]
  cases a.position? (splitTarget k).1 (splitTarget k).2 with
  | none => rfl
  | some i => simp [cell?, hlength]

/-- What a statement aims at has not moved. -/
theorem aims_eq (h : a.Carried done b) (hfinds : a.Finds done k) {target : String}
    (htarget : a.isStatement target = false) (name : String) :
    b.aims k target name = a.aims k target name := by
  rw [aims, aims, h.position?_eq hfinds.2, h.position?_eq fun _ => htarget]

theorem traitAt?_erase_of_ne (a : Assembly) {id target : String} (h : target ≠ id) (name x : String) :
    ({ a with shapes := a.shapes.map (·.erase id) } : Assembly).traitAt? target name x =
      a.traitAt? target name x := by
  rw [traitAt?, traitAt?, memberAt?, memberAt?, position?, position?, shape?_erase, if_neg h]
  rfl

/-- **One statement** that is carried out and removed. -/
theorem carry (h : a.Carried done b) (hkept : Kept a.shapes) {s : ShapeDef Nat}
    (hs : b.shape? k = some s) (happly : s.isApply = true) (hfinds : a.Finds done k) :
    a.Carried (done ++ [k]) { (b.apply k s.traits).assembly with
      shapes := (b.apply k s.traits).assembly.shapes.map (·.erase k) } := by
  have hstatement : k ∉ done ∧ a.isStatement k = true :=
    h.isStatement_iff.1 (by rw [isStatement, hs, Option.any_some, happly])
  have hself (id : String) : id ∈ done ++ [k] ↔ id ∈ done ∨ id = k := by simp
  have htarget := h.hasTarget_iff.2 hfinds
  have hretains := retains_apply b k s.traits
  generalize hc : (b.apply k s.traits).assembly = c at hretains ⊢
  obtain ⟨t, ht, -⟩ : ∃ t, c.shape? k = some t ∧ s.bare = t.bare := by
    have hbare := hretains.bare k
    rw [hs] at hbare
    obtain ⟨t, ht, hbare⟩ := Option.map_eq_some_iff.1 hbare
    exact ⟨t, ht, hbare.symm⟩
  refine ⟨?_, ?_, fun id => ?_, fun id hid hne => ?_, fun target hno name x => ?_⟩
  · rw [ids_erase_of_shape? ht, ← hc, ids_apply htarget, h.ids, List.filter_filter]
    refine List.filter_congr fun id _ => ?_
    by_cases hid : id = k
    · simp [hid, hstatement.2]
    · simp [hid]
  · show c.cells.map (·.target) = _
    rw [← hc, targets_apply htarget, h.targets]
  · rw [shape?_erase]
    by_cases hid : id = k
    · rw [if_pos hid, if_pos ⟨(hself id).2 (.inr hid), hid ▸ hstatement.2⟩]
      rfl
    · rw [if_neg hid, hretains.bare, h.bare]
      simp only [hself, hid, or_false]
  · rw [hself, not_or] at hid
    have hother : id ≠ (splitTarget k).1 := by
      rintro rfl
      exact hne (by rw [splitTarget_fst])
    rw [shape?_erase, if_neg hid.2, ← hc, shape?_apply_of_ne htarget _ hother]
    exact h.waiting id hid.1 hne
  · have hne : target ≠ k := by
      rintro rfl
      rw [hstatement.2] at hno
      cases hno
    -- A statement that is about something else is the one that was there in the beginning.
    have hsame : a.aims k target name = true → a.shape? k = some s := by
      intro haims
      rw [← h.waiting k hstatement.1, hs]
      intro hk
      have hsplit := splitTarget_fst k
      rw [hk] at hsplit
      rw [aims, hsplit, if_pos rfl, Bool.and_eq_true, beq_iff_eq, beq_iff_eq] at haims
      exact hne haims.2.symm
    rw [traitAt?_erase_of_ne c hne, ← hc, traitAt?_apply htarget (fun haims => ?_),
      h.aims_eq hfinds hno, h.traits target hno, applied_concat]
    · by_cases haims : a.aims k target name = true
      · rw [if_pos haims, if_pos ⟨hstatement.1, hstatement.2, haims⟩, hsame haims, Option.or_assoc]
        rfl
      · rw [if_neg haims, if_neg fun h => haims h.2.2]
    · rw [h.aims_eq hfinds hno] at haims
      exact (hkept.lookup (hsame haims)).2.traits

/-- **One entry**: it stops the run if it is a statement that does not find its target. -/
theorem applyOne (h : a.Carried done b) (hkept : Kept a.shapes) (k : String) :
    ((b.applyOne k).failure = none ↔ (k ∉ done → a.isStatement k = true → a.Finds done k)) ∧
      ((b.applyOne k).failure = none → a.Carried (done ++ [k]) (b.applyOne k).assembly) := by
  by_cases hstatement : b.isStatement k = true
  · obtain ⟨s, hs, happly⟩ := (Option.any_eq_true _ _).1 hstatement
    have hfirst := h.isStatement_iff.1 hstatement
    have hiff : (b.apply k s.traits).failure = none ↔
        (k ∉ done → a.isStatement k = true → a.Finds done k) := by
      rw [failure_apply_eq_none_iff, h.hasTarget_iff]
      exact ⟨fun hfinds _ _ => hfinds, fun hfinds => hfinds hfirst.1 hfirst.2⟩
    rw [Assembly.applyOne, hs]
    simp only [happly, if_true]
    cases hfailure : (b.apply k s.traits).failure with
    | some f =>
      rw [hfailure] at hiff
      simp only [Option.isSome_some, if_true, hfailure]
      exact ⟨hiff, fun hnone => by cases hnone⟩
    | none =>
      simp only [Option.isSome_none, Bool.false_eq_true, if_false]
      have hfinds := hiff.1 hfailure
      exact ⟨iff_of_true trivial hfinds, fun _ =>
        h.carry hkept hs happly (hfinds hfirst.1 hfirst.2)⟩
  · have hpast : k ∈ done ∨ a.isStatement k = false := by
      rw [h.isStatement_iff, not_and_or, not_not, Bool.not_eq_true] at hstatement
      exact hstatement
    rw [Bool.not_eq_true] at hstatement
    have hskip : b.applyOne k = { assembly := b } := by
      rw [isStatement] at hstatement
      rw [Assembly.applyOne]
      cases hs : b.shape? k with
      | none => rfl
      | some s =>
        rw [hs, Option.any_some] at hstatement
        simp [hstatement]
    rw [hskip]
    refine ⟨⟨fun _ hnot happly => ?_, fun _ => rfl⟩, fun _ => h.skip hpast⟩
    rw [hpast.resolve_left hnot] at happly
    cases happly

/-- **A run** succeeds if every statement finds its target when its turn comes. -/
theorem forEach (xs : List String) (h : a.Carried done b) (hkept : Kept a.shapes) :
    ((Update.forEach Assembly.applyOne xs b).failure = none ↔
      ∀ before k after, xs = before ++ k :: after → k ∉ done ++ before → a.isStatement k = true →
        a.Finds (done ++ before) k) ∧
    ((Update.forEach Assembly.applyOne xs b).failure = none →
      a.Carried (done ++ xs) (Update.forEach Assembly.applyOne xs b).assembly) := by
  induction xs generalizing done b with
  | nil =>
    rw [List.append_nil]
    exact ⟨⟨fun _ before k after heq => by simp at heq, fun _ => rfl⟩, fun _ => h⟩
  | cons x rest ih =>
    obtain ⟨hfirst, hcarried⟩ := h.applyOne hkept x
    rw [failure_forEach_cons]
    constructor
    · constructor
      · rintro ⟨hx, hrest⟩ before k after heq
        have htail := (ih (hcarried hx)).1.1 hrest
        cases before with
        | nil =>
          obtain ⟨rfl, -⟩ := List.cons.inj heq
          rw [List.append_nil]
          exact hfirst.1 hx
        | cons y before =>
          obtain ⟨rfl, htailEq⟩ := List.cons.inj heq
          rw [List.append_cons]
          exact htail before k after htailEq
      · intro hall
        have hx := hfirst.2 (by simpa using hall [] x rest rfl)
        refine ⟨hx, (ih (hcarried hx)).1.2 fun before k after heq => ?_⟩
        rw [← List.append_cons]
        exact hall (x :: before) k after (by rw [heq, List.cons_append])
    · rintro ⟨hx, hrest⟩
      rw [assembly_forEach_cons _ _ _ _ hx, List.append_cons]
      exact (ih (hcarried hx)).2 hrest

end Carried

/-! ## All statements -/

/-- The id of a statement names a shape that is there and no statement, or a member of one. -/
def NamesTarget (a : Assembly) (k : String) : Prop :=
  ∃ id s, a.shape? id = some s ∧ s.isApply = false ∧
    (k = id ∨ ∃ name, k = id ++ "$" ++ name ∧ (a.memberAt? id name).isSome = true)

/-- The id of a statement has one mark, with a name behind it, and what is before it is no statement. -/
def NamesMember (a : Assembly) (k : String) : Prop :=
  ∃ id name, '$' ∉ id.toList ∧ '$' ∉ name.toList ∧ name ≠ "" ∧ k = id ++ "$" ++ name ∧
    a.isStatement id = false

/-- Ids with one mark are taken apart in one way. -/
theorem eq_of_withMember_eq {id id' name name' : String} (hid : '$' ∉ id.toList)
    (hname : '$' ∉ name.toList) (h : id ++ "$" ++ name = id' ++ "$" ++ name') :
    id' = id ∧ name' = name := by
  have hcount := congrArg (fun s : String => s.toList.count '$') h
  simp only [String.toList_append, List.count_append, List.count_eq_zero_of_not_mem hid,
    List.count_eq_zero_of_not_mem hname] at hcount
  have hmark : ("$" : String).toList.count '$' = 1 := by decide
  have hid' : '$' ∉ id'.toList := List.count_eq_zero.1 (by omega)
  have hname' : '$' ∉ name'.toList := List.count_eq_zero.1 (by omega)
  have hsplit := splitTarget_withMember hid hname
  rw [h, splitTarget_withMember hid' hname', Prod.mk.injEq] at hsplit
  exact hsplit

/-- A statement about a member finds it, whatever was done before, if its id names a member that is
there. -/
theorem NamesMember.finds_iff (h : a.NamesMember k) (hk : a.isStatement k = true)
    (done : List String) : a.Finds done k ↔ a.NamesTarget k := by
  obtain ⟨id, name, hid, hname, hne, rfl, hno⟩ := h
  rw [Finds, HasTarget, splitTarget_withMember hid hname]
  constructor
  · rintro ⟨⟨hshape, hmember⟩, -⟩
    obtain ⟨s, hs⟩ := Option.isSome_iff_exists.1 hshape
    rw [isStatement, hs, Option.any_some] at hno
    exact ⟨id, s, hs, hno, .inr ⟨name, rfl, hmember.resolve_left hne⟩⟩
  · rintro ⟨id', s, hs, happly, heq | ⟨name', heq, hmember⟩⟩
    · rw [isStatement, heq, hs, Option.any_some, happly] at hk
      cases hk
    · obtain ⟨rfl, rfl⟩ := eq_of_withMember_eq hid hname heq
      exact ⟨⟨by rw [hs]; rfl, .inr hmember⟩, fun _ => hno⟩

/-- **Carrying out statements** succeeds exactly if each of them finds its target when its turn comes:
a shape, or a member of it, that is there and was not removed as a statement.  Then no statement is
left; the other entries are, in order and as they were but for traits; and every trait has the value
of the last statement that gives it one.  If all ids of statements name members of entries that are no
statements, success is a matter of the targets alone. -/
theorem applyAll_statements (hkept : Kept a.shapes) :
    (a.applyAll.failure = none ↔ ∀ before k after, a.ids = before ++ k :: after → k ∉ before →
      a.isStatement k = true → a.Finds before k) ∧
    (a.applyAll.failure = none →
      (∀ id, a.applyAll.assembly.isStatement id = false) ∧
      a.applyAll.assembly.ids = a.ids.filter (fun id => !a.isStatement id) ∧
      a.applyAll.assembly.cells.map (·.target) = a.cells.map (·.target) ∧
      (∀ id, a.isStatement id = false →
        (a.applyAll.assembly.shape? id).map ShapeDef.bare = (a.shape? id).map ShapeDef.bare ∧
        ∀ name x, a.applyAll.assembly.traitAt? id name x =
          (a.applied a.ids id name x).or (a.traitAt? id name x)) ∧
      ∀ k s x, a.shape? k = some s → s.isApply = true → (s.trait? x).isSome = true →
        a.isStatement (splitTarget k).1 = false →
        (a.applyAll.assembly.traitAt? (splitTarget k).1 (splitTarget k).2 x).isSome = true) ∧
    ((∀ k, a.isStatement k = true → a.NamesMember k) →
      (a.applyAll.failure = none ↔ ∀ k, a.isStatement k = true → a.NamesTarget k)) := by
  obtain ⟨hiff, hrun⟩ := (carried_nil a).forEach a.ids hkept
  have hlisted {k : String} (hk : a.isStatement k = true) : k ∈ a.ids := by
    obtain ⟨s, hs, -⟩ := (Option.any_eq_true _ _).1 hk
    exact (hkept.lookup hs).1
  have hsuccess : a.applyAll.failure = none ↔ ∀ before k after, a.ids = before ++ k :: after →
      k ∉ before → a.isStatement k = true → a.Finds before k := by
    rw [applyAll]
    simpa only [List.nil_append] using hiff
  have hfinds (hok : a.applyAll.failure = none) {k : String} (hk : a.isStatement k = true) :
      ∃ before, a.Finds before k := by
    obtain ⟨before, after, heq, hnot⟩ := List.eq_append_cons_of_mem (hlisted hk)
    exact ⟨before, hsuccess.1 hok before k after heq hnot hk⟩
  refine ⟨hsuccess, fun hok => ?_, fun hnames => ?_⟩
  · have hcarried : a.Carried a.ids a.applyAll.assembly := hrun hok
    have htraits := hcarried.traits
    refine ⟨fun id => ?_, ?_, hcarried.targets, fun id hid => ⟨?_, htraits id hid⟩,
      fun k s x hs happly hx hno => ?_⟩
    · rw [hcarried.isStatement_eq]
      by_cases hid : a.isStatement id = true
      · simp [hlisted hid]
      · simpa using fun _ => hid
    · rw [hcarried.ids]
      refine List.filter_congr fun id hid => ?_
      simp [hid]
    · rw [hcarried.bare, if_neg (by simp [hid])]
    · have hk : a.isStatement k = true := by rw [isStatement, hs, Option.any_some, happly]
      obtain ⟨before, htarget, -⟩ := hfinds hok hk
      have happlied := isSome_applied (hlisted hk) hk htarget hs hx
      rw [htraits _ hno, Option.isSome_or, happlied, Bool.true_or]
  · rw [hsuccess]
    constructor
    · intro hall k hk
      obtain ⟨before, hfound⟩ := hfinds (hsuccess.2 hall) hk
      exact ((hnames k hk).finds_iff hk before).1 hfound
    · intro hall before k after _ _ hk
      exact ((hnames k hk).finds_iff hk before).2 (hall k hk)

/-- A structure, and a statement that documents its member. -/
def documented : Document :=
  { version := "2.0", shapes := some (OrderedMap.ofFields [
      ("ex#Gale$gust", some { type := "apply"
                              traits := some (OrderedMap.insert {} Trait.documentation
                                (some ⟨.string "a gust"⟩)) }),
      ("ex#Gale", some { type := "structure"
                         members := some (OrderedMap.ofFields
                           [("gust", some { target := "Float" })]) })]) }

theorem kept_documented : Kept documented.shapes := by
  refine ⟨?_, ?_⟩
  · rintro m ⟨⟩
    exact OrderedMap.coherent_ofFields _
  · rintro m id s ⟨⟩ hget
    have hmem := OrderedMap.mem_of_get?_ofFields hget
    simp only [List.mem_cons, Prod.mk.injEq, Option.some.injEq, List.not_mem_nil, or_false] at hmem
    rcases hmem with ⟨-, rfl⟩ | ⟨-, rfl⟩
    · refine ⟨by rintro m ⟨⟩, ?_⟩
      rintro t ⟨⟩
      exact OrderedMap.coherent_empty.insert _ _
    · refine ⟨?_, by rintro t ⟨⟩⟩
      rintro m ⟨⟩
      exact OrderedMap.coherent_ofFields _

/-- The statement is carried out, removed, and shows in the member. -/
theorem applyAll_statements_documented :
    let a := ofDocument 0 documented
    Kept a.shapes ∧ a.applyAll.failure = none ∧ a.applyAll.assembly.ids = ["ex#Gale"] ∧
      (a.applyAll.assembly.traitAt? "ex#Gale" "gust" Trait.documentation).isSome = true := by
  intro a
  have hkept : Kept a.shapes := kept_ofDocument kept_documented 0
  have hids : a.ids = ["ex#Gale$gust", "ex#Gale"] := by decide +kernel
  have hstatement : a.isStatement "ex#Gale$gust" = true := by decide +kernel
  have hstructure : a.isStatement "ex#Gale" = false := by decide +kernel
  have hno (k : String) (hk : a.isStatement k = true) : k = "ex#Gale$gust" := by
    obtain ⟨s, hs, happly⟩ := (Option.any_eq_true _ _).1 hk
    have hmem := (hkept.lookup hs).1
    rw [show (a.shapes.map (·.keys)).getD [] = _ from hids] at hmem
    rcases List.mem_cons.1 hmem with h | hmem
    · exact h
    · rw [List.mem_singleton.1 hmem, hstructure] at hk
      cases hk
  have hnames : ∀ k, a.isStatement k = true → a.NamesMember k := by
    intro k hk
    exact ⟨"ex#Gale", "gust", by decide, by decide, by decide, by rw [hno k hk]; rfl, hstructure⟩
  obtain ⟨-, hleft, hiff⟩ := applyAll_statements hkept
  have hok : a.applyAll.failure = none := by
    refine (hiff hnames).2 fun k hk => ?_
    refine ⟨"ex#Gale", _, rfl, rfl, .inr ⟨"gust", by rw [hno k hk]; rfl, by decide +kernel⟩⟩
  obtain ⟨-, hkeys, -, -, htraits⟩ := hleft hok
  refine ⟨hkept, hok, ?_, ?_⟩
  · rw [hkeys, hids]
    simp [hstatement, hstructure]
  · exact htraits "ex#Gale$gust" _ Trait.documentation rfl rfl (by decide +kernel) hstructure

/-- A statement about nothing. -/
def orphan : Document :=
  { version := "2.0", shapes := some (OrderedMap.ofFields [
      ("ex#Gale", some { type := "apply"
                         traits := some (OrderedMap.insert {} Trait.documentation
                           (some ⟨.string "a gale"⟩)) })]) }

theorem parse_orphan : ∃ text, Document.parse text = .ok orphan :=
  Document.exists_parse [(.version, .string "2.0"), (.shapes, .object
    [("ex#Gale", .object [("type", .string "apply"),
      ("traits", .object [(Trait.documentation, .string "a gale")])])])]
    (by decide) rfl (by decide)

/-- **A statement about nothing** is carried out on itself and goes away. -/
theorem applyAll_orphan :
    (∃ text, Document.parse text = .ok orphan) ∧ (ofDocument 0 orphan).applyAll.failure = none ∧
      (ofDocument 0 orphan).applyAll.assembly.ids = [] ∧
      ¬ ∀ k, (ofDocument 0 orphan).isStatement k = true → (ofDocument 0 orphan).NamesTarget k := by
  have hrun : (ofDocument 0 orphan).applyAll.failure.isNone = true ∧
      (ofDocument 0 orphan).applyAll.assembly.ids = [] := by
    decide +kernel
  refine ⟨parse_orphan, Option.isNone_iff_eq_none.1 hrun.1, hrun.2, fun h => ?_⟩
  obtain ⟨text, htext⟩ := parse_orphan
  have hkept : Kept (ofDocument 0 orphan).shapes :=
    kept_ofDocument (Document.kept_of_parse htext) 0
  have hids : (ofDocument 0 orphan).ids = ["ex#Gale"] := rfl
  obtain ⟨id, s, hs, happly, -⟩ := h "ex#Gale" (by decide +kernel)
  have hid : id = "ex#Gale" := by
    rw [← List.mem_singleton, ← hids]
    exact (hkept.lookup hs).1
  have hstatement : (ofDocument 0 orphan).isStatement id = true := by
    rw [hid]
    decide +kernel
  rw [isStatement, hs, Option.any_some, happly] at hstatement
  cases hstatement

end Assembly
end Shapewright
