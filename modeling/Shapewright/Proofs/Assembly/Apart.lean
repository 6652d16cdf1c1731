import Mathlib.Data.List.Flatten
import Shapewright.Proofs.Assembly.Coherence

/-!
# Members of one's own

Shapes refer to their members by position, so two shapes could have a member in common.  Those that
are gathered from documents do not: every member that a document lists gets a position of its own, and
joining puts no member into another shape.

* `ShapeDef.position?`, `Assembly.position?` — where the member of a shape with a name is.
* `Assembly.Apart` — no two members are at the same position.
* `Assembly.apart_ofDocument` — one document.
* `Assembly.apart_gathered` — however many documents are gathered.

The positions of a document are counted up as its members are come by (`positions_internShapes`), and
from this everything else follows: it is enough to know that a list of numbers has no repetition.
-/

set_option autoImplicit false

namespace Shapewright

/-- In a list without repetition each item comes from one place. -/
theorem eq_of_nodup_flatMap {α β : Type} {l : List α} {f : α → List β} (h : (l.flatMap f).Nodup)
    {x y : α} (hx : x ∈ l) (hy : y ∈ l) {b : β} (hbx : b ∈ f x) (hby : b ∈ f y) : x = y := by
  induction l with
  | nil => simp at hx
  | cons z l ih =>
    rw [List.flatMap_cons, List.nodup_append] at h
    obtain ⟨-, hrest, hdisjoint⟩ := h
    rcases List.mem_cons.1 hx with rfl | hx' <;> rcases List.mem_cons.1 hy with rfl | hy'
    · rfl
    · exact absurd rfl (hdisjoint b hbx b (List.mem_flatMap.2 ⟨y, hy', hby⟩))
    · exact absurd rfl (hdisjoint b hby b (List.mem_flatMap.2 ⟨x, hx', hbx⟩))
    · exact ih hrest hx' hy'

/-! ## Positions -/

namespace ShapeDef

/-- The position of the member with a name, unless a null stands for it. -/
def position? (s : ShapeDef Nat) (name : String) : Option Nat := (s.member? name).join

/-- The positions of the members that a shape binds. -/
def positions (s : ShapeDef Nat) : List Nat :=
  ((s.members.map (·.bindings)).getD []).flatMap fun e => e.2.toList

theorem mem_of_position? {s : ShapeDef Nat} {name : String} {i : Nat}
    (h : s.position? name = some i) : (name, some i) ∈ (s.members.map (·.bindings)).getD [] := by
  have hm : s.member? name = some (some i) := Option.join_eq_some_iff.1 h
  obtain ⟨members, hmembers, hget⟩ := Option.bind_eq_some_iff.1 hm
  obtain ⟨front, back, heq, -⟩ := List.lookup_eq_some_iff.1 hget
  rw [hmembers, Option.map_some, Option.getD_some, heq]
  simp

theorem mem_positions {s : ShapeDef Nat} {name : String} {i : Nat}
    (h : s.position? name = some i) : i ∈ s.positions :=
  List.mem_flatMap.2 ⟨(name, some i), mem_of_position? h, by simp⟩

end ShapeDef

namespace Assembly

variable {a b : Assembly}

/-- The position of a member of a shape. -/
def position? (a : Assembly) (id name : String) : Option Nat :=
  (a.shape? id).bind (·.position? name)

/-- No two members are at the same position. -/
def Apart (a : Assembly) : Prop :=
  ∀ id id' name name' i, a.position? id name = some i → a.position? id' name' = some i →
    id = id' ∧ name = name'

/-- Members are where there are cells. -/
def Placed (a : Assembly) : Prop :=
  ∀ id name i, a.position? id name = some i → i < a.cells.length

/-! ## Counting -/

theorem positions_internMembers (next : Nat) (members : OrderedMap (Option MemberDef)) :
    (internMembers next members).1.bindings.flatMap (fun e => e.2.toList)
      = List.range' next (internMembers next members).2.length := by
  unfold internMembers
  refine List.foldlRecOn
    (motive := fun r : List (String × Option Nat) × List MemberDef =>
      r.1.flatMap (fun e => e.2.toList) = List.range' next r.2.length)
    members.bindings _ rfl ?_
  rintro ⟨bindings, cells⟩ h ⟨key, m⟩ -
  cases m with
  | none => simpa using h
  | some m => simpa [List.range'_1_concat] using h

theorem positions_internShape (next : Nat) (s : ShapeDef MemberDef) :
    (internShape next s).1.positions = List.range' next (internShape next s).2.length := by
  cases hm : s.members with
  | none => simp [internShape, ShapeDef.positions, hm]
  | some members =>
    simpa [internShape, ShapeDef.positions, hm] using positions_internMembers next members

/-- **Positions are counted up** as the members of a document are come by. -/
theorem positions_internShapes (next : Nat) (shapes : OrderedMap (Option (ShapeDef MemberDef))) :
    (internShapes next shapes).1.bindings.flatMap
        (fun e => (e.2.map ShapeDef.positions).getD [])
      = List.range' next (internShapes next shapes).2.length := by
  unfold internShapes
  refine List.foldlRecOn
    (motive := fun r : List (String × Option (ShapeDef Nat)) × List MemberDef =>
      r.1.flatMap (fun e => (e.2.map ShapeDef.positions).getD []) = List.range' next r.2.length)
    shapes.bindings _ rfl ?_
  rintro ⟨bindings, cells⟩ h ⟨id, s⟩ -
  cases s with
  | none => simpa using h
  | some s =>
    have hs := positions_internShape (next + cells.length) s
    simp only at h
    simp [h, hs, List.range'_append_1]

/-! ## One document -/

theorem exists_of_position_ofDocument {next : Nat} {d : Document} {id name : String} {i : Nat}
    (h : (ofDocument next d).position? id name = some i) :
    ∃ shapes s, d.shapes = some shapes ∧ (id, some s) ∈ (internShapes next shapes).1.bindings ∧
      s.position? name = some i := by
  obtain ⟨s, hs, hi⟩ := Option.bind_eq_some_iff.1 h
  cases hd : d.shapes with
  | none => simp [ofDocument, shape?, hd] at hs
  | some shapes =>
    simp only [ofDocument, shape?, hd, Option.bind_some, Option.join_eq_some_iff] at hs
    obtain ⟨front, back, heq, -⟩ := List.lookup_eq_some_iff.1 hs
    exact ⟨shapes, s, rfl, by simp [heq], hi⟩

/-- The members of a document are apart. -/
theorem apart_ofDocument (next : Nat) (d : Document) : (ofDocument next d).Apart := by
  intro id id' name name' i h h'
  obtain ⟨shapes, s, hd, hs, hi⟩ := exists_of_position_ofDocument h
  obtain ⟨shapes', s', hd', hs', hi'⟩ := exists_of_position_ofDocument h'
  obtain rfl : shapes = shapes' := Option.some.inj (hd.symm.trans hd')
  have hnodup : ((internShapes next shapes).1.bindings.flatMap
      fun e => (e.2.map ShapeDef.positions).getD []).Nodup := by
    rw [positions_internShapes]
    exact List.nodup_range'
  have hsame := eq_of_nodup_flatMap hnodup hs hs' (b := i)
    (by simpa using ShapeDef.mem_positions hi) (by simpa using ShapeDef.mem_positions hi')
  cases hsame
  have hown : s.positions.Nodup := by
    simpa using (List.nodup_flatMap.1 hnodup).1 (id, some s) hs
  have hname := eq_of_nodup_flatMap hown (ShapeDef.mem_of_position? hi)
    (ShapeDef.mem_of_position? hi') (b := i) (by simp) (by simp)
  exact ⟨rfl, (Prod.mk.inj hname).1⟩

/-- The members of a document come after those that are there. -/
theorem bounds_of_position_ofDocument {next : Nat} {d : Document} {id name : String} {i : Nat}
    (h : (ofDocument next d).position? id name = some i) :
    next ≤ i ∧ i < next + (ofDocument next d).cells.length := by
  obtain ⟨shapes, s, hd, hs, hi⟩ := exists_of_position_ofDocument h
  have hmem : i ∈ (internShapes next shapes).1.bindings.flatMap
      fun e => (e.2.map ShapeDef.positions).getD [] :=
    List.mem_flatMap.2 ⟨_, hs, by simpa using ShapeDef.mem_positions hi⟩
  rw [positions_internShapes, List.mem_range'_1] at hmem
  simpa [ofDocument, hd] using hmem

/-! ## Joining -/

theorem position?_apply (a : Assembly) (target : String) (traits : Option Traits)
    (id name : String) :
    (a.apply target traits).assembly.position? id name = a.position? id name := by
  unfold apply
  simp only
  split
  · rfl
  · rename_i s hs
    split
    · rw [position?, position?, shape?_insert]
      split
      · rename_i hid
        rw [hid, hs]
        rfl
      · rfl
    · split <;> rfl

theorem position?_insert (a : Assembly) (id : String) (s : Option (ShapeDef Nat))
    (x name : String) :
    (a.insert id s).position? x name = if x = id then s.bind (·.position? name)
      else a.position? x name := by
  rw [position?, shape?_insert]
  split <;> rfl

/-- A shape that joins brings its own members, if any. -/
theorem position?_mergeShape {id : String} {incoming : Option (ShapeDef Nat)} {x name : String}
    {i : Nat} (h : (a.mergeShape id incoming).assembly.position? x name = some i) :
    a.position? x name = some i ∨ x = id ∧ incoming.bind (·.position? name) = some i := by
  have hinsert (s : Option (ShapeDef Nat)) (h : (a.insert id s).position? x name = some i) :
      a.position? x name = some i ∨ x = id ∧ s.bind (·.position? name) = some i := by
    rw [position?_insert] at h
    split at h
    · exact .inr ⟨‹_›, h⟩
    · exact .inl h
  unfold mergeShape at h
  split at h
  · exact hinsert _ h
  · exact .inl h
  · split at h
    · rw [position?_apply] at h
      exact .inl h
    · split at h
      · rw [position?_apply] at h
        exact hinsert _ h
      · exact .inl h

theorem cells_mergeShape (id : String) (incoming : Option (ShapeDef Nat)) :
    (a.mergeShape id incoming).assembly.cells.length = a.cells.length := by
  have happly (b : Assembly) (traits : Option Traits) :
      (b.apply id traits).assembly.cells.length = b.cells.length := by
    unfold apply
    simp only
    split
    · rfl
    · split
      · rfl
      · split
        · rfl
        · exact List.length_set
  unfold mergeShape
  split
  · rfl
  · rfl
  · split
    · exact happly a _
    · split
      · exact happly _ _
      · rfl

/-- What there is after some shapes of `doc` have joined: the members of each shape are those that it
has in one of the two. -/
structure Joined (a doc b : Assembly) : Prop where
  sources : ∀ id name i, b.position? id name = some i →
    a.position? id name = some i ∨ doc.position? id name = some i
  cells : b.cells.length = a.cells.length + doc.cells.length

theorem Joined.mergeShape {doc : Assembly} (h : Joined a doc b) (id : String) :
    Joined a doc (b.mergeShape id (doc.shape? id)).assembly := by
  refine ⟨fun x name i hi => ?_, (cells_mergeShape id _).trans h.cells⟩
  rcases position?_mergeShape hi with hi | ⟨rfl, hi⟩
  · exact h.sources x name i hi
  · exact .inr hi

/-- **A document that joins** keeps members apart. -/
theorem apart_merge (h : a.Apart) (hp : a.Placed) (d : Document) :
    (a.merge d).assembly.Apart ∧ (a.merge d).assembly.Placed := by
  cases hempty : a.isEmpty with
  | true =>
    rw [merge, if_pos hempty]
    refine ⟨apart_ofDocument 0 d, fun id name i hi => ?_⟩
    simpa using (bounds_of_position_ofDocument hi).2
  | false =>
    obtain ⟨warnings, hmerge⟩ := merge_of_nonempty hempty d
    rw [hmerge]
    obtain ⟨hsource, hcells⟩ : Joined a (ofDocument a.cells.length d)
        (Update.forEach (fun b id => b.mergeShape id ((ofDocument a.cells.length d).shape? id))
          d.ids (a.opened d)).assembly :=
      forEach_preserves (fun b hb id _ => hb.mergeShape id)
        ⟨fun id name i hi => .inl hi, by simp [opened]⟩
    refine ⟨fun id id' name name' i hi hi' => ?_, fun id name i hi => ?_⟩
    · -- Old positions are below the number of cells, new ones are not.
      rcases hsource id name i hi with hi | hi <;> rcases hsource id' name' i hi' with hi' | hi'
      · exact h id id' name name' i hi hi'
      · have hold := hp id name i hi
        have hnew := (bounds_of_position_ofDocument hi').1
        omega
      · have hold := hp id' name' i hi'
        have hnew := (bounds_of_position_ofDocument hi).1
        omega
      · exact apart_ofDocument _ d id id' name name' i hi hi'
    · refine Nat.lt_of_lt_of_eq ?_ hcells.symm
      rcases hsource id name i hi with hi | hi
      · exact Nat.lt_add_right _ (hp id name i hi)
      · exact (bounds_of_position_ofDocument hi).2

/-- **Documents that are gathered** have their members apart. -/
theorem apart_gathered (docs : List Document) : (Update.forEach merge docs {}).assembly.Apart := by
  have hnone (id name : String) : ({} : Assembly).position? id name = none := rfl
  have hempty : Apart {} ∧ Placed {} :=
    ⟨fun id id' name name' i h => by simp [hnone] at h, fun id name i h => by simp [hnone] at h⟩
  exact (forEach_preserves (P := fun b => b.Apart ∧ b.Placed)
    (fun b hb d _ => apart_merge hb.1 hb.2 d) hempty).1

end Assembly
end Shapewright
