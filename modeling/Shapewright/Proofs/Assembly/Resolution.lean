import Shapewright.Proofs.Assembly.Shapes

/-!
# Shapes with their members resolved

The shapes of an assembly refer to their members by position.  This file looks through the
positions.

* `ShapeDef.resolve` — a shape with the members its positions stand for.
* `ShapeView` — what a shape says, the order of its traits aside.
* `Assembly.view` — what an assembly says about an id.
* `Assembly.resolve_shape?_ofDocument` — putting the members of a document into cells loses nothing:
  looking through the positions gives the shapes of the document back, and it keeps doing so when
  more cells follow.
-/

set_option autoImplicit false

namespace Shapewright

/-! ## Documents as functions -/

namespace Document

/-- The ids in order. -/
def ids (d : Document) : List String := (d.shapes.map (·.keys)).getD []

/-- The shape with an id, unless a null stands for it. -/
def shape? (d : Document) (id : String) : Option (ShapeDef MemberDef) :=
  (d.shapes.bind (·.get? id)).join

end Document

/-! ## Looking through positions -/

/-- The member at a position, if a null does not stand for it. -/
def resolveMember (cells : List MemberDef) (m : Option Nat) : Option MemberDef :=
  m.bind (cells[·]?)

/-- A shape with the members that its positions stand for. -/
def ShapeDef.resolve (cells : List MemberDef) (s : ShapeDef Nat) : ShapeDef MemberDef :=
  { s with members := s.members.map (·.map (resolveMember cells)) }

/-- What a shape says: all it has but its traits, and the value of each of those. -/
structure ShapeView where
  shape : ShapeDef MemberDef
  trait? : String → Option Node

/-- What a shape says. -/
def ShapeDef.view (s : ShapeDef MemberDef) : ShapeView :=
  { shape := { s with traits := none }, trait? := s.trait? }

/-- What an assembly says about an id. -/
def Assembly.view (a : Assembly) (id : String) : Option ShapeView :=
  (a.shape? id).map fun s => (s.resolve a.cells).view

/-! ## Putting members into cells -/

namespace Assembly

/-- A step that puts an item into cells keeps to what is there, and `resolve` gets the item back. -/
structure Interns {α β : Type} (resolve : List MemberDef → β → α) (next : Nat)
    (items : List (String × α)) (r : List (String × β) × List MemberDef) : Prop where
  resolved : ∀ front back : List MemberDef, front.length = next →
    (r.1.map fun e => (e.1, resolve (front ++ r.2 ++ back) e.2)) = items

theorem interns_nil {α β : Type} (resolve : List MemberDef → β → α) (next : Nat) :
    Interns resolve next [] ([], []) :=
  ⟨fun _ _ _ => rfl⟩

/-- One more item, whose cells follow those of the items before it. -/
theorem Interns.concat {α β : Type} {resolve : List MemberDef → β → α} {next : Nat}
    {items : List (String × α)} {r : List (String × β) × List MemberDef}
    (h : Interns resolve next items r) (key : String) {x : α} {y : β} {more : List MemberDef}
    (hy : ∀ front back : List MemberDef, front.length = next + r.2.length →
      resolve (front ++ more ++ back) y = x) :
    Interns resolve next (items ++ [(key, x)]) (r.1 ++ [(key, y)], r.2 ++ more) := by
  refine ⟨fun front back hfront => ?_⟩
  rw [List.map_append, List.map_singleton]
  congr 1
  · have := h.resolved front (more ++ back) hfront
    rwa [← List.append_assoc, List.append_assoc front] at this
  · have := hy (front ++ r.2) back (by rw [List.length_append, hfront])
    rw [← List.append_assoc front, this]

theorem interns_foldl {α β : Type} {resolve : List MemberDef → β → α} {next : Nat}
    {put : List (String × β) × List MemberDef → String × α → List (String × β) × List MemberDef}
    (hput : ∀ items r e, Interns resolve next items r →
      Interns resolve next (items ++ [e]) (put r e))
    (items : List (String × α)) : Interns resolve next items (items.foldl put ([], [])) := by
  have h : ∀ (rest front : List (String × α)) r, Interns resolve next front r →
      Interns resolve next (front ++ rest) (rest.foldl put r) := by
    intro rest
    induction rest with
    | nil => intro front r hr; simpa using hr
    | cons e rest ih =>
      intro front r hr
      simpa using ih (front ++ [e]) (put r e) (hput front r e hr)
  exact h items [] ([], []) (interns_nil resolve next)

theorem interns_members (next : Nat) (members : OrderedMap (Option MemberDef)) :
    Interns resolveMember next members.bindings
      ((internMembers next members).1.bindings, (internMembers next members).2) := by
  refine interns_foldl (fun items r e hr => ?_) members.bindings
  obtain ⟨key, m⟩ := e
  cases m with
  | none =>
    have h := hr.concat key (fun front back _ =>
      (rfl : resolveMember (front ++ [] ++ back) none = none))
    simpa using h
  | some m =>
    refine hr.concat key fun front back hfront => ?_
    simp [resolveMember, hfront]

theorem keys_internMembers (next : Nat) (members : OrderedMap (Option MemberDef)) :
    (internMembers next members).1.keys = members.keys := rfl

/-- Looking through the positions that a shape was given gets its members back. -/
theorem resolve_internShape (s : ShapeDef MemberDef) (front back : List MemberDef) :
    (internShape front.length s).1.resolve (front ++ (internShape front.length s).2 ++ back)
      = s := by
  obtain ⟨type, version, member, key, value, members⟩ := s
  cases members with
  | none => rfl
  | some members =>
    have h := (interns_members front.length members).resolved front back rfl
    have hmap : (internMembers front.length members).1.map
        (resolveMember (front ++ (internMembers front.length members).2 ++ back)) = members := by
      rw [OrderedMap.map, h, keys_internMembers]
    simp only [internShape, ShapeDef.resolve, Option.map_some, hmap]

theorem interns_shapes (next : Nat) (shapes : OrderedMap (Option (ShapeDef MemberDef))) :
    Interns (fun cells s => s.map (ShapeDef.resolve cells)) next shapes.bindings
      ((internShapes next shapes).1.bindings, (internShapes next shapes).2) := by
  refine interns_foldl (fun items r e hr => ?_) shapes.bindings
  obtain ⟨id, s⟩ := e
  cases s with
  | none =>
    have h := hr.concat id (fun front back _ =>
      (rfl : (none : Option (ShapeDef Nat)).map (ShapeDef.resolve (front ++ [] ++ back)) = none))
    simpa using h
  | some s =>
    refine hr.concat id fun front back hfront => ?_
    rw [← hfront]
    exact congrArg some (resolve_internShape s front back)

theorem ids_ofDocument (next : Nat) (d : Document) : (ofDocument next d).ids = d.ids := by
  cases hd : d.shapes with
  | none => simp [ofDocument, ids, Document.ids, hd]
  | some shapes => simp [ofDocument, ids, Document.ids, hd, internShapes]

theorem map_resolve_internShapes (shapes : OrderedMap (Option (ShapeDef MemberDef)))
    (front back : List MemberDef) :
    (internShapes front.length shapes).1.map (fun s => s.map
      (ShapeDef.resolve (front ++ (internShapes front.length shapes).2 ++ back))) = shapes := by
  rw [OrderedMap.map, (interns_shapes front.length shapes).resolved front back rfl]
  rfl

/-- **Putting a document into cells loses nothing.** -/
theorem resolve_shape?_ofDocument (d : Document) (front back : List MemberDef) (id : String) :
    ((ofDocument front.length d).shape? id).map
      (ShapeDef.resolve (front ++ (ofDocument front.length d).cells ++ back)) = d.shape? id := by
  cases hd : d.shapes with
  | none => simp [ofDocument, shape?, Document.shape?, hd]
  | some shapes =>
    have hget := congrArg (·.get? id) (map_resolve_internShapes shapes front back)
    simp only [OrderedMap.get?_map] at hget
    simp only [ofDocument, shape?, Document.shape?, hd, Option.bind_some, ← hget]
    exact Option.join_map_eq_map_join.symm

end Assembly
end Shapewright
