import Shapewright.Assembly.Load
import Shapewright.Proofs.Assembly.Coherence
import Shapewright.Proofs.Assembly.Ending
import Shapewright.Proofs.Assembly.Imported
import Shapewright.Proofs.Json.Grammar

/-!
# The numbers in a model

Every value in a catalog is that of a trait.  It comes from a document, and goes through many hands
on the way: it is put in canonical form, laid over other traits by a statement, taken over from a
mixin.  None of them makes a number, so whatever a reader of documents asks of a number can be relied
on in a catalog.

* `Document.AllNumbers`, `Assembly.AllNumbers`, `Shape.AllNumbers` — all numbers pass a test.
* `Document.allNumbers_of_parse` — what a reader of documents asks of numbers, `isModelNumber`.
* `Assembly.AllNumbers.merge`, `Assembly.AllNumbers.expandAll`, `Assembly.AllNumbers.applyAll` — the
  steps of gathering keep it so, whether they fail or not.
* `Assembly.allNumbers_of_gives_toCatalog` — and so does the making of a catalog.
* `Catalog.allNumbers_of_load` — the payoff, for the catalog of a model.

The members of shapes stand in cells of the assembly, so what holds of the shapes alone would be lost
where a statement is about a member; the invariant is about both.
-/

set_option autoImplicit false

namespace Shapewright

variable {p : String → Bool}

/-- Whether a number may stand in a model: it is spelled as one, and is not out of range. -/
def isModelNumber (number : String) : Bool := Json.isNumber number && isInRange number

/-! ## Traits -/

/-- All numbers in a value pass a test. -/
def Node.AllNumbers (p : String → Bool) (n : Node) : Prop := n.value.allNumbers p = true

namespace Traits

/-- All numbers in the values of traits pass a test. -/
def AllNumbers (p : String → Bool) (t : Traits) : Prop :=
  ∀ id n, Traits.get? t id = some n → n.AllNumbers p

theorem allNumbers_empty : Traits.AllNumbers p {} := by
  rintro id n ⟨⟩

/-- A value that is left out is filled in without a number. -/
theorem allNumbers_of_bindings {t : Traits}
    (h : ∀ id n, (id, some n) ∈ t.bindings → n.AllNumbers p) : Traits.AllNumbers p t := by
  intro id n hn
  obtain ⟨x, hx, rfl⟩ := Option.map_eq_some_iff.1 hn
  cases x with
  | none => dsimp only; split <;> rfl
  | some n => exact h id n (OrderedMap.mem_bindings_of_get? hx)

theorem AllNumbers.insert {t : Traits} (h : Traits.AllNumbers p t) (id : String) {n : Node}
    (hn : n.AllNumbers p) : Traits.AllNumbers p (t.insert id (some n)) := by
  intro k m hm
  have hget : Traits.get? (t.insert id (some n)) k = if k = id then some n else t.get? k := by
    rw [get?, OrderedMap.get?_insert, apply_ite (Option.map _)]
    rfl
  rw [hget] at hm
  split at hm
  · obtain rfl := Option.some.inj hm
    exact hn
  · exact h k m hm

theorem AllNumbers.addAll {t : Traits} (h : Traits.AllNumbers p t) {entries : List (String × Node)}
    (hentries : ∀ e ∈ entries, e.2.AllNumbers p) : Traits.AllNumbers p (t.addAll entries) :=
  List.foldlRecOn (motive := Traits.AllNumbers p) entries _ h fun _ ht e he =>
    ht.insert e.1 (hentries e he)

theorem allNumbers_of_mem_entries {t : Option Traits}
    (h : ∀ u, t = some u → Traits.AllNumbers p u) {e : String × Node}
    (he : e ∈ (t.map Traits.entries).getD []) : e.2.AllNumbers p := by
  cases t with
  | none => cases he
  | some t =>
    obtain ⟨id, -, hget⟩ := List.mem_filterMap.1 he
    obtain ⟨n, hn, rfl⟩ := Option.map_eq_some_iff.1 hget
    exact h t rfl id n hn

theorem allNumbers_getD {t : Option Traits} (h : ∀ u, t = some u → Traits.AllNumbers p u) :
    Traits.AllNumbers p (t.getD {}) := by
  cases t with
  | none => exact allNumbers_empty
  | some t => exact h t rfl

end Traits

/-! ## Shapes -/

/-- All numbers in the traits of a member pass a test. -/
def MemberDef.AllNumbers (p : String → Bool) (m : MemberDef) : Prop :=
  ∀ t, m.traits = some t → Traits.AllNumbers p t

/-- All numbers in the traits of a shape and of its elements pass a test. Members under names are
kept elsewhere. -/
structure ShapeDef.AllNumbers {μ : Type} (p : String → Bool) (s : ShapeDef μ) : Prop where
  traits : ∀ t, s.traits = some t → Traits.AllNumbers p t
  member : ∀ m, s.member = some m → m.AllNumbers p
  key : ∀ m, s.key = some m → m.AllNumbers p
  value : ∀ m, s.value = some m → m.AllNumbers p

/-- All numbers in a shape as a document gives it pass a test, and those in its members. -/
structure ShapeDef.EveryNumber (p : String → Bool) (s : ShapeDef MemberDef) : Prop
    extends ShapeDef.AllNumbers p s where
  members : ∀ ms, s.members = some ms → ∀ name m, (name, some m) ∈ ms.bindings → m.AllNumbers p

theorem ShapeDef.everyNumber_empty : ({} : ShapeDef MemberDef).EveryNumber p where
  traits := by rintro t ⟨⟩
  member := by rintro m ⟨⟩
  key := by rintro m ⟨⟩
  value := by rintro m ⟨⟩
  members := by rintro ms ⟨⟩

/-- All numbers in the shapes of a document pass a test. -/
def Document.AllNumbers (p : String → Bool) (d : Document) : Prop :=
  ∀ shapes, d.shapes = some shapes → ∀ id s, (id, some s) ∈ shapes.bindings → s.EveryNumber p

/-- All numbers in the shapes of an assembly pass a test. -/
structure Assembly.AllNumbers (p : String → Bool) (a : Assembly) : Prop where
  shapes : ∀ id s, a.shape? id = some s → s.AllNumbers p
  cells : ∀ m ∈ a.cells, m.AllNumbers p

/-- All numbers in a shape pass a test. -/
structure Shape.AllNumbers (p : String → Bool) (s : Shape) : Prop where
  traits : Traits.AllNumbers p s.traits
  members : ∀ m ∈ s.everyMember, Traits.AllNumbers p m.traits

theorem Shape.AllNumbers.addMember {s : Shape} (h : s.AllNumbers p) (name : String)
    (target : ShapeId) {traits : Traits} (ht : Traits.AllNumbers p traits) :
    (s.addMember name target traits).AllNumbers p := by
  refine ⟨h.traits, fun m hm => ?_⟩
  rcases everyMember_of_addMember hm with rfl | hm
  · exact ht
  · exact h.members m hm

/-! ## Reading -/

namespace Document

variable {v : Json}

theorem allNumbers_of_ofJson? {t : Traits} (hv : v.allNumbers p = true)
    (h : Traits.ofJson? v = some t) : Traits.AllNumbers p t := by
  obtain ⟨fields, hfields, h⟩ := Option.bind_eq_some_iff.1 h
  obtain rfl := Option.some.inj h
  obtain rfl : v = .object fields := by
    unfold boundedFields? at hfields
    split at hfields
    · split at hfields <;> cases hfields
      rfl
    · cases hfields
  refine Traits.allNumbers_of_bindings fun id n hn => ?_
  obtain ⟨⟨_, w⟩, hw, heq⟩ := List.mem_map.1 (OrderedMap.mem_of_mem_bindings_ofFields hn)
  obtain ⟨rfl, hnode⟩ := Prod.mk.inj heq
  have hw : w.allNumbers p = true := Json.allNumbersFields_iff.1 hv _ hw
  cases w with
  | null => cases hnode
  | _ => exact Option.some.inj hnode ▸ Json.allNumbers_canonical _ hw

theorem allNumbers_of_readMember? {old : Option MemberDef} {m : MemberDef}
    (hold : ∀ m, old = some m → m.AllNumbers p) (hv : v.allNumbers p = true)
    (h : readMember? old v = some m) : m.AllNumbers p := by
  refine readFields?_preserves (P := MemberDef.AllNumbers p) (Q := fun w => w.allNumbers p = true)
    (fun m key w m' hw hm hstep => ?_)
    (by rintro fields rfl; exact Json.allNumbersFields_iff.1 hv) ?_ h
  · split at hstep
    · obtain ⟨target, -, rfl⟩ := Option.map_eq_some_iff.1 hstep
      exact hm
    · obtain ⟨traits, htraits, rfl⟩ := Option.map_eq_some_iff.1 hstep
      rintro t rfl
      exact allNumbers_of_ofJson? hw (read_of_readNullable? htraits)
    · obtain rfl := Option.some.inj hstep
      exact hm
  · cases old with
    | none => rintro t ⟨⟩
    | some m => exact hold m rfl

/-- What a map that is read binds was read from one of the fields. -/
theorem exists_read_of_readMap? {α : Type} {read : Json → Option α} {m : OrderedMap α}
    (hv : v.allNumbers p = true) (h : readMap? read v = some m) {e : String × α}
    (he : e ∈ m.bindings) : ∃ w, w.allNumbers p = true ∧ read w = some e.2 := by
  cases v with
  | object fields =>
    obtain ⟨pairs, hpairs, rfl⟩ := Option.map_eq_some_iff.1 h
    obtain ⟨f, hf, hread⟩ := Outcome.exists_mem_of_mapM_eq_some hpairs e
      (OrderedMap.mem_of_mem_bindings_ofFields he)
    obtain ⟨a, ha, rfl⟩ := Option.map_eq_some_iff.1 hread
    exact ⟨f.2, Json.allNumbersFields_iff.1 hv f hf, ha⟩
  | _ => cases h

theorem everyNumber_readShapeField? {s s' : ShapeDef MemberDef} {key : String}
    (hv : v.allNumbers p = true) (hs : s.EveryNumber p) (h : readShapeField? s key v = some s') :
    s'.EveryNumber p := by
  unfold readShapeField? at h
  split at h
  case h_3 =>
    obtain ⟨m, hm, rfl⟩ := Option.map_eq_some_iff.1 h
    refine { hs with member := ?_ }
    rintro m rfl
    exact allNumbers_of_readMember? hs.member hv (read_of_readNullable? hm)
  case h_4 =>
    obtain ⟨m, hm, rfl⟩ := Option.map_eq_some_iff.1 h
    refine { hs with key := ?_ }
    rintro m rfl
    exact allNumbers_of_readMember? hs.key hv (read_of_readNullable? hm)
  case h_5 =>
    obtain ⟨m, hm, rfl⟩ := Option.map_eq_some_iff.1 h
    refine { hs with value := ?_ }
    rintro m rfl
    exact allNumbers_of_readMember? hs.value hv (read_of_readNullable? hm)
  case h_6 =>
    obtain ⟨members, hmembers, rfl⟩ := Option.map_eq_some_iff.1 h
    refine { hs with members := ?_ }
    rintro ms rfl name m hm
    obtain ⟨w, hw, hread⟩ := exists_read_of_readMap? hv (read_of_readNullable? hmembers) hm
    exact allNumbers_of_readMember? (by rintro _ ⟨⟩) hw (read_of_readNullable? hread)
  case h_21 =>
    obtain ⟨traits, htraits, rfl⟩ := Option.map_eq_some_iff.1 h
    refine { hs with traits := ?_ }
    rintro t rfl
    exact allNumbers_of_ofJson? hv (read_of_readNullable? htraits)
  case h_22 =>
    obtain rfl := Option.some.inj h
    exact hs
  all_goals
    obtain ⟨x, -, rfl⟩ := Option.map_eq_some_iff.1 h
    exact { hs with }

theorem everyNumber_readShape? {s : ShapeDef MemberDef} (hv : v.allNumbers p = true)
    (h : readShape? v = some s) : s.EveryNumber p :=
  readFields?_preserves (Q := fun w => w.allNumbers p = true)
    (fun _ _ _ _ hw hs hstep => everyNumber_readShapeField? hw hs hstep)
    (by rintro fields rfl; exact Json.allNumbersFields_iff.1 hv)
    ShapeDef.everyNumber_empty h

/-- **Numbers of a document that is read** are spelled as numbers, and none is out of range. -/
theorem allNumbers_of_parse {text : String} {d : Document} (h : parse text = .ok d) :
    d.AllNumbers isModelNumber := by
  intro shapes hshapes id s hs
  obtain ⟨own, v, hv, hread⟩ := areRead_of_parse h shapes hshapes
  unfold readShapes? at hread
  split at hread
  · rename_i hrange
    have hboth := Json.allNumbers_and (Json.of_parse? hv).2 hrange
    obtain ⟨w, hw, hshape⟩ := exists_read_of_readMap? hboth hread hs
    exact everyNumber_readShape? hw (read_of_readNullable? hshape)
  · cases hread

end Document

/-! ## Gathering -/

namespace Assembly

variable {a : Assembly} {d : Document}

theorem allNumbers_empty : ({} : Assembly).AllNumbers p where
  shapes := by rintro id s ⟨⟩
  cells := List.forall_mem_nil _

/-- Cells hold the members of a shape. -/
theorem mem_of_mem_internMembers {next : Nat} {members : OrderedMap (Option MemberDef)}
    {m : MemberDef} (h : m ∈ (internMembers next members).2) :
    ∃ name, (name, some m) ∈ members.bindings := by
  refine List.foldlRecOn (motive := fun acc : List (String × Option Nat) × List MemberDef =>
    ∀ m ∈ acc.2, ∃ name, (name, some m) ∈ members.bindings) members.bindings _
    (List.forall_mem_nil _) (fun acc hacc e he => ?_) m h
  obtain ⟨name, none | m⟩ := e
  · exact hacc
  · exact List.forall_mem_append.2 ⟨hacc, List.forall_mem_singleton.2 ⟨name, he⟩⟩

theorem allNumbers_internShape {s : ShapeDef MemberDef} (hs : s.EveryNumber p) (next : Nat) :
    (internShape next s).1.AllNumbers p ∧ ∀ m ∈ (internShape next s).2, m.AllNumbers p := by
  refine ⟨⟨hs.traits, hs.member, hs.key, hs.value⟩, fun m hm => ?_⟩
  unfold internShape at hm
  cases hmembers : s.members with
  | none =>
    rw [hmembers] at hm
    cases hm
  | some members =>
    rw [hmembers] at hm
    obtain ⟨name, hname⟩ := mem_of_mem_internMembers hm
    exact hs.members members hmembers name m hname

theorem allNumbers_ofDocument (hd : d.AllNumbers p) (next : Nat) :
    (ofDocument next d).AllNumbers p := by
  cases hshapes : d.shapes with
  | none =>
    rw [ofDocument, hshapes]
    exact ⟨by rintro id s ⟨⟩, List.forall_mem_nil _⟩
  | some shapes =>
    have hfold : (∀ id s, (id, some s) ∈ (internShapes next shapes).1.bindings → s.AllNumbers p) ∧
        ∀ m ∈ (internShapes next shapes).2, m.AllNumbers p := by
      refine List.foldlRecOn
        (motive := fun acc : List (String × Option (ShapeDef Nat)) × List MemberDef =>
          (∀ id s, (id, some s) ∈ acc.1 → s.AllNumbers p) ∧ ∀ m ∈ acc.2, m.AllNumbers p)
        shapes.bindings _ ⟨by simp, List.forall_mem_nil _⟩ ?_
      rintro acc ⟨hbindings, hcells⟩ ⟨id, _ | s⟩ he
      · exact ⟨fun x t ht => hbindings x t (by simpa using ht), hcells⟩
      · obtain ⟨hshape, hmembers⟩ :=
          allNumbers_internShape (hd shapes hshapes id s he) (next + acc.2.length)
        refine ⟨fun x t ht => ?_, List.forall_mem_append.2 ⟨hcells, hmembers⟩⟩
        rcases List.mem_append.1 ht with ht | ht
        · exact hbindings x t ht
        · obtain ⟨-, heq⟩ := Prod.mk.inj (List.mem_singleton.1 ht)
          exact Option.some.inj heq ▸ hshape
    rw [ofDocument, hshapes]
    refine ⟨fun id s hs => hfold.1 id s ?_, hfold.2⟩
    obtain ⟨m, hm, hget⟩ := Option.bind_eq_some_iff.1 (Option.join_eq_some_iff.1 hs)
    obtain rfl := Option.some.inj hm
    exact OrderedMap.mem_bindings_of_get? hget

theorem AllNumbers.insert (h : a.AllNumbers p) (id : String) {s : Option (ShapeDef Nat)}
    (hs : ∀ t, s = some t → t.AllNumbers p) : (a.insert id s).AllNumbers p := by
  refine ⟨fun x t ht => ?_, h.cells⟩
  rw [shape?_insert] at ht
  split at ht
  · exact hs t ht
  · exact h.shapes x t ht

theorem allNumbers_addTraits {old more : Option Traits}
    (hold : ∀ t, old = some t → Traits.AllNumbers p t)
    (hmore : ∀ t, more = some t → Traits.AllNumbers p t) :
    Traits.AllNumbers p (addTraits old more) :=
  (Traits.allNumbers_getD hold).addAll fun _ he => Traits.allNumbers_of_mem_entries hmore he

theorem AllNumbers.apply (h : a.AllNumbers p) (target : String) {traits : Option Traits}
    (ht : ∀ t, traits = some t → Traits.AllNumbers p t) :
    (a.apply target traits).assembly.AllNumbers p := by
  unfold Assembly.apply
  simp only
  split
  · exact h
  · rename_i s hs
    split
    · refine h.insert _ ?_
      rintro t ⟨⟩
      refine { h.shapes _ s hs with traits := ?_ }
      rintro t ⟨⟩
      exact allNumbers_addTraits (h.shapes _ s hs).traits ht
    · split
      · exact h
      · rename_i i m hm
        obtain ⟨_, -, hm⟩ := Option.bind_eq_some_iff.1 hm
        obtain ⟨_, -, hm⟩ := Option.bind_eq_some_iff.1 hm
        obtain ⟨j, -, hm⟩ := Option.bind_eq_some_iff.1 hm
        obtain ⟨m', hcell, heq⟩ := Option.bind_eq_some_iff.1 hm
        obtain ⟨rfl, rfl⟩ := Prod.mk.inj (Option.some.inj heq)
        refine ⟨h.shapes, fun n hn => ?_⟩
        rcases List.mem_or_eq_of_mem_set hn with hn | rfl
        · exact h.cells n hn
        · rintro t ⟨⟩
          exact allNumbers_addTraits (h.cells _ (List.mem_of_getElem? hcell)) ht

theorem AllNumbers.mergeShape (h : a.AllNumbers p) (id : String) {incoming : Option (ShapeDef Nat)}
    (hs : ∀ t, incoming = some t → t.AllNumbers p) :
    (a.mergeShape id incoming).assembly.AllNumbers p := by
  unfold Assembly.mergeShape
  split
  · exact h.insert id hs
  · exact h
  · rename_i present s hpresent
    split
    · exact h.apply id (hs s rfl).traits
    · split
      · exact (h.insert id hs).apply id (h.shapes id present hpresent).traits
      · exact h

/-- **A document that joins** brings its numbers. -/
theorem AllNumbers.merge (h : a.AllNumbers p) (hd : d.AllNumbers p) :
    (a.merge d).assembly.AllNumbers p := by
  unfold Assembly.merge
  split
  · exact allNumbers_ofDocument hd 0
  · have hincoming := allNumbers_ofDocument hd a.cells.length
    exact forEach_preserves (P := Assembly.AllNumbers p)
      (fun b hb id _ => hb.mergeShape id (hincoming.shapes id))
      ⟨h.shapes, List.forall_mem_append.2 ⟨h.cells, hincoming.cells⟩⟩

end Assembly

/-! ## Mixins -/

namespace Borrowed

variable {b : Borrowed} {s : ShapeDef Nat}

theorem allNumbers_addMixin (hb : Traits.AllNumbers p b.traits) (hs : s.AllNumbers p) :
    Traits.AllNumbers p (b.addMixin s).traits :=
  hb.addAll fun _ he => Traits.allNumbers_of_mem_entries hs.traits (List.mem_of_mem_filter he)

theorem allNumbers_finish (hb : Traits.AllNumbers p b.traits) (hs : s.AllNumbers p) :
    (b.finish s).AllNumbers p := by
  refine ⟨?_, hs.member, hs.key, hs.value⟩
  rintro t ⟨⟩
  exact hb.addAll fun _ he => Traits.allNumbers_of_mem_entries hs.traits he

end Borrowed

namespace Expansion

variable {e : Expansion} {b : Borrowed}

theorem allNumbers_borrow (he : e.assembly.AllNumbers p) (hb : Traits.AllNumbers p b.traits)
    (id : String) (s : ShapeDef Nat) (target : String) :
    (e.borrow id s b target).1.assembly.AllNumbers p ∧
      Traits.AllNumbers p (e.borrow id s b target).2.traits := by
  unfold borrow
  split
  · exact ⟨he, hb⟩
  · rename_i mixin hmixin
    split
    · exact ⟨he, hb⟩
    · exact ⟨he, Borrowed.allNumbers_addMixin hb (he.shapes target mixin hmixin)⟩

theorem allNumbers_expandMixins {visit : Expansion → String → Expansion}
    (hvisit : ∀ e id, e.assembly.AllNumbers p → (visit e id).assembly.AllNumbers p) (id : String)
    (s : ShapeDef Nat) (refs : List Ref) (he : e.assembly.AllNumbers p)
    (hb : Traits.AllNumbers p b.traits) :
    (expandMixins visit e id s b refs).1.assembly.AllNumbers p ∧
      Traits.AllNumbers p (expandMixins visit e id s b refs).2.traits := by
  induction refs generalizing e b with
  | nil =>
    rw [expandMixins]
    exact ⟨he, hb⟩
  | cons ref rest ihrest =>
    cases ref with
    | none =>
      rw [expandMixins]
      exact ⟨he, hb⟩
    | some target =>
      have htarget := hvisit e target he
      obtain ⟨hborrowed, htraits⟩ := allNumbers_borrow htarget hb id s target
      rw [expandMixins]
      simp only
      split
      · exact ⟨htarget, hb⟩
      · split
        · exact ⟨hborrowed, htraits⟩
        · exact ihrest hborrowed htraits

/-- **One step of the walk** takes over what is there. -/
theorem allNumbers_expand (depth : Nat) : ∀ e id, e.assembly.AllNumbers p →
    (expand depth e id).assembly.AllNumbers p := by
  induction depth with
  | zero =>
    intro e id he
    rw [expand]
    exact he
  | succ depth ih =>
    intro e id he
    rw [expand]
    split
    · exact he
    · simp only
      split
      · exact he
      · rename_i s hs
        split
        · exact he
        · rename_i refs _
          obtain ⟨hmixins, htraits⟩ := allNumbers_expandMixins (b := {}) ih id s refs
            (e := { e with done := id :: e.done }) he Traits.allNumbers_empty
          split
          · exact hmixins
          · refine hmixins.insert id ?_
            rintro t ⟨⟩
            exact Borrowed.allNumbers_finish htraits (he.shapes id s hs)

theorem allNumbers_expandEach (depth : Nat) {ids : List String} (he : e.assembly.AllNumbers p) :
    (expandEach depth ids e).assembly.AllNumbers p := by
  induction ids generalizing e with
  | nil => exact he
  | cons id rest ih =>
    have hstep := allNumbers_expand depth e id he
    rw [expandEach]
    split
    · exact hstep
    · exact ih hstep

end Expansion

namespace Assembly

variable {a : Assembly}

theorem AllNumbers.expandAll (h : a.AllNumbers p) : a.expandAll.assembly.AllNumbers p :=
  Expansion.allNumbers_expandEach _ h

/-! ## Statements -/

theorem AllNumbers.applyOne (h : a.AllNumbers p) (id : String) :
    (a.applyOne id).assembly.AllNumbers p := by
  unfold Assembly.applyOne
  split
  · exact h
  · rename_i s hs
    have happly := h.apply id (h.shapes id s hs).traits
    split
    · simp only
      split
      · exact happly
      · refine ⟨fun x t ht => ?_, happly.cells⟩
        rw [shape?_erase] at ht
        split at ht
        · cases ht
        · exact happly.shapes x t ht
    · exact h

theorem AllNumbers.applyAll (h : a.AllNumbers p) : a.applyAll.assembly.AllNumbers p :=
  forEach_preserves (P := Assembly.AllNumbers p) (fun _ hb id _ => hb.applyOne id) h

/-! ## The catalog -/

open Noting

variable {shape r : Shape} {id : ShapeId} {s : ShapeDef Nat}

theorem allNumbers_of_gives_importMember {name : String} {m : MemberDef} {r : Member}
    (hm : m.AllNumbers p) (h : (importMember id name m).Gives r) :
    Traits.AllNumbers p r.traits := by
  obtain ⟨target, -, h⟩ := exists_gives_of_bind h
  obtain rfl := gives_pure_iff.1 h
  exact Traits.allNumbers_getD hm

theorem allNumbers_of_gives_importMembers (ha : a.AllNumbers p) (hshape : shape.AllNumbers p)
    (h : (importMembers a id s shape).Gives r) : r.AllNumbers p := by
  refine of_gives_foldlM (P := Shape.AllNumbers p) h hshape fun r hr entry _ d hd => ?_
  simp only at hd
  split at hd
  · exact absurd hd (not_gives_throw _ _)
  · rename_i m hm
    obtain ⟨i, -, hcell⟩ := Option.bind_eq_some_iff.1 hm
    obtain ⟨m', hm', hd⟩ := exists_gives_of_bind hd
    obtain rfl := gives_pure_iff.1 hd
    exact hr.addMember _ _
      (allNumbers_of_gives_importMember (ha.cells m (List.mem_of_getElem? hcell)) hm')

/-- The constants of a string have texts for traits. -/
theorem allNumbers_importLegacyEnum (h : shape.AllNumbers p) :
    (importLegacyEnum shape).AllNumbers p := by
  have htext (text : String) : (Node.ofString text).AllNumbers p := rfl
  unfold importLegacyEnum
  generalize ((Traits.get? shape.traits Trait.enum).map Node.items).getD [] = items
  induction items generalizing shape with
  | nil => exact h
  | cons item items ih =>
    rw [List.foldl_cons]
    refine ih (h.addMember _ _ ?_)
    split
    · exact Traits.allNumbers_empty.insert _ (htext _)
    · exact (Traits.allNumbers_empty.insert _ (htext _)).insert _ (htext _)

/-- A shape without members, but with these elements. -/
theorem allNumbers_of_elements {s : Shape} (ht : Traits.AllNumbers p s.traits)
    (hmembers : s.members = {})
    (helements : ∀ m, some m ∈ [s.item, s.key, s.value] → Traits.AllNumbers p m.traits) :
    s.AllNumbers p := by
  refine ⟨ht, fun m hm => helements m ?_⟩
  simpa [Shape.everyMember, Shape.memberList, hmembers, OrderedMap.values] using hm

/-- A list or set has the numbers of its traits and of its member. -/
theorem allNumbers_of_gives_collection {key : String} {kind : Kind} {r : Shape}
    (hs : s.AllNumbers p)
    (h : (match s.member with
      | none => throw (.missingItem s.type ⟨key⟩)
      | some m => do
        let item ← importMember ⟨key⟩ "member" m
        return { id := ⟨key⟩, kind, traits := s.traits.getD {}, item := some item
                 : Shape } : Noting Shape).Gives r) : r.AllNumbers p := by
  split at h
  · exact absurd h (not_gives_throw _ _)
  · rename_i m hm
    obtain ⟨item, hitem, h⟩ := exists_gives_of_bind h
    obtain rfl := gives_pure_iff.1 h
    exact allNumbers_of_elements (Traits.allNumbers_getD hs.traits) rfl
      (by simpa using allNumbers_of_gives_importMember (hs.member m hm) hitem)

theorem allNumbers_of_gives_importShape {key : String} (ha : a.AllNumbers p) (hs : s.AllNumbers p)
    (h : (importShape a key s).Gives r) : r.AllNumbers p := by
  have htraits := Traits.allNumbers_getD hs.traits
  have hplain {shape : Shape} (ht : shape.traits = s.traits.getD {}) (hmembers : shape.members = {})
      (helements : [shape.item, shape.key, shape.value] = [none, none, none]) :
      shape.AllNumbers p :=
    allNumbers_of_elements (ht ▸ htraits) hmembers (by simp [helements])
  obtain ⟨kind, -, h⟩ := exists_gives_of_bind h
  simp only at h
  split at h
  · exact allNumbers_of_gives_collection hs h
  · exact allNumbers_of_gives_collection hs h
  · split at h
    · rename_i k v hk hv
      obtain ⟨key, hkey, h⟩ := exists_gives_of_bind h
      obtain ⟨value, hvalue, h⟩ := exists_gives_of_bind h
      obtain rfl := gives_pure_iff.1 h
      refine allNumbers_of_elements htraits rfl ?_
      simpa using ⟨allNumbers_of_gives_importMember (hs.key k hk) hkey,
        allNumbers_of_gives_importMember (hs.value v hv) hvalue⟩
    · exact absurd h (not_gives_throw _ _)
  · exact allNumbers_of_gives_importMembers ha (hplain rfl rfl rfl) h
  · exact allNumbers_of_gives_importMembers ha (hplain rfl rfl rfl) h
  · exact allNumbers_of_gives_importMembers ha (hplain rfl rfl rfl) h
  · split at h
    · obtain rfl := gives_pure_iff.1 h
      exact allNumbers_importLegacyEnum (hplain rfl rfl rfl)
    · exact allNumbers_of_gives_importMembers ha (hplain rfl rfl rfl) h
  · obtain ⟨_, _, h⟩ := exists_gives_of_bind h
    obtain ⟨_, _, h⟩ := exists_gives_of_bind h
    obtain ⟨_, _, h⟩ := exists_gives_of_bind h
    obtain rfl := gives_pure_iff.1 h
    exact hplain rfl rfl rfl
  · obtain ⟨_, _, h⟩ := exists_gives_of_bind h
    obtain ⟨_, _, h⟩ := exists_gives_of_bind h
    obtain rfl := gives_pure_iff.1 h
    exact hplain rfl rfl rfl
  · obtain ⟨_, _, h⟩ := exists_gives_of_bind h
    obtain ⟨_, _, h⟩ := exists_gives_of_bind h
    obtain rfl := gives_pure_iff.1 h
    exact hplain rfl rfl rfl
  · obtain rfl := gives_pure_iff.1 h
    exact hplain rfl rfl rfl

theorem allNumbers_of_gives_toCatalog {c : Catalog} (ha : a.AllNumbers p)
    (h : a.toCatalog.Gives c) : ∀ s ∈ c.shapes, s.AllNumbers p := by
  obtain ⟨c', hload, h⟩ := exists_gives_of_bind h
  obtain ⟨_, -, h⟩ := exists_gives_of_bind h
  obtain rfl := gives_pure_iff.1 h
  refine of_gives_foldlM (P := fun c : Catalog => ∀ s ∈ c.shapes, s.AllNumbers p) hload
    (List.forall_mem_nil _) fun c hc id _ d hd => ?_
  unfold importNext at hd
  split at hd
  · exact gives_pure_iff.1 hd ▸ hc
  · rename_i s hs
    obtain ⟨shape, hshape, hd⟩ := exists_gives_of_bind hd
    obtain ⟨-, -, rfl⟩ := Catalog.of_add_eq_ok (eq_ok_of_gives_lift hd)
    intro t ht
    rcases OrderedMap.mem_values_of_insert ht with rfl | ht
    · exact allNumbers_of_gives_importShape ha (ha.shapes id s hs) hshape
    · exact hc t ht

/-! ## A model -/

variable {fs : Files} {parsers : Parsers}

theorem exists_parse_of_reencode {path : String} {tree : parsers.Tree} {d : Document}
    (h : parsers.reencode path tree = .ok d) : ∃ text, Document.parse text = .ok d := by
  obtain ⟨text, -, h⟩ := Outcome.exists_ok_of_bind h
  exact ⟨text, Outcome.at_eq_ok.1 h⟩

/-- A file that is read as a model leads to the text of a document, whatever its format. -/
theorem exists_parse_of_readModel {path : String} {d : Document}
    (h : readModel fs path parsers = .ok d) : ∃ text, Document.parse text = .ok d := by
  unfold readModel at h
  split at h
  · obtain ⟨tree, -, h⟩ := Outcome.exists_ok_of_bind h
    exact exists_parse_of_reencode h
  · obtain ⟨schema, -, h⟩ := Outcome.exists_ok_of_bind h
    obtain ⟨tree, -, h⟩ := Outcome.exists_ok_of_bind h
    exact exists_parse_of_reencode h
  · obtain ⟨text, -, h⟩ := Outcome.exists_ok_of_bind h
    refine ⟨text, ?_⟩
    split at h
    · rename_i hparse
      rw [hparse]
      exact h
    · cases h
    · cases h

/-- The text of a document is read as a model. -/
theorem readModel_of_parse {path text : String} {d : Document}
    (hextension : Files.extension path = ".json") (hread : fs.read path = .ok text)
    (hparse : Document.parse text = .ok d) : readModel fs path parsers = .ok d := by
  unfold readModel
  split
  · rename_i hsmithy
    exact absurd (hextension.symm.trans hsmithy) (by decide)
  · rename_i hsadl
    exact absurd (hextension.symm.trans hsadl) (by decide)
  · rw [Outcome.at_eq_ok.2 hread]
    dsimp only [bind, Except.bind]
    rw [hparse]
    rfl

theorem allNumbers_of_gives_gather {paths : List String}
    (h : (gather fs paths parsers).Gives a) : a.AllNumbers isModelNumber := by
  obtain ⟨files, -, h⟩ := exists_gives_of_bind h
  simp only at h
  split at h
  · obtain ⟨_, h, -⟩ := exists_gives_of_bind h
    exact absurd h (not_gives_throw _ _)
  · obtain ⟨merged, hmerged, h⟩ := exists_gives_of_bind h
    obtain ⟨expanded, hexpanded, h⟩ := exists_gives_of_bind h
    obtain ⟨-, rfl⟩ := of_gives_proceed hexpanded
    obtain ⟨-, rfl⟩ := of_gives_proceed h
    refine AllNumbers.applyAll (AllNumbers.expandAll ?_)
    refine of_gives_foldlM (P := Assembly.AllNumbers _) hmerged allNumbers_empty
      fun b hb path _ b' hb' => ?_
    obtain ⟨d, hd, hb'⟩ := exists_gives_of_bind hb'
    obtain ⟨-, rfl⟩ := of_gives_proceed hb'
    obtain ⟨text, htext⟩ := exists_parse_of_readModel (eq_ok_of_gives_lift hd)
    exact hb.merge (Document.allNumbers_of_parse htext)

/-- A model of one file without mixins. -/
theorem load_of_settled {path text : String} {d : Document}
    (hfile : Files.extension path = ".json") (hread : fs.read path = .ok text)
    (hparse : Document.parse text = .ok d)
    (hsettled : ∀ id ∈ (ofDocument 0 d).ids, ∃ s, (ofDocument 0 d).shape? id = some s ∧
      s.mixins = none) :
    Assembly.load fs [path] parsers = proceed (ofDocument 0 d).applyAll >>= toCatalog := by
  have hfiles : modelFiles fs [path] = .ok [path] := by
    have hmodel : isModelFile path = true := by
      rw [isModelFile, hfile]
      decide
    simp only [modelFiles, List.mapM_cons, List.mapM_nil, filesAt, hmodel, if_true]
    rfl
  have hmerge : ({} : Assembly).merge d = { assembly := ofDocument 0 d } := rfl
  have hproceed (a : Assembly) : proceed { assembly := a } = pure a := rfl
  simp only [Assembly.load, gather, hfiles, Noting.lift, pure_bind, List.isEmpty_cons,
    Bool.false_eq_true, if_false, List.foldlM_cons, List.foldlM_nil,
    readModel_of_parse hfile hread hparse, hmerge, hproceed, expandAll_of_settled hsettled,
    bind_pure]

end Assembly

/-- **Numbers of a model** are spelled as numbers, and none is out of range. -/
theorem Catalog.allNumbers_of_load {fs : Files} {paths : List String} {parsers : Assembly.Parsers}
    {c : Catalog} {id : ShapeId} {s : Shape} (h : (Assembly.load fs paths parsers).Gives c) (hs : c.find? id = some s) :
    s.AllNumbers isModelNumber := by
  obtain ⟨a, ha, h⟩ := Noting.exists_gives_of_bind h
  rcases (imported_of_gives h).knows_of_find? hs with hs | hs
  · exact Assembly.allNumbers_of_gives_toCatalog (Assembly.allNumbers_of_gives_gather ha) h s hs
  · have hprelude : ∀ s ∈ Prelude.shapes, ∀ b ∈ s.traits.bindings,
        (nodeDocument b.2).allNumbers isModelNumber = true := by decide +kernel
    refine ⟨Traits.allNumbers_of_bindings fun id n hn => hprelude s hs _ hn, ?_⟩
    rw [(Prelude.formed s hs).2]
    exact List.forall_mem_nil _

end Shapewright
