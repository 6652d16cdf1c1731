import Mathlib.Data.List.Induction
import Mathlib.Data.List.Pairwise
import Shapewright.Proofs.Assembly.Joining

/-!
# Gathering documents in any order

* `Document.together` — what documents say together about an id.
* `Document.Interchangeable` — what it takes for two documents to be gathered in either order.
* `Assembly.Holds` — an assembly holds some documents: it says about every id what they say
  together.
* `Assembly.forEach_merge_perm_iff` — which documents can be gathered in any order.
-/

set_option autoImplicit false

namespace Shapewright

/-! ## Several documents -/

namespace Document

/-- What documents say together about an id. -/
def together (docs : List Document) (id : String) : Option ShapeView :=
  docs.foldl (fun v d => ShapeView.join v (d.view id)) none

/-- No id is defined by both. -/
def DefineApart (d d' : Document) : Prop := ∀ id, ¬ (d.Defines id ∧ d'.Defines id)

/-- Two documents go together in either order: they do not apply traits to the same id, and an id
that one of them lists twice is defined by the other, if that is a document at all. -/
structure Interchangeable (d d' : Document) : Prop where
  applies : ∀ id, ¬ (d.Applies id ∧ d'.Applies id)
  repeats : d'.isBlank = false → ∀ id, List.Duplicate id d.ids → d'.Defines id
  repeated : d.isBlank = false → ∀ id, List.Duplicate id d'.ids → d.Defines id

theorem DefineApart.symm {d d' : Document} (h : DefineApart d d') : DefineApart d' d :=
  fun id hboth => h id hboth.symm

theorem Interchangeable.symm {d d' : Document} (h : Interchangeable d d') : Interchangeable d' d :=
  ⟨fun id hboth => h.applies id hboth.symm, h.repeated, h.repeats⟩

theorem together_concat (docs : List Document) (d : Document) (id : String) :
    together (docs ++ [d]) id = ShapeView.join (together docs id) (d.view id) := by
  rw [together, List.foldl_append]
  rfl

theorem together_eq_none {docs : List Document} (h : docs.all isBlank = true) (id : String) :
    together docs id = none := by
  induction docs using List.reverseRecOn with
  | nil => rfl
  | append_singleton docs d ih =>
    rw [List.all_append, Bool.and_eq_true, List.all_cons, List.all_nil, Bool.and_true] at h
    rw [together_concat, ih h.1, view_of_isBlank h.2, ShapeView.join_none]

theorem isDefined_together_iff (docs : List Document) (id : String) :
    ShapeView.IsDefined (together docs id) ↔ ∃ d ∈ docs, d.Defines id := by
  induction docs using List.reverseRecOn with
  | nil => simp [together, ShapeView.not_isDefined_none]
  | append_singleton docs d ih =>
    rw [together_concat, ShapeView.isDefined_join_iff, ih]
    simp [or_and_right, exists_or, Defines]

theorem exists_applies_of_together {docs : List Document} {id : String}
    (h : ShapeView.IsApplied (together docs id)) : ∃ d ∈ docs, d.Applies id := by
  induction docs using List.reverseRecOn with
  | nil => exact absurd h ShapeView.not_isApplied_none
  | append_singleton docs d ih =>
    rw [together_concat] at h
    rcases ShapeView.isApplied_join h with h | h
    · obtain ⟨d', hd', happ⟩ := ih h
      exact ⟨d', List.mem_append_left _ hd', happ⟩
    · exact ⟨d, by simp, h⟩

/-- The order does not matter for documents that do not clash. -/
theorem together_perm {docs docs' : List Document} (hp : docs'.Perm docs)
    (hdef : docs.Pairwise DefineApart) (happ : docs.Pairwise Interchangeable) (id : String) :
    together docs' id = together docs id := by
  let Commute : Document → Document → Prop := fun d d' => ∀ u,
    ShapeView.join (ShapeView.join u (d.view id)) (d'.view id)
      = ShapeView.join (ShapeView.join u (d'.view id)) (d.view id)
  have hsymm : Std.Symm Commute := ⟨fun _ _ h u => (h u).symm⟩
  have hcomm : docs.Pairwise Commute := by
    refine (hdef.and happ).imp fun {d d'} h u => ShapeView.join_right_comm u ?_
    rintro (hboth | hboth)
    · exact h.1 id hboth
    · exact h.2.applies id hboth
  refine (hp.symm.foldl_eq' (fun d hd d' hd' u => ?_) none).symm
  exact hcomm.forall_of_forall (fun _ _ _ => rfl) hd hd' u

end Document

namespace Assembly

open Document

/-- The assembly says about every id what the documents say together. -/
structure Holds (a : Assembly) (docs : List Document) : Prop where
  view : ∀ id, a.view id = together docs id
  grounded : a.Grounded
  isEmpty : a.isEmpty = docs.all isBlank

theorem holds_nil : Holds {} [] := by
  refine ⟨fun _ => rfl, fun id s hs => ?_, rfl⟩
  cases hs

theorem isEmpty_ofDocument (next : Nat) (d : Document) :
    (ofDocument next d).isEmpty = d.isBlank := by
  cases hd : d.shapes <;> simp [ofDocument, isEmpty, isBlank, hd]

theorem view_ofDocument (d : Document) (id : String) : (ofDocument 0 d).view id = d.view id := by
  have h := resolve_shape?_ofDocument d [] [] id
  rw [List.length_nil, List.nil_append, List.append_nil] at h
  rw [Assembly.view, Document.view, ← h, Option.map_map]
  rfl

/-- The first document is taken as it is. -/
theorem Holds.merge_first {a : Assembly} {docs : List Document} {d : Document} (h : Holds a docs)
    (hempty : a.isEmpty = true) (hc : d.Coherent) :
    (a.merge d).failure = none ∧ Holds (a.merge d).assembly (docs ++ [d]) := by
  have hblank : docs.all isBlank = true := h.isEmpty ▸ hempty
  rw [merge, if_pos hempty]
  refine ⟨rfl, fun id => ?_, fun id s hs => ?_, ?_⟩
  · rw [view_ofDocument, together_concat, together_eq_none hblank, ShapeView.none_join]
  · exact (grounded_ofDocument hc [] hs).1
  · rw [isEmpty_ofDocument, List.all_append, hblank]
    simp

/-- **A further document** joins an assembly if it goes together with each of those there. -/
theorem Holds.merge {a : Assembly} {docs : List Document} {d : Document} (h : Holds a docs)
    (hc : d.Coherent) (hn : d.NonNull) (hdef : ∀ d' ∈ docs, DefineApart d' d)
    (happ : ∀ d' ∈ docs, Interchangeable d' d)
    (hnames : ∀ d' ∈ docs, ∀ id, (d'.Defines id ∧ d.Applies id) ∨ (d'.Applies id ∧ d.Defines id) →
      NamesShape id) :
    (a.merge d).failure = none ∧ Holds (a.merge d).assembly (docs ++ [d]) := by
  cases hempty : a.isEmpty with
  | true => exact h.merge_first hempty hc
  | false =>
    have hsome : ∃ d' ∈ docs, d'.isBlank = false := by
      have hall := h.isEmpty
      rw [hempty, eq_comm, List.all_eq_false] at hall
      simpa using hall
    obtain ⟨hiff, hjoins⟩ := merge_spec (d := d) h.grounded hempty hc hn fun id hkinds => by
      rw [h.view, isDefined_together_iff] at hkinds
      rcases hkinds with ⟨⟨d', hd', hdefined⟩, hdapp⟩ | ⟨happ', hddef⟩
      · exact hnames d' hd' id (.inl ⟨hdefined, hdapp⟩)
      · obtain ⟨d', hd', happlied⟩ := exists_applies_of_together happ'
        exact hnames d' hd' id (.inr ⟨happlied, hddef⟩)
    have hok : (a.merge d).failure = none := by
      refine hiff.2 fun id _ => ⟨?_, fun hdup => ?_⟩
      · rw [h.view]
        rintro (⟨hdefs, hd⟩ | ⟨happs, hd⟩)
        · obtain ⟨d', hd', hdefined⟩ := (isDefined_together_iff docs id).1 hdefs
          exact hdef d' hd' id ⟨hdefined, hd⟩
        · obtain ⟨d', hd', happlied⟩ := exists_applies_of_together happs
          exact (happ d' hd').applies id ⟨happlied, hd⟩
      · obtain ⟨d', hd', hnonblank⟩ := hsome
        rw [h.view, isDefined_together_iff]
        exact ⟨d', hd', (happ d' hd').repeated hnonblank id hdup⟩
    obtain ⟨hground, hne, hview⟩ := hjoins hok
    refine ⟨hok, fun id => ?_, hground, ?_⟩
    · rw [hview, h.view, together_concat]
    · rw [hne, List.all_append, ← h.isEmpty, hempty]
      rfl

/-- **Any number of documents** can be gathered if they go together pair by pair. -/
theorem Holds.forEach_merge {rest : List Document} : ∀ {a : Assembly} {docs : List Document},
    Holds a docs → (∀ d ∈ rest, d.Coherent) → (∀ d ∈ rest, d.NonNull) →
    (docs ++ rest).Pairwise DefineApart → (docs ++ rest).Pairwise Interchangeable →
    (∀ d ∈ docs ++ rest, ∀ d' ∈ docs ++ rest, ∀ id, d.Defines id → d'.Applies id →
      NamesShape id) →
    (Update.forEach Assembly.merge rest a).failure = none ∧
      Holds (Update.forEach Assembly.merge rest a).assembly (docs ++ rest) := by
  induction rest with
  | nil =>
    intro a docs h _ _ _ _ _
    rw [List.append_nil]
    exact ⟨rfl, h⟩
  | cons d rest ih =>
    intro a docs h hc hn hdef happ hnames
    have hdef' := (List.pairwise_append.1 hdef).2.2
    have happ' := (List.pairwise_append.1 happ).2.2
    obtain ⟨hok, hstep⟩ := h.merge (hc d (by simp)) (hn d (by simp))
      (fun d' hd' => hdef' d' hd' d (by simp)) (fun d' hd' => happ' d' hd' d (by simp))
      fun d' hd' id hkinds => by
        have hmem : d' ∈ docs ++ d :: rest := List.mem_append_left _ hd'
        rcases hkinds with ⟨h₁, h₂⟩ | ⟨h₁, h₂⟩
        · exact hnames d' hmem d (by simp) id h₁ h₂
        · exact hnames d (by simp) d' hmem id h₂ h₁
    rw [List.append_cons] at hdef happ hnames ⊢
    obtain ⟨hok', hall⟩ := ih hstep (fun d' hd' => hc d' (List.mem_cons_of_mem _ hd'))
      (fun d' hd' => hn d' (List.mem_cons_of_mem _ hd')) hdef happ hnames
    rw [failure_forEach_cons, assembly_forEach_cons _ _ _ _ hok]
    exact ⟨⟨hok, hok'⟩, hall⟩

/-- What it takes for a document to join one that is not blank. -/
theorem admits_of_forEach_merge {d d' : Document} {rest : List Document} (hc : d.Coherent)
    (hc' : d'.Coherent) (hn' : d'.NonNull) (hblank : d.isBlank = false)
    (hnames : ∀ id, (d.Defines id ∧ d'.Applies id) ∨ (d.Applies id ∧ d'.Defines id) → NamesShape id)
    (hok : (Update.forEach Assembly.merge (d :: d' :: rest) {}).failure = none) :
    ∀ id ∈ d'.ids, ¬ ShapeView.Clash (d.view id) (d'.view id) ∧
      (List.Duplicate id d'.ids → d.Defines id) := by
  obtain ⟨-, hfirst⟩ := holds_nil.merge_first (d := d) rfl hc
  have hview : ∀ id, (Assembly.merge {} d).assembly.view id = d.view id := by
    intro id
    rw [hfirst.view, together_concat]
    exact ShapeView.none_join _
  have hempty : (Assembly.merge {} d).assembly.isEmpty = false := by
    rw [hfirst.isEmpty]
    simp [hblank]
  rw [failure_forEach_cons, failure_forEach_cons] at hok
  have had := (merge_spec hfirst.grounded hempty hc' hn'
    fun id h => hnames id (by rw [hview] at h; exact h)).1.1 hok.2.1
  intro id hid
  have hid' := had id hid
  rwa [hview] at hid'

theorem not_isBlank_of_view {d : Document} {id : String} (h : d.view id ≠ none) :
    d.isBlank = false := by
  rw [← Bool.not_eq_true]
  exact fun hblank => h (view_of_isBlank hblank id)

/-- Documents that can be gathered in both orders go together. -/
theorem interchangeable_of_forEach_merge {d d' : Document} {rest : List Document}
    (hc : d.Coherent) (hn : d.NonNull) (hc' : d'.Coherent) (hn' : d'.NonNull)
    (hnames : ∀ id, (d.Defines id ∧ d'.Applies id) ∨ (d.Applies id ∧ d'.Defines id) → NamesShape id)
    (hok : (Update.forEach Assembly.merge (d :: d' :: rest) {}).failure = none)
    (hok' : (Update.forEach Assembly.merge (d' :: d :: rest) {}).failure = none) :
    Interchangeable d d' := by
  have hnames' : ∀ id, (d'.Defines id ∧ d.Applies id) ∨ (d'.Applies id ∧ d.Defines id) →
      NamesShape id := fun id h => hnames id (h.symm.imp And.symm And.symm)
  refine ⟨fun id hboth => ?_, fun hblank id hdup => ?_, fun hblank id hdup => ?_⟩
  · obtain ⟨p, hp, -⟩ := hboth.1
    obtain ⟨q, hq, -⟩ := hboth.2
    have hblank : d.isBlank = false := not_isBlank_of_view (by rw [hp]; simp)
    have hid : id ∈ d'.ids := (mem_ids_iff_view hc' hn' id).2 (by rw [hq]; rfl)
    exact (admits_of_forEach_merge hc hc' hn' hblank hnames hok id hid).1 (.inr hboth)
  · exact (admits_of_forEach_merge hc' hc hn hblank hnames' hok' id hdup.mem).2 hdup
  · exact (admits_of_forEach_merge hc hc' hn' hblank hnames hok id hdup.mem).2 hdup

/-! ## Documents of one shape -/

/-- A document that says one thing about one id. -/
def about (s : ShapeDef MemberDef) : Document :=
  { version := "2.0", shapes := some (.tabulate ["ex#A"] fun _ => some (some s)) }

/-- A statement that applies one trait without a value. -/
def applying (trait : String) : ShapeDef MemberDef :=
  { type := applyType, traits := some (.tabulate [trait] fun _ => some none) }

theorem shape?_about (s : ShapeDef MemberDef) (id : String) :
    (about s).shape? id = if id = "ex#A" then some s else none := by
  rw [Document.shape?, about, Option.bind_some, OrderedMap.get?_tabulate]
  by_cases hid : id = "ex#A" <;> simp [hid]

theorem coherent_about {s : ShapeDef MemberDef} (h : s.Coherent) : (about s).Coherent := by
  refine ⟨fun id t ht => ?_, fun id t ht => ?_⟩
  all_goals
    rw [shape?_about] at ht
    split_ifs at ht with hid
  · exact List.mem_singleton.2 hid
  · exact Option.some_inj.1 ht ▸ h

theorem nonNull_about (s : ShapeDef MemberDef) : (about s).NonNull := by
  intro id hid
  have hid' : id = "ex#A" := List.mem_singleton.1 hid
  rw [shape?_about, if_pos hid']
  rfl

theorem defines_about_iff (s : ShapeDef MemberDef) (id : String) :
    (about s).Defines id ↔ id = "ex#A" ∧ s.isApply = false := by
  rw [Defines, Document.view, shape?_about]
  split_ifs with hid
  · simp [hid, ShapeView.isApply, ShapeDef.view, ShapeDef.isApply]
  · simp [hid, ShapeView.not_isDefined_none]

theorem applies_about_iff (s : ShapeDef MemberDef) (id : String) :
    (about s).Applies id ↔ id = "ex#A" ∧ s.isApply = true := by
  rw [Applies, Document.view, shape?_about]
  split_ifs with hid
  · simp [hid, ShapeView.isApply, ShapeDef.view, ShapeDef.isApply]
  · simp [hid, ShapeView.not_isApplied_none]

theorem coherent_applying (trait : String) : (applying trait).Coherent := by
  refine ⟨by rintro m ⟨⟩, ?_⟩
  rintro t ⟨⟩
  exact (OrderedMap.tidy_tabulate (by simp) fun _ _ => rfl).coherent

theorem isSome_trait?_applying (trait id : String) :
    ((applying trait).trait? id).isSome ↔ id = trait := by
  rw [ShapeDef.trait?, applying, Option.bind_some, Traits.isSome_get?, OrderedMap.get?_tabulate]
  by_cases hid : id = trait <;> simp [hid]

/-! ## The main statement -/

/-- **Gathering in any order.**  Suppose no id is defined by two of the documents, and every id that
is both defined and applied to names a shape.  Then all orders of the documents can be gathered,
with the same outcome, exactly when they are interchangeable pair by pair: no two of them apply
traits to the same id, and no id is listed twice by one of them, unless all others define it. -/
theorem forEach_merge_perm_iff {docs : List Document} (hc : ∀ d ∈ docs, d.Coherent)
    (hn : ∀ d ∈ docs, d.NonNull) (hdef : docs.Pairwise DefineApart)
    (hnames : ∀ d ∈ docs, ∀ d' ∈ docs, ∀ id, d.Defines id → d'.Applies id → NamesShape id) :
    (∀ docs', docs'.Perm docs → (Update.forEach Assembly.merge docs' {}).failure = none ∧
      ∀ id, (Update.forEach Assembly.merge docs' {}).assembly.view id
        = (Update.forEach Assembly.merge docs {}).assembly.view id) ↔
      docs.Pairwise Interchangeable := by
  constructor
  · intro hall
    rw [List.pairwise_iff_forall_sublist]
    intro d d' hsub
    obtain ⟨rest, hperm⟩ := hsub.exists_perm_append
    have hd : d ∈ docs := hsub.subset (by simp)
    have hd' : d' ∈ docs := hsub.subset (by simp)
    have hok : (Update.forEach Assembly.merge (d :: d' :: rest) {}).failure = none :=
      (hall _ hperm.symm).1
    have hok' : (Update.forEach Assembly.merge (d' :: d :: rest) {}).failure = none :=
      (hall _ ((List.Perm.swap d d' rest).trans hperm.symm)).1
    refine interchangeable_of_forEach_merge (hc d hd) (hn d hd) (hc d' hd') (hn d' hd')
      (fun id hkinds => ?_) hok hok'
    rcases hkinds with ⟨h₁, h₂⟩ | ⟨h₁, h₂⟩
    · exact hnames d hd d' hd' id h₁ h₂
    · exact hnames d' hd' d hd id h₂ h₁
  · intro happ
    have hgather : ∀ docs', docs'.Perm docs →
        (Update.forEach Assembly.merge docs' {}).failure = none ∧
          Holds (Update.forEach Assembly.merge docs' {}).assembly docs' := by
      intro docs' hp
      refine holds_nil.forEach_merge (fun d hd => hc d (hp.subset hd))
        (fun d hd => hn d (hp.subset hd)) ((hp.pairwise_iff DefineApart.symm).2 hdef)
        ((hp.pairwise_iff Interchangeable.symm).2 happ) fun d hd d' hd' => ?_
      exact hnames d (hp.subset hd) d' (hp.subset hd')
    intro docs' hp
    obtain ⟨hok, hholds⟩ := hgather docs' hp
    refine ⟨hok, fun id => ?_⟩
    rw [hholds.view, (hgather docs (.refl _)).2.view, together_perm hp hdef happ]

/-- A statement and the definition it is about can be gathered in both orders. -/
theorem forEach_merge_perm_iff_two :
    let docs := [about (applying Trait.documentation), about { type := "string" }]
    docs.Pairwise DefineApart ∧ docs.Pairwise Interchangeable ∧
      ∀ docs', docs'.Perm docs → (Update.forEach Assembly.merge docs' {}).failure = none ∧
        ∀ id, (Update.forEach Assembly.merge docs' {}).assembly.view id
          = (Update.forEach Assembly.merge docs {}).assembly.view id := by
  intro docs
  have hdef : docs.Pairwise DefineApart := by
    refine List.pairwise_pair.2 fun id hboth => ?_
    simp [defines_about_iff, applying, ShapeDef.isApply] at hboth
  have happ : docs.Pairwise Interchangeable := by
    refine List.pairwise_pair.2 ⟨fun id hboth => ?_, fun _ id hdup => ?_, fun _ id hdup => ?_⟩
    · simp [applies_about_iff, applyType, ShapeDef.isApply] at hboth
    · exact absurd hdup List.Duplicate.elim_singleton
    · exact absurd hdup List.Duplicate.elim_singleton
  have hstring : ShapeDef.Coherent ({ type := "string" } : ShapeDef MemberDef) :=
    ⟨by rintro m ⟨⟩, by rintro t ⟨⟩⟩
  refine ⟨hdef, happ, (forEach_merge_perm_iff ?_ ?_ hdef ?_).2 happ⟩
  · simp only [docs, List.forall_mem_cons]
    exact ⟨coherent_about (coherent_applying _), coherent_about hstring, by simp⟩
  · simp only [docs, List.forall_mem_cons]
    exact ⟨nonNull_about _, nonNull_about _, by simp⟩
  · intro d hd d' _ id hdefs _
    have hid : id = "ex#A" := by
      simp only [docs, List.mem_cons, List.not_mem_nil, or_false] at hd
      rcases hd with rfl | rfl
      · exact ((defines_about_iff _ id).1 hdefs).1
      · exact ((defines_about_iff _ id).1 hdefs).1
    rw [hid]
    rfl

/-- Two statements about one id are refused when they come before its definition, and accepted after
it, though they set different traits. -/
theorem forEach_merge_two_statements :
    let first := about (applying Trait.documentation)
    let second := about (applying Trait.required)
    let definition := about { type := "string" }
    let docs := [first, second, definition]
    (∀ d ∈ docs, d.Coherent ∧ d.NonNull) ∧ docs.Pairwise DefineApart ∧
      (∀ d ∈ docs, ∀ id, d.Applies id → ∃ d' ∈ docs, d'.Defines id) ∧
      (docs.Pairwise fun d d' => ∀ id trait, ¬ (d.Applies id ∧ d'.Applies id ∧
        (d.shape? id).any (fun s => (s.trait? trait).isSome) ∧
        (d'.shape? id).any (fun s => (s.trait? trait).isSome))) ∧
      (Update.forEach Assembly.merge docs {}).failure = some (.duplicateInAssembly "ex#A") ∧
      (Update.forEach Assembly.merge [definition, first, second] {}).failure = none := by
  intro first second definition docs
  have hstring : ShapeDef.Coherent ({ type := "string" } : ShapeDef MemberDef) :=
    ⟨by rintro m ⟨⟩, by rintro t ⟨⟩⟩
  refine ⟨?_, ?_, ?_, ?_, rfl, rfl⟩
  · simp only [docs, List.forall_mem_cons]
    exact ⟨⟨coherent_about (coherent_applying _), nonNull_about _⟩,
      ⟨coherent_about (coherent_applying _), nonNull_about _⟩,
      ⟨coherent_about hstring, nonNull_about _⟩, by simp⟩
  · simp [docs, first, second, definition, DefineApart, defines_about_iff, applying,
      ShapeDef.isApply]
  · intro d hd id happ
    refine ⟨definition, by simp [docs], (defines_about_iff _ id).2 ⟨?_, rfl⟩⟩
    simp only [docs, List.mem_cons, List.not_mem_nil, or_false] at hd
    rcases hd with rfl | rfl | rfl <;> exact ((applies_about_iff _ id).1 happ).1
  · have hsets : ∀ id trait trait', ((about (applying trait)).shape? id).any
        (fun s => (s.trait? trait').isSome) = true → trait' = trait := by
      intro id trait trait' h
      rw [shape?_about] at h
      split_ifs at h with hid
      · exact (isSome_trait?_applying trait trait').1 h
      · cases h
    simp only [docs, List.pairwise_cons, List.mem_cons, List.not_mem_nil, or_false,
      forall_eq_or_imp, forall_eq, false_imp_iff, implies_true, List.Pairwise.nil, and_true]
    refine ⟨⟨fun id trait h => ?_, fun id trait h => ?_⟩, fun id trait h => ?_⟩
    · have := (hsets _ _ _ h.2.2.1).symm.trans (hsets _ _ _ h.2.2.2)
      revert this
      decide
    · simp [definition, applies_about_iff, applyType, ShapeDef.isApply] at h
    · simp [definition, applies_about_iff, applyType, ShapeDef.isApply] at h

end Assembly

end Shapewright
