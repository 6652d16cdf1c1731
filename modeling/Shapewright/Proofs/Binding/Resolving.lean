import Shapewright.Binding.Input
import Shapewright.Proofs.Assembly.Imported
import Shapewright.Proofs.Assembly.Nesting

/-!
# Catalogs in which every reference leads somewhere

The references of an imported catalog were checked when it was made.  So whoever follows one later
need not be prepared to find nothing: choosing a representation fails only for what has none, an
operation, a resource or a service, and binding the input of an operation fails for reasons of its own.

* `Failure.cause` — why something failed, wherever it happened.
* `Outcome.Avoids` — a computation does not fail in a certain way.
* `Catalog.Nests`, `Catalog.Acyclic` — containers inside containers.
* `Registry.Represents` — the representations that shapes of each kind can have.
* `Registry.reason_of_resolve` — why a shape has no representation.
* `Registry.unrepresentable_of_ofMember` — why a member has none in an imported catalog.  It is never
  for want of a shape, and never because the nesting is too deep for the bound of `Registry.ofShape`:
  a chain of containers as long as that would come back to where it has been.
* `Registry.avoids_bindOperation_isLost` — binding does not lose its way.
* `Registry.avoids_bindOperation_isEndless` — in a catalog that was not imported, references may lead
  nowhere; but the bound is not met there either.
* `Assembly.references_resolve` — what is known of every catalog that an assembly is made into.
-/

set_option autoImplicit false

namespace Shapewright

/-! ## Causes -/

/-- Why something failed, without the places where it happened. -/
def Failure.cause : Failure → Failure
  | .within _ cause => cause.cause
  | f => f

/-- A shape that was looked for is not there, or does not come to an end. -/
def Failure.IsLost (f : Failure) : Prop :=
  ∃ id, f.cause = .shapeNotFound id ∨ f.cause = .endlessNesting id

/-- A shape does not come to an end. -/
def Failure.IsEndless (f : Failure) : Prop := ∃ id, f.cause = .endlessNesting id

/-- Ways to fail by which one does not get to a shape. It does not matter where this happens. -/
structure Failure.Losing (P : Failure → Prop) : Prop where
  isLost : ∀ f, P f → f.IsLost
  within : ∀ place f, P (.within place f) → P f

theorem Failure.losing_isLost : Losing IsLost := ⟨fun _ h => h, fun _ _ h => h⟩

theorem Failure.losing_isEndless : Losing IsEndless :=
  ⟨fun _ ⟨id, h⟩ => ⟨id, .inr h⟩, fun _ _ h => h⟩

/-- Something that is not for values stands where a value is. -/
def Failure.Unrepresentable (f : Failure) : Prop :=
  ∃ id, ∃ kind ∈ [Kind.operation, .resource, .service], f.cause = .unsupportedKind id kind

theorem Failure.Unrepresentable.not_isLost {f : Failure} (h : f.Unrepresentable) : ¬ f.IsLost := by
  obtain ⟨id, kind, -, hf⟩ := h
  rintro ⟨id', h | h⟩ <;> rw [hf] at h <;> cases h

namespace Outcome

variable {α β : Type} {P Q : Failure → Prop}

/-- A computation that does not fail in a certain way. -/
def Avoids (P : Failure → Prop) (x : Outcome α) : Prop := ∀ f, x = .error f → ¬ P f

theorem avoids_ok (a : α) : Avoids P (.ok a) := nofun

theorem avoids_error {f : Failure} (h : ¬ P f) : Avoids P (.error f : Outcome α) := by
  rintro g ⟨⟩
  exact h

theorem Avoids.mono {x : Outcome α} (h : x.Avoids Q) (hPQ : ∀ f, P f → Q f) : x.Avoids P :=
  fun f hx hf => h f hx (hPQ f hf)

theorem Avoids.bind {x : Outcome α} {f : α → Outcome β} (h : x.Avoids P)
    (hf : ∀ a, x = .ok a → (f a).Avoids P) : (x >>= f).Avoids P := by
  cases x with
  | error e => exact avoids_error (h e rfl)
  | ok a => exact hf a rfl

theorem Avoids.map {x : Outcome α} (h : x.Avoids P) (f : α → β) : Avoids P (x.map f) := by
  cases x with
  | error e => exact avoids_error (h e rfl)
  | ok a => exact avoids_ok (f a)

theorem Avoids.at_ {x : Outcome α} (hP : Failure.Losing P) (h : x.Avoids P) (place : Place) :
    (x.at_ place).Avoids P := by
  cases x with
  | error e => exact avoids_error fun he => h e rfl (hP.within place e he)
  | ok a => exact avoids_ok a

theorem avoids_mapM {f : α → Outcome β} {xs : List α} (h : ∀ x ∈ xs, (f x).Avoids P) :
    (xs.mapM f).Avoids P := by
  induction xs with
  | nil => exact avoids_ok []
  | cons x xs ih =>
    rw [List.mapM_cons]
    refine (h x (by simp)).bind fun y _ => ?_
    exact (ih fun z hz => h z (List.mem_cons_of_mem x hz)).bind fun ys _ => avoids_ok _

end Outcome

/-! ## Containers in containers -/

/-- The member by which a container refers to what it holds. -/
def Shape.element? (s : Shape) : Option Member :=
  match s.kind with
  | .list | .set => s.item
  | .map => s.value
  | _ => none

theorem Shape.mem_everyMember_of_element? {s : Shape} {m : Member} (h : s.element? = some m) :
    m ∈ s.everyMember := by
  refine List.mem_append_right _ (List.mem_filterMap.2 ⟨some m, ?_, rfl⟩)
  unfold element? at h
  split at h
  · simp [h]
  · simp [h]
  · simp [h]
  · cases h

namespace Catalog

/-- A container of the model holds values of a shape. -/
def Nests (c : Catalog) (s t : Shape) : Prop :=
  s ∈ c.shapes ∧ ∃ m, s.element? = some m ∧ c.find? m.target = some t

/-- No container is inside itself. -/
def Acyclic (c : Catalog) : Prop := ∀ s, ¬ Relation.TransGen c.Nests s s

/-- Containers are not nested in each other if there is a measure by which they get smaller. -/
theorem acyclic_of_measure {c : Catalog} (size : Shape → Nat)
    (h : ∀ s ∈ c.shapes, ∀ m ∈ s.element?, ∀ t ∈ c.find? m.target, size t < size s) :
    c.Acyclic := by
  have hnests : ∀ s t, c.Nests s t → size t < size s := by
    rintro s t ⟨hs, m, hm, ht⟩
    exact h s hs m hm t ht
  exact not_transGen_of_measure size hnests

variable {c : Catalog} {s : Shape} {m : Member}

/-- There are no containers in the prelude. -/
theorem not_mem_prelude_of_element? (hm : s.element? = some m) : s ∉ Prelude.shapes := by
  intro hs
  have hmem := Shape.mem_everyMember_of_element? hm
  rw [(Prelude.formed s hs).2] at hmem
  cases hmem

end Catalog

/-! ## Choosing representations -/

namespace Registry

variable {g : Registry} {s t : Shape} {m : Member}

theorem target_eq_ok_iff : g.catalog.target m = .ok t ↔ g.catalog.find? m.target = some t := by
  rw [Catalog.target, Outcome.at_eq_ok, Catalog.expect]
  split
  · rename_i found hfound
    rw [hfound]
    exact ⟨fun h => congrArg some (Except.ok.inj h), fun h => congrArg Except.ok (Option.some.inj h)⟩
  · rename_i hnone
    rw [hnone]
    constructor <;> intro h <;> cases h

/-- How shapes are represented, kind by kind.  What a list or a map holds is represented by what its
member refers to, with a time format that the member may choose. -/
inductive Represents (g : Registry) : Shape → Representation → Prop where
  | simple {s : Shape} {builtin : String} : builtin? s.kind = some builtin →
      Represents g s (.simple s builtin (!s.id.isPrelude && !g.options.inlineSimple))
  | timestamp {s : Shape} (format : String) : s.kind = .timestamp →
      Represents g s (.timestamp s format)
  | blob {s : Shape} : s.kind = .blob → Represents g s (.blob s)
  | bigInteger {s : Shape} : s.kind = .bigInteger → Represents g s (.bigInteger s)
  | bigDecimal {s : Shape} : s.kind = .bigDecimal → Represents g s (.bigDecimal s)
  | document {s : Shape} : s.kind = .document → Represents g s (.document s)
  | enum {s : Shape} : s.kind = .enum → Represents g s (.enum s)
  | intEnum {s : Shape} : s.kind = .intEnum → Represents g s (.intEnum s)
  | structure_ {s : Shape} : s.kind = .structure_ ∨ s.kind = .union →
      Represents g s (.structure_ s)
  | list {s t : Shape} {m : Member} {r : Representation} : s.kind = .list ∨ s.kind = .set →
      s.element? = some m → g.catalog.target m = .ok t → Represents g t r →
      Represents g s (.list s r)
  | map {s t : Shape} {m : Member} {r : Representation} : s.kind = .map → s.element? = some m →
      g.catalog.target m = .ok t → Represents g t r → Represents g s (.map s r)

theorem Represents.refine {r : Representation} (h : g.Represents s r) (m : Member) :
    g.Represents s (refine m r) := by
  cases h with
  | timestamp format hk => exact .timestamp _ hk
  | simple hb => exact .simple hb
  | blob hk => exact .blob hk
  | bigInteger hk => exact .bigInteger hk
  | bigDecimal hk => exact .bigDecimal hk
  | document hk => exact .document hk
  | enum hk => exact .enum hk
  | intEnum hk => exact .intEnum hk
  | structure_ hk => exact .structure_ hk
  | list hk hm ht hr => exact .list hk hm ht hr
  | map hk hm ht hr => exact .map hk hm ht hr

/-- **A representation that is chosen** is one of those for the kind of the shape. -/
theorem represents_of_resolve {n : Nat} {r : Representation} (h : g.resolve n s = .ok r) :
    g.Represents s r := by
  induction n generalizing s r with
  | zero => cases h
  | succ n ih =>
    have helement {m : Member} {wrap : Representation → Representation}
        (h : (do
          let r ← (do
            let target ← g.catalog.target m
            return Registry.refine m (← resolve g n target))
          return wrap r) = Except.ok r) :
        ∃ t inner, g.catalog.target m = .ok t ∧ g.Represents t inner ∧ r = wrap inner := by
      obtain ⟨inner, hinner, h⟩ := Outcome.exists_ok_of_bind h
      obtain ⟨t, ht, hinner⟩ := Outcome.exists_ok_of_bind hinner
      obtain ⟨r', hr', hinner⟩ := Outcome.exists_ok_of_bind hinner
      obtain rfl := Except.ok.inj hinner
      exact ⟨t, _, ht, (ih hr').refine m, (Except.ok.inj h).symm⟩
    rw [resolve] at h
    split at h
    · rename_i builtin hb
      obtain rfl := Except.ok.inj h
      exact .simple hb
    · rename_i hb
      cases hk : s.kind with
      | timestamp | blob | bigInteger | bigDecimal | document | enum | intEnum =>
        rw [hk] at h
        obtain rfl := Except.ok.inj h
        constructor
        exact hk
      | structure_ | union =>
        rw [hk] at h
        obtain rfl := Except.ok.inj h
        exact .structure_ (by simp [hk])
      | list | set =>
        cases hm : s.item with
        | none =>
          simp only [hk, hm] at h
          cases h
        | some m =>
          simp only [hk, hm] at h
          obtain ⟨t, inner, ht, hinner, rfl⟩ := helement h
          exact .list (by simp [hk]) (by rw [Shape.element?, hk]; exact hm) ht hinner
      | map =>
        cases hm : s.value with
        | none =>
          simp only [hk, hm] at h
          cases h
        | some m =>
          simp only [hk, hm] at h
          obtain ⟨t, inner, ht, hinner, rfl⟩ := helement h
          exact .map hk (by rw [Shape.element?, hk]; exact hm) ht hinner
      | boolean | byte | short | integer | long | float | double | string =>
        rw [hk] at hb
        cases hb
      | operation | resource | service | other =>
        rw [hk] at h
        cases h

/-- The target of a member is represented. -/
theorem represents_of_ofMember {r : Representation} (h : g.ofMember m = .ok r) :
    ∃ t, g.catalog.target m = .ok t ∧ g.Represents t r := by
  obtain ⟨t, ht, h⟩ := Outcome.exists_ok_of_bind h
  obtain ⟨r', hr', h⟩ := Outcome.exists_ok_of_bind h
  obtain rfl := Except.ok.inj h
  exact ⟨t, ht, (represents_of_resolve hr').refine m⟩

theorem Represents.shape {r : Representation} (h : g.Represents s r) : r.shape = s := by
  cases h <;> rfl

/-- A representation is simple exactly if the kind of its shape is. -/
theorem Represents.builtin?_eq {r : Representation} (h : g.Represents s r) :
    r.builtin? = builtin? s.kind := by
  cases h with
  | simple hb => exact hb.symm
  | timestamp _ hk => rw [hk]; rfl
  | blob hk | bigInteger hk | bigDecimal hk | document hk | enum hk | intEnum hk =>
    rw [hk]
    rfl
  | structure_ hk | list hk => rcases hk with hk | hk <;> rw [hk] <;> rfl
  | map hk => rw [hk]; rfl

/-- A container is represented by what it holds; any other shape by itself, or not at all. -/
theorem resolve_cases (g : Registry) (s : Shape) (n : Nat) :
    (∃ (m : Member) (wrap : Representation → Representation), s.element? = some m ∧
      g.resolve (n + 1) s = (do
        let t ← g.catalog.target m
        let r ← g.resolve n t
        return wrap (refine m r))) ∨
    s.element? = none ∧ ∀ f, g.resolve (n + 1) s = .error f →
      (s.Formed → f.Unrepresentable) ∧ ¬ f.IsLost := by
  have hother {kind : Kind} (hk : s.kind = kind)
      (hmem : kind ∈ [Kind.operation, .resource, .service]) {f : Failure}
      (h : (.error (.unsupportedKind s.id kind) : Outcome Representation) = .error f) :
      (s.Formed → f.Unrepresentable) ∧ ¬ f.IsLost := by
    have hf : f.Unrepresentable := ⟨s.id, kind, hmem, by rw [← Except.error.inj h]; rfl⟩
    exact ⟨fun _ => hf, hf.not_isLost⟩
  rw [resolve, Shape.element?]
  cases hk : s.kind with
  | list | set =>
    cases hm : s.item with
    | some m => exact .inl ⟨m, .list s, rfl, by simp [builtin?]⟩
    | none =>
      refine .inr ⟨rfl, fun f hf => ⟨fun hs => ?_, ?_⟩⟩
      · exact absurd (hs.item (by rw [hk]; rfl)) (by simp [hm])
      · rw [← Except.error.inj hf]
        simp [Failure.IsLost, Failure.cause]
  | map =>
    cases hm : s.value with
    | some m => exact .inl ⟨m, .map s, rfl, by simp [builtin?]⟩
    | none =>
      refine .inr ⟨rfl, fun f hf => ⟨fun hs => ?_, ?_⟩⟩
      · exact absurd (hs.value hk) (by simp [hm])
      · rw [← Except.error.inj hf]
        simp [Failure.IsLost, Failure.cause]
  | operation | resource | service => exact .inr ⟨rfl, fun f => hother hk (by simp)⟩
  | other i =>
    refine .inr ⟨rfl, fun f hf => ⟨fun hs => ?_, ?_⟩⟩
    · have hall := hs.kind
      simp [hk, Kind.all] at hall
    · rw [← Except.error.inj hf]
      simp [Failure.IsLost, Failure.cause]
  | _ => exact .inr ⟨rfl, nofun⟩

/-- **Why a shape has no representation.** Something inside is not for values, or a container there
refers to what does not exist; or there are as many containers inside each other as the bound
allows. -/
theorem reason_of_resolve (hc : g.catalog.Keyed) (n : Nat) (hs : g.catalog.Knows s) {f : Failure}
    (h : g.resolve n s = .error f) :
    (∃ t, g.catalog.Knows t ∧ (t.Formed → f.Unrepresentable) ∧ ¬ f.IsLost) ∨
    (∃ t m, g.catalog.Knows t ∧ t.element? = some m ∧ g.catalog.target m = .error f) ∨
    ∃ l : List Shape, l.length = n ∧ (s :: l).IsChain g.catalog.Nests := by
  induction n generalizing s with
  | zero => exact .inr (.inr ⟨[], rfl, .singleton s⟩)
  | succ n ih =>
    rcases resolve_cases g s n with ⟨m, wrap, hm, hr⟩ | ⟨-, hleaf⟩
    · rw [hr] at h
      rcases Outcome.error_or_of_bind h with ht | ⟨t, ht, h⟩
      · exact .inr (.inl ⟨s, m, hs, hm, ht⟩)
      · have hfind := target_eq_ok_iff.1 ht
        have hnests : g.catalog.Nests s t :=
          ⟨hs.resolve_right (Catalog.not_mem_prelude_of_element? hm), m, hm, hfind⟩
        rcases Outcome.error_or_of_bind h with h | ⟨r, -, h⟩
        · rcases ih (hc.knows_of_find? hfind) h with hf | hf | ⟨l, hlength, hchain⟩
          · exact .inl hf
          · exact .inr (.inl hf)
          · exact .inr (.inr
              ⟨t :: l, by rw [List.length_cons, hlength], .cons_cons hnests hchain⟩)
        · cases h
    · exact .inl ⟨s, hs, hleaf f h⟩

/-- Where no container is inside itself, the bound is not met. -/
theorem not_isChain_of_acyclic (ha : g.catalog.Acyclic) {l : List Shape}
    (hlength : l.length = g.depthBound) : ¬ (s :: l).IsChain g.catalog.Nests := by
  intro hchain
  have hle := Catalog.length_le_of_isChain (fun _ _ hnests => hnests.1) (fun t _ => ha t) hchain
  have hbound : g.depthBound = g.catalog.entries.keys.length + 2 := rfl
  omega

/-- A shape of the catalog has a representation unless what it holds is not for values. -/
theorem unrepresentable_of_ofShape (hc : g.catalog.Imported) (ha : g.catalog.Acyclic)
    (hs : g.catalog.Knows s) {f : Failure} (h : g.ofShape s = .error f) : f.Unrepresentable := by
  rcases reason_of_resolve hc.keyed _ hs h with
    ⟨t, ht, hf, -⟩ | ⟨t, m, ht, hm, hf⟩ | ⟨l, hlength, hchain⟩
  · exact hf (hc.formed_of_knows ht)
  · obtain ⟨u, hu, -⟩ := hc.exists_target ht (Shape.mem_everyMember_of_element? hm)
    rw [target_eq_ok_iff.2 hu] at hf
    cases hf
  · exact absurd hchain (not_isChain_of_acyclic ha hlength)

/-- **A member of the catalog** has a representation unless what it refers to is not for values. -/
theorem unrepresentable_of_ofMember (hc : g.catalog.Imported) (ha : g.catalog.Acyclic)
    (hs : g.catalog.Knows s) (hm : m ∈ s.everyMember) {f : Failure} (h : g.ofMember m = .error f) :
    f.Unrepresentable := by
  obtain ⟨t, ht, hknown⟩ := hc.exists_target hs hm
  rw [ofMember, target_eq_ok_iff.2 ht] at h
  rcases Outcome.error_or_of_bind (show (g.ofShape t >>= _) = .error f from h) with h | ⟨r, -, h⟩
  · exact unrepresentable_of_ofShape hc ha hknown h
  · cases h

open Outcome

theorem avoids_expect (c : Catalog) (id : ShapeId) : (c.expect id).Avoids Failure.IsEndless := by
  unfold Catalog.expect
  split
  · exact avoids_ok _
  · exact avoids_error (by simp [Failure.IsEndless, Failure.cause])

theorem avoids_target (c : Catalog) (m : Member) : (c.target m).Avoids Failure.IsEndless :=
  (avoids_expect c m.target).at_ Failure.losing_isEndless _

theorem avoids_ofShape (hc : g.catalog.Keyed) (ha : g.catalog.Acyclic) (hs : g.catalog.Knows s) :
    (g.ofShape s).Avoids Failure.IsEndless := by
  intro f h hf
  rcases reason_of_resolve hc _ hs h with
    ⟨t, -, -, hlost⟩ | ⟨t, m, -, -, htarget⟩ | ⟨l, hlength, hchain⟩
  · exact hlost (Failure.losing_isEndless.isLost f hf)
  · exact avoids_target _ m f htarget hf
  · exact not_isChain_of_acyclic ha hlength hchain

theorem avoids_ofMember (hc : g.catalog.Keyed) (ha : g.catalog.Acyclic) (m : Member) :
    (g.ofMember m).Avoids Failure.IsEndless :=
  (avoids_target _ m).bind fun _ ht =>
    (avoids_ofShape hc ha (hc.knows_of_find? (target_eq_ok_iff.1 ht))).bind fun _ _ => avoids_ok _

end Registry

/-! ## Binding -/

open Outcome

theorem avoids_literal (s : Shape) (n : Option Node) : (literal s n).Avoids Failure.IsLost := by
  have hinvalid (fault : DefaultFault) :
      Avoids Failure.IsLost (.error (.invalidDefault s.id s.kind fault) : Outcome String) :=
    avoids_error (by simp [Failure.IsLost, Failure.cause])
  unfold literal
  split
  · exact avoids_ok _
  · exact avoids_ok _
  · exact avoids_ok _
  · unfold numberLiteral
    split
    · exact avoids_ok _
    · split
      · exact hinvalid _
      · split
        · exact hinvalid _
        · exact avoids_ok _
    · split
      · exact avoids_ok _
      · exact hinvalid _
  · exact avoids_error (by simp [Failure.IsLost, Failure.cause])

theorem Representation.avoids_defaultValue (r : Representation) (n : Option Node) :
    (r.defaultValue n).Avoids Failure.IsLost := by
  have hinvalid (fault : DefaultFault) : Avoids Failure.IsLost
      (.error (.invalidDefault r.shape.id r.shape.kind fault) : Outcome Code.Expr) :=
    avoids_error (by simp [Failure.IsLost, Failure.cause])
  have hunsupported : Avoids Failure.IsLost
      (.error (.unsupportedDefault r.shape.id r.shape.kind (nodeKind n)) : Outcome Code.Expr) :=
    avoids_error (by simp [Failure.IsLost, Failure.cause])
  have hliteral {f : String → Outcome Code.Expr} (hf : ∀ text, (f text).Avoids Failure.IsLost) :
      Avoids Failure.IsLost (literal r.shape n >>= f) :=
    (avoids_literal _ n).bind fun text _ => hf text
  unfold defaultValue
  simp only
  split
  case h_6 =>
    refine hliteral fun text => ?_
    split
    · exact avoids_ok _
    · split
      · split
        · exact hinvalid _
        · split <;> exact avoids_ok _
      · split
        · exact hinvalid _
        · split
          · exact hinvalid _
          · exact avoids_ok _
      · split
        · exact avoids_ok _
        · exact hinvalid _
      · split
        · exact avoids_ok _
        · exact hinvalid _
      · exact hinvalid _
  all_goals exact hunsupported

namespace Binding

variable {m : Member} {origin : Origin}

theorem avoids_fromText (m : Member) (origin : Origin) (r : Representation)
    (field raw : Code.Expr) : (fromText m origin r field raw).Avoids Failure.IsLost := by
  have hunsupported (kind : Kind) : Avoids Failure.IsLost
      (.error (.unsupportedBinding m.id kind origin) : Outcome Conversion) :=
    avoids_error (by simp [Failure.IsLost, Failure.cause])
  induction r generalizing field raw with
  | list s element ih =>
    rw [fromText]
    split
    · exact hunsupported _
    · exact (ih _ _).bind fun c _ => avoids_ok _
  | _ =>
    unfold fromText
    split
    all_goals first
      | exact avoids_ok _
      | exact hunsupported _

theorem avoids_fromPayload (m : Member) (r : Representation) (field raw : Code.Expr) :
    (fromPayload m r field raw).Avoids Failure.IsLost := by
  unfold fromPayload
  split
  all_goals first
    | exact avoids_ok _
    | exact avoids_error (by simp [Failure.IsLost, Failure.cause])

theorem avoids_bind (m : Member) (target : Shape) (r : Representation) (origin : Origin)
    (uri : Option UriPattern) : (bind m target r origin uri).Avoids Failure.IsLost := by
  unfold bind
  simp only
  split
  · have hpath : (pathExtraction m uri).Avoids Failure.IsLost := by
      unfold pathExtraction
      split
      · exact avoids_error (by simp [Failure.IsLost, Failure.cause])
      · exact avoids_ok _
    exact hpath.bind fun e _ => (avoids_fromText m _ r _ _).bind fun c _ => avoids_ok _
  · exact (avoids_fromText m _ r _ _).bind fun c _ => avoids_ok _
  · exact (avoids_fromText m _ r _ _).bind fun c _ => avoids_ok _
  · exact (avoids_fromPayload m r _ _).bind fun c _ => avoids_ok _
  · exact avoids_ok _

end Binding

theorem avoids_endpoint (op : Shape) : (Endpoint.of op).Avoids Failure.IsLost := by
  unfold Endpoint.of
  split
  · exact avoids_ok _
  · rename_i v _
    have hparse : (UriPattern.parse (v.fieldString "uri")).Avoids Failure.IsLost := by
      unfold UriPattern.parse
      split
      · exact avoids_error (by simp [Failure.IsLost, Failure.cause])
      · split
        · exact avoids_error (by simp [Failure.IsLost, Failure.cause])
        · exact avoids_ok _
    exact (hparse.at_ Failure.losing_isLost _).bind fun _ _ => avoids_ok _

namespace Registry

variable {g : Registry} {s t op : Shape} {m : Member} {P : Failure → Prop}

/-- A member whose target is represented is bound, or fails for a reason of its own. -/
theorem avoids_declare (hP : Failure.Losing P) (hmember : (g.ofMember m).Avoids P) (target : Shape)
    (origin : Origin) (uri : Option UriPattern) : (g.declare m target origin uri).Avoids P := by
  unfold declare
  refine (hmember.at_ hP _).bind fun r _ => ?_
  have hbind {f : Origin × Extraction × Conversion → Declaration} :
      Avoids P (Binding.bind m target r origin uri >>= fun b => pure (f b)) :=
    ((Binding.avoids_bind m target r origin uri).mono hP.isLost).bind fun _ _ => avoids_ok _
  have hdefault (n : Option Node) : (r.defaultValue n).Avoids P :=
    (Representation.avoids_defaultValue r n).mono hP.isLost
  simp only
  split
  · exact (((hdefault _).at_ hP _).map _).bind fun _ _ => hbind
  · exact hbind

/-- **Binding an operation** fails for its own reasons if its input and what the members of this
refer to can be reached. -/
theorem avoids_bindOperation (hP : Failure.Losing P) (hinput : (g.inputShape op).Avoids P)
    (hmembers : ∀ s, g.inputShape op = .ok (some s) → ∀ m ∈ s.memberList,
      (g.catalog.target m).Avoids P ∧ (g.ofMember m).Avoids P) :
    (g.bindOperation op).Avoids P := by
  refine hinput.bind fun input hok => ?_
  have hall (uri : Option UriPattern) :
      (g.declareAll ((input.map (·.memberList)).getD []) uri).Avoids P := by
    refine avoids_mapM fun m hm => ?_
    cases input with
    | none => cases hm
    | some s =>
      obtain ⟨htarget, hmember⟩ := hmembers s hok m hm
      exact htarget.bind fun t _ => avoids_declare hP hmember t _ uri
  refine ((avoids_endpoint op).mono hP.isLost).bind fun endpoint _ => ?_
  simp only
  split
  · exact avoids_ok _
  · split
    · exact avoids_ok _
    · exact (hall _).bind fun _ _ => avoids_ok _

/-- **The input of an operation** of the catalog is there. -/
theorem inputShape_of_mem (hc : g.catalog.Imported) (hop : op ∈ g.catalog.shapes) :
    ∃ input, g.inputShape op = .ok input ∧ ∀ s, input = some s → g.catalog.Knows s := by
  unfold inputShape
  split
  · exact ⟨none, rfl, by simp⟩
  · rename_i hne
    rw [Bool.not_eq_true, Bool.or_eq_false_iff] at hne
    have href : op.input ∈ op.references := by simp [Shape.references]
    obtain ⟨s, hfind⟩ := Option.isSome_iff_exists.1 (hc.closed op hop _ href hne.1)
    refine ⟨some s, ?_, ?_⟩
    · rw [Catalog.expect, hfind]
      rfl
    · rintro _ ⟨⟩
      exact hc.knows_of_find? hfind

/-- **In an imported catalog** binding an operation fails for other reasons than a shape that is
lost. -/
theorem avoids_bindOperation_isLost (hc : g.catalog.Imported) (ha : g.catalog.Acyclic)
    (hop : op ∈ g.catalog.shapes) : (g.bindOperation op).Avoids Failure.IsLost := by
  obtain ⟨input, hinput, hknown⟩ := inputShape_of_mem hc hop
  refine avoids_bindOperation Failure.losing_isLost ?_ fun s hs m hm => ?_
  · rw [hinput]
    exact avoids_ok input
  · have hevery : m ∈ s.everyMember := List.mem_append_left _ hm
    have hs' := hknown s (Except.ok.inj (hinput.symm.trans hs))
    obtain ⟨t, ht, -⟩ := hc.exists_target hs' hevery
    rw [target_eq_ok_iff.2 ht]
    exact ⟨avoids_ok t, fun f hf => (unrepresentable_of_ofMember hc ha hs' hevery hf).not_isLost⟩

end Registry

/-! ## From an assembly on -/

namespace Assembly

/-- **No reference is lost.** In the catalog of an assembly every reference leads to a shape.  So if no
container is inside itself, a member has no representation only where it refers to what is not for
values, and no operation fails to be bound for want of a shape. -/
theorem references_resolve {a : Assembly} {c : Catalog} (h : a.toCatalog.run.1 = .ok c) :
    (∀ s ∈ c.shapes, ∀ id ∈ s.references, id.isEmpty = false → (c.find? id).isSome = true) ∧
    (c.Acyclic → ∀ options : Options,
      (∀ s ∈ c.shapes, ∀ m ∈ s.everyMember, ∀ f, Registry.ofMember ⟨c, options⟩ m = .error f →
        f.Unrepresentable ∧ ¬ f.IsLost) ∧
      ∀ op ∈ c.shapes, ∀ f, Registry.bindOperation ⟨c, options⟩ op = .error f → ¬ f.IsLost) := by
  have hc : c.Imported := Catalog.imported_of_gives ⟨[], h⟩
  refine ⟨hc.closed, fun ha options => ⟨fun s hs m hm f hf => ?_, fun op hop f hf => ?_⟩⟩
  · have hunrepresentable :=
      Registry.unrepresentable_of_ofMember (g := ⟨c, options⟩) hc ha (.inl hs) hm hf
    exact ⟨hunrepresentable, hunrepresentable.not_isLost⟩
  · exact Registry.avoids_bindOperation_isLost (g := ⟨c, options⟩) hc ha hop f hf

/-- An operation whose input is a table of texts. -/
def tables : Assembly :=
  ((({ version := "2.0", cells := [{ target := "Rows" }] : Assembly }
    |>.insert "ex#Put" (some { type := "operation", input := some "ex#Table" }))
    |>.insert "ex#Table" (some { type := "structure", members := some (.insert {} "rows" (some 0)) }))
    |>.insert "ex#Rows" (some { type := "list", member := some { target := "Row" } }))
    |>.insert "ex#Row" (some { type := "list", member := some { target := "String" } })

/-- Its catalog. -/
def tablesCatalog : Catalog :=
  let put : Shape := { id := ⟨"ex#Put"⟩, kind := .operation, input := ⟨"ex#Table"⟩ }
  let table : Shape := { id := ⟨"ex#Table"⟩, kind := .structure_ }
  let rows : Member := { name := "member", container := ⟨"ex#Rows"⟩, target := ⟨"ex#Row"⟩ }
  let row : Member := { name := "member", container := ⟨"ex#Row"⟩, target := ⟨"smithy.api#String"⟩ }
  { entries := ((((({} : OrderedMap Shape).insert "ex#Put" put).insert "ex#Table"
      (table.addMember "rows" ⟨"ex#Rows"⟩ {})).insert "ex#Rows"
      { id := ⟨"ex#Rows"⟩, kind := .list, item := some rows }).insert "ex#Row"
      { id := ⟨"ex#Row"⟩, kind := .list, item := some row }) }

theorem toCatalog_tables : tables.toCatalog.run.1 = .ok tablesCatalog := by rfl

theorem acyclic_tablesCatalog : tablesCatalog.Acyclic :=
  Catalog.acyclic_of_measure
    (fun s => if s.id.text = "ex#Rows" then 2 else if s.id.text = "ex#Row" then 1 else 0) (by decide)

theorem references_resolve_tables :
    tables.toCatalog.run.1 = .ok tablesCatalog ∧ tablesCatalog.Acyclic ∧
    (∀ s ∈ tablesCatalog.shapes, ∀ m ∈ s.everyMember, ∀ f,
      Registry.ofMember ⟨tablesCatalog, {}⟩ m = .error f → f.Unrepresentable ∧ ¬ f.IsLost) ∧
    ∀ op ∈ tablesCatalog.shapes, ∀ f,
      Registry.bindOperation ⟨tablesCatalog, {}⟩ op = .error f → ¬ f.IsLost :=
  ⟨toCatalog_tables, acyclic_tablesCatalog,
    (references_resolve toCatalog_tables).2 acyclic_tablesCatalog {}⟩

end Assembly
end Shapewright
