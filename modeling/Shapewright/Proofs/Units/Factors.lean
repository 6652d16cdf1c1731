import Shapewright.Proofs.Assembly.Numbers
import Shapewright.Proofs.Document
import Shapewright.Proofs.Number.Arithmetic
import Shapewright.Proofs.Number.Shortest
import Shapewright.Proofs.Units.Lookup

/-!
# How units relate to their base

A unit is converted with a multiplier, which is divided by, and with an offset.  Both are taken from a
trait of the model and are printed into the code that is generated.

The numbers of a trait are read in two ways.  A field is passed over if it is beyond the range of 64
bits, while a bare number is taken as it comes out, and may come out infinite.  Nothing in the way
units are read prevents that.  The reader of documents lets no such number into a model; shapes that
are made otherwise can have it.

* `Units.UnitSpec.IsRead` — when the numbers of a unit are finite, for any trait;
  `Units.UnitSpec.IsRead.isFinite` — that they are, for a trait of a model.
* `Units.UnitSpec.IsPrinted` — a literal is made of the numbers of a unit.
* `Units.convertUnit_of_ne` — a conversion is a division by what is not zero.
* `Units.unitEnum_factors` — what is known of the units of any enumeration.
* `Units.not_isFinite_gauge` — that they are finite is not.
-/

set_option autoImplicit false

namespace Shapewright

open Number

/-- A node whose number is beyond the range of 64 bits. -/
def Node.IsBeyond (n : Node) : Prop :=
  ∃ text, n.number? = some text ∧ double.read text = .error .outOfRange

/-- A node whose number is one of the words for what is not finite. -/
def Node.IsWord (n : Node) : Prop := ∃ text, n.number? = some text ∧ IsNonfinite text

/-- **No value of a model** is such a number. -/
theorem Node.AllNumbers.not_isBeyond {n : Node} (h : n.AllNumbers isModelNumber) :
    ¬ n.IsBeyond ∧ ¬ n.IsWord := by
  obtain ⟨value⟩ := n
  cases value with
  | number text =>
    obtain ⟨hnumber, hrange⟩ := Bool.and_eq_true_iff.1 h
    refine ⟨?_, ?_⟩
    · rintro ⟨_, ⟨⟩, hbeyond⟩
      rw [isInRange, hbeyond] at hrange
      cases hrange
    · rintro ⟨_, ⟨⟩, hword⟩
      obtain ⟨spelling, hspelling⟩ := Json.isNumber_iff.1 hnumber
      have hread := Numeral.read?_spelling spelling
      rw [← hspelling, String.ofList_toList] at hread
      rcases Numeral.isNonfinite_iff.1 hword with hnan | ⟨_, hinfinite⟩
      · rw [hread] at hnan
        cases hnan
      · rw [hread] at hinfinite
        cases hinfinite
  | _ => exact ⟨by rintro ⟨_, ⟨⟩, -⟩, by rintro ⟨_, ⟨⟩, -⟩⟩

theorem Node.AllNumbers.field? {p : String → Bool} {n m : Node} {key : String}
    (h : n.AllNumbers p) (hfield : n.field? key = some m) : m.AllNumbers p := by
  obtain ⟨value, hvalue, rfl⟩ := Option.map_eq_some_iff.1 hfield
  exact Json.allNumbers_of_field? h hvalue

theorem Traits.AllNumbers.units? {p : String → Bool} {t : Traits} (h : Traits.AllNumbers p t)
    {n : Node} (hn : t.units? = some n) : n.AllNumbers p := by
  unfold Traits.units? at hn
  split at hn
  · rename_i m hm
    obtain rfl := Option.some.inj hn
    exact h _ m hm
  · obtain ⟨id, -, hid⟩ := Option.bind_eq_some_iff.1 hn
    exact h id n hid

namespace Units

open Assembly

/-! ## Numbers of a trait -/

section

variable {x : Binary} {n : Node}

theorem has_zero : double.Has zero :=
  Format.has_ofRat double_fits.1 double_fits.2 (Format.toRat?_ofRat_zero double)

theorem has_one : double.Has one :=
  Format.has_ofRat double_fits.1 double_fits.2 (v := 1) (by decide +kernel)

/-- What is said of a number that is read: when it is finite, and that it is a number of the format
then. -/
structure FiniteIff (x : Binary) (p : Prop) : Prop where
  isFinite_iff : x.isFinite = true ↔ p
  has : x.isFinite = true → double.Has x

theorem FiniteIff.of_has {p : Prop} (hx : double.Has x) (hp : p) : FiniteIff x p :=
  ⟨iff_of_true (by cases hx; rfl) hp, fun _ => hx⟩

theorem FiniteIff.of_readUnbounded? {text : String} (h : double.readUnbounded? text = some x) :
    FiniteIff x (double.read text ≠ .error .outOfRange ∧ ¬ IsNonfinite text) :=
  ⟨Format.isFinite_iff_of_readUnbounded? double_fits.1 double_fits.2 h,
    Format.has_of_readUnbounded? double_fits.1 double_fits.2 h⟩

/-- **A field** is finite unless it is one of the words: a number beyond the range is passed over. -/
theorem finiteIff_fieldNumber? (key : String) {fallback : Binary}
    (hfallback : double.Has fallback) :
    FiniteIff ((fieldNumber? n key).getD fallback) (∀ m, n.field? key = some m → ¬ m.IsWord) := by
  rw [fieldNumber?]
  cases hfield : n.field? key with
  | none => exact .of_has hfallback nofun
  | some m =>
    simp only [Option.bind_some, Option.some.injEq, forall_eq', Node.double?, Node.IsWord]
    cases m.number? with
    | none => exact .of_has hfallback (by simp)
    | some text =>
      simp only [Option.bind_some, Option.some.injEq, exists_eq_left']
      cases hread : double.read text with
      | error cause =>
        refine .of_has hfallback fun hword => ?_
        obtain ⟨y, hy⟩ := Format.exists_read_of_isNonfinite (f := double) hword
        rw [hread] at hy
        cases hy
      | ok y =>
        have hy := FiniteIff.of_readUnbounded? (Format.readUnbounded?_of_read hread)
        rw [hread] at hy
        simpa [Except.toOption] using hy

/-- **The numbers of a trait.** A bare number that is beyond the range becomes the multiplier. -/
theorem of_readTrait? {spec : UnitSpec} {abbreviations : List String}
    (h : readTrait? n = some (spec, abbreviations)) (hzero : spec.multiplier.isZero = false) :
    FiniteIff spec.multiplier (¬ n.IsBeyond ∧ ¬ n.IsWord ∧
        ∀ m, n.field? "multiplier" = some m → ¬ m.IsWord) ∧
      FiniteIff spec.offset (∀ m, n.field? "offset" = some m → ¬ m.IsWord) := by
  obtain ⟨value⟩ := n
  cases value with
  | number text =>
    obtain ⟨rfl, -⟩ := Prod.mk.inj (Option.some.inj h)
    refine ⟨?_, .of_has has_zero nofun⟩
    show FiniteIff ((double.readUnbounded? text).getD zero) _
    cases hread : double.readUnbounded? text with
    | none =>
      simp only [Node.number?, Option.bind_some, hread] at hzero
      exact absurd hzero (by decide +kernel)
    | some x =>
      have hx := FiniteIff.of_readUnbounded? hread
      have hnumber : Node.number? ⟨.number text⟩ = some text := rfl
      have hfield : Node.field? ⟨.number text⟩ "multiplier" = none := rfl
      simpa [Node.IsBeyond, Node.IsWord, hnumber, hfield] using hx
  | object fields =>
    obtain ⟨rfl, -⟩ := Prod.mk.inj (Option.some.inj h)
    refine ⟨?_, finiteIff_fieldNumber? "offset" has_zero⟩
    have hnumber : Node.number? ⟨.object fields⟩ = none := rfl
    simpa [Node.IsBeyond, Node.IsWord, hnumber] using
      finiteIff_fieldNumber? (n := ⟨.object fields⟩) "multiplier" has_one
  | null => cases h
  | bool => cases h
  | string => cases h
  | array => cases h

end

/-! ## Literals -/

/-- A text is the literal of a number, if it is a finite one. -/
def IsLiteralOf (text : String) (x : Binary) : Prop :=
  if x.isFinite then Json.isNumber text = true ∧ double.read text = .ok x
  else Json.isNumber text = false

theorem isLiteralOf_general {x : Binary} (h : x.isFinite = true → double.Has x) :
    IsLiteralOf (x.general double) x := by
  rw [IsLiteralOf]
  split
  · rename_i hx
    exact Format.read_general small_double (h hx)
  · rename_i hx
    cases x with
    | nan => decide
    | infinite negative => cases negative <;> decide
    | finite => exact absurd rfl hx

/-- A literal is made of the numbers of a unit. An offset of zero is left out. -/
def UnitSpec.IsPrinted (s : UnitSpec) (literal : Code.Expr) : Prop :=
  ∃ multiplier offset, IsLiteralOf multiplier s.multiplier ∧ IsLiteralOf offset s.offset ∧
    literal = .composite "runtime.UnitSpec" (("Multiplier", .lit multiplier)
      :: if s.offset.isZero then [] else [("Offset", .lit offset)])

theorem UnitSpec.isPrinted_specLit {s : UnitSpec}
    (hmultiplier : s.multiplier.isFinite = true → double.Has s.multiplier)
    (hoffset : s.offset.isFinite = true → double.Has s.offset) : s.IsPrinted (specLit s) :=
  ⟨_, _, isLiteralOf_general hmultiplier, isLiteralOf_general hoffset, rfl⟩

/-! ## Conversion -/

/-- **A conversion** between units that differ divides by what is not zero. -/
theorem convertUnit_of_ne {source target : UnitSpec} (hne : source.same target = false)
    (hzero : target.multiplier.isZero = false) {value : Binary} {a b : ℚ}
    (ha : (((value.mul double source.multiplier).add double source.offset).sub double
      target.offset).toRat? = some a) (hb : target.multiplier.toRat? = some b) :
    b ≠ 0 ∧ (convertUnit value source target).toRat? = (double.ofRat (a / b)).toRat? := by
  have hb' : b ≠ 0 := by
    cases hmultiplier : target.multiplier with
    | infinite => rw [hmultiplier] at hb; cases hb
    | nan => rw [hmultiplier] at hb; cases hb
    | finite negative m e =>
      rw [hmultiplier] at hb hzero
      obtain rfl := Option.some.inj hb
      have hm : m ≠ 0 := beq_eq_false_iff_ne.1 hzero
      have hpow : pow2 e ≠ 0 := zpow_ne_zero e (by norm_num)
      cases negative <;> simp [hm, hpow]
  refine ⟨hb', ?_⟩
  rw [convertUnit, hne, if_neg Bool.false_ne_true]
  exact Binary.toRat?_div ha hb hb'

/-! ## Enumerations -/

/-- What a unit takes from the trait of its member. -/
theorem exists_trait {s : Shape} {m : Member} {u : Unit} (h : unitOf? s m = some u) :
    ∃ trait, m.traits.units? = some trait ∧ readTrait? trait = some (u.spec, u.abbreviations) ∧
      u.spec.multiplier.isZero = false := by
  obtain ⟨trait, htrait, h⟩ := Option.bind_eq_some_iff.1 h
  obtain ⟨⟨spec, abbreviations⟩, hread, h⟩ := Option.bind_eq_some_iff.1 h
  dsimp only at h
  split at h
  · cases h
  · rename_i hzero
    obtain rfl := Option.some.inj h
    exact ⟨trait, htrait, hread, Bool.eq_false_iff.2 hzero⟩

theorem unitsOf?_eq_mapM {s : Shape} {units : List Unit} (h : unitsOf? s = some units) :
    s.memberList.mapM (unitOf? s) = some units := by
  rw [unitsOf?] at h
  split at h
  · cases h
  · exact h

/-- When the numbers of a unit are finite. A bare number beyond the range becomes an infinite
multiplier, while a field beyond the range is passed over. -/
structure UnitSpec.IsRead (s : UnitSpec) (trait : Node) : Prop where
  isFinite_multiplier_iff : s.multiplier.isFinite = true ↔ ¬ trait.IsBeyond ∧ ¬ trait.IsWord ∧
    ∀ n, trait.field? "multiplier" = some n → ¬ n.IsWord
  isFinite_offset_iff : s.offset.isFinite = true ↔
    ∀ n, trait.field? "offset" = some n → ¬ n.IsWord

/-- **A trait of a model** gives finite numbers. -/
theorem UnitSpec.IsRead.isFinite {s : UnitSpec} {trait : Node} (h : s.IsRead trait)
    (ht : trait.AllNumbers isModelNumber) : s.multiplier.isFinite = true ∧
      s.offset.isFinite = true :=
  ⟨h.isFinite_multiplier_iff.2 ⟨ht.not_isBeyond.1, ht.not_isBeyond.2,
      fun _ hn => (ht.field? hn).not_isBeyond.2⟩,
    h.isFinite_offset_iff.2 fun _ hn => (ht.field? hn).not_isBeyond.2⟩

/-- **The numbers of units.** No multiplier is zero.  The numbers of a unit are finite unless its
trait is a bare number beyond the range, or has one of the words for what is not finite.  The method
that is declared for the enumeration returns literals of them, which are numbers exactly as far as
they are finite, and are read back as the same numbers; the literal for all other values is finite.
A conversion between units that differ is a quotient, rounded once, and what is divided by is not
zero.  In a shape of a model that was loaded all numbers are finite, whatever the parsers. -/
theorem unitEnum_factors {r : Record} {units : List Unit} (h : unitsOf? r.shape = some units) :
    (∀ u ∈ units, u.spec.multiplier.isZero = false) ∧
    List.Forall₂ (fun (m : Member) (u : Unit) =>
        ∃ trait, m.traits.units? = some trait ∧ u.spec.IsRead trait) r.shape.memberList units ∧
    (∃ methods spec cases fallback, Contributor.unitEnum.methods? r = some methods ∧
      spec ∈ methods ∧ spec.name = "Spec" ∧
      spec.body = [.switch (some (.ident "x")) cases [.ret [fallback]]] ∧
      List.Forall₂ (fun (u : Unit) c => ∃ literal, c = ([.ident u.constant], [.ret [literal]]) ∧
        u.spec.IsPrinted literal) units cases ∧
      UnitSpec.IsPrinted ⟨one, zero⟩ fallback) ∧
    (∀ u ∈ units, ∀ v ∈ units, ∀ value,
      (u.spec.same v.spec = true → convertUnit value u.spec v.spec = value) ∧
      ∀ a b, u.spec.same v.spec = false →
        (((value.mul double u.spec.multiplier).add double u.spec.offset).sub double
          v.spec.offset).toRat? = some a → v.spec.multiplier.toRat? = some b →
        b ≠ 0 ∧ (convertUnit value u.spec v.spec).toRat? = (double.ofRat (a / b)).toRat?) ∧
    ∀ fs paths parsers c id, (load fs paths parsers).run.1 = .ok c → c.find? id = some r.shape →
      ∀ u ∈ units, u.spec.multiplier.isFinite = true ∧ u.spec.offset.isFinite = true := by
  have hmapM := unitsOf?_eq_mapM h
  -- What is known of a unit is known from the trait of its member.
  have hunits : ∀ u ∈ units, ∃ m ∈ r.shape.memberList, unitOf? r.shape m = some u :=
    Outcome.exists_mem_of_mapM_eq_some hmapM
  have hhas : ∀ u ∈ units, (u.spec.multiplier.isFinite = true → double.Has u.spec.multiplier) ∧
      (u.spec.offset.isFinite = true → double.Has u.spec.offset) ∧
      u.spec.multiplier.isZero = false := by
    intro u hu
    obtain ⟨m, -, hunit⟩ := hunits u hu
    obtain ⟨trait, -, hread, hzero⟩ := exists_trait hunit
    obtain ⟨hmultiplier, hoffset⟩ := of_readTrait? hread hzero
    exact ⟨hmultiplier.has, hoffset.has, hzero⟩
  have hread {m : Member} {u : Unit} (hunit : unitOf? r.shape m = some u) :
      ∃ trait, m.traits.units? = some trait ∧ u.spec.IsRead trait := by
    obtain ⟨trait, htrait, hread, hzero⟩ := exists_trait hunit
    obtain ⟨hmultiplier, hoffset⟩ := of_readTrait? hread hzero
    exact ⟨trait, htrait, hmultiplier.isFinite_iff, hoffset.isFinite_iff⟩
  refine ⟨fun u hu => (hhas u hu).2.2, (Outcome.forall₂_of_mapM_eq_some hmapM).imp fun m u => hread,
    ?_, fun u hu v hv value => ⟨fun hsame => ?_, ?_⟩,
    fun fs paths parsers c id hload hfind u hu => ?_⟩
  · refine ⟨enumMethods r.typeName units, specMethod r.typeName units, _, _,
      by rw [Contributor.methods?, h, Option.map_some], List.mem_cons_self, rfl, rfl, ?_, ?_⟩
    · rw [List.forall₂_map_right_iff, List.forall₂_same]
      exact fun u hu => ⟨_, rfl, UnitSpec.isPrinted_specLit (hhas u hu).1 (hhas u hu).2.1⟩
    · have hone : one.general double = "1" := by decide +kernel
      have hfallback := UnitSpec.isPrinted_specLit (s := ⟨one, zero⟩) (fun _ => has_one)
        fun _ => has_zero
      rwa [specLit, numberLit, hone] at hfallback
  · rw [convertUnit, hsame, if_pos rfl]
  · exact fun a b hne ha hb => convertUnit_of_ne hne (hhas v hv).2.2 ha hb
  · obtain ⟨m, hm, hunit⟩ := hunits u hu
    obtain ⟨trait, htrait, hspec⟩ := hread hunit
    have hshape := Catalog.allNumbers_of_load ⟨[], hload⟩ hfind
    exact hspec.isFinite ((hshape.members m (List.mem_append_left _ hm)).units? htrait)

/-- A document of two lengths, a bare number and an object. -/
def lengthFields : List (Document.DocumentField × Json) :=
  [(.version, .string "2.0"), (.shapes, .object [("ex#Length", .object [("type", .string "enum"),
    ("members", .object [
      ("METER", .object [("target", .string "Unit"),
        ("traits", .object [("ex#units", .number "1")])]),
      ("MILE", .object [("target", .string "Unit"),
        ("traits", .object [("ex#units", .object [("multiplier", .number "1609.344")])])])])])])]

/-- A file with the document is loaded, and the enumeration is one of units. -/
theorem load_lengths :
    let text := (Json.object (lengthFields.map fun f => (f.1.key, f.2))).compact
    let fs : Files := { entries := [(["length.json"], .file text)] }
    ∃ c s u v, (load fs ["length.json"]).run.1 = .ok c ∧
      c.find? ⟨"ex#Length"⟩ = some s ∧ unitsOf? s = some [u, v] ∧
      (u.spec.multiplier, u.spec.offset) = (one, zero) ∧
      (v.spec.multiplier, v.spec.offset) = (double.ofRat (1609344 / 1000), zero) := by
  intro text fs
  have hrun : ((Document.readValues? {} lengthFields).bind fun d =>
      if d.version ≠ "" ∧
          (ofDocument 0 d).ids.all fun id => ((ofDocument 0 d).shape? id).any (·.mixins.isNone) then
        (proceed (ofDocument 0 d).applyAll >>= toCatalog).run.1.toOption.bind fun c =>
          (c.find? ⟨"ex#Length"⟩).bind fun s => (unitsOf? s).map (List.map fun u =>
            (u.spec.multiplier, u.spec.offset))
      else none) = some [(one, zero), (double.ofRat (1609344 / 1000), zero)] := by
    decide +kernel
  obtain ⟨d, hread, hrun⟩ := Option.bind_eq_some_iff.1 hrun
  split at hrun
  · rename_i hsettled
    have hparse : Document.parse text = .ok d := by
      rw [Document.parse_compact (by decide +kernel), hread]
      exact if_neg (by simpa using hsettled.1)
    obtain ⟨c, hc, hrun⟩ := Option.bind_eq_some_iff.1 hrun
    obtain ⟨s, hs, hrun⟩ := Option.bind_eq_some_iff.1 hrun
    obtain ⟨units, hunits, hspecs⟩ := Option.map_eq_some_iff.1 hrun
    obtain ⟨u, rest, rfl, hu, hrest⟩ := List.map_eq_cons_iff.1 hspecs
    obtain ⟨v, rfl, hv⟩ := List.map_eq_singleton_iff.1 hrest
    refine ⟨c, s, u, v, ?_, hs, hunits, hu, hv⟩
    rw [load_of_settled (by decide) rfl hparse fun id hid => ?_, Outcome.ok_of_toOption hc]
    simpa [Option.any_eq_true] using List.all_eq_true.1 hsettled.2 id hid
  · cases hrun

/-- Lengths of a file that is loaded: the numbers are finite, a literal is printed for each unit, and
metres are converted to miles by dividing. -/
theorem unitEnum_factors_lengths :
    ∃ (fs : Files) (c : Catalog) (r : Record) (u v : Unit),
      (load fs ["length.json"]).run.1 = .ok c ∧ c.find? ⟨"ex#Length"⟩ = some r.shape ∧
      unitsOf? r.shape = some [u, v] ∧
      (u.spec.multiplier.isFinite = true ∧ v.spec.multiplier.isFinite = true) ∧
      (∃ literal, v.spec.IsPrinted literal) ∧
      ∃ b, v.spec.multiplier.toRat? = some b ∧ b ≠ 0 ∧
        (convertUnit one u.spec v.spec).toRat? = (double.ofRat (1 / b)).toRat? := by
  obtain ⟨c, s, u, v, hload, hfind, hunits, hu, hv⟩ := load_lengths
  have hshape : unitsOf? ({ shape := s, fields := [] } : Record).shape = some [u, v] := hunits
  obtain ⟨-, -, ⟨_, _, _, _, -, -, -, -, hcases, -⟩, hconvert, hfinite⟩ := unitEnum_factors hshape
  replace hfinite := hfinite _ _ _ c _ hload hfind
  obtain ⟨hmetre, hmetre_offset⟩ := Prod.mk.inj hu
  obtain ⟨hmile, hmile_offset⟩ := Prod.mk.inj hv
  have hbase : (((one.mul double u.spec.multiplier).add double u.spec.offset).sub double
      v.spec.offset).toRat? = some 1 := by
    rw [hmetre, hmetre_offset, hmile_offset]
    decide +kernel
  have hdiffer : u.spec.same v.spec = false := by
    rw [UnitSpec.same, hmetre, hmetre_offset, hmile, hmile_offset]
    decide +kernel
  obtain ⟨b, hb⟩ : ∃ b, v.spec.multiplier.toRat? = some b := by
    rw [hmile, ← Option.isSome_iff_exists]
    decide +kernel
  obtain ⟨hne, hquotient⟩ :=
    (hconvert u (by simp) v (by simp) one).2 1 b hdiffer hbase hb
  rcases hcases with _ | ⟨-, _ | ⟨⟨literal, -, hprinted⟩, -⟩⟩
  exact ⟨_, c, _, u, v, hload, hfind, hshape,
    ⟨(hfinite u (by simp)).1, (hfinite v (by simp)).1⟩, ⟨literal, hprinted⟩, b, hb, hne, hquotient⟩

/-- An enumeration of one unit, given the trait of its constant. -/
def gauge (trait : Node) : Shape :=
  ({ id := ⟨"ex#Gauge"⟩, kind := .enum } : Shape).addMember "FULL" ShapeId.unit
    (Traits.addAll {} [("ex#units", trait)])

/-- **A bare number beyond the range** can be decoded and put into a trait.  It makes a unit that is
not finite and is printed as no number; as a field the same number is passed over. -/
theorem not_isFinite_gauge :
    Node.parse? "1e999" = some ⟨.number "1e999"⟩ ∧
    (∃ u, unitsOf? (gauge ⟨.number "1e999"⟩) = some [u] ∧ u.spec.multiplier.isFinite = false ∧
      Json.isNumber (u.spec.multiplier.general double) = false) ∧
    ∃ u, unitsOf? (gauge ⟨.object [("multiplier", .number "1e999")]⟩) = some [u] ∧
      u.spec.multiplier = one := by
  have hbare : (unitsOf? (gauge ⟨.number "1e999"⟩)).map (List.map (·.spec.multiplier)) =
      some [.infinite false] := by decide +kernel
  have hfield : (unitsOf? (gauge ⟨.object [("multiplier", .number "1e999")]⟩)).map
      (List.map (·.spec.multiplier)) = some [one] := by decide +kernel
  obtain ⟨bare, hbare, heq⟩ := Option.map_eq_some_iff.1 hbare
  obtain ⟨u, rfl, hu⟩ := List.map_eq_singleton_iff.1 heq
  obtain ⟨fields, hfield, heq⟩ := Option.map_eq_some_iff.1 hfield
  obtain ⟨v, rfl, hv⟩ := List.map_eq_singleton_iff.1 heq
  have hread : Json.parse? "1e999" = some (.number "1e999") := by rfl
  exact ⟨by rw [Node.parse?, hread]; rfl, ⟨u, hbare, by rw [hu]; rfl, by rw [hu]; decide⟩, v, hfield,
    hv⟩

end Units
end Shapewright
