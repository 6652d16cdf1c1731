import Shapewright.Proofs.Failure
import Shapewright.Proofs.Text.Distinct
import Shapewright.Proofs.Text.Quoted
import Shapewright.Units.Methods

/-!
# Looking up units

The table by which units are recognised is written as a map, and a map has no order: whoever looks
up a text may meet the entries in any.  The result is still one, because the table holds one text for
every key under which texts are compared, and the entry of a key belongs to the first unit that has
a text with it.

* `Code.Expr.table?` — the table that a literal spells.
* `Units.Unit.Answers` — a unit is meant by a text.
* `Units.fuzzyMatch?_eq_findSome?` — a lookup in any order is a search through the units in theirs.
* `Units.unitEnum_lookup` — the whole, for the function that is declared with an enumeration.

Nothing is known here of the key itself, `Units.fuzzyKey`.
-/

set_option autoImplicit false

namespace Shapewright

namespace Code.Expr

/-- An entry of a table: a quoted text with the name of a constant. -/
def entry? : String × Expr → Option (String × String)
  | (key, .ident name) => (Text.unquote? key).map fun text => (text, name)
  | _ => none

/-- The table that a composite literal spells. -/
def table? : Expr → Option (List (String × String))
  | .composite _ fields => fields.mapM entry?
  | _ => none

theorem table?_composite (type : String) (table : List (String × String)) :
    table? (.composite type (table.map fun e => (Text.quote e.1, .ident e.2))) = some table := by
  induction table with
  | nil => rfl
  | cons e table ih =>
    rw [table?] at ih ⊢
    rw [List.map_cons, List.mapM_cons, ih, entry?, Text.unquote?_quote]
    rfl

end Code.Expr

namespace Units

/-- A unit is meant by a text: its name, its value or one of its abbreviations is not empty and
means the same. -/
def Unit.Answers (u : Unit) (token : String) : Prop :=
  ∃ own, (own = u.name ∨ own = u.value ∨ own ∈ u.abbreviations) ∧ own ≠ "" ∧
    fuzzyKey own = fuzzyKey token

/-- What the texts of a unit stand for under a key. -/
def Unit.find? (u : Unit) (key : String) : Option String :=
  ((u.tokens.map fun own => (own, u.constant)).find? fun e => fuzzyKey e.1 == key).map (·.2)

variable {u : Unit} {units : List Unit} {token constant : String}

theorem Unit.answers_iff : u.Answers token ↔ ∃ own ∈ u.tokens, fuzzyKey own = fuzzyKey token := by
  refine exists_congr fun own => ?_
  rw [tokens, List.mem_filter, List.mem_cons, List.mem_cons, bne_iff_ne, and_assoc]

theorem Unit.find?_eq_none_iff : u.find? (fuzzyKey token) = none ↔ ¬ u.Answers token := by
  rw [Unit.answers_iff, find?, Option.map_eq_none_iff, List.find?_eq_none]
  simp

theorem Unit.find?_eq_some_iff :
    u.find? (fuzzyKey token) = some constant ↔ u.Answers token ∧ u.constant = constant := by
  constructor
  · intro h
    have hanswers : u.Answers token := by
      by_contra hno
      rw [Unit.find?_eq_none_iff.2 hno] at h
      cases h
    obtain ⟨e, he, rfl⟩ := Option.map_eq_some_iff.1 h
    obtain ⟨own, -, rfl⟩ := List.mem_map.1 (List.mem_of_find?_eq_some he)
    exact ⟨hanswers, rfl⟩
  · rintro ⟨hanswers, rfl⟩
    obtain ⟨c, hc⟩ := Option.ne_none_iff_exists'.1 (mt Unit.find?_eq_none_iff.1 (not_not.2 hanswers))
    obtain ⟨e, he, rfl⟩ := Option.map_eq_some_iff.1 hc
    obtain ⟨own, -, rfl⟩ := List.mem_map.1 (List.mem_of_find?_eq_some he)
    exact hc

/-- **In any order** of the table, a text is looked up as if the units were asked one after the
other. -/
theorem fuzzyMatch?_eq_findSome? {order : List (String × String)}
    (h : order.Perm (lookupTable units)) (token : String) :
    fuzzyMatch? token order = units.findSome? (Unit.find? · (fuzzyKey token)) := by
  rw [fuzzyMatch?, Text.find?_of_perm_firstBy h, List.find?_flatMap, List.map_findSome?]
  rfl

/-- What a unit takes from the member that declares it. -/
theorem of_unitOf? {s : Shape} {m : Member} (h : unitOf? s m = some u) :
    u.constant = constantName s m.name ∧ u.name = m.name ∧ u.value = m.enumValue.asString := by
  obtain ⟨trait, -, h⟩ := Option.bind_eq_some_iff.1 h
  obtain ⟨⟨spec, abbreviations⟩, -, h⟩ := Option.bind_eq_some_iff.1 h
  dsimp only at h
  split at h
  · cases h
  · rw [← Option.some.inj h]
    exact ⟨rfl, rfl, rfl⟩

/-- The units are those of the members, in the order in which these are declared. -/
theorem map_unitsOf? {s : Shape} (h : unitsOf? s = some units) :
    units.map (fun u => (u.constant, u.name, u.value))
      = s.memberList.map fun m => (constantName s m.name, m.name, m.enumValue.asString) := by
  rw [unitsOf?] at h
  split at h
  · cases h
  · have hread := Outcome.forall₂_of_mapM_eq_some h
    generalize s.memberList = ms at hread
    clear h
    induction hread with
    | nil => rfl
    | cons hunit _ ih =>
      obtain ⟨hconstant, hname, hvalue⟩ := of_unitOf? hunit
      rw [List.map_cons, List.map_cons, hconstant, hname, hvalue, ih]

/-- **Looking up a unit** of an enumeration does not depend on the order of its table. The function
that is declared for it passes a table in which no two texts mean the same; in whatever order the
table is searched, a text gives the constant of the first unit that answers to it, in the order in
which the units are declared, and nothing if there is none. -/
theorem unitEnum_lookup {r : Record} {units : List Unit} (h : unitsOf? r.shape = some units) :
    units.map (fun u => (u.constant, u.name, u.value))
        = r.shape.memberList.map (fun m =>
          (constantName r.shape m.name, m.name, m.enumValue.asString)) ∧
      ∃ methods find literal table, Contributor.unitEnum.methods? r = some methods ∧ find ∈ methods ∧
        find.name = "Find" ++ r.typeName ∧
        find.body = [.ret [supportCall "FuzzyMatch" [.ident "token", literal]]] ∧
        literal.table? = some table ∧ (table.map fun e => fuzzyKey e.1).Nodup ∧
        ∀ token order, order.Perm table →
          (∀ constant, fuzzyMatch? token order = some constant ↔
            ∃ front u back, units = front ++ u :: back ∧ u.constant = constant ∧
              u.Answers token ∧ ∀ v ∈ front, ¬ v.Answers token) ∧
          (fuzzyMatch? token order = none ↔ ∀ u ∈ units, ¬ u.Answers token) := by
  refine ⟨map_unitsOf? h, _, findFunction r.typeName units, _, lookupTable units,
    by rw [Contributor.methods?, h, Option.map_some], by simp [enumMethods], rfl, rfl,
    Code.Expr.table?_composite _ _, Text.nodup_map_firstBy _ _, fun token order horder => ?_⟩
  rw [fuzzyMatch?_eq_findSome? horder]
  constructor
  · intro constant
    rw [List.findSome?_eq_some_iff]
    simp only [Unit.find?_eq_none_iff, Unit.find?_eq_some_iff]
    constructor
    · rintro ⟨front, u, back, hunits, ⟨hanswers, hconstant⟩, hfront⟩
      exact ⟨front, u, back, hunits, hconstant, hanswers, hfront⟩
    · rintro ⟨front, u, back, hunits, hconstant, hanswers, hfront⟩
      exact ⟨front, u, back, hunits, ⟨hanswers, hconstant⟩, hfront⟩
  · simp only [List.findSome?_eq_none_iff, Unit.find?_eq_none_iff]

/-- An enumeration of two lengths that share an abbreviation, but for its case. -/
def lengths : Record :=
  let enum : Shape := { id := ⟨"ex#Length"⟩, kind := .enum }
  let units (fields : List (String × Json)) : Traits :=
    OrderedMap.insert {} "ex#units" (some ⟨.object fields⟩)
  let metre := enum.addMember "METER" ⟨"smithy.api#Unit"⟩ (units
    [("abbreviations", .array [.string "m"])])
  let mile := metre.addMember "MILE" ⟨"smithy.api#Unit"⟩ (units
    [("abbreviations", .array [.string "M", .string "mi"]), ("multiplier", .number "1609.344")])
  { shape := mile, fields := [] }

theorem unitsOf?_lengths : ∃ u v, unitsOf? lengths.shape = some [u, v] ∧
    u.constant = "LengthMeter" ∧ u.tokens = ["METER", "METER", "m"] ∧
    v.tokens = ["MILE", "MILE", "M", "mi"] := by
  have hread : (unitsOf? lengths.shape).map (fun units => units.map fun u => (u.constant, u.tokens))
      = some [("LengthMeter", ["METER", "METER", "m"]),
        ("LengthMile", ["MILE", "MILE", "M", "mi"])] := by decide +kernel
  obtain ⟨units, hunits, hread⟩ := Option.map_eq_some_iff.1 hread
  obtain ⟨u, rest, rfl, hu, hrest⟩ := List.map_eq_cons_iff.1 hread
  obtain ⟨v, rfl, hv⟩ := List.map_eq_singleton_iff.1 hrest
  exact ⟨u, v, hunits, congrArg Prod.fst hu, congrArg Prod.snd hu, congrArg Prod.snd hv⟩

/-- The abbreviation is that of the first of the two, whatever its case. -/
theorem unitEnum_lookup_lengths :
    (unitsOf? lengths.shape).isSome ∧ ∃ find ∈ Contributor.contribute [.unitEnum] lengths,
      ∃ literal table, find.body = [.ret [supportCall "FuzzyMatch" [.ident "token", literal]]] ∧
        literal.table? = some table ∧ ∀ order, order.Perm table →
          fuzzyMatch? "M" order = some "LengthMeter" ∧ fuzzyMatch? "yard" order = none := by
  obtain ⟨u, v, hunits, hconstant, hu, hv⟩ := unitsOf?_lengths
  obtain ⟨-, methods, find, literal, table, hmethods, hfind, -, hbody, htable, -, hlookup⟩ :=
    unitEnum_lookup hunits
  refine ⟨by rw [hunits]; rfl, find, by simp [Contributor.contribute, hmethods, hfind], literal,
    table, hbody, htable, fun order horder => ⟨?_, ?_⟩⟩
  · refine ((hlookup "M" order horder).1 "LengthMeter").2 ⟨[], u, [v], rfl, hconstant, ?_, by simp⟩
    exact Unit.answers_iff.2 ⟨"m", by simp [hu], by decide +kernel⟩
  · refine (hlookup "yard" order horder).2.2 ?_
    simp only [List.forall_mem_cons, List.not_mem_nil, false_imp_iff, implies_true, and_true,
      Unit.answers_iff, hu, hv]
    decide +kernel

end Units
end Shapewright
