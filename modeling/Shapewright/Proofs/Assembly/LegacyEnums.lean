import Shapewright.Proofs.Assembly.Imported

/-!
# Enumerations that are written as a trait

An old string shape lists its constants in a trait.  When such a shape is imported they become its
members, which are known by their names: a constant that has none is named after its value.  Two
values can lead to the same name, and one can lead to a name that another constant has been given;
then the later constant takes the place of the earlier one, whose value is lost.

* `Assembly.constantName`, `Assembly.constantMember` — what becomes of a constant.
* `Assembly.memberList_importLegacyEnum` — the members, of which the last one of a name counts.
* `Assembly.enumValues_eq_iff` — no value is lost exactly if no two names are the same.
* `Assembly.importShape_constants` — the payoff.
-/

set_option autoImplicit false

namespace Shapewright
namespace Assembly

/-! ## Constants -/

/-- The constants that traits list. -/
def constants (traits : Traits) : List Node :=
  ((Traits.get? traits Trait.enum).map Node.items).getD []

/-- What a constant stands for. -/
def constantValue (item : Node) : String := item.fieldString "value"

/-- The name of a constant: the one that it is given, or one that is made of its value. -/
def constantName (item : Node) : String :=
  if item.fieldString "name" == "" then Naming.constant (constantValue item)
  else item.fieldString "name"

/-- The traits of the member for a constant. -/
def constantTraits (item : Node) : Traits :=
  let traits : Traits := OrderedMap.insert {} Trait.enumValue (some (.ofString (constantValue item)))
  let doc := item.fieldString "documentation"
  if doc == "" then traits else OrderedMap.insert traits Trait.documentation (some (.ofString doc))

/-- The member for a constant. -/
def constantMember (container : ShapeId) (item : Node) : Member :=
  { name := constantName item, container, target := ShapeId.unit, traits := constantTraits item }

theorem enumValue_constantMember (container : ShapeId) (item : Node) :
    (constantMember container item).enumValue = .ofString (constantValue item) := by
  have htrait : Traits.get? (constantTraits item) Trait.enumValue =
      some (.ofString (constantValue item)) := by
    have hne : Trait.enumValue ≠ Trait.documentation := by decide
    rw [constantTraits]
    split <;> simp [Traits.get?, hne]
  rw [Member.enumValue, constantMember, htrait, Option.getD_some]

/-! ## Members -/

variable {shape : Shape}

/-- Members are added one after the other. -/
theorem importLegacyEnum_eq (shape : Shape) : importLegacyEnum shape =
    { shape with members := shape.members.insertAll ((constants shape.traits).map fun item =>
        (constantName item, constantMember shape.id item)) } := by
  have hstep (items : List Node) (shape : Shape) :
      items.foldl (fun shape item =>
        shape.addMember (constantName item) .unit (constantTraits item)) shape =
        { shape with members := shape.members.insertAll (items.map fun item =>
          (constantName item, constantMember shape.id item)) } := by
    induction items generalizing shape with
    | nil => rfl
    | cons item items ih =>
      rw [List.foldl_cons, ih]
      rfl
  exact hstep (constants shape.traits) shape

/-- **The members** have the names of the constants, and the last constant of a name counts. -/
theorem memberList_importLegacyEnum (h : shape.members = {}) :
    (importLegacyEnum shape).memberList =
      (Text.firstBy id ((constants shape.traits).map constantName)).filterMap fun name =>
        ((constants shape.traits).reverse.find? (constantName · == name)).map
          (constantMember shape.id) := by
  rw [importLegacyEnum_eq, Shape.memberList, h, OrderedMap.values,
    (OrderedMap.tidy_empty.insertAll _).2]
  rw [List.map_map]
  refine List.filterMap_congr fun name _ => ?_
  rw [OrderedMap.get?_insertAll, ← List.map_reverse, OrderedMap.lookup_map, OrderedMap.get?_empty,
    Option.or_none]

/-- There are as many members as there are names. -/
theorem length_memberList_importLegacyEnum (h : shape.members = {}) :
    (importLegacyEnum shape).memberList.length =
      (Text.firstBy id ((constants shape.traits).map constantName)).length := by
  obtain ⟨htidy, hkeys⟩ := (OrderedMap.tidy_empty (α := Member)).insertAll
    ((constants shape.traits).map fun item => (constantName item, constantMember shape.id item))
  rw [importLegacyEnum_eq, Shape.memberList, h, OrderedMap.values_eq_map_toList, List.length_map,
    ← List.length_map (·.1), htidy.coherent.map_fst_toList, hkeys, List.map_map]
  rfl

/-- **No value is lost**, and each is in the place of its constant, exactly if no two constants have
the same name. -/
theorem enumValues_eq_iff (h : shape.members = {}) :
    (importLegacyEnum shape).memberList.map Member.enumValue =
        (constants shape.traits).map (fun item => .ofString (constantValue item)) ↔
      ((constants shape.traits).map constantName).Nodup := by
  constructor
  · intro heq
    have hlength := congrArg List.length heq
    rw [List.length_map, length_memberList_importLegacyEnum h, List.length_map] at hlength
    have hsublist := Text.firstBy_sublist id ((constants shape.traits).map constantName)
    rw [← hsublist.eq_of_length (by rw [hlength, List.length_map])]
    exact Text.nodup_firstBy_id _
  · intro hnodup
    rw [importLegacyEnum_eq, Shape.memberList, h, OrderedMap.values_eq_map_toList,
      OrderedMap.toList_insertAll_of_nodup (by simpa [Function.comp_def] using hnodup)]
    simp [Function.comp_def, enumValue_constantMember]

/-! ## From an assembly on -/

variable {s : ShapeDef Nat}

/-- A string with constants becomes an enumeration; nothing can go wrong. -/
theorem importShape_of_string (a : Assembly) (key : String) {traits : Traits}
    (htype : s.type = "string") (htraits : s.traits = some traits) (henum : traits.has Trait.enum = true) :
    importShape a key s = pure (importLegacyEnum { id := ⟨key⟩, kind := .enum, traits }) := by
  have hkind : kindOf key s = .ok .enum := by
    simp [kindOf, htype, htraits, henum]
  rw [importShape, hkind]
  simp only [htype, htraits]
  rfl

/-- **Constants of an old string shape.** The shape is imported as an enumeration, in every catalog
that is made of the assembly. Its members are named for the constants, each once, and stand for the
last constant of their name. They stand for all values, in the order of the constants, exactly if
the names are different, where a constant without a name counts with the one that is made of its
value. -/
theorem importShape_constants (a : Assembly) (key : String) {traits : Traits}
    (htype : s.type = "string") (htraits : s.traits = some traits) (henum : traits.has Trait.enum = true) :
    ∃ r : Shape, (importShape a key s).run = (.ok r, []) ∧ r.kind = .enum ∧
      (∀ c, a.toCatalog.run.1 = .ok c → key ∈ a.ids → a.shape? key = some s →
        c.find? ⟨key⟩ = some r) ∧
      r.memberList = (Text.firstBy id ((constants traits).map constantName)).filterMap (fun name =>
        ((constants traits).reverse.find? (constantName · == name)).map (constantMember ⟨key⟩)) ∧
      (r.memberList.map Member.enumValue =
          (constants traits).map (fun item => .ofString (constantValue item)) ↔
        ((constants traits).map constantName).Nodup) := by
  have himport := importShape_of_string a key htype htraits henum
  let shape : Shape := { id := ⟨key⟩, kind := .enum, traits }
  have hmembers : shape.members = {} := rfl
  refine ⟨importLegacyEnum shape, ?_, ?_, fun c hc hkey hs => ?_,
    memberList_importLegacyEnum hmembers, enumValues_eq_iff hmembers⟩
  · rw [himport]
    rfl
  · rw [importLegacyEnum_eq]
  · obtain ⟨r, hr, hfind⟩ := Catalog.find?_of_gives ⟨[], hc⟩ hkey hs
    rw [himport] at hr
    rw [hfind, Noting.gives_pure_iff.1 hr]

/-- Constants: values and the names that they are given. -/
def toneTraits (items : List (String × String)) : Traits :=
  Traits.addAll {} [(Trait.enum, ⟨.array (items.map fun (value, name) =>
    .object [("name", .string name), ("value", .string value)])⟩)]

/-- A constant without a name beside one with a name. -/
theorem importShape_constants_tones :
    ∃ r : Shape, (importShape {} "ex#Tone"
        { type := "string"
          traits := some (toneTraits [("dark-blue", ""), ("dark_blue", "NAVY")]) }).run =
        (.ok r, []) ∧
      r.memberList.map (·.name) = ["DARK_BLUE", "NAVY"] ∧
      r.memberList.map Member.enumValue = [.ofString "dark-blue", .ofString "dark_blue"] := by
  obtain ⟨r, hr, -, -, hmembers, henum⟩ := importShape_constants {} "ex#Tone"
    (s := { type := "string"
            traits := some (toneTraits [("dark-blue", ""), ("dark_blue", "NAVY")]) })
    rfl rfl (by decide)
  refine ⟨r, hr, ?_, henum.2 (by decide)⟩
  rw [hmembers]
  decide

/-- Two constants without names, whose values differ in a separator. -/
def likeTones : Traits := toneTraits [("dark-blue", ""), ("dark_blue", "")]

/-- **Two values that differ in a separator** lead to the same name, and the first of them is lost.
-/
theorem not_enumValues_tones :
    ¬ ∀ (a : Assembly) (key : String) (s : ShapeDef Nat) (traits : Traits) (r : Shape),
      s.type = "string" → s.traits = some traits → traits.has Trait.enum = true →
      ((constants traits).map constantValue).Nodup →
      (((constants traits).map (·.fieldString "name")).filter (· != "")).Nodup →
      (importShape a key s).run = (.ok r, []) →
      r.memberList.map Member.enumValue =
        (constants traits).map fun item => .ofString (constantValue item) := by
  intro h
  have himport : (importShape {} "ex#Tone" { type := "string", traits := some likeTones }).run =
      (.ok (importLegacyEnum { id := ⟨"ex#Tone"⟩, kind := .enum, traits := likeTones }), []) := by
    rw [importShape_of_string {} _ rfl rfl (by decide)]
    rfl
  have hvalues := h {} "ex#Tone" { type := "string", traits := some likeTones } likeTones _ rfl rfl
    (by decide) (by decide) (by decide) himport
  have hsame : ¬ ((constants likeTones).map constantName).Nodup := by decide +kernel
  exact hsame ((enumValues_eq_iff rfl).1 hvalues)

end Assembly
end Shapewright
