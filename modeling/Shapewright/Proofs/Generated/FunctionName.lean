import Mathlib.Data.List.Nodup

/-!
# Names of generated functions

All functions of a package share one scope, and their names are put together from the names of types,
services and operations: some put a word in front, some behind, some both.  So a name can be read in
two ways, and this file says in which.

* `FunctionName` — a function by what it is for; `FunctionName.text` is its name.
* `FunctionName.Clash` — the pairs of functions that have one name in spite of what they are for.
* `FunctionName.text_eq_text_iff` — there are no others.
-/

set_option autoImplicit false

namespace Shapewright

/-- A function that is declared in a package. -/
inductive FunctionName where
  /-- It makes a value of a structure or union from the fields. -/
  | new (type : String)
  /-- It reads a structure or union from a document. -/
  | fromJson (type : String)
  /-- It reads an enumeration or a quantity from text. -/
  | parse (type : String)
  /-- It looks a unit up. -/
  | find (type : String)
  /-- It makes the handler of a service. -/
  | handler (service : String)
  /-- It binds the input of an operation. -/
  | bind (operation : String)
  deriving DecidableEq, Repr

namespace FunctionName

/-- The name itself. -/
def text : FunctionName → String
  | new type => "New" ++ type
  | fromJson type => type ++ "FromJSON"
  | parse type => "Parse" ++ type
  | find type => "Find" ++ type
  | handler service => "New" ++ service ++ "Handler"
  | bind operation => "bind" ++ operation ++ "Input"

/-- Functions for different things that have one name: `NewWindFromJSON` makes a `WindFromJSON` and
reads a `NewWind`, and `NewWindHandler` makes a `WindHandler` and the handler of `Wind`. -/
inductive Clash : FunctionName → FunctionName → Prop where
  | new (name : String) : Clash (new (name ++ "FromJSON")) (fromJson ("New" ++ name))
  | parse (name : String) : Clash (parse (name ++ "FromJSON")) (fromJson ("Parse" ++ name))
  | find (name : String) : Clash (find (name ++ "FromJSON")) (fromJson ("Find" ++ name))
  | handler (service : String) : Clash (new (service ++ "Handler")) (handler service)

variable {a b : FunctionName}

theorem Clash.text_eq (h : Clash a b) : a.text = b.text := by
  cases h <;> simp only [text, String.append_assoc]

/-- The name that the function's name is made from. -/
def subject : FunctionName → String
  | new name | fromJson name | parse name | find name | handler name | bind name => name

/-- Functions for one thing never clash: what they put around its name differs in length. -/
theorem Clash.subject_ne (h : Clash a b) : a.subject ≠ b.subject := by
  intro heq
  have hlength := congrArg String.length heq
  have hFromJson : "FromJSON".length = 8 := by decide
  have hHandler : "Handler".length = 7 := by decide
  have hNew : "New".length = 3 := by decide
  have hParse : "Parse".length = 5 := by decide
  have hFind : "Find".length = 4 := by decide
  cases h <;> simp only [subject, String.length_append] at hlength <;> omega

/-! ## How names begin and end -/

/-- The character that a name begins with, where that is fixed. -/
def initial? : FunctionName → Option Char
  | new _ | handler _ => some 'N'
  | parse _ => some 'P'
  | find _ => some 'F'
  | bind _ => some 'b'
  | fromJson _ => none

/-- The character that a name ends with, where that is fixed. -/
def final? : FunctionName → Option Char
  | fromJson _ => some 'N'
  | handler _ => some 'r'
  | bind _ => some 't'
  | new _ | parse _ | find _ => none

theorem head?_text {c : Char} (h : a.initial? = some c) : a.text.toList.head? = some c := by
  cases a <;> cases h <;> simp only [text, String.toList_append] <;> rfl

theorem getLast?_text {c : Char} (h : a.final? = some c) : a.text.toList.getLast? = some c := by
  cases a <;> cases h <;> simp only [text, String.toList_append, List.getLast?_append] <;> rfl

theorem initial_eq (h : a.text = b.text) {c d : Char} (ha : a.initial? = some c)
    (hb : b.initial? = some d) : c = d :=
  Option.some.inj ((head?_text ha).symm.trans (h ▸ head?_text hb))

theorem final_eq (h : a.text = b.text) {c d : Char} (ha : a.final? = some c)
    (hb : b.final? = some d) : c = d :=
  Option.some.inj ((getLast?_text ha).symm.trans (h ▸ getLast?_text hb))

/-- A text that begins with one word and ends with another, neither of which reaches into the other,
has a name between them. -/
theorem exists_of_append_eq {front back x y : String} {c : Char}
    (hlast : front.toList.getLast? = some c) (hc : c ∉ back.toList) (h : front ++ x = y ++ back) :
    ∃ name, x = name ++ back ∧ y = front ++ name := by
  have hlist : front.toList ++ x.toList = y.toList ++ back.toList := by
    rw [← String.toList_append, h, String.toList_append]
  rcases List.append_eq_append_iff.1 hlist with ⟨name, hy, hx⟩ | ⟨common, hfront, hback⟩
  · refine ⟨String.ofList name, ?_, ?_⟩
    · rw [← String.toList_inj, String.toList_append, String.toList_ofList, hx]
    · rw [← String.toList_inj, String.toList_append, String.toList_ofList, hy]
  · -- What the words have in common would hold the last character of the first.
    have hcommon : common = [] := by
      by_contra hne
      rw [hfront, List.getLast?_append_of_ne_nil _ hne] at hlast
      exact hc (hback ▸ List.mem_append_left _ (List.mem_of_getLast? hlast))
    subst hcommon
    refine ⟨"", ?_, ?_⟩
    · rw [String.empty_append, ← String.toList_inj, hback, List.nil_append]
    · rw [String.append_empty, ← String.toList_inj, hfront, List.append_nil]

/-! ## Equal names -/

theorem eq_or_clash_of_fromJson {type : String} (h : a.text = (fromJson type).text) :
    a = fromJson type ∨ Clash a (fromJson type) := by
  cases a with
  | new x =>
    obtain ⟨name, rfl, rfl⟩ := exists_of_append_eq (c := 'w') (by decide) (by decide) h
    exact .inr (.new name)
  | parse x =>
    obtain ⟨name, rfl, rfl⟩ := exists_of_append_eq (c := 'e') (by decide) (by decide) h
    exact .inr (.parse name)
  | find x =>
    obtain ⟨name, rfl, rfl⟩ := exists_of_append_eq (c := 'd') (by decide) (by decide) h
    exact .inr (.find name)
  | fromJson x => exact .inl (congrArg fromJson ((String.append_left_inj _).1 h))
  | handler x => exact absurd (final_eq h rfl rfl) (by decide)
  | bind x => exact absurd (final_eq h rfl rfl) (by decide)

theorem eq_or_clash_of_handler {service : String} (h : a.text = (handler service).text) :
    a = handler service ∨ Clash a (handler service) := by
  cases a with
  | new x =>
    rw [text, text, String.append_assoc] at h
    obtain rfl := (String.append_right_inj _).1 h
    exact .inr (.handler service)
  | handler x =>
    exact .inl (congrArg handler ((String.append_right_inj _).1 ((String.append_left_inj _).1 h)))
  | parse x => exact absurd (initial_eq h rfl rfl) (by decide)
  | find x => exact absurd (initial_eq h rfl rfl) (by decide)
  | fromJson x => exact absurd (final_eq h rfl rfl) (by decide)
  | bind x => exact absurd (initial_eq h rfl rfl) (by decide)

/-- **Two functions have one name** only if they are for the same thing, or clash. -/
theorem text_eq_text_iff : a.text = b.text ↔ a = b ∨ Clash a b ∨ Clash b a := by
  refine ⟨fun h => ?_, ?_⟩
  · cases b with
    | fromJson y => exact (eq_or_clash_of_fromJson h).imp_right .inl
    | handler y => exact (eq_or_clash_of_handler h).imp_right .inl
    | _ =>
      cases a with
      | fromJson x => exact (eq_or_clash_of_fromJson h.symm).imp Eq.symm .inr
      | handler x => exact (eq_or_clash_of_handler h.symm).imp Eq.symm .inr
      | _ =>
        -- The words in front tell the others apart.
        first
          | exact absurd (initial_eq h rfl rfl) (by decide)
          | exact .inl (congrArg _ ((String.append_right_inj _).1 h))
          | exact .inl (congrArg _ ((String.append_right_inj _).1 ((String.append_left_inj _).1 h)))
  · rintro (rfl | h | h)
    · rfl
    · exact h.text_eq
    · exact h.text_eq.symm

/-! ## The functions for one type -/

/-- The functions that there may be for a type. -/
def ofType (type : String) : List FunctionName := [new type, fromJson type, parse type, find type]

theorem subject_of_mem_ofType {type : String} (h : a ∈ ofType type) : a.subject = type := by
  simp only [ofType, List.mem_cons, List.not_mem_nil, or_false] at h
  rcases h with rfl | rfl | rfl | rfl <;> rfl

theorem nodup_map_text_ofType (type : String) : ((ofType type).map text).Nodup := by
  rw [List.nodup_map_iff_inj_on (by simp [ofType])]
  intro a ha b hb h
  have hsubject := (subject_of_mem_ofType ha).trans (subject_of_mem_ofType hb).symm
  rcases text_eq_text_iff.1 h with h | h | h
  · exact h
  · exact absurd hsubject h.subject_ne
  · exact absurd hsubject.symm h.subject_ne

end FunctionName
end Shapewright
