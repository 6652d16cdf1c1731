import Shapewright.Proofs.Json.Spelling

/-!
# The grammar of documents

What a document may look like, said without a reader: which texts are texts of a value.  A value has
many of them, since white space may stand between any two tokens and a character of a string can be
written in several ways.

* `Json.WrittenAs` — the texts of a value, without white space around them.
* `Json.StartsWith` — a text that begins with a value, and goes on in any way.
* `Json.Reads` — what the readers take, with one lemma for one step of each of them; `Json.reads` —
  any number of steps.
* `Json.startsWith_of_value?` — what the reader of values takes is a text of the value that it
  returns.
* `Json.of_parse?` — so the numbers of a document that is read are spelled as numbers;
  `Json.parse?_of_compact` — and the value is known by the way it is written.
-/

set_option autoImplicit false

namespace Shapewright
namespace Json

/-! ## Texts of values -/

/-- White space, or nothing. -/
def Blank (cs : List Char) : Prop := ∀ c ∈ cs, isSpace c = true

/-- A text with white space around it. -/
def Padded (P : List Char → Prop) (cs : List Char) : Prop :=
  ∃ before inner after, Blank before ∧ P inner ∧ Blank after ∧ cs = before ++ inner ++ after

/-- Texts with commas between them; where there are none, white space is all there may be. -/
def Separated : List (List Char → Prop) → List Char → Prop
  | [], cs => Blank cs
  | [P], cs => P cs
  | P :: Ps, cs => ∃ first rest, P first ∧ Separated Ps rest ∧ cs = first ++ ',' :: rest

/-- The texts of a string. -/
def StringText (s : String) (cs : List Char) : Prop :=
  ∃ ps texts, List.Forall₂ Piece.Written ps texts ∧ s = String.ofList (characters ps) ∧
    cs = '"' :: (texts.flatten ++ ['"'])

/-- A name, a colon and a value. -/
def FieldText (key : String) (P : List Char → Prop) (cs : List Char) : Prop :=
  ∃ name value, Padded (StringText key) name ∧ Padded P value ∧ cs = name ++ ':' :: value

mutual

/-- The texts of a value. -/
def WrittenAs : Json → List Char → Prop
  | .null, cs => cs = "null".toList
  | .bool b, cs => cs = (if b then "true" else "false").toList
  | .number text, cs => cs = text.toList ∧ ∃ n : Spelling, cs = n.chars
  | .string s, cs => StringText s cs
  | .array items, cs => ∃ inner, Separated (itemTexts items) inner ∧ cs = '[' :: (inner ++ [']'])
  | .object fields, cs =>
    ∃ inner, Separated (fieldTexts fields) inner ∧ cs = '\x7b' :: (inner ++ ['\x7d'])

/-- The texts of the items of an array. -/
def itemTexts : List Json → List (List Char → Prop)
  | [] => []
  | v :: rest => Padded (WrittenAs v) :: itemTexts rest

/-- The texts of the fields of an object. -/
def fieldTexts : List (String × Json) → List (List Char → Prop)
  | [] => []
  | (key, v) :: rest => FieldText key (WrittenAs v) :: fieldTexts rest

end

/-- A text that begins with a value, white space aside. -/
def StartsWith (v : Json) (text : String) : Prop :=
  ∃ before cs rest, Blank before ∧ v.WrittenAs cs ∧ text.toList = before ++ cs ++ rest

/-! ## White space -/

theorem skipSpace_append {before : List Char} (h : Blank before) (cs : List Char) :
    skipSpace (before ++ cs) = skipSpace cs :=
  List.dropWhile_append_of_pos h

theorem exists_blank_append_skipSpace (cs : List Char) :
    ∃ before, Blank before ∧ cs = before ++ skipSpace cs :=
  ⟨cs.takeWhile isSpace, fun _ hc => List.mem_takeWhile_imp hc,
    List.takeWhile_append_dropWhile.symm⟩

/-- White space in front of a character that is looked for. -/
theorem exists_blank_of_skipSpace {cs rest : List Char} {c : Char} (h : skipSpace cs = c :: rest) :
    ∃ before, Blank before ∧ cs = before ++ c :: rest := by
  rw [← h]
  exact exists_blank_append_skipSpace cs

/-- White space in front of a text with white space around it. -/
theorem Padded.blank_append {P : List Char → Prop} {before cs : List Char} (hbefore : Blank before)
    (h : Padded P cs) : Padded P (before ++ cs) := by
  obtain ⟨before', inner, after, hbefore', hinner, hafter, rfl⟩ := h
  refine ⟨before ++ before', inner, after, ?_, hinner, hafter, by simp⟩
  exact List.forall_mem_append.2 ⟨hbefore, hbefore'⟩

theorem FieldText.blank_append {key : String} {P : List Char → Prop} {before cs : List Char}
    (hbefore : Blank before) (h : FieldText key P cs) : FieldText key P (before ++ cs) := by
  obtain ⟨name, value, hname, hvalue, rfl⟩ := h
  exact ⟨before ++ name, value, hname.blank_append hbefore, hvalue, by simp⟩

theorem Separated.append_left {P : List Char → Prop} {Ps : List (List Char → Prop)}
    {before cs : List Char} (hP : ∀ cs, P cs → P (before ++ cs)) (h : Separated (P :: Ps) cs) :
    Separated (P :: Ps) (before ++ cs) := by
  cases Ps with
  | nil => exact hP cs h
  | cons Q Ps =>
    obtain ⟨first, rest, hfirst, hrest, rfl⟩ := h
    exact ⟨before ++ first, rest, hP first hfirst, hrest, by simp⟩

/-- One more text in front of others. -/
theorem Separated.cons {P : List Char → Prop} {Ps : List (List Char → Prop)} {first rest : List Char}
    (hne : Ps ≠ []) (hfirst : P first) (h : Separated Ps rest) :
    Separated (P :: Ps) (first ++ ',' :: rest) := by
  cases Ps with
  | nil => exact absurd rfl hne
  | cons Q Ps => exact ⟨first, rest, hfirst, h, rfl⟩

/-! ## What is read -/

section

variable {cs rest : List Char}

/-- One more piece of a string. -/
theorem exists_texts_cons {p : Piece} {text : List Char} {ps : List Piece} (hp : p.Written text)
    (h : ∃ texts, List.Forall₂ Piece.Written ps texts ∧ cs = texts.flatten ++ '"' :: rest) :
    ∃ texts, List.Forall₂ Piece.Written (p :: ps) texts ∧
      text ++ cs = texts.flatten ++ '"' :: rest := by
  obtain ⟨texts, hps, rfl⟩ := h
  exact ⟨text :: texts, .cons hp hps, by simp⟩

theorem exists_texts_of_pieces? {ps : List Piece} (h : pieces? cs = some (ps, rest)) :
    ∃ texts, List.Forall₂ Piece.Written ps texts ∧ cs = texts.flatten ++ '"' :: rest := by
  fun_induction pieces? cs generalizing ps rest with
  | case1 =>
    cases h
    exact ⟨[], .nil, rfl⟩
  | case2 a b c d tail ih =>
    obtain ⟨n, hn, h⟩ := Option.bind_eq_some_iff.1 h
    obtain ⟨⟨ps, r⟩, hread, h⟩ := Option.bind_eq_some_iff.1 h
    cases h
    exact exists_texts_cons (.code hn) (ih hread)
  | case3 letter tail hu ih =>
    obtain ⟨c, hc, h⟩ := Option.bind_eq_some_iff.1 h
    obtain ⟨⟨ps, r⟩, hread, h⟩ := Option.bind_eq_some_iff.1 h
    cases h
    obtain ⟨front, back, heq, -⟩ := List.lookup_eq_some_iff.1 hc
    exact exists_texts_cons (.letter (by simp [heq])) (ih hread)
  | case4 => cases h
  | case5 c tail hquote _ _ _ hc =>
    rename_i ih
    obtain ⟨⟨ps, r⟩, hread, h⟩ := Option.bind_eq_some_iff.1 h
    cases h
    simp only [Bool.or_eq_true, decide_eq_true_eq, beq_iff_eq, not_or, Nat.not_lt] at hc
    exact exists_texts_cons (.char hquote hc.2 hc.1) (ih hread)
  | case6 => cases h

/-- A string that is read. -/
theorem stringText_of_string? {s : String} (h : string? cs = some (s, rest)) :
    ∃ text, StringText s text ∧ '"' :: cs = text ++ rest := by
  obtain ⟨⟨ps, r⟩, hread, h⟩ := Option.map_eq_some_iff.1 h
  cases h
  obtain ⟨texts, hwritten, rfl⟩ := exists_texts_of_pieces? hread
  exact ⟨_, ⟨ps, texts, hwritten, rfl, rfl⟩, by simp⟩

/-- A number that is read. -/
theorem writtenAs_of_number? {text : List Char} (h : number? cs = some (text, rest)) :
    (Json.number (String.ofList text)).WrittenAs text ∧ cs = text ++ rest := by
  obtain ⟨n, hn⟩ := exists_spelling h
  exact ⟨⟨String.toList_ofList.symm, n, hn⟩, (number?_append stops_nil h).2⟩

end

/-- What has been read of a text: a value that is written in it, and what follows. -/
def Taken (v : Json) (cs rest : List Char) : Prop :=
  ∃ before text, Blank before ∧ v.WrittenAs text ∧ cs = before ++ (text ++ rest)

/-- A value that is read, up to the next character that is no white space. -/
theorem Taken.padded {v : Json} {cs rest rest' : List Char} {c : Char} (h : Taken v cs rest)
    (hrest : skipSpace rest = c :: rest') :
    ∃ inner, Padded v.WrittenAs inner ∧ cs = inner ++ c :: rest' := by
  obtain ⟨before, text, hbefore, htext, rfl⟩ := h
  obtain ⟨after, hafter, rfl⟩ := exists_blank_of_skipSpace hrest
  exact ⟨_, ⟨before, text, after, hbefore, htext, hafter, rfl⟩, by simp⟩

/-- A field that is read, up to the next character that is no white space. -/
theorem exists_fieldText {key : String} {v : Json} {cs tail afterKey value rest rest' : List Char}
    {c : Char} (hquote : skipSpace cs = '"' :: tail) (hkey : string? tail = some (key, afterKey))
    (hcolon : skipSpace afterKey = ':' :: value) (hvalue : Taken v value rest)
    (hrest : skipSpace rest = c :: rest') :
    ∃ field, FieldText key v.WrittenAs field ∧ cs = field ++ c :: rest' := by
  obtain ⟨before, hbefore, rfl⟩ := exists_blank_of_skipSpace hquote
  obtain ⟨name, hname, heq⟩ := stringText_of_string? hkey
  obtain ⟨after, hafter, rfl⟩ := exists_blank_of_skipSpace hcolon
  obtain ⟨inner, hinner, rfl⟩ := hvalue.padded hrest
  exact ⟨_, ⟨_, inner, ⟨before, name, after, hbefore, hname, hafter, rfl⟩, hinner, rfl⟩,
    by rw [heq]; simp⟩

theorem Separated.blank_itemTexts {items : List Json} {before inner : List Char} (hne : items ≠ [])
    (hbefore : Blank before) (h : Separated (itemTexts items) inner) :
    Separated (itemTexts items) (before ++ inner) := by
  cases items with
  | nil => exact absurd rfl hne
  | cons v items => exact h.append_left fun _ => Padded.blank_append hbefore

theorem Separated.blank_fieldTexts {fields : List (String × Json)} {before inner : List Char}
    (hne : fields ≠ []) (hbefore : Blank before) (h : Separated (fieldTexts fields) inner) :
    Separated (fieldTexts fields) (before ++ inner) := by
  cases fields with
  | nil => exact absurd rfl hne
  | cons e fields => exact h.append_left fun _ => FieldText.blank_append hbefore

theorem itemTexts_ne_nil {items : List Json} (h : items ≠ []) : itemTexts items ≠ [] := by
  cases items with
  | nil => exact absurd rfl h
  | cons v items => simp [itemTexts]

theorem fieldTexts_ne_nil {fields : List (String × Json)} (h : fields ≠ []) :
    fieldTexts fields ≠ [] := by
  cases fields with
  | nil => exact absurd rfl h
  | cons e fields => simp [fieldTexts]

theorem Separated.exists_of_mem {P : List Char → Prop} {Ps : List (List Char → Prop)} {cs : List Char}
    (h : Separated Ps cs) (hP : P ∈ Ps) : ∃ text, P text := by
  induction Ps generalizing cs with
  | nil => cases hP
  | cons Q Ps ih =>
    cases Ps with
    | nil =>
      obtain rfl := List.mem_singleton.1 hP
      exact ⟨cs, h⟩
    | cons R Ps =>
      obtain ⟨first, rest, hfirst, hrest, -⟩ := h
      rcases List.mem_cons.1 hP with rfl | hP
      · exact ⟨first, hfirst⟩
      · exact ih hrest hP

theorem mem_itemTexts {items : List Json} {v : Json} (hv : v ∈ items) :
    Padded v.WrittenAs ∈ itemTexts items := by
  induction items with
  | nil => cases hv
  | cons w items ih =>
    rw [itemTexts]
    rcases List.mem_cons.1 hv with rfl | hv
    · exact List.mem_cons_self
    · exact List.mem_cons_of_mem _ (ih hv)

theorem mem_fieldTexts {fields : List (String × Json)} {e : String × Json} (he : e ∈ fields) :
    FieldText e.1 e.2.WrittenAs ∈ fieldTexts fields := by
  induction fields with
  | nil => cases he
  | cons f fields ih =>
    rw [fieldTexts]
    rcases List.mem_cons.1 he with rfl | he
    · exact List.mem_cons_self
    · exact List.mem_cons_of_mem _ (ih he)

/-- Wherever a value is written, its numbers are numbers. -/
theorem WrittenAs.allNumbers {v : Json} {cs : List Char} (h : v.WrittenAs cs) :
    v.allNumbers isNumber = true := by
  induction v using induction generalizing cs with
  | null | bool | string => rfl
  | number text =>
    obtain ⟨htext, n, hn⟩ := h
    exact isNumber_iff.2 ⟨n, htext ▸ hn⟩
  | array items ih =>
    obtain ⟨inner, hinner, -⟩ := h
    refine allNumbersItems_iff.2 fun v hv => ?_
    obtain ⟨_, _, text, _, -, htext, -⟩ := hinner.exists_of_mem (mem_itemTexts hv)
    exact ih v hv htext
  | object fields ih =>
    obtain ⟨inner, hinner, -⟩ := h
    refine allNumbersFields_iff.2 fun e he => ?_
    obtain ⟨_, _, _, -, ⟨_, text, _, -, htext, -⟩, -⟩ := hinner.exists_of_mem (mem_fieldTexts he)
    exact ih e he htext

/-- What the readers of values, of items and of fields take, if they may take so many steps. They call
each other, so it is looked at together. -/
structure Reads (fuel : Nat) : Prop where
  value {cs v rest} : value? fuel cs = some (v, rest) → Taken v cs rest
  items {cs vs rest} : items? fuel cs = some (vs, rest) →
    vs ≠ [] ∧ ∃ inner, Separated (itemTexts vs) inner ∧ cs = inner ++ ']' :: rest
  fields {cs fs rest} : fields? fuel cs = some (fs, rest) →
    fs ≠ [] ∧ ∃ inner, Separated (fieldTexts fs) inner ∧ cs = inner ++ '\x7d' :: rest

section

variable {fuel : Nat} {cs rest : List Char}

/-- A value, by the character that it begins with. -/
theorem Reads.value_succ (ih : Reads fuel) {v : Json} (h : value? (fuel + 1) cs = some (v, rest)) :
    Taken v cs rest := by
  obtain ⟨before, hbefore, hcs⟩ := exists_blank_append_skipSpace cs
  suffices ∃ text, v.WrittenAs text ∧ skipSpace cs = text ++ rest by
    obtain ⟨text, htext, heq⟩ := this
    exact ⟨before, text, hbefore, htext, heq ▸ hcs⟩
  rw [value?] at h
  split at h
  · cases h
    exact ⟨_, rfl, by assumption⟩
  · cases h
    exact ⟨_, rfl, by assumption⟩
  · cases h
    exact ⟨_, rfl, by assumption⟩
  · rename_i heq
    obtain ⟨⟨s, r⟩, hs, h⟩ := Option.map_eq_some_iff.1 h
    cases h
    rw [heq]
    exact stringText_of_string? hs
  · rename_i tail heq
    rw [heq]
    obtain ⟨inside, hinside, htail⟩ := exists_blank_append_skipSpace tail
    split at h
    · rename_i hclose
      cases h
      exact ⟨_, ⟨inside, hinside, rfl⟩, by rw [htail, hclose]; simp⟩
    · obtain ⟨⟨vs, r⟩, hvs, h⟩ := Option.map_eq_some_iff.1 h
      cases h
      obtain ⟨hne, inner, hinner, heq'⟩ := ih.items hvs
      exact ⟨_, ⟨_, hinner.blank_itemTexts hne hinside, rfl⟩, by rw [htail, heq']; simp⟩
  · rename_i tail heq
    rw [heq]
    obtain ⟨inside, hinside, htail⟩ := exists_blank_append_skipSpace tail
    split at h
    · rename_i hclose
      cases h
      exact ⟨_, ⟨inside, hinside, rfl⟩, by rw [htail, hclose]; simp⟩
    · obtain ⟨⟨fs, r⟩, hfs, h⟩ := Option.map_eq_some_iff.1 h
      cases h
      obtain ⟨hne, inner, hinner, heq'⟩ := ih.fields hfs
      exact ⟨_, ⟨_, hinner.blank_fieldTexts hne hinside, rfl⟩, by rw [htail, heq']; simp⟩
  · obtain ⟨⟨t, r⟩, ht, h⟩ := Option.map_eq_some_iff.1 h
    cases h
    exact ⟨t, writtenAs_of_number? ht⟩

/-- Items, by what stands behind the first one. -/
theorem Reads.items_succ (ih : Reads fuel) {vs : List Json}
    (h : items? (fuel + 1) cs = some (vs, rest)) :
    vs ≠ [] ∧ ∃ inner, Separated (itemTexts vs) inner ∧ cs = inner ++ ']' :: rest := by
  rw [items?] at h
  obtain ⟨⟨v, r⟩, hv, h⟩ := Option.bind_eq_some_iff.1 h
  simp only at h
  split at h
  · rename_i hclose
    cases h
    obtain ⟨inner, hinner, rfl⟩ := (ih.value hv).padded hclose
    exact ⟨by simp, inner, hinner, rfl⟩
  · rename_i hcomma
    obtain ⟨⟨vs, r⟩, hvs, h⟩ := Option.bind_eq_some_iff.1 h
    cases h
    obtain ⟨first, hfirst, rfl⟩ := (ih.value hv).padded hcomma
    obtain ⟨hne, inner, hinner, rfl⟩ := ih.items hvs
    exact ⟨by simp, _, .cons (itemTexts_ne_nil hne) hfirst hinner, by simp⟩
  · cases h

/-- Fields, by what stands behind the first one. -/
theorem Reads.fields_succ (ih : Reads fuel) {fs : List (String × Json)}
    (h : fields? (fuel + 1) cs = some (fs, rest)) :
    fs ≠ [] ∧ ∃ inner, Separated (fieldTexts fs) inner ∧ cs = inner ++ '\x7d' :: rest := by
  rw [fields?] at h
  split at h
  · rename_i hquote
    obtain ⟨⟨key, r⟩, hkey, h⟩ := Option.bind_eq_some_iff.1 h
    simp only at h
    split at h
    · rename_i hcolon
      obtain ⟨⟨v, r⟩, hv, h⟩ := Option.bind_eq_some_iff.1 h
      have hfield {c : Char} {behind : List Char} (hr : skipSpace r = c :: behind) :=
        exists_fieldText hquote hkey hcolon (ih.value hv) hr
      simp only at h
      split at h
      · rename_i hclose
        cases h
        obtain ⟨field, hwritten, rfl⟩ := hfield hclose
        exact ⟨by simp, field, hwritten, rfl⟩
      · rename_i hcomma
        obtain ⟨⟨fs, r⟩, hfs, h⟩ := Option.bind_eq_some_iff.1 h
        cases h
        obtain ⟨field, hwritten, rfl⟩ := hfield hcomma
        obtain ⟨hne, inner, hinner, rfl⟩ := ih.fields hfs
        exact ⟨by simp, _, .cons (fieldTexts_ne_nil hne) hwritten hinner, by simp⟩
      · cases h
    · cases h
  · cases h

end

theorem reads (fuel : Nat) : Reads fuel := by
  induction fuel with
  | zero => exact ⟨by simp [value?], by simp [items?], by simp [fields?]⟩
  | succ fuel ih => exact ⟨ih.value_succ, ih.items_succ, ih.fields_succ⟩

/-- **What the reader of values takes** is a text of the value that it returns. -/
theorem startsWith_of_value? {fuel : Nat} {text : String} {v : Json} {rest : List Char}
    (h : value? fuel text.toList = some (v, rest)) : v.StartsWith text := by
  obtain ⟨before, cs, hbefore, hcs, htext⟩ := (reads fuel).value h
  exact ⟨before, cs, rest, hbefore, hcs, by rw [htext, List.append_assoc]⟩

/-- A document is a value that the reader takes, not nested too deep. -/
theorem exists_value?_of_parse? {text : String} {v : Json} (h : parse? text = some v) :
    v.nesting ≤ maxNesting ∧ ∃ fuel rest, value? fuel text.toList = some (v, rest) := by
  rw [parse?] at h
  split at h
  · rename_i w rest hfirst
    obtain ⟨⟨u, r⟩, hread, hfirst⟩ := Option.bind_eq_some_iff.1 hfirst
    simp only at hfirst
    split at hfirst
    · rename_i hnesting
      cases hfirst
      split at h
      · cases h
        exact ⟨hnesting, _, _, hread⟩
      · cases h
    · cases hfirst
  · cases h

/-- A document starts with its value. -/
theorem startsWith_of_parse? {text : String} {v : Json} (h : parse? text = some v) :
    v.StartsWith text := by
  obtain ⟨-, fuel, rest, hread⟩ := exists_value?_of_parse? h
  exact startsWith_of_value? hread

/-- A document that is read is not nested deeper than a reader takes, and its numbers are numbers. -/
theorem of_parse? {text : String} {v : Json} (h : parse? text = some v) :
    v.nesting ≤ maxNesting ∧ v.allNumbers isNumber = true := by
  obtain ⟨before, cs, rest, -, hcs, -⟩ := startsWith_of_parse? h
  exact ⟨(exists_value?_of_parse? h).1, hcs.allNumbers⟩

/-- What was read is known by the way it is written. -/
theorem parse?_of_compact {text : String} {v : Json} (hv : v.allNumbers isNumber = true)
    (h : (parse? text).map compact = some v.compact) : parse? text = some v := by
  obtain ⟨w, hw, hcompact⟩ := Option.map_eq_some_iff.1 h
  obtain ⟨hnesting, hnumbers⟩ := of_parse? hw
  have hread := parse?_compact hnumbers
  rw [if_pos hnesting, hcompact, parse?_compact hv] at hread
  split at hread
  · rw [hw, hread]
  · cases hread

/-- What is written for a value starts with it. -/
theorem startsWith_compact {v : Json} (h : v.allNumbers isNumber = true) :
    v.StartsWith (compact v) := by
  have hread := readBack v h _ [] stops_nil le_rfl
  rw [List.append_nil] at hread
  exact startsWith_of_value? hread

end Json
end Shapewright
