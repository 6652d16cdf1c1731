import Shapewright.Json.Token
import Shapewright.Proofs.Json.Skimming

/-!
# The keys of a document

A scanner that looks for the keys of an object passes over the values.  It does not build them, so
that it comes out behind a value has to be shown: every bracket it enters is left again, and nothing
in a string counts as a bracket.

* `Json.Skips` — a value that a scanner passes over, wherever it stands and whatever follows; a
  number that is out of range is the only thing in a value that stops it.
* `Json.Scanner.skipRest?_itemTexts`, `Json.Scanner.skipRest?_fieldTexts` — everything in brackets is
  passed over, if each value is.
* `Json.skips` — so every value is, by induction on how it is built.
* `Json.documentKeys?_object` — the keys of an object.
* `Json.documentKeys?_startsWith` — the texts that start with a value of any kind.
-/

set_option autoImplicit false

namespace Shapewright
namespace Json

/-! ## Strings and numbers as they are written -/

/-- A string is read up to its closing quote, whatever it is written with. -/
theorem StringText.exists_string? {s : String} {cs : List Char} (h : StringText s cs)
    (rest : List Char) : ∃ tail, cs ++ rest = '"' :: tail ∧ string? tail = some (s, rest) := by
  obtain ⟨ps, texts, hwritten, rfl, rfl⟩ := h
  refine ⟨texts.flatten ++ '"' :: rest, by simp, ?_⟩
  have hpieces : pieces? (texts.flatten ++ '"' :: rest) = some (ps, rest) := by
    induction hwritten with
    | nil => rfl
    | cons hp _ ih => rw [List.flatten_cons, List.append_assoc, hp.pieces?_append, ih]; rfl
  rw [string?, hpieces]
  rfl

/-- A number as it is written. -/
theorem WrittenAs.isNumber {text : String} {cs : List Char} (h : (number text).WrittenAs cs) :
    cs = text.toList ∧ isNumber text = true := by
  obtain ⟨rfl, n, hn⟩ := h
  exact ⟨rfl, isNumber_iff.2 ⟨n, hn⟩⟩

theorem simple?_of_isNumeral {c : Char} (h : isNumeral c = true) (tail : List Char) :
    simple? (c :: tail) = (number? (c :: tail)).bind fun (text, rest) =>
      if isInRange (String.ofList text) then some rest else none := by
  rw [simple?]
  all_goals
    intro _ heq
    rw [(List.cons.inj heq).1] at h
    exact absurd h (by decide)

/-- No value begins with white space, and only objects begin with a curly bracket. -/
theorem WrittenAs.exists_cons {v : Json} {cs : List Char} (h : v.WrittenAs cs) :
    ∃ c tail, cs = c :: tail ∧ isSpace c = false ∧ (c = '\x7b' → ∃ fields, v = object fields) := by
  cases v with
  | null => exact ⟨'n', _, h, by decide, by simp⟩
  | bool b =>
    cases b with
    | false => exact ⟨'f', _, h, by decide, by simp⟩
    | true => exact ⟨'t', _, h, by decide, by simp⟩
  | number text =>
    obtain ⟨rfl, hnumber⟩ := h.isNumber
    obtain ⟨c, tail, hc, hnumeral⟩ := head_of_isNumber hnumber
    refine ⟨c, tail, hc, isSpace_of_isNumeral hnumeral, ?_⟩
    rintro rfl
    exact absurd hnumeral (by decide)
  | string s =>
    obtain ⟨_, _, _, _, rfl⟩ := h
    exact ⟨_, _, rfl, by decide, by simp⟩
  | array items =>
    obtain ⟨_, _, rfl⟩ := h
    exact ⟨_, _, rfl, by decide, by simp⟩
  | object fields =>
    obtain ⟨_, _, rfl⟩ := h
    exact ⟨_, _, rfl, by decide, fun _ => ⟨fields, rfl⟩⟩

theorem WrittenAs.skipSpace_append {v : Json} {cs : List Char} (h : v.WrittenAs cs)
    (rest : List Char) : skipSpace (cs ++ rest) = cs ++ rest := by
  obtain ⟨c, tail, rfl, hc, -⟩ := h.exists_cons
  exact skipSpace_cons hc _

theorem FieldText.length_pos {key : String} {P : List Char → Prop} {field : List Char}
    (h : FieldText key P field) : 0 < field.length := by
  obtain ⟨name, value, -, -, rfl⟩ := h
  rw [List.length_append, List.length_cons]
  omega

/-- A number ends before white space and before what may follow a value. -/
theorem stops_blank {after : List Char} (h : Blank after) {c : Char} (hc : isNumeral c = false)
    (tail : List Char) : Stops (after ++ c :: tail) := by
  cases after with
  | nil => exact stops_cons hc tail
  | cons d after =>
    refine stops_cons ?_ _
    cases hd : isNumeral d with
    | false => rfl
    | true =>
      have hspace := h d List.mem_cons_self
      rw [isSpace_of_isNumeral hd] at hspace
      cases hspace

/-! ## The next token -/

namespace Scanner

variable {s : Scanner} {o : List Place} {r tail : List Char}

theorem proceed_comma_item (h : skipSpace r = ',' :: tail) :
    proceed ⟨.itemEnd, o, r⟩ = ⟨.item, o, tail⟩ := by
  simp [proceed, h]

theorem proceed_colon (h : skipSpace r = ':' :: tail) :
    proceed ⟨.keyEnd, o, r⟩ = ⟨.value, o, tail⟩ := by
  simp [proceed, h]

theorem proceed_comma_field (h : skipSpace r = ',' :: tail) :
    proceed ⟨.valueEnd, o, r⟩ = ⟨.key, o, tail⟩ := by
  simp [proceed, h]

/-- At the end of an array or of an object nothing else is due. -/
theorem proceed_close {p : Place} {b : Bracket} (h : skipSpace r = b.close :: tail) :
    proceed ⟨p, o, r⟩ = ⟨p, o, r⟩ := by
  cases b <;> cases p <;> simp [proceed, h, Bracket.close]

/-- An opening bracket where a value is due. -/
theorem next?_open {b : Bracket} (hplace : s.proceed.place.takesValue = true)
    (hrest : skipSpace s.proceed.rest = b.first :: tail) :
    s.next? = some (.opening b, ⟨b.start, s.proceed.place :: s.proceed.outer, tail⟩) := by
  cases b <;> simp only [Bracket.first] at hrest <;> simp [next?, token?, hrest, enter?, hplace]

/-- A closing bracket, where nothing else is due. -/
theorem next?_close {b : Bracket} {place p : Place} {outer : List Place}
    (hplace : place.closes? = some b) (hrest : skipSpace r = b.close :: tail) :
    next? ⟨place, p :: outer, r⟩ = some (.closing b, ⟨p.behind, outer, tail⟩) := by
  have hleave : leave? ⟨place, p :: outer, r⟩ b tail = some ⟨p.behind, outer, tail⟩ := by
    rw [leave?, hplace]
    simp
  rw [next?, proceed_close hrest]
  cases b <;> simp only [Bracket.close] at hrest <;> simp [token?, hrest, hleave]

/-- A key. -/
theorem next?_key {key : String} {cs rest : List Char} (h : StringText key cs)
    (hplace : s.proceed.place.takesKey = true) (hrest : skipSpace s.proceed.rest = cs ++ rest) :
    s.next? = some (.string key, ⟨.keyEnd, s.proceed.outer, rest⟩) := by
  obtain ⟨tail, htail, hread⟩ := h.exists_string? rest
  simp [next?, token?, hrest, htail, hread, quote?, hplace]

end Scanner

/-! ## Values -/

/-- A value that a scanner passes over where one is due. -/
def Skips (v : Json) : Prop :=
  ∀ (s : Scanner) (cs rest : List Char) (fuel : Nat), v.WrittenAs cs →
    s.proceed.place.takesValue = true → skipSpace s.proceed.rest = cs ++ rest → Stops rest →
    2 * cs.length ≤ fuel → s.skip? fuel =
      if v.allNumbers isInRange then some (.value (s.proceed.pass rest)) else none

theorem Place.takesKey_eq_false {p : Place} (h : p.takesValue = true) : p.takesKey = false := by
  cases p <;> first | rfl | cases h

namespace Scanner

variable {s : Scanner} {v : Json} {c : Char} {cs rest tail : List Char}

/-- A value that is a single token. -/
theorem skip?_token {t : Token} {s' : Scanner} {fuel : Nat} (h : s.next? = some (t, s'))
    (ht : ∀ b, t ≠ .opening b ∧ t ≠ .closing b) (hfuel : 1 ≤ fuel) :
    s.skip? fuel = some (.value s') := by
  obtain ⟨fuel, rfl⟩ := Nat.exists_eq_add_of_le' hfuel
  rw [skip?, h]
  cases t with
  | opening b => exact absurd rfl (ht b).1
  | closing b => exact absurd rfl (ht b).2
  | string | simple => rfl

/-- A value with white space around it, up to the mark behind it. -/
theorem skip?_padded {item : List Char} (hv : v.Skips) (h : Padded v.WrittenAs item)
    (hspace : isSpace c = false) (hnumeral : isNumeral c = false)
    (hplace : s.proceed.place.takesValue = true) (hrest : s.proceed.rest = item ++ c :: tail) :
    ∃ r, skipSpace r = c :: tail ∧ ∀ fuel, 2 * item.length ≤ fuel → s.skip? fuel =
      if v.allNumbers isInRange then some (.value (s.proceed.pass r)) else none := by
  obtain ⟨before, cs, after, hbefore, hcs, hafter, rfl⟩ := h
  refine ⟨after ++ c :: tail, by rw [skipSpace_append hafter, skipSpace_cons hspace],
    fun fuel hfuel => ?_⟩
  simp only [List.length_append] at hfuel
  refine hv s cs _ fuel hcs hplace ?_ (stops_blank hafter hnumeral tail) (by omega)
  rw [hrest, List.append_assoc, List.append_assoc, skipSpace_append hbefore, hcs.skipSpace_append]

/-- A field, up to the mark behind it: its key is the next token, and its value is passed over. -/
theorem next?_fieldText {key : String} {field : List Char} (hv : v.Skips)
    (h : FieldText key v.WrittenAs field) (hspace : isSpace c = false)
    (hnumeral : isNumeral c = false) (hplace : s.proceed.place.takesKey = true)
    (hrest : s.proceed.rest = field ++ c :: tail) :
    ∃ s' r, s.next? = some (.string key, s') ∧ skipSpace r = c :: tail ∧
      ∀ fuel, 2 * field.length ≤ fuel + 2 → s'.skip? fuel =
        if v.allNumbers isInRange then some (.value ⟨.valueEnd, s.proceed.outer, r⟩) else none := by
  obtain ⟨_, value, ⟨before, name, after, hbefore, hname, hafter, rfl⟩, hvalue, rfl⟩ := h
  have hkey : s.next? = some
      (.string key, ⟨.keyEnd, s.proceed.outer, after ++ ':' :: (value ++ c :: tail)⟩) := by
    refine next?_key hname hplace ?_
    obtain ⟨_, _, _, _, rfl⟩ := hname
    simp [hrest, skipSpace_append hbefore, skipSpace_cons (show isSpace '"' = false by decide)]
  have hcolon : proceed ⟨.keyEnd, s.proceed.outer, after ++ ':' :: (value ++ c :: tail)⟩ =
      ⟨.value, s.proceed.outer, value ++ c :: tail⟩ :=
    proceed_colon (by rw [skipSpace_append hafter, skipSpace_cons (by decide)])
  obtain ⟨r, hr, hskip⟩ := skip?_padded (s := ⟨.keyEnd, s.proceed.outer, _⟩) hv hvalue hspace
    hnumeral (by rw [hcolon]; rfl) (by rw [hcolon])
  refine ⟨_, r, hkey, hr, fun fuel hfuel => ?_⟩
  simp only [List.length_append, List.length_cons] at hfuel
  rw [hskip fuel (by omega), hcolon]
  rfl

/-! ### Values in brackets -/

/-- Nothing is left up to the bracket. -/
theorem skipRest?_close {b : Bracket} {s' : Scanner} {fuel : Nat}
    (h : s.next? = some (.closing b, s')) (hfuel : 2 ≤ fuel) : s.skipRest? fuel = some s' := by
  obtain ⟨fuel, rfl⟩ := Nat.exists_eq_add_of_le' hfuel
  rw [skipRest?, skip?, h]

/-- One value more. -/
theorem skipRest?_more {s' s'' : Scanner} {fuel : Nat} {a b : Bool}
    (hskip : s.skip? fuel = if a then some (.value s') else none)
    (hothers : s'.skipRest? fuel = if b then some s'' else none) :
    s.skipRest? (fuel + 1) = if a && b then some s'' else none := by
  rw [skipRest?, hskip]
  cases a with
  | false => rfl
  | true => simpa using hothers

/-- The items of an array. -/
theorem skipRest?_itemTexts {items : List Json} (hne : items ≠ []) (hitems : ∀ v ∈ items, v.Skips)
    {inner : List Char} (h : Separated (itemTexts items) inner) {s : Scanner} {p : Place}
    {outer : List Place} {fuel : Nat}
    (hplace : s.proceed.place = .arrayStart ∨ s.proceed.place = .item)
    (houter : s.proceed.outer = p :: outer) (hrest : s.proceed.rest = inner ++ ']' :: rest)
    (hfuel : 2 * inner.length + 3 ≤ fuel) : s.skipRest? fuel =
      if allNumbersItems isInRange items then some ⟨p.behind, outer, rest⟩ else none := by
  induction items generalizing inner s fuel with
  | nil => exact absurd rfl hne
  | cons v items ih =>
    obtain ⟨fuel, rfl⟩ := Nat.exists_eq_add_of_le' (show 1 ≤ fuel by omega)
    have hv := hitems v List.mem_cons_self
    have htakes : s.proceed.place.takesValue = true := by rcases hplace with h | h <;> rw [h] <;> rfl
    have hpass (r : List Char) : s.proceed.pass r = ⟨.itemEnd, p :: outer, r⟩ := by
      rw [pass, houter]
      rcases hplace with h | h <;> rw [h] <;> rfl
    cases items with
    | nil =>
      obtain ⟨r, hr, hskip⟩ := skip?_padded hv h (by decide) (by decide) htakes hrest
      refine skipRest?_more (b := true) (hskip fuel (by omega)) ?_
      rw [hpass, if_pos rfl]
      exact skipRest?_close (next?_close (b := .square) rfl hr) (by omega)
    | cons w items =>
      obtain ⟨first, others, hfirst, hothers, rfl⟩ := h
      simp only [List.length_append, List.length_cons] at hfuel
      obtain ⟨r, hr, hskip⟩ := skip?_padded hv hfirst (c := ',') (by decide) (by decide) htakes
        (by rw [hrest, List.append_assoc, List.cons_append])
      have hcomma := proceed_comma_item (o := p :: outer) hr
      refine skipRest?_more (hskip fuel (by omega)) ?_
      rw [hpass]
      exact ih (by simp) (fun u hu => hitems u (List.mem_cons_of_mem v hu)) hothers
        (by rw [hcomma]; exact .inr rfl) (by rw [hcomma]) (by rw [hcomma]) (by omega)

/-- The fields of an object. Every key counts as a value that is passed over. -/
theorem skipRest?_fieldTexts {fields : List (String × Json)} (hne : fields ≠ [])
    (hfields : ∀ e ∈ fields, e.2.Skips) {inner : List Char}
    (h : Separated (fieldTexts fields) inner) {s : Scanner} {p : Place} {outer : List Place}
    {fuel : Nat} (hplace : s.proceed.place.takesKey = true) (houter : s.proceed.outer = p :: outer)
    (hrest : s.proceed.rest = inner ++ '\x7d' :: rest) (hfuel : 2 * inner.length + 3 ≤ fuel) :
    s.skipRest? fuel =
      if allNumbersFields isInRange fields then some ⟨p.behind, outer, rest⟩ else none := by
  induction fields generalizing inner s fuel with
  | nil => exact absurd rfl hne
  | cons e fields ih =>
    obtain ⟨key, v⟩ := e
    obtain ⟨fuel, rfl⟩ := Nat.exists_eq_add_of_le' (show 2 ≤ fuel by omega)
    have hv : v.Skips := hfields (key, v) List.mem_cons_self
    have hkey {s' : Scanner} (h : s.next? = some (.string key, s')) :
        s.skip? (fuel + 1) = if true then some (.value s') else none :=
      skip?_token h (by simp) (by omega)
    cases fields with
    | nil =>
      have hlength := FieldText.length_pos h
      obtain ⟨s', r, hnext, hr, hskip⟩ := next?_fieldText hv h (by decide) (by decide) hplace hrest
      rw [skipRest?_more (hkey hnext) (skipRest?_more (b := true) (hskip fuel (by omega)) ?_)]
      · rfl
      · rw [houter, if_pos rfl]
        exact skipRest?_close (next?_close (b := .curly) rfl hr) (by omega)
    | cons f fields =>
      obtain ⟨first, others, hfirst, hothers, rfl⟩ := h
      simp only [List.length_append, List.length_cons] at hfuel
      obtain ⟨s', r, hnext, hr, hskip⟩ := next?_fieldText hv hfirst (c := ',') (by decide)
        (by decide) hplace (by rw [hrest, List.append_assoc, List.cons_append])
      have hcomma := proceed_comma_field (o := s.proceed.outer) hr
      rw [skipRest?_more (hkey hnext) (skipRest?_more (hskip fuel (by omega)) (ih (by simp)
        (fun u hu => hfields u (List.mem_cons_of_mem _ hu)) hothers
        (by rw [hcomma]; rfl) (by rw [hcomma, houter]) (by rw [hcomma]) (by omega)))]
      rfl

/-- Nothing but white space in brackets. -/
theorem skipRest?_blank (b : Bracket) {p : Place} {outer : List Place} {inner : List Char}
    (h : Blank inner) (rest : List Char) {fuel : Nat} (hfuel : 2 ≤ fuel) :
    skipRest? fuel ⟨b.start, p :: outer, inner ++ b.close :: rest⟩ =
      some ⟨p.behind, outer, rest⟩ := by
  have hclose : skipSpace (inner ++ b.close :: rest) = b.close :: rest := by
    rw [skipSpace_append h, skipSpace_cons (by cases b <;> decide)]
  exact skipRest?_close (next?_close (by cases b <;> rfl) hclose) hfuel

/-- A value in brackets is passed over if everything in the brackets is. -/
theorem skip?_brackets {b : Bracket} {inner : List Char} {inRange : Bool} {fuel : Nat}
    (hplace : s.proceed.place.takesValue = true)
    (hrest : skipSpace s.proceed.rest = b.first :: (inner ++ [b.close]) ++ rest)
    (hinner : ∀ fuel p outer, 2 * inner.length + 3 ≤ fuel →
      skipRest? fuel ⟨b.start, p :: outer, inner ++ b.close :: rest⟩ =
        if inRange then some ⟨p.behind, outer, rest⟩ else none)
    (hfuel : 2 * (b.first :: (inner ++ [b.close])).length ≤ fuel) :
    s.skip? fuel = if inRange then some (.value (s.proceed.pass rest)) else none := by
  rw [List.cons_append, List.append_assoc] at hrest
  simp only [List.length_cons, List.length_append, List.length_nil] at hfuel
  obtain ⟨fuel, rfl⟩ := Nat.exists_eq_add_of_le' (show 1 ≤ fuel by omega)
  rw [skip?, next?_open hplace hrest]
  simp only
  rw [List.singleton_append, hinner fuel _ _ (by omega)]
  cases inRange <;> rfl

end Scanner

/-- An array is passed over if its items are. -/
theorem skips_array {items : List Json} (hitems : ∀ v ∈ items, v.Skips) : (array items).Skips := by
  rintro s _ rest fuel ⟨inner, hinner, rfl⟩ hplace hrest - hfuel
  refine Scanner.skip?_brackets (b := .square) hplace hrest (fun fuel p outer hfuel => ?_) hfuel
  by_cases hne : items = []
  · subst hne
    exact Scanner.skipRest?_blank .square hinner rest (by omega)
  · exact Scanner.skipRest?_itemTexts hne hitems hinner (.inl rfl) rfl rfl hfuel

/-- An object is passed over if its values are. -/
theorem skips_object {fields : List (String × Json)} (hfields : ∀ e ∈ fields, e.2.Skips) :
    (object fields).Skips := by
  rintro s _ rest fuel ⟨inner, hinner, rfl⟩ hplace hrest - hfuel
  refine Scanner.skip?_brackets (b := .curly) hplace hrest (fun fuel p outer hfuel => ?_) hfuel
  by_cases hne : fields = []
  · subst hne
    exact Scanner.skipRest?_blank .curly hinner rest (by omega)
  · exact Scanner.skipRest?_fieldTexts hne hfields hinner rfl rfl rfl hfuel

/-- A string is passed over, whatever is in it. -/
theorem skips_string (t : String) : (string t).Skips := by
  rintro s cs rest fuel hcs hplace hrest - hfuel
  obtain ⟨tail, htail, hread⟩ := StringText.exists_string? hcs rest
  have hnext : s.next? = some (.string t, s.proceed.pass rest) := by
    simp [Scanner.next?, Scanner.token?, hrest, htail, hread, Scanner.quote?,
      Place.takesKey_eq_false hplace, hplace]
  obtain ⟨c, _, rfl, -⟩ := WrittenAs.exists_cons (v := string t) hcs
  exact Scanner.skip?_token hnext (by simp) (by simp at hfuel; omega)

/-- What a scanner makes of a value that is neither a string nor in brackets. -/
theorem Scanner.next?_simple {s : Scanner} {c : Char} {tail : List Char}
    (hc : c ∉ ['[', '\x7b', ']', '\x7d', '"']) (hplace : s.proceed.place.takesValue = true)
    (hrest : skipSpace s.proceed.rest = c :: tail) :
    s.next? = (simple? (c :: tail)).map fun rest => (.simple, s.proceed.pass rest) := by
  simp only [List.mem_cons, List.not_mem_nil, or_false, not_or] at hc
  simp [next?, token?, hrest, hc, hplace]

/-- A number is passed over if it is in range. -/
theorem skips_number (text : String) : (number text).Skips := by
  intro s cs rest fuel hcs hplace hrest hstops hfuel
  obtain ⟨rfl, hnumber⟩ := hcs.isNumber
  obtain ⟨c, tail, htext, hc⟩ := head_of_isNumber hnumber
  have hread := number?_of_isNumber hnumber hstops
  have hmarks : c ∉ ['[', '\x7b', ']', '\x7d', '"'] := by
    simp only [List.mem_cons, List.not_mem_nil, or_false]
    rintro (rfl | rfl | rfl | rfl | rfl) <;> exact absurd hc (by decide)
  have hnext : s.next? = if isInRange text then some (.simple, s.proceed.pass rest) else none := by
    rw [htext, List.cons_append] at hread hrest
    rw [Scanner.next?_simple hmarks hplace hrest, simple?_of_isNumeral hc, hread, ← htext,
      Option.bind_some]
    simp only [String.ofList_toList]
    cases isInRange text <;> rfl
  rw [htext, List.length_cons] at hfuel
  obtain ⟨fuel, rfl⟩ := Nat.exists_eq_add_of_le' (show 1 ≤ fuel by omega)
  rw [Scanner.skip?, hnext, allNumbers]
  cases isInRange text <;> rfl

/-- A value that is a word is passed over. -/
theorem Scanner.skip?_word {s : Scanner} {c : Char} {tail rest : List Char} {fuel : Nat}
    (hc : c ∉ ['[', '\x7b', ']', '\x7d', '"']) (hplace : s.proceed.place.takesValue = true)
    (hrest : skipSpace s.proceed.rest = c :: tail) (hsimple : simple? (c :: tail) = some rest)
    (hfuel : 1 ≤ fuel) : s.skip? fuel = some (.value (s.proceed.pass rest)) := by
  refine skip?_token (t := .simple) ?_ (by simp) hfuel
  rw [next?_simple hc hplace hrest, hsimple, Option.map_some]

/-- **Every value** is passed over, up to numbers that are out of range. -/
theorem skips (v : Json) : v.Skips := by
  induction v using Json.induction with
  | null =>
    rintro s _ rest fuel rfl hplace hrest - hfuel
    exact Scanner.skip?_word (by decide) hplace hrest rfl (Nat.le_trans (by decide) hfuel)
  | bool b =>
    rintro s _ rest fuel rfl hplace hrest - hfuel
    cases b <;>
      exact Scanner.skip?_word (by decide) hplace hrest rfl (Nat.le_trans (by decide) hfuel)
  | number text => exact skips_number text
  | string s => exact skips_string s
  | array items ih => exact skips_array ih
  | object fields ih => exact skips_object ih

/-! ## Keys -/

namespace Scanner

/-- No keys are left. -/
theorem keys?_close {s s' : Scanner} {fuel : Nat} (h : s.next? = some (.closing .curly, s'))
    (hfuel : 1 ≤ fuel) : s.keys? fuel = some [] := by
  obtain ⟨fuel, rfl⟩ := Nat.exists_eq_add_of_le' hfuel
  rw [keys?, h]

/-- One key more. -/
theorem keys?_more {s s' s'' : Scanner} {key : String} {keys : List String} {fuel : Nat}
    {a b : Bool} (h : s.next? = some (.string key, s'))
    (hskip : s'.skip? fuel = if a then some (.value s'') else none)
    (hothers : s''.keys? fuel = if b then some keys else none) :
    s.keys? (fuel + 1) = if a && b then some (key :: keys) else none := by
  rw [keys?, h]
  simp only [hskip]
  cases a with
  | false => rfl
  | true => cases b <;> simp [hothers]

/-- The keys that are left of an object, if there are any. -/
theorem keys?_fieldTexts {fields : List (String × Json)} (hne : fields ≠ [])
    {inner rest : List Char} (h : Separated (fieldTexts fields) inner) {s : Scanner} {p : Place}
    {outer : List Place} {fuel : Nat} (hplace : s.proceed.place.takesKey = true)
    (houter : s.proceed.outer = p :: outer) (hrest : s.proceed.rest = inner ++ '\x7d' :: rest)
    (hfuel : 2 * inner.length ≤ fuel) : s.keys? fuel =
      if allNumbersFields isInRange fields then some (fields.map (·.1)) else none := by
  induction fields generalizing inner s fuel with
  | nil => exact absurd rfl hne
  | cons e fields ih =>
    obtain ⟨key, v⟩ := e
    cases fields with
    | nil =>
      have hlength := FieldText.length_pos h
      obtain ⟨fuel, rfl⟩ := Nat.exists_eq_add_of_le' (show 1 ≤ fuel by omega)
      obtain ⟨s', r, hnext, hr, hskip⟩ :=
        next?_fieldText (skips v) h (by decide) (by decide) hplace hrest
      refine keys?_more (b := true) hnext (hskip fuel (by omega)) ?_
      rw [houter, if_pos rfl]
      exact keys?_close (next?_close rfl hr) (by omega)
    | cons f fields =>
      obtain ⟨first, others, hfirst, hothers, rfl⟩ := h
      simp only [List.length_append, List.length_cons] at hfuel
      obtain ⟨fuel, rfl⟩ := Nat.exists_eq_add_of_le' (show 1 ≤ fuel by omega)
      obtain ⟨s', r, hnext, hr, hskip⟩ := next?_fieldText (skips v) hfirst (c := ',') (by decide)
        (by decide) hplace (by rw [hrest, List.append_assoc, List.cons_append])
      have hcomma := proceed_comma_field (o := s.proceed.outer) hr
      refine keys?_more hnext (hskip fuel (by omega)) ?_
      exact ih (by simp) hothers (by rw [hcomma]; rfl) (by rw [hcomma, houter]) (by rw [hcomma])
        (by omega)

end Scanner

/-- **The keys of an object** at the start of a text are found if its numbers are in range. -/
theorem documentKeys?_object {text : String} {fields : List (String × Json)}
    (h : (object fields).StartsWith text) : documentKeys? text =
      if (object fields).allNumbers isInRange then some (fields.map (·.1)) else none := by
  obtain ⟨before, _, rest, hbefore, ⟨inner, hinner, rfl⟩, htext⟩ := h
  have hrest : skipSpace text.toList = '\x7b' :: (inner ++ '\x7d' :: rest) := by
    rw [htext, List.append_assoc, skipSpace_append hbefore, List.cons_append,
      skipSpace_cons (by decide), List.append_assoc, List.singleton_append]
  have hopen : ({ place := .top, rest := text.toList } : Scanner).next? =
      some (.opening .curly, ⟨.objectStart, [.top], inner ++ '\x7d' :: rest⟩) :=
    Scanner.next?_open (b := .curly) rfl hrest
  have hlength := congrArg List.length htext
  simp only [List.length_append, List.length_cons, List.length_nil] at hlength
  rw [documentKeys?, hopen]
  by_cases hne : fields = []
  · subst hne
    have hclose : skipSpace (inner ++ '\x7d' :: rest) = '\x7d' :: rest :=
      (skipSpace_append hinner _).trans (skipSpace_cons (by decide) rest)
    exact Scanner.keys?_close (Scanner.next?_close rfl hclose) (by omega)
  · exact Scanner.keys?_fieldTexts hne hinner rfl rfl rfl (by omega)

/-- Only a curly bracket begins an object. -/
theorem Scanner.exists_of_next?_curly {s s' : Scanner}
    (h : s.next? = some (.opening .curly, s')) : ∃ tail, skipSpace s.proceed.rest = '\x7b' :: tail := by
  rw [next?, token?] at h
  split at h
  case h_2 tail heq => exact ⟨tail, heq⟩
  all_goals simp [Option.map_eq_some_iff, Option.bind_eq_some_iff] at h

/-- A text that does not begin with a curly bracket has no keys. -/
theorem documentKeys?_of_ne {text : String} {c : Char} {tail : List Char}
    (hrest : skipSpace text.toList = c :: tail) (hc : c ≠ '\x7b') : documentKeys? text = none := by
  rw [documentKeys?]
  split
  · rename_i s' h
    obtain ⟨tail', htail⟩ := Scanner.exists_of_next?_curly h
    exact absurd (List.cons.inj (hrest.symm.trans htail)).1 hc
  · rfl

/-- **A text that starts with a value**: the keys of an object are found as they are listed, if its
numbers are in range, and no other value has any. -/
theorem documentKeys?_startsWith {v : Json} {text : String} (h : v.StartsWith text) :
    (∀ fields, v = object fields → documentKeys? text =
      if v.allNumbers isInRange then some (fields.map (·.1)) else none) ∧
    ((∀ fields, v ≠ object fields) → documentKeys? text = none) := by
  refine ⟨?_, fun hv => ?_⟩
  · rintro fields rfl
    exact documentKeys?_object h
  · obtain ⟨before, cs, rest, hbefore, hcs, htext⟩ := h
    obtain ⟨c, tail, rfl, hspace, hcurly⟩ := hcs.exists_cons
    have hhead : skipSpace text.toList = c :: (tail ++ rest) := by
      rw [htext, List.append_assoc, skipSpace_append hbefore, List.cons_append,
        skipSpace_cons hspace]
    refine documentKeys?_of_ne hhead fun hc => ?_
    obtain ⟨fields, rfl⟩ := hcurly hc
    exact hv fields rfl

/-- The names of the fields of an object. -/
def fieldNames? : Json → Option (List String)
  | .object fields => some (fields.map (·.1))
  | _ => none

theorem exists_of_fieldNames? {v : Json} {names : List String} (h : fieldNames? v = some names) :
    ∃ fields, v = .object fields ∧ fields.map (·.1) = names := by
  cases v with
  | object fields => exact ⟨fields, rfl, Option.some.inj h⟩
  | _ => cases h

/-- Brackets and quotes in strings, values in values, a key that is written in two ways, and more
text behind the object. -/
theorem documentKeys?_startsWith_nested :
    documentKeys? " \x7b\"a\": \x7b\"b\": [[], \"]\\\"\x7d\"]\x7d, \"\\u0061\": 1e5 , \"c\":\x7b\x7d\x7d ] x"
      = some ["a", "a", "c"] := by
  have hread : (value? 20
      " \x7b\"a\": \x7b\"b\": [[], \"]\\\"\x7d\"]\x7d, \"\\u0061\": 1e5 , \"c\":\x7b\x7d\x7d ] x".toList).map
      (fun r => (fieldNames? r.1, r.1.allNumbers isInRange)) = some (some ["a", "a", "c"], true) := by
    decide +kernel
  obtain ⟨⟨v, rest⟩, hread, hv⟩ := Option.map_eq_some_iff.1 hread
  obtain ⟨hnames, hrange⟩ := Prod.mk.inj hv
  obtain ⟨fields, rfl, hfields⟩ := exists_of_fieldNames? hnames
  have hkeys := (documentKeys?_startsWith (startsWith_of_value? hread)).1 fields rfl
  rw [hkeys, if_pos hrange, hfields]

/-- A number that is out of range hides all keys. -/
theorem not_documentKeys?_outOfRange :
    ¬ ∀ (text : String) (fields : List (String × Json)), (object fields).StartsWith text →
      documentKeys? text = some (fields.map (·.1)) := by
  intro h
  have hstarts := startsWith_compact (v := .object [("a", .number "1e999")]) rfl
  have hrange : (object [("a", .number "1e999")]).allNumbers isInRange = false := by decide +kernel
  have hkeys := documentKeys?_object hstarts
  rw [hrange, h _ _ hstarts] at hkeys
  cases hkeys

end Json
end Shapewright
