import Shapewright.Json.Skim
import Shapewright.Json.Token
import Shapewright.Proofs.Json.Grammar
import Shapewright.Proofs.Number.Spelled

/-!
# Cutting values out

A field of a model document is cut out of its text before it is read, by brackets and quotes alone.
That what is cut out is the text of one value has to be shown: the brackets that are counted are the
ones that belong together, and nothing in a string is counted.

* `Json.skimString?_escape` — a string is passed over up to its closing quote.
* `Json.Passed` — a text that is passed over inside brackets of either kind; texts of this kind can be
  put behind each other and in brackets, and strings are among them.
* `Json.passed_compact` — so the text of every value is, by induction on the value.
* `Json.skim?_compact` — what is cut out for a value is its text, whatever follows.
-/

set_option autoImplicit false

namespace Shapewright
namespace Json

/-! ## Strings -/

/-- A text in front of what is cut out. -/
def inFront (front : List Char) (cut : List Char × List Char) : List Char × List Char :=
  (front ++ cut.1, cut.2)

theorem map_inFront (a b : List Char) (cut : Option (List Char × List Char)) :
    (cut.map (inFront b)).map (inFront a) = cut.map (inFront (a ++ b)) := by
  rw [Option.map_map]
  exact congrArg (cut.map ·) (funext fun _ => by simp [inFront])

theorem map_inFront_nil (cut : Option (List Char × List Char)) : cut.map (inFront []) = cut :=
  Option.map_id_apply

/-- Characters that end no string and belong to no other one are passed over. -/
theorem skimString?_append {cs : List Char} (h : ∀ c ∈ cs, c ≠ '"' ∧ c ≠ '\\') (rest : List Char) :
    skimString? (cs ++ rest) = (skimString? rest).map (inFront cs) := by
  induction cs with
  | nil => rw [List.nil_append, map_inFront_nil]
  | cons c cs ih =>
    obtain ⟨⟨hquote, hslash⟩, h⟩ := List.forall_mem_cons.1 h
    have hstep : skimString? (c :: (cs ++ rest)) = (skimString? (cs ++ rest)).map (inFront [c]) := by
      rw [skimString?, if_neg (by simpa using hslash)]
      · rfl
      · exact hquote
      · exact fun _ _ hc => absurd hc hslash
    rw [List.cons_append, hstep, ih h, map_inFront]
    rfl

/-- A piece of a string is passed over as a whole. -/
theorem Piece.Written.skimString?_append {p : Piece} {text : List Char} (h : p.Written text)
    (rest : List Char) : skimString? (text ++ rest) = (skimString? rest).map (inFront text) := by
  cases h with
  | char hquote hslash _ => exact Json.skimString?_append (by simp [hquote, hslash]) rest
  | @letter letter c _ =>
    show skimString? ('\\' :: letter :: rest) = _
    rw [skimString?]
    rfl
  | @code a b c d n hn =>
    have hdigits : ∀ x ∈ [a, b, c, d], x ≠ '"' ∧ x ≠ '\\' := fun x hx => by
      have hsome := Text.isSome_hexValue? hn x hx
      constructor <;> rintro rfl <;> exact absurd hsome (by decide)
    show skimString? ('\\' :: 'u' :: ([a, b, c, d] ++ rest)) = _
    rw [skimString?, Json.skimString?_append hdigits]
    exact map_inFront ['\\', 'u'] _ _

/-- No piece of a string is written with NUL. -/
theorem Piece.Written.nul_not_mem {p : Piece} {text : List Char} (h : p.Written text) :
    '\x00' ∉ text := by
  cases h with
  | char _ _ hlow =>
    intro hmem
    rw [← List.mem_singleton.1 hmem] at hlow
    exact absurd hlow (by decide)
  | letter hmem =>
    have hall : ∀ e ∈ escapes, '\x00' ∉ ['\\', e.1] := by decide
    exact hall _ hmem
  | code hn =>
    intro hmem
    simp only [List.mem_cons, Char.reduceEq, false_or] at hmem
    have hsome := Text.isSome_hexValue? hn '\x00' (by simpa using hmem)
    exact absurd hsome (by decide)

/-- A string is passed over up to its closing quote. -/
theorem skimString?_escape (page : Bool) (cs rest : List Char) :
    skimString? (cs.flatMap (escape page) ++ '"' :: rest) =
      some (cs.flatMap (escape page) ++ ['"'], rest) := by
  induction cs with
  | nil => rfl
  | cons c cs ih =>
    obtain ⟨p, -, hp⟩ := written_escape page c
    rw [List.flatMap_cons, List.append_assoc, hp.skimString?_append, ih, Option.map_some, inFront,
      List.append_assoc]

/-! ## Brackets -/

/-- Inside a string brackets do not count, and the string ends where strings end. -/
theorem skimNested?_quoted {cs text rest : List Char} (h : skimString? cs = some (text, rest))
    (opening closing : Char) (level : Nat) :
    skimNested? opening closing level true cs =
      (skimNested? opening closing level false rest).map (inFront text) := by
  fun_induction skimString? cs generalizing text with
  | case1 => cases h
  | case2 tail =>
    cases h
    rw [skimNested?]
    · rfl
    · exact fun _ _ hc => absurd hc (by decide)
  | case3 c tail ih =>
    obtain ⟨⟨text', rest'⟩, htail, hcut⟩ := Option.map_eq_some_iff.1 h
    cases hcut
    rw [skimNested?, if_pos rfl, ih htail]
    exact map_inFront ['\\', c] _ _
  | case4 => cases h
  | case5 c tail hquote hslash hc ih =>
    obtain ⟨⟨text', rest'⟩, htail, hcut⟩ := Option.map_eq_some_iff.1 h
    cases hcut
    rw [skimNested?]
    · have hne : (c == '"') = false := by simpa using hquote
      simp only [Bool.not_true, Bool.false_and, Bool.false_eq_true, if_false, if_true, hne, ih htail]
      exact map_inFront [c] _ _
    · simp_all

/-- One character outside of strings. -/
theorem skimNested?_cons {c : Char} (h : c ≠ '\\') (opening closing : Char) (level : Nat)
    (rest : List Char) :
    skimNested? opening closing level false (c :: rest) =
      if c = closing ∧ level = 1 then some ([c], rest)
      else (skimNested? opening closing
        (if c = opening then level + 1 else if c = closing then level - 1 else level)
        (c == '"') rest).map (inFront [c]) := by
  rw [skimNested?]
  · simp only [Bool.not_false, Bool.true_and, Bool.and_eq_true, beq_iff_eq, Bool.false_eq_true,
      if_false]
    rfl
  · exact fun _ _ hc => absurd hc h

/-- The character of an opening bracket. -/
def Bracket.first : Bracket → Char
  | .square => '['
  | .curly => '\x7b'

/-- The character of a closing bracket. -/
def Bracket.close : Bracket → Char
  | .square => ']'
  | .curly => '\x7d'

/-- A text that is passed over inside brackets of either kind, however many of them are open, and that
does not end a document early. -/
structure Passed (cs : List Char) : Prop where
  cut : ∀ (b : Bracket) (level : Nat) (rest : List Char),
    skimNested? b.first b.close (level + 1) false (cs ++ rest) =
      (skimNested? b.first b.close (level + 1) false rest).map (inFront cs)
  nul_not_mem : '\x00' ∉ cs

theorem passed_nil : Passed [] := ⟨fun _ _ _ => (map_inFront_nil _).symm, List.not_mem_nil⟩

theorem Passed.append {front back : List Char} (hfront : Passed front) (hback : Passed back) :
    Passed (front ++ back) where
  cut b level rest := by rw [List.append_assoc, hfront.cut, hback.cut, map_inFront]
  nul_not_mem := by simp [hfront.nul_not_mem, hback.nul_not_mem]

/-- The characters that count when values are passed over, and NUL. -/
def marks : List Char := ['"', '\\', '[', ']', '\x7b', '\x7d', '\x00']

/-- A character that is none of them is passed over. -/
theorem skimNested?_plain (b : Bracket) {c : Char} (hslash : c ≠ '\\') (hquote : c ≠ '"')
    (hfirst : c ≠ b.first) (hclose : c ≠ b.close) (level : Nat) (rest : List Char) :
    skimNested? b.first b.close level false (c :: rest) =
      (skimNested? b.first b.close level false rest).map (inFront [c]) := by
  rw [skimNested?_cons hslash, if_neg (by simp [hclose]), if_neg hfirst, if_neg hclose,
    beq_eq_false_iff_ne.2 hquote]

theorem passed_singleton {c : Char} (h : c ∉ marks) : Passed [c] := by
  simp only [marks, List.mem_cons, List.not_mem_nil, or_false, not_or] at h
  obtain ⟨hquote, hslash, hsquare, hsquare', hcurly, hcurly', hnul⟩ := h
  refine ⟨fun b level rest => ?_, by simpa using Ne.symm hnul⟩
  cases b with
  | square => exact skimNested?_plain .square hslash hquote hsquare hsquare' _ rest
  | curly => exact skimNested?_plain .curly hslash hquote hcurly hcurly' _ rest

theorem passed_of_forall {cs : List Char} (h : ∀ c ∈ cs, c ∉ marks) : Passed cs := by
  induction cs with
  | nil => exact passed_nil
  | cons c cs ih =>
    obtain ⟨hc, h⟩ := List.forall_mem_cons.1 h
    exact (passed_singleton hc).append (ih h)

/-- A string as it is written. -/
theorem passed_quoted (page : Bool) (s : String) : Passed (quoted page s).toList where
  cut b level rest := by
    have hcut := skimString?_escape page s.toList rest
    have hmarks : '"' ≠ b.close ∧ '"' ≠ b.first := by cases b <;> decide
    rw [toList_quoted, List.cons_append, List.append_assoc, List.singleton_append,
      skimNested?_cons (by decide), if_neg (by simp [hmarks.1]), if_neg hmarks.2, if_neg hmarks.1,
      beq_self_eq_true, skimNested?_quoted hcut]
    exact map_inFront ['"'] _ _
  nul_not_mem := by
    have hnul : ∀ c ∈ s.toList, '\x00' ∉ escape page c := fun c _ => by
      obtain ⟨p, -, hp⟩ := written_escape page c
      exact hp.nul_not_mem
    rw [toList_quoted]
    simpa using hnul

/-- What stands in brackets is passed over together with them. -/
theorem Passed.bracketed {inner : List Char} (h : Passed inner) (b : Bracket) :
    Passed (b.first :: (inner ++ [b.close])) where
  cut b' level rest := by
    rw [List.cons_append, List.append_assoc, List.singleton_append]
    by_cases hb : b' = b
    · have hne : b.first ≠ b.close ∧ b.close ≠ b.first := by cases b <;> decide
      obtain ⟨hfirst, hfirst', hclose, hclose'⟩ :
          b.first ≠ '\\' ∧ b.first ≠ '"' ∧ b.close ≠ '\\' ∧ b.close ≠ '"' := by cases b <;> decide
      -- the bracket that closes is met one level further in, so it is not the last one
      rw [hb, skimNested?_cons hfirst, if_neg (by simp [hne.1]), if_pos rfl,
        beq_eq_false_iff_ne.2 hfirst', h.cut, skimNested?_cons hclose, if_neg (by simp),
        if_neg hne.2, if_pos rfl, beq_eq_false_iff_ne.2 hclose', map_inFront, map_inFront]
      simp
    · have hother : ∀ c ∈ [b.first, b.close], ∀ tail,
          skimNested? b'.first b'.close (level + 1) false (c :: tail) =
            (skimNested? b'.first b'.close (level + 1) false tail).map (inFront [c]) := by
        intro c hc tail
        obtain ⟨hslash, hquote, hfirst, hclose⟩ :
            c ≠ '\\' ∧ c ≠ '"' ∧ c ≠ b'.first ∧ c ≠ b'.close := by
          obtain rfl | rfl := List.mem_pair.1 hc <;> cases b <;> cases b' <;>
            simp_all [Bracket.first, Bracket.close]
        exact skimNested?_plain b' hslash hquote hfirst hclose _ tail
      rw [hother _ (by simp), h.cut, hother _ (by simp), map_inFront, map_inFront]
      simp
  nul_not_mem hmem := by
    have hne : '\x00' ≠ b.first ∧ '\x00' ≠ b.close := by cases b <;> decide
    simp [hne, h.nul_not_mem] at hmem

theorem passed_intercalate {texts : List (List Char)} (h : ∀ cs ∈ texts, Passed cs) :
    Passed ([','].intercalate texts) := by
  have hcomma : Passed [','] := passed_singleton (by simp [marks])
  induction texts with
  | nil => exact passed_nil
  | cons text texts ih =>
    obtain ⟨htext, h⟩ := List.forall_mem_cons.1 h
    cases texts with
    | nil => simpa using htext
    | cons text' texts =>
      rw [List.intercalate_cons_cons]
      exact (htext.append hcomma).append (ih h)

/-! ### Values -/

theorem passed_itemsText {items : List Json} (h : ∀ v ∈ items, Passed (compact v).toList) :
    Passed (itemsText items) :=
  passed_intercalate (List.forall_mem_map.2 h)

theorem passed_fieldsText {fields : List (String × Json)}
    (h : ∀ e ∈ fields, Passed (compact e.2).toList) : Passed (fieldsText (escape true) fields) := by
  refine passed_intercalate (List.forall_mem_map.2 fun e he => ?_)
  have hcolon : Passed [':'] := passed_singleton (by simp [marks])
  have hfield := ((passed_quoted true e.1).append hcolon).append (h e he)
  rw [toList_quoted] at hfield
  simpa using hfield

/-- **Values** are passed over between brackets. -/
theorem passed_compact {v : Json} (h : v.allNumbers isNumber = true) : Passed (compact v).toList := by
  induction v using Json.induction with
  | null => exact passed_of_forall (by simp [compact, marks])
  | bool b => cases b <;> exact passed_of_forall (by simp [compact, marks])
  | number text =>
    have hmarks : ∀ d ∈ marks, isNumeral d = false := by simp [marks, isNumeral, isDigit]
    obtain ⟨n, hn⟩ := isNumber_iff.1 (by simpa [allNumbers] using h)
    rw [compact, hn, Spelling.chars_eq]
    refine Passed.append (passed_of_forall ?_) (passed_of_forall fun c hc hmem => ?_)
    · cases n.negative <;> simp [marks]
    · exact n.not_mem_unsigned (hmarks c hmem) hc
  | string s => exact passed_quoted true s
  | array items ih =>
    rw [allNumbers, allNumbersItems_iff] at h
    rw [toList_compact_array]
    exact (passed_itemsText fun v hv => ih v hv (h v hv)).bracketed .square
  | object fields ih =>
    rw [allNumbers, allNumbersFields_iff] at h
    rw [toList_compact_object]
    exact (passed_fieldsText fun e he => ih e he (h e he)).bracketed .curly

/-! ## Cutting values out -/

/-- What stands between a bracket and the one that closes it is cut out. -/
theorem Passed.skim?_bracketed {inner : List Char} (h : Passed inner) (b : Bracket)
    (rest : List Char) : skim? (b.first :: (inner ++ [b.close]) ++ rest) =
      some (b.first :: (inner ++ [b.close]), rest) := by
  have hcut : skimNested? b.first b.close 1 false (inner ++ b.close :: rest) =
      some (inner ++ [b.close], rest) := by
    rw [h.cut b 0, skimNested?_cons (by cases b <;> simp [Bracket.close]), if_pos ⟨rfl, rfl⟩]
    rfl
  rw [List.cons_append, List.append_assoc, List.singleton_append, skim?,
    skipSpace_cons (by cases b <;> simp [Bracket.first, isSpace])]
  cases b with
  | square => exact congrArg (Option.map _) hcut
  | curly => exact congrArg (Option.map _) hcut

/-- A number is cut out up to the last character that it may go on with. -/
theorem skim?_numeral {c : Char} {tail rest : List Char} (hc : isDigit c = true ∨ c = '-')
    (htail : ∀ d ∈ tail, isNumeral d = true) (hrest : Stops rest) :
    skim? (c :: tail ++ rest) = some (c :: tail, rest) := by
  have hsame : (fun d => isDigit d || "+-.eE".toList.contains d) = isNumeral := by
    funext d
    simp [isNumeral, Bool.or_assoc, Bool.or_comm, Bool.or_left_comm]
  have hspan : (tail ++ rest).takeWhile isNumeral = tail := by
    rw [(span_append tail hrest).1, List.takeWhile_eq_self_iff.2 htail]
  have hfirst : (isDigit c || c == '-') = true := by simpa using hc
  have hnumeral : isNumeral c = true := by
    rcases hc with hc | rfl
    · rw [isNumeral, hc, Bool.true_or]
    · decide
  rw [List.cons_append, skim?, skipSpace_cons (isSpace_of_isNumeral hnumeral)]
  split <;> rename_i heq <;> cases heq
  case h_4 =>
    rw [if_pos hfirst, hsame, hspan]
    simp
  all_goals exact absurd hnumeral (by decide)

/-- **What is cut out** for a value is the text of that value. -/
theorem skim?_compact {v : Json} (h : v.allNumbers isNumber = true) {rest : List Char}
    (hrest : Stops rest) : skim? ((compact v).toList ++ rest) = some ((compact v).toList, rest) := by
  cases v with
  | null => rfl
  | bool b => cases b <;> rfl
  | number text =>
    obtain ⟨n, hn⟩ := isNumber_iff.1 (by simpa [allNumbers] using h)
    obtain ⟨c, tail, hunsigned, hc⟩ := n.exists_unsigned_eq
    have hall : ∀ d ∈ c :: tail, isNumeral d = true := fun d hd =>
      n.isNumeral_of_mem_unsigned (hunsigned ▸ hd)
    rw [compact, hn, n.chars_eq, hunsigned]
    cases n.negative with
    | true => exact skim?_numeral (.inr rfl) hall hrest
    | false => exact skim?_numeral (.inl hc) (fun d hd => hall d (List.mem_cons_of_mem c hd)) hrest
  | string s =>
    rw [compact, toList_quoted, List.cons_append, skim?, skipSpace_cons (by decide)]
    show (skimString? _).map _ = _
    rw [List.append_assoc, List.singleton_append, skimString?_escape]
    rfl
  | array items =>
    rw [allNumbers, allNumbersItems_iff] at h
    rw [toList_compact_array]
    exact (passed_itemsText fun v hv => passed_compact (h v hv)).skim?_bracketed .square rest
  | object fields =>
    rw [allNumbers, allNumbersFields_iff] at h
    rw [toList_compact_object]
    exact (passed_fieldsText fun e he => passed_compact (h e he)).skim?_bracketed .curly rest

/-! ## Strings with control characters -/

/-- A string that is read is read where control characters may stand, too. -/
theorem openPieces?_of_pieces? {cs rest : List Char} {ps : List Piece}
    (h : pieces? cs = some (ps, rest)) : openPieces? cs = some (ps, rest) := by
  fun_induction pieces? cs generalizing ps with
  | case1 tail => exact h
  | case2 a b c d tail ih =>
    obtain ⟨n, hn, h⟩ := Option.bind_eq_some_iff.1 h
    obtain ⟨⟨ps', rest'⟩, htail, hps⟩ := Option.bind_eq_some_iff.1 h
    cases hps
    rw [openPieces?, hn, ih htail]
    rfl
  | case3 letter tail hu ih =>
    obtain ⟨c, hc, h⟩ := Option.bind_eq_some_iff.1 h
    obtain ⟨⟨ps', rest'⟩, htail, hps⟩ := Option.bind_eq_some_iff.1 h
    cases hps
    rw [openPieces?, hc, ih htail]
    · rfl
    · exact hu
  | case4 => cases h
  | case5 c tail hquote hu hletter more hif =>
    rename_i ih
    obtain ⟨⟨ps', rest'⟩, htail, hps⟩ := Option.bind_eq_some_iff.1 h
    cases hps
    have hslash : ¬ (c == '\\') = true := fun hc => hif (by rw [hc, Bool.or_true])
    rw [openPieces?]
    · rw [if_neg hslash, ih htail]
      rfl
    all_goals assumption
  | case6 => cases h

theorem openString?_escape (page : Bool) (s : String) (rest : List Char) :
    openString? (s.toList.flatMap (escape page) ++ '"' :: rest) = some (s, rest) := by
  have hread := string?_escape page s rest
  rw [string?, Option.map_eq_some_iff] at hread
  obtain ⟨⟨ps, rest'⟩, hpieces, hs⟩ := hread
  rw [openString?, openPieces?_of_pieces? hpieces]
  exact congrArg some hs

end Json
end Shapewright
