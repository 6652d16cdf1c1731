import Mathlib.Data.List.Forall2
import Shapewright.Json.Parser
import Shapewright.Json.Printer
import Shapewright.Proofs.Json.Canonical
import Shapewright.Proofs.Text.Quoted

/-!
# Documents that are written are read back

A document is written without white space, and reading what is written gives the document again, with
its fields in their order and its numbers as they are spelled.

* `Json.number?_append` — a number ends where its characters end.
* `Json.Piece.Written` — how the pieces of a string are written.
* `Json.Spelled` — what a character may be written with inside a string so that it is read back;
  `Json.string?_flatMap` — then whole strings are read back, whoever writes them.
* `Json.value?_fieldsText` — an object whose names are written in some way is read back exactly if its
  names are.
* `Json.readBack` — the round trip for a value, which may be followed by more of a document.
* `Json.parse?_compact` — the round trip for a whole text, up to the nesting that a reader takes.

The readers are bounded by a number that they count down; twice the length of the text is enough, since
every level and every item takes a character of its own.
-/

set_option autoImplicit false

namespace Shapewright
namespace Json

/-! ## Numbers -/

/-- The characters that a number may go on with. -/
def isNumeral (c : Char) : Bool :=
  isDigit c || ['.', 'e', 'E', '+', '-'].contains c

/-- A text before which a number ends. -/
def Stops (rest : List Char) : Prop := ∀ c ∈ rest.head?, isNumeral c = false

theorem stops_nil : Stops [] := by simp [Stops]

theorem stops_cons {c : Char} (h : isNumeral c = false) (rest : List Char) : Stops (c :: rest) := by
  simpa [Stops] using h

section

variable {cs rest : List Char}

theorem Stops.isDigit_eq (h : Stops rest) : ∀ c ∈ rest.head?, isDigit c = false := fun c hc => by
  have hnumeral := h c hc
  simp only [isNumeral, Bool.or_eq_false_iff] at hnumeral
  exact hnumeral.1

/-- What follows a number does not make it start with another character. -/
theorem Stops.append_ne (h : Stops rest) {c : Char} (hc : isNumeral c = true)
    (hcs : ∀ tail, cs ≠ c :: tail) (tail : List Char) : cs ++ rest ≠ c :: tail := by
  cases cs with
  | nil =>
    rintro rfl
    exact absurd (h c rfl) (by simp [hc])
  | cons d cs =>
    intro heq
    exact hcs cs (by rw [(List.cons.inj heq).1])

theorem span_append {p : Char → Bool} (cs : List Char) (h : ∀ c ∈ rest.head?, p c = false) :
    (cs ++ rest).takeWhile p = cs.takeWhile p ∧ (cs ++ rest).dropWhile p = cs.dropWhile p ++ rest := by
  induction cs with
  | nil =>
    cases rest with
    | nil => exact ⟨rfl, rfl⟩
    | cons c rest => simp [h c rfl]
  | cons c cs ih => cases hc : p c <;> simp [hc, ih]

/-! Each part of a number is read as if nothing followed, and what it is read from is the part and what
is left. -/

theorem sign_of_ne (h : ∀ tail, cs ≠ '-' :: tail) : sign cs = ([], cs) := by
  unfold sign
  split
  · exact absurd rfl (h _)
  · rfl

theorem sign_append (h : Stops rest) : sign (cs ++ rest) = ((sign cs).1, (sign cs).2 ++ rest) := by
  by_cases hcs : ∃ tail, cs = '-' :: tail
  · obtain ⟨tail, rfl⟩ := hcs
    rfl
  · simp only [not_exists] at hcs
    rw [sign_of_ne (h.append_ne (by decide) hcs), sign_of_ne hcs]

theorem fst_append_snd_sign (cs : List Char) : (sign cs).1 ++ (sign cs).2 = cs := by
  unfold sign
  split <;> rfl

theorem whole?_of_ne (h : ∀ tail, cs ≠ '0' :: tail) :
    whole? cs = if (cs.takeWhile isDigit).isEmpty then none
      else some (cs.takeWhile isDigit, cs.dropWhile isDigit) := by
  unfold whole?
  split
  · exact absurd rfl (h _)
  · rfl

theorem whole?_append {w r : List Char} (h : Stops rest) (hw : whole? cs = some (w, r)) :
    whole? (cs ++ rest) = some (w, r ++ rest) ∧ cs = w ++ r := by
  by_cases hcs : ∃ tail, cs = '0' :: tail
  · obtain ⟨tail, rfl⟩ := hcs
    cases hw
    exact ⟨rfl, rfl⟩
  · simp only [not_exists] at hcs
    obtain ⟨htake, hdrop⟩ := span_append cs h.isDigit_eq
    rw [whole?_of_ne hcs] at hw
    rw [whole?_of_ne (h.append_ne (by decide) hcs), htake, hdrop]
    split at hw
    · cases hw
    · rename_i hdigits
      cases hw
      exact ⟨if_neg hdigits, (List.takeWhile_append_dropWhile).symm⟩

theorem fraction?_of_ne (h : ∀ tail, cs ≠ '.' :: tail) : fraction? cs = some ([], cs) := by
  unfold fraction?
  split
  · exact absurd rfl (h _)
  · rfl

theorem fraction?_append {f r : List Char} (h : Stops rest) (hf : fraction? cs = some (f, r)) :
    fraction? (cs ++ rest) = some (f, r ++ rest) ∧ cs = f ++ r := by
  by_cases hcs : ∃ tail, cs = '.' :: tail
  · obtain ⟨tail, rfl⟩ := hcs
    obtain ⟨htake, hdrop⟩ := span_append tail h.isDigit_eq
    simp only [List.cons_append, fraction?, htake, hdrop] at hf ⊢
    split at hf
    · cases hf
    · rename_i hdigits
      cases hf
      exact ⟨if_neg hdigits, by rw [List.cons_append, List.takeWhile_append_dropWhile]⟩
  · simp only [not_exists] at hcs
    rw [fraction?_of_ne hcs] at hf
    cases hf
    exact ⟨fraction?_of_ne (h.append_ne (by decide) hcs), rfl⟩

theorem exponentSign_of_ne (hplus : ∀ tail, cs ≠ '+' :: tail) (hminus : ∀ tail, cs ≠ '-' :: tail) :
    exponentSign cs = ([], cs) := by
  unfold exponentSign
  split
  · exact absurd rfl (hplus _)
  · exact absurd rfl (hminus _)
  · rfl

theorem exponentSign_append (h : Stops rest) :
    exponentSign (cs ++ rest) = ((exponentSign cs).1, (exponentSign cs).2 ++ rest) := by
  by_cases hplus : ∃ tail, cs = '+' :: tail
  · obtain ⟨tail, rfl⟩ := hplus
    rfl
  · by_cases hminus : ∃ tail, cs = '-' :: tail
    · obtain ⟨tail, rfl⟩ := hminus
      rfl
    · simp only [not_exists] at hplus hminus
      rw [exponentSign_of_ne (h.append_ne (by decide) hplus) (h.append_ne (by decide) hminus),
        exponentSign_of_ne hplus hminus]

theorem fst_append_snd_exponentSign (cs : List Char) :
    (exponentSign cs).1 ++ (exponentSign cs).2 = cs := by
  unfold exponentSign
  split <;> rfl

theorem exponent?_of_ne (hlower : ∀ tail, cs ≠ 'e' :: tail) (hupper : ∀ tail, cs ≠ 'E' :: tail) :
    exponent? cs = some ([], cs) := by
  cases cs with
  | nil => rfl
  | cons mark tail =>
    have hmark : ¬ (mark == 'e' || mark == 'E') = true := by
      simp only [Bool.or_eq_true, beq_iff_eq, not_or]
      exact ⟨fun h => hlower tail (by rw [h]), fun h => hupper tail (by rw [h])⟩
    rw [exponent?, if_neg hmark]

theorem exponent?_mark {mark : Char} (h : mark = 'e' ∨ mark = 'E') (tail : List Char) :
    exponent? (mark :: tail) =
      if ((exponentSign tail).2.takeWhile isDigit).isEmpty then none
      else some (mark :: (exponentSign tail).1 ++ (exponentSign tail).2.takeWhile isDigit,
        (exponentSign tail).2.dropWhile isDigit) := by
  rcases h with rfl | rfl <;> rfl

theorem exponent?_append {e r : List Char} (h : Stops rest) (he : exponent? cs = some (e, r)) :
    exponent? (cs ++ rest) = some (e, r ++ rest) ∧ cs = e ++ r := by
  by_cases hcs : ∃ mark tail, (mark = 'e' ∨ mark = 'E') ∧ cs = mark :: tail
  · obtain ⟨mark, tail, hmark, rfl⟩ := hcs
    obtain ⟨htake, hdrop⟩ := span_append (exponentSign tail).2 h.isDigit_eq
    rw [exponent?_mark hmark] at he
    rw [List.cons_append, exponent?_mark hmark, exponentSign_append h, htake, hdrop]
    split at he
    · cases he
    · rename_i hdigits
      cases he
      refine ⟨if_neg hdigits, ?_⟩
      rw [List.cons_append, List.cons_append, List.append_assoc, List.takeWhile_append_dropWhile,
        fst_append_snd_exponentSign]
  · have hlower (tail : List Char) : cs ≠ 'e' :: tail := fun h => hcs ⟨_, tail, .inl rfl, h⟩
    have hupper (tail : List Char) : cs ≠ 'E' :: tail := fun h => hcs ⟨_, tail, .inr rfl, h⟩
    rw [exponent?_of_ne hlower hupper] at he
    cases he
    exact ⟨exponent?_of_ne (h.append_ne (by decide) hlower) (h.append_ne (by decide) hupper), rfl⟩

theorem number?_eq (cs : List Char) :
    number? cs = (whole? (sign cs).2).bind fun w => (fraction? w.2).bind fun f =>
      (exponent? f.2).bind fun e => some ((sign cs).1 ++ w.1 ++ f.1 ++ e.1, e.2) := rfl

/-- **A number** ends where its characters end. -/
theorem number?_append {t r : List Char} (h : Stops rest) (hn : number? cs = some (t, r)) :
    number? (cs ++ rest) = some (t, r ++ rest) ∧ cs = t ++ r := by
  have hsign := fst_append_snd_sign cs
  rw [number?_eq] at hn
  rw [number?_eq, sign_append h]
  generalize (sign cs).1 = s, (sign cs).2 = unsigned at *
  obtain ⟨⟨w, afterWhole⟩, hw, hn⟩ := Option.bind_eq_some_iff.1 hn
  obtain ⟨⟨f, afterFraction⟩, hf, hn⟩ := Option.bind_eq_some_iff.1 hn
  obtain ⟨⟨e, afterExponent⟩, he, hn⟩ := Option.bind_eq_some_iff.1 hn
  obtain ⟨hw', hwhole⟩ := whole?_append h hw
  obtain ⟨hf', hfraction⟩ := fraction?_append h hf
  obtain ⟨he', hexponent⟩ := exponent?_append h he
  cases hn
  constructor
  · simp only [hw', hf', he', Option.bind_some]
  · rw [List.append_assoc, ← hexponent, List.append_assoc, ← hfraction, List.append_assoc, ← hwhole,
      hsign]

end

/-- The text of a number is read as such, whatever it stands before. -/
theorem number?_of_isNumber {text : String} {rest : List Char} (ht : isNumber text = true)
    (h : Stops rest) : number? (text.toList ++ rest) = some (text.toList, rest) := by
  rw [isNumber] at ht
  cases hn : number? text.toList with
  | none => simp [hn] at ht
  | some read =>
    obtain ⟨t, r⟩ := read
    obtain rfl : r = [] := by simpa [hn] using ht
    obtain ⟨hread, htext⟩ := number?_append h hn
    rw [List.append_nil] at htext
    rw [hread, ← htext, List.nil_append]

/-- The first character of a number. -/
theorem head_of_isNumber {text : String} (ht : isNumber text = true) :
    ∃ c tail, text.toList = c :: tail ∧ isNumeral c = true := by
  rw [isNumber, number?_eq] at ht
  by_cases hsign : ∃ tail, text.toList = '-' :: tail
  · obtain ⟨tail, htail⟩ := hsign
    exact ⟨_, tail, htail, by decide⟩
  · simp only [not_exists] at hsign
    rw [sign_of_ne hsign] at ht
    cases htext : text.toList with
    | nil => simp [htext, whole?] at ht
    | cons c tail =>
      refine ⟨c, tail, rfl, ?_⟩
      by_cases hzero : c = '0'
      · subst hzero
        decide
      · rw [htext, whole?_of_ne (by simp [hzero])] at ht
        cases hc : isDigit c with
        | true => simp [isNumeral, hc]
        | false => simp [hc] at ht

/-! ## Strings -/

/-- What a piece of a string stands for. A code unit stands for the character with that number, if
there is one: then it is no half of a pair. -/
inductive Piece.Denotes : Piece → Char → Prop
  | char (c : Char) : Denotes (.char c) c
  | code (c : Char) : Denotes (.code c.toNat) c

theorem isHighHalf_toNat (c : Char) : isHighHalf c.toNat = false := by
  have hvalid : c.toNat < 0xD800 ∨ 0xDFFF < c.toNat ∧ c.toNat < 0x110000 := c.valid
  simp only [isHighHalf, Bool.and_eq_false_iff, decide_eq_false_iff_not]
  omega

theorem isLowHalf_toNat (c : Char) : isLowHalf c.toNat = false := by
  have hvalid : c.toNat < 0xD800 ∨ 0xDFFF < c.toNat ∧ c.toNat < 0x110000 := c.valid
  simp only [isLowHalf, Bool.and_eq_false_iff, decide_eq_false_iff_not]
  omega

/-- Pieces that stand for characters one by one stand for them together. -/
theorem characters_eq {ps : List Piece} {cs : List Char} (h : List.Forall₂ Piece.Denotes ps cs) :
    characters ps = cs := by
  induction h with
  | nil => rfl
  | @cons p c ps cs hp _ ih =>
    cases hp with
    | char => rw [characters, ih]
    | code =>
      rcases ps with _ | ⟨_ | lo, ps⟩ <;>
        simp only [characters, isHighHalf_toNat, isLowHalf_toNat, Bool.false_and, Bool.or_self,
          Bool.false_eq_true, if_false, Char.ofNat_toNat] at ih ⊢ <;>
        rw [ih]

/-- How a piece of a string is written. -/
inductive Piece.Written : Piece → List Char → Prop
  | char {c : Char} (hquote : c ≠ '"') (hslash : c ≠ '\\') (hlow : 0x20 ≤ c.toNat) :
    Written (.char c) [c]
  | letter {letter c : Char} (h : (letter, c) ∈ escapes) : Written (.char c) ['\\', letter]
  | code {a b c d : Char} {n : Nat} (h : Text.hexNumber? [a, b, c, d] = some n) :
    Written (.code n) ['\\', 'u', a, b, c, d]

/-- A piece is read whatever follows. -/
theorem Piece.Written.pieces?_append {p : Piece} {text : List Char} (h : p.Written text)
    (rest : List Char) : pieces? (text ++ rest) = (pieces? rest).map fun (ps, r) => (p :: ps, r) := by
  cases h with
  | @char c hquote hslash hlow =>
    have hif : ¬ (decide (c.toNat < 0x20) || c == '\\') = true := by
      simp [hslash]; omega
    rw [List.singleton_append, pieces?] <;> simp [*, Option.map_eq_bind]
  | letter h =>
    have hall : ∀ e ∈ escapes, e.1 ≠ 'u' ∧ escapes.lookup e.1 = some e.2 := by decide
    obtain ⟨hu, hlookup⟩ := hall _ h
    simp only [List.cons_append, List.nil_append]
    rw [pieces?] <;> simp_all [Option.map_eq_bind]
  | code hn =>
    simp only [List.cons_append, List.nil_append]
    simp [pieces?, hn, Option.map_eq_bind]

/-- A way to write a character inside a string, from which it is read back whatever follows. -/
def Spelled (written : List Char) (c : Char) : Prop :=
  ∃ p, Piece.Denotes p c ∧
    ∀ rest, pieces? (written ++ rest) = (pieces? rest).map fun (ps, r) => (p :: ps, r)

theorem spelled_self {c : Char} (hquote : c ≠ '"') (hslash : c ≠ '\\') (hlow : 0x20 ≤ c.toNat) :
    Spelled [c] c :=
  ⟨.char c, .char c, (Piece.Written.char hquote hslash hlow).pieces?_append⟩

theorem spelled_letter {letter c : Char} (h : (letter, c) ∈ escapes) : Spelled ['\\', letter] c :=
  ⟨.char c, .char c, (Piece.Written.letter h).pieces?_append⟩

theorem spelled_number {c : Char} (h : c.toNat < 0x10000) :
    Spelled ('\\' :: 'u' :: Text.hexDigits 4 c.toNat) c := by
  have hn := Text.hexNumber?_hexDigits 4 (n := c.toNat) (by omega)
  simp only [Text.hexDigits, List.nil_append, List.cons_append] at hn ⊢
  exact ⟨.code c.toNat, .code c, (Piece.Written.code hn).pieces?_append⟩

/-- **Strings** are read back if their characters are, one by one. -/
theorem string?_flatMap {write : Char → List Char} {cs : List Char}
    (h : ∀ c ∈ cs, Spelled (write c) c) (rest : List Char) :
    string? (cs.flatMap write ++ '"' :: rest) = some (String.ofList cs, rest) := by
  have hpieces : ∃ ps, List.Forall₂ Piece.Denotes ps cs ∧
      pieces? (cs.flatMap write ++ '"' :: rest) = some (ps, rest) := by
    induction cs with
    | nil => exact ⟨[], .nil, rfl⟩
    | cons c cs ih =>
      obtain ⟨ps, hps, hread⟩ := ih fun d hd => h d (List.mem_cons_of_mem c hd)
      obtain ⟨p, hp, hwritten⟩ := h c List.mem_cons_self
      refine ⟨p :: ps, .cons hp hps, ?_⟩
      rw [List.flatMap_cons, List.append_assoc, hwritten, hread, Option.map_some]
  obtain ⟨ps, hps, hread⟩ := hpieces
  simp only [string?, hread, Option.map_some, characters_eq hps]

/-- Every character is written as a piece that stands for it. -/
theorem written_escape (page : Bool) (c : Char) :
    ∃ p, Piece.Denotes p c ∧ Piece.Written p (escape page c) := by
  rw [escape]
  split
  · rename_i hmark
    rcases Bool.or_eq_true_iff.1 hmark with h | h <;> rw [eq_of_beq h] <;>
      exact ⟨_, .char _, .letter (by decide)⟩
  · rename_i hmark
    simp only [Bool.or_eq_true, beq_iff_eq, not_or] at hmark
    split
    · rename_i letter hletter
      have hall : ∀ e ∈ shortEscapes, (e.2, e.1) ∈ escapes := by decide
      obtain ⟨front, back, heq, -⟩ := List.lookup_eq_some_iff.1 hletter
      exact ⟨_, .char c, .letter (hall (c, letter) (by simp [heq]))⟩
    · split
      · rename_i hnumber
        have hsensitive : isSensitive c = true → c.toNat < 0x10000 := by
          simp only [isSensitive, Bool.or_eq_true, beq_iff_eq]
          rintro ((((rfl | rfl) | rfl) | rfl) | rfl) <;> decide
        have hlt : c.toNat < 16 ^ 4 := by
          rcases Bool.or_eq_true_iff.1 hnumber with h | h
          · have := of_decide_eq_true h
            omega
          · exact hsensitive (Bool.and_eq_true_iff.1 h).1
        exact ⟨_, .code c, .code (Text.hexNumber?_hexDigits 4 hlt)⟩
      · rename_i hnumber
        have hlow : ¬ c.toNat < 0x20 := fun h => hnumber (by simp [h])
        exact ⟨_, .char c, .char hmark.1 hmark.2 (Nat.le_of_not_lt hlow)⟩

/-- Every character is written so that it is read back. -/
theorem spelled_escape (page : Bool) (c : Char) : Spelled (escape page c) c := by
  obtain ⟨p, hp, hwritten⟩ := written_escape page c
  exact ⟨p, hp, hwritten.pieces?_append⟩

theorem toList_quoted (page : Bool) (s : String) :
    (quoted page s).toList = '"' :: (s.toList.flatMap (escape page) ++ ['"']) := by
  rw [quoted, String.toList_ofList, List.cons_append]

/-- A string as it is written in a document. -/
theorem string?_escape (page : Bool) (s : String) (rest : List Char) :
    string? (s.toList.flatMap (escape page) ++ '"' :: rest) = some (s, rest) := by
  rw [string?_flatMap fun c _ => spelled_escape page c, String.ofList_toList]

/-! ## Values -/

theorem skipSpace_cons {c : Char} (h : isSpace c = false) (rest : List Char) :
    skipSpace (c :: rest) = c :: rest := by
  rw [skipSpace, List.dropWhile_cons_of_neg (by simp [h])]

theorem isSpace_of_isNumeral {c : Char} (h : isNumeral c = true) : isSpace c = false := by
  cases hspace : isSpace c with
  | false => rfl
  | true =>
    simp only [isSpace, Bool.or_eq_true, beq_iff_eq] at hspace
    rcases hspace with ((rfl | rfl) | rfl) | rfl <;> exact absurd h (by decide)

/-- A text that starts as numbers do is read as one. -/
theorem value?_of_isNumeral {c : Char} (h : isNumeral c = true) (fuel : Nat) (tail : List Char) :
    value? (fuel + 1) (c :: tail) =
      (number? (c :: tail)).map fun (text, rest) => (.number (String.ofList text), rest) := by
  rw [value?, skipSpace_cons (isSpace_of_isNumeral h)]
  split <;> rename_i heq <;> first | rfl | (cases heq; exact absurd h (by decide))

theorem compactItems_eq_map (items : List Json) : compactItems items = items.map compact := by
  induction items with
  | nil => rfl
  | cons v items ih => rw [compactItems, ih, List.map_cons]

/-- Items as they are written. -/
def itemsText (items : List Json) : List Char :=
  [','].intercalate (items.map fun v => (compact v).toList)

theorem toList_compact_array (items : List Json) :
    (compact (.array items)).toList = '[' :: (itemsText items ++ [']']) := by
  rw [compact, String.toList_append, String.toList_append, String.toList_intercalate,
    compactItems_eq_map, List.map_map]
  rfl

/-- Fields as they are written, their names in a way that is given. -/
def fieldsText (write : Char → List Char) (fields : List (String × Json)) : List Char :=
  [','].intercalate (fields.map fun (k, v) =>
    '"' :: (k.toList.flatMap write ++ '"' :: ':' :: (compact v).toList))

theorem compactFields_eq_map (fields : List (String × Json)) :
    compactFields fields = fields.map fun (k, v) => quoted true k ++ ":" ++ compact v := by
  induction fields with
  | nil => rfl
  | cons e fields ih => rw [compactFields, ih, List.map_cons]

theorem toList_compact_object (fields : List (String × Json)) :
    (compact (.object fields)).toList = '\x7b' :: (fieldsText (escape true) fields ++ ['\x7d']) := by
  have hfields : (compactFields fields).map String.toList = fields.map fun (k, v) =>
      '"' :: (k.toList.flatMap (escape true) ++ '"' :: ':' :: (compact v).toList) := by
    rw [compactFields_eq_map, List.map_map]
    exact List.map_congr_left fun e _ => by simp [toList_quoted]
  rw [compact, String.toList_append, String.toList_append, String.toList_intercalate, hfields]
  rfl

/-- No document starts with white space or ends an array. -/
theorem head_compact {v : Json} (h : v.allNumbers isNumber = true) :
    ∃ c tail, (compact v).toList = c :: tail ∧ isSpace c = false ∧ c ≠ ']' := by
  cases v with
  | null => exact ⟨_, _, rfl, by decide, by decide⟩
  | bool b => cases b <;> exact ⟨_, _, rfl, by decide, by decide⟩
  | number text =>
    obtain ⟨c, tail, htext, hc⟩ := head_of_isNumber (by simpa [allNumbers] using h)
    refine ⟨c, tail, htext, isSpace_of_isNumeral hc, ?_⟩
    rintro rfl
    exact absurd hc (by decide)
  | string s => exact ⟨_, _, toList_quoted true s, by decide, by decide⟩
  | array items => exact ⟨_, _, toList_compact_array items, by decide, by decide⟩
  | object fields => exact ⟨_, _, toList_compact_object fields, by decide, by decide⟩

/-- A document that is read back where it stands, if the reader may take as many steps. -/
def ReadBack (v : Json) : Prop :=
  ∀ fuel rest, Stops rest → 2 * (compact v).toList.length ≤ fuel →
    value? fuel ((compact v).toList ++ rest) = some (v, rest)

/-! ### Arrays -/

theorem items?_last {fuel : Nat} {cs rest : List Char} {v : Json}
    (h : value? fuel cs = some (v, ']' :: rest)) : items? (fuel + 1) cs = some ([v], rest) := by
  rw [items?, h]
  rfl

theorem items?_more {fuel : Nat} {cs rest : List Char} {v : Json}
    (h : value? fuel cs = some (v, ',' :: rest)) :
    items? (fuel + 1) cs = (items? fuel rest).map fun (vs, rest) => (v :: vs, rest) := by
  rw [items?, h, Option.map_eq_bind]
  rfl

/-- Items are read back if each of them is. -/
theorem items?_itemsText {items : List Json} (hne : items ≠ []) (hitems : ∀ v ∈ items, ReadBack v)
    {fuel : Nat} (rest : List Char) (hfuel : 2 * (itemsText items).length < fuel) :
    items? fuel (itemsText items ++ ']' :: rest) = some (items, rest) := by
  induction items generalizing fuel with
  | nil => exact absurd rfl hne
  | cons v items ih =>
    have hv := hitems v List.mem_cons_self
    obtain ⟨fuel, rfl⟩ : ∃ n, fuel = n + 1 := ⟨fuel - 1, by omega⟩
    cases items with
    | nil =>
      simp only [itemsText, List.map_cons, List.map_nil, List.intercalate_singleton] at hfuel ⊢
      exact items?_last (hv _ _ (stops_cons (by decide) _) (by omega))
    | cons w items =>
      have htext : itemsText (v :: w :: items) =
          (compact v).toList ++ ',' :: itemsText (w :: items) := by simp [itemsText]
      rw [htext, List.length_append, List.length_cons] at hfuel
      rw [htext, List.append_assoc, List.cons_append,
        items?_more (hv _ _ (stops_cons (by decide) _) (by omega)),
        ih (by simp) (fun u hu => hitems u (List.mem_cons_of_mem v hu)) (by omega), Option.map_some]

/-! ### Objects -/

section

variable {fuel : Nat} {cs rest vtext : List Char} {key : String} {v : Json}

theorem fields?_unreadable (h : string? cs = none) : fields? (fuel + 1) ('"' :: cs) = none := by
  rw [fields?, skipSpace_cons (by decide)]
  simp [h]

theorem fields?_last (hkey : string? cs = some (key, ':' :: vtext))
    (hv : value? fuel vtext = some (v, '\x7d' :: rest)) :
    fields? (fuel + 1) ('"' :: cs) = some ([(key, v)], rest) := by
  rw [fields?, skipSpace_cons (by decide)]
  simp [hkey, hv, skipSpace, isSpace]

theorem fields?_more (hkey : string? cs = some (key, ':' :: vtext))
    (hv : value? fuel vtext = some (v, ',' :: rest)) :
    fields? (fuel + 1) ('"' :: cs) =
      (fields? fuel rest).map fun (fs, rest) => ((key, v) :: fs, rest) := by
  rw [fields?, skipSpace_cons (by decide)]
  simp [hkey, hv, skipSpace, isSpace, Option.map_eq_bind]

end

/-- Fields are read back if their names and values are; one name that cannot be read is enough for
them not to be. -/
theorem fields?_fieldsText {write : Char → List Char} {readable : String → Bool}
    {fields : List (String × Json)} (hne : fields ≠ [])
    (hkeys : ∀ e ∈ fields, ∀ rest, string? (e.1.toList.flatMap write ++ '"' :: rest) =
      if readable e.1 then some (e.1, rest) else none)
    (hvalues : ∀ e ∈ fields, ReadBack e.2) {fuel : Nat} (rest : List Char)
    (hfuel : 2 * (fieldsText write fields).length < fuel) :
    fields? fuel (fieldsText write fields ++ '\x7d' :: rest) =
      if fields.all fun e => readable e.1 then some (fields, rest) else none := by
  induction fields generalizing fuel with
  | nil => exact absurd rfl hne
  | cons e fields ih =>
    obtain ⟨k, v⟩ := e
    have hk := hkeys (k, v) List.mem_cons_self
    have hv : ReadBack v := hvalues (k, v) List.mem_cons_self
    obtain ⟨fuel, rfl⟩ : ∃ n, fuel = n + 1 := ⟨fuel - 1, by omega⟩
    cases fields with
    | nil =>
      have htext : fieldsText write [(k, v)] =
          '"' :: (k.toList.flatMap write ++ '"' :: ':' :: (compact v).toList) := by simp [fieldsText]
      rw [htext] at hfuel ⊢
      simp only [List.length_cons, List.length_append] at hfuel
      simp only [List.cons_append, List.append_assoc, List.all_cons, List.all_nil, Bool.and_true]
      cases hreadable : readable k with
      | false => exact fields?_unreadable (by rw [hk, hreadable]; rfl)
      | true =>
        exact fields?_last (by rw [hk, hreadable]; rfl)
          (hv _ _ (stops_cons (by decide) _) (by omega))
    | cons f fields =>
      have htext : fieldsText write ((k, v) :: f :: fields) =
          '"' :: (k.toList.flatMap write ++ '"' :: ':' :: ((compact v).toList ++
            ',' :: fieldsText write (f :: fields))) := by simp [fieldsText]
      rw [htext] at hfuel ⊢
      simp only [List.length_cons, List.length_append] at hfuel
      rw [List.all_cons]
      simp only [List.cons_append, List.append_assoc]
      cases hreadable : readable k with
      | false => exact fields?_unreadable (by rw [hk, hreadable]; rfl)
      | true =>
        rw [fields?_more (by rw [hk, hreadable]; rfl)
          (hv _ _ (stops_cons (by decide) _) (by omega)),
          ih (by simp) (fun e he => hkeys e (List.mem_cons_of_mem _ he))
            (fun e he => hvalues e (List.mem_cons_of_mem _ he)) (by omega), Bool.true_and]
        split <;> rfl

theorem value?_object (fuel : Nat) (tail : List Char) :
    value? (fuel + 1) ('\x7b' :: '"' :: tail) =
      (fields? fuel ('"' :: tail)).map fun (fields, rest) => (.object fields, rest) := by
  rw [value?, skipSpace_cons (by decide)]
  simp only [skipSpace_cons (show isSpace '"' = false by decide)]
  rfl

/-- An object in its braces. -/
theorem value?_fieldsText {write : Char → List Char} {readable : String → Bool}
    {fields : List (String × Json)}
    (hkeys : ∀ e ∈ fields, ∀ rest, string? (e.1.toList.flatMap write ++ '"' :: rest) =
      if readable e.1 then some (e.1, rest) else none)
    (hvalues : ∀ e ∈ fields, ReadBack e.2) {fuel : Nat} (rest : List Char)
    (hfuel : 2 * (fieldsText write fields).length + 1 < fuel) :
    value? fuel ('\x7b' :: (fieldsText write fields ++ '\x7d' :: rest)) =
      if fields.all fun e => readable e.1 then some (.object fields, rest) else none := by
  obtain ⟨fuel, rfl⟩ : ∃ n, fuel = n + 1 := ⟨fuel - 1, by omega⟩
  cases fields with
  | nil => rfl
  | cons e fields =>
    have hhead : ∃ tail, fieldsText write (e :: fields) = '"' :: tail := by
      cases fields <;> exact ⟨_, by rw [fieldsText]; simp; rfl⟩
    have hread := fields?_fieldsText (by simp) hkeys hvalues rest (show _ < fuel by omega)
    obtain ⟨tail, htail⟩ := hhead
    rw [htail, List.cons_append] at hread ⊢
    rw [value?_object, hread]
    split <;> rfl

/-! ### The round trip -/

theorem value?_array {c : Char} (hspace : isSpace c = false) (hc : c ≠ ']') (fuel : Nat)
    (tail : List Char) : value? (fuel + 1) ('[' :: c :: tail) =
      (items? fuel (c :: tail)).map fun (items, rest) => (.array items, rest) := by
  rw [value?, skipSpace_cons (by decide)]
  simp only [skipSpace_cons hspace]
  split
  · rename_i heq
    exact absurd (List.cons.inj heq).1 hc
  · rfl

/-- An array is read back if its items are. -/
theorem readBack_array {items : List Json} (hitems : ∀ v ∈ items, ReadBack v)
    (hnumbers : ∀ v ∈ items, v.allNumbers isNumber = true) : ReadBack (.array items) := by
  intro fuel rest _ hfuel
  rw [toList_compact_array] at hfuel ⊢
  simp only [List.length_cons, List.length_append, List.length_nil] at hfuel
  obtain ⟨fuel, rfl⟩ : ∃ n, fuel = n + 1 := ⟨fuel - 1, by omega⟩
  simp only [List.cons_append, List.append_assoc, List.nil_append]
  cases items with
  | nil => rfl
  | cons v items =>
    have hread := items?_itemsText (by simp) hitems rest (show _ < fuel by omega)
    obtain ⟨c, tail, hv, hspace, hc⟩ := head_compact (hnumbers v List.mem_cons_self)
    obtain ⟨more, hmore⟩ : ∃ more, itemsText (v :: items) = c :: more := by
      cases items <;> exact ⟨_, by rw [itemsText]; simp [hv]; rfl⟩
    rw [hmore, List.cons_append] at hread ⊢
    rw [value?_array hspace hc, hread, Option.map_some]

theorem readBack_number {text : String} (h : isNumber text = true) : ReadBack (.number text) := by
  intro fuel rest hrest hfuel
  obtain ⟨c, tail, htext, hc⟩ := head_of_isNumber h
  have hread := number?_of_isNumber h hrest
  rw [compact, htext, List.length_cons] at hfuel
  obtain ⟨fuel, rfl⟩ : ∃ n, fuel = n + 1 := ⟨fuel - 1, by omega⟩
  rw [htext, List.cons_append] at hread
  rw [compact, htext, List.cons_append, value?_of_isNumeral hc, hread, Option.map_some,
    ← String.ofList_toList (s := text), htext]

theorem readBack_string (s : String) : ReadBack (.string s) := by
  intro fuel rest _ hfuel
  rw [compact, toList_quoted, List.length_cons] at hfuel
  obtain ⟨fuel, rfl⟩ : ∃ n, fuel = n + 1 := ⟨fuel - 1, by omega⟩
  rw [compact, toList_quoted, List.cons_append, List.append_assoc, value?,
    skipSpace_cons (by decide)]
  show (string? _).map _ = _
  rw [List.singleton_append, string?_escape, Option.map_some]

theorem readBack_object {fields : List (String × Json)} (hvalues : ∀ e ∈ fields, ReadBack e.2) :
    ReadBack (.object fields) := by
  intro fuel rest _ hfuel
  let readable (_ : String) : Bool := true
  have hkeys : ∀ e ∈ fields, ∀ rest, string? (e.1.toList.flatMap (escape true) ++ '"' :: rest) =
      if readable e.1 then some (e.1, rest) else none := fun e _ => string?_escape true e.1
  rw [toList_compact_object] at hfuel ⊢
  simp only [List.length_cons, List.length_append, List.length_nil] at hfuel
  simp only [List.cons_append, List.append_assoc, List.nil_append]
  rw [value?_fieldsText hkeys hvalues rest (by omega), if_pos (by simp [readable])]

/-- **A value** is read back wherever it stands. -/
theorem readBack (v : Json) (h : v.allNumbers isNumber = true) : ReadBack v := by
  induction v using Json.induction with
  | null =>
    intro fuel rest _ hfuel
    obtain ⟨fuel, rfl⟩ := Nat.exists_eq_add_of_le' (Nat.le_trans (by decide : 1 ≤ _) hfuel)
    rfl
  | bool b =>
    intro fuel rest _ hfuel
    cases b <;>
      obtain ⟨fuel, rfl⟩ := Nat.exists_eq_add_of_le' (Nat.le_trans (by decide : 1 ≤ _) hfuel) <;>
      rfl
  | number text => exact readBack_number (by simpa [allNumbers] using h)
  | string s => exact readBack_string s
  | array items ih =>
    rw [allNumbers, allNumbersItems_iff] at h
    exact readBack_array (fun v hv => ih v hv (h v hv)) h
  | object fields ih =>
    rw [allNumbers, allNumbersFields_iff] at h
    exact readBack_object fun e he => ih e he (h e he)

/-- A value is read back with what follows it, if it is not nested deeper than a reader takes. -/
theorem first?_compact {v : Json} (h : v.allNumbers isNumber = true) {rest : List Char}
    (hrest : Stops rest) : first? ((compact v).toList ++ rest) =
      if v.nesting ≤ maxNesting then some (v, rest) else none := by
  have hfuel : 2 * (compact v).toList.length ≤ 2 * ((compact v).toList ++ rest).length + 1 := by
    rw [List.length_append]
    omega
  rw [first?, readBack v h _ rest hrest hfuel]
  rfl

/-- **Documents** that are written are read back, if they are not nested deeper than a reader takes. -/
theorem parse?_compact {v : Json} (h : v.allNumbers isNumber = true) :
    parse? (compact v) = if v.nesting ≤ maxNesting then some v else none := by
  have hread := first?_compact h stops_nil
  rw [List.append_nil] at hread
  rw [parse?, hread]
  by_cases hnesting : v.nesting ≤ maxNesting <;> simp [hnesting, skipSpace]

end Json
end Shapewright
