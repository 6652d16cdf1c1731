import Mathlib.Data.List.TakeWhile
import Shapewright.Number.Digits
import Shapewright.Proofs.Json.RoundTrip

/-!
# How numbers are spelled

A number of a document is an optional minus, digits, optional digits behind a point, and an optional
exponent.  Taken apart in this way it can be put together again, and it has an exact value.

* `Json.Spelling` — a number that is taken apart; its parts are what they have to be.
* `Json.Spelling.chars` — the text that it was.
* `Json.Spelling.toRat` — the number that is meant.
* `Json.number?_spelling`, `Json.exists_spelling` — the reader of numbers takes such texts and no
  others.
* `Json.isNumber_iff` — so these are the texts of numbers.
-/

set_option autoImplicit false

namespace Shapewright
namespace Json

/-- The exponent of a number as it is written. -/
structure Exponent where
  mark : Char
  sign : List Char
  digits : List Char
  mark_eq : mark = 'e' ∨ mark = 'E'
  sign_mem : sign ∈ [[], ['+'], ['-']]
  digits_ne : digits ≠ []
  isDigit_digits : ∀ c ∈ digits, isDigit c = true

/-- A number as it is written. Without digits behind the point there is no point. -/
structure Spelling where
  negative : Bool
  whole : List Char
  fraction : List Char
  exponent : Option Exponent
  whole_ne : whole ≠ []
  whole_of_zero : ∀ tail, whole = '0' :: tail → tail = []
  isDigit_whole : ∀ c ∈ whole, isDigit c = true
  isDigit_fraction : ∀ c ∈ fraction, isDigit c = true

/-- The text of an exponent. -/
def Exponent.chars (e : Exponent) : List Char := e.mark :: e.sign ++ e.digits

/-- The exponent that is meant. -/
def Exponent.value (e : Exponent) : Int := Number.signed (e.sign == ['-']) (Number.value e.digits)

namespace Spelling

/-- The text behind the digits of a fraction. -/
def exponentChars (n : Spelling) : List Char := (n.exponent.map Exponent.chars).getD []

/-- A point and digits, if there are any. -/
def pointed : List Char → List Char
  | [] => []
  | digits => '.' :: digits

/-- The text of a number. -/
def chars (n : Spelling) : List Char :=
  (if n.negative then ['-'] else []) ++ n.whole ++ pointed n.fraction ++ n.exponentChars

/-- The digits before and behind the point. -/
def digits (n : Spelling) : List Char := n.whole ++ n.fraction

/-- The power of ten that the digits are multiplied with. -/
def scale (n : Spelling) : Int := (n.exponent.map Exponent.value).getD 0 - n.fraction.length

/-- The size of the number that is meant. -/
def magnitude (n : Spelling) : Rat := Number.value n.digits * (10 : Rat) ^ n.scale

/-- The number that is meant. -/
def toRat (n : Spelling) : Rat := if n.negative then -n.magnitude else n.magnitude

end Spelling

/-! ## Reading the parts -/

section

variable {ds rest : List Char}

theorem span_of_all {p : Char → Bool} (hds : ∀ c ∈ ds, p c = true)
    (hrest : ∀ c ∈ rest.head?, p c = false) :
    (ds ++ rest).takeWhile p = ds ∧ (ds ++ rest).dropWhile p = rest := by
  obtain ⟨htake, hdrop⟩ := span_append ds hrest
  rw [htake, hdrop, List.takeWhile_eq_self_iff.2 hds, List.dropWhile_eq_nil_iff.2 hds]
  exact ⟨rfl, List.nil_append rest⟩

theorem whole?_digits (hne : ds ≠ []) (hzero : ∀ tail, ds = '0' :: tail → tail = [])
    (hds : ∀ c ∈ ds, isDigit c = true) (hrest : ∀ c ∈ rest.head?, isDigit c = false) :
    whole? (ds ++ rest) = some (ds, rest) := by
  by_cases h : ∃ tail, ds = '0' :: tail
  · obtain ⟨tail, rfl⟩ := h
    rw [hzero tail rfl]
    rfl
  · obtain ⟨c, tail, rfl⟩ := List.exists_cons_of_ne_nil hne
    have hc : c ≠ '0' := fun hc => h ⟨tail, by rw [hc]⟩
    obtain ⟨htake, hdrop⟩ := span_of_all hds hrest
    rw [whole?_of_ne (by simp [hc]), htake, hdrop]
    rfl

theorem fraction?_pointed (hds : ∀ c ∈ ds, isDigit c = true)
    (hrest : ∀ c ∈ rest.head?, isDigit c = false ∧ c ≠ '.') :
    fraction? (Spelling.pointed ds ++ rest) = some (Spelling.pointed ds, rest) := by
  cases ds with
  | nil =>
    refine fraction?_of_ne fun tail htail => ?_
    rw [Spelling.pointed, List.nil_append] at htail
    exact (hrest '.' (by rw [htail]; rfl)).2 rfl
  | cons c ds =>
    obtain ⟨htake, hdrop⟩ := span_of_all hds fun c hc => (hrest c hc).1
    show fraction? ('.' :: (c :: ds ++ rest)) = _
    rw [fraction?, htake, hdrop]
    rfl

theorem exponent?_chars (e : Exponent) (hrest : Stops rest) :
    exponent? (e.chars ++ rest) = some (e.chars, rest) := by
  have hsign : exponentSign (e.sign ++ e.digits ++ rest) = (e.sign, e.digits ++ rest) := by
    have hmem := e.sign_mem
    simp only [List.mem_cons, List.not_mem_nil, or_false] at hmem
    rcases hmem with h | h | h
    · obtain ⟨c, tail, hc⟩ := List.exists_cons_of_ne_nil e.digits_ne
      have hdigit : isDigit c = true := e.isDigit_digits c (by rw [hc]; exact List.mem_cons_self)
      rw [h, hc]
      refine exponentSign_of_ne (fun t ht => ?_) fun t ht => ?_
      · rw [(List.cons.inj ht).1] at hdigit
        exact absurd hdigit (by decide)
      · rw [(List.cons.inj ht).1] at hdigit
        exact absurd hdigit (by decide)
    · rw [h]
      rfl
    · rw [h]
      rfl
  obtain ⟨htake, hdrop⟩ := span_of_all e.isDigit_digits hrest.isDigit_eq
  rw [Exponent.chars, List.cons_append, List.cons_append, exponent?_mark e.mark_eq, hsign, htake,
    hdrop, if_neg (by simp [e.digits_ne]), List.cons_append]

end

/-! ## Taking the parts -/

section

variable {cs r : List Char}

theorem exists_digits_of_takeWhile (cs : List Char) : ∀ c ∈ cs.takeWhile isDigit, isDigit c = true :=
  fun _ hc => List.mem_takeWhile_imp hc

theorem of_whole? {w : List Char} (h : whole? cs = some (w, r)) :
    w ≠ [] ∧ (∀ tail, w = '0' :: tail → tail = []) ∧ ∀ c ∈ w, isDigit c = true := by
  by_cases hcs : ∃ tail, cs = '0' :: tail
  · obtain ⟨tail, rfl⟩ := hcs
    cases h
    exact ⟨by simp, fun tail htail => (List.cons.inj htail).2.symm, List.forall_mem_singleton.2 rfl⟩
  · simp only [not_exists] at hcs
    rw [whole?_of_ne hcs] at h
    split at h
    · cases h
    · rename_i hdigits
      cases h
      refine ⟨by simpa using hdigits, fun tail htail => ?_, exists_digits_of_takeWhile cs⟩
      cases cs with
      | nil => cases htail
      | cons c cs =>
        rw [List.takeWhile_cons] at htail
        split at htail
        · exact absurd (by rw [(List.cons.inj htail).1]) (hcs cs)
        · cases htail

theorem exists_of_fraction? {f : List Char} (h : fraction? cs = some (f, r)) :
    ∃ ds, f = Spelling.pointed ds ∧ ∀ c ∈ ds, isDigit c = true := by
  by_cases hcs : ∃ tail, cs = '.' :: tail
  · obtain ⟨tail, rfl⟩ := hcs
    rw [fraction?] at h
    split at h
    · cases h
    · rename_i hdigits
      cases h
      refine ⟨tail.takeWhile isDigit, ?_, exists_digits_of_takeWhile tail⟩
      cases hds : tail.takeWhile isDigit with
      | nil => simp [hds] at hdigits
      | cons => rfl
  · simp only [not_exists] at hcs
    rw [fraction?_of_ne hcs] at h
    cases h
    exact ⟨[], rfl, by simp⟩

theorem exists_of_exponent? {e : List Char} (h : exponent? cs = some (e, r)) :
    ∃ x : Option Exponent, e = (x.map Exponent.chars).getD [] := by
  by_cases hcs : ∃ mark tail, (mark = 'e' ∨ mark = 'E') ∧ cs = mark :: tail
  · obtain ⟨mark, tail, hmark, rfl⟩ := hcs
    rw [exponent?_mark hmark] at h
    split at h
    · cases h
    · rename_i hdigits
      cases h
      have hsign : (exponentSign tail).1 ∈ [[], ['+'], ['-']] := by
        unfold exponentSign
        split <;> simp
      exact ⟨some ⟨mark, _, _, hmark, hsign, by simpa using hdigits, exists_digits_of_takeWhile _⟩,
        rfl⟩
  · have hlower (tail : List Char) : cs ≠ 'e' :: tail := fun h => hcs ⟨_, tail, .inl rfl, h⟩
    have hupper (tail : List Char) : cs ≠ 'E' :: tail := fun h => hcs ⟨_, tail, .inr rfl, h⟩
    rw [exponent?_of_ne hlower hupper] at h
    cases h
    exact ⟨none, rfl⟩

end

/-! ## Numbers -/

theorem Spelling.head?_exponentChars (n : Spelling) :
    ∀ c ∈ n.exponentChars.head?, isDigit c = false ∧ c ≠ '.' := by
  intro c hc
  cases he : n.exponent with
  | none => simp [exponentChars, he] at hc
  | some e =>
    obtain rfl : e.mark = c := by simpa [exponentChars, he, Exponent.chars] using hc
    rcases e.mark_eq with h | h <;> rw [h] <;> decide

theorem Spelling.exponent?_exponentChars (n : Spelling) {rest : List Char} (hrest : Stops rest) :
    exponent? (n.exponentChars ++ rest) = some (n.exponentChars, rest) := by
  cases he : n.exponent with
  | none =>
    simp only [exponentChars, he, Option.map_none, Option.getD_none, List.nil_append]
    exact exponent?_of_ne (fun t ht => absurd (hrest 'e' (by rw [ht]; rfl)) (by decide))
      fun t ht => absurd (hrest 'E' (by rw [ht]; rfl)) (by decide)
  | some e =>
    simp only [exponentChars, he, Option.map_some, Option.getD_some]
    exact exponent?_chars e hrest

/-- **A number that is put together** is read as such. -/
theorem number?_spelling (n : Spelling) {rest : List Char} (hrest : Stops rest) :
    number? (n.chars ++ rest) = some (n.chars, rest) := by
  have hsign : sign (n.chars ++ rest) = (if n.negative then ['-'] else [],
      n.whole ++ (Spelling.pointed n.fraction ++ (n.exponentChars ++ rest))) := by
    cases hneg : n.negative with
    | true => simp [Spelling.chars, hneg, sign]
    | false =>
      obtain ⟨c, tail, hc⟩ := List.exists_cons_of_ne_nil n.whole_ne
      have hdigit : isDigit c = true := n.isDigit_whole c (by rw [hc]; exact List.mem_cons_self)
      simp only [Spelling.chars, hneg, Bool.false_eq_true, if_false, List.nil_append,
        List.append_assoc]
      refine sign_of_ne fun t ht => ?_
      rw [hc, List.cons_append] at ht
      rw [(List.cons.inj ht).1] at hdigit
      exact absurd hdigit (by decide)
  have hexponent := n.exponent?_exponentChars hrest
  have hhead : ∀ c ∈ (n.exponentChars ++ rest).head?, isDigit c = false ∧ c ≠ '.' := by
    cases he : n.exponentChars with
    | nil => exact fun c hc => ⟨hrest.isDigit_eq c hc, fun h => absurd (hrest c hc) (by rw [h]; decide)⟩
    | cons c tail =>
      have hc := n.head?_exponentChars
      rw [he] at hc
      exact hc
  have hfraction := fraction?_pointed n.isDigit_fraction hhead
  have hafter : ∀ c ∈ (Spelling.pointed n.fraction ++ (n.exponentChars ++ rest)).head?,
      isDigit c = false := by
    cases hf : n.fraction with
    | nil => exact fun c hc => (hhead c hc).1
    | cons c tail =>
      intro d hd
      obtain rfl : '.' = d := by simpa [Spelling.pointed] using hd
      decide
  have hwhole := whole?_digits n.whole_ne n.whole_of_zero n.isDigit_whole hafter
  rw [number?_eq, hsign]
  simp only [hwhole, hfraction, hexponent, Option.bind_some]
  rfl

/-- **What is read as a number** is one that was put together. -/
theorem exists_spelling {cs t r : List Char} (h : number? cs = some (t, r)) :
    ∃ n : Spelling, t = n.chars := by
  rw [number?_eq] at h
  obtain ⟨⟨w, afterWhole⟩, hw, h⟩ := Option.bind_eq_some_iff.1 h
  obtain ⟨⟨f, afterFraction⟩, hf, h⟩ := Option.bind_eq_some_iff.1 h
  obtain ⟨⟨e, afterExponent⟩, he, h⟩ := Option.bind_eq_some_iff.1 h
  cases h
  obtain ⟨hne, hzero, hdigits⟩ := of_whole? hw
  obtain ⟨ds, rfl, hds⟩ := exists_of_fraction? hf
  obtain ⟨x, rfl⟩ := exists_of_exponent? he
  have hsign : (sign cs).1 = if (sign cs).1 == ['-'] then ['-'] else [] := by
    unfold sign
    split <;> rfl
  refine ⟨⟨(sign cs).1 == ['-'], w, ds, x, hne, hzero, hdigits, hds⟩, ?_⟩
  rw [Spelling.chars, ← hsign]
  rfl

/-- **The texts of numbers.** -/
theorem isNumber_iff {text : String} : isNumber text = true ↔ ∃ n : Spelling, text.toList = n.chars := by
  constructor
  · intro h
    rw [isNumber, Option.any_eq_true] at h
    obtain ⟨⟨t, r⟩, hread, hr⟩ := h
    obtain rfl : r = [] := by simpa using hr
    obtain ⟨n, rfl⟩ := exists_spelling hread
    obtain ⟨-, htext⟩ := number?_append stops_nil hread
    exact ⟨n, by simpa using htext⟩
  · rintro ⟨n, hn⟩
    have hread := number?_spelling n stops_nil
    rw [List.append_nil] at hread
    rw [isNumber, hn, hread]
    rfl

end Json
end Shapewright
