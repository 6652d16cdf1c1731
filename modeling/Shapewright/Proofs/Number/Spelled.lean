import Shapewright.Proofs.Number.Figures

/-!
# Numbers of documents, as other readers take them

A number of a document is also read by the reader of integers and by the reader of numbers with a
fraction, which know more spellings than documents do.

* `Json.Spelling.IsPlain` — numbers without a point and an exponent.
* `Number.readInt?_spelling`, `Number.readWord_spelling` — these are the ones that are read as
  integers, and the integer is the number that is meant.
* `Json.Spelling.IsShort` — numbers with an exponent whose digits all count.
* `Json.Spelling.written` — numbers of documents are among those that are written in any text.
* `Number.Numeral.read?_spelling` — every number is read as its digits and a power of ten.
* `Number.Format.read_spelling` — so the nearest number of a format is that of the number that is
  meant, if its exponent is short.
-/

set_option autoImplicit false

namespace Shapewright

open Json (Spelling Exponent)

namespace Json.Spelling

variable (n : Spelling)

/-- A number without a point and an exponent. -/
def IsPlain : Prop := n.fraction = [] ∧ n.exponent = none

/-- A number whose exponent is so small that a reader takes all its digits. -/
def IsShort : Prop :=
  ∀ e, n.exponent = some e → Number.value e.digits < 10 * Number.Numeral.exponentBound

/-- The power of ten of the digits, as far as a reader takes the exponent. -/
def readScale : Int :=
  (n.exponent.map fun e =>
    Number.signed (e.sign == ['-']) (Number.Numeral.boundedExponent e.digits)).getD 0
    - n.fraction.length

/-- The size of a number, as far as a reader takes the exponent. -/
def readMagnitude : ℚ := Number.value n.digits * (10 : ℚ) ^ n.readScale

/-- The text of a number after its sign. -/
def unsigned : List Char := n.whole ++ (pointed n.fraction ++ n.exponentChars)

theorem chars_eq : n.chars = (if n.negative then ['-'] else []) ++ n.unsigned := by
  rw [chars, unsigned, List.append_assoc, List.append_assoc]

/-- After the sign there is a digit. -/
theorem exists_unsigned_eq : ∃ c tail, n.unsigned = c :: tail ∧ isDigit c = true := by
  obtain ⟨c, tail, hc⟩ := List.exists_cons_of_ne_nil n.whole_ne
  exact ⟨c, tail ++ (pointed n.fraction ++ n.exponentChars), by rw [unsigned, hc, List.cons_append],
    n.isDigit_whole c (by rw [hc]; exact List.mem_cons_self)⟩

theorem isDigit_digits : ∀ c ∈ n.digits, isDigit c = true :=
  List.forall_mem_append.2 ⟨n.isDigit_whole, n.isDigit_fraction⟩

theorem mem_pointed {ds : List Char} {c : Char} (h : c ∈ pointed ds) : c = '.' ∨ c ∈ ds := by
  cases ds with
  | nil => cases h
  | cons d ds => exact List.mem_cons.1 h

/-- The characters after the sign are those that numbers go on with. -/
theorem isNumeral_of_mem_unsigned {c : Char} (h : c ∈ n.unsigned) : isNumeral c = true := by
  have hdigit {d : Char} (hd : isDigit d = true) : isNumeral d = true := by rw [isNumeral, hd]; rfl
  rcases List.mem_append.1 h with h | h
  · exact hdigit (n.isDigit_whole c h)
  rcases List.mem_append.1 h with h | h
  · rcases mem_pointed h with rfl | h
    · decide
    · exact hdigit (n.isDigit_fraction c h)
  cases he : n.exponent with
  | none => simp [exponentChars, he] at h
  | some e =>
    rw [exponentChars, he] at h
    rcases List.mem_append.1 (show c ∈ (e.mark :: e.sign) ++ e.digits from h) with h | h
    · rcases List.mem_cons.1 h with rfl | h
      · rcases e.mark_eq with hm | hm <;> rw [hm] <;> decide
      · have hmem := e.sign_mem
        simp only [List.mem_cons, List.not_mem_nil, or_false] at hmem
        rcases hmem with hs | hs | hs <;> rw [hs] at h
        · cases h
        · rw [List.mem_singleton.1 h]; decide
        · rw [List.mem_singleton.1 h]; decide
    · exact hdigit (e.isDigit_digits c h)

theorem isPlain_iff : n.IsPlain ↔ ∀ c ∈ n.unsigned, isDigit c = true := by
  constructor
  · rintro ⟨hf, he⟩
    simpa [unsigned, exponentChars, pointed, hf, he] using n.isDigit_whole
  · intro h
    constructor
    · by_contra hf
      obtain ⟨d, ds, hf⟩ := List.exists_cons_of_ne_nil hf
      exact absurd (h '.' (by simp [unsigned, hf, pointed])) (by decide)
    · by_contra he
      obtain ⟨e, he⟩ := Option.ne_none_iff_exists'.1 he
      have hmark := h e.mark (by simp [unsigned, exponentChars, he, Exponent.chars])
      rcases e.mark_eq with hm | hm <;> rw [hm] at hmark <;> exact absurd hmark (by decide)

theorem magnitude_of_isPlain (h : n.IsPlain) : n.magnitude = Number.value n.whole := by
  simp [magnitude, digits, scale, h.1, h.2]

theorem isShort_of_isPlain (h : n.IsPlain) : n.IsShort := by
  intro e he
  rw [h.2] at he
  cases he

theorem toRat_of_isPlain (h : n.IsPlain) :
    n.toRat = (Number.signed n.negative (Number.value n.whole) : Int) := by
  rw [toRat, n.magnitude_of_isPlain h, Number.signed]
  cases n.negative <;> simp

end Json.Spelling

namespace Number

variable {n : Spelling}

/-! ## Signs -/

theorem splitSign_of_isDigit {c : Char} {tail : List Char} (h : isDigit c = true) :
    splitSign (c :: tail) = (false, c :: tail) := by
  refine splitSign_of_ne (fun t ht => ?_) fun t ht => ?_
  · rw [(List.cons.inj ht).1] at h
    exact absurd h (by decide)
  · rw [(List.cons.inj ht).1] at h
    exact absurd h (by decide)

theorem splitSign_spelling (n : Spelling) : splitSign n.chars = (n.negative, n.unsigned) := by
  rw [n.chars_eq]
  cases n.negative with
  | true => rfl
  | false =>
    obtain ⟨c, tail, hc, hdigit⟩ := n.exists_unsigned_eq
    rw [if_neg Bool.false_ne_true, List.nil_append, hc]
    exact splitSign_of_isDigit hdigit

/-! ## Integers -/

/-- **Integers** are numbers without a point and an exponent. -/
theorem readInt?_spelling (n : Spelling) (k : Int) :
    readInt? (String.ofList n.chars) = some k ↔ n.IsPlain ∧ n.toRat = k := by
  rw [readInt?, String.toList_ofList, splitSign_spelling]
  simp only [readNat?]
  by_cases hplain : n.IsPlain
  · have hall : n.unsigned.all isDigit = true := List.all_eq_true.2 (n.isPlain_iff.1 hplain)
    have hwhole : n.unsigned = n.whole := by
      simp [Spelling.unsigned, Spelling.pointed, Spelling.exponentChars, hplain.1, hplain.2]
    rw [hall, n.toRat_of_isPlain hplain]
    simp only [List.isEmpty_iff, hwhole, n.whole_ne, Bool.not_true, Bool.or_false, if_false,
      Option.map_some, Option.some.injEq, hplain, true_and, Int.cast_inj]
  · have hall : n.unsigned.all isDigit = false := by
      rw [← Bool.not_eq_true, List.all_eq_true]
      exact fun h => hplain (n.isPlain_iff.2 h)
    simp [hall, hplain]

/-- What the reader that gives up early reads is all digits. -/
theorem isDigit_of_readUpTo {limit : Nat} {cs : List Char} {m v : Nat}
    (h : readUpTo limit m cs = .ok v) : (∀ c ∈ cs, isDigit c = true) ∧
      v = cs.foldl (fun n c => n * 10 + digitValue c) m := by
  induction cs generalizing m with
  | nil =>
    cases h
    exact ⟨by simp, rfl⟩
  | cons c cs ih =>
    rw [readUpTo] at h
    split at h
    · cases h
    · rename_i hc
      split at h
      · cases h
      · obtain ⟨hcs, hv⟩ := ih h
        exact ⟨List.forall_mem_cons.2 ⟨by simpa using hc, hcs⟩, hv⟩

theorem readWord_eq (bits : Nat) {s : String} {negative : Bool} {digits : List Char}
    (hsplit : splitSign s.toList = (negative, digits)) :
    readWord bits s = if digits.isEmpty then .error .invalidSyntax
      else (readUpTo (Nat.pow 2 bits - 1) 0 digits).bind fun v =>
        if (if negative then Nat.pow 2 (bits - 1) < v else Nat.pow 2 (bits - 1) ≤ v)
        then .error .outOfRange else .ok (signed negative v) := by
  rw [readWord, hsplit]
  cases digits <;> rfl

/-- What is read as an integer of some bits is an integer that fits them. -/
theorem readInt?_of_readWord {bits : Nat} {s : String} {k : Int} (h : readWord bits s = .ok k) :
    readInt? s = some k ∧ -Nat.pow 2 (bits - 1) ≤ k ∧ k < Nat.pow 2 (bits - 1) := by
  rcases hsplit : splitSign s.toList with ⟨negative, digits⟩
  rw [readWord_eq bits hsplit] at h
  split at h
  · cases h
  rename_i hempty
  cases hread : readUpTo (Nat.pow 2 bits - 1) 0 digits with
  | error cause =>
    rw [hread] at h
    cases h
  | ok v =>
    obtain ⟨hdigits, hv⟩ := isDigit_of_readUpTo hread
    rw [hread, Except.bind] at h
    have hall : digits.all isDigit = true := List.all_eq_true.2 hdigits
    have hnat : readNat? digits = some v := by
      rw [readNat?, hall, hv, value]
      simp [hempty]
    by_cases hlimit : if negative then Nat.pow 2 (bits - 1) < v else Nat.pow 2 (bits - 1) ≤ v
    · rw [if_pos hlimit] at h
      cases h
    · rw [if_neg hlimit] at h
      obtain rfl : signed negative v = k := Except.ok.inj h
      have hpos : 0 < Nat.pow 2 (bits - 1) := Nat.two_pow_pos _
      refine ⟨by simp [readInt?, hsplit, hnat], ?_⟩
      cases negative <;> simp only [signed, Bool.false_eq_true, if_true, if_false] at hlimit ⊢ <;>
        omega

/-- **Integers of some bits** are numbers without a point and an exponent that fit. -/
theorem readWord_spelling {bits : Nat} (hbits : 0 < bits) (n : Spelling) (k : Int) :
    readWord bits (String.ofList n.chars) = .ok k ↔
      (n.IsPlain ∧ n.toRat = k) ∧ -Nat.pow 2 (bits - 1) ≤ k ∧ k < Nat.pow 2 (bits - 1) := by
  constructor
  · intro h
    obtain ⟨hread, hfits⟩ := readInt?_of_readWord h
    exact ⟨(readInt?_spelling n k).1 hread, hfits⟩
  · rintro ⟨hread, hlow, hhigh⟩
    exact readWord_of_readInt? hbits ((readInt?_spelling n k).2 hread) hlow hhigh

/-! ## Numbers with a fraction -/

end Number

namespace Json

variable (n : Spelling)

/-- An exponent as a power of ten. -/
def Exponent.power (e : Exponent) : Number.Power false where
  mark := e.mark
  sign := e.sign
  digits := e.digits
  toLower_mark := by rcases e.mark_eq with h | h <;> rw [h] <;> decide
  sign_mem := e.sign_mem
  digits_ne := e.digits_ne
  isDigit_digits := e.isDigit_digits

namespace Spelling

/-- The digits of a number and its exponent. -/
def figures : Number.Figures false where
  whole := n.whole
  pointed := !n.fraction.isEmpty
  fraction := n.fraction
  power := n.exponent.map Exponent.power
  digits_ne := by simp [n.whole_ne]
  isDigitOf_digits := n.isDigit_digits
  fraction_of_not_pointed := by simp
  power_of_hex := nofun

theorem chars_figures : n.figures.chars = n.unsigned := by
  have hpoint : n.figures.pointChars = pointed n.fraction := by
    show (if !n.fraction.isEmpty then '.' :: n.fraction else []) = pointed n.fraction
    cases n.fraction <;> rfl
  have hpower : n.figures.powerChars = n.exponentChars := by
    show ((n.exponent.map Exponent.power).map fun p => p.mark :: (p.sign ++ p.digits)).getD [] =
      (n.exponent.map Exponent.chars).getD []
    cases n.exponent <;> rfl
  rw [Number.Figures.chars, hpoint, hpower, List.append_assoc]
  rfl

theorem not_mem_unsigned {c : Char} (hc : isNumeral c = false) : c ∉ n.unsigned := fun hmem => by
  rw [n.isNumeral_of_mem_unsigned hmem] at hc
  cases hc

/-- A number of a document as it is written. -/
def written : Number.Written where
  sign := if n.negative then ['-'] else []
  hex := false
  lead := []
  body := n.unsigned
  figures := n.figures
  sign_mem := by cases n.negative <;> simp
  lead_mem := Number.Written.nil_mem_lead
  underscores_ok := Number.Numeral.underscoresOk_of_not_mem (n.not_mem_unsigned (by decide))
  filter_body := by
    rw [n.chars_figures, List.filter_eq_self]
    intro c hc
    rw [bne_iff_ne]
    rintro rfl
    exact n.not_mem_unsigned (by decide) hc

theorem text_written : n.written.text = String.ofList n.chars := by
  rw [n.chars_eq]
  rfl

theorem negative_written : n.written.negative = n.negative := by
  show ((if n.negative then ['-'] else []) == ['-']) = n.negative
  cases n.negative <;> rfl

theorem mantissa_written : n.written.figures.mantissa = Number.value n.digits :=
  Number.mantissa_digits n.isDigit_digits

theorem readScale_figures : n.figures.readScale = n.readScale := by
  rw [Number.Figures.readScale, Number.Figures.scaleBy, readScale]
  show _ + ((n.exponent.map Exponent.power).map _).getD 0 = _
  rw [Option.map_map, if_neg Bool.false_ne_true, Nat.mul_one, add_comm, ← sub_eq_add_neg]
  rfl

end Spelling
end Json

namespace Number

variable {n : Spelling}

/-- **Every number** of a document is read. -/
theorem Numeral.read?_spelling (n : Spelling) : read? (String.ofList n.chars) =
    some (.finite n.negative (value n.digits) 10 n.readScale) := by
  rw [← n.text_written, read?_written, n.negative_written, n.mantissa_written,
    show n.written.figures.readScale = _ from n.readScale_figures]
  rfl

theorem readMagnitude_written (n : Spelling) : n.written.readMagnitude = n.readMagnitude := by
  rw [Written.readMagnitude, n.mantissa_written,
    show n.written.figures.readScale = _ from n.readScale_figures]
  rfl

/-- What a format holds for a number, as far as the exponent is taken. -/
theorem Format.readUnbounded?_spelling {f : Format} (hf : 0 < f.precision)
    (hrange : f.minExponent + f.precision ≤ f.limit) (n : Spelling) :
    f.readUnbounded? (String.ofList n.chars) = some (f.round n.negative n.readMagnitude) := by
  rw [← n.text_written, readUnbounded?_written hf hrange, n.negative_written,
    readMagnitude_written]

/-- The nearest number of a format, as far as the exponent is taken. -/
theorem Format.read_spelling_eq {f : Format} (hf : 0 < f.precision)
    (hrange : f.minExponent + f.precision ≤ f.limit) (n : Spelling) :
    f.read (String.ofList n.chars) =
      match f.round n.negative (value n.digits * (10 : ℚ) ^ n.readScale) with
      | .infinite _ => .error .outOfRange
      | x => .ok x := by
  rw [← n.text_written, read_written hf hrange, n.negative_written, readMagnitude_written]
  rfl

/-- An exponent whose digits all count. -/
theorem readScale_of_isShort {n : Spelling} (h : n.IsShort) : n.readScale = n.scale := by
  rw [Spelling.readScale, Spelling.scale]
  cases he : n.exponent with
  | none => rfl
  | some e =>
    simp only [Option.map_some, Option.getD_some, Exponent.value,
      boundedExponent_eq e.isDigit_digits (h e he)]

theorem readMagnitude_nonneg (n : Spelling) : 0 ≤ n.readMagnitude := by
  rw [Spelling.readMagnitude]
  positivity

theorem readMagnitude_of_isShort {n : Spelling} (h : n.IsShort) : n.readMagnitude = n.magnitude := by
  rw [Spelling.readMagnitude, readScale_of_isShort h]
  rfl

/-- **The nearest number** of a format is that of the number that is meant. -/
theorem Format.read_spelling {f : Format} (hf : 0 < f.precision)
    (hrange : f.minExponent + f.precision ≤ f.limit) {n : Spelling} (h : n.IsShort) :
    f.read (String.ofList n.chars) =
      match f.round n.negative n.magnitude with
      | .infinite _ => .error .outOfRange
      | x => .ok x := by
  rw [read_spelling_eq hf hrange, readScale_of_isShort h]
  rfl

end Number
end Shapewright
