import Shapewright.Proofs.Json.Spelling
import Shapewright.Proofs.Naming
import Shapewright.Proofs.Number.Digits
import Shapewright.Proofs.Number.Exactness

/-!
# Numbers as texts may spell them

A text that is no document may spell a number in more ways than a document does: with a plus, with
leading zeros, with nothing on one side of the point, with digits of base sixteen and a power of two,
and with underscores between the digits.  Taken apart it has an exact value, as the numbers of
documents have.

* `Figures` — digits with a point among them, and a power; their parts are what they have to be.
* `Written` — a number with its sign, the mark of its base and its underscores.
* `Written.text`, `Written.toRat` — the text that it was, and the number that is meant.
* `Numeral.read?_written`, `Numeral.exists_written` — the reader takes such texts, and no others for
  finite numbers.
* `Numeral.isNonfinite_iff` — and some words for what is no finite number.
* `Format.read_written` — the nearest number of a format is that of the number that is written, with
  its power as far as a reader takes it; `Written.readRat_of_isShort` — mostly that is all of it.
* `exists_written_of_readInt?` — integers are among these numbers.
-/

set_option autoImplicit false

namespace Shapewright
namespace Number

/-- The letter before a power. -/
def powerMark (hex : Bool) : Char := if hex then 'p' else 'e'

/-- The power of a number as it is written. -/
structure Power (hex : Bool) where
  mark : Char
  sign : List Char
  digits : List Char
  toLower_mark : mark.toLower = powerMark hex
  sign_mem : sign ∈ [[], ['+'], ['-']]
  digits_ne : digits ≠ []
  isDigit_digits : ∀ c ∈ digits, isDigit c = true

/-- The digits of a number, with a point among them or not, and its power. -/
structure Figures (hex : Bool) where
  whole : List Char
  pointed : Bool
  fraction : List Char
  power : Option (Power hex)
  digits_ne : whole ++ fraction ≠ []
  isDigitOf_digits : ∀ c ∈ whole ++ fraction, Numeral.isDigitOf hex c = true
  fraction_of_not_pointed : pointed = false → fraction = []
  /-- Digits of base sixteen do not end without a power. -/
  power_of_hex : hex = true → power ≠ none

namespace Figures

variable {hex : Bool} (f : Figures hex)

/-- The text of the power. -/
def powerChars : List Char := (f.power.map fun p => p.mark :: (p.sign ++ p.digits)).getD []

/-- The point and the digits behind it. -/
def pointChars : List Char := if f.pointed then '.' :: f.fraction else []

/-- The text of the digits. -/
def chars : List Char := f.whole ++ f.pointChars ++ f.powerChars

/-- The integer that the digits spell, the point aside. -/
def mantissa : Nat := Numeral.mantissa hex (f.whole ++ f.fraction)

/-- The power that goes with the digits, if its own digits spell what `spelled` says. A digit of base
sixteen counts for four powers of two. -/
def scaleBy (spelled : List Char → Nat) : Int :=
  -((f.fraction.length * if hex then 4 else 1 : Nat) : Int)
    + (f.power.map fun p => signed (p.sign == ['-']) (spelled p.digits)).getD 0

/-- The power that is meant. -/
def scale : Int := f.scaleBy value

/-- The power as far as a reader takes it. -/
def readScale : Int := f.scaleBy Numeral.boundedExponent

/-- Digits of base ten do without a power. -/
theorem power_of_decimal : false = true → (none : Option (Power false)) ≠ none := nofun

/-- Whether a reader takes all digits of the power. -/
def IsShort : Prop := ∀ p, f.power = some p → value p.digits < 10 * Numeral.exponentBound

end Figures

/-- A number as it is written. -/
structure Written where
  sign : List Char
  hex : Bool
  /-- The mark of the base. -/
  lead : List Char
  body : List Char
  figures : Figures hex
  sign_mem : sign ∈ [[], ['+'], ['-']]
  lead_mem : lead ∈ if hex then [['0', 'x'], ['0', 'X']] else [[]]
  underscores_ok : Numeral.underscoresOk (Numeral.isDigitOf hex) hex body = true
  filter_body : body.filter (· != '_') = figures.chars

namespace Written

variable (w : Written)

/-- Base ten has no mark. -/
theorem nil_mem_lead :
    ([] : List Char) ∈ if false then [['0', 'x'], ['0', 'X']] else [[]] := by simp

/-- The text of a number. -/
def text : String := String.ofList (w.sign ++ (w.lead ++ w.body))

/-- Whether there is a minus. -/
def negative : Bool := w.sign == ['-']

/-- The number that the powers are powers of. -/
def base : Nat := if w.hex then 2 else 10

/-- The size of the number that is meant. -/
def magnitude : ℚ := w.figures.mantissa * (w.base : ℚ) ^ w.figures.scale

/-- The number that is meant. -/
def toRat : ℚ := if w.negative then -w.magnitude else w.magnitude

end Written

/-! ## Characters -/

theorem ne_of_isDigit {c d : Char} (hc : isDigit c = true) (hd : isDigit d = false) : c ≠ d := by
  rintro rfl
  exact absurd hc (Bool.eq_false_iff.1 hd)

theorem toLower_of_isDigit {c : Char} (h : isDigit c = true) : c.toLower = c := by
  have hlt : c.toNat < 58 := Nat.lt_succ_of_le (isDigit_le h)
  have hall : ∀ i < 58,
      (!isDigit (Char.ofNat i) || (Char.ofNat i).toLower == Char.ofNat i) = true := by
    decide
  simpa [h] using Naming.of_all_codes (P := fun c => !isDigit c || c.toLower == c) hall hlt

theorem toLower_ne_of_isDigit {c d : Char} (hc : isDigit c = true) (hd : isDigit d = false) :
    c.toLower ≠ d := by
  rw [toLower_of_isDigit hc]
  exact ne_of_isDigit hc hd

/-- Digits are none of the other characters of a number. -/
theorem isDigitOf_apart {hex : Bool} {c : Char} (h : Numeral.isDigitOf hex c = true) :
    c.toLower ≠ powerMark hex ∧ c ∉ ['.', '_', '+', '-', 'x', 'X'] := by
  have hlt : c.toNat < 103 := by
    cases hex with
    | false => exact Nat.lt_of_le_of_lt (isDigit_le h) (by decide)
    | true =>
      have hsome : (Bytes.hexValue? c).isSome = true := h
      rw [Bytes.hexValue?] at hsome
      simp only [Bool.and_eq_true, decide_eq_true_eq, Char.le_def, UInt32.le_iff_toNat_le] at hsome
      split at hsome
      · rename_i hc
        exact Nat.lt_of_le_of_lt hc.2 (by decide)
      · split at hsome
        · rename_i hc
          exact Nat.lt_of_le_of_lt hc.2 (by decide)
        · split at hsome
          · rename_i hc
            exact Nat.lt_of_le_of_lt hc.2 (by decide)
          · cases hsome
  have hall : ∀ i < 103, (!Numeral.isDigitOf hex (Char.ofNat i) ||
      ((Char.ofNat i).toLower != powerMark hex &&
        (['.', '_', '+', '-', 'x', 'X'].contains (Char.ofNat i) == false))) = true := by
    cases hex <;> decide
  have hc := Naming.of_all_codes (P := fun c => !Numeral.isDigitOf hex c ||
    (c.toLower != powerMark hex && (['.', '_', '+', '-', 'x', 'X'].contains c == false))) hall hlt
  simpa [h] using hc

/-! ## Signs -/

theorem splitSign_of_ne {cs : List Char} (hminus : ∀ tail, cs ≠ '-' :: tail)
    (hplus : ∀ tail, cs ≠ '+' :: tail) : splitSign cs = (false, cs) := by
  unfold splitSign
  split
  · exact absurd rfl (hminus _)
  · exact absurd rfl (hplus _)
  · rfl

/-- A sign is split off where no other one follows. -/
theorem splitSign_append {sign cs : List Char} (hsign : sign ∈ [[], ['+'], ['-']])
    (hcs : ∀ c ∈ cs.head?, c ≠ '+' ∧ c ≠ '-') : splitSign (sign ++ cs) = (sign == ['-'], cs) := by
  simp only [List.mem_cons, List.not_mem_nil, or_false] at hsign
  rcases hsign with rfl | rfl | rfl
  · refine splitSign_of_ne (fun tail htail => ?_) fun tail htail => ?_
    · exact (hcs '-' (by rw [← List.nil_append cs, htail]; rfl)).2 rfl
    · exact (hcs '+' (by rw [← List.nil_append cs, htail]; rfl)).1 rfl
  · rfl
  · rfl

/-- What is split off is a sign. -/
theorem exists_sign (cs : List Char) : ∃ sign ∈ [[], ['+'], ['-']],
    cs = sign ++ (splitSign cs).2 ∧ (splitSign cs).1 = (sign == ['-']) := by
  unfold splitSign
  split
  · exact ⟨['-'], by simp, rfl, rfl⟩
  · exact ⟨['+'], by simp, rfl, rfl⟩
  · exact ⟨[], by simp, rfl, rfl⟩

/-! ## Digits and powers -/

theorem hexValue?_of_isDigit {c : Char} (h : isDigit c = true) :
    (Bytes.hexValue? c).getD 0 = digitValue c := by
  rw [isDigit] at h
  rw [Bytes.hexValue?, if_pos h]
  rfl

theorem mantissa_digits {ds : List Char} (h : ∀ c ∈ ds, isDigit c = true) :
    Numeral.mantissa false ds = value ds := by
  have hfold (m : Nat) : ds.foldl
      (fun n c => n * (if false = true then 16 else 10) + (Bytes.hexValue? c).getD 0) m =
        ds.foldl (fun n c => n * 10 + digitValue c) m := by
    induction ds generalizing m with
    | nil => rfl
    | cons c ds ih =>
      obtain ⟨hc, hds⟩ := List.forall_mem_cons.1 h
      rw [List.foldl_cons, List.foldl_cons, hexValue?_of_isDigit hc]
      exact ih hds _
  exact hfold 0

/-- Digits that spell less than ten times the bound all count. -/
theorem boundedExponent_eq {ds : List Char} (h : ∀ c ∈ ds, isDigit c = true)
    (hshort : value ds < 10 * Numeral.exponentBound) : Numeral.boundedExponent ds = value ds := by
  have hfold (m : Nat)
      (hlt : ds.foldl (fun n c => n * 10 + digitValue c) m < 10 * Numeral.exponentBound) :
      ds.foldl (fun n c => if n < Numeral.exponentBound then n * 10 + (Bytes.hexValue? c).getD 0
        else n) m = ds.foldl (fun n c => n * 10 + digitValue c) m := by
    clear hshort
    induction ds generalizing m with
    | nil => rfl
    | cons c ds ih =>
      obtain ⟨hc, hds⟩ := List.forall_mem_cons.1 h
      rw [List.foldl_cons] at hlt ⊢
      have hle := le_foldl_digits ds (m * 10 + digitValue c)
      have hm : m < Numeral.exponentBound := by omega
      rw [List.foldl_cons, if_pos hm, hexValue?_of_isDigit hc]
      exact ih hds _ hlt
  exact hfold 0 hshort

namespace Numeral

theorem exponent?_power {hex : Bool} (p : Power hex) : exponent? (p.sign ++ p.digits) =
    some (signed (p.sign == ['-']) (boundedExponent p.digits)) := by
  have hsplit : splitSign (p.sign ++ p.digits) = (p.sign == ['-'], p.digits) :=
    splitSign_append p.sign_mem fun c hc =>
      have hdigit := p.isDigit_digits c (List.mem_of_mem_head? hc)
      ⟨ne_of_isDigit hdigit (by decide), ne_of_isDigit hdigit (by decide)⟩
  have hall : p.digits.all isDigit = true := List.all_eq_true.2 p.isDigit_digits
  rw [exponent?, hsplit]
  simp [hall, p.digits_ne]

/-- What is read as a power is one. -/
theorem exists_power_of_exponent? {hex : Bool} {mark : Char} (hmark : mark.toLower = powerMark hex)
    {cs : List Char} {e : Int} (h : exponent? cs = some e) :
    ∃ p : Power hex, mark :: cs = p.mark :: (p.sign ++ p.digits) ∧
      e = signed (p.sign == ['-']) (boundedExponent p.digits) := by
  obtain ⟨sign, hsign, hcs, hnegative⟩ := exists_sign cs
  rw [exponent?] at h
  simp only [Option.ite_none_left_eq_some, Option.some.injEq] at h
  obtain ⟨hdigits, rfl⟩ := h
  simp only [Bool.or_eq_true, List.isEmpty_iff, Bool.not_eq_true', not_or, Bool.not_eq_false,
    List.all_eq_true] at hdigits
  exact ⟨⟨mark, sign, (splitSign cs).2, hmark, hsign, hdigits.1, hdigits.2⟩,
    congrArg (mark :: ·) hcs, by rw [hnegative]⟩

section

variable {hex : Bool} (f : Figures hex)

/-- The digits of a number end where its power starts. -/
theorem span_mark :
    (f.chars.takeWhile fun c => !(c.toLower == powerMark hex)) = f.whole ++ f.pointChars ∧
      (f.chars.dropWhile fun c => !(c.toLower == powerMark hex)) = f.powerChars := by
  have hdigit {c : Char} (hc : c ∈ f.whole ++ f.fraction) : (!(c.toLower == powerMark hex)) = true := by
    simpa using (isDigitOf_apart (f.isDigitOf_digits c hc)).1
  have hbody : ∀ c ∈ f.whole ++ f.pointChars, (!(c.toLower == powerMark hex)) = true := by
    refine List.forall_mem_append.2
      ⟨fun c hc => hdigit (List.mem_append_left _ hc), fun c hc => ?_⟩
    rw [Figures.pointChars] at hc
    split at hc
    · rcases List.mem_cons.1 hc with rfl | hc
      · cases hex <;> decide
      · exact hdigit (List.mem_append_right _ hc)
    · cases hc
  refine Json.span_of_all hbody fun c hc => ?_
  cases hpower : f.power with
  | none => simp [Figures.powerChars, hpower] at hc
  | some p =>
    obtain rfl : p.mark = c := by simpa [Figures.powerChars, hpower] using hc
    simp [p.toLower_mark]

/-- The whole part of a number ends at its point. -/
theorem span_point :
    ((f.whole ++ f.pointChars).takeWhile fun c => c != '.') = f.whole ∧
      ((f.whole ++ f.pointChars).dropWhile fun c => c != '.') = f.pointChars := by
  have hwhole : ∀ c ∈ f.whole, (c != '.') = true := fun c hc => by
    have hapart := (isDigitOf_apart (f.isDigitOf_digits c (List.mem_append_left _ hc))).2
    rw [bne_iff_ne]
    rintro rfl
    exact hapart (by simp)
  refine Json.span_of_all hwhole fun c hc => ?_
  rw [Figures.pointChars] at hc
  split at hc
  · obtain rfl : '.' = c := by simpa using hc
    rfl
  · cases hc

end

/-- What the parts of a text are read as: digits before and behind a point, and a power. -/
theorem unsigned?_of_span {hex : Bool} {cs body whole points rest : List Char}
    (hbody : (cs.takeWhile fun c => !(c.toLower == powerMark hex)) = body)
    (hrest : (cs.dropWhile fun c => !(c.toLower == powerMark hex)) = rest)
    (hwhole : (body.takeWhile fun c => c != '.') = whole)
    (hpoints : (body.dropWhile fun c => c != '.') = points) :
    unsigned? hex cs =
      if (whole ++ points.drop 1).isEmpty || !(whole ++ points.drop 1).all (isDigitOf hex) then none
      else
        let shift : Int := -(((points.drop 1).length * if hex then 4 else 1 : Nat) : Int)
        match rest with
        | [] => if hex then none else some (mantissa hex (whole ++ points.drop 1), shift)
        | _ :: tail =>
          (exponent? tail).map fun e => (mantissa hex (whole ++ points.drop 1), shift + e) := by
  rw [powerMark] at hbody hrest
  rw [unsigned?]
  simp only [hbody, hrest, hwhole, hpoints]
  split
  · rfl
  · cases rest with
    | nil => rfl
    | cons c tail => exact Option.map_eq_bind.symm

/-- The digits of a number and the power that goes with them. -/
theorem unsigned?_chars {hex : Bool} (f : Figures hex) :
    unsigned? hex f.chars = some (f.mantissa, f.readScale) := by
  have hfraction : f.pointChars.drop 1 = f.fraction := by
    rw [Figures.pointChars]
    cases hpointed : f.pointed with
    | true => rfl
    | false => rw [f.fraction_of_not_pointed hpointed]; rfl
  have hcheck : ((f.whole ++ f.fraction).isEmpty || !(f.whole ++ f.fraction).all (isDigitOf hex)) =
      false := by
    rw [List.all_eq_true.2 f.isDigitOf_digits, Bool.not_true, Bool.or_false, ← Bool.not_eq_true,
      List.isEmpty_iff]
    exact f.digits_ne
  rw [unsigned?_of_span (span_mark f).1 (span_mark f).2 (span_point f).1 (span_point f).2, hfraction,
    hcheck, if_neg Bool.false_ne_true]
  cases hpower : f.power with
  | none =>
    have hhex : hex = false := Bool.eq_false_iff.2 fun h => f.power_of_hex h hpower
    simp [Figures.powerChars, Figures.mantissa, Figures.readScale, Figures.scaleBy, hpower, hhex]
  | some p =>
    simp [Figures.powerChars, Figures.mantissa, Figures.readScale, Figures.scaleBy, hpower,
      exponent?_power]

/-- What is read as digits with a power has the parts of a number. -/
theorem exists_figures_of_unsigned? {hex : Bool} {cs : List Char} {m : Nat} {e : Int}
    (h : unsigned? hex cs = some (m, e)) :
    ∃ f : Figures hex, f.chars = cs ∧ f.mantissa = m ∧ f.readScale = e := by
  rw [unsigned?_of_span rfl rfl rfl rfl] at h
  have hcs := List.takeWhile_append_dropWhile (p := fun c => !(c.toLower == powerMark hex)) (l := cs)
  have hmark := List.head?_dropWhile_not (fun c => !(c.toLower == powerMark hex)) cs
  generalize (cs.takeWhile fun c => !(c.toLower == powerMark hex)) = body at h hcs
  generalize (cs.dropWhile fun c => !(c.toLower == powerMark hex)) = rest at h hcs hmark
  have hbody := List.takeWhile_append_dropWhile (p := fun c => c != '.') (l := body)
  have hpoint := List.head?_dropWhile_not (fun c => c != '.') body
  generalize (body.takeWhile fun c => c != '.') = whole at h hbody
  generalize (body.dropWhile fun c => c != '.') = points at h hbody hpoint
  obtain ⟨hcheck, h⟩ := Option.ite_none_left_eq_some.1 h
  simp only [Bool.or_eq_true, List.isEmpty_iff, Bool.not_eq_true', not_or, Bool.not_eq_false,
    List.all_eq_true] at hcheck
  have hpoints : (if points ≠ [] then '.' :: points.drop 1 else []) = points := by
    cases points with
    | nil => rfl
    | cons c tail =>
      obtain rfl : c = '.' := by simpa using hpoint
      rfl
  have hpower : ∃ power : Option (Power hex), (hex = true → power ≠ none) ∧
      (power.map fun p => p.mark :: (p.sign ++ p.digits)).getD [] = rest ∧
      mantissa hex (whole ++ points.drop 1) = m ∧
      -(((points.drop 1).length * if hex then 4 else 1 : Nat) : Int) +
        (power.map fun p => signed (p.sign == ['-']) (boundedExponent p.digits)).getD 0 = e := by
    cases rest with
    | nil =>
      obtain ⟨hhex, h⟩ := Option.ite_none_left_eq_some.1 h
      cases h
      exact ⟨none, fun h => absurd h hhex, rfl, rfl, add_zero _⟩
    | cons mark tail =>
      obtain ⟨k, hk, hpair⟩ := Option.map_eq_some_iff.1 h
      obtain ⟨p, hp, hvalue⟩ := exists_power_of_exponent? (show mark.toLower = powerMark hex by simpa using hmark) hk
      cases hpair
      exact ⟨some p, fun _ => nofun, hp.symm, rfl, by rw [hvalue]; rfl⟩
  obtain ⟨power, hhex, hrest, hm, he⟩ := hpower
  refine ⟨⟨whole, decide (points ≠ []), points.drop 1, power, hcheck.1, hcheck.2, ?_, hhex⟩, ?_, hm, he⟩
  · intro hnot
    rw [not_not.1 (of_decide_eq_false hnot)]
    rfl
  · rw [Figures.chars, Figures.pointChars, Figures.powerChars]
    simp only [decide_eq_true_iff, hpoints, hrest, hbody, hcs]

/-! ## Texts -/

theorem underscoresOk_of_not_mem {digit : Char → Bool} {afterDigit : Bool} {cs : List Char}
    (h : '_' ∉ cs) : underscoresOk digit afterDigit cs = true := by
  induction cs generalizing afterDigit with
  | nil => rfl
  | cons c cs ih =>
    rw [List.mem_cons, not_or] at h
    rw [underscoresOk]
    · exact ih h.2
    · rintro next rest rfl
      exact absurd rfl h.1
    · rintro rfl
      exact absurd rfl h.1

/-- An underscore does not come first. -/
theorem head_ne_of_underscoresOk {digit : Char → Bool} {c : Char} {tail : List Char}
    (h : underscoresOk digit false (c :: tail) = true) : c ≠ '_' := by
  rintro rfl
  cases tail <;> simp [underscoresOk] at h

/-- The first letter of a word. -/
theorem word?_of_head {negative signedText : Bool} {c : Char} {tail : List Char}
    (hi : c.toLower ≠ 'i') (hn : c.toLower ≠ 'n') : word? negative signedText (c :: tail) = none := by
  have hne {w : String} {d : Char} {rest : List Char} (hw : w.toList = d :: rest)
      (hd : c.toLower ≠ d) : String.ofList ((c :: tail).map Char.toLower) ≠ w := by
    rintro rfl
    rw [String.toList_ofList, List.map_cons] at hw
    exact hd (List.cons.inj hw).1
  have hinf := hne (w := "inf") rfl hi
  have hinfinity := hne (w := "infinity") rfl hi
  have hnan := hne (w := "nan") rfl hn
  simp only [word?, beq_eq_false_iff_ne.2 hinf, beq_eq_false_iff_ne.2 hinfinity,
    beq_eq_false_iff_ne.2 hnan]
  rfl

/-- Whether a text goes on with the mark of base sixteen. -/
def isHex (cs : List Char) : Bool :=
  match cs with
  | '0' :: x :: _ :: _ => x == 'x' || x == 'X'
  | _ => false

/-- A text that is no word is read as digits, without its underscores. -/
theorem read?_of_split {s : String} {negative : Bool} {cs : List Char}
    (hsplit : splitSign s.toList = (negative, cs))
    (hword : word? negative (cs.length != s.toList.length) cs = none) :
    read? s =
      let digits := if isHex cs then cs.drop 2 else cs
      if !underscoresOk (isDigitOf (isHex cs)) (isHex cs) digits then none
      else (unsigned? (isHex cs) (digits.filter (· != '_'))).map fun (m, e) =>
        .finite negative m (if isHex cs then 2 else 10) e := by
  rw [read?, hsplit]
  simp only [hword]
  rfl

end Numeral

namespace Figures

variable {hex : Bool} (f : Figures hex)

/-- Digits start with one, or with a point. -/
theorem exists_head :
    ∃ c tail, f.chars = c :: tail ∧ (Numeral.isDigitOf hex c = true ∨ c = '.') := by
  rw [chars, pointChars]
  cases hwhole : f.whole with
  | cons c tail =>
    exact ⟨c, _, rfl, .inl (f.isDigitOf_digits c (by rw [hwhole]; exact List.mem_cons_self))⟩
  | nil =>
    have hpointed : f.pointed = true := by
      by_contra h
      refine f.digits_ne ?_
      rw [hwhole, f.fraction_of_not_pointed (by simpa using h)]
      rfl
    rw [hpointed]
    exact ⟨'.', _, rfl, .inr rfl⟩

/-- Digits and their powers hold no mark of a base. -/
theorem x_not_mem {c : Char} (hc : c ∈ f.chars) : c ≠ 'x' ∧ c ≠ 'X' := by
  have hdigit (h : c ∈ f.whole ++ f.fraction) : c ≠ 'x' ∧ c ≠ 'X' := by
    have hapart := (isDigitOf_apart (f.isDigitOf_digits c h)).2
    simp only [List.mem_cons, List.not_mem_nil, not_or] at hapart
    exact ⟨hapart.2.2.2.2.1, hapart.2.2.2.2.2.1⟩
  rw [chars, List.append_assoc] at hc
  rcases List.mem_append.1 hc with hc | hc
  · exact hdigit (List.mem_append_left _ hc)
  rcases List.mem_append.1 hc with hc | hc
  · rw [pointChars] at hc
    split at hc
    · rcases List.mem_cons.1 hc with rfl | hc
      · decide
      · exact hdigit (List.mem_append_right _ hc)
    · cases hc
  · cases hpower : f.power with
    | none => simp [powerChars, hpower] at hc
    | some p =>
      rw [powerChars, hpower] at hc
      rcases List.mem_cons.1 (show c ∈ p.mark :: (p.sign ++ p.digits) from hc) with rfl | hc
      · have hmark := p.toLower_mark
        constructor <;> intro h <;> rw [h] at hmark <;> cases hex <;> exact absurd hmark (by decide)
      rcases List.mem_append.1 hc with hc | hc
      · have hsign := p.sign_mem
        simp only [List.mem_cons, List.not_mem_nil, or_false] at hsign
        rcases hsign with h | h | h <;> rw [h] at hc
        · cases hc
        · rw [List.mem_singleton.1 hc]
          decide
        · rw [List.mem_singleton.1 hc]
          decide
      · have hdigit := p.isDigit_digits c hc
        exact ⟨ne_of_isDigit hdigit (by decide), ne_of_isDigit hdigit (by decide)⟩

end Figures

namespace Written

variable (w : Written)

/-- The text after the sign starts with a digit or a point. -/
theorem exists_head : ∃ c tail, w.lead ++ w.body = c :: tail ∧ (isDigit c = true ∨ c = '.') := by
  obtain ⟨sign, hex, lead, body, figures, -, hlead, hunderscores, hfilter⟩ := w
  cases hex with
  | true =>
    simp only [if_true, List.mem_cons, List.not_mem_nil, or_false] at hlead
    rcases hlead with rfl | rfl <;> exact ⟨'0', _, rfl, .inl (by decide)⟩
  | false =>
    obtain rfl := List.mem_singleton.1 hlead
    obtain ⟨c, tail, hchars, hc⟩ := figures.exists_head
    rw [hchars] at hfilter
    cases body with
    | nil => cases hfilter
    | cons d body =>
      have hd : (d != '_') = true :=
        bne_iff_ne.2 (Numeral.head_ne_of_underscoresOk hunderscores)
      rw [List.filter_cons_of_pos (p := (· != '_')) hd] at hfilter
      exact ⟨d, body, rfl, by rw [(List.cons.inj hfilter).1]; exact hc⟩

/-- The mark of base sixteen is found where it is. -/
theorem isHex_eq : Numeral.isHex (w.lead ++ w.body) = w.hex := by
  obtain ⟨sign, hex, lead, body, figures, -, hlead, -, hfilter⟩ := w
  obtain ⟨b, bs, rfl⟩ : ∃ b bs, body = b :: bs := by
    refine List.exists_cons_of_ne_nil fun hnil => ?_
    obtain ⟨c, tail, hchars, -⟩ := figures.exists_head
    rw [hnil, hchars] at hfilter
    cases hfilter
  cases hex with
  | true =>
    simp only [if_true, List.mem_cons, List.not_mem_nil, or_false] at hlead
    rcases hlead with rfl | rfl <;> rfl
  | false =>
    obtain rfl := List.mem_singleton.1 hlead
    show Numeral.isHex (b :: bs) = false
    unfold Numeral.isHex
    split
    · rename_i x c tail heq
      rw [heq] at hfilter
      have hx {d : Char} (h : d ≠ '_') (hd : d ∈ '0' :: x :: c :: tail) : d ≠ 'x' ∧ d ≠ 'X' :=
        figures.x_not_mem (hfilter ▸ List.mem_filter.2 ⟨hd, bne_iff_ne.2 h⟩)
      rw [Bool.or_eq_false_iff, beq_eq_false_iff_ne, beq_eq_false_iff_ne]
      constructor <;> rintro rfl
      · exact (hx (by decide) (by simp)).1 rfl
      · exact (hx (by decide) (by simp)).2 rfl
    · rfl

end Written

/-- **Every number** that is written is read. -/
theorem Numeral.read?_written (w : Written) : read? w.text =
    some (.finite w.negative w.figures.mantissa w.base w.figures.readScale) := by
  obtain ⟨c, tail, hhead, hc⟩ := w.exists_head
  have hsplit : splitSign w.text.toList = (w.negative, w.lead ++ w.body) := by
    rw [Written.text, String.toList_ofList]
    refine splitSign_append w.sign_mem fun d hd => ?_
    rw [hhead] at hd
    obtain rfl : c = d := Option.some.inj hd
    rcases hc with hc | rfl
    · exact ⟨ne_of_isDigit hc (by decide), ne_of_isDigit hc (by decide)⟩
    · decide
  have hword (signed : Bool) : word? w.negative signed (w.lead ++ w.body) = none := by
    rw [hhead]
    rcases hc with hc | rfl
    · exact word?_of_head (toLower_ne_of_isDigit hc (by decide))
        (toLower_ne_of_isDigit hc (by decide))
    · exact word?_of_head (by decide) (by decide)
  have hdigits : (if w.hex then (w.lead ++ w.body).drop 2 else w.lead ++ w.body) = w.body := by
    have hlead := w.lead_mem
    split
    · rename_i hhex
      rw [if_pos hhex] at hlead
      simp only [List.mem_cons, List.not_mem_nil, or_false] at hlead
      rcases hlead with h | h <;> rw [h] <;> rfl
    · rename_i hhex
      rw [if_neg hhex] at hlead
      rw [List.mem_singleton.1 hlead, List.nil_append]
  rw [read?_of_split hsplit (hword _), w.isHex_eq]
  simp only [hdigits, w.underscores_ok, w.filter_body, unsigned?_chars]
  rfl

/-- A mark of base sixteen is split off where there is one. -/
theorem Numeral.exists_lead (cs : List Char) :
    ∃ lead ∈ if isHex cs then [['0', 'x'], ['0', 'X']] else [[]],
      cs = lead ++ if isHex cs then cs.drop 2 else cs := by
  cases hhex : isHex cs with
  | false => exact ⟨[], by simp, rfl⟩
  | true =>
    unfold isHex at hhex
    split at hhex
    · rename_i x c tail
      rcases Bool.or_eq_true_iff.1 hhex with hx | hx
      · exact ⟨['0', 'x'], by simp, by rw [beq_iff_eq.1 hx]; rfl⟩
      · exact ⟨['0', 'X'], by simp, by rw [beq_iff_eq.1 hx]; rfl⟩
    · cases hhex

/-- No word spells a finite number. -/
theorem Numeral.word?_ne_finite {negative signedText : Bool} {cs : List Char} (sign : Bool)
    (m base : Nat) (e : Int) : word? negative signedText cs ≠ some (.finite sign m base e) := by
  rw [word?]
  split
  · nofun
  · split <;> nofun

/-- **What is read** as a number is written as one. -/
theorem Numeral.exists_written {s : String} {negative : Bool} {m base : Nat} {e : Int}
    (h : read? s = some (.finite negative m base e)) :
    ∃ w : Written, w.text = s ∧ w.negative = negative ∧ w.figures.mantissa = m ∧ w.base = base ∧
      w.figures.readScale = e := by
  obtain ⟨sign, hsign, hs, hnegative⟩ := exists_sign s.toList
  rcases hsplit : splitSign s.toList with ⟨minus, cs⟩
  rw [hsplit] at hs hnegative
  have hword : word? minus (cs.length != s.toList.length) cs = none := by
    cases hword : word? minus (cs.length != s.toList.length) cs with
    | none => rfl
    | some n =>
      have hn : read? s = some n := by
        rw [read?, hsplit]
        simp only [hword]
      rw [← hn, h] at hword
      exact absurd hword (word?_ne_finite negative m base e)
  rw [read?_of_split hsplit hword] at h
  simp only [Option.ite_none_left_eq_some, Bool.not_eq_true', Bool.not_eq_false,
    Option.map_eq_some_iff] at h
  obtain ⟨hunderscores, ⟨m', e'⟩, hunsigned, hfinite⟩ := h
  cases hfinite
  obtain ⟨f, hchars, hm, he⟩ := exists_figures_of_unsigned? hunsigned
  obtain ⟨lead, hlead, hcs⟩ := exists_lead cs
  refine ⟨⟨sign, isHex cs, lead, _, f, hsign, hlead, hunderscores, hchars.symm⟩, ?_, hnegative.symm,
    hm, rfl, he⟩
  rw [Written.text, ← hcs, ← String.ofList_toList (s := s), hs]

/-! ## Words -/

/-- The spellings of infinities and of what is no number, case aside. -/
def IsNonfinite (s : String) : Prop :=
  (∃ sign ∈ [[], ['+'], ['-']], ∃ word : List Char, s.toList = sign ++ word ∧
    String.ofList (word.map Char.toLower) ∈ ["inf", "infinity"]) ∨
  String.ofList (s.toList.map Char.toLower) = "nan"

/-- A word that starts with a letter does not start with a sign. -/
theorem head_of_toLower {cs : List Char} {letter : Char} (rest : List Char)
    (h : cs.map Char.toLower = letter :: rest) (hplus : letter ≠ '+') (hminus : letter ≠ '-') :
    ∀ c ∈ cs.head?, c ≠ '+' ∧ c ≠ '-' := by
  intro c hc
  obtain ⟨tail, rfl⟩ := List.head?_eq_some_iff.1 hc
  have hc := (List.cons.inj h).1
  constructor <;> rintro rfl
  · exact hplus hc.symm
  · exact hminus hc.symm

/-- **What is no finite number** is read as such from these words, and from nothing else. -/
theorem Numeral.isNonfinite_iff {s : String} :
    IsNonfinite s ↔ read? s = some .nan ∨ ∃ negative, read? s = some (.infinite negative) := by
  constructor
  · rintro (⟨sign, hsign, word, hs, hword⟩ | hs)
    · have hhead : ∀ c ∈ word.head?, c ≠ '+' ∧ c ≠ '-' := by
        have hlower (w : String) (h : String.ofList (word.map Char.toLower) = w) :
            word.map Char.toLower = w.toList := by rw [← h, String.toList_ofList]
        simp only [List.mem_cons, List.not_mem_nil, or_false] at hword
        rcases hword with h | h
        · exact head_of_toLower ['n', 'f'] (hlower _ h) (by decide) (by decide)
        · exact head_of_toLower "nfinity".toList (hlower _ h) (by decide) (by decide)
      have hsplit := splitSign_append hsign hhead
      rw [← hs] at hsplit
      refine .inr ⟨sign == ['-'], ?_⟩
      rw [read?, hsplit]
      simp only [List.mem_cons, List.not_mem_nil, or_false] at hword
      rcases hword with h | h <;> simp [word?, h]
    · have hlower : s.toList.map Char.toLower = "nan".toList := by rw [← hs, String.toList_ofList]
      have hhead := head_of_toLower ['a', 'n'] hlower (by decide) (by decide)
      have hsplit := splitSign_append (show [] ∈ [[], ['+'], ['-']] by simp) hhead
      rw [List.nil_append] at hsplit
      left
      rw [read?, hsplit]
      simp [word?, hs]
  · intro h
    obtain ⟨sign, hsign, hs, -⟩ := exists_sign s.toList
    rcases hsplit : splitSign s.toList with ⟨minus, cs⟩
    rw [hsplit] at hs
    simp only at hs
    cases hword : word? minus (cs.length != s.toList.length) cs with
    | none =>
      rw [read?_of_split hsplit hword] at h
      rcases h with h | ⟨_, h⟩ <;> simp at h
    | some n =>
      simp only [word?] at hword
      split at hword
      · rename_i hinf
        exact .inl ⟨sign, hsign, cs, hs, by simpa using hinf⟩
      · split at hword
        · rename_i hnan
          simp only [Bool.and_eq_true, beq_iff_eq, Bool.not_eq_true', bne_eq_false_iff_eq] at hnan
          have hnil : sign = [] := by
            have hlength := congrArg List.length hs
            rw [List.length_append, ← hnan.2] at hlength
            exact List.length_eq_zero_iff.1 (by omega)
          rw [hnil, List.nil_append] at hs
          exact .inr (by rw [hs]; exact hnan.1)
        · cases hword

/-! ## Nearest numbers -/

/-- A power whose digits all count. -/
theorem Figures.readScale_of_isShort {hex : Bool} {f : Figures hex} (h : f.IsShort) :
    f.readScale = f.scale := by
  rw [readScale, scale, scaleBy, scaleBy]
  cases hpower : f.power with
  | none => rfl
  | some p =>
    simp only [Option.map_some, Option.getD_some, boundedExponent_eq p.isDigit_digits (h p hpower)]

namespace Written

variable (w : Written)

/-- The size of a number, as far as a reader takes the power. -/
def readMagnitude : ℚ := w.figures.mantissa * (w.base : ℚ) ^ w.figures.readScale

theorem readMagnitude_of_isShort {w : Written} (h : w.figures.IsShort) :
    w.readMagnitude = w.magnitude := by
  rw [readMagnitude, Figures.readScale_of_isShort h, magnitude]

/-- The number as far as a reader takes the power. -/
def readRat : ℚ := if w.negative then -w.readMagnitude else w.readMagnitude

theorem readRat_of_isShort {w : Written} (h : w.figures.IsShort) : w.readRat = w.toRat := by
  rw [readRat, readMagnitude_of_isShort h, toRat]

theorem readMagnitude_nonneg : 0 ≤ w.readMagnitude := by
  rw [readMagnitude]
  positivity

theorem base_eq : w.base = 2 ∨ w.base = 10 := by
  rw [base]
  cases w.hex <;> simp

end Written

section

variable {f : Format} (hf : 0 < f.precision) (hrange : f.minExponent + f.precision ≤ f.limit)

include hf hrange

/-- What a format holds for a number, as far as the power is taken. -/
theorem Format.readUnbounded?_written (w : Written) :
    f.readUnbounded? w.text = some (f.round w.negative w.readMagnitude) := by
  rw [readUnbounded?, Numeral.read?_written, Option.map_some,
    Numeral.toBinary_eq_round hf hrange w.negative _ w.base_eq]
  rfl

/-- **The nearest number** of a format, as far as the power is taken. -/
theorem Format.read_written (w : Written) :
    f.read w.text = match f.round w.negative w.readMagnitude with
      | .infinite _ => .error .outOfRange
      | x => .ok x := by
  rw [read, Numeral.read?_written]
  simp only [Numeral.toBinary_eq_round hf hrange w.negative _ w.base_eq]
  rw [Written.readMagnitude]
  cases f.round w.negative (w.figures.mantissa * (w.base : ℚ) ^ w.figures.readScale) <;> rfl

end

/-! ## Finite numbers -/

section

variable {f : Format} {s : String} {x : Binary}

/-- A text that is read by one reader is read alike by the other. -/
theorem Format.readUnbounded?_of_read (h : f.read s = .ok x) : f.readUnbounded? s = some x := by
  rw [read] at h
  rw [readUnbounded?]
  split at h
  · cases h
  · rename_i n hn
    split at h
    · cases h
    · rw [hn, Option.map_some, Except.ok.inj h]

/-- The words are read by both. -/
theorem Format.exists_read_of_isNonfinite (h : IsNonfinite s) : ∃ x, f.read s = .ok x := by
  rw [read]
  rcases Numeral.isNonfinite_iff.1 h with hread | ⟨negative, hread⟩ <;> rw [hread]
  · exact ⟨_, rfl⟩
  · exact ⟨_, rfl⟩

variable (hf : 0 < f.precision) (hrange : f.minExponent + f.precision ≤ f.limit)

include hf hrange

/-- What is read of a spelled number is infinite, or a number of the format. -/
theorem Numeral.toBinary_infinite_or_has (negative : Bool) (m base : Nat) (e : Int) :
    toBinary f (.finite negative m base e) = .infinite negative ∨
      f.Has (toBinary f (.finite negative m base e)) := by
  have hzero : f.Has (.finite negative 0 f.minExponent) := .finite (f.normal_zero negative) hrange
  rw [toBinary]
  generalize (if base == 2 then e else 3 * e) = bits
  split
  · exact .inr hzero
  · split
    · exact .inl rfl
    · split
      · exact .inr hzero
      · refine f.round_infinite_or_has hf hrange negative ?_
        rw [magnitude_eq]
        positivity

/-- **What is finite** of what is read: all but the words and what is beyond the range. -/
theorem Format.isFinite_iff_of_readUnbounded? (h : f.readUnbounded? s = some x) :
    x.isFinite = true ↔ f.read s ≠ .error .outOfRange ∧ ¬ IsNonfinite s := by
  obtain ⟨n, hn, rfl⟩ := Option.map_eq_some_iff.1 h
  rw [Numeral.isNonfinite_iff, hn, read, hn]
  cases n with
  | nan => simp [Numeral.toBinary, Binary.isFinite]
  | infinite negative => simp [Numeral.toBinary, Binary.isFinite]
  | finite negative m base e =>
    rcases Numeral.toBinary_infinite_or_has hf hrange negative m base e with hx | hx
    · simp [hx, Binary.isFinite]
    · cases hx' : Numeral.toBinary f (.finite negative m base e) with
      | finite => simp [hx', Binary.isFinite]
      | infinite => rw [hx'] at hx; cases hx
      | nan => rw [hx'] at hx; cases hx

/-- What is finite is a number of the format. -/
theorem Format.has_of_readUnbounded? (h : f.readUnbounded? s = some x) (hx : x.isFinite = true) :
    f.Has x := by
  obtain ⟨n, -, rfl⟩ := Option.map_eq_some_iff.1 h
  cases n with
  | nan => cases hx
  | infinite => cases hx
  | finite negative m base e =>
    refine (Numeral.toBinary_infinite_or_has hf hrange negative m base e).resolve_left fun h => ?_
    rw [h] at hx
    cases hx

end

/-! ## Integers -/

section

variable {sign digits : List Char} (hsign : sign ∈ [[], ['+'], ['-']]) (hne : digits ≠ [])
  (hdigits : ∀ c ∈ digits, isDigit c = true)

/-- Digits without a point and a power. -/
def Figures.ofDigits : Figures false where
  whole := digits
  pointed := false
  fraction := []
  power := none
  digits_ne := by simpa using hne
  isDigitOf_digits := by rwa [List.append_nil]
  fraction_of_not_pointed := fun _ => rfl
  power_of_hex := Figures.power_of_decimal

theorem Figures.chars_ofDigits : (ofDigits hne hdigits).chars = digits := by
  simp [chars, pointChars, powerChars, ofDigits]

/-- A sign and digits. -/
def Written.ofDigits : Written where
  sign := sign
  hex := false
  lead := []
  body := digits
  figures := .ofDigits hne hdigits
  sign_mem := hsign
  lead_mem := Written.nil_mem_lead
  underscores_ok := Numeral.underscoresOk_of_not_mem fun h => absurd (hdigits _ h) (by decide)
  filter_body := by
    rw [Figures.chars_ofDigits, List.filter_eq_self]
    intro c hc
    exact bne_iff_ne.2 (ne_of_isDigit (hdigits c hc) (by decide))

theorem Written.readRat_ofDigits : (ofDigits hsign hne hdigits).readRat =
    (signed (sign == ['-']) (value digits) : Int) := by
  have hmantissa : (ofDigits hsign hne hdigits).figures.mantissa = value digits := by
    show Numeral.mantissa false (digits ++ []) = value digits
    rw [List.append_nil, mantissa_digits hdigits]
  have hscale : (ofDigits hsign hne hdigits).figures.readScale = 0 := rfl
  rw [readRat, readMagnitude, hmantissa, hscale, zpow_zero, mul_one, signed, negative, ofDigits]
  simp only
  split <;> simp

end

/-- **What is read as an integer** is written as one. -/
theorem exists_written_of_readInt? {s : String} {n : Int} (h : readInt? s = some n) :
    ∃ w : Written, w.text = s ∧ w.readRat = n := by
  obtain ⟨sign, hsign, hs, hnegative⟩ := exists_sign s.toList
  rcases hsplit : splitSign s.toList with ⟨negative, digits⟩
  rw [hsplit] at hs hnegative
  simp only at hs hnegative
  rw [readInt?, hsplit] at h
  obtain ⟨v, hread, hv⟩ := Option.map_eq_some_iff.1 h
  obtain ⟨hne, hdigits, rfl⟩ := digits_of_readNat? hread
  refine ⟨.ofDigits hsign hne hdigits, ?_, ?_⟩
  · rw [Written.text, ← String.ofList_toList (s := s), hs]
    rfl
  · rw [Written.readRat_ofDigits, ← hnegative, hv]

end Number
end Shapewright
