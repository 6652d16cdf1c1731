import Shapewright.Proofs.Number.Cutting
import Shapewright.Proofs.Representation.Literal
import Shapewright.Proofs.Wire.Integers

/-!
# Numbers as default values

The literal of a number is cut to an integer of 64 bits and then to the width of its kind.  An
integer that is spelled as one is cut as it is.  Every other number is rounded to 64 bits before its
fraction is dropped, and for truth values it is rounded before it is compared with zero.

* `heldWord` — the integer that is left of a number that is rounded first.
* `toWholeNumber_of_isPlain`, `toWholeNumber_of_not_isPlain` — which integer is cut to the width.
* `heldWord_eq_clamped` — when rounding makes no difference.
* `literal_eq_clamped_iff`, `literal_boolean_eq_iff` — when the literal is the one that is meant.
* `literal_spelling` — the payoff: what is written for a number, and when that is the number that is
  meant.
-/

set_option autoImplicit false

namespace Shapewright

open Json (Spelling)
open Number (double clamped double_fits)

variable {n : Spelling} {s : Shape} {bits : Nat}

/-! ## Integers -/

/-- What is left of a number that is rounded to 64 bits; beyond their range it is the end of the
range of integers. -/
def heldWord (n : Spelling) : Int :=
  ((Wire.nearest? n).map clamped).getD
    (if n.negative then Number.Binary.minWord else Number.Binary.maxWord)

theorem saturate_round_readMagnitude (n : Spelling) :
    (double.round n.negative n.readMagnitude).saturate = heldWord n := by
  have hnearest : Wire.nearest? n = (double.round n.negative n.readMagnitude).toRat? :=
    Wire.nearest?_eq n
  rw [heldWord, hnearest]
  rcases (Number.readMagnitude_nonneg n).eq_or_lt with hzero | hpos
  · have hround : (double.round n.negative n.readMagnitude).toRat? = some 0 := by
      rw [← hzero]
      cases n.negative <;> simp [Number.Format.round, Number.Binary.toRat?]
    rw [Number.Binary.saturate_of_toRat? hround, hround]
    rfl
  · rcases Number.Format.round_eq_or double_fits.1 hpos n.negative with hinfinite | hfinite
    · rw [hinfinite]
      rfl
    · rw [Number.Binary.saturate_of_toRat? hfinite, hfinite]
      rfl

/-- A number that is no integer of 64 bits in its spelling is rounded first. -/
theorem toWholeNumber_of_not_isWord (h : ¬ Wire.IsWord 64 n) :
    toWholeNumber (String.ofList n.chars) =
      (double.round n.negative n.readMagnitude).saturate := by
  obtain ⟨cause, hread⟩ := Wire.exists_readWord_eq_error (by decide) h
  rw [toWholeNumber, hread]
  simp only [Number.Format.readUnbounded?_spelling double_fits.1 double_fits.2, Option.map_some,
    Option.getD_some]

theorem toWholeNumber_of_not_isPlain (h : ¬ n.IsPlain) :
    toWholeNumber (String.ofList n.chars) = heldWord n := by
  rw [toWholeNumber_of_not_isWord fun hword => h hword.1, saturate_round_readMagnitude]

/-- **An integer that is spelled as one** is only moved to the end of the range if it is beyond. -/
theorem toWholeNumber_of_isPlain (h : n.IsPlain) :
    toWholeNumber (String.ofList n.chars) = clamped n.toRat := by
  have hlimit : ((Nat.pow 2 (64 - 1) : Nat) : Int) = 2 ^ 63 := by decide
  by_cases hword : Wire.IsWord 64 n
  · obtain ⟨-, k, hfits, hk⟩ := id hword
    have hread := (Wire.readWord_eq_ok_iff (by decide)).2 ⟨hfits, hword, hk⟩
    rw [toWholeNumber, hread, hk, clamped, Number.wholePart_intCast]
    have hmin : Number.Binary.minWord = -2 ^ 63 := by decide
    have hmax : Number.Binary.maxWord = 2 ^ 63 - 1 := by decide
    rw [Wire.fits_iff, hlimit] at hfits
    show k = _
    omega
  · have hlarge : (2 : ℚ) ^ 63 ≤ n.magnitude := by
      rw [n.magnitude_of_isPlain h]
      by_contra hsmall
      have hvalue : Number.value n.whole < 2 ^ 63 := by exact_mod_cast not_le.1 hsmall
      refine hword ⟨h, _, ?_, n.toRat_of_isPlain h⟩
      rw [Wire.fits_iff, hlimit, Number.signed]
      split <;> omega
    rw [toWholeNumber_of_not_isWord hword,
      Number.readMagnitude_of_isShort (n.isShort_of_isPlain h)]
    exact Number.saturate_round_of_large hlarge n.negative

/-- **When rounding makes no difference.** -/
theorem heldWord_eq_clamped (hshort : n.IsShort)
    (h : 2 ^ 63 ≤ n.magnitude ∨ double.Representable n.magnitude ∨
      n.scale ≤ 0 ∧ Number.value n.digits ≤ 2 ^ 52) : heldWord n = clamped n.toRat := by
  rw [← saturate_round_readMagnitude, Number.readMagnitude_of_isShort hshort]
  rcases h with hlarge | hrep | ⟨hscale, hdigits⟩
  · exact Number.saturate_round_of_large hlarge n.negative
  · exact Number.saturate_round_of_between hrep hrep le_rfl le_rfl rfl n.negative
  · obtain ⟨k, hk⟩ : ∃ k : Nat, n.scale = -k := ⟨(-n.scale).toNat, by omega⟩
    have hmagnitude : n.magnitude = (Number.value n.digits : ℚ) / 10 ^ k := by
      rw [Spelling.magnitude, hk, zpow_neg, zpow_natCast, div_eq_mul_inv]
    obtain ⟨low, high, hlow, hhigh, hle, hge, hfloor⟩ :=
      Number.exists_between_of_decimal hdigits k
    rw [← hmagnitude] at hle hge
    exact Number.saturate_round_of_between hlow hhigh hle hge hfloor n.negative

/-- Different integers of a width are written differently. -/
theorem toString_wrap_inj (hbits : 0 < bits) {j k : Int} :
    toString (Number.wrap bits j) = toString (Number.wrap bits k) ↔
      Number.wrap bits j = Number.wrap bits k := by
  refine ⟨fun h => ?_, fun h => by rw [h]⟩
  have hj := Wire.parseInt_toString_wrap hbits "" j
  rw [h, Wire.parseInt_toString_wrap hbits "" k] at hj
  exact (Except.ok.inj hj).symm

theorem literal_of_isPlain (hbits : s.kind.width? = some bits) (h : n.IsPlain) :
    literal s (some ⟨.number (String.ofList n.chars)⟩) =
      .ok (toString ((clamped n.toRat).bmod (2 ^ bits))) := by
  rw [literal_number hbits, toWholeNumber_of_isPlain h]
  rfl

theorem literal_of_not_isPlain (hbits : s.kind.width? = some bits) (h : ¬ n.IsPlain) :
    literal s (some ⟨.number (String.ofList n.chars)⟩) =
      .ok (toString ((heldWord n).bmod (2 ^ bits))) := by
  rw [literal_number hbits, toWholeNumber_of_not_isPlain h]
  rfl

/-- The integer is the one that is meant if the number is spelled as one, or if rounding makes no
difference within the width. -/
theorem literal_eq_clamped_iff (hbits : s.kind.width? = some bits) (n : Spelling) :
    literal s (some ⟨.number (String.ofList n.chars)⟩) =
        .ok (toString ((clamped n.toRat).bmod (2 ^ bits))) ↔
      n.IsPlain ∨ (heldWord n).bmod (2 ^ bits) = (clamped n.toRat).bmod (2 ^ bits) := by
  by_cases h : n.IsPlain
  · exact iff_of_true (literal_of_isPlain hbits h) (.inl h)
  · rw [literal_of_not_isPlain hbits h, Except.ok.injEq, or_iff_right h]
    exact toString_wrap_inj (Kind.width?_pos hbits)

/-! ## Truth values -/

/-- **A truth value** tells whether something is left of a number that is rounded. -/
theorem literal_boolean (hs : s.kind = .boolean) (n : Spelling) :
    literal s (some ⟨.number (String.ofList n.chars)⟩) =
      .ok (boolLiteral (decide ((2 : ℚ) ^ (-1075 : Int) < n.readMagnitude))) := by
  have hzero : (double.round n.negative n.readMagnitude).isZero = true ↔
      n.readMagnitude ≤ 2 ^ (-1075 : Int) :=
    Number.Format.isZero_round_iff double_fits.1 double_fits.2 n.negative
      (Number.readMagnitude_nonneg n)
  have hleft : (!(double.round n.negative n.readMagnitude).isZero) =
      decide ((2 : ℚ) ^ (-1075 : Int) < n.readMagnitude) := by
    rw [Bool.eq_iff_iff, decide_eq_true_iff, Bool.not_eq_true', ← Bool.not_eq_true, hzero, not_le]
  rw [literal_eq_numberLiteral, numberLiteral]
  simp only [hs, Kind.width?, Kind.format?, beq_self_eq_true, if_true,
    Number.Format.readUnbounded?_spelling double_fits.1 double_fits.2, Option.map_some,
    Option.getD_some, hleft]

/-- The size of a number is zero if the number is. -/
theorem toRat_eq_zero_iff (n : Spelling) : n.toRat = 0 ↔ n.magnitude = 0 := by
  rw [Spelling.toRat]
  split
  · exact neg_eq_zero
  · exact .rfl

theorem boolLiteral_inj {a b : Bool} : boolLiteral a = boolLiteral b ↔ a = b := by
  revert a b
  decide

/-- The truth value is the one that is meant unless rounding leaves nothing of the number. -/
theorem literal_boolean_eq_iff (hs : s.kind = .boolean) (hshort : n.IsShort) :
    literal s (some ⟨.number (String.ofList n.chars)⟩) =
        .ok (boolLiteral (decide (n.toRat ≠ 0))) ↔
      n.toRat = 0 ∨ (2 : ℚ) ^ (-1075 : Int) < n.magnitude := by
  have hpos : (0 : ℚ) < 2 ^ (-1075 : Int) := by positivity
  rw [literal_boolean hs n, Except.ok.injEq, boolLiteral_inj, decide_eq_decide, ne_eq,
    toRat_eq_zero_iff, Number.readMagnitude_of_isShort hshort]
  constructor
  · intro h
    by_cases hzero : n.magnitude = 0
    · exact .inl hzero
    · exact .inr (h.2 hzero)
  · rintro (hzero | hlarge)
    · rw [hzero]
      exact iff_of_false (not_lt.2 hpos.le) (not_not.2 rfl)
    · exact iff_of_true hlarge (hpos.trans hlarge).ne'

/-! ## Numbers as default values -/

/-- **Numbers as default values.** For a kind of integers, a number that is spelled as an integer is
written as this integer, moved to the range of 64 bits and cut to the width of the kind; any other
number is rounded first, and its fraction is dropped then. That is the number that is meant if it is
beyond the range of the integers, if 64 bits hold it without rounding, or if it is a decimal without
further zeros whose digits spell no more than half of what a mantissa holds. For truth values, what
is not more than half of the least number of 64 bits counts as zero. -/
theorem literal_spelling (s : Shape) (n : Spelling) :
    (∀ bits, s.kind.width? = some bits →
      (n.IsPlain → literal s (some ⟨.number (String.ofList n.chars)⟩) =
        .ok (toString ((clamped n.toRat).bmod (2 ^ bits)))) ∧
      (¬ n.IsPlain → literal s (some ⟨.number (String.ofList n.chars)⟩) =
        .ok (toString ((heldWord n).bmod (2 ^ bits)))) ∧
      (literal s (some ⟨.number (String.ofList n.chars)⟩) =
          .ok (toString ((clamped n.toRat).bmod (2 ^ bits))) ↔
        n.IsPlain ∨ (heldWord n).bmod (2 ^ bits) = (clamped n.toRat).bmod (2 ^ bits)) ∧
      (n.IsShort → 2 ^ 63 ≤ n.magnitude ∨ double.Representable n.magnitude ∨
          n.scale ≤ 0 ∧ Number.value n.digits ≤ 2 ^ 52 →
        literal s (some ⟨.number (String.ofList n.chars)⟩) =
          .ok (toString ((clamped n.toRat).bmod (2 ^ bits))))) ∧
    (s.kind = .boolean →
      literal s (some ⟨.number (String.ofList n.chars)⟩) =
        .ok (boolLiteral (decide ((2 : ℚ) ^ (-1075 : Int) < n.readMagnitude))) ∧
      (n.IsShort →
        (literal s (some ⟨.number (String.ofList n.chars)⟩) =
            .ok (boolLiteral (decide (n.toRat ≠ 0))) ↔
          n.toRat = 0 ∨ (2 : ℚ) ^ (-1075 : Int) < n.magnitude))) := by
  refine ⟨fun bits hbits => ⟨literal_of_isPlain hbits, literal_of_not_isPlain hbits,
    literal_eq_clamped_iff hbits n, fun hshort hexact => ?_⟩,
    fun hs => ⟨literal_boolean hs n, literal_boolean_eq_iff hs⟩⟩
  rw [literal_eq_clamped_iff hbits, heldWord_eq_clamped hshort hexact]
  exact .inr rfl

/-- Three hundred and a half. -/
def oddHalf : Spelling where
  negative := false
  whole := ['3', '0', '0']
  fraction := ['5']
  exponent := none
  whole_ne := by decide
  whole_of_zero := fun _ h => absurd (List.cons.inj h).1 (by decide)
  isDigit_whole := List.all_eq_true.1 (by decide)
  isDigit_fraction := List.all_eq_true.1 (by decide)

theorem magnitude_oddHalf : oddHalf.magnitude = 601 / 2 := by
  have hvalue : Number.value oddHalf.digits = 3005 := by decide
  rw [Spelling.magnitude, hvalue]
  norm_num [Spelling.scale, oddHalf]

/-- It is cut to a byte, and counts as true. -/
theorem literal_spelling_oddHalf :
    oddHalf.IsShort ∧ oddHalf.scale ≤ 0 ∧ Number.value oddHalf.digits ≤ 2 ^ 52 ∧
    literal { id := ⟨""⟩, kind := .byte } (some ⟨.number (String.ofList oddHalf.chars)⟩) = .ok "44" ∧
    literal { id := ⟨""⟩, kind := .boolean } (some ⟨.number (String.ofList oddHalf.chars)⟩) =
      .ok "true" := by
  have hshort : oddHalf.IsShort := by simp [Spelling.IsShort, oddHalf]
  have hscale : oddHalf.scale ≤ 0 := by decide
  have hdigits : Number.value oddHalf.digits ≤ 2 ^ 52 := by decide
  have hrat : oddHalf.toRat = 601 / 2 := magnitude_oddHalf
  have hclamped : clamped oddHalf.toRat = 300 := by
    have hfloor : ⌊(601 / 2 : ℚ)⌋ = 300 := by norm_num
    rw [hrat, clamped, Number.wholePart_of_nonneg (by norm_num), hfloor]
    decide
  refine ⟨hshort, hscale, hdigits, ?_, ?_⟩
  · rw [((literal_spelling { id := ⟨""⟩, kind := .byte } oddHalf).1 8 rfl).2.2.2 hshort
      (.inr (.inr ⟨hscale, hdigits⟩)), hclamped]
    rfl
  · have hlarge : (2 : ℚ) ^ (-1075 : Int) < oddHalf.magnitude := by
      rw [magnitude_oddHalf]
      exact (zpow_le_one_of_nonpos₀ (by norm_num) (by norm_num)).trans_lt (by norm_num)
    rw [(((literal_spelling { id := ⟨""⟩, kind := .boolean } oddHalf).2 rfl).2 hshort).2
      (.inr hlarge), hrat]
    norm_num [boolLiteral]

/-- The least integer that 64 bits of floating point have no room for, spelled with a point. -/
def paddedOdd : Spelling where
  negative := false
  whole := ['9', '0', '0', '7', '1', '9', '9', '2', '5', '4', '7', '4', '0', '9', '9', '3']
  fraction := ['0']
  exponent := none
  whole_ne := by decide
  whole_of_zero := fun _ h => absurd (List.cons.inj h).1 (by decide)
  isDigit_whole := List.all_eq_true.1 (by decide)
  isDigit_fraction := List.all_eq_true.1 (by decide)

/-- **An integer behind which there is a point** is rounded to its neighbour. -/
theorem not_literal_paddedOdd :
    ¬ ∀ (s : Shape) (n : Spelling) (bits : Nat), s.kind.width? = some bits →
      literal s (some ⟨.number (String.ofList n.chars)⟩) =
        .ok (toString ((clamped n.toRat).bmod (2 ^ bits))) := by
  intro h
  have hcut : toWholeNumber (String.ofList paddedOdd.chars) = 9007199254740992 := by
    decide +kernel
  have hrat : paddedOdd.toRat = (9007199254740993 : Int) := by
    have hvalue : Number.value paddedOdd.digits = 90071992547409930 := by decide
    have hsize : paddedOdd.toRat = paddedOdd.magnitude := rfl
    rw [hsize, Spelling.magnitude, hvalue]
    norm_num [Spelling.scale, paddedOdd]
  have hmeant := h { id := ⟨""⟩, kind := .long } paddedOdd 64 rfl
  rw [literal_number rfl, hcut, hrat, clamped, Number.wholePart_intCast] at hmeant
  exact absurd (Except.ok.inj hmeant) (by decide)

end Shapewright
