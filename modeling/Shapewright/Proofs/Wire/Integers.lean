import Shapewright.Proofs.Number.Spelled
import Shapewright.Wire.Raw

/-!
# Numbers of a document that are read as integers

An integer that is spelled as one is read digit by digit.  Every other number is read with 64 bits,
which rounds, and what comes out is taken if it is an integer that fits.

* `nearest?` — the number that 64 bits hold for a spelling; `nearest?_eq` says which it is.
* `IsWord` — integers of some bits that are spelled as such.
* `intFromRaw_eq_ok_iff` — which integer is read from a number.
* `intFromRaw_spelling` — when that is the number that is meant.
-/

set_option autoImplicit false

namespace Shapewright
namespace Wire

open Json (Spelling)
open Number (double double_fits)

variable {bits : Nat} {n : Spelling} {k : Int}

/-- The number that 64 bits hold for a spelling; beyond their range there is none. -/
def nearest? (n : Spelling) : Option ℚ :=
  (double.read (String.ofList n.chars)).toOption.bind Number.Binary.toRat?

/-- An integer of some bits that is spelled as one. -/
def IsWord (bits : Nat) (n : Spelling) : Prop :=
  n.IsPlain ∧ ∃ k : Int, fits bits k = true ∧ n.toRat = k

/-! ## The two readers -/

theorem fits_iff : fits bits k = true ↔ -Nat.pow 2 (bits - 1) ≤ k ∧ k < Nat.pow 2 (bits - 1) := by
  rw [fits, Bool.and_eq_true, decide_eq_true_iff, decide_eq_true_iff]

/-- The reader of digits. -/
theorem readWord_eq_ok_iff (hbits : 0 < bits) :
    Number.readWord bits (String.ofList n.chars) = .ok k ↔
      fits bits k = true ∧ IsWord bits n ∧ n.toRat = k := by
  rw [Number.readWord_spelling hbits, fits_iff]
  constructor
  · rintro ⟨⟨hplain, hk⟩, hfits⟩
    exact ⟨hfits, ⟨hplain, k, fits_iff.2 hfits, hk⟩, hk⟩
  · rintro ⟨hfits, ⟨hplain, -⟩, hk⟩
    exact ⟨⟨hplain, hk⟩, hfits⟩

/-- The reader of digits refuses everything but integers that fit. -/
theorem exists_readWord_eq_error (hbits : 0 < bits) (hword : ¬ IsWord bits n) :
    ∃ cause, Number.readWord bits (String.ofList n.chars) = .error cause := by
  cases hread : Number.readWord bits (String.ofList n.chars) with
  | error cause => exact ⟨cause, rfl⟩
  | ok k => exact absurd ((readWord_eq_ok_iff hbits).1 hread).2.1 hword

/-- The reader of 64 bits. -/
theorem integralValue?_eq_some_iff :
    integralValue? bits (String.ofList n.chars) = some k ↔
      fits bits k = true ∧ nearest? n = some (k : ℚ) := by
  rw [integralValue?, nearest?]
  cases double.read (String.ofList n.chars) with
  | error cause => simp [Except.toOption]
  | ok x =>
    show (x.truncate?.bind fun m => if x.isIntegral && fits bits m then some m else none) = some k ↔
      fits bits k = true ∧ x.toRat? = some (k : ℚ)
    rw [← Number.Binary.isIntegral_and_truncate?_iff, Option.bind_eq_some_iff]
    constructor
    · rintro ⟨m, hm, hcheck⟩
      rw [Option.ite_none_right_eq_some, Bool.and_eq_true] at hcheck
      obtain ⟨⟨hintegral, hfits⟩, hmk⟩ := hcheck
      rw [← Option.some.inj hmk]
      exact ⟨hfits, hintegral, hm⟩
    · rintro ⟨hfits, hintegral, hk⟩
      exact ⟨k, hk, by rw [hintegral, hfits]; rfl⟩

/-! ## Which integer is read -/

/-- An integer that is spelled as one, or else the one that 64 bits hold. -/
theorem intFromRaw_eq_ok_iff (hbits : 0 < bits) (field : String) (n : Spelling) (k : Int) :
    intFromRaw bits field (.number (.text (String.ofList n.chars))) = .ok k ↔
      fits bits k = true ∧
        (IsWord bits n ∧ n.toRat = k ∨ ¬ IsWord bits n ∧ nearest? n = some (k : ℚ)) := by
  by_cases hword : IsWord bits n
  · obtain ⟨-, j, hj, hnj⟩ := id hword
    have hread := (readWord_eq_ok_iff hbits).2 ⟨hj, hword, hnj⟩
    simp only [intFromRaw, Raw.numberText?, RawNumber.plain, hread, hword, true_and,
      not_true_eq_false, false_and, or_false]
    rw [Except.ok.injEq, hnj, Int.cast_inj]
    constructor
    · rintro rfl
      exact ⟨hj, rfl⟩
    · exact fun h => h.2
  · obtain ⟨cause, hread⟩ := exists_readWord_eq_error hbits hword
    simp only [intFromRaw, Raw.numberText?, RawNumber.plain, hread, hword, false_and, false_or,
      not_false_eq_true, true_and, ← integralValue?_eq_some_iff]
    cases integralValue? bits (String.ofList n.chars) <;> simp

/-- A refusal names the field, the number and what is wrong with its digits. -/
theorem intFromRaw_eq_error (hbits : 0 < bits) {field : String} {fault : Fault}
    (h : intFromRaw bits field (.number (.text (String.ofList n.chars))) = .error fault) :
    ¬ IsWord bits n ∧ ∃ cause, Number.readWord bits (String.ofList n.chars) = .error cause ∧
      fault = .ofText "integer" field (String.ofList n.chars) (some cause.message) := by
  have hword : ¬ IsWord bits n := by
    intro hword
    obtain ⟨-, j, hj, hnj⟩ := id hword
    rw [(intFromRaw_eq_ok_iff hbits field n j).2 ⟨hj, .inl ⟨hword, hnj⟩⟩] at h
    cases h
  obtain ⟨cause, hread⟩ := exists_readWord_eq_error hbits hword
  refine ⟨hword, cause, hread, ?_⟩
  simp only [intFromRaw, Raw.numberText?, RawNumber.plain, hread] at h
  cases hvalue : integralValue? bits (String.ofList n.chars) with
  | some j =>
    rw [hvalue] at h
    cases h
  | none =>
    rw [hvalue] at h
    exact (Except.error.inj h).symm

/-! ## Whether it is the number that is meant -/

/-- 64 bits hold the number that is nearest to the digits with the power of ten, as far as that is
taken. -/
theorem nearest?_eq (n : Spelling) : nearest? n =
    (double.round n.negative (Number.value n.digits * (10 : ℚ) ^ n.readScale)).toRat? := by
  rw [nearest?, Number.Format.read_spelling_eq double_fits.1 double_fits.2]
  cases double.round n.negative (Number.value n.digits * (10 : ℚ) ^ n.readScale) <;> rfl

/-- What 64 bits hold without rounding. -/
theorem nearest?_of_representable (h : n.IsShort) (hrep : double.Representable n.magnitude) :
    nearest? n = some n.toRat := by
  rw [nearest?_eq, Number.readScale_of_isShort h]
  exact Number.Format.toRat?_round double_fits.1 hrep n.negative

/-- **Integers from numbers of a document.** An integer that fits and is spelled as one is read as it
is; from every other number the nearest one of 64 bits is read, if it is an integer that fits.  What is
not read is reported with the field and the number.  So exactly the integers that fit are read, as the
numbers that are meant, if the number is spelled as an integer that fits, or if 64 bits hold the
integers that fit where they are meant and nowhere else; in particular if they hold the number without
rounding. -/
theorem intFromRaw_spelling (hbits : 0 < bits) (field : String) (n : Spelling) :
    (∀ k : Int, intFromRaw bits field (.number (.text (String.ofList n.chars))) = .ok k ↔
      fits bits k = true ∧
        (IsWord bits n ∧ n.toRat = k ∨ ¬ IsWord bits n ∧ nearest? n = some (k : ℚ))) ∧
    (∀ fault, intFromRaw bits field (.number (.text (String.ofList n.chars))) = .error fault →
      ∃ cause, Number.readWord bits (String.ofList n.chars) = .error cause ∧
        fault = .ofText "integer" field (String.ofList n.chars) (some cause.message)) ∧
    ((∀ k : Int, intFromRaw bits field (.number (.text (String.ofList n.chars))) = .ok k ↔
        fits bits k = true ∧ n.toRat = k) ↔
      IsWord bits n ∨ ∀ k : Int, fits bits k = true → (nearest? n = some (k : ℚ) ↔ n.toRat = k)) ∧
    nearest? n =
      (double.round n.negative (Number.value n.digits * (10 : ℚ) ^ n.readScale)).toRat? ∧
    (n.IsShort → n.readScale = n.scale ∧ (double.Representable n.magnitude → ∀ k : Int,
      intFromRaw bits field (.number (.text (String.ofList n.chars))) = .ok k ↔
        fits bits k = true ∧ n.toRat = k)) := by
  have hok := intFromRaw_eq_ok_iff hbits field n
  have hexact : (∀ k : Int, intFromRaw bits field (.number (.text (String.ofList n.chars))) = .ok k ↔
        fits bits k = true ∧ n.toRat = k) ↔
      IsWord bits n ∨ ∀ k : Int, fits bits k = true → (nearest? n = some (k : ℚ) ↔ n.toRat = k) := by
    simp only [hok]
    by_cases hword : IsWord bits n
    · simp [hword]
    · simp [hword, and_congr_right_iff]
  refine ⟨hok, fun fault h => (intFromRaw_eq_error hbits h).2, hexact, nearest?_eq n, fun hshort =>
    ⟨Number.readScale_of_isShort hshort, fun hrep => hexact.2 (.inr fun k _ => ?_)⟩⟩
  rw [nearest?_of_representable hshort hrep, Option.some.injEq]

/-- Five, spelled with a point. -/
def paddedFive : Spelling where
  negative := false
  whole := ['5']
  fraction := ['0']
  exponent := none
  whole_ne := by simp
  whole_of_zero := by simp
  isDigit_whole := by simp [Json.isDigit]
  isDigit_fraction := by simp [Json.isDigit]

theorem intFromRaw_spelling_paddedFive : 0 < 8 ∧ paddedFive.IsShort ∧
    double.Representable paddedFive.magnitude ∧
    intFromRaw 8 "gusts" (.number (.text (String.ofList paddedFive.chars))) = .ok 5 := by
  have hshort : paddedFive.IsShort := by simp [Spelling.IsShort, paddedFive]
  have hsize : paddedFive.magnitude = (5 : Nat) := by
    have hvalue : Number.value paddedFive.digits = 50 := by decide
    rw [Spelling.magnitude, hvalue]
    norm_num [Spelling.scale, paddedFive]
  have hrep : double.Representable paddedFive.magnitude := by
    rw [hsize]
    exact Number.Format.representable_natCast (by decide) (by decide) (by decide) (by decide)
  refine ⟨by decide, hshort, hrep, ?_⟩
  refine (((intFromRaw_spelling (by decide) "gusts" paddedFive).2.2.2.2 hshort).2 hrep 5).2 ⟨by decide, ?_⟩
  rw [Spelling.toRat, hsize]
  norm_num [paddedFive]

/-- The integer below the least one of 64 bits. -/
def belowWord : Spelling where
  negative := true
  whole := ['9', '2', '2', '3', '3', '7', '2', '0', '3', '6', '8', '5', '4', '7', '7', '5', '8', '0', '9']
  fraction := []
  exponent := none
  whole_ne := by simp
  whole_of_zero := by simp
  isDigit_whole := by simp [Json.isDigit]
  isDigit_fraction := by simp

/-- The integer below the least one is rounded to it. -/
theorem not_intFromRaw_belowWord :
    ¬ ∀ k : Int, intFromRaw 64 "gusts" (.number (.text (String.ofList belowWord.chars))) = .ok k ↔
      fits 64 k = true ∧ belowWord.toRat = k := by
  intro h
  have hread : intFromRaw 64 "gusts" (.number (.text (String.ofList belowWord.chars))) =
      .ok (-9223372036854775808) := by
    decide +kernel
  have hvalue := ((h _).1 hread).2
  rw [Spelling.toRat_of_isPlain belowWord ⟨rfl, rfl⟩, Int.cast_inj] at hvalue
  exact absurd hvalue (by decide)

end Wire
end Shapewright
