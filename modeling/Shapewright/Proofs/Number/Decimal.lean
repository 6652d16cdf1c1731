import Mathlib.Algebra.Order.Field.Power
import Mathlib.Data.Rat.Floor
import Mathlib.Tactic.FieldSimp
import Mathlib.Tactic.Linarith
import Mathlib.Tactic.NormNum
import Mathlib.Tactic.Positivity
import Mathlib.Tactic.Ring
import Shapewright.Number.Decimal

/-!
# Equal decimals have one text

The same number can be held with more or fewer zeros in its coefficient.  Its plain notation does not
show them: two decimals with one value are written alike, and may be compared by their text.

* `Number.Decimal.toRat` — the value of a decimal.
* `Number.Decimal.text_shift` — a zero may be moved from the exponent to the coefficient.
* `Number.Decimal.text_congr` — equal values, equal texts.
-/

set_option autoImplicit false

namespace Shapewright
namespace Number
namespace Decimal

/-- The value of a decimal. -/
def toRat (d : Decimal) : ℚ := d.coefficient * (10 : ℚ) ^ d.exponent

/-! ## Digits with a point among them -/

/-- The digits of a number, at least one more than there are places behind the point. -/
def padded (places n : Nat) : List Char :=
  List.replicate (places + 1 - (Nat.toDigits 10 n).length) '0' ++ Nat.toDigits 10 n

/-- Digits with the point before the last `places`, and no zeros at the end of the fraction. -/
def pointed (places : Nat) (digits : List Char) : List Char :=
  let fraction := Text.dropWhileEnd (· == '0') (digits.drop (digits.length - places))
  digits.take (digits.length - places) ++ if fraction.isEmpty then [] else '.' :: fraction

theorem toDigits_mul_ten {n : Nat} (h : n ≠ 0) :
    Nat.toDigits 10 (n * 10) = Nat.toDigits 10 n ++ ['0'] := by
  have happend := Nat.toDigits_append_toDigits (b := 10) (d := 0) (by decide)
    (Nat.pos_of_ne_zero h) (by decide)
  rw [Nat.add_zero, Nat.mul_comm] at happend
  exact happend.symm

theorem padded_zero (n : Nat) : padded 0 n = Nat.toDigits 10 n := by
  have hlength := Nat.length_toDigits_pos (b := 10) (n := n)
  have hnone : 0 + 1 - (Nat.toDigits 10 n).length = 0 := by omega
  rw [padded, hnone]
  rfl

theorem padded_succ (places n : Nat) : padded (places + 1) (n * 10) = padded places n ++ ['0'] := by
  by_cases hn : n = 0
  · subst hn
    have hzero : Nat.toDigits 10 0 = ['0'] := rfl
    simp [padded, hzero, List.replicate_succ']
  · rw [padded, padded, toDigits_mul_ten hn, List.length_append, List.append_assoc]
    simp

theorem pointed_succ (places : Nat) (digits : List Char) :
    pointed (places + 1) (digits ++ ['0']) = pointed places digits := by
  have hsplit : (digits ++ ['0']).length - (places + 1) = digits.length - places := by simp
  have hle : digits.length - places ≤ digits.length := Nat.sub_le _ _
  have hend : Text.dropWhileEnd (· == '0') (digits.drop (digits.length - places) ++ ['0']) =
      Text.dropWhileEnd (· == '0') (digits.drop (digits.length - places)) := by
    simp [Text.dropWhileEnd]
  rw [pointed, pointed, hsplit, List.take_append_of_le_length hle,
    List.drop_append_of_le_length hle, hend]

theorem pointed_zero (digits : List Char) : pointed 0 digits = digits := by
  simp [pointed, Text.dropWhileEnd]

/-! ## Texts -/

/-- The minus before what is negative. -/
def sign (c : Int) : String := if c < 0 then "-" else ""

theorem text_of_nonpos (c : Int) (places : Nat) :
    text ⟨c, -places⟩ = sign c ++ String.ofList (pointed places (padded places c.natAbs)) := by
  cases places with
  | succ places =>
    have hneg : ¬ (0 : Int) ≤ -((places + 1 : Nat) : Int) := by omega
    have hplaces : (-(-((places + 1 : Nat) : Int))).toNat = places + 1 := by omega
    rw [text]
    simp only [if_neg hneg, hplaces]
    rfl
  | zero =>
    rw [pointed_zero, padded_zero, text]
    simp only [Nat.cast_zero, neg_zero, le_refl, if_true]
    split
    · rename_i hc
      obtain rfl : c = 0 := beq_iff_eq.1 hc
      rfl
    · show sign c ++ toString (c.natAbs * 1) = _
      rw [Nat.mul_one]
      rfl

theorem text_of_pos (c : Int) (places : Nat) :
    text ⟨c, places⟩ = if c = 0 then "0" else sign c ++ toString (c.natAbs * 10 ^ places) := by
  rw [text]
  simp only [Nat.cast_nonneg, if_true, Int.toNat_natCast, beq_iff_eq]
  rfl

theorem sign_mul_ten (c : Int) : sign (c * 10) = sign c := by
  have hneg : c * 10 < 0 ↔ c < 0 := by omega
  simp only [sign, hneg]

/-- A zero may be moved from the exponent to the coefficient. -/
theorem text_shift (c e : Int) : text ⟨c * 10, e - 1⟩ = text ⟨c, e⟩ := by
  rcases le_or_gt e 0 with he | he
  · obtain ⟨places, rfl⟩ : ∃ places : Nat, e = -places := ⟨e.natAbs, by omega⟩
    have hshift : -(places : Int) - 1 = -((places + 1 : Nat) : Int) := by omega
    have habs : (c * 10).natAbs = c.natAbs * 10 := Int.natAbs_mul c 10
    rw [hshift, text_of_nonpos, text_of_nonpos, sign_mul_ten, habs, padded_succ, pointed_succ]
  · obtain ⟨places, rfl⟩ : ∃ places : Nat, e = (places + 1 : Nat) := ⟨e.natAbs - 1, by omega⟩
    have hshift : ((places + 1 : Nat) : Int) - 1 = places := by omega
    have habs : (c * 10).natAbs * 10 ^ places = c.natAbs * 10 ^ (places + 1) := by
      rw [Int.natAbs_mul, pow_succ, mul_assoc]
      exact congrArg (c.natAbs * ·) (mul_comm _ _)
    have hzero : c * 10 = 0 ↔ c = 0 := by omega
    simp only [hshift, text_of_pos, sign_mul_ten, habs, hzero]

theorem text_shift_by (c e : Int) (k : Nat) : text ⟨c * 10 ^ k, e - k⟩ = text ⟨c, e⟩ := by
  induction k with
  | zero => simp
  | succ k ih =>
    have hshift : e - ((k + 1 : Nat) : Int) = e - k - 1 := by push_cast; ring
    rw [pow_succ, ← mul_assoc, hshift, text_shift, ih]

/-- **Equal values are written alike.** -/
theorem text_congr {d d' : Decimal} (h : d.toRat = d'.toRat) : d.text = d'.text := by
  wlog hle : d'.exponent ≤ d.exponent generalizing d d' with hwlog
  · exact (hwlog h.symm (le_of_not_ge hle)).symm
  obtain ⟨c, e⟩ := d
  obtain ⟨c', e'⟩ := d'
  obtain ⟨k, rfl⟩ : ∃ k : Nat, e' = e - k := ⟨(e - e').toNat, by simp only at hle; omega⟩
  -- The coefficients differ by the zeros that the exponents do.
  have hten : (10 : ℚ) ≠ 0 := by norm_num
  have hpow : (10 : ℚ) ^ e = 10 ^ k * 10 ^ (e - k) := by
    rw [← zpow_natCast, ← zpow_add₀ hten]
    congr 1
    ring
  have hvalue : (c : ℚ) * 10 ^ k * 10 ^ (e - k) = c' * 10 ^ (e - k) := by
    rw [mul_assoc, ← hpow]
    exact h
  have hcoefficient : c * 10 ^ k = c' := by
    have hcast := mul_right_cancel₀ (zpow_ne_zero (e - (k : Int)) hten) hvalue
    exact_mod_cast hcast
  rw [← hcoefficient, text_shift_by]

end Decimal
end Number
end Shapewright
