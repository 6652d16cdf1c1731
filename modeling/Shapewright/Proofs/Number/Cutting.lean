import Mathlib.Data.Nat.Cast.Order.Field
import Shapewright.Proofs.Number.Exactness

/-!
# Numbers that are rounded and then cut

A number that is rounded to 64 bits before its fraction is dropped can end up at the next integer.
It does not if there are numbers of 64 bits on both sides of it that have the same integer part:
rounding does not pass over them.

* `saturate_round_of_between` — such numbers are cut as if they had not been rounded.
* `saturate_round_of_large` — so are those beyond the range of the integers.
* `exists_between_of_decimal` — a decimal of few digits is between such numbers.
-/

set_option autoImplicit false

namespace Shapewright
namespace Number

variable {x low high : ℚ}

/-! ## Integer parts and signs -/

/-- The integer part of a number with a sign is known from that of its size. -/
theorem clamped_congr {y : ℚ} (hx : 0 ≤ x) (hy : 0 ≤ y) (h : ⌊x⌋ = ⌊y⌋) (negative : Bool) :
    clamped (if negative then -x else x) = clamped (if negative then -y else y) := by
  cases negative
  · simp only [Bool.false_eq_true, if_false, clamped, wholePart_of_nonneg hx,
      wholePart_of_nonneg hy, h]
  · simp only [if_true, clamped, wholePart_neg hx, wholePart_neg hy, h]

/-- What is beyond the range becomes its end. -/
theorem clamped_of_large (hx : 2 ^ 63 ≤ x) (negative : Bool) :
    clamped (if negative then -x else x) = if negative then Binary.minWord else Binary.maxWord := by
  have hfloor : (2 ^ 63 : Int) ≤ ⌊x⌋ := Int.le_floor.2 (by exact_mod_cast hx)
  have hpos : 0 ≤ x := le_trans (by norm_num) hx
  have hmin : Binary.minWord = -2 ^ 63 := by decide
  have hmax : Binary.maxWord = 2 ^ 63 - 1 := by decide
  cases negative
  · simp only [Bool.false_eq_true, if_false, clamped, wholePart_of_nonneg hpos]
    omega
  · simp only [if_true, clamped, wholePart_neg hpos]
    omega

/-! ## Rounding first -/

/-- **Between two numbers with the same integer part**, rounding does not change it. -/
theorem saturate_round_of_between (hlow : double.Representable low)
    (hhigh : double.Representable high) (hle : low ≤ x) (hge : x ≤ high) (hfloor : ⌊low⌋ = ⌊high⌋)
    (negative : Bool) :
    (double.round negative x).saturate = clamped (if negative then -x else x) := by
  obtain ⟨v, hv, hlv, hvh⟩ :=
    Format.exists_round_between double_fits.1 hlow hhigh hle hge negative
  rw [Binary.saturate_of_toRat? hv]
  refine clamped_congr (hlow.nonneg.trans hlv) (hlow.nonneg.trans hle) ?_ negative
  have hx : ⌊x⌋ = ⌊low⌋ :=
    le_antisymm ((Int.floor_le_floor hge).trans hfloor.ge) (Int.floor_le_floor hle)
  have hv : ⌊v⌋ = ⌊low⌋ :=
    le_antisymm ((Int.floor_le_floor hvh).trans hfloor.ge) (Int.floor_le_floor hlv)
  rw [hx, hv]

/-- **Beyond the range of the integers**, rounding does not lead back. -/
theorem saturate_round_of_large (hx : 2 ^ 63 ≤ x) (negative : Bool) :
    (double.round negative x).saturate = clamped (if negative then -x else x) := by
  have hpos : 0 < x := lt_of_lt_of_le (by norm_num) hx
  have hrep : double.Representable (2 ^ 63) := ⟨1, 63, by norm_num, by decide, by decide, by decide⟩
  rw [clamped_of_large hx]
  rcases Format.round_eq_or double_fits.1 hpos negative with hinfinite | hfinite
  · rw [hinfinite]
    rfl
  · rw [Binary.saturate_of_toRat? hfinite,
      clamped_of_large (Format.le_rounded double_fits.1 hrep hpos hx)]

/-! ## Decimals -/

/-- The number below an integer, at some distance that the mantissa has room for. -/
theorem representable_below {n t : Nat} (ht : t ≤ 53) (h : (n + 1) * 2 ^ t ≤ 2 ^ 53) :
    double.Representable (n + 1 - 1 / 2 ^ t) ∧ ⌊(n + 1 - 1 / 2 ^ t : ℚ)⌋ = n := by
  have hpow : (1 : ℚ) ≤ 2 ^ t := one_le_pow₀ (by norm_num)
  have hpos : 0 < (n + 1) * 2 ^ t := by positivity
  refine ⟨⟨(n + 1) * 2 ^ t - 1, -t, ?_, ?_, ?_, ?_⟩, ?_⟩
  · rw [Nat.cast_sub (by omega), zpow_neg, zpow_natCast]
    push_cast
    field_simp
  · exact lt_of_lt_of_le (by omega) h
  · show (-1074 : Int) ≤ -t
    omega
  · show -(t : Int) + 53 ≤ 1024
    omega
  · rw [Int.floor_eq_iff]
    have hle : 1 / (2 : ℚ) ^ t ≤ 1 := (div_le_one (by positivity)).2 hpow
    have hgt : 0 < 1 / (2 : ℚ) ^ t := by positivity
    push_cast
    constructor <;> linarith

/-- A decimal is at least its last place below the next integer. -/
theorem decimal_le_next_sub (m : Nat) {k t : Nat} (h : 10 ^ k ≤ 2 ^ t) :
    (m : ℚ) / 10 ^ k ≤ (m / 10 ^ k : Nat) + 1 - 1 / 2 ^ t := by
  have hten : (0 : ℚ) < 10 ^ k := by positivity
  have hnext : m + 1 ≤ (m / 10 ^ k + 1) * 10 ^ k :=
    Nat.lt_mul_of_div_lt (Nat.lt_succ_self _) (by positivity)
  have hsum : (m : ℚ) / 10 ^ k + 1 / 10 ^ k ≤ (m / 10 ^ k : Nat) + 1 := by
    rw [← add_div, div_le_iff₀ hten]
    exact_mod_cast hnext
  have hdistance : 1 / (2 : ℚ) ^ t ≤ 1 / 10 ^ k :=
    one_div_le_one_div_of_le hten (by exact_mod_cast h)
  linarith

/-- A decimal stays so far below the next integer. -/
theorem exists_gap {m : Nat} (hm : m ≤ 2 ^ 52) (k : Nat) :
    ∃ t ≤ 53, (m / 10 ^ k + 1) * 2 ^ t ≤ 2 ^ 53 ∧
      (m : ℚ) / 10 ^ k ≤ (m / 10 ^ k : Nat) + 1 - 1 / 2 ^ t := by
  rcases Nat.eq_zero_or_pos (m / 10 ^ k) with hzero | hwhole
  · refine ⟨53, le_rfl, by rw [hzero]; norm_num, ?_⟩
    -- Below one, the last place may be too small to count; then the decimal is below a half.
    rcases Nat.lt_or_ge (2 ^ 53) (10 ^ k) with hlt | hle
    · have hhalf : (m : ℚ) / 10 ^ k ≤ 1 / 2 := by
        rw [div_le_iff₀ (by positivity)]
        have : ((2 * m : Nat) : ℚ) ≤ (10 ^ k : Nat) := by
          exact_mod_cast (by omega : 2 * m ≤ 10 ^ k)
        push_cast at this
        linarith
      rw [hzero]
      refine hhalf.trans ?_
      norm_num
    · exact decimal_le_next_sub m hle
  · have hlow : 2 ^ Nat.log2 (m / 10 ^ k) ≤ m / 10 ^ k := Nat.log2_self_le hwhole.ne'
    have hhigh : m / 10 ^ k < 2 ^ (Nat.log2 (m / 10 ^ k) + 1) := Nat.lt_log2_self
    generalize Nat.log2 (m / 10 ^ k) = l at hlow hhigh
    have hdigits : 2 ^ l * 10 ^ k ≤ 2 ^ 52 :=
      (Nat.mul_le_mul_right _ hlow).trans ((Nat.div_mul_le_self m _).trans hm)
    have hl : l ≤ 52 := (Nat.pow_le_pow_iff_right (by decide)).1
      ((Nat.le_mul_of_pos_right _ (by positivity)).trans hdigits)
    refine ⟨52 - l, by omega, ?_, decimal_le_next_sub m ?_⟩
    · calc (m / 10 ^ k + 1) * 2 ^ (52 - l) ≤ 2 ^ (l + 1) * 2 ^ (52 - l) :=
            Nat.mul_le_mul_right _ hhigh
        _ = 2 ^ 53 := by rw [← pow_add, show l + 1 + (52 - l) = 53 by omega]
    · have hsplit : 2 ^ 52 = 2 ^ l * 2 ^ (52 - l) := by
        rw [← pow_add, show l + (52 - l) = 52 by omega]
      rw [hsplit] at hdigits
      exact Nat.le_of_mul_le_mul_left hdigits (by positivity)

/-- **A decimal** whose digits spell no more than half of what a mantissa holds is between two
numbers of 64 bits with the same integer part. -/
theorem exists_between_of_decimal {m : Nat} (hm : m ≤ 2 ^ 52) (k : Nat) :
    ∃ low high, double.Representable low ∧ double.Representable high ∧
      low ≤ (m : ℚ) / 10 ^ k ∧ (m : ℚ) / 10 ^ k ≤ high ∧ ⌊low⌋ = ⌊high⌋ := by
  obtain ⟨t, ht, hroom, hgap⟩ := exists_gap hm k
  obtain ⟨hhigh, hfloor⟩ := representable_below ht hroom
  have hwhole : m / 10 ^ k ≤ 2 ^ 53 := (Nat.div_le_self _ _).trans (hm.trans (by norm_num))
  refine ⟨(m / 10 ^ k : Nat), _, ?_, hhigh, ?_, hgap, ?_⟩
  · exact Format.representable_natCast (by decide) (by decide) (by decide) hwhole
  · have hle := Nat.cast_div_le (α := ℚ) (m := m) (n := 10 ^ k)
    push_cast at hle ⊢
    exact hle
  · rw [hfloor, Int.floor_natCast]

end Number
end Shapewright
