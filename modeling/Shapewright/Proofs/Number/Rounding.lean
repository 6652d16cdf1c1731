import Mathlib.Algebra.Order.Field.Power
import Mathlib.Data.Rat.Floor
import Mathlib.Tactic.FieldSimp
import Mathlib.Tactic.Linarith
import Mathlib.Tactic.NormNum
import Mathlib.Tactic.Positivity
import Mathlib.Tactic.Ring
import Shapewright.Number.Numeral

/-!
# Rounded numbers have one form

A binary number could be held with more or fewer twos in its mantissa.  Rounding leaves no choice:
the mantissa has all its bits unless the exponent is the least there is.  So two numbers of a format
that are equal are the same, but for the sign of a zero.

* `Number.Format.Normal` — the one form.
* `Number.Format.normal_round`, `Number.Format.normal_of_read` — what is rounded, or read, has it.
* `Number.Binary.eq_of_eq` — equal numbers in that form.
-/

set_option autoImplicit false

namespace Shapewright
namespace Number

/-! ## Powers of two around a quotient -/

theorem toNat_pow_le_iff {base num den : Nat} (hbase : 0 < base) (hden : 0 < den) (e : Int) :
    (if 0 ≤ e then decide (den * Nat.pow base e.toNat ≤ num)
      else decide (den ≤ num * Nat.pow base (-e).toNat)) = true ↔ (base : ℚ) ^ e ≤ num / den := by
  have hden : (0 : ℚ) < den := by exact_mod_cast hden
  have hbase : (0 : ℚ) < base := by exact_mod_cast hbase
  split
  · rename_i he
    obtain ⟨k, rfl⟩ : ∃ k : Nat, e = k := ⟨e.toNat, by omega⟩
    rw [decide_eq_true_iff, Int.toNat_natCast, zpow_natCast, le_div_iff₀ hden, mul_comm]
    exact_mod_cast Iff.rfl
  · rename_i he
    obtain ⟨k, rfl⟩ : ∃ k : Nat, e = -k := ⟨(-e).toNat, by omega⟩
    rw [decide_eq_true_iff, neg_neg, Int.toNat_natCast, zpow_neg, zpow_natCast, le_div_iff₀ hden,
      inv_mul_le_iff₀ (by positivity), mul_comm]
    exact_mod_cast Iff.rfl

theorem two_zpow_log2_le {n : Nat} (hn : n ≠ 0) : (2 : ℚ) ^ (Nat.log2 n : Int) ≤ n := by
  rw [zpow_natCast]
  exact_mod_cast Nat.log2_self_le hn

theorem lt_two_zpow_log2 (n : Nat) : (n : ℚ) < 2 ^ ((Nat.log2 n : Int) + 1) := by
  have hsucc : (Nat.log2 n : Int) + 1 = ((Nat.log2 n + 1 : Nat) : Int) := by push_cast; rfl
  rw [hsucc, zpow_natCast]
  exact_mod_cast Nat.lt_log2_self

/-- **The logarithm** of a quotient, rounded down. -/
theorem floorLog2_spec {num den : Nat} (hnum : num ≠ 0) (hden : den ≠ 0) :
    (2 : ℚ) ^ floorLog2 num den ≤ num / den ∧ (num : ℚ) / den < 2 ^ (floorLog2 num den + 1) := by
  have hpos : (0 : ℚ) < den := by exact_mod_cast Nat.pos_of_ne_zero hden
  have htwo : (2 : ℚ) ≠ 0 := by norm_num
  -- The guess can be too high by one.
  have habove : (num : ℚ) / den < 2 ^ ((Nat.log2 num : Int) - Nat.log2 den + 1) := by
    rw [div_lt_iff₀ hpos]
    calc (num : ℚ) < 2 ^ ((Nat.log2 num : Int) + 1) := lt_two_zpow_log2 num
      _ = 2 ^ ((Nat.log2 num : Int) - Nat.log2 den + 1) * 2 ^ (Nat.log2 den : Int) := by
        rw [← zpow_add₀ htwo]
        congr 1
        ring
      _ ≤ 2 ^ ((Nat.log2 num : Int) - Nat.log2 den + 1) * den :=
        mul_le_mul_of_nonneg_left (two_zpow_log2_le hden) (by positivity)
  have hbelow : (2 : ℚ) ^ ((Nat.log2 num : Int) - Nat.log2 den - 1) ≤ num / den := by
    rw [le_div_iff₀ hpos]
    calc (2 : ℚ) ^ ((Nat.log2 num : Int) - Nat.log2 den - 1) * den
        ≤ 2 ^ ((Nat.log2 num : Int) - Nat.log2 den - 1) * 2 ^ ((Nat.log2 den : Int) + 1) :=
        mul_le_mul_of_nonneg_left (lt_two_zpow_log2 den).le (by positivity)
      _ = 2 ^ (Nat.log2 num : Int) := by
        rw [← zpow_add₀ htwo]
        congr 1
        ring
      _ ≤ num := two_zpow_log2_le hnum
  rw [floorLog2]
  simp only [toNat_pow_le_iff Nat.two_pos (Nat.pos_of_ne_zero hden), Nat.cast_ofNat]
  split
  · rename_i hfits
    exact ⟨hfits, habove⟩
  · rename_i hfits
    rw [sub_add_cancel]
    exact ⟨hbelow, not_le.1 hfits⟩

/-! ## Rounding to an integer -/

theorem divNearest_le {num den bound : Nat} (hden : 0 < den) (h : num ≤ den * bound) :
    divNearest num den ≤ bound := by
  rcases Nat.lt_or_eq_of_le h with hlt | rfl
  · have hquotient : num / den < bound := Nat.div_lt_of_lt_mul hlt
    simp only [divNearest]
    split
    · omega
    · split
      · omega
      · split <;> omega
  · simp [divNearest, hden]

theorem le_divNearest {num den bound : Nat} (hden : 0 < den) (h : den * bound ≤ num) :
    bound ≤ divNearest num den := by
  have hle : bound ≤ num / den := (Nat.le_div_iff_mul_le hden).2 (by rwa [Nat.mul_comm])
  simp only [divNearest]
  split
  · omega
  · split
    · omega
    · split <;> omega

theorem divNearest_eq_zero_iff {num den : Nat} (hden : 0 < den) :
    divNearest num den = 0 ↔ 2 * num ≤ den := by
  rcases Nat.lt_or_ge num den with hlt | hle
  · simp only [divNearest, Nat.div_eq_of_lt hlt, Nat.mod_eq_of_lt hlt]
    split
    · simp only [true_iff]
      omega
    · split
      · simp only [Nat.zero_add, Nat.one_ne_zero, false_iff]
        omega
      · simp only [Nat.zero_mod, beq_self_eq_true, if_true, true_iff]
        omega
  · have hquotient : 1 ≤ divNearest num den := le_divNearest hden (by omega)
    omega

/-- The mantissa for an exponent. -/
def mantissaAt (num den : Nat) (e : Int) : Nat :=
  if 0 ≤ e then divNearest num (den * Nat.pow 2 e.toNat)
  else divNearest (num * Nat.pow 2 (-e).toNat) den

section

variable {num den : Nat} {e : Int} {k : Nat}

/-- A quotient is scaled by a power of two in its denominator or in its numerator. -/
theorem exists_scaled (num : Nat) (hden : 0 < den) (e : Int) : ∃ n d : Nat, 0 < d ∧
    mantissaAt num den e = divNearest n d ∧ (n : ℚ) / d = num / den * 2 ^ (-e) := by
  rw [mantissaAt]
  split
  · rename_i he
    obtain ⟨j, rfl⟩ : ∃ j : Nat, e = j := ⟨e.toNat, by omega⟩
    refine ⟨num, den * 2 ^ j, by positivity, rfl, ?_⟩
    push_cast
    rw [zpow_neg, zpow_natCast, div_mul_eq_div_div, div_eq_mul_inv (_ / _)]
  · rename_i he
    obtain ⟨j, rfl⟩ : ∃ j : Nat, e = -j := ⟨(-e).toNat, by omega⟩
    refine ⟨num * 2 ^ j, den, hden, by rw [neg_neg]; rfl, ?_⟩
    push_cast
    rw [neg_neg, zpow_natCast]
    ring

/-- A mantissa is no greater than what the quotient does not exceed. -/
theorem mantissaAt_le (hden : 0 < den) (h : (num : ℚ) / den ≤ k * 2 ^ e) :
    mantissaAt num den e ≤ k := by
  obtain ⟨n, d, hd, heq, hscaled⟩ := exists_scaled num hden e
  have hpos : (0 : ℚ) < d := by exact_mod_cast hd
  have hle : (n : ℚ) / d ≤ k := by
    rw [hscaled, zpow_neg, ← div_eq_mul_inv, div_le_iff₀ (by positivity)]
    exact h
  rw [heq]
  refine divNearest_le hd ?_
  rw [div_le_iff₀ hpos, mul_comm] at hle
  exact_mod_cast hle

/-- A mantissa is no less than what does not exceed the quotient. -/
theorem le_mantissaAt (hden : 0 < den) (h : (k : ℚ) * 2 ^ e ≤ num / den) :
    k ≤ mantissaAt num den e := by
  obtain ⟨n, d, hd, heq, hscaled⟩ := exists_scaled num hden e
  have hpos : (0 : ℚ) < d := by exact_mod_cast hd
  have hle : (k : ℚ) ≤ n / d := by
    rw [hscaled, zpow_neg, ← div_eq_mul_inv, le_div_iff₀ (by positivity)]
    exact h
  rw [heq]
  refine le_divNearest hd ?_
  rw [le_div_iff₀ hpos, mul_comm] at hle
  exact_mod_cast hle

end

/-! ## The one form -/

/-- The mantissa of a finite number has all its bits, unless the exponent is the least. -/
def Format.Normal (f : Format) : Binary → Prop
  | .finite _ m e => f.minExponent ≤ e ∧ m < 2 ^ f.precision ∧
      (2 ^ (f.precision - 1) ≤ m ∨ e = f.minExponent)
  | _ => True

theorem Format.normal_zero (f : Format) (negative : Bool) :
    f.Normal (.finite negative 0 f.minExponent) :=
  ⟨le_refl _, by positivity, .inr rfl⟩

/-- A mantissa that is full is carried over to the exponent. -/
theorem Format.normal_carried {f : Format} (hf : 0 < f.precision) (negative : Bool) {mantissa : Nat}
    {exponent : Int} (hmin : f.minExponent ≤ exponent) (hle : mantissa ≤ 2 ^ f.precision)
    (hge : exponent ≠ f.minExponent → 2 ^ (f.precision - 1) ≤ mantissa) :
    f.Normal (let (m, e) := if mantissa = 2 ^ f.precision then
      (2 ^ (f.precision - 1), exponent + 1) else (mantissa, exponent)
      if f.limit < e + f.precision then Binary.infinite negative
      else Binary.finite negative m e) := by
  have hhalf : 2 ^ (f.precision - 1) < 2 ^ f.precision :=
    Nat.pow_lt_pow_right (by decide) (by omega)
  by_cases hfull : mantissa = 2 ^ f.precision
  · rw [if_pos hfull]
    simp only
    split
    · trivial
    · exact ⟨by omega, hhalf, .inl (le_refl _)⟩
  · rw [if_neg hfull]
    simp only
    split
    · trivial
    · refine ⟨hmin, by omega, ?_⟩
      by_cases hleast : exponent = f.minExponent
      · exact .inr hleast
      · exact .inl (hge hleast)

/-- **What is rounded** is in the one form. -/
theorem Format.normal_round {f : Format} (hf : 0 < f.precision) (negative : Bool) (x : Rat) :
    f.Normal (f.round negative x) := by
  rw [round]
  simp only [beq_iff_eq]
  split
  · exact f.normal_zero negative
  rename_i hnum
  have hden : x.den ≠ 0 := x.den_nz
  obtain ⟨hlow, hhigh⟩ := floorLog2_spec hnum hden
  generalize hlog : floorLog2 x.num.natAbs x.den = l at hlow hhigh ⊢
  generalize he : max (l - ((f.precision : Int) - 1)) f.minExponent = e
  have hmin : f.minExponent ≤ e := he ▸ le_max_right _ _
  have hscale (k : Nat) : ((2 ^ k : Nat) : ℚ) * 2 ^ e = 2 ^ (k + e) := by
    rw [zpow_add₀ (by norm_num), zpow_natCast]
    push_cast
    rfl
  have hle : mantissaAt x.num.natAbs x.den e ≤ 2 ^ f.precision := by
    refine mantissaAt_le (Nat.pos_of_ne_zero hden) (hhigh.le.trans ?_)
    rw [hscale]
    exact zpow_le_zpow_right₀ (by norm_num) (by omega)
  have hge : e ≠ f.minExponent → 2 ^ (f.precision - 1) ≤ mantissaAt x.num.natAbs x.den e := by
    intro hne
    refine le_mantissaAt (Nat.pos_of_ne_zero hden) ?_
    have heq : ((f.precision - 1 : Nat) : Int) + e = l := by omega
    rwa [hscale, heq]
  exact f.normal_carried hf negative hmin hle hge

/-- What a text spells is in the one form. -/
theorem Format.normal_of_read {f : Format} (hf : 0 < f.precision) {s : String} {x : Binary}
    (h : f.read s = .ok x) : f.Normal x := by
  have hnormal (n : Numeral) : f.Normal (n.toBinary f) := by
    cases n with
    | finite negative m base e =>
      rw [Numeral.toBinary]
      generalize (if base == 2 then e else 3 * e) = bits
      split
      · exact f.normal_zero negative
      · split
        · trivial
        · split
          · exact f.normal_zero negative
          · exact f.normal_round hf negative _
    | _ => trivial
  rw [read] at h
  split at h
  · cases h
  · rename_i n hn
    split at h
    · cases h
    · cases h
      exact hnormal _

/-! ## Equal numbers -/

/-- A mantissa and an exponent in the one form are known by their product. -/
theorem Format.eq_of_normal {f : Format} (hf : 0 < f.precision) {a b : Bool} {m m' : Nat}
    {e e' : Int} (h : f.Normal (.finite a m e)) (h' : f.Normal (.finite b m' e'))
    (hvalue : (m : ℚ) * 2 ^ e = m' * 2 ^ e') : m = m' ∧ e = e' := by
  wlog hle : e ≤ e' generalizing a b m m' e e' with hwlog
  · obtain ⟨hm, he⟩ := hwlog h' h hvalue.symm (le_of_not_ge hle)
    exact ⟨hm.symm, he.symm⟩
  obtain ⟨k, rfl⟩ : ∃ k : Nat, e' = e + k := ⟨(e' - e).toNat, by omega⟩
  have htwo : (2 : ℚ) ≠ 0 := by norm_num
  have hmantissa : m = m' * 2 ^ k := by
    rw [zpow_add₀ htwo, zpow_natCast, mul_comm ((2 : ℚ) ^ e), ← mul_assoc] at hvalue
    exact_mod_cast mul_right_cancel₀ (zpow_ne_zero e htwo) hvalue
  cases k with
  | zero => exact ⟨by simpa using hmantissa, by simp⟩
  | succ k =>
    -- The greater exponent is not the least, and so the other mantissa would have too many bits.
    obtain ⟨hmin, hlt, -⟩ := h
    have hfull : 2 ^ (f.precision - 1) ≤ m' := h'.2.2.resolve_right (by push_cast; omega)
    have hpow : 2 ^ f.precision = 2 ^ (f.precision - 1) * 2 := by
      rw [← pow_succ, Nat.sub_add_cancel hf]
    have htwice : m' * 2 ≤ m := by
      rw [hmantissa, pow_succ, ← mul_assoc]
      exact Nat.mul_le_mul_right 2 (Nat.le_mul_of_pos_right m' (by positivity))
    omega

/-- **Equal numbers are the same**, unless they are zeros with different signs. -/
theorem Binary.eq_of_eq {f : Format} (hf : 0 < f.precision) {x y : Binary} (hx : f.Normal x)
    (hy : f.Normal y) (h : x.eq y = true) (hzero : x.isZero = true → x.isNegative = y.isNegative) :
    x = y := by
  cases x with
  | nan => cases h
  | infinite a =>
    cases y with
    | infinite b => rw [show a = b from beq_iff_eq.1 h]
    | _ => cases h
  | finite a m e =>
    cases y with
    | finite b m' e' =>
      have hvalue : (if a then -(m : ℚ) else m) * 2 ^ e = (if b then -(m' : ℚ) else m') * 2 ^ e' :=
        beq_iff_eq.1 h
      have habs (c : Bool) (n : Nat) (g : Int) :
          |(if c then -(n : ℚ) else n) * 2 ^ g| = n * 2 ^ g := by
        have hpow : (0 : ℚ) < 2 ^ g := by positivity
        cases c <;> simp [abs_mul, abs_of_pos hpow]
      have hsize : (m : ℚ) * 2 ^ e = m' * 2 ^ e' := by rw [← habs a, ← habs b, hvalue]
      obtain ⟨rfl, rfl⟩ := Format.eq_of_normal hf hx hy hsize
      have hsigned : (if a then -(m : ℚ) else m) = if b then -(m : ℚ) else m :=
        mul_right_cancel₀ (by positivity) hvalue
      have hsign : a = b := by
        by_cases hm : m = 0
        · exact hzero (beq_iff_eq.2 hm)
        · have hpos : (0 : ℚ) < m := by exact_mod_cast Nat.pos_of_ne_zero hm
          cases a <;> cases b <;> simp only [if_true, Bool.false_eq_true, if_false] at hsigned ⊢ <;>
            linarith
      rw [hsign]
    | _ => cases h

end Number
end Shapewright
