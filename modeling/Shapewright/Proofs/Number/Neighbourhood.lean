import Shapewright.Number.Shortest
import Shapewright.Proofs.Number.Exactness

/-!
# What reads back as a number

The magnitudes that are rounded to a number of a format lie between the middles to its neighbours,
and the middles themselves belong to the one of the two numbers whose mantissa is even.  The printer
computes with these ends as integers; here they are the exact ones, and all between them is rounded
to the number.

* `divNearest_eq`, `mantissaAt_eq` — what is rounded to an integer, and to a mantissa.
* `Neighbourhood.Holds` — a magnitude lies between the ends.
* `neighbourhood_spec` — the ends are the middles to the neighbours.
* `Format.round_of_holds` — what lies between them is rounded to the number.
-/

set_option autoImplicit false

namespace Shapewright
namespace Number

variable {f : Format} {m : Nat} {e : Int} {v : ℚ}

/-! ## Rounding to an integer -/

/-- A quotient is no further than half from an integer, and nearer than that to an odd one. -/
def IsNear (k : Nat) (a : ℚ) : Prop :=
  if k % 2 = 0 then (k : ℚ) - 1 / 2 ≤ a ∧ a ≤ k + 1 / 2 else (k : ℚ) - 1 / 2 < a ∧ a < k + 1 / 2

/-- The same with integers only. -/
theorem isNear_div_iff {num den k : Nat} (hden : 0 < den) : IsNear k (num / den : ℚ) ↔
    if k % 2 = 0 then 2 * (den * k) ≤ 2 * num + den ∧ 2 * num ≤ 2 * (den * k) + den
    else 2 * (den * k) < 2 * num + den ∧ 2 * num < 2 * (den * k) + den := by
  have hpos : (0 : ℚ) < den := by exact_mod_cast hden
  rw [IsNear]
  split
  · rw [le_div_iff₀ hpos, div_le_iff₀ hpos, ← Nat.cast_le (α := ℚ), ← Nat.cast_le (α := ℚ)]
    push_cast
    constructor <;> rintro ⟨hlow, hhigh⟩ <;> constructor <;> linarith
  · rw [lt_div_iff₀ hpos, div_lt_iff₀ hpos, ← Nat.cast_lt (α := ℚ), ← Nat.cast_lt (α := ℚ)]
    push_cast
    constructor <;> rintro ⟨hlow, hhigh⟩ <;> constructor <;> linarith

/-- **The nearest integer.** -/
theorem divNearest_eq {num den k : Nat} (hden : 0 < den) (h : IsNear k (num / den : ℚ)) :
    divNearest num den = k := by
  rw [isNear_div_iff hden] at h
  have hsplit := Nat.div_add_mod num den
  have hrest := Nat.mod_lt num hden
  simp only [divNearest, beq_iff_eq]
  generalize num / den = q at hsplit ⊢
  generalize num % den = r at hsplit hrest ⊢
  have hle : 2 * (den * k) ≤ 2 * num + den ∧ 2 * num ≤ 2 * (den * k) + den := by
    split at h <;> omega
  have hbelow : k < q + 2 := by
    by_contra hge
    have hmul : den * (q + 2) ≤ den * k := Nat.mul_le_mul_left den (by omega)
    rw [Nat.mul_add] at hmul
    omega
  have habove : q < k + 1 := by
    by_contra hge
    have hmul : den * (k + 1) ≤ den * q := Nat.mul_le_mul_left den (by omega)
    rw [Nat.mul_add] at hmul
    omega
  obtain rfl | rfl : k = q ∨ k = q + 1 := by omega
  · split
    · rfl
    · rw [if_neg (by omega)]
      split at h
      · rw [if_pos ‹_›]
      · omega
  · rw [Nat.mul_add] at h
    rw [if_neg (by split at h <;> omega)]
    split
    · rfl
    · rw [if_neg (by split at h <;> omega)]

theorem mantissaAt_eq {num den k : Nat} (hden : 0 < den)
    (h : IsNear k ((num / den : ℚ) * 2 ^ (-e))) : mantissaAt num den e = k := by
  obtain ⟨n, d, hd, heq, hscaled⟩ := exists_scaled num hden e
  rw [heq]
  exact divNearest_eq hd (by rwa [hscaled])

/-! ## The ends of a neighbourhood -/

/-- A magnitude lies between the ends, or it is one of them and they belong to the number. -/
def Neighbourhood.Holds (n : Neighbourhood) (v : ℚ) : Prop :=
  if n.closed then (n.lower / n.unit : ℚ) ≤ v ∧ v ≤ n.upper / n.unit
  else (n.lower / n.unit : ℚ) < v ∧ v < n.upper / n.unit

/-- How far the lower end is away, in units of the last place. -/
def gapBelow (f : Format) (m : Nat) (e : Int) : ℚ :=
  if m = 2 ^ (f.precision - 1) ∧ e ≠ f.minExponent then 1 / 4 else 1 / 2

theorem gapBelow_le (f : Format) (m : Nat) (e : Int) :
    1 / 4 ≤ gapBelow f m e ∧ gapBelow f m e ≤ 1 / 2 := by
  rw [gapBelow]
  split <;> norm_num

/-- **The ends of a neighbourhood** are the middles to the neighbours of the number. -/
theorem neighbourhood_spec (f : Format) (e : Int) (hm : 0 < m) :
    0 < (neighbourhood f m e).unit ∧
      ((neighbourhood f m e).exact / (neighbourhood f m e).unit : ℚ) = m * 2 ^ e ∧
      ((neighbourhood f m e).lower / (neighbourhood f m e).unit : ℚ) =
        (m - gapBelow f m e) * 2 ^ e ∧
      ((neighbourhood f m e).upper / (neighbourhood f m e).unit : ℚ) = (m + 1 / 2) * 2 ^ e ∧
      (neighbourhood f m e).closed = (m % 2 == 0) := by
  have hscale : ∃ scale unit : Nat, 0 < unit ∧ ((4 * scale / unit : ℚ)) = 2 ^ e ∧
      neighbourhood f m e =
        { exact := 4 * m * scale
          lower := (4 * m - if m = 2 ^ (f.precision - 1) ∧ e ≠ f.minExponent then 1 else 2) * scale
          upper := (4 * m + 2) * scale
          unit
          closed := m % 2 == 0 } := by
    rw [neighbourhood]
    simp only [Bool.and_eq_true, beq_iff_eq, bne_iff_ne]
    by_cases he : 2 ≤ e
    · rw [if_pos he]
      refine ⟨_, 1, Nat.one_pos, ?_, rfl⟩
      obtain ⟨k, rfl⟩ : ∃ k : Nat, e = k + 2 := ⟨(e - 2).toNat, by omega⟩
      rw [add_sub_cancel_right, Int.toNat_natCast, Nat.pow_eq, zpow_add₀ (by norm_num), zpow_natCast]
      push_cast
      ring
    · rw [if_neg he]
      refine ⟨1, _, Nat.two_pow_pos _, ?_, rfl⟩
      obtain ⟨k, rfl⟩ : ∃ k : Nat, e = 2 - k := ⟨(2 - e).toNat, by omega⟩
      rw [sub_sub_cancel, Int.toNat_natCast, zpow_sub₀ (by norm_num), zpow_natCast]
      push_cast
      norm_num
  obtain ⟨scale, unit, hunit, hpower, heq⟩ := hscale
  rw [heq, ← hpower, gapBelow]
  have hunit' : (unit : ℚ) ≠ 0 := by exact_mod_cast hunit.ne'
  refine ⟨hunit, ?_, ?_, ?_, rfl⟩
  · push_cast
    ring
  · split
    · rw [Nat.cast_mul, Nat.cast_sub (by omega)]
      push_cast
      ring
    · rw [Nat.cast_mul, Nat.cast_sub (by omega)]
      push_cast
      ring
  · push_cast
    ring

theorem neighbourhood_holds_iff (f : Format) (e : Int) (hm : 0 < m) :
    (neighbourhood f m e).Holds v ↔
      if m % 2 = 0 then (m - gapBelow f m e) * 2 ^ e ≤ v ∧ v ≤ (m + 1 / 2) * 2 ^ e
      else (m - gapBelow f m e) * 2 ^ e < v ∧ v < (m + 1 / 2) * 2 ^ e := by
  obtain ⟨-, -, hlower, hupper, hclosed⟩ := neighbourhood_spec f e hm
  rw [Neighbourhood.Holds, hlower, hupper, hclosed]
  simp only [beq_iff_eq]

/-! ## Rounding -/

namespace Format

/-- What holds at least for the ends, whether they belong to the number or not. -/
theorem bounds_of_holds (hm : 0 < m) (h : (neighbourhood f m e).Holds v) :
    (m - gapBelow f m e) * 2 ^ e ≤ v ∧ v ≤ (m + 1 / 2) * 2 ^ e := by
  rw [neighbourhood_holds_iff f e hm] at h
  split at h
  · exact h
  · exact ⟨h.1.le, h.2.le⟩

theorem pos_of_holds (hm : 0 < m) (h : (neighbourhood f m e).Holds v) : 0 < v := by
  have hpos : (1 : ℚ) ≤ m := by exact_mod_cast hm
  refine lt_of_lt_of_le (mul_pos ?_ (by positivity)) (bounds_of_holds hm h).1
  linarith [gapBelow_le f m e]

/-- The exponent is that of the number, or the next one below. -/
theorem exponentOf_le_of_holds (hmin : f.minExponent ≤ e) (hlt : m < 2 ^ f.precision) (hm : 0 < m)
    (h : (neighbourhood f m e).Holds v) : f.exponentOf v ≤ e := by
  obtain ⟨-, hlog, -⟩ := floorLog2_of_pos (pos_of_holds hm h)
  have hbelow : v < 2 ^ ((f.precision : Int) + e) := by
    have hsucc : (m : ℚ) + 1 ≤ 2 ^ f.precision := by exact_mod_cast hlt
    rw [zpow_add₀ (by norm_num), zpow_natCast]
    refine (bounds_of_holds hm h).2.trans_lt (mul_lt_mul_of_pos_right ?_ (by positivity))
    linarith
  have := (zpow_lt_zpow_iff_right₀ (by norm_num : (1 : ℚ) < 2)).1 (hlog.trans_lt hbelow)
  rw [exponentOf]
  omega

theorem mantissaOf_eq (hv : 0 < v) {g : Int} {k : Nat} (hg : f.exponentOf v = g)
    (h : IsNear k (v * 2 ^ (-g))) : f.mantissaOf v = k := by
  rw [mantissaOf, hg]
  exact mantissaAt_eq (Nat.pos_of_ne_zero v.den_nz) (by rwa [num_div_den hv.le])

/-- With the exponent of the number it is the mantissa that is nearest. -/
theorem isNear_of_holds (hm : 0 < m) (h : (neighbourhood f m e).Holds v) :
    IsNear m (v * 2 ^ (-e)) := by
  have hgap := (gapBelow_le f m e).2
  have hpow : (0 : ℚ) < 2 ^ e := by positivity
  rw [neighbourhood_holds_iff f e hm] at h
  rw [IsNear, zpow_neg, ← div_eq_mul_inv, le_div_iff₀ hpow, div_le_iff₀ hpow, lt_div_iff₀ hpow,
    div_lt_iff₀ hpow]
  have hlow : ((m : ℚ) - 1 / 2) * 2 ^ e ≤ (m - gapBelow f m e) * 2 ^ e :=
    mul_le_mul_of_nonneg_right (by linarith) hpow.le
  split at h
  · rw [if_pos ‹_›]
    exact ⟨hlow.trans h.1, h.2⟩
  · rw [if_neg ‹_›]
    exact ⟨hlow.trans_lt h.1, h.2⟩

/-- With the exponent below, the number is the least that has its own exponent, and the mantissa
that is nearest is full. -/
theorem of_exponentOf_lt (hfull : 2 ^ (f.precision - 1) ≤ m ∨ e = f.minExponent)
    (hf : 0 < f.precision) (hm : 0 < m) (h : (neighbourhood f m e).Holds v)
    (hlt : f.exponentOf v < e) : m = 2 ^ (f.precision - 1) ∧ f.exponentOf v = e - 1 ∧
      f.mantissaOf v = 2 ^ f.precision := by
  have hv := pos_of_holds hm h
  obtain ⟨hlow, -⟩ := bounds_of_holds hm h
  obtain ⟨-, -, hlog⟩ := floorLog2_of_pos hv
  have hleast := f.minExponent_le_exponentOf v
  have hpow : (0 : ℚ) < 2 ^ e := by positivity
  have hhalf : (2 : ℚ) ^ f.precision = 2 * 2 ^ (f.precision - 1) := by
    rw [← pow_succ', Nat.sub_add_cancel hf]
  have hhigh : v < 2 ^ (f.precision - 1) * 2 ^ e := by
    rw [← zpow_natCast, ← zpow_add₀ (by norm_num)]
    refine hlog.trans_le (zpow_le_zpow_right₀ (by norm_num) ?_)
    rw [exponentOf] at hlt
    omega
  have hm' : m = 2 ^ (f.precision - 1) := by
    refine le_antisymm ?_ (hfull.resolve_right (by omega))
    have hlt := lt_of_mul_lt_mul_right (hlow.trans_lt hhigh) hpow.le
    have hsucc : (m : ℚ) < (2 ^ (f.precision - 1) : Nat) + 1 := by
      push_cast
      linarith [(gapBelow_le f m e).2]
    exact Nat.le_of_lt_succ (by exact_mod_cast hsucc)
  -- In units of the exponent below, the number is the full mantissa.
  have hpow' : (0 : ℚ) < 2 ^ (e - 1) := by positivity
  have htwice : (2 : ℚ) ^ (f.precision - 1) * 2 ^ e = 2 ^ f.precision * 2 ^ (e - 1) := by
    rw [hhalf, zpow_sub_one₀ (by norm_num)]
    ring
  have hlow' : ((2 : ℚ) ^ f.precision - 1 / 2) * 2 ^ (e - 1) ≤ v := by
    refine le_trans (le_of_eq ?_) hlow
    rw [gapBelow, if_pos ⟨hm', by omega⟩, hm', sub_mul (_ : ℚ) _ (2 ^ e)]
    push_cast
    rw [htwice, zpow_sub_one₀ (by norm_num)]
    ring
  have hexponent : f.exponentOf v = e - 1 := by
    have hone : (1 : ℚ) ≤ 2 ^ (f.precision - 1) := one_le_pow₀ (by norm_num)
    have hstart : (2 : ℚ) ^ (((f.precision - 1 : Nat) : Int) + (e - 1)) ≤ v := by
      rw [zpow_add₀ (by norm_num), zpow_natCast]
      exact (mul_le_mul_of_nonneg_right (by linarith) hpow'.le).trans hlow'
    have := (zpow_lt_zpow_iff_right₀ (by norm_num : (1 : ℚ) < 2)).1 (hstart.trans_lt hlog)
    refine le_antisymm (by omega) ?_
    rw [exponentOf]
    omega
  refine ⟨hm', hexponent, mantissaOf_eq hv hexponent ?_⟩
  have heven : 2 ^ f.precision % 2 = 0 :=
    Nat.mod_eq_zero_of_dvd (dvd_pow_self 2 hf.ne')
  rw [IsNear, if_pos heven, zpow_neg, ← div_eq_mul_inv, le_div_iff₀ hpow', div_le_iff₀ hpow']
  push_cast
  refine ⟨hlow', (htwice ▸ hhigh).le.trans (mul_le_mul_of_nonneg_right ?_ hpow'.le)⟩
  linarith

/-- **What lies between the ends** is rounded to the number. -/
theorem round_of_holds (hf : 0 < f.precision) {negative : Bool}
    (hnormal : f.Normal (.finite negative m e)) (hlimit : e + f.precision ≤ f.limit) (hm : 0 < m)
    (h : (neighbourhood f m e).Holds v) : f.round negative v = .finite negative m e := by
  obtain ⟨hmin, hlt, hfull⟩ := hnormal
  have hv := pos_of_holds hm h
  rw [f.round_of_pos negative hv]
  rcases (exponentOf_le_of_holds hmin hlt hm h).eq_or_lt with heq | hless
  · rw [mantissaOf_eq hv heq (isNear_of_holds hm h), heq, if_neg hlt.ne, if_neg (by omega)]
  · obtain ⟨hm', hexponent, hmantissa⟩ := of_exponentOf_lt hfull hf hm h hless
    rw [hmantissa, hexponent, if_pos rfl, if_neg (by omega), ← hm', sub_add_cancel]

end Format

end Number
end Shapewright
