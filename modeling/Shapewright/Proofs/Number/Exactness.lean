import Shapewright.Number.Numeral
import Shapewright.Proofs.Number.Rounding

/-!
# What rounding does to a number

A number is rounded to the nearest one of a format.  How near that is matters little here: what is
used again and again is that rounding does not pass over a number of the format, from below or from
above.

* `Numeral.magnitude_eq` — the exact magnitude of a spelled number.
* `Format.round_of_pos` — rounding settles an exponent, and then a mantissa.
* `Format.isZero_round_iff` — what is rounded to zero.
* `Format.round_infinite_or_has` — what is rounded is infinite, or it is a number of the format.
* `Numeral.toBinary_eq_round` — the number nearest to a spelled one is its magnitude rounded, also
  where that is settled by the number of digits alone.
* `Format.Representable` — the magnitudes that a format has; `Format.exists_round_between` —
  rounding stays between them, so they are not rounded themselves (`Format.toRat?_round`).
* `Format.representable_natCast` — integers up to the precision of the format are among them.
* `wholePart`, `clamped` — integer parts; `Binary.saturate_of_toRat?` — they are those of the exact
  value.
* `Binary.isIntegral_and_truncate?_iff` — what counts as an integer.
-/

set_option autoImplicit false

namespace Shapewright
namespace Number

variable {f : Format} {x : ℚ}

/-! ## Magnitudes -/

theorem Numeral.magnitude_eq (m base : Nat) (e : Int) :
    magnitude m base e = m * (base : ℚ) ^ e := by
  rw [magnitude]
  split
  · rename_i he
    obtain ⟨k, rfl⟩ : ∃ k : Nat, e = k := ⟨e.toNat, by omega⟩
    rw [Int.toNat_natCast, zpow_natCast, Nat.pow_eq]
    push_cast
    rfl
  · rename_i he
    obtain ⟨k, rfl⟩ : ∃ k : Nat, e = -k := ⟨(-e).toNat, by omega⟩
    rw [neg_neg, Int.toNat_natCast, Rat.mkRat_eq_div, zpow_neg, zpow_natCast, div_eq_mul_inv,
      Nat.pow_eq]
    push_cast
    rfl

/-- A power of ten is at least that of two with three times the exponent. -/
theorem two_zpow_le_ten_zpow {e : Int} (he : 0 ≤ e) : (2 : ℚ) ^ (3 * e) ≤ 10 ^ e := by
  obtain ⟨k, rfl⟩ : ∃ k : Nat, e = k := ⟨e.toNat, by omega⟩
  rw [zpow_mul, zpow_natCast, zpow_natCast]
  exact pow_le_pow_left₀ (by norm_num) (by norm_num) k

theorem ten_zpow_le_two_zpow {e : Int} (he : e ≤ 0) : (10 : ℚ) ^ e ≤ 2 ^ (3 * e) := by
  have h := two_zpow_le_ten_zpow (e := -e) (by omega)
  rw [mul_neg, zpow_neg, zpow_neg] at h
  exact (inv_le_inv₀ (by positivity) (by positivity)).1 h

/-! ## Rounding -/

theorem num_div_den (hx : 0 ≤ x) : (x.num.natAbs : ℚ) / x.den = x := by
  have hnum : ((x.num.natAbs : Int) : ℚ) = x.num := by
    rw [Int.natAbs_of_nonneg (Rat.num_nonneg.2 hx)]
  rw [← Int.cast_natCast, hnum, Rat.num_div_den]

/-- The greatest power of two that a magnitude is not below. -/
theorem floorLog2_of_pos (hx : 0 < x) : x.num.natAbs ≠ 0 ∧
    (2 : ℚ) ^ floorLog2 x.num.natAbs x.den ≤ x ∧ x < 2 ^ (floorLog2 x.num.natAbs x.den + 1) := by
  have hnum : x.num.natAbs ≠ 0 := by
    rw [Int.natAbs_ne_zero, Rat.num_ne_zero]
    exact hx.ne'
  have hspec := floorLog2_spec hnum x.den_nz
  rw [num_div_den hx.le] at hspec
  exact ⟨hnum, hspec⟩

namespace Format

/-- The exponent of a magnitude that is rounded. -/
def exponentOf (f : Format) (x : ℚ) : Int :=
  max (floorLog2 x.num.natAbs x.den - ((f.precision : Int) - 1)) f.minExponent

/-- Its mantissa, which may be full. -/
def mantissaOf (f : Format) (x : ℚ) : Nat := mantissaAt x.num.natAbs x.den (f.exponentOf x)

/-- What a magnitude is rounded to, if there were no limit. -/
def rounded (f : Format) (x : ℚ) : ℚ := f.mantissaOf x * 2 ^ f.exponentOf x

theorem round_zero (f : Format) (negative : Bool) :
    f.round negative 0 = .finite negative 0 f.minExponent := by
  simp [round]

/-- A mantissa that is full is carried over to the exponent. -/
theorem round_of_pos (f : Format) (negative : Bool) (hx : 0 < x) :
    f.round negative x = if f.mantissaOf x = 2 ^ f.precision then
        if f.limit < f.exponentOf x + 1 + f.precision then .infinite negative
        else .finite negative (2 ^ (f.precision - 1)) (f.exponentOf x + 1)
      else if f.limit < f.exponentOf x + f.precision then .infinite negative
        else .finite negative (f.mantissaOf x) (f.exponentOf x) := by
  have hround : f.round negative x =
      (fun p : Nat × Int => if f.limit < p.2 + f.precision then Binary.infinite negative
        else .finite negative p.1 p.2) (if f.mantissaOf x = 2 ^ f.precision
          then (2 ^ (f.precision - 1), f.exponentOf x + 1) else (f.mantissaOf x, f.exponentOf x)) := by
    rw [round]
    simp only [beq_iff_eq, if_neg (floorLog2_of_pos hx).1]
    rfl
  rw [hround]
  by_cases hfull : f.mantissaOf x = 2 ^ f.precision
  · rw [if_pos hfull, if_pos hfull]
  · rw [if_neg hfull, if_neg hfull]

/-- The finite numbers of a format, in their one form. -/
inductive Has (f : Format) : Binary → Prop
  | finite {negative : Bool} {m : Nat} {e : Int} (hnormal : f.Normal (.finite negative m e))
      (hlimit : e + f.precision ≤ f.limit) : f.Has (.finite negative m e)

/-- **What is rounded** is infinite, or a number of the format. -/
theorem round_infinite_or_has (hf : 0 < f.precision) (hrange : f.minExponent + f.precision ≤ f.limit)
    (negative : Bool) (hx : 0 ≤ x) :
    f.round negative x = .infinite negative ∨ f.Has (f.round negative x) := by
  rcases hx.eq_or_lt with rfl | hpos
  · rw [round_zero]
    exact .inr (.finite (f.normal_zero negative) hrange)
  · have hnormal := normal_round hf negative x
    rw [f.round_of_pos negative hpos] at hnormal ⊢
    split_ifs at hnormal ⊢
    · exact .inl rfl
    · exact .inr (.finite hnormal (by omega))
    · exact .inl rfl
    · exact .inr (.finite hnormal (by omega))

/-- An exponent that is not the least makes use of all the bits of the mantissa. -/
theorem two_zpow_le_of_lt_exponentOf (hx : 0 < x) (h : f.minExponent < f.exponentOf x) :
    (2 : ℚ) ^ ((f.precision : Int) - 1 + f.exponentOf x) ≤ x := by
  obtain ⟨-, hlow, -⟩ := floorLog2_of_pos hx
  rw [exponentOf] at h ⊢
  refine le_trans (zpow_le_zpow_right₀ (by norm_num) ?_) hlow
  omega

theorem minExponent_le_exponentOf (f : Format) (x : ℚ) : f.minExponent ≤ f.exponentOf x :=
  le_max_right _ _

/-- A mantissa is zero for half of the least magnitude, or less. -/
theorem mantissaOf_eq_zero_iff (hf : 0 < f.precision) (hx : 0 < x) :
    f.mantissaOf x = 0 ↔ x ≤ 2 ^ (f.minExponent - 1) := by
  obtain ⟨n, d, hd, hmantissa, hscaled⟩ := exists_scaled x.num.natAbs (Nat.pos_of_ne_zero x.den_nz)
    (f.exponentOf x)
  have hhalf : f.mantissaOf x = 0 ↔ x ≤ 2 ^ (f.exponentOf x - 1) := by
    have hd' : (0 : ℚ) < d := by exact_mod_cast hd
    rw [mantissaOf, hmantissa, divNearest_eq_zero_iff hd]
    have htwice : 2 * n ≤ d ↔ (n : ℚ) / d ≤ 1 / 2 := by
      rw [div_le_iff₀ hd', ← Nat.cast_le (α := ℚ)]
      push_cast
      constructor <;> intro h <;> linarith
    rw [htwice, hscaled, num_div_den hx.le, zpow_neg, ← div_eq_mul_inv, div_le_iff₀ (by positivity),
      zpow_sub_one₀ (by norm_num : (2 : ℚ) ≠ 0)]
    constructor <;> intro h <;> linarith
  rcases (f.minExponent_le_exponentOf x).eq_or_lt with hleast | hgreater
  · rw [hhalf, ← hleast]
  · have hlow := two_zpow_le_of_lt_exponentOf hx hgreater
    have hstrict {e : Int} (he : e < f.exponentOf x) : ¬ x ≤ 2 ^ e := by
      intro hle
      have := (zpow_le_zpow_iff_right₀ (by norm_num : (1 : ℚ) < 2)).1 (hlow.trans hle)
      omega
    rw [hhalf]
    exact iff_of_false (hstrict (by omega)) (hstrict (by omega))

/-! ## Beyond the range -/

/-- A magnitude that is far too large is infinite. -/
theorem round_of_large (negative : Bool) (hx : (2 : ℚ) ^ (f.limit + 1) ≤ x) :
    f.round negative x = .infinite negative := by
  have hpos : 0 < x := lt_of_lt_of_le (by positivity) hx
  obtain ⟨-, -, hhigh⟩ := floorLog2_of_pos hpos
  have hlog : f.limit + 1 < floorLog2 x.num.natAbs x.den + 1 :=
    (zpow_lt_zpow_iff_right₀ (by norm_num)).1 (lt_of_le_of_lt hx hhigh)
  have hexponent : f.limit < f.exponentOf x + f.precision := by
    rw [exponentOf]
    omega
  rw [f.round_of_pos negative hpos, if_pos (by omega : f.limit < f.exponentOf x + 1 + f.precision),
    if_pos hexponent, ite_self]

/-- Half of the least magnitude, or less, is rounded to zero. -/
theorem round_of_small (hf : 0 < f.precision) (hrange : f.minExponent + f.precision ≤ f.limit)
    (negative : Bool) (hpos : 0 < x) (hx : x ≤ 2 ^ (f.minExponent - 1)) :
    f.round negative x = .finite negative 0 f.minExponent := by
  have hexponent : f.exponentOf x = f.minExponent := by
    refine le_antisymm (not_lt.1 fun hlt => ?_) (f.minExponent_le_exponentOf x)
    have := (zpow_le_zpow_iff_right₀ (by norm_num : (1 : ℚ) < 2)).1
      ((two_zpow_le_of_lt_exponentOf hpos hlt).trans hx)
    omega
  have hzero := (mantissaOf_eq_zero_iff hf hpos).2 hx
  rw [f.round_of_pos negative hpos, hzero, hexponent, if_neg (Nat.two_pow_pos f.precision).ne,
    if_neg (by omega)]

/-- **What is rounded to zero.** -/
theorem isZero_round_iff (hf : 0 < f.precision) (hrange : f.minExponent + f.precision ≤ f.limit)
    (negative : Bool) (hx : 0 ≤ x) :
    (f.round negative x).isZero = true ↔ x ≤ 2 ^ (f.minExponent - 1) := by
  rcases hx.eq_or_lt with rfl | hpos
  · have hle : (0 : ℚ) ≤ 2 ^ (f.minExponent - 1) := by positivity
    simp [round, Binary.isZero, hle]
  constructor
  · intro h
    rw [← mantissaOf_eq_zero_iff hf hpos]
    rw [f.round_of_pos negative hpos] at h
    split at h
    · split at h
      · cases h
      · exact absurd (beq_iff_eq.1 h) (Nat.two_pow_pos _).ne'
    · split at h
      · cases h
      · exact beq_iff_eq.1 h
  · intro hle
    rw [round_of_small hf hrange negative hpos hle]
    rfl

end Format

/-- The format of 64 bits has a least magnitude that is below its limit. -/
theorem double_fits : 0 < double.precision ∧
    double.minExponent + double.precision ≤ double.limit := by
  decide

/-- The power of a spelled number, counted in powers of two. -/
theorem exists_bits {base : Nat} (hbase : base = 2 ∨ base = 10) (e : Int) :
    ∃ bits : Int, (if base == 2 then e else 3 * e) = bits ∧
      (0 ≤ e → (2 : ℚ) ^ bits ≤ base ^ e) ∧ (e ≤ 0 → (base : ℚ) ^ e ≤ 2 ^ bits) := by
  rcases hbase with rfl | rfl
  · exact ⟨e, rfl, fun _ => le_rfl, fun _ => le_rfl⟩
  · exact ⟨3 * e, rfl, fun he => by exact_mod_cast two_zpow_le_ten_zpow he,
      fun he => by exact_mod_cast ten_zpow_le_two_zpow he⟩

/-- **A spelled number** is its magnitude rounded. -/
theorem Numeral.toBinary_eq_round (hf : 0 < f.precision)
    (hrange : f.minExponent + f.precision ≤ f.limit) (negative : Bool) (m : Nat) {base : Nat}
    (hbase : base = 2 ∨ base = 10) (e : Int) :
    toBinary f (.finite negative m base e) = f.round negative (m * (base : ℚ) ^ e) := by
  obtain ⟨bits, hbits, hlower, hupper⟩ := exists_bits hbase e
  rw [toBinary]
  simp only [hbits]
  simp only [beq_iff_eq, magnitude_eq]
  by_cases hm : m = 0
  · subst hm
    simp [Format.round]
  rw [if_neg hm]
  have hbase : (0 : ℚ) < base := by rcases hbase with rfl | rfl <;> norm_num
  have hpos : (0 : ℚ) < m * base ^ e := by
    have : (0 : ℚ) < m := by exact_mod_cast Nat.pos_of_ne_zero hm
    positivity
  have htwo : (2 : ℚ) ≠ 0 := by norm_num
  split
  · rename_i hlarge
    refine (Format.round_of_large negative ?_).symm
    calc (2 : ℚ) ^ (f.limit + 1) ≤ 2 ^ ((Nat.log2 m : Int) + bits) :=
          zpow_le_zpow_right₀ (by norm_num) (by omega)
      _ = 2 ^ (Nat.log2 m : Int) * 2 ^ bits := zpow_add₀ htwo _ _
      _ ≤ m * base ^ e := mul_le_mul (two_zpow_log2_le hm) (hlower hlarge.1)
          (by positivity) (by positivity)
  · split
    · rename_i hsmall
      refine (Format.round_of_small hf hrange negative hpos (le_of_lt ?_)).symm
      calc (m : ℚ) * base ^ e < 2 ^ ((Nat.log2 m : Int) + 1) * base ^ e :=
            mul_lt_mul_of_pos_right (lt_two_zpow_log2 m) (by positivity)
        _ ≤ 2 ^ ((Nat.log2 m : Int) + 1) * 2 ^ bits :=
            mul_le_mul_of_nonneg_left (hupper hsmall.1.le) (by positivity)
        _ = 2 ^ ((Nat.log2 m : Int) + 1 + bits) := (zpow_add₀ htwo _ _).symm
        _ ≤ 2 ^ (f.minExponent - 1) := zpow_le_zpow_right₀ (by norm_num) (by omega)
    · rfl

/-! ## Within the range -/

/-- The magnitudes that a format has. -/
def Format.Representable (f : Format) (x : ℚ) : Prop :=
  ∃ (m : Nat) (e : Int), x = m * 2 ^ e ∧ m < 2 ^ f.precision ∧ f.minExponent ≤ e ∧
    e + f.precision ≤ f.limit

theorem Format.Representable.nonneg (h : f.Representable x) : 0 ≤ x := by
  obtain ⟨m, e, rfl, -⟩ := h
  positivity

/-- A number of a format has a value, and the format has its size. -/
theorem Format.Has.representable {b : Binary} (h : f.Has b) :
    ∃ v, b.toRat? = some v ∧ f.Representable |v| := by
  obtain @⟨negative, m, e, ⟨hmin, hm, -⟩, hlimit⟩ := h
  refine ⟨_, rfl, m, e, ?_, hm, hmin, hlimit⟩
  rw [abs_mul, pow2, abs_of_pos (show (0 : ℚ) < 2 ^ e by positivity)]
  cases negative <;> simp

/-- A magnitude that a format has is below the next power of two. -/
theorem lt_two_zpow_of_lt {m k : Nat} (hm : m < 2 ^ k) (e : Int) :
    (m : ℚ) * 2 ^ e < 2 ^ ((k : Int) + e) := by
  rw [zpow_add₀ (by norm_num), zpow_natCast]
  exact mul_lt_mul_of_pos_right (by exact_mod_cast hm) (by positivity)

/-- A multiple of a power of two is one of each lesser power. -/
theorem exists_mul_two_zpow {e g : Int} (h : g ≤ e) (m : Nat) :
    ∃ k : Nat, (m : ℚ) * 2 ^ e = k * 2 ^ g := by
  obtain ⟨j, rfl⟩ : ∃ j : Nat, e = g + j := ⟨(e - g).toNat, by omega⟩
  refine ⟨m * 2 ^ j, ?_⟩
  rw [zpow_add₀ (by norm_num), zpow_natCast]
  push_cast
  ring

namespace Format

/-- The exponent is no greater than that of a magnitude of the format that is not exceeded: a
greater one would make use of bits for which there is no room. -/
theorem exponentOf_le {m : Nat} {e : Int} (hm : m < 2 ^ f.precision) (hmin : f.minExponent ≤ e)
    (hx : 0 < x) (hle : x ≤ m * 2 ^ e) : f.exponentOf x ≤ e := by
  by_contra hlt
  have hlow := two_zpow_le_of_lt_exponentOf hx (f := f) (by omega)
  have := (zpow_lt_zpow_iff_right₀ (by norm_num : (1 : ℚ) < 2)).1
    ((hlow.trans hle).trans_lt (lt_two_zpow_of_lt hm e))
  omega

/-- **Rounding stays below** every magnitude of the format that is not exceeded. -/
theorem rounded_le {high : ℚ} (hhigh : f.Representable high) (hx : 0 < x) (hle : x ≤ high) :
    f.rounded x ≤ high := by
  obtain ⟨m, e, rfl, hm, hmin, -⟩ := hhigh
  obtain ⟨k, hk⟩ := exists_mul_two_zpow (exponentOf_le hm hmin hx hle) m
  rw [hk] at hle ⊢
  have hmantissa : f.mantissaOf x ≤ k :=
    mantissaAt_le (Nat.pos_of_ne_zero x.den_nz) (by rwa [num_div_den hx.le])
  exact mul_le_mul_of_nonneg_right (by exact_mod_cast hmantissa) (by positivity)

/-- **Rounding stays above** every magnitude of the format that is reached. -/
theorem le_rounded (hf : 0 < f.precision) {low : ℚ} (hlow : f.Representable low) (hx : 0 < x)
    (hle : low ≤ x) : low ≤ f.rounded x := by
  obtain ⟨m, e, rfl, hm, hmin, -⟩ := hlow
  have hdiv : (x.num.natAbs : ℚ) / x.den = x := num_div_den hx.le
  rcases le_or_gt (f.exponentOf x) e with hexponent | hexponent
  · obtain ⟨k, hk⟩ := exists_mul_two_zpow hexponent m
    rw [hk] at hle ⊢
    have hmantissa : k ≤ f.mantissaOf x :=
      le_mantissaAt (Nat.pos_of_ne_zero x.den_nz) (by rwa [hdiv])
    exact mul_le_mul_of_nonneg_right (by exact_mod_cast hmantissa) (by positivity)
  · -- With a greater exponent all bits are made use of, and the lesser one has no more of them.
    have hpower := two_zpow_le_of_lt_exponentOf hx (f := f) (by omega)
    have hfull : ((2 ^ (f.precision - 1) : Nat) : ℚ) * 2 ^ f.exponentOf x =
        2 ^ ((f.precision : Int) - 1 + f.exponentOf x) := by
      rw [zpow_add₀ (by norm_num), show (f.precision : Int) - 1 = (f.precision - 1 : Nat) by omega,
        zpow_natCast]
      push_cast
      rfl
    have hmantissa : 2 ^ (f.precision - 1) ≤ f.mantissaOf x :=
      le_mantissaAt (Nat.pos_of_ne_zero x.den_nz) (by rwa [hdiv, hfull])
    calc (m : ℚ) * 2 ^ e ≤ 2 ^ ((f.precision : Int) + e) := (lt_two_zpow_of_lt hm e).le
      _ ≤ 2 ^ ((f.precision : Int) - 1 + f.exponentOf x) :=
          zpow_le_zpow_right₀ (by norm_num) (by omega)
      _ ≤ f.rounded x := by
          rw [← hfull, rounded]
          exact mul_le_mul_of_nonneg_right (by exact_mod_cast hmantissa) (by positivity)

/-- What is rounded is infinite, or has the size that it is rounded to. -/
theorem round_eq_or (hf : 0 < f.precision) (hx : 0 < x) (negative : Bool) :
    f.round negative x = .infinite negative ∨
      (f.round negative x).toRat? = some (if negative then -f.rounded x else f.rounded x) := by
  have hvalue {m : Nat} {e : Int} (h : (m : ℚ) * 2 ^ e = f.rounded x) :
      (Binary.finite negative m e).toRat? =
        some (if negative then -f.rounded x else f.rounded x) := by
    rw [← h]
    cases negative <;> simp [Binary.toRat?, pow2]
  rw [f.round_of_pos negative hx]
  split
  · rename_i hfull
    split
    · exact .inl rfl
    · refine .inr (hvalue ?_)
      rw [rounded, hfull, zpow_add_one₀ (by norm_num), mul_comm (2 ^ _) (2 : ℚ), ← mul_assoc]
      have hhalf : 2 ^ (f.precision - 1) * 2 = 2 ^ f.precision := by
        rw [← pow_succ, Nat.sub_add_cancel hf]
      congr 1
      exact_mod_cast hhalf
  · split
    · exact .inl rfl
    · exact .inr (hvalue rfl)

/-- What does not exceed a magnitude of the format is finite. -/
theorem round_ne_infinite {high : ℚ} (hhigh : f.Representable high) (hx : 0 < x) (hle : x ≤ high)
    (negative : Bool) : f.round negative x ≠ .infinite negative := by
  have hrounded := rounded_le hhigh hx hle
  obtain ⟨m, e, rfl, hm, hmin, hlimit⟩ := hhigh
  have hexponent := exponentOf_le hm hmin hx hle
  rw [f.round_of_pos negative hx]
  split
  · rename_i hfull
    have hpower : (2 : ℚ) ^ ((f.precision : Int) + f.exponentOf x) < 2 ^ ((f.precision : Int) + e) := by
      refine lt_of_le_of_lt ?_ (hrounded.trans_lt (lt_two_zpow_of_lt hm e))
      rw [rounded, hfull, zpow_add₀ (by norm_num), zpow_natCast]
      push_cast
      exact le_rfl
    have := (zpow_lt_zpow_iff_right₀ (by norm_num : (1 : ℚ) < 2)).1 hpower
    rw [if_neg (by omega)]
    nofun
  · rw [if_neg (by omega)]
    nofun

/-- **Rounding stays between** the magnitudes of the format. -/
theorem exists_round_between (hf : 0 < f.precision) {low high : ℚ} (hlow : f.Representable low)
    (hhigh : f.Representable high) (hle : low ≤ x) (hge : x ≤ high) (negative : Bool) :
    ∃ v, (f.round negative x).toRat? = some (if negative then -v else v) ∧ low ≤ v ∧ v ≤ high := by
  rcases (hlow.nonneg.trans hle).eq_or_lt with rfl | hx
  · exact ⟨0, by cases negative <;> simp [round_zero, Binary.toRat?], hle, hge⟩
  · exact ⟨f.rounded x,
      (round_eq_or hf hx negative).resolve_left (round_ne_infinite hhigh hx hge negative),
      le_rounded hf hlow hx hle, rounded_le hhigh hx hge⟩

/-- **A magnitude that a format has** is not rounded. -/
theorem toRat?_round (hf : 0 < f.precision) (h : f.Representable x) (negative : Bool) :
    (f.round negative x).toRat? = some (if negative then -x else x) := by
  obtain ⟨v, hv, hle, hge⟩ := exists_round_between hf h h le_rfl le_rfl negative
  rw [hv, le_antisymm hge hle]

end Format

/-- Integers up to the precision of a format. -/
theorem Format.representable_natCast (hf : 0 < f.precision) (hmin : f.minExponent ≤ 0)
    (hlimit : (f.precision : Int) < f.limit) {n : Nat} (hn : n ≤ 2 ^ f.precision) :
    f.Representable n := by
  rcases Nat.lt_or_eq_of_le hn with hlt | rfl
  · exact ⟨n, 0, by simp, hlt, hmin, by omega⟩
  · refine ⟨2 ^ (f.precision - 1), 1, ?_, Nat.pow_lt_pow_right (by decide) (by omega), by omega, by omega⟩
    rw [zpow_one, Nat.cast_pow, Nat.cast_pow, Nat.cast_ofNat, ← pow_succ, Nat.sub_add_cancel hf]

/-! ## Integer parts -/

/-- The integer part of a number, toward zero. -/
def wholePart (q : ℚ) : Int := if 0 ≤ q then ⌊q⌋ else ⌈q⌉

/-- The integer part of a number, moved to the ends of the range of 64 bits. -/
def clamped (q : ℚ) : Int := max Binary.minWord (min Binary.maxWord (wholePart q))

theorem wholePart_intCast (n : Int) : wholePart n = n := by
  rw [wholePart, Int.floor_intCast, Int.ceil_intCast, ite_self]

theorem wholePart_of_nonneg (hx : 0 ≤ x) : wholePart x = ⌊x⌋ := if_pos hx

theorem wholePart_neg (hx : 0 ≤ x) : wholePart (-x) = -⌊x⌋ := by
  rw [wholePart, Int.ceil_neg]
  split
  · rename_i hneg
    have hzero : x = 0 := le_antisymm (by linarith) hx
    simp [hzero]
  · rfl

namespace Binary

variable {b : Binary} {n : Int}

/-- The whole part of a size. -/
theorem whole_eq_floor (m : Nat) (e : Int) :
    ((if 0 ≤ e then m * Nat.pow 2 e.toNat else m / Nat.pow 2 (-e).toNat : Nat) : Int) =
      ⌊(m : ℚ) * 2 ^ e⌋ := by
  split
  · rename_i he
    obtain ⟨j, rfl⟩ : ∃ j : Nat, e = j := ⟨e.toNat, by omega⟩
    rw [Int.toNat_natCast, zpow_natCast, Nat.pow_eq]
    exact_mod_cast (Int.floor_natCast (R := ℚ) (m * 2 ^ j)).symm
  · rename_i he
    obtain ⟨j, rfl⟩ : ∃ j : Nat, e = -j := ⟨(-e).toNat, by omega⟩
    rw [neg_neg, Int.toNat_natCast, zpow_neg, zpow_natCast, ← div_eq_mul_inv, Nat.pow_eq]
    have hfloor := Rat.floor_intCast_div_natCast (m : Int) (2 ^ j)
    push_cast at hfloor ⊢
    exact hfloor.symm

/-- **The integer part** of a finite number is that of its exact value. -/
theorem truncate?_of_toRat? {q : ℚ} (h : b.toRat? = some q) : b.truncate? = some (wholePart q) := by
  cases b with
  | infinite => cases h
  | nan => cases h
  | finite negative m e =>
    have hsize : (0 : ℚ) ≤ m * 2 ^ e := by positivity
    cases negative with
    | false =>
      obtain rfl : (m : ℚ) * 2 ^ e = q := Option.some.inj h
      rw [truncate?, wholePart_of_nonneg hsize, ← whole_eq_floor]
      rfl
    | true =>
      have hvalue : -(m : ℚ) * 2 ^ e = q := Option.some.inj h
      rw [truncate?, ← hvalue, neg_mul, wholePart_neg hsize, ← whole_eq_floor]
      rfl

/-- **Moving to the ends of the range** is done with the exact value. -/
theorem saturate_of_toRat? {q : ℚ} (h : b.toRat? = some q) : b.saturate = clamped q := by
  have htruncate := truncate?_of_toRat? h
  cases b with
  | infinite => cases h
  | nan => cases h
  | finite =>
    rw [saturate, htruncate]
    rfl

/-- A number counts as an integer if it is one. -/
theorem isIntegral_and_truncate?_iff :
    (b.isIntegral = true ∧ b.truncate? = some n) ↔ b.toRat? = some (n : ℚ) := by
  constructor
  · rintro ⟨hintegral, htruncate⟩
    cases hvalue : b.toRat? with
    | none => simp [isIntegral, hvalue] at hintegral
    | some r =>
      rw [isIntegral, hvalue, htruncate] at hintegral
      rw [beq_iff_eq.1 hintegral]
  · intro h
    have htruncate := truncate?_of_toRat? h
    rw [wholePart_intCast] at htruncate
    refine ⟨?_, htruncate⟩
    rw [isIntegral, h, htruncate]
    exact beq_self_eq_true _

end Binary
end Number
end Shapewright
