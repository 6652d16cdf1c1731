import Shapewright.Proofs.Number.Exactness

/-!
# Arithmetic with rounded numbers

A sum, a product or a quotient of two numbers of a format is the exact one, rounded.  So it is bounded by the
numbers of the format that bound the exact one, and it is the exact one where the format has it.

* `Format.le_of_ofRat`, `Format.of_ofRat_le` — rounding keeps the bounds that a format has, on either
  side of zero.
* `Binary.toRat?_add`, `Binary.toRat?_sub`, `Binary.toRat?_mul`, `Binary.toRat?_div` — the value of a
  result.
* `Format.has_ofRat`, `Format.Representable.of_ofRat` — what is rounded is a number of the format.
* `Format.Representable.floor`, `Format.Representable.fract` — so are its integer part and its
  fraction.
-/

set_option autoImplicit false

namespace Shapewright
namespace Number

variable {f : Format} {x y : Binary} {a b v low high : ℚ}

namespace Format

/-! ## Rounding on either side of zero -/

theorem ofRat_eq (f : Format) (a : ℚ) : f.ofRat a = f.round (decide (a < 0)) |a| := by
  have habs : a.abs = |a| := by
    rcases lt_or_ge a 0 with h | h
    · simp [Rat.abs, abs_of_neg h, h.not_ge]
    · simp [Rat.abs, abs_of_nonneg h, h]
  rw [ofRat, habs]

theorem toRat?_ofRat_zero (f : Format) : (f.ofRat 0).toRat? = some 0 := by
  rw [ofRat_eq, abs_zero, round_zero]
  simp [Binary.toRat?]

/-- What is rounded with its sign apart is rounded as a whole. -/
theorem toRat?_round_eq_ofRat (f : Format) (negative : Bool) (ha : 0 ≤ a) :
    (f.round negative a).toRat? = (f.ofRat (if negative then -a else a)).toRat? := by
  rcases ha.eq_or_lt with rfl | hpos
  · rw [neg_zero, ite_self, toRat?_ofRat_zero, round_zero]
    simp [Binary.toRat?]
  · rw [ofRat_eq]
    cases negative with
    | true => simp [abs_of_pos hpos, hpos]
    | false => simp [abs_of_pos hpos, hpos.not_gt]

/-- A finite number has the size that its magnitude is rounded to. -/
theorem of_ofRat (hf : 0 < f.precision) (hv : (f.ofRat a).toRat? = some v) :
    a = 0 ∧ v = 0 ∨ 0 < a ∧ v = f.rounded a ∨ a < 0 ∧ v = -f.rounded (-a) := by
  rcases lt_trichotomy a 0 with hneg | rfl | hpos
  · refine .inr (.inr ⟨hneg, ?_⟩)
    rw [ofRat_eq, abs_of_neg hneg, decide_eq_true hneg] at hv
    rcases round_eq_or hf (neg_pos.2 hneg) true with h | h <;> rw [h] at hv <;> cases hv
    rfl
  · exact .inl ⟨rfl, Option.some.inj (hv.symm.trans f.toRat?_ofRat_zero)⟩
  · refine .inr (.inl ⟨hpos, ?_⟩)
    rw [ofRat_eq, abs_of_pos hpos, decide_eq_false hpos.not_gt] at hv
    rcases round_eq_or hf hpos false with h | h <;> rw [h] at hv <;> cases hv
    rfl

theorem rounded_nonneg (f : Format) (a : ℚ) : 0 ≤ f.rounded a := by
  rw [rounded]
  positivity

/-- **Rounding stays above** what the format has and is reached. -/
theorem le_of_ofRat (hf : 0 < f.precision) (hlow : f.Representable |low|) (h : low ≤ a)
    (hv : (f.ofRat a).toRat? = some v) : low ≤ v := by
  rcases of_ofRat hf hv with ⟨rfl, rfl⟩ | ⟨hpos, rfl⟩ | ⟨hneg, rfl⟩
  · exact h
  · rcases le_total low 0 with hle | hge
    · exact hle.trans (f.rounded_nonneg a)
    · rw [abs_of_nonneg hge] at hlow
      exact le_rounded hf hlow hpos h
  · rw [abs_of_neg (h.trans_lt hneg)] at hlow
    exact le_neg.1 (rounded_le hlow (neg_pos.2 hneg) (neg_le_neg h))

/-- **Rounding stays below** what the format has and is not exceeded. -/
theorem of_ofRat_le (hf : 0 < f.precision) (hhigh : f.Representable |high|) (h : a ≤ high)
    (hv : (f.ofRat a).toRat? = some v) : v ≤ high := by
  rcases of_ofRat hf hv with ⟨rfl, rfl⟩ | ⟨hpos, rfl⟩ | ⟨hneg, rfl⟩
  · exact h
  · rw [abs_of_pos (hpos.trans_le h)] at hhigh
    exact rounded_le hhigh hpos h
  · rcases le_total 0 high with hge | hle
    · exact (neg_nonpos.2 (f.rounded_nonneg _)).trans hge
    · rw [abs_of_nonpos hle] at hhigh
      exact neg_le.1 (le_rounded hf hhigh (neg_pos.2 hneg) (neg_le_neg h))

/-- What is not larger than a magnitude of the format is finite. -/
theorem exists_ofRat (hf : 0 < f.precision) (hhigh : f.Representable high) (h : |a| ≤ high) :
    ∃ v, (f.ofRat a).toRat? = some v := by
  rcases (abs_nonneg a).eq_or_lt with hzero | hpos
  · rw [abs_eq_zero.1 hzero.symm]
    exact ⟨0, f.toRat?_ofRat_zero⟩
  · rw [ofRat_eq]
    exact ⟨_, (round_eq_or hf hpos _).resolve_left (round_ne_infinite hhigh hpos h _)⟩

/-- **A number that a format has** is not rounded. -/
theorem toRat?_ofRat (hf : 0 < f.precision) (h : f.Representable |a|) :
    (f.ofRat a).toRat? = some a := by
  obtain ⟨v, hv⟩ := exists_ofRat hf h le_rfl
  rw [hv, le_antisymm (of_ofRat_le hf h le_rfl hv) (le_of_ofRat hf h le_rfl hv)]

end Format

/-! ## Sums and products -/

namespace Binary

theorem toRat?_neg (hx : x.toRat? = some a) : x.neg.toRat? = some (-a) := by
  cases x with
  | finite negative m e =>
    obtain rfl := Option.some.inj hx
    cases negative <;> simp [neg, toRat?]
  | infinite => cases hx
  | nan => cases hx

/-- **A sum** is the exact one, rounded. -/
theorem toRat?_add (hx : x.toRat? = some a) (hy : y.toRat? = some b) :
    (x.add f y).toRat? = (f.ofRat (a + b)).toRat? := by
  cases x with
  | infinite => cases hx
  | nan => cases hx
  | finite s m e =>
    cases y with
    | infinite => cases hy
    | nan => cases hy
    | finite t n g =>
      rw [toRat?, Option.some.injEq] at hx hy
      rw [add]
      simp only [hx, hy]
      by_cases hzero : a + b = 0
      · rw [hzero, f.toRat?_ofRat_zero]
        simp [toRat?]
      · simp [hzero]

/-- **A difference** is the exact one, rounded. -/
theorem toRat?_sub (hx : x.toRat? = some a) (hy : y.toRat? = some b) :
    (x.sub f y).toRat? = (f.ofRat (a - b)).toRat? := by
  rw [sub, toRat?_add hx (toRat?_neg hy), sub_eq_add_neg]

/-- **A product** is the exact one, rounded. -/
theorem toRat?_mul (hx : x.toRat? = some a) (hy : y.toRat? = some b) :
    (x.mul f y).toRat? = (f.ofRat (a * b)).toRat? := by
  cases x with
  | infinite => cases hx
  | nan => cases hx
  | finite s m e =>
    cases y with
    | infinite => cases hy
    | nan => cases hy
    | finite t n g =>
      obtain rfl := Option.some.inj hx
      obtain rfl := Option.some.inj hy
      have hpow : pow2 (e + g) = pow2 e * pow2 g := zpow_add₀ (by norm_num) e g
      rw [mul, Format.toRat?_round_eq_ofRat f _ (by rw [pow2]; positivity), hpow]
      congr 2
      cases s <;> cases t <;> simp <;> ring

/-- **A quotient** is the exact one, rounded. -/
theorem toRat?_div (hx : x.toRat? = some a) (hy : y.toRat? = some b) (hb : b ≠ 0) :
    (x.div f y).toRat? = (f.ofRat (a / b)).toRat? := by
  cases x with
  | infinite => cases hx
  | nan => cases hx
  | finite s m e =>
    cases y with
    | infinite => cases hy
    | nan => cases hy
    | finite t n g =>
      obtain rfl := Option.some.inj hx
      obtain rfl := Option.some.inj hy
      have hn : (n == 0) = false := by
        rw [beq_eq_false_iff_ne]
        rintro rfl
        simp at hb
      have hpow : pow2 (e - g) = pow2 e / pow2 g := zpow_sub₀ (by norm_num) e g
      rw [div, hn, if_neg Bool.false_ne_true,
        Format.toRat?_round_eq_ofRat f _ (by rw [pow2]; positivity), hpow]
      congr 2
      cases s <;> cases t <;> simp <;> ring

/-- What is not finite stays so in a product. -/
theorem toRat?_mul_of_eq_none (hx : x.toRat? = none) : (x.mul f y).toRat? = none := by
  cases x with
  | nan => rfl
  | finite => cases hx
  | infinite s =>
    cases y with
    | nan => rfl
    | finite =>
      simp only [mul]
      split <;> rfl
    | infinite =>
      simp only [mul]
      split <;> rfl

/-! ## Integer parts -/

/-- The integer part in a word is that of the exact value, if it fits. -/
theorem toWord_of_toRat? (hx : x.toRat? = some v) : x.toWord =
    if minWord ≤ wholePart v ∧ wholePart v ≤ maxWord then wholePart v else minWord := by
  rw [toWord, truncate?_of_toRat? hx]

theorem toWord_of_eq_none (hx : x.toRat? = none) : x.toWord = minWord := by
  cases x with
  | finite => cases hx
  | infinite => rfl
  | nan => rfl

end Binary

theorem wholePart_of_nonpos (h : v ≤ 0) : wholePart v = ⌈v⌉ := by
  rcases h.eq_or_lt with rfl | hneg
  · simp [wholePart]
  · exact if_neg hneg.not_ge

theorem abs_wholePart (v : ℚ) : |(wholePart v : ℚ)| = ⌊|v|⌋ := by
  rcases le_total 0 v with h | h
  · have hfloor : (0 : ℚ) ≤ ⌊v⌋ := by exact_mod_cast Int.floor_nonneg.2 h
    rw [wholePart_of_nonneg h, abs_of_nonneg h, abs_of_nonneg hfloor]
  · have hceil : (⌈v⌉ : ℚ) ≤ 0 := by exact_mod_cast Int.ceil_nonpos.2 h
    rw [wholePart_of_nonpos h, abs_of_nonpos h, abs_of_nonpos hceil, Int.floor_neg, Int.cast_neg]

theorem abs_sub_wholePart (v : ℚ) : |v - wholePart v| = Int.fract |v| := by
  rcases le_total 0 v with h | h
  · rw [wholePart_of_nonneg h, abs_of_nonneg h, Int.self_sub_floor,
      abs_of_nonneg (Int.fract_nonneg v)]
  · rw [wholePart_of_nonpos h, abs_of_nonpos h, abs_sub_comm,
      abs_of_nonneg (sub_nonneg.2 (Int.le_ceil v)), ← Int.self_sub_floor, Int.floor_neg]
    push_cast
    ring

/-! ## What a format has -/

/-- **What is rounded** is a number of the format, if it is finite. -/
theorem Format.has_ofRat (hf : 0 < f.precision) (hrange : f.minExponent + f.precision ≤ f.limit)
    (hv : (f.ofRat a).toRat? = some v) : f.Has (f.ofRat a) := by
  rw [ofRat_eq] at hv ⊢
  refine (round_infinite_or_has hf hrange _ (abs_nonneg a)).resolve_left fun hround => ?_
  rw [hround] at hv
  cases hv

namespace Format.Representable

theorem of_ofRat (hf : 0 < f.precision) (hrange : f.minExponent + f.precision ≤ f.limit)
    (hv : (f.ofRat a).toRat? = some v) : f.Representable |v| := by
  obtain ⟨w, hw, hrep⟩ := (has_ofRat hf hrange hv).representable
  rwa [← Option.some.inj (hv.symm.trans hw)] at hrep

/-- A magnitude beyond the precision is an integer. -/
theorem exists_natCast (h : f.Representable v) (hlarge : 2 ^ f.precision ≤ v) :
    ∃ n : Nat, v = n := by
  obtain ⟨m, e, rfl, hm, -, -⟩ := h
  have he : 0 ≤ e := by
    by_contra hneg
    have hsmall : (2 : ℚ) ^ ((f.precision : Int) + e) ≤ 2 ^ (f.precision : Int) :=
      zpow_le_zpow_right₀ (by norm_num) (by omega)
    rw [zpow_natCast] at hsmall
    linarith [lt_two_zpow_of_lt hm e]
  obtain ⟨k, rfl⟩ : ∃ k : Nat, e = k := ⟨e.toNat, by omega⟩
  exact ⟨m * 2 ^ k, by push_cast; rw [zpow_natCast]⟩

/-- A magnitude is an integer, or it has a part of its bits behind the point. -/
theorem natCast_or (h : f.Representable v) : (∃ n : Nat, v = n) ∨
    ∃ m k : Nat, v = m / 2 ^ k ∧ m < 2 ^ f.precision ∧ f.minExponent ≤ -k := by
  obtain ⟨m, e, rfl, hm, hmin, -⟩ := h
  rcases le_or_gt 0 e with he | he
  · obtain ⟨k, rfl⟩ : ∃ k : Nat, e = k := ⟨e.toNat, by omega⟩
    exact .inl ⟨m * 2 ^ k, by push_cast; rw [zpow_natCast]⟩
  · obtain ⟨k, rfl⟩ : ∃ k : Nat, e = -k := ⟨(-e).toNat, by omega⟩
    exact .inr ⟨m, k, by rw [zpow_neg, zpow_natCast, div_eq_mul_inv], hm, hmin⟩

theorem floor_div_two_pow (m k : Nat) : ⌊(m : ℚ) / 2 ^ k⌋ = ((m / 2 ^ k : Nat) : Int) := by
  have hfloor := Rat.floor_intCast_div_natCast (m : Int) (2 ^ k)
  push_cast at hfloor ⊢
  exact hfloor

/-- **The integer part** of a magnitude. -/
theorem floor (hf : 0 < f.precision) (hmin : f.minExponent ≤ 0)
    (hlimit : (f.precision : Int) < f.limit) (h : f.Representable v) :
    f.Representable (⌊v⌋ : ℚ) := by
  rcases h.natCast_or with ⟨n, rfl⟩ | ⟨m, k, rfl, hm, -⟩
  · rwa [Int.floor_natCast, Int.cast_natCast]
  · rw [floor_div_two_pow, Int.cast_natCast]
    exact representable_natCast hf hmin hlimit ((Nat.div_le_self _ _).trans hm.le)

/-- **The fraction** of a magnitude. -/
theorem fract (hrange : f.minExponent + f.precision ≤ f.limit)
    (hlimit : (f.precision : Int) < f.limit) (h : f.Representable v) :
    f.Representable (Int.fract v) := by
  rcases h.natCast_or with ⟨n, rfl⟩ | ⟨m, k, rfl, hm, hmin⟩
  · rw [Int.fract_natCast]
    exact ⟨0, f.minExponent, by simp, by positivity, le_rfl, hrange⟩
  · refine ⟨m % 2 ^ k, -k, ?_, (Nat.mod_le _ _).trans_lt hm, hmin, by omega⟩
    have hsplit : (m : ℚ) = 2 ^ k * (m / 2 ^ k : Nat) + (m % 2 ^ k : Nat) := by
      exact_mod_cast (Nat.div_add_mod m (2 ^ k)).symm
    rw [← Int.self_sub_floor, floor_div_two_pow, Int.cast_natCast, zpow_neg, zpow_natCast]
    calc (m : ℚ) / 2 ^ k - (m / 2 ^ k : Nat)
        = (m - 2 ^ k * (m / 2 ^ k : Nat)) / 2 ^ k := by field_simp
      _ = (m % 2 ^ k : Nat) * (2 ^ k)⁻¹ := by rw [hsplit, add_sub_cancel_left, div_eq_mul_inv]

end Format.Representable

end Number
end Shapewright
