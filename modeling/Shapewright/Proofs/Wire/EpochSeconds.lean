import Shapewright.Proofs.Number.Arithmetic
import Shapewright.Proofs.Number.Figures
import Shapewright.Proofs.Wire.Bytes
import Shapewright.Wire.Parse

/-!
# Times as numbers of seconds

A number of seconds goes through a number of 64 bits, whose integer part is moved into a word and whose
fraction is counted in nanoseconds.  Neither step checks its result.  Within the range of words the
instant stays between the integers around the number; beyond it, the integer part becomes the
least word, and what is counted from there has nothing to do with the number.

* `Time.Instant.toRat` — the seconds of an instant, with their fraction.
* `carryNanos_eq`, `toRat_carryNanos` — nanoseconds are carried by a division that rounds down.
* `instantOfSeconds_between`, `instantOfSeconds_intCast` — within the range.
* `instantOfSeconds_of_large`, `instantOfSeconds_of_small` — beyond it.
* `abs_toRat_sub_lt_one_iff` — so an instant is the one that is meant if the nearest number is.
* `parseTimestamp_epochSeconds` — what a text is taken for.
-/

set_option autoImplicit false

namespace Shapewright

open Number (double double_fits wholePart Binary Format)

/-- The seconds since the start of 1970, with their fraction. -/
def Time.Instant.toRat (t : Time.Instant) : ℚ := t.seconds + t.nanos / 1000000000

namespace Wire

/-! ## Words of 64 bits -/

theorem wrap_of_fits {n : Int} (hlow : -2 ^ 63 ≤ n) (hhigh : n < 2 ^ 63) :
    Number.wrap 64 n = n := by
  have hword : ((Nat.pow 2 64 : Nat) : Int) = 2 ^ 64 := by decide
  rw [Number.wrap]
  exact Int.bmod_eq_of_le (by omega) (by omega)

/-- Below the least word the count goes on from the greatest. -/
theorem wrap_of_below {n : Int} (hlow : -2 ^ 64 ≤ n) (hhigh : n < -2 ^ 63) :
    Number.wrap 64 n = n + 2 ^ 64 := by
  have hword : ((Nat.pow 2 64 : Nat) : Int) = 2 ^ 64 := by decide
  have hmod : Number.wrap 64 n = Number.wrap 64 (n + 2 ^ 64) := by
    rw [Number.wrap, Number.wrap, ← hword, Int.add_bmod_right]
  rw [hmod, wrap_of_fits (by omega) (by omega)]

/-- What is carried is the quotient, rounded down. -/
theorem carryNanos_eq (seconds nanos : Int) : carryNanos seconds nanos =
    { seconds := Number.wrap 64 (seconds + nanos / 1000000000)
      nanos := (nanos % 1000000000).toNat } := by
  rw [carryNanos, Int.tdiv_eq_ediv]
  split
  · have hrest : nanos - nanos / 1000000000 * 1000000000 = nanos % 1000000000 := by omega
    simp only [add_zero, hrest, if_neg (show ¬ nanos % 1000000000 < 0 by omega)]
  · -- Division goes toward zero, and so a negative count is left.
    have hrest : nanos - (nanos / 1000000000 + 1) * 1000000000 =
        nanos % 1000000000 - 1000000000 := by omega
    simp only [show Int.sign 1000000000 = 1 from rfl, hrest,
      if_pos (show nanos % 1000000000 - 1000000000 < 0 by omega), sub_add_cancel, Number.wrap,
      Int.bmod_sub_bmod, ← add_assoc, add_sub_cancel_right]

theorem toRat_carryNanos {seconds nanos : Int} (hlow : -2 ^ 63 ≤ seconds + nanos / 1000000000)
    (hhigh : seconds + nanos / 1000000000 < 2 ^ 63) :
    (carryNanos seconds nanos).toRat = seconds + nanos / 1000000000 := by
  have hnanos : (((nanos % 1000000000).toNat : Int) : ℚ) = (nanos % 1000000000 : Int) := by
    rw [Int.toNat_of_nonneg (by omega)]
  have hsplit : (nanos : ℚ) = 1000000000 * (nanos / 1000000000 : Int) + (nanos % 1000000000 : Int) := by
    exact_mod_cast (Int.mul_ediv_add_emod nanos 1000000000).symm
  rw [carryNanos_eq, Time.Instant.toRat, wrap_of_fits hlow hhigh, hsplit]
  rw [Int.cast_natCast] at hnanos
  rw [hnanos]
  push_cast
  ring

/-! ## Within the range -/

theorem representable_billion : double.Representable 1000000000 := by
  have h := Format.representable_natCast (f := double) (n := 1000000000) (by decide) (by decide)
    (by decide) (by decide)
  exact_mod_cast h

theorem toRat?_billion : (double.ofRat 1000000000).toRat? = some 1000000000 :=
  Format.toRat?_ofRat double_fits.1 (by rw [abs_of_pos (by norm_num)]; exact representable_billion)

/-- The least and the greatest word. -/
theorem word_range : Binary.minWord = -2 ^ 63 ∧ Binary.maxWord = 2 ^ 63 - 1 := by decide

section

variable {x : Binary} {v : ℚ}

/-- The integer part and the fraction of a number that fits a word, which are both exact. -/
theorem toRat?_rest (hv : x.toRat? = some v) (hrep : double.Representable |v|)
    (hlow : -2 ^ 63 ≤ v) (hhigh : v < 2 ^ 63) : x.toWord = wholePart v ∧
      (x.sub double (double.ofRat (wholePart v))).toRat? = some (v - wholePart v) := by
  have hwhole : -2 ^ 63 ≤ wholePart v ∧ wholePart v < 2 ^ 63 := by
    rcases le_total 0 v with h | h
    · have hnonneg := Int.floor_nonneg.2 h
      rw [Number.wholePart_of_nonneg h, Int.floor_lt]
      exact ⟨by omega, by exact_mod_cast hhigh⟩
    · have hnonpos := Int.ceil_nonpos.2 h
      rw [Number.wholePart_of_nonpos h]
      exact ⟨by exact_mod_cast hlow.trans (Int.le_ceil v), by omega⟩
  have hfloor : double.Representable |(wholePart v : ℚ)| := by
    rw [Number.abs_wholePart]
    exact hrep.floor double_fits.1 (by decide) (by decide)
  have hfract : double.Representable |v - wholePart v| := by
    rw [Number.abs_sub_wholePart]
    exact hrep.fract double_fits.2 (by decide)
  constructor
  · rw [Binary.toWord_of_toRat? hv, word_range.1, word_range.2, if_pos (by omega)]
  · rw [Binary.toRat?_sub hv (Format.toRat?_ofRat double_fits.1 hfloor),
      Format.toRat?_ofRat double_fits.1 hfract]

/-- The nanoseconds of a number that fits a word, which may be rounded up to a second. -/
theorem exists_nanos (hv : x.toRat? = some v) (hrep : double.Representable |v|)
    (hlow : -2 ^ 63 ≤ v) (hhigh : v < 2 ^ 63) :
    ∃ nanos : Int, instantOfSeconds x = carryNanos (wholePart v) nanos ∧
      (v = wholePart v → nanos = 0) ∧ (0 ≤ v → 0 ≤ nanos ∧ nanos ≤ 1000000000) ∧
      (v ≤ 0 → -1000000000 ≤ nanos ∧ nanos ≤ 0) := by
  obtain ⟨hword, hrest⟩ := toRat?_rest hv hrep hlow hhigh
  have hsmall : |(v - wholePart v) * 1000000000| ≤ 1000000000 := by
    rw [abs_mul, abs_of_pos (by norm_num : (0 : ℚ) < 1000000000), Number.abs_sub_wholePart]
    linarith [(Int.fract_lt_one |v|).le]
  obtain ⟨z, hz⟩ := Format.exists_ofRat double_fits.1 representable_billion hsmall
  have hbillion : double.Representable |(1000000000 : ℚ)| := by
    rw [abs_of_pos (by norm_num)]
    exact representable_billion
  have hzero : double.Representable |(0 : ℚ)| := ⟨0, 0, by simp, by decide, by decide, by decide⟩
  have hlow_z : -1000000000 ≤ z :=
    Format.le_of_ofRat double_fits.1 (by rwa [abs_neg]) (abs_le.1 hsmall).1 hz
  have hhigh_z : z ≤ 1000000000 := Format.of_ofRat_le double_fits.1 hbillion (abs_le.1 hsmall).2 hz
  have hpositive (h : 0 ≤ z) : 0 ≤ wholePart z ∧ wholePart z ≤ 1000000000 := by
    rw [Number.wholePart_of_nonneg h]
    exact ⟨Int.floor_nonneg.2 h, by exact_mod_cast (Int.floor_le z).trans hhigh_z⟩
  have hnegative (h : z ≤ 0) : -1000000000 ≤ wholePart z ∧ wholePart z ≤ 0 := by
    rw [Number.wholePart_of_nonpos h]
    exact ⟨by exact_mod_cast hlow_z.trans (Int.le_ceil z), Int.ceil_nonpos.2 h⟩
  have hnanos : ((x.sub double (double.ofRat (wholePart v))).mul double
      (double.ofRat 1000000000)).toWord = wholePart z := by
    rw [Binary.toWord_of_toRat? ((Binary.toRat?_mul hrest toRat?_billion).trans hz), word_range.1,
      word_range.2, if_pos]
    rcases le_total 0 z with h | h
    · have := hpositive h
      omega
    · have := hnegative h
      omega
  refine ⟨wholePart z, ?_, fun h => ?_, fun h => hpositive ?_, fun h => hnegative ?_⟩
  · rw [instantOfSeconds, hword]
    exact congrArg _ hnanos
  · rw [← h, sub_self, zero_mul, Format.toRat?_ofRat_zero] at hz
    rw [← Option.some.inj hz]
    exact Number.wholePart_intCast 0
  · refine Format.le_of_ofRat double_fits.1 hzero (mul_nonneg ?_ (by norm_num)) hz
    rw [Number.wholePart_of_nonneg h]
    exact sub_nonneg.2 (Int.floor_le v)
  · refine Format.of_ofRat_le double_fits.1 hzero
      (mul_nonpos_of_nonpos_of_nonneg ?_ (by norm_num)) hz
    rw [Number.wholePart_of_nonpos h]
    exact sub_nonpos.2 (Int.le_ceil v)

/-- A number of seconds without a fraction. -/
theorem instantOfSeconds_intCast {n : Int} (hv : x.toRat? = some (n : ℚ))
    (hrep : double.Representable |(n : ℚ)|) (hlow : -2 ^ 63 ≤ n) (hhigh : n < 2 ^ 63) :
    instantOfSeconds x = { seconds := n } := by
  obtain ⟨nanos, ht, hwhole, -⟩ := exists_nanos hv hrep (by exact_mod_cast hlow)
    (by exact_mod_cast hhigh)
  rw [ht, hwhole (by rw [Number.wholePart_intCast]), Number.wholePart_intCast, carryNanos_eq,
    Int.zero_ediv, add_zero, wrap_of_fits hlow hhigh]
  rfl

/-- A number beyond the precision is an integer. -/
theorem exists_intCast (hrep : double.Representable |v|) (hlarge : 2 ^ 53 ≤ |v|) :
    ∃ n : Int, v = n := by
  obtain ⟨n, hn⟩ := hrep.exists_natCast (by exact_mod_cast hlarge)
  rcases abs_choice v with h | h
  · exact ⟨n, by rw [← h, hn]; rfl⟩
  · exact ⟨-n, by rw [← neg_neg v, ← h, hn]; push_cast; rfl⟩

/-- **A number of seconds that fits a word** is kept, but for its fraction. -/
theorem instantOfSeconds_between (hv : x.toRat? = some v) (hrep : double.Representable |v|)
    (hlow : -2 ^ 63 ≤ v) (hhigh : v < 2 ^ 63) :
    ⌊v⌋ ≤ (instantOfSeconds x).toRat ∧ (instantOfSeconds x).toRat ≤ ⌈v⌉ := by
  by_cases hinteger : ∃ n : Int, v = n
  · obtain ⟨n, rfl⟩ := hinteger
    rw [instantOfSeconds_intCast hv hrep (by exact_mod_cast hlow) (by exact_mod_cast hhigh)]
    simp [Time.Instant.toRat]
  -- A number with a fraction is far from the ends of the range, so that a second may be carried.
  obtain ⟨hleft, hright⟩ := abs_lt.1 (not_le.1 fun h => hinteger (exists_intCast hrep h))
  have hfloor_low : -2 ^ 53 ≤ ⌊v⌋ := Int.le_floor.2 (by exact_mod_cast hleft.le)
  have hfloor_high : ⌊v⌋ < 2 ^ 53 := Int.floor_lt.2 (by exact_mod_cast hright)
  have hceil : ⌈v⌉ = ⌊v⌋ + 1 := by
    have hlt : (⌊v⌋ : ℚ) < v := lt_of_le_of_ne (Int.floor_le v) fun h => hinteger ⟨_, h.symm⟩
    exact le_antisymm (Int.ceil_le_floor_add_one v) (Int.add_one_le_iff.2 (Int.lt_ceil.2 hlt))
  obtain ⟨nanos, ht, -, hpositive, hnegative⟩ := exists_nanos hv hrep hlow hhigh
  rw [ht]
  rcases le_total 0 v with h | h
  · obtain ⟨hnanos_low, hnanos_high⟩ := hpositive h
    have hlow' : (0 : ℚ) ≤ nanos := by exact_mod_cast hnanos_low
    have hhigh' : (nanos : ℚ) ≤ 1000000000 := by exact_mod_cast hnanos_high
    rw [Number.wholePart_of_nonneg h, toRat_carryNanos (by omega) (by omega), hceil]
    push_cast
    constructor <;> linarith
  · obtain ⟨hnanos_low, hnanos_high⟩ := hnegative h
    have hlow' : (-1000000000 : ℚ) ≤ nanos := by exact_mod_cast hnanos_low
    have hhigh' : (nanos : ℚ) ≤ 0 := by exact_mod_cast hnanos_high
    rw [Number.wholePart_of_nonpos h, toRat_carryNanos (by omega) (by omega), hceil]
    push_cast
    constructor <;> linarith

/-! ## Beyond the range -/

theorem representable_two_pow {k : Nat} (hk : k ≤ 64) : double.Representable |(2 : ℚ) ^ k| := by
  refine ⟨1, k, ?_, by decide, ?_, ?_⟩
  · rw [abs_of_pos (by positivity), zpow_natCast]
    norm_num
  · show (-1074 : Int) ≤ k
    omega
  · show (k : Int) + 53 ≤ 1024
    omega

theorem toRat?_minWord : (double.ofRat (Binary.minWord : ℚ)).toRat? = some (-2 ^ 63) := by
  have hword : (Binary.minWord : ℚ) = -2 ^ 63 := by
    rw [word_range.1]
    norm_num
  rw [hword, Format.toRat?_ofRat double_fits.1 (by rw [abs_neg]; exact representable_two_pow (by decide))]

/-- A number beyond the range is counted from the least word. -/
theorem instantOfSeconds_of_beyond (hv : x.toRat? = some v) (h : v ≤ -2 ^ 63 - 1 ∨ 2 ^ 63 ≤ v) :
    ∃ rest : Binary, rest.toRat? = (double.ofRat (v + 2 ^ 63)).toRat? ∧
      instantOfSeconds x =
        carryNanos Binary.minWord (rest.mul double (double.ofRat 1000000000)).toWord := by
  have hword : x.toWord = Binary.minWord := by
    rw [Binary.toWord_of_toRat? hv, if_neg]
    rw [word_range.1, word_range.2]
    rintro ⟨hlow, hhigh⟩
    rcases h with h | h
    · rw [Number.wholePart_of_nonpos (by linarith)] at hlow
      have hceil : ⌈v⌉ ≤ -2 ^ 63 - 1 := Int.ceil_le.2 (by exact_mod_cast h)
      omega
    · rw [Number.wholePart_of_nonneg (by linarith)] at hhigh
      have hfloor : 2 ^ 63 ≤ ⌊v⌋ := Int.le_floor.2 (by exact_mod_cast h)
      omega
  refine ⟨x.sub double (double.ofRat (Binary.minWord : ℚ)), ?_, ?_⟩
  · rw [Binary.toRat?_sub hv toRat?_minWord, sub_neg_eq_add]
  · rw [instantOfSeconds, hword]

/-- The nanoseconds of a number of seconds, if they fit a word. -/
theorem toWord_mul_billion (rest : Binary) :
    (rest.mul double (double.ofRat 1000000000)).toWord = Binary.minWord ∨
      ∃ r z, rest.toRat? = some r ∧ (double.ofRat (r * 1000000000)).toRat? = some z ∧
        (-2 ^ 63 ≤ wholePart z ∧ wholePart z < 2 ^ 63) ∧
        (rest.mul double (double.ofRat 1000000000)).toWord = wholePart z := by
  cases hrest : rest.toRat? with
  | none => exact .inl (Binary.toWord_of_eq_none (Binary.toRat?_mul_of_eq_none hrest))
  | some r =>
    have hproduct := Binary.toRat?_mul (f := double) hrest toRat?_billion
    cases hz : (double.ofRat (r * 1000000000)).toRat? with
    | none => exact .inl (Binary.toWord_of_eq_none (hproduct.trans hz))
    | some z =>
      rw [Binary.toWord_of_toRat? (hproduct.trans hz)]
      split
      · rename_i hfits
        rw [word_range.1, word_range.2] at hfits
        exact .inr ⟨r, z, rfl, hz, by omega, rfl⟩
      · exact .inl rfl

/-- **A number above the range** becomes an instant within it, always the same one. -/
theorem instantOfSeconds_of_large (hv : x.toRat? = some v) (h : 2 ^ 63 ≤ v) :
    instantOfSeconds x = { seconds := 9223372027631403771, nanos := 145224192 } := by
  obtain ⟨rest, hrest, ht⟩ := instantOfSeconds_of_beyond hv (.inr h)
  have hnanos : (rest.mul double (double.ofRat 1000000000)).toWord = Binary.minWord := by
    rcases toWord_mul_billion rest with hmin | ⟨r, z, hr, hz, hfits, -⟩
    · exact hmin
    · rw [hr] at hrest
      have hlarge : (2 : ℚ) ^ 64 ≤ r :=
        Format.le_of_ofRat double_fits.1 (representable_two_pow (by decide)) (by linarith)
          hrest.symm
      have hz_large : (2 : ℚ) ^ 64 ≤ z :=
        Format.le_of_ofRat double_fits.1 (representable_two_pow (by decide)) (by linarith) hz
      have hfloor : 2 ^ 64 ≤ ⌊z⌋ := Int.le_floor.2 (by exact_mod_cast hz_large)
      rw [Number.wholePart_of_nonneg (by linarith)] at hfits
      omega
  rw [ht, hnanos]
  decide

/-- **A number below the range** becomes an instant that is not before 1970. -/
theorem instantOfSeconds_of_small (hv : x.toRat? = some v) (h : v ≤ -2 ^ 63 - 1) :
    0 ≤ (instantOfSeconds x).toRat := by
  obtain ⟨rest, hrest, ht⟩ := instantOfSeconds_of_beyond hv (.inl h)
  have hone := representable_two_pow (k := 0) (by decide)
  rw [pow_zero] at hone
  have hnanos : -2 ^ 63 ≤ (rest.mul double (double.ofRat 1000000000)).toWord ∧
      (rest.mul double (double.ofRat 1000000000)).toWord ≤ -1000000000 := by
    rcases toWord_mul_billion rest with hmin | ⟨r, z, hr, hz, hfits, hword⟩
    · rw [hmin, word_range.1]
      omega
    · rw [hr] at hrest
      have hsmall : r ≤ -1 :=
        Format.of_ofRat_le double_fits.1 (by rwa [abs_neg]) (by linarith) hrest.symm
      have hz_small : z ≤ -1000000000 :=
        Format.of_ofRat_le double_fits.1
          (by rw [abs_neg, abs_of_pos (by norm_num)]; exact representable_billion) (by linarith) hz
      have hceil : ⌈z⌉ ≤ -1000000000 := Int.ceil_le.2 (by exact_mod_cast hz_small)
      rw [hword]
      rw [Number.wholePart_of_nonpos (by linarith)] at hfits ⊢
      exact ⟨hfits.1, hceil⟩
  rw [ht, carryNanos_eq, word_range.1, wrap_of_below (by omega) (by omega), Time.Instant.toRat]
  have hseconds : (0 : ℚ) ≤ (-2 ^ 63 +
      (rest.mul double (double.ofRat 1000000000)).toWord / 1000000000 + 2 ^ 64 : Int) := by
    have hnonneg : 0 ≤ -2 ^ 63 +
      (rest.mul double (double.ofRat 1000000000)).toWord / 1000000000 + 2 ^ 64 := by omega
    exact_mod_cast hnonneg
  positivity

end

/-! ## Numbers that are written -/

section

variable {w : Number.Written} {x : Binary} {v : ℚ}

theorem toRat?_round_written (w : Number.Written) :
    (double.round w.negative w.readMagnitude).toRat? = (double.ofRat w.readRat).toRat? := by
  rw [Format.toRat?_round_eq_ofRat _ _ w.readMagnitude_nonneg, Number.Written.readRat]

/-- The number that is read has the value nearest to the one that is written. -/
theorem exists_of_read (h : double.read w.text = .ok x) :
    ∃ v, x.toRat? = some v ∧ (double.ofRat w.readRat).toRat? = some v := by
  rw [Format.read_written double_fits.1 double_fits.2] at h
  rcases Format.round_infinite_or_has double_fits.1 double_fits.2 w.negative
    w.readMagnitude_nonneg with hround | hround
  · rw [hround] at h
    cases h
  · obtain ⟨v, hv, -⟩ := hround.representable
    have hx : double.round w.negative w.readMagnitude = x := by
      split at h
      · rename_i hround
        rw [hround] at hv
        cases hv
      · exact Except.ok.inj h
    exact ⟨v, hx ▸ hv, (toRat?_round_written w).symm.trans hv⟩

/-- A number is read if there is a nearest one. -/
theorem exists_read (hv : (double.ofRat w.readRat).toRat? = some v) :
    ∃ x, double.read w.text = .ok x := by
  rw [Format.read_written double_fits.1 double_fits.2]
  rw [← toRat?_round_written] at hv
  split
  · rename_i hround
    rw [hround] at hv
    cases hv
  · exact ⟨_, rfl⟩

end

/-! ## Whether it is the instant that is meant -/

section

variable {x : Binary} {v q : ℚ}

/-- Integers up to the precision are not rounded. -/
theorem representable_intCast {n : Int} (hn : -2 ^ 53 ≤ n ∧ n ≤ 2 ^ 53) :
    double.Representable |(n : ℚ)| := by
  have h := Format.representable_natCast (f := double) (n := n.natAbs) double_fits.1 (by decide)
    (by decide) (by show n.natAbs ≤ 2 ^ 53; omega)
  rwa [Nat.cast_natAbs, Int.cast_abs] at h

/-- The integers around a number are around the nearest one too. -/
theorem between_of_ofRat (hq : |q| ≤ 2 ^ 53) (hv : (double.ofRat q).toRat? = some v) :
    ⌊q⌋ ≤ v ∧ v ≤ ⌈q⌉ := by
  obtain ⟨hlow, hhigh⟩ := abs_le.1 hq
  have hfloor : -2 ^ 53 ≤ ⌊q⌋ := Int.le_floor.2 (by exact_mod_cast hlow)
  have hceil : ⌈q⌉ ≤ 2 ^ 53 := Int.ceil_le.2 (by exact_mod_cast hhigh)
  have hle := Int.floor_le_ceil q
  have hnext := Int.ceil_le_floor_add_one q
  constructor
  · refine Format.le_of_ofRat double_fits.1 (representable_intCast ⟨hfloor, ?_⟩) (Int.floor_le q) hv
    omega
  · refine Format.of_ofRat_le double_fits.1 (representable_intCast ⟨?_, hceil⟩) (Int.le_ceil q) hv
    omega

/-- Up to the precision the nearest number fits a word, and is less than one away. -/
theorem near_of_ofRat (hq : |q| ≤ 2 ^ 53) (hv : (double.ofRat q).toRat? = some v) :
    (-2 ^ 63 ≤ v ∧ v < 2 ^ 63) ∧ |v - q| < 1 := by
  obtain ⟨hfloor, hceil⟩ := between_of_ofRat hq hv
  obtain ⟨hlow, hhigh⟩ := abs_le.1 hq
  have habove := Int.lt_floor_add_one q
  have hbelow := Int.ceil_lt_add_one q
  exact ⟨⟨by linarith, by linarith⟩, abs_lt.2 ⟨by linarith, by linarith⟩⟩

/-- **An instant is the one that is meant**, up to a second, if the nearest number of seconds is and
fits a word. -/
theorem abs_toRat_sub_lt_one_iff (hx : x.toRat? = some v) (hv : (double.ofRat q).toRat? = some v) :
    |(instantOfSeconds x).toRat - q| < 1 ↔ (-2 ^ 63 ≤ v ∧ v < 2 ^ 63) ∧ |v - q| < 1 := by
  have hrep : double.Representable |v| := .of_ofRat double_fits.1 double_fits.2 hv
  rcases lt_or_ge v (-2 ^ 63) with hbelow | hlow
  · -- The instant is not before 1970.
    refine iff_of_false (fun h => ?_) fun h => hbelow.not_ge h.1.1
    obtain ⟨n, rfl⟩ := exists_intCast hrep (by rw [abs_of_neg (by linarith)]; linarith)
    have hn : n ≤ -2 ^ 63 - 1 := Int.le_sub_one_of_lt (by exact_mod_cast hbelow)
    have hnonneg := instantOfSeconds_of_small hx (by exact_mod_cast hn)
    have hone : double.Representable |(-1 : ℚ)| := by
      exact_mod_cast representable_intCast (n := -1) (by decide)
    have hq : -1 < q := by linarith [abs_lt.1 h]
    linarith [Format.le_of_ofRat double_fits.1 hone hq.le hv]
  rcases lt_or_ge v (2 ^ 63) with hhigh | habove
  · rw [and_iff_right ⟨hlow, hhigh⟩]
    rcases le_or_gt |q| (2 ^ 53) with hsmall | hlarge
    · -- Nothing passes over the integers around the number.
      obtain ⟨hfloor, hceil⟩ := between_of_ofRat hsmall hv
      obtain ⟨htfloor, htceil⟩ := instantOfSeconds_between hx hrep hlow hhigh
      have hlow_t : (⌊q⌋ : ℚ) ≤ (instantOfSeconds x).toRat :=
        le_trans (by exact_mod_cast Int.le_floor.2 hfloor) htfloor
      have hhigh_t : (instantOfSeconds x).toRat ≤ ⌈q⌉ :=
        htceil.trans (by exact_mod_cast Int.ceil_le.2 hceil)
      have habove := Int.lt_floor_add_one q
      have hbelow := Int.ceil_lt_add_one q
      exact iff_of_true (abs_lt.2 ⟨by linarith, by linarith⟩) (abs_lt.2 ⟨by linarith, by linarith⟩)
    · -- There is no fraction to lose.
      have hlarge_v : 2 ^ 53 ≤ |v| := by
        rcases lt_abs.1 hlarge with h | h
        · exact (Format.le_of_ofRat double_fits.1 (representable_two_pow (by decide)) h.le hv).trans
            (le_abs_self v)
        · exact le_abs.2 (.inr (le_neg.1 (Format.of_ofRat_le double_fits.1
            (by rw [abs_neg]; exact representable_two_pow (by decide)) (le_neg.1 h.le) hv)))
      obtain ⟨n, rfl⟩ := exists_intCast hrep hlarge_v
      rw [instantOfSeconds_intCast hx hrep (by exact_mod_cast hlow) (by exact_mod_cast hhigh)]
      simp [Time.Instant.toRat]
  · -- The instant is always the same one, and no number that is near it is rounded as far.
    refine iff_of_false (fun h => ?_) fun h => habove.not_gt h.1.2
    rw [instantOfSeconds_of_large hx habove, Time.Instant.toRat] at h
    have hq : q < 2 ^ 63 - 2 ^ 32 := by
      have := (abs_lt.1 h).1
      norm_num at this ⊢
      linarith
    have hrep_high : double.Representable |(2 : ℚ) ^ 63 - 2 ^ 32| :=
      ⟨2 ^ 31 - 1, 32, by norm_num [abs_of_pos], by decide, by decide, by decide⟩
    have := Format.of_ofRat_le double_fits.1 hrep_high hq.le hv
    norm_num at this habove
    linarith

end

/-! ## Texts -/

/-- What is refused is reported with the field and the text. -/
theorem parseTimestamp_eq_error {field format : String} {text : Bytes} {fault : Fault}
    (h : parseTimestamp field text format = .error fault) :
    fault = .malformed "timestamp" field text none := by
  rw [parseTimestamp] at h
  split at h
  · cases h
  · exact (Except.error.inj h).symm

theorem parseTimestamp_of_read {field : String} {text : Bytes} {x : Binary}
    (h : double.read (Bytes.readable text) = .ok x) :
    parseTimestamp field text "epoch-seconds" = .ok (instantOfSeconds x) := by
  rw [parseTimestamp, show readTime? (Bytes.readable text) "epoch-seconds" =
    (double.read (Bytes.readable text)).toOption.map instantOfSeconds from rfl, h]
  rfl

theorem exists_read_of_parseTimestamp {field : String} {text : Bytes} {t : Time.Instant}
    (h : parseTimestamp field text "epoch-seconds" = .ok t) :
    ∃ x, double.read (Bytes.readable text) = .ok x := by
  cases hread : double.read (Bytes.readable text) with
  | ok x => exact ⟨x, rfl⟩
  | error =>
    rw [parseTimestamp, show readTime? (Bytes.readable text) "epoch-seconds" =
      (double.read (Bytes.readable text)).toOption.map instantOfSeconds from rfl, hread] at h
    cases h

/-- **Times as numbers of seconds.** What is refused is reported with the field and the text.  Texts
that are accepted spell a number, or one of the words for infinities and what is no number; the words are
all accepted, though no instant is meant.  A number, with its power as far as it is taken, is
accepted if there is a nearest one of 64 bits, and the instant is less than a second away from it if
the nearest one is, and if the nearest one fits a word.  That is so for all numbers up to the precision
of 64 bits. -/
theorem parseTimestamp_epochSeconds (field : String) (text : Bytes) :
    (∀ fault, parseTimestamp field text "epoch-seconds" = .error fault →
      fault = .malformed "timestamp" field text none) ∧
    (∀ t, parseTimestamp field text "epoch-seconds" = .ok t →
      Number.IsNonfinite (Bytes.readable text) ∨
        ∃ w : Number.Written, w.text = Bytes.readable text) ∧
    (Number.IsNonfinite (Bytes.readable text) →
      (∃ t, parseTimestamp field text "epoch-seconds" = .ok t) ∧
        ∀ w : Number.Written, w.text ≠ Bytes.readable text) ∧
    ∀ w : Number.Written, w.text = Bytes.readable text →
      (w.figures.IsShort → w.readRat = w.toRat) ∧
      (∀ v, (double.ofRat w.readRat).toRat? = some v →
        ∃ t, parseTimestamp field text "epoch-seconds" = .ok t ∧
          (|t.toRat - w.readRat| < 1 ↔ (-2 ^ 63 ≤ v ∧ v < 2 ^ 63) ∧ |v - w.readRat| < 1)) ∧
      ((double.ofRat w.readRat).toRat? = none →
        parseTimestamp field text "epoch-seconds" = .error (.malformed "timestamp" field text none)) ∧
      (|w.readRat| ≤ 2 ^ 53 →
        ∃ t, parseTimestamp field text "epoch-seconds" = .ok t ∧ |t.toRat - w.readRat| < 1) := by
  refine ⟨fun fault => parseTimestamp_eq_error, fun t h => ?_, fun h => ?_, fun w htext => ?_⟩
  · obtain ⟨x, hx⟩ := exists_read_of_parseTimestamp h
    rw [Format.read] at hx
    cases hn : Number.Numeral.read? (Bytes.readable text) with
    | none =>
      rw [hn] at hx
      cases hx
    | some n =>
      cases n with
      | nan => exact .inl (Number.Numeral.isNonfinite_iff.2 (.inl hn))
      | infinite negative => exact .inl (Number.Numeral.isNonfinite_iff.2 (.inr ⟨_, hn⟩))
      | finite negative m base e =>
        obtain ⟨w, hw, -⟩ := Number.Numeral.exists_written hn
        exact .inr ⟨w, hw⟩
  · have hread := Number.Numeral.isNonfinite_iff.1 h
    constructor
    · rcases hread with hn | ⟨negative, hn⟩
      · exact ⟨_, parseTimestamp_of_read (x := .nan) (by rw [Format.read, hn]; rfl)⟩
      · exact ⟨_, parseTimestamp_of_read (x := .infinite negative) (by rw [Format.read, hn]; rfl)⟩
    · rintro w hw
      rw [← hw, Number.Numeral.read?_written] at hread
      rcases hread with hn | ⟨negative, hn⟩ <;> cases hn
  · have haccepted {v : ℚ} (hv : (double.ofRat w.readRat).toRat? = some v) :
        ∃ t, parseTimestamp field text "epoch-seconds" = .ok t ∧
          (|t.toRat - w.readRat| < 1 ↔ (-2 ^ 63 ≤ v ∧ v < 2 ^ 63) ∧ |v - w.readRat| < 1) := by
      obtain ⟨x, hread⟩ := exists_read hv
      obtain ⟨v', hx, hv'⟩ := exists_of_read hread
      obtain rfl := Option.some.inj (hv'.symm.trans hv)
      exact ⟨_, parseTimestamp_of_read (htext ▸ hread), abs_toRat_sub_lt_one_iff hx hv⟩
    refine ⟨Number.Written.readRat_of_isShort, fun v hv => haccepted hv, fun hnone => ?_,
      fun hsmall => ?_⟩
    · cases h : parseTimestamp field text "epoch-seconds" with
      | error fault => rw [parseTimestamp_eq_error h]
      | ok t =>
        obtain ⟨x, hread⟩ := exists_read_of_parseTimestamp h
        obtain ⟨v, -, hv⟩ := exists_of_read (htext.symm ▸ hread)
        rw [hnone] at hv
        cases hv
    · have hprecision : double.Representable ((2 : ℚ) ^ 53) := by
        have := representable_two_pow (k := 53) (by decide)
        rwa [abs_of_pos (by positivity)] at this
      obtain ⟨v, hv⟩ := Format.exists_ofRat double_fits.1 hprecision hsmall
      obtain ⟨t, ht, hiff⟩ := haccepted hv
      exact ⟨t, ht, hiff.2 (near_of_ofRat hsmall hv)⟩

/-- One and a half seconds before 1970. -/
def minusThreeHalves : Number.Written where
  sign := ['-']
  hex := false
  lead := []
  body := ['1', '.', '5']
  figures :=
    { whole := ['1'], pointed := true, fraction := ['5'], power := none, digits_ne := by simp
      isDigitOf_digits := by simp [Number.Numeral.isDigitOf, Number.isDigit]
      fraction_of_not_pointed := by simp
      power_of_hex := Number.Figures.power_of_decimal }
  sign_mem := by simp
  lead_mem := Number.Written.nil_mem_lead
  underscores_ok := by decide
  filter_body := by decide

theorem parseTimestamp_epochSeconds_minusThreeHalves :
    minusThreeHalves.text = Bytes.readable (Bytes.encode "-1.5") ∧
      minusThreeHalves.figures.IsShort ∧ minusThreeHalves.toRat = -3 / 2 ∧
      ∃ t, parseTimestamp "gusts" (Bytes.encode "-1.5") "epoch-seconds" = .ok t ∧
        |t.toRat - minusThreeHalves.toRat| < 1 := by
  have htext : minusThreeHalves.text = Bytes.readable (Bytes.encode "-1.5") := by decide
  have hshort : minusThreeHalves.figures.IsShort := by
    simp [Number.Figures.IsShort, minusThreeHalves]
  have hvalue : minusThreeHalves.toRat = -3 / 2 := by
    have hmantissa : minusThreeHalves.figures.mantissa = 15 := by decide
    have hscale : minusThreeHalves.figures.scale = -1 := by decide
    rw [Number.Written.toRat, Number.Written.magnitude, hmantissa, hscale]
    norm_num [Number.Written.negative, Number.Written.base, minusThreeHalves]
  obtain ⟨hread, -, -, hnear⟩ :=
    (parseTimestamp_epochSeconds "gusts" (Bytes.encode "-1.5")).2.2.2 _ htext
  rw [hread hshort] at hnear
  refine ⟨htext, hshort, hvalue, hnear ?_⟩
  rw [hvalue]
  norm_num [abs_le]

/-- What is no number is taken for an instant. -/
theorem not_parseTimestamp_notANumber :
    ¬ ∀ t, parseTimestamp "gusts" (Bytes.encode "NaN") "epoch-seconds" = .ok t →
      ∃ w : Number.Written, w.text = "NaN" ∧ |t.toRat - w.toRat| < 1 := by
  intro h
  have hread : Number.Numeral.read? "NaN" = some .nan := by decide
  obtain ⟨w, hw, -⟩ := h _ (parseTimestamp_of_read (x := .nan) (by
    rw [Bytes.readable_encode, Format.read, hread]
    rfl))
  rw [← hw, Number.Numeral.read?_written] at hread
  cases hread

end Wire
end Shapewright
