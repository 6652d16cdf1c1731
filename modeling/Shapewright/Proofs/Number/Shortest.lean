import Shapewright.Proofs.Number.Neighbourhood
import Shapewright.Proofs.Number.Padded
import Shapewright.Proofs.Number.Spelled

/-!
# Printed numbers are read back

A number is printed with as few figures as tell it from its neighbours.  Which figures these are is
found with integers alone: the number and the midpoints to its neighbours have one denominator, and
a power of ten is tried after the other.  Whatever is found lies in the neighbourhood of the number,
so a reader that rounds to the nearest comes back to it.

* `floorLog10_le` — the estimate of where the first figure stands is never too high by much.
* `shortestFrom_holds` — the search finds something if the places it gets to are close enough.
* `Decimals.Spells` — a text has the value of some figures; `Decimals.spells_plain`,
  `Decimals.spells_scientific`, `Decimals.spells_general` — so have all layouts.
* `Format.Small` — the formats for which the search always finds something; `small_double` is that of
  64 bits.
* `shortest_spec` — it finds a decimal in the neighbourhood.
* `Format.read_textBy`, `Format.read_general` — the payoff, for any layout that has the value of the
  figures and for the usual one: the text is a number, and it is read as the number that was printed.
-/

set_option autoImplicit false

namespace Shapewright
namespace Number

/-! ## Where the first digit stands -/

/-- A power of ten below a power of two. The quotients `103 / 31` and `93 / 28` are just above and
just below the logarithm of ten. -/
theorem ten_zpow_le_two_zpow_of_le {k t : Int} (habove : 103 * k ≤ 31 * t)
    (hbelow : 93 * k ≤ 28 * t) : (10 : ℚ) ^ k ≤ 2 ^ t := by
  rcases le_or_gt 0 k with hk | hk
  · refine (pow_le_pow_iff_left₀ (by positivity) (by positivity) (by norm_num : 31 ≠ 0)).1 ?_
    calc ((10 : ℚ) ^ k) ^ 31 = (10 ^ 31) ^ k := by
          rw [← zpow_natCast, ← zpow_natCast, ← zpow_mul, ← zpow_mul, mul_comm]
      _ ≤ (2 ^ 103) ^ k := zpow_le_zpow_left₀ hk (by norm_num) (by norm_num)
      _ = 2 ^ (103 * k) := by rw [zpow_mul]; norm_num
      _ ≤ 2 ^ (31 * t) := zpow_le_zpow_right₀ (by norm_num) habove
      _ = (2 ^ t) ^ 31 := by rw [mul_comm, zpow_mul]; norm_cast
  · refine (pow_le_pow_iff_left₀ (by positivity) (by positivity) (by norm_num : 28 ≠ 0)).1 ?_
    calc ((10 : ℚ) ^ k) ^ 28 = ((10 ^ 28) ^ (-k))⁻¹ := by
          rw [← zpow_natCast, ← zpow_natCast, ← zpow_mul, ← zpow_mul, ← zpow_neg]
          congr 1
          ring
      _ ≤ ((2 ^ 93) ^ (-k))⁻¹ := inv_anti₀ (by positivity)
          (zpow_le_zpow_left₀ (by omega) (by norm_num) (by norm_num))
      _ = 2 ^ (93 * k) := by rw [zpow_neg, inv_inv, zpow_mul]; norm_num
      _ ≤ 2 ^ (28 * t) := zpow_le_zpow_right₀ (by norm_num) hbelow
      _ = (2 ^ t) ^ 28 := by rw [mul_comm, zpow_mul]; norm_cast

/-- **The estimate of the logarithm** is too high by three at most, if the number is not beyond all
measure. -/
theorem floorLog10_le {num den : Nat} (hnum : num ≠ 0) (hden : den ≠ 0)
    (hlow : -2000 ≤ floorLog2 num den) (hhigh : floorLog2 num den ≤ 2000) :
    (10 : ℚ) ^ floorLog10 num den ≤ num / den := by
  have hlog : floorLog2 num den = (Nat.log2 num : Int) - Nat.log2 den ∨
      floorLog2 num den = (Nat.log2 num : Int) - Nat.log2 den - 1 := by
    rw [floorLog2]
    exact ite_eq_or_eq _ _ _
  obtain ⟨hspec, -⟩ := floorLog2_spec hnum hden
  rw [floorLog10]
  simp only [toNat_pow_le_iff (by decide : 0 < 10) (Nat.pos_of_ne_zero hden), Nat.cast_ofNat]
  split
  · assumption
  split
  · assumption
  split
  · assumption
  · refine (ten_zpow_le_two_zpow_of_le ?_ ?_).trans hspec <;> omega

/-! ## The search -/

namespace Neighbourhood

variable {n : Neighbourhood}

/-- The test for a decimal says whether it lies between the ends. -/
theorem contains_iff (hunit : 0 < n.unit) {a b : Nat} (hb : 0 < b) :
    n.contains a b = true ↔ n.Holds (a / (b * n.unit)) := by
  have hunit' : (0 : ℚ) < n.unit := by exact_mod_cast hunit
  have hb' : (0 : ℚ) < b := by exact_mod_cast hb
  have hends (end_ : Nat) : (end_ : ℚ) / n.unit = (end_ * b : Nat) / (b * n.unit) := by
    push_cast
    field_simp
  rw [contains, Holds, hends, hends]
  simp only [div_le_div_iff_of_pos_right (mul_pos hb' hunit'),
    div_lt_div_iff_of_pos_right (mul_pos hb' hunit'), Nat.cast_le, Nat.cast_lt]
  split <;> simp

/-- A power of ten as a quotient, in the unit of the neighbourhood. -/
def place (n : Neighbourhood) (k : Int) : Nat × Nat :=
  if 0 ≤ k then (n.unit * Nat.pow 10 k.toNat, 1) else (n.unit, Nat.pow 10 (-k).toNat)

theorem place_spec (hunit : 0 < n.unit) (k : Int) : 0 < (n.place k).1 ∧ 0 < (n.place k).2 ∧
    ((n.place k).1 / ((n.place k).2 * n.unit) : ℚ) = 10 ^ k := by
  have hunit' : (n.unit : ℚ) ≠ 0 := by exact_mod_cast hunit.ne'
  rw [place]
  split
  · obtain ⟨j, rfl⟩ : ∃ j : Nat, k = j := ⟨k.toNat, by omega⟩
    refine ⟨Nat.mul_pos hunit (Nat.pow_pos (by decide)), Nat.one_pos, ?_⟩
    rw [Int.toNat_natCast, zpow_natCast, Nat.pow_eq]
    push_cast
    field_simp
  · obtain ⟨j, rfl⟩ : ∃ j : Nat, k = -j := ⟨(-k).toNat, by omega⟩
    refine ⟨hunit, Nat.pow_pos (by decide), ?_⟩
    rw [neg_neg, Int.toNat_natCast, zpow_neg, zpow_natCast, Nat.pow_eq]
    push_cast
    field_simp

/-- The decimal of a place that is next below the number, or is the number. -/
def below (n : Neighbourhood) (k : Int) : Nat := n.exact * (n.place k).2 / (n.place k).1

theorem contains_place_iff (hunit : 0 < n.unit) (k : Int) (q : Nat) :
    n.contains (q * (n.place k).1) (n.place k).2 = true ↔ n.Holds (q * 10 ^ k) := by
  obtain ⟨-, hb, hpower⟩ := place_spec hunit k
  rw [contains_iff hunit hb, Nat.cast_mul, mul_div_assoc, hpower]

theorem below_spec (hunit : 0 < n.unit) (k : Int) : (n.below k * 10 ^ k : ℚ) ≤ n.exact / n.unit ∧
    (n.exact / n.unit : ℚ) < n.below k * 10 ^ k + 10 ^ k := by
  obtain ⟨ha, hb, hpower⟩ := place_spec hunit k
  have hunit' : (0 : ℚ) < n.unit := by exact_mod_cast hunit
  have hb' : (0 : ℚ) < (n.place k).2 := by exact_mod_cast hb
  have hexact : (n.exact : ℚ) / n.unit =
      (n.exact * (n.place k).2 : Nat) / ((n.place k).2 * n.unit) := by
    push_cast
    field_simp
  have hle := Nat.div_mul_le_self (n.exact * (n.place k).2) (n.place k).1
  have hlt := Nat.lt_div_mul_add ha (a := n.exact * (n.place k).2)
  rw [hexact, ← hpower, ← mul_div_assoc, ← add_div,
    div_le_div_iff_of_pos_right (mul_pos hb' hunit'),
    div_lt_div_iff_of_pos_right (mul_pos hb' hunit')]
  exact ⟨by exact_mod_cast hle, by exact_mod_cast hlt⟩

end Neighbourhood

/-- One try: the decimal below the number or the one above it, or else the next place. -/
theorem shortestFrom_succ (n : Neighbourhood) (top : Int) (tries count : Nat) :
    shortestFrom n top (tries + 1) count =
      let k := top - count + 1
      let q := n.below k
      let twice := 2 * (n.exact * (n.place k).2 - q * (n.place k).1)
      let preferLow := twice < (n.place k).1 || (twice == (n.place k).1 && q % 2 == 0)
      if n.contains (q * (n.place k).1) (n.place k).2 &&
        (preferLow || !n.contains ((q + 1) * (n.place k).1) (n.place k).2) then (q, k)
      else if n.contains ((q + 1) * (n.place k).1) (n.place k).2 then (q + 1, k)
      else shortestFrom n top tries (count + 1) := rfl

/-- A decimal next below the number lies between the ends if the places are close enough. -/
theorem Neighbourhood.holds_below {n : Neighbourhood} (hunit : 0 < n.unit)
    (hupper : (n.exact / n.unit : ℚ) < n.upper / n.unit) {k : Int}
    (hfine : (10 : ℚ) ^ k ≤ n.exact / n.unit - n.lower / n.unit) :
    n.Holds (n.below k * 10 ^ k) := by
  obtain ⟨hle, hlt⟩ := below_spec hunit k
  have hlower : (n.lower / n.unit : ℚ) < n.below k * 10 ^ k := by linarith
  rw [Holds]
  split
  · exact ⟨hlower.le, hle.trans hupper.le⟩
  · exact ⟨hlower, hle.trans_lt hupper⟩

/-- **The search** finds a decimal between the ends, if the places of its last try are close
enough. -/
theorem shortestFrom_holds {n : Neighbourhood} (hunit : 0 < n.unit)
    (hupper : (n.exact / n.unit : ℚ) < n.upper / n.unit) (top : Int) {tries : Nat} (count : Nat)
    (htries : tries ≠ 0)
    (hfine : (10 : ℚ) ^ (top - (count + tries) + 2) ≤ n.exact / n.unit - n.lower / n.unit) :
    n.Holds ((shortestFrom n top tries count).1 * 10 ^ (shortestFrom n top tries count).2) := by
  induction tries generalizing count with
  | zero => exact absurd rfl htries
  | succ tries ih =>
    rw [shortestFrom_succ]
    simp only
    split
    · rename_i hlow
      exact (Neighbourhood.contains_place_iff hunit _ _).1 (Bool.and_eq_true_iff.1 hlow).1
    · rename_i hlow
      split
      · rename_i hhigh
        exact (Neighbourhood.contains_place_iff hunit _ _).1 hhigh
      · rename_i hhigh
        -- Neither is one, and so this try was not the last.
        refine ih (count + 1) ?_ ?_
        · rintro rfl
          have hbelow := Neighbourhood.holds_below hunit hupper (k := top - count + 1) (by
            convert hfine using 2
            push_cast
            ring)
          rw [← Neighbourhood.contains_place_iff hunit] at hbelow
          simp [hbelow, hhigh] at hlow
        · convert hfine using 3
          push_cast
          ring

/-! ## Digits -/

/-- A first digit that is not zero counts. -/
theorem le_value_cons {c : Char} (ds : List Char) (hc : isDigit c = true) (hzero : c ≠ '0') :
    10 ^ ds.length ≤ value (c :: ds) := by
  have hpos : 1 ≤ digitValue c := by
    have hle : '0' ≤ c := of_decide_eq_true (Bool.and_eq_true_iff.1 hc).1
    have hge : 0x30 ≤ c.toNat := UInt32.le_iff_toNat_le.1 hle
    have hne : c.toNat ≠ 0x30 := fun h => hzero (Char.toNat_inj.1 h)
    rw [digitValue]
    omega
  rw [value, List.foldl_cons, foldl_digits, Nat.zero_mul, Nat.zero_add]
  have hmul := Nat.mul_le_mul_right (10 ^ ds.length) hpos
  omega

/-- The digits of a number do not start with a zero. -/
theorem toDigits_ne_zero_cons {n : Nat} (hn : n ≠ 0) (tail : List Char) :
    Nat.toDigits 10 n ≠ '0' :: tail := by
  intro h
  have hvalue : value tail = n := by
    rw [← value_toDigits n, h, value, value, List.foldl_cons]
    rfl
  have hdigits : ∀ c ∈ tail, isDigit c = true := fun c hc =>
    all_isDigit_toDigits n c (by rw [h]; exact List.mem_cons_of_mem _ hc)
  have hlt := value_lt hdigits
  rw [hvalue] at hlt
  have hpos : 0 < tail.length := by
    rcases tail with _ | ⟨c, tail⟩
    · exact absurd hvalue.symm hn
    · exact Nat.succ_pos _
  have hlength := (Nat.length_toDigits_le_iff (by decide) hpos).2 hlt
  rw [h, List.length_cons] at hlength
  omega

namespace Decimals

variable {d : Decimals}

/-- The number that is meant. -/
def toRat (d : Decimals) : ℚ := value d.digits * 10 ^ (d.point - d.digits.length)

/-- Digits without a zero in front. -/
structure Proper (d : Decimals) : Prop where
  isDigit_digits : ∀ c ∈ d.digits, isDigit c = true
  ne_zero_cons : ∀ tail, d.digits ≠ '0' :: tail

/-- Zero has no digits. -/
theorem proper_nil (point : Int) : Proper ⟨[], point⟩ := ⟨by simp, by simp⟩

/-- The point stands behind the first digit of a number as large as this. -/
theorem Proper.bounds (hd : d.Proper) (hne : d.digits ≠ []) :
    (10 : ℚ) ^ (d.point - 1) ≤ d.toRat ∧ d.toRat < 10 ^ d.point := by
  obtain ⟨digits, point⟩ := d
  obtain ⟨hdigits, hzero⟩ := hd
  obtain ⟨c, ds, rfl⟩ := List.exists_cons_of_ne_nil hne
  have hlow := le_value_cons ds (hdigits c List.mem_cons_self) fun h => hzero ds (by rw [h])
  have hhigh := value_lt hdigits
  have hscale {k : Nat} {t : Int} (hk : (k : Int) + (point - (c :: ds).length) = t) :
      ((10 ^ k : Nat) : ℚ) * 10 ^ (point - ((c :: ds).length : Int)) = 10 ^ t := by
    rw [← hk, zpow_add₀ (by norm_num), zpow_natCast]
    push_cast
    rfl
  rw [toRat]
  constructor
  · rw [← hscale (k := ds.length) (t := point - 1) (by rw [List.length_cons]; push_cast; ring)]
    exact mul_le_mul_of_nonneg_right (by exact_mod_cast hlow) (by positivity)
  · rw [← hscale (k := (c :: ds).length) (t := point) (by ring)]
    exact mul_lt_mul_of_pos_right (by exact_mod_cast hhigh) (by positivity)

end Decimals

/-- The digits of an integer without the zeros at their end. -/
theorem proper_trimmed {q : Nat} (hq : q ≠ 0) (place : Int) :
    let d : Decimals := ⟨Text.dropWhileEnd (· == '0') (Nat.toDigits 10 q),
      place + (Nat.toDigits 10 q).length⟩
    d.Proper ∧ d.digits ≠ [] ∧ d.toRat = q * 10 ^ place := by
  obtain ⟨k, hsplit, hvalue⟩ := exists_trimmed (Nat.toDigits 10 q)
  rw [value_toDigits] at hvalue
  have hlength := congrArg List.length hsplit
  rw [List.length_append, List.length_replicate] at hlength
  generalize Text.dropWhileEnd (· == '0') (Nat.toDigits 10 q) = ds at hsplit hvalue hlength
  refine ⟨⟨fun c hc => ?_, fun tail htail => ?_⟩, ?_, ?_⟩
  · exact all_isDigit_toDigits q c (by rw [hsplit]; exact List.mem_append_left _ hc)
  · have hds : ds = '0' :: tail := htail
    rw [hds] at hsplit
    exact toDigits_ne_zero_cons hq _ hsplit
  · rintro rfl
    rw [value, List.foldl_nil, Nat.zero_mul] at hvalue
    exact hq hvalue
  · have hplaces : place + ((Nat.toDigits 10 q).length : Int) - ds.length = k + place := by
      rw [hlength]
      push_cast
      ring
    show (value ds : ℚ) * 10 ^ (place + ((Nat.toDigits 10 q).length : Int) - ds.length) = _
    rw [hplaces, hvalue, zpow_add₀ (by norm_num), zpow_natCast, ← mul_assoc]
    push_cast
    rfl

/-! ## Layouts -/

namespace Decimals

open Json (Spelling Exponent)

variable {d : Decimals}

/-- A text spells the number that digits mean, with any sign before it. -/
def Spells (d : Decimals) (text : List Char) : Prop :=
  ∀ negative : Bool, ∃ n : Spelling, n.negative = negative ∧ n.unsigned = text ∧
    n.magnitude = d.toRat ∧ n.IsShort

theorem pointed_eq (ds : List Char) :
    (if ds.isEmpty then [] else '.' :: ds) = Spelling.pointed ds := by
  cases ds <;> rfl

/-- Digits and a point, without a power, spell a number. -/
theorem spells_of_places (whole fraction : List Char) {text : List Char} (hne : whole ≠ [])
    (hzero : ∀ tail, whole = '0' :: tail → tail = []) (hwhole : ∀ c ∈ whole, isDigit c = true)
    (hfraction : ∀ c ∈ fraction, isDigit c = true)
    (htext : whole ++ Spelling.pointed fraction = text)
    (hvalue : (value (whole ++ fraction) : ℚ) * 10 ^ (-(fraction.length : Int)) = d.toRat) :
    d.Spells text := fun negative => by
  refine ⟨⟨negative, whole, fraction, none, hne, hzero, hwhole, hfraction⟩, rfl, ?_, ?_, nofun⟩
  · rw [← htext, Spelling.unsigned, Spelling.exponentChars, Option.map_none, Option.getD_none,
      List.append_nil]
  · rw [← hvalue, Spelling.magnitude, Spelling.scale, Option.map_none, Option.getD_none, zero_sub]
    rfl

theorem isDigit_of_mem_zeros {k : Nat} {c : Char} (h : c ∈ List.replicate k '0') :
    isDigit c = true := by
  rw [List.eq_of_mem_replicate h]
  rfl

/-- No digits are zero. -/
theorem spells_zero (h : d.digits = []) : d.Spells ['0'] :=
  spells_of_places ['0'] [] (by simp) (by simp) (by simp; rfl) (by simp) rfl
    (by simp [toRat, h, value, digitValue])

/-- All digits behind the point, with zeros between. -/
theorem spells_behind (hd : d.Proper) (zeros : Nat) (hpoint : d.point = -zeros) :
    d.Spells ('0' :: Spelling.pointed (List.replicate zeros '0' ++ d.digits)) := by
  refine spells_of_places ['0'] _ (by simp) (by simp) (by simp; rfl)
    (List.forall_mem_append.2 ⟨fun _ => isDigit_of_mem_zeros, hd.isDigit_digits⟩) rfl ?_
  rw [← List.append_assoc, value_append, List.singleton_append, ← List.replicate_succ,
    value_replicate_zero, Nat.zero_mul, Nat.zero_add, List.length_append, List.length_replicate,
    Nat.cast_add, neg_add, ← sub_eq_add_neg, toRat, hpoint]

/-- Digits before the point, or all of them and zeros up to the point. -/
theorem spells_before (hd : d.Proper) (hne : d.digits ≠ []) {p : Nat} (hp : 0 < p)
    (hpoint : d.point = p) :
    d.Spells (d.digits.take p ++ List.replicate (p - d.digits.length) '0' ++
      Spelling.pointed (d.digits.drop p)) := by
  obtain ⟨c, ds, hds⟩ := List.exists_cons_of_ne_nil hne
  obtain ⟨k, rfl⟩ : ∃ k, p = k + 1 := ⟨p - 1, by omega⟩
  refine spells_of_places _ _ (by simp [hds]) ?_ (List.forall_mem_append.2
    ⟨fun x hx => hd.isDigit_digits x (List.mem_of_mem_take hx), fun _ => isDigit_of_mem_zeros⟩)
    (fun x hx => hd.isDigit_digits x (List.mem_of_mem_drop hx)) rfl ?_
  · intro tail htail
    rw [hds, List.take_succ_cons, List.cons_append] at htail
    exact absurd (by rw [hds, (List.cons.inj htail).1]) (hd.ne_zero_cons ds)
  · rw [toRat, hpoint]
    rcases le_total d.digits.length (k + 1) with hle | hge
    · rw [List.take_of_length_le hle, List.drop_of_length_le hle, List.append_nil, value_append,
        value_replicate_zero, List.length_replicate, List.length_nil, Nat.cast_zero, neg_zero,
        zpow_zero, mul_one, Nat.add_zero, ← Nat.cast_sub hle, zpow_natCast]
      push_cast
      rfl
    · rw [Nat.sub_eq_zero_of_le hge, List.replicate_zero, List.append_nil, List.take_append_drop,
        List.length_drop, Nat.cast_sub hge, neg_sub]

/-- **Without an exponent** the digits spell what they mean. -/
theorem spells_plain (hd : d.Proper) : d.Spells d.plain := by
  rw [plain]
  simp only [pointed_eq]
  split
  · rename_i hempty
    exact spells_zero (List.isEmpty_iff.1 hempty)
  rename_i hne
  rw [List.isEmpty_iff] at hne
  split
  · have hbehind := spells_behind hd (-d.point).toNat (by omega)
    obtain ⟨c, ds, hds⟩ := List.exists_cons_of_ne_nil hne
    rw [hds] at hbehind ⊢
    cases hzeros : (-d.point).toNat with
    | zero => rwa [hzeros] at hbehind
    | succ k => rwa [hzeros] at hbehind
  · exact spells_before hd hne (by omega) (by omega)

/-- An exponent as it is printed, with some digits at least. -/
def power (width : Nat) (n : Int) : Exponent where
  mark := 'e'
  sign := [if n < 0 then '-' else '+']
  digits := (Text.padNat width n.natAbs).toList
  mark_eq := .inl rfl
  sign_mem := by split <;> simp
  digits_ne := by
    rw [toList_padNat]
    exact List.append_ne_nil_of_right_ne_nil _ (List.ne_nil_of_length_pos Nat.length_toDigits_pos)
  isDigit_digits _ := isDigit_of_mem_padNat

theorem value_digits_power (width : Nat) (n : Int) : value (power width n).digits = n.natAbs := by
  simp only [power, value_padNat]

theorem value_power (width : Nat) (n : Int) : (power width n).value = n := by
  have hsign : ((power width n).sign == ['-']) = decide (n < 0) := by
    by_cases hn : n < 0 <;> simp [power, hn]
  rw [Exponent.value, hsign, value_digits_power, signed_natAbs]

/-- **With an exponent** they do, too. -/
theorem spells_scientific (hd : d.Proper) (hne : d.digits ≠ [])
    (hpoint : (d.point - 1).natAbs < 10 * Numeral.exponentBound) (width : Nat) :
    d.Spells (d.scientific width) := fun negative => by
  obtain ⟨digits, point⟩ := d
  obtain ⟨hdigits, hzero⟩ := hd
  obtain ⟨c, ds, rfl⟩ := List.exists_cons_of_ne_nil hne
  simp only at hdigits hpoint
  refine ⟨⟨negative, [c], ds, some (power width (point - 1)), by simp, by simp,
    fun x hx => hdigits x (by simp_all), fun x hx => hdigits x (List.mem_cons_of_mem c hx)⟩,
    rfl, ?_, ?_, ?_⟩
  · rw [scientific]
    simp only [pointed_eq]
    simp [Spelling.unsigned, Spelling.exponentChars, Exponent.chars, power]
  · rw [Spelling.magnitude, Spelling.scale, Option.map_some, Option.getD_some, value_power, toRat,
      Spelling.digits, List.length_cons]
    congr 2
    push_cast
    ring
  · intro e he
    rw [← Option.some.inj he, value_digits_power]
    exact hpoint

/-- **The usual layout** is one of the two. -/
theorem spells_general (hd : d.Proper)
    (hpoint : (d.point - 1).natAbs < 10 * Numeral.exponentBound) : d.Spells d.general := by
  have hplain := spells_plain hd
  rw [general]
  split
  · rename_i hempty
    rwa [plain, if_pos hempty] at hplain
  · rename_i hne
    split
    · exact spells_scientific hd (fun h => hne (by rw [h]; rfl)) hpoint 2
    · exact hplain

end Decimals

/-! ## Numbers of a format -/

/-- A format whose numbers are no longer and no larger than some. -/
structure Format.Small (f : Format) : Prop where
  precision_pos : 0 < f.precision
  precision_le : f.precision ≤ 61
  minExponent_ge : -2000 ≤ f.minExponent
  limit_le : f.limit ≤ 2000
  fits : f.minExponent + f.precision ≤ f.limit

theorem small_double : double.Small := by constructor <;> decide

section

variable {f : Format} {m : Nat} {e : Int} {negative : Bool}

/-- How large a number of a format is. -/
theorem Format.bounds (hnormal : f.Normal (.finite negative m e))
    (hlimit : e + f.precision ≤ f.limit) (hm : 0 < m) :
    (2 : ℚ) ^ f.minExponent ≤ m * 2 ^ e ∧ (m : ℚ) * 2 ^ e < 2 ^ f.limit := by
  obtain ⟨hmin, hlt, -⟩ := hnormal
  have hone : (1 : ℚ) ≤ m := by exact_mod_cast hm
  constructor
  · calc (2 : ℚ) ^ f.minExponent ≤ 2 ^ e := zpow_le_zpow_right₀ (by norm_num) hmin
      _ ≤ m * 2 ^ e := le_mul_of_one_le_left (by positivity) hone
  · exact (lt_two_zpow_of_lt hlt e).trans_le (zpow_le_zpow_right₀ (by norm_num) (by omega))

/-- The places of the last try are close enough: nineteen digits below the first one. -/
theorem ten_zpow_le_gap (hf : f.Small) (hlt : m < 2 ^ f.precision) {top : Int}
    (htop : (10 : ℚ) ^ top ≤ m * 2 ^ e) : (10 : ℚ) ^ (top - 19) ≤ 1 / 4 * 2 ^ e := by
  have hsize : (2 : ℚ) ^ f.precision ≤ 2 ^ 61 := pow_le_pow_right₀ (by norm_num) hf.precision_le
  have hm : (m : ℚ) ≤ 2 ^ f.precision := by exact_mod_cast hlt.le
  have hpow : (0 : ℚ) < 2 ^ e := by positivity
  calc (10 : ℚ) ^ (top - 19) = 10 ^ top / 10 ^ 19 := by
        rw [zpow_sub₀ (by norm_num)]
        norm_cast
    _ ≤ 2 ^ 61 * 2 ^ e / 10 ^ 19 := by
        gcongr
        exact htop.trans (mul_le_mul_of_nonneg_right (hm.trans hsize) hpow.le)
    _ ≤ 1 / 4 * 2 ^ e := by
        rw [div_le_iff₀ (by norm_num)]
        nlinarith

/-- The search starts where the first digit of the number stands. -/
theorem floorLog10_neighbourhood_le (hf : f.Small) (hnormal : f.Normal (.finite negative m e))
    (hlimit : e + f.precision ≤ f.limit) (hm : 0 < m) :
    (10 : ℚ) ^ floorLog10 (neighbourhood f m e).exact (neighbourhood f m e).unit ≤ m * 2 ^ e := by
  obtain ⟨hunit, hexact, -⟩ := neighbourhood_spec f e hm
  obtain ⟨hlow, hhigh⟩ := Format.bounds hnormal hlimit hm
  have hnum : (neighbourhood f m e).exact ≠ 0 := by
    intro hzero
    rw [hzero, Nat.cast_zero, zero_div] at hexact
    rw [← hexact] at hlow
    exact absurd hlow (not_le.2 (by positivity))
  have hlog := floorLog2_spec hnum hunit.ne'
  rw [hexact] at hlog
  have hleast := (zpow_lt_zpow_iff_right₀ (by norm_num : (1 : ℚ) < 2)).1 (hlow.trans_lt hlog.2)
  have hmost := (zpow_lt_zpow_iff_right₀ (by norm_num : (1 : ℚ) < 2)).1 (hlog.1.trans_lt hhigh)
  have hmin := hf.minExponent_ge
  have hmax := hf.limit_le
  rw [← hexact]
  exact floorLog10_le hnum hunit.ne' (by omega) (by omega)

/-- **The shortest digits** are those of a number between the ends. -/
theorem shortest_spec (hf : f.Small) (hnormal : f.Normal (.finite negative m e))
    (hlimit : e + f.precision ≤ f.limit) (hm : 0 < m) :
    (shortest f m e).Proper ∧ (shortest f m e).digits ≠ [] ∧
      (neighbourhood f m e).Holds (shortest f m e).toRat := by
  obtain ⟨hunit, hexact, hlower, hupper, -⟩ := neighbourhood_spec f e hm
  have htop := floorLog10_neighbourhood_le hf hnormal hlimit hm
  have hpow : (0 : ℚ) < 2 ^ e := by positivity
  have hshortest : shortest f m e =
      (fun r : Nat × Int => ⟨Text.dropWhileEnd (· == '0') (Nat.toDigits 10 r.1),
        r.2 + (Nat.toDigits 10 r.1).length⟩) (shortestFrom (neighbourhood f m e)
          (floorLog10 (neighbourhood f m e).exact (neighbourhood f m e).unit) 20 1) := by
    rw [shortest, if_neg (by simpa using hm.ne')]
  generalize floorLog10 (neighbourhood f m e).exact (neighbourhood f m e).unit = top
    at htop hshortest
  have hfine : (10 : ℚ) ^ (top - ((1 : Nat) + (20 : Nat)) + 2) ≤
      (neighbourhood f m e).exact / (neighbourhood f m e).unit -
        (neighbourhood f m e).lower / (neighbourhood f m e).unit := by
    rw [hexact, hlower, ← sub_mul, sub_sub_cancel]
    calc (10 : ℚ) ^ (top - ((1 : Nat) + (20 : Nat)) + 2) = 10 ^ (top - 19) := by
          congr 1
          push_cast
          ring
      _ ≤ 1 / 4 * 2 ^ e := ten_zpow_le_gap hf hnormal.2.1 htop
      _ ≤ gapBelow f m e * 2 ^ e :=
        mul_le_mul_of_nonneg_right (gapBelow_le f m e).1 hpow.le
  have hholds := shortestFrom_holds hunit (by
    rw [hexact, hupper]
    exact mul_lt_mul_of_pos_right (by linarith) hpow) top 1 (by decide : (20 : Nat) ≠ 0) hfine
  have hq : (shortestFrom (neighbourhood f m e) top 20 1).1 ≠ 0 := by
    intro hzero
    have hpos := Format.pos_of_holds hm hholds
    rw [hzero, Nat.cast_zero, zero_mul] at hpos
    exact lt_irrefl _ hpos
  obtain ⟨hproper, hne, hvalue⟩ :=
    proper_trimmed hq (shortestFrom (neighbourhood f m e) top 20 1).2
  rw [hshortest]
  exact ⟨hproper, hne, hvalue ▸ hholds⟩

/-- The point of the shortest digits is not far away. -/
theorem natAbs_point_lt (hf : f.Small) (hnormal : f.Normal (.finite negative m e))
    (hlimit : e + f.precision ≤ f.limit) (hm : 0 < m) :
    ((shortest f m e).point - 1).natAbs < 10 * Numeral.exponentBound := by
  obtain ⟨hproper, hne, hholds⟩ := shortest_spec hf hnormal hlimit hm
  obtain ⟨hlow, hhigh⟩ := hproper.bounds hne
  obtain ⟨hlower, hupper⟩ := Format.bounds_of_holds hm hholds
  obtain ⟨hleast, hmost⟩ := Format.bounds hnormal hlimit hm
  generalize (shortest f m e).point = point at hlow hhigh
  have hone : (1 : ℚ) ≤ m := by exact_mod_cast hm
  have hpow : (0 : ℚ) < 2 ^ e := by positivity
  have hgap := gapBelow_le f m e
  have hbelow : (10 : ℚ) ^ (point - 1) < 2 ^ (f.limit + 1) := by
    rw [zpow_add_one₀ (by norm_num)]
    nlinarith
  have habove : (2 : ℚ) ^ (f.minExponent - 1) < 10 ^ point := by
    rw [zpow_sub_one₀ (by norm_num)]
    nlinarith
  have hmin := hf.minExponent_ge
  have hmax := hf.limit_le
  have hleft : -1000 ≤ point := by
    by_contra hfar
    have hsmall := ten_zpow_le_two_zpow (e := point) (by omega)
    have := (zpow_lt_zpow_iff_right₀ (by norm_num : (1 : ℚ) < 2)).1 (habove.trans_le hsmall)
    omega
  have hright : point ≤ 1000 := by
    by_contra hfar
    have hlarge := two_zpow_le_ten_zpow (e := point - 1) (by omega)
    have := (zpow_lt_zpow_iff_right₀ (by norm_num : (1 : ℚ) < 2)).1 (hlarge.trans_lt hbelow)
    omega
  rw [Numeral.exponentBound]
  omega

end

/-! ## Reading back -/

variable {f : Format} {x : Binary}

/-- A number whose digits are laid out is a number of a document, and it is read back. -/
theorem Format.read_textBy (hf : f.Small) (hx : f.Has x) {layout : Decimals → List Char}
    (hlayout : ∀ d : Decimals, d.Proper → (d.point - 1).natAbs < 10 * Numeral.exponentBound →
      d.Spells (layout d)) :
    Json.isNumber (x.textBy f layout) = true ∧ f.read (x.textBy f layout) = .ok x := by
  obtain @⟨negative, m, e, hnormal, hlimit⟩ := hx
  have hround : (shortest f m e).Proper ∧
      ((shortest f m e).point - 1).natAbs < 10 * Numeral.exponentBound ∧
      f.round negative (shortest f m e).toRat = .finite negative m e := by
    rcases Nat.eq_zero_or_pos m with rfl | hm
    · obtain rfl : e = f.minExponent := hnormal.2.2.resolve_left (Nat.two_pow_pos _).not_ge
      have hzero : Decimals.toRat ⟨[], 0⟩ = 0 := by simp [Decimals.toRat, value]
      rw [show shortest f 0 f.minExponent = ⟨[], 0⟩ from rfl, hzero]
      exact ⟨Decimals.proper_nil _, by decide, f.round_zero negative⟩
    · obtain ⟨hproper, -, hholds⟩ := shortest_spec hf hnormal hlimit hm
      exact ⟨hproper, natAbs_point_lt hf hnormal hlimit hm,
        round_of_holds hf.precision_pos hnormal hlimit hm hholds⟩
  obtain ⟨hproper, hpoint, hround⟩ := hround
  obtain ⟨n, hnegative, htext, hvalue, hshort⟩ := hlayout _ hproper hpoint negative
  have hchars : (Binary.finite negative m e).textBy f layout = String.ofList n.chars := by
    rw [n.chars_eq, hnegative, htext]
    rfl
  rw [hchars]
  refine ⟨Json.isNumber_iff.2 ⟨n, String.toList_ofList⟩, ?_⟩
  rw [read_spelling hf.precision_pos hf.fits hshort, hnegative, hvalue, hround]

/-- **The usual text of a number** is read back. -/
theorem Format.read_general (hf : f.Small) (hx : f.Has x) :
    Json.isNumber (x.general f) = true ∧ f.read (x.general f) = .ok x :=
  read_textBy hf hx fun _ => Decimals.spells_general

end Number
end Shapewright
