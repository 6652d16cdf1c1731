import Mathlib.Algebra.Group.Nat.Defs
import Shapewright.Proofs.Number.Digits
import Shapewright.Proofs.Text.Pieces

/-!
# Digits of a fixed width

A number is written with leading zeros where its width is fixed, and a fraction without the zeros at
its end.  Neither changes what is read.

* `value_append`, `value_lt` — digits behind digits, and how much they can spell.
* `length_padNat`, `isDigit_of_mem_padNat`, `value_padNat` — digits with leading zeros.
* `exists_trimmed` — digits without the zeros at their end.
-/

set_option autoImplicit false

namespace Shapewright
namespace Number

/-! ## Digits behind digits -/

theorem foldl_digits (ds : List Char) (n : Nat) :
    ds.foldl (fun n c => n * 10 + digitValue c) n = n * 10 ^ ds.length + value ds := by
  induction ds generalizing n with
  | nil => simp [value]
  | cons d ds ih =>
    rw [value, List.foldl_cons, List.foldl_cons, ih, ih (0 * 10 + digitValue d), List.length_cons,
      Nat.pow_succ, Nat.zero_mul, Nat.zero_add, Nat.add_mul, Nat.mul_assoc, Nat.mul_comm 10,
      Nat.add_assoc]

theorem value_append (ds es : List Char) :
    value (ds ++ es) = value ds * 10 ^ es.length + value es := by
  rw [value, List.foldl_append, foldl_digits]
  rfl

theorem value_lt {ds : List Char} (h : ∀ c ∈ ds, isDigit c = true) : value ds < 10 ^ ds.length := by
  induction ds with
  | nil => decide
  | cons d ds ih =>
    obtain ⟨hd, hds⟩ := List.forall_mem_cons.1 h
    have hdigit : digitValue d ≤ 9 := Nat.sub_le_sub_right (isDigit_le hd) 0x30
    rw [value, List.foldl_cons, foldl_digits, Nat.zero_mul, Nat.zero_add, List.length_cons,
      Nat.pow_succ]
    have hmul := Nat.mul_le_mul_right (10 ^ ds.length) hdigit
    have hrest := ih hds
    omega

theorem value_replicate_zero (k : Nat) : value (List.replicate k '0') = 0 := by
  induction k with
  | zero => rfl
  | succ k ih =>
    rw [List.replicate_succ', value_append, ih, Nat.zero_mul]
    rfl

/-! ## Leading zeros -/

section

variable {width n : Nat}

theorem toList_padNat (width n : Nat) : (Text.padNat width n).toList =
    List.replicate (width - (Nat.toDigits 10 n).length) '0' ++ Nat.toDigits 10 n :=
  String.toList_ofList

theorem length_padNat (hwidth : 0 < width) (h : n < 10 ^ width) :
    (Text.padNat width n).toList.length = width := by
  have hle : (Nat.toDigits 10 n).length ≤ width :=
    (Nat.length_toDigits_le_iff (by decide) hwidth).2 h
  rw [toList_padNat, List.length_append, List.length_replicate]
  omega

theorem isDigit_of_mem_padNat {c : Char} (h : c ∈ (Text.padNat width n).toList) :
    isDigit c = true := by
  rw [toList_padNat, List.mem_append] at h
  rcases h with h | h
  · rw [List.eq_of_mem_replicate h]
    rfl
  · exact all_isDigit_toDigits n c h

theorem value_padNat (width n : Nat) : value (Text.padNat width n).toList = n := by
  rw [toList_padNat, value_append, value_replicate_zero, Nat.zero_mul, Nat.zero_add, value_toDigits]

end

/-! ## Zeros at the end -/

/-- **Digits without the zeros at their end** spell the same number, but for as many powers of ten. -/
theorem exists_trimmed (ds : List Char) : ∃ k,
    ds = Text.dropWhileEnd (· == '0') ds ++ List.replicate k '0' ∧
      value ds = value (Text.dropWhileEnd (· == '0') ds) * 10 ^ k := by
  obtain ⟨back, hback, hsplit⟩ := Text.exists_dropWhileEnd (· == '0') ds
  have hzeros : back = List.replicate back.length '0' :=
    List.eq_replicate_of_mem fun c hc => beq_iff_eq.1 (hback c hc)
  refine ⟨back.length, by rw [← hzeros, ← hsplit], ?_⟩
  have hvalue := congrArg value hsplit
  rwa [value_append, hzeros, value_replicate_zero, List.length_replicate, Nat.add_zero] at hvalue

end Number
end Shapewright
