import Shapewright.Number.Digits

/-!
# Decimal digits lose nothing

An integer that is written in decimal is read back.

* `Number.readInt?_toString` — by the reader for integers of any size.
* `Number.readWord_of_readInt?` — a text that is read as an integer is read alike by the reader for
  words, if the integer fits the word.
* `Number.wrap_fits` — what remains of an integer in a word does.
-/

set_option autoImplicit false

namespace Shapewright
namespace Number

/-! ## Digits of natural numbers -/

theorem isDigit_of_isDigit {c : Char} (h : c.isDigit = true) : isDigit c = true := by
  simpa [isDigit, Char.isDigit, Char.le_def] using h

theorem isDigit_le {c : Char} (h : isDigit c = true) : c.toNat ≤ 0x39 := by
  have hle : c ≤ '9' := of_decide_eq_true (Bool.and_eq_true_iff.1 h).2
  exact UInt32.le_iff_toNat_le.1 hle

theorem all_isDigit_toDigits (n : Nat) : ∀ c ∈ Nat.toDigits 10 n, isDigit c = true := fun _ hc =>
  isDigit_of_isDigit (Nat.isDigit_of_mem_toDigits (by decide) (by decide) hc)

theorem value_toDigits (n : Nat) : value (Nat.toDigits 10 n) = n := by
  have hstep : (fun (n : Nat) (c : Char) => n * 10 + digitValue c)
      = fun n c => 10 * n + (c.toNat - '0'.toNat) := by
    funext n c
    rw [Nat.mul_comm, digitValue]
    rfl
  rw [value, hstep, ← Nat.ofDigitChars_eq_foldl]
  exact Nat.ofDigitChars_ten_toDigits

/-- Reading digits only makes the number larger. -/
theorem le_foldl_digits (cs : List Char) (n : Nat) :
    n ≤ cs.foldl (fun n c => n * 10 + digitValue c) n := by
  induction cs generalizing n with
  | nil => exact Nat.le_refl n
  | cons c cs ih => exact Nat.le_trans (by omega) (ih (n * 10 + digitValue c))

/-- The reader that gives up early does not if the whole number is within the limit. -/
theorem readUpTo_eq_ok {limit : Nat} {cs : List Char} (n : Nat)
    (hdigits : ∀ c ∈ cs, isDigit c = true)
    (hlimit : cs.foldl (fun n c => n * 10 + digitValue c) n ≤ limit) :
    readUpTo limit n cs = .ok (cs.foldl (fun n c => n * 10 + digitValue c) n) := by
  induction cs generalizing n with
  | nil => rfl
  | cons c cs ih =>
    have hc : isDigit c = true := hdigits c List.mem_cons_self
    have hle : ¬ limit < n * 10 + digitValue c :=
      Nat.not_lt.2 (Nat.le_trans (le_foldl_digits cs _) hlimit)
    rw [readUpTo, hc, Bool.not_true, if_neg Bool.false_ne_true, if_neg hle]
    exact ih _ (fun d hd => hdigits d (List.mem_cons_of_mem c hd)) hlimit

/-! ## Integers -/

theorem splitSign_of_digits {cs : List Char} (h : ∀ c ∈ cs, isDigit c = true) :
    splitSign cs = (false, cs) := by
  have hsign : isDigit '-' = false ∧ isDigit '+' = false := by decide
  unfold splitSign
  split
  · exact absurd (h '-' List.mem_cons_self) (by simp [hsign.1])
  · exact absurd (h '+' List.mem_cons_self) (by simp [hsign.2])
  · rfl

/-- The sign and the digits of a written integer. -/
theorem splitSign_toString (n : Int) :
    splitSign (toString n).toList = (decide (n < 0), Nat.toDigits 10 n.natAbs) := by
  rw [Int.toString_eq_repr, Int.repr_eq_if]
  split
  · rename_i hn
    have habs : n.toNat = n.natAbs := by omega
    have hneg : ¬ n < 0 := by omega
    rw [Nat.toList_repr, habs, decide_eq_false hneg]
    exact splitSign_of_digits (all_isDigit_toDigits _)
  · rename_i hn
    have habs : (-n).toNat = n.natAbs := by omega
    have hneg : n < 0 := by omega
    rw [String.toList_append, Nat.toList_repr, habs, decide_eq_true hneg]
    rfl

theorem signed_natAbs (n : Int) : signed (decide (n < 0)) n.natAbs = n := by
  rw [signed]
  split
  · rename_i hn
    have hneg : n < 0 := of_decide_eq_true hn
    omega
  · rename_i hn
    have hneg : ¬ n < 0 := fun h => hn (decide_eq_true h)
    omega

/-- **Integers of any size** are read back. -/
theorem readInt?_toString (n : Int) : readInt? (toString n) = some n := by
  have hread : readNat? (Nat.toDigits 10 n.natAbs) = some n.natAbs := by
    have hall : (Nat.toDigits 10 n.natAbs).all isDigit = true :=
      List.all_eq_true.2 (all_isDigit_toDigits _)
    rw [readNat?, hall, value_toDigits]
    simp
  rw [readInt?, splitSign_toString]
  simp only [hread, Option.map_some, signed_natAbs]

/-- What is read as a natural number: digits. -/
theorem digits_of_readNat? {cs : List Char} {n : Nat} (h : readNat? cs = some n) :
    cs ≠ [] ∧ (∀ c ∈ cs, isDigit c = true) ∧ n = value cs := by
  rw [readNat?] at h
  split at h
  · cases h
  · rename_i hdigits
    simp only [Bool.or_eq_true, List.isEmpty_iff, Bool.not_eq_true', not_or,
      Bool.not_eq_false] at hdigits
    exact ⟨hdigits.1, List.all_eq_true.1 hdigits.2, (Option.some.inj h).symm⟩

/-- **Integers that fit a word** are read alike by both readers. -/
theorem readWord_of_readInt? {bits : Nat} {text : String} {n : Int} (hbits : 0 < bits)
    (h : readInt? text = some n) (hlow : -Nat.pow 2 (bits - 1) ≤ n)
    (hhigh : n < Nat.pow 2 (bits - 1)) : readWord bits text = .ok n := by
  rw [readInt?] at h
  rcases hsplit : splitSign text.toList with ⟨negative, digits⟩
  simp only [hsplit] at h
  obtain ⟨v, hv, rfl⟩ := Option.map_eq_some_iff.1 h
  obtain ⟨hne, hdigits, rfl⟩ := digits_of_readNat? hv
  have hpow : Nat.pow 2 bits = 2 * Nat.pow 2 (bits - 1) := by
    show 2 ^ bits = 2 * 2 ^ (bits - 1)
    rw [← Nat.pow_succ', Nat.succ_eq_add_one, Nat.sub_add_cancel hbits]
  have hpos : 0 < Nat.pow 2 (bits - 1) := Nat.two_pow_pos _
  have hfits : value digits < Nat.pow 2 bits ∧
      ¬ (if negative = true then Nat.pow 2 (bits - 1) < value digits
        else Nat.pow 2 (bits - 1) ≤ value digits) := by
    cases negative <;> simp only [signed, Bool.false_eq_true, if_true, if_false] at hlow hhigh ⊢ <;>
      omega
  have hread : readUpTo (Nat.pow 2 bits - 1) 0 digits = .ok (value digits) :=
    readUpTo_eq_ok 0 hdigits (Nat.le_sub_one_of_lt hfits.1)
  rw [readWord, hsplit]
  simp only [List.isEmpty_iff, hne, if_false, hread]
  show (if _ then _ else _) = _
  rw [if_neg hfits.2]
  rfl

/-- **Integers that fit a word** are read back as such. -/
theorem readWord_toString {bits : Nat} {n : Int} (hbits : 0 < bits)
    (hlow : -Nat.pow 2 (bits - 1) ≤ n) (hhigh : n < Nat.pow 2 (bits - 1)) :
    readWord bits (toString n) = .ok n :=
  readWord_of_readInt? hbits (readInt?_toString n) hlow hhigh

/-- What remains of an integer in a word fits the word. -/
theorem wrap_fits {bits : Nat} (hbits : 0 < bits) (n : Int) :
    -Nat.pow 2 (bits - 1) ≤ wrap bits n ∧ wrap bits n < Nat.pow 2 (bits - 1) := by
  have hpow : Nat.pow 2 bits = 2 * Nat.pow 2 (bits - 1) := by
    show 2 ^ bits = 2 * 2 ^ (bits - 1)
    rw [← Nat.pow_succ', Nat.succ_eq_add_one, Nat.sub_add_cancel hbits]
  have hpos : 0 < Nat.pow 2 bits := Nat.two_pow_pos _
  have hlow := Int.le_bmod (x := n) hpos
  have hhigh := Int.bmod_lt (x := n) hpos
  rw [wrap]
  omega

end Number
end Shapewright
