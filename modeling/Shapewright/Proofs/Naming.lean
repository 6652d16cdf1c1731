import Shapewright.Naming

/-!
# Characters of identifiers

Whatever a model calls its shapes and members, the identifiers made from these names consist of ASCII
letters and digits.  So nothing that has a meaning of its own in the text of a type or of a qualified
name gets into them.

* `Naming.isPlain` — ASCII letters and digits.
* `Naming.isPlain_of_mem_exported` — the characters of a declared name.
* `Naming.isPlain_or_of_mem_local`, `Naming.local_not_mem_keywords` — the characters of a variable, which
  is no keyword.
-/

set_option autoImplicit false

namespace Shapewright
namespace Naming

/-- ASCII letters and digits. -/
def isPlain (c : Char) : Bool := isUpper c || isLower c || isDigit c

/-- A check that holds of every character up to a bound, code by code, holds of every such
character. -/
theorem of_all_codes {P : Char → Bool} {n : Nat} (h : ∀ i < n, P (Char.ofNat i) = true) {c : Char}
    (hc : c.toNat < n) : P c = true := by
  have hP := h c.toNat hc
  rwa [Char.ofNat_toNat] at hP

theorem toNat_lt_of_isLower {c : Char} (h : isLower c = true) : c.toNat < 128 := by
  have hle : c ≤ 'z' := of_decide_eq_true (Bool.and_eq_true_iff.1 h).2
  exact Nat.lt_of_le_of_lt (UInt32.le_iff_toNat_le.1 hle) (by decide)

theorem toNat_lt_of_isUpper {c : Char} (h : isUpper c = true) : c.toNat < 128 := by
  have hle : c ≤ 'Z' := of_decide_eq_true (Bool.and_eq_true_iff.1 h).2
  exact Nat.lt_of_le_of_lt (UInt32.le_iff_toNat_le.1 hle) (by decide)

/-- Changing the case of a letter leaves a letter. -/
theorem isPlain_toUpper {c : Char} (h : isLower c = true) : isPlain c.toUpper = true := by
  have hall : ∀ i < 128, (!isLower (Char.ofNat i) || isPlain (Char.ofNat i).toUpper) = true := by
    decide
  simpa [h] using of_all_codes (P := fun c => !isLower c || isPlain c.toUpper) hall
    (toNat_lt_of_isLower h)

theorem isPlain_toLower {c : Char} (h : isUpper c = true) : isPlain c.toLower = true := by
  have hall : ∀ i < 128, (!isUpper (Char.ofNat i) || isPlain (Char.ofNat i).toLower) = true := by
    decide
  simpa [h] using of_all_codes (P := fun c => !isUpper c || isPlain c.toLower) hall
    (toNat_lt_of_isUpper h)

/-- Joining words leaves letters and digits only. -/
theorem isPlain_of_mem_camel {first capital afterUpper : Bool} {name : List Char} {c : Char}
    (h : c ∈ camel first capital afterUpper name) : isPlain c = true := by
  induction name generalizing first capital afterUpper with
  | nil => cases h
  | cons d rest ih =>
    rw [camel] at h
    split at h
    · rename_i hletter
      rcases List.mem_cons.1 h with rfl | h
      · have hplain : isPlain d = true := by simp [isPlain, Bool.or_eq_true_iff.1 hletter]
        split
        · split
          · rename_i hlower
            exact isPlain_toUpper hlower
          · exact hplain
        · split
          · split
            · rename_i hupper
              exact isPlain_toLower hupper
            · exact hplain
          · split
            · rename_i hupper
              exact isPlain_toLower (Bool.and_eq_true_iff.1 hupper).2
            · exact hplain
      · exact ih h
    · rename_i hletter
      split at h
      · rename_i hdigit
        rcases List.mem_cons.1 h with rfl | h
        · have hcase : isLower d = false ∧ isUpper d = false := by
            simpa [and_comm] using hletter
          simp [hcase, isPlain, hdigit]
        · exact ih h
      · exact ih h

/-- **Declared names** consist of ASCII letters and digits. -/
theorem isPlain_of_mem_exported {name : String} {c : Char} (h : c ∈ (exported name).toList) :
    isPlain c = true := by
  rw [exported, String.toList_ofList] at h
  exact isPlain_of_mem_camel h

/-- **Variables** consist of ASCII letters and digits, but for what keeps them off the keywords. -/
theorem isPlain_or_of_mem_local {name : String} {c : Char} (h : c ∈ (local_ name).toList) :
    isPlain c = true ∨ c = '_' := by
  rw [local_] at h
  split at h
  · rw [String.toList_append, String.toList_ofList] at h
    exact (List.mem_append.1 h).imp isPlain_of_mem_camel List.mem_singleton.1
  · rw [String.toList_ofList] at h
    exact .inl (isPlain_of_mem_camel h)

theorem local_not_mem_keywords (name : String) : local_ name ∉ keywords := by
  have hmarked : ∀ word ∈ keywords, word ++ "_" ∉ keywords := by decide
  rw [local_]
  split
  · rename_i h
    exact hmarked _ (List.contains_iff_mem.1 h)
  · rename_i h
    exact fun hmem => h (List.contains_iff_mem.2 hmem)

end Naming
end Shapewright
