import Mathlib.Algebra.Order.Ring.Int
import Mathlib.Data.List.Induction
import Shapewright.Proofs.Naming
import Shapewright.Text.Quoted

/-!
# Quoted texts are read back

A text between quotes stands on one line whatever is in it, and nothing of it is lost.

* `Text.hexNumber?_hexDigits` — a number that fits its digits is read back from them.
* `Text.unescape?_escape` — one character: whichever of the four ways it is written, it is read back
  and what follows is left alone.
* `Text.unquote?_quote` — the payoff for whole texts.
* `Text.isControl_of_mem_quote` — no control character is left between the quotes, line ends included.
-/

set_option autoImplicit false

namespace Shapewright
namespace Text

/-! ## Digits of base sixteen -/

theorem hexValue?_hexDigit : ∀ n < 16, Bytes.hexValue? (Bytes.hexDigit false n) = some n := by
  decide

/-- Reading digits one after the other. -/
theorem hexNumber?_concat (digits : List Char) (c : Char) :
    hexNumber? (digits ++ [c]) =
      (hexNumber? digits).bind fun n => (Bytes.hexValue? c).map (n * 16 + ·) := by
  rw [hexNumber?, List.foldlM_append]
  exact congrArg _ (funext fun n => by simp)

/-- Only digits are read. -/
theorem isSome_hexValue? {digits : List Char} {n : Nat} (h : hexNumber? digits = some n) :
    ∀ c ∈ digits, (Bytes.hexValue? c).isSome = true := by
  induction digits using List.reverseRecOn generalizing n with
  | nil => simp
  | append_singleton digits c ih =>
    rw [hexNumber?_concat] at h
    obtain ⟨m, hm, hc⟩ := Option.bind_eq_some_iff.1 h
    obtain ⟨k, hk, -⟩ := Option.map_eq_some_iff.1 hc
    rw [List.forall_mem_append]
    exact ⟨ih hm, by simp [hk]⟩

/-- **A number that fits** its digits is read back from them. -/
theorem hexNumber?_hexDigits (width : Nat) {n : Nat} (h : n < 16 ^ width) :
    hexNumber? (hexDigits width n) = some n := by
  induction width generalizing n with
  | zero =>
    obtain rfl : n = 0 := by omega
    rfl
  | succ width ih =>
    have hn : n / 16 < 16 ^ width := Nat.div_lt_of_lt_mul (by rw [← Nat.pow_succ']; exact h)
    rw [hexDigits, hexNumber?_concat, ih hn, Option.bind_some,
      hexValue?_hexDigit _ (Nat.mod_lt n (by decide)), Option.map_some]
    exact congrArg some (by omega)

/-- The digits of a number are digits. -/
theorem isPlain_of_mem_hexDigits {width n : Nat} {c : Char} (h : c ∈ hexDigits width n) :
    Naming.isPlain c = true := by
  have hdigit : ∀ n < 16, Naming.isPlain (Bytes.hexDigit false n) = true := by decide
  induction width generalizing n with
  | zero => cases h
  | succ width ih =>
    rw [hexDigits] at h
    rcases List.mem_append.1 h with h | h
    · exact ih h
    · rw [List.mem_singleton.1 h]
      exact hdigit _ (Nat.mod_lt n (by decide))

/-! ## One character -/

theorem charOf?_toNat (c : Char) : charOf? c.toNat = some c := by
  rw [charOf?, if_pos (show c.toNat.isValidChar from c.valid), Char.ofNat_toNat]

theorem asciiOf?_toNat {c : Char} (h : c.toNat < 0x80) : asciiOf? c.toNat = some c := by
  rw [asciiOf?, if_pos h, Char.ofNat_toNat]

/-- The letters of control characters stand for these alone, and none of them calls for digits. -/
theorem controlLetters_apart : ∀ e ∈ controlLetters, e.2 ≠ 'x' ∧ e.2 ≠ 'u' ∧ e.2 ≠ 'U' ∧
    (controlLetters.map fun (c, l) => (l, c)).lookup e.2 = some e.1 := by
  decide

/-- A character with a letter of its own. -/
theorem unescape?_letter {c letter : Char} (h : controlLetters.lookup c = some letter)
    (rest : List Char) :
    unescape? ('\\' :: letter :: rest) = (unescape? rest).map (c :: ·) := by
  obtain ⟨front, back, heq, -⟩ := List.lookup_eq_some_iff.1 h
  obtain ⟨hx, hu, hU, hback⟩ := controlLetters_apart (c, letter) (by simp [heq])
  rw [unescape?] <;> simp_all

theorem unescape?_byte {c : Char} (h : c.toNat < 0x80) (rest : List Char) :
    unescape? ('\\' :: 'x' :: hexDigits 2 c.toNat ++ rest) =
      (unescape? rest).map (c :: ·) := by
  have hn := hexNumber?_hexDigits 2 (n := c.toNat) (by omega)
  simp only [hexDigits, List.nil_append, List.cons_append] at hn ⊢
  simp [unescape?, hn, asciiOf?_toNat h, Option.map_eq_bind]

theorem unescape?_short {c : Char} (h : c.toNat < 0x10000) (rest : List Char) :
    unescape? ('\\' :: 'u' :: hexDigits 4 c.toNat ++ rest) =
      (unescape? rest).map (c :: ·) := by
  have hn := hexNumber?_hexDigits 4 (n := c.toNat) (by omega)
  simp only [hexDigits, List.nil_append, List.cons_append] at hn ⊢
  simp [unescape?, hn, charOf?_toNat, Option.map_eq_bind]

theorem unescape?_long (c : Char) (rest : List Char) :
    unescape? ('\\' :: 'U' :: hexDigits 8 c.toNat ++ rest) =
      (unescape? rest).map (c :: ·) := by
  have hn := hexNumber?_hexDigits 8 (n := c.toNat) c.val.toNat_lt
  simp only [hexDigits, List.nil_append, List.cons_append] at hn ⊢
  simp [unescape?, hn, charOf?_toNat, Option.map_eq_bind]

theorem ne_of_isPrintable {c : Char} (h : isPrintable c = true) : c ≠ '\n' := by
  rintro rfl
  revert h
  decide

/-- **One character** is read back in whichever way it is written. -/
theorem unescape?_escape (c : Char) (rest : List Char) :
    unescape? (escape c ++ rest) = (unescape? rest).map (c :: ·) := by
  rw [escape]
  split
  · rename_i hmark
    rcases Bool.or_eq_true_iff.1 hmark with h | h <;> rw [eq_of_beq h] <;> rfl
  · rename_i hmark
    simp only [Bool.or_eq_true, beq_iff_eq, not_or] at hmark
    split
    · rename_i hprintable
      exact unescape?_cons hmark.1 hmark.2 (ne_of_isPrintable hprintable)
    · split
      · rename_i letter hletter
        exact unescape?_letter hletter rest
      · split
        · rename_i hascii
          exact unescape?_byte hascii rest
        · split
          · rename_i hshort
            exact unescape?_short hshort rest
          · exact unescape?_long c rest

/-! ## Whole texts -/

/-- **Quoted texts** are read back. -/
theorem unquote?_quote (s : String) : unquote? (quote s) = some s := by
  have hall (cs : List Char) : unescape? (cs.flatMap escape ++ ['"']) = some cs := by
    induction cs with
    | nil => rfl
    | cons c cs ih =>
      rw [List.flatMap_cons, List.append_assoc, unescape?_escape, ih, Option.map_some]
  rw [unquote?, quote, String.toList_ofList, List.cons_append]
  simp only [hall, Option.map_some, String.ofList_toList]

/-- The control characters, line ends among them. -/
def isControl (c : Char) : Bool :=
  c.toNat < 0x20 || (0x7F ≤ c.toNat && c.toNat < 0xA0)

theorem isControl_of_isPrintable {c : Char} (h : isPrintable c = true) : isControl c = false := by
  have hranges : ∀ e ∈ printableRanges, 0xA1 ≤ e.1 := by decide +kernel
  rw [isPrintable] at h
  split at h
  · rename_i hascii
    simp only [Bool.and_eq_true, decide_eq_true_eq] at h
    simp only [isControl, Bool.or_eq_false_iff, Bool.and_eq_false_iff, decide_eq_false_iff_not]
    omega
  · obtain ⟨⟨lo, hi⟩, hmem, hc⟩ := List.any_eq_true.1 h
    have hlo := hranges _ hmem
    simp only [Bool.and_eq_true, decide_eq_true_eq] at hc
    simp only [isControl, Bool.or_eq_false_iff, Bool.and_eq_false_iff, decide_eq_false_iff_not]
    omega

theorem isControl_of_isPlain {c : Char} (h : Naming.isPlain c = true) : isControl c = false := by
  simp only [Naming.isPlain, Naming.isUpper, Naming.isLower, Naming.isDigit, Bool.or_eq_true,
    Bool.and_eq_true, decide_eq_true_eq, Char.le_def, UInt32.le_iff_toNat_le] at h
  have hc : 0x30 ≤ c.toNat ∧ c.toNat ≤ 0x7A := by
    rcases h with (h | h) | h
    · exact ⟨Nat.le_trans (by decide) h.1, Nat.le_trans h.2 (by decide)⟩
    · exact ⟨Nat.le_trans (by decide) h.1, h.2⟩
    · exact ⟨h.1, Nat.le_trans h.2 (by decide)⟩
  simp only [isControl, Bool.or_eq_false_iff, Bool.and_eq_false_iff, decide_eq_false_iff_not]
  omega

/-- Nothing that a character is written with is a control character. -/
theorem isControl_of_mem_escape {c d : Char} (h : d ∈ escape c) : isControl d = false := by
  have hslash : isControl '\\' = false := by decide
  have hnumber {mark : Char} (hmark : isControl mark = false) {width : Nat}
      (h : d ∈ '\\' :: mark :: hexDigits width c.toNat) : isControl d = false := by
    rcases List.mem_cons.1 h with rfl | h
    · exact hslash
    · rcases List.mem_cons.1 h with rfl | h
      · exact hmark
      · exact isControl_of_isPlain (isPlain_of_mem_hexDigits h)
  rw [escape] at h
  split at h
  · rename_i hmark
    rcases List.mem_cons.1 h with rfl | h
    · exact hslash
    · rw [List.mem_singleton.1 h]
      rcases Bool.or_eq_true_iff.1 hmark with h | h <;> rw [eq_of_beq h] <;> decide
  · split at h
    · rename_i hprintable
      rw [List.mem_singleton.1 h]
      exact isControl_of_isPrintable hprintable
    · split at h
      · rename_i letter hletter
        have hletters : ∀ e ∈ controlLetters, isControl e.2 = false := by decide
        obtain ⟨front, back, heq, -⟩ := List.lookup_eq_some_iff.1 hletter
        rcases List.mem_cons.1 h with rfl | h
        · exact hslash
        · rw [List.mem_singleton.1 h]
          exact hletters (c, letter) (by simp [heq])
      · split at h
        · exact hnumber (by decide) h
        · split at h
          · exact hnumber (by decide) h
          · exact hnumber (by decide) h

/-- **A quoted text** stands on one line and holds no control characters. -/
theorem isControl_of_mem_quote {s : String} {c : Char} (h : c ∈ (quote s).toList) :
    isControl c = false := by
  have hquote : isControl '"' = false := by decide
  rw [quote, String.toList_ofList, List.cons_append] at h
  rcases List.mem_cons.1 h with rfl | h
  · exact hquote
  · rcases List.mem_append.1 h with h | h
    · obtain ⟨d, -, hc⟩ := List.mem_flatMap.1 h
      exact isControl_of_mem_escape hc
    · rw [List.mem_singleton.1 h]
      exact hquote

end Text
end Shapewright
