import Shapewright.Text.Percent

/-!
# Percent coding loses nothing

* `Percent.unescape?_escape` — what is escaped can be read back, as long as `%` is among the bytes
  that are escaped.
* `Percent.slash_not_mem_escape` — a slash that is escaped does not occur in what is written.
* `Percent.escape_intercalate` — escaping pieces one by one is escaping the whole, with the
  separator kept.
-/

set_option autoImplicit false

namespace Shapewright
namespace Percent

/-! ## One byte -/

/-- How a byte is written. -/
def escapeByte (keep : UInt8 → Bool) (b : UInt8) : Bytes :=
  if keep b then [b]
  else [byte '%', byte (Bytes.hexDigit true (b.toNat / 16)),
    byte (Bytes.hexDigit true (b.toNat % 16))]

theorem escape_cons (keep : UInt8 → Bool) (b : UInt8) (bs : Bytes) :
    escape keep (b :: bs) = escapeByte keep b ++ escape keep bs := rfl

theorem escape_append (keep : UInt8 → Bool) (bs cs : Bytes) :
    escape keep (bs ++ cs) = escape keep bs ++ escape keep cs :=
  List.flatMap_append

theorem digit?_hexDigit : ∀ n < 16, digit? (byte (Bytes.hexDigit true n)) = some n := by decide

theorem escapeByte_ne_nil (keep : UInt8 → Bool) (b : UInt8) : escapeByte keep b ≠ [] := by
  rw [escapeByte]
  split <;> simp

theorem escape_ne_nil {bs : Bytes} (keep : UInt8 → Bool) (h : bs ≠ []) : escape keep bs ≠ [] := by
  cases bs with
  | nil => exact absurd rfl h
  | cons b bs =>
    rw [escape_cons]
    exact fun hnil => escapeByte_ne_nil keep b (List.append_eq_nil_iff.1 hnil).1

/-- A byte that stands for itself is read as it is. -/
theorem unescape?_cons_of_ne {b : UInt8} (h : b ≠ byte '%') (rest : Bytes) :
    unescape? false (b :: rest) = (unescape? false rest).map (b :: ·) := by
  rcases rest with _ | ⟨hi, _ | ⟨lo, tail⟩⟩ <;> simp [unescape?, h]

theorem unescape?_escapeByte {keep : UInt8 → Bool} (h : keep (byte '%') = false) (b : UInt8)
    (rest : Bytes) :
    unescape? false (escapeByte keep b ++ rest) = (unescape? false rest).map (b :: ·) := by
  rw [escapeByte]
  by_cases hb : keep b = true
  · have hne : b ≠ byte '%' := fun he => by rw [he, h] at hb; cases hb
    rw [if_pos hb]
    exact unescape?_cons_of_ne hne rest
  · have hlt : b.toNat < 256 := b.toNat_lt
    have hback : UInt8.ofNat (b.toNat / 16 * 16 + b.toNat % 16) = b := by
      rw [Nat.div_add_mod']
      exact UInt8.ofNat_toNat
    rw [if_neg hb, List.cons_append, List.cons_append, List.cons_append, List.nil_append, unescape?]
    simp only [beq_self_eq_true, if_true, digit?_hexDigit _ (by omega : b.toNat / 16 < 16),
      digit?_hexDigit _ (by omega : b.toNat % 16 < 16), Option.bind_eq_bind, Option.bind_some,
      hback]
    cases unescape? false rest <;> rfl

/-! ## Byte strings -/

/-- **What is escaped can be read back.** -/
theorem unescape?_escape {keep : UInt8 → Bool} (h : keep (byte '%') = false) (bs : Bytes) :
    unescape? false (escape keep bs) = some bs := by
  induction bs with
  | nil => rfl
  | cons b bs ih =>
    rw [escape_cons, unescape?_escapeByte h, ih]
    rfl

theorem mem_escapeByte {keep : UInt8 → Bool} {b c : UInt8} (h : c ∈ escapeByte keep b) :
    (c = b ∧ keep b = true) ∨ c = byte '%' ∨ ∃ n < 16, c = byte (Bytes.hexDigit true n) := by
  have hlt : b.toNat < 256 := b.toNat_lt
  rw [escapeByte] at h
  split at h
  · rename_i hb
    exact .inl ⟨List.mem_singleton.1 h, hb⟩
  · simp only [List.mem_cons, List.not_mem_nil, or_false] at h
    rcases h with rfl | rfl | rfl
    · exact .inr (.inl rfl)
    · exact .inr (.inr ⟨b.toNat / 16, by omega, rfl⟩)
    · exact .inr (.inr ⟨b.toNat % 16, by omega, rfl⟩)

/-- What is written are bytes that are kept, and escapes. -/
theorem mem_escape {keep : UInt8 → Bool} {bs : Bytes} {c : UInt8} (h : c ∈ escape keep bs) :
    keep c = true ∨ c = byte '%' ∨ ∃ n < 16, c = byte (Bytes.hexDigit true n) := by
  obtain ⟨b, -, hc⟩ := List.mem_flatMap.1 h
  rcases mem_escapeByte hc with ⟨rfl, hb⟩ | hc
  · exact .inl hb
  · exact .inr hc

theorem slash_not_mem_escape {keep : UInt8 → Bool} (h : keep (byte '/') = false) (bs : Bytes) :
    byte '/' ∉ escape keep bs := by
  intro hmem
  rcases mem_escape hmem with hk | hc | ⟨n, hn, hc⟩
  · rw [h] at hk
    cases hk
  · exact absurd hc (by decide)
  · have hdigits : ∀ n < 16, byte '/' ≠ byte (Bytes.hexDigit true n) := by decide
    exact hdigits n hn hc

/-- Escaping the pieces of a byte string one by one keeps what is between them. -/
theorem escape_intercalate (keep : UInt8 → Bool) {x : UInt8}
    {pieces : List Bytes} (h : ∀ piece ∈ pieces, x ∉ piece) :
    List.intercalate [x] (pieces.map (escape keep))
      = escape (fun b => keep b || b == x) (List.intercalate [x] pieces) := by
  have hpiece : ∀ piece : Bytes, x ∉ piece →
      escape (fun b => keep b || b == x) piece = escape keep piece := by
    intro piece hmem
    rw [escape, escape, List.flatMap_def, List.flatMap_def]
    refine congrArg List.flatten (List.map_congr_left fun b hb => ?_)
    have hne : b ≠ x := fun he => hmem (he ▸ hb)
    simp [hne]
  induction pieces with
  | nil => rfl
  | cons piece rest ih =>
    have hfirst := hpiece piece (h piece (by simp))
    cases rest with
    | nil => simp [hfirst]
    | cons next rest =>
      have hself : escape (fun b => keep b || b == x) [x] = [x] := by simp [escape]
      have hrest := ih fun p hp => h p (List.mem_cons_of_mem _ hp)
      rw [List.map_cons] at hrest
      rw [List.map_cons, List.map_cons, List.intercalate_cons_cons, hrest,
        List.intercalate_cons_cons, escape_append, escape_append, hfirst, hself]

end Percent
end Shapewright
