import Shapewright.Proofs.Text.Pieces
import Shapewright.Proofs.Wire.Bytes
import Shapewright.Text.Blank
import Shapewright.Text.Percent

/-!
# Bytes in pieces

Bytes from a request are looked at as characters where they are, and stray bytes elsewhere.  Nothing
is lost by that: the pieces together are the bytes.  So what is trimmed is found again in the bytes.

* `Bytes.Cut` — bytes that are cut into pieces; `Bytes.cut_pieces` — which is what reading them does.
* `Bytes.flatMap_bytes_pieces` — the pieces put together again.
* `Bytes.exists_trim` — trimming takes white space from the ends and nothing else.
* `Bytes.trim_encode` — on texts it is trimming a text.
-/

set_option autoImplicit false

namespace Shapewright
namespace Bytes

/-! ## Characters of several bytes -/

section

variable {a b c d : UInt8} {ch : Char}

theorem isTail_iff {b : UInt8} : isTail b = true ↔ 0x80 ≤ b.toNat ∧ b.toNat ≤ 0xBF := by
  simp [isTail]

theorem toNat_char {n : Nat} (h : n < 0xD800 ∨ 0xDFFF < n ∧ n < 0x110000) :
    (Char.ofNat n).toNat = n := by
  rw [Char.ofNat, dif_pos h]
  rfl

theorem of_char2? (h : char2? a b = some ch) : (0xC2 ≤ a.toNat ∧ a.toNat ≤ 0xDF) ∧
    (0x80 ≤ b.toNat ∧ b.toNat ≤ 0xBF) ∧
    ch.toNat = (a.toNat - 0xC0) * 0x40 + (b.toNat - 0x80) := by
  rw [char2?] at h
  split at h
  · rename_i hif
    simp only [Bool.and_eq_true, decide_eq_true_eq, isTail_iff] at hif
    rw [← Option.some.inj h, toNat_char (by omega)]
    exact ⟨hif.1, hif.2, rfl⟩
  · cases h

theorem of_char3? (h : char3? a b c = some ch) : (0xE0 ≤ a.toNat ∧ a.toNat ≤ 0xEF) ∧
    (0x80 ≤ b.toNat ∧ b.toNat ≤ 0xBF) ∧ (0x80 ≤ c.toNat ∧ c.toNat ≤ 0xBF) ∧
    (a.toNat = 0xE0 → 0xA0 ≤ b.toNat) ∧
    ch.toNat = (a.toNat - 0xE0) * 0x1000 + (b.toNat - 0x80) * 0x40 + (c.toNat - 0x80) := by
  rw [char3?] at h
  split at h
  · rename_i hif
    simp only [Bool.and_eq_true, Bool.or_eq_true, bne_iff_ne, decide_eq_true_eq, isTail_iff] at hif
    obtain ⟨⟨⟨⟨ha, hb⟩, hc⟩, hlong⟩, hpair⟩ := hif
    rw [← Option.some.inj h, toNat_char (by omega)]
    exact ⟨ha, hb, hc, by omega, rfl⟩
  · cases h

theorem of_char4? (h : char4? a b c d = some ch) : (0xF0 ≤ a.toNat ∧ a.toNat ≤ 0xF4) ∧
    (0x80 ≤ b.toNat ∧ b.toNat ≤ 0xBF) ∧ (0x80 ≤ c.toNat ∧ c.toNat ≤ 0xBF) ∧
    (0x80 ≤ d.toNat ∧ d.toNat ≤ 0xBF) ∧ (a.toNat = 0xF0 → 0x90 ≤ b.toNat) ∧
    ch.toNat = (a.toNat - 0xF0) * 0x40000 + (b.toNat - 0x80) * 0x1000
      + (c.toNat - 0x80) * 0x40 + (d.toNat - 0x80) := by
  rw [char4?] at h
  split at h
  · rename_i hif
    simp only [Bool.and_eq_true, Bool.or_eq_true, bne_iff_ne, decide_eq_true_eq, isTail_iff] at hif
    obtain ⟨⟨⟨⟨⟨ha, hb⟩, hc⟩, hd⟩, hlong⟩, hlast⟩ := hif
    rw [← Option.some.inj h, toNat_char (by omega)]
    exact ⟨ha, hb, hc, hd, by omega, rfl⟩
  · cases h

end

/-! ## Pieces -/

/-- A byte of ASCII is no part of a longer character. -/
theorem Spells.eq_of_mem {bs : Bytes} {ch : Char} (h : Spells bs ch) {x : UInt8} (hx : x.toNat < 0x80)
    (hmem : x ∈ bs) : ch = Char.ofNat x.toNat := by
  cases h with
  | one => rw [List.mem_singleton.1 hmem]
  | two h =>
    obtain ⟨ha, hb, -⟩ := of_char2? h
    simp only [List.mem_cons, List.not_mem_nil, or_false] at hmem
    rcases hmem with rfl | rfl <;> omega
  | three _ h =>
    obtain ⟨ha, hb, hc, -⟩ := of_char3? h
    simp only [List.mem_cons, List.not_mem_nil, or_false] at hmem
    rcases hmem with rfl | rfl | rfl <;> omega
  | four _ _ h =>
    obtain ⟨ha, hb, hc, hd, -⟩ := of_char4? h
    simp only [List.mem_cons, List.not_mem_nil, or_false] at hmem
    rcases hmem with rfl | rfl | rfl | rfl <;> omega

theorem ofNat_eq {n : Nat} {a : UInt8} (h : n = a.toNat) : UInt8.ofNat n = a := by
  rw [h, UInt8.ofNat_toNat]

/-- Only its own bytes spell a character. -/
theorem Spells.utf8EncodeChar_eq {bs : Bytes} {ch : Char} (h : Spells bs ch) :
    String.utf8EncodeChar ch = bs := by
  have htoNat : ch.val.toNat = ch.toNat := rfl
  cases h with
  | @one a h =>
    have hch := toNat_char (n := a.toNat) (by omega)
    rw [utf8EncodeChar_of_ascii (by omega), ofNat_eq hch]
  | @two a b _ h =>
    obtain ⟨ha, hb, hch⟩ := of_char2? h
    unfold String.utf8EncodeChar
    simp only [htoNat, hch]
    rw [if_neg (by omega), if_pos (by omega), @ofNat_eq _ a (by omega), @ofNat_eq _ b (by omega)]
  | @three a b c _ _ h =>
    obtain ⟨ha, hb, hc, hlong, hch⟩ := of_char3? h
    unfold String.utf8EncodeChar
    simp only [htoNat, hch]
    rw [if_neg (by omega), if_neg (by omega), if_pos (by omega), @ofNat_eq _ a (by omega),
      @ofNat_eq _ b (by omega), @ofNat_eq _ c (by omega)]
  | @four a b c d _ _ _ h =>
    obtain ⟨ha, hb, hc, hd, hlong, hch⟩ := of_char4? h
    unfold String.utf8EncodeChar
    simp only [htoNat, hch]
    rw [if_neg (by omega), if_neg (by omega), if_neg (by omega), @ofNat_eq _ a (by omega),
      @ofNat_eq _ b (by omega), @ofNat_eq _ c (by omega), @ofNat_eq _ d (by omega)]

/-- Bytes that are cut into pieces. -/
inductive Cut : Bytes → List Piece → Prop
  | nil : Cut [] []
  | char {front bs : Bytes} {ch : Char} {ps : List Piece} (h : Spells front ch) (rest : Cut bs ps) :
    Cut (front ++ bs) (.char ch :: ps)
  | stray {a : UInt8} {bs : Bytes} {ps : List Piece} (h : 0x80 ≤ a.toNat) (rest : Cut bs ps) :
    Cut (a :: bs) (.stray a :: ps)

theorem Cut.cons {bs : Bytes} {ps : List Piece} (h : Cut bs ps) (a : UInt8) :
    Cut (a :: bs) (piece1 a :: ps) := by
  rw [piece1]
  split
  · rename_i ha
    exact .char (.one ha) h
  · rename_i ha
    exact .stray (by omega) h

/-- Reading bytes cuts them into pieces. The cases are those of how many bytes are in sight, and of
how many of them make a character. -/
theorem cut_pieces (bs : Bytes) : Cut bs (pieces bs) := by
  fun_induction pieces bs with
  | case1 => exact .nil
  | case2 a => exact Cut.nil.cons a
  | case3 a b ch h => exact .char (.two h) .nil
  | case4 a b _ ih => exact ih.cons a
  | case5 a b c ch h ih => exact .char (.two h) ih
  | case6 a b c ch h h2 => exact .char (.three (Option.eq_none_iff_forall_ne_some.2 h2) h) .nil
  | case7 a b c _ _ ih => exact ih.cons a
  | case8 a b c d rest ch h ih => exact .char (.two h) ih
  | case9 a b c d rest ch h h2 ih =>
    exact .char (.three (Option.eq_none_iff_forall_ne_some.2 h2) h) ih
  | case10 a b c d rest ch h h2 h3 ih =>
    exact .char (.four (Option.eq_none_iff_forall_ne_some.2 h2)
      (Option.eq_none_iff_forall_ne_some.2 h3) h) ih
  | case11 a b c d rest _ _ _ ih => exact ih.cons a

/-- **The pieces together** are the bytes. -/
theorem flatMap_bytes_pieces (bs : Bytes) : (pieces bs).flatMap Piece.bytes = bs := by
  have h := cut_pieces bs
  generalize pieces bs = ps at h
  induction h with
  | nil => rfl
  | char h _ ih => rw [List.flatMap_cons, ih, Piece.bytes, h.utf8EncodeChar_eq]
  | stray _ _ ih => rw [List.flatMap_cons, ih, Piece.bytes, List.singleton_append]

/-! ## White space at the ends -/

/-- **Trimming** takes white space from the ends and nothing else. -/
theorem exists_trim (bs : Bytes) : ∃ front back : List Piece,
    (∀ p ∈ front ++ back, p.isBlank = true) ∧
      bs = front.flatMap Piece.bytes ++ trim bs ++ back.flatMap Piece.bytes := by
  obtain ⟨back, hback, hsplit⟩ :=
    Text.exists_dropWhileEnd Piece.isBlank ((pieces bs).dropWhile Piece.isBlank)
  refine ⟨(pieces bs).takeWhile Piece.isBlank, back, ?_, ?_⟩
  · exact List.forall_mem_append.2 ⟨fun p hp => List.mem_takeWhile_imp hp, hback⟩
  · rw [trim, ← List.flatMap_append, ← List.flatMap_append, List.append_assoc, ← hsplit,
      List.takeWhile_append_dropWhile, flatMap_bytes_pieces]

/-- What has a character that is no white space is not blank. -/
theorem trim_ne_nil {x : UInt8} (hx : x.toNat < 0x80)
    (hblank : Text.isBlank (Char.ofNat x.toNat) = false) {bs : Bytes} (h : x ∈ bs) : trim bs ≠ [] := by
  intro hnil
  obtain ⟨front, back, hall, hbs⟩ := exists_trim bs
  rw [hnil, List.append_nil, ← List.flatMap_append] at hbs
  rw [hbs] at h
  obtain ⟨p, hp, hmem⟩ := List.mem_flatMap.1 h
  have hpblank := hall p hp
  cases p with
  | char c =>
    rw [Piece.isBlank, (spells_utf8EncodeChar c).eq_of_mem hx hmem, hblank] at hpblank
    cases hpblank
  | stray b => cases hpblank

/-- A space in front makes no difference. -/
theorem trim_space (bs : Bytes) : trim (Percent.byte ' ' :: bs) = trim bs := by
  have hpieces : pieces (Percent.byte ' ' :: bs) = .char ' ' :: pieces bs :=
    pieces_of_spells (spells_utf8EncodeChar ' ') bs
  rw [trim, hpieces, List.dropWhile_cons_of_pos (by decide), trim]

/-- **The bytes of a text** are trimmed as the text is. -/
theorem trim_encode (s : String) : trim (encode s) = encode (Text.trim s) := by
  rw [trim, encode, pieces_flatMap, Text.trim, Text.trimBy, encode, String.toList_ofList,
    List.dropWhile_map, Text.dropWhileEnd, Text.dropWhileEnd, ← List.map_reverse, List.dropWhile_map,
    ← List.map_reverse, List.flatMap_map]
  rfl

end Bytes
end Shapewright
