import Shapewright.Proofs.Number.Digits
import Shapewright.Wire.Parse

/-!
# Texts and bytes on the wire

* `Bytes.readable_encode` — the bytes of a text are read back as that text.
* `Base64.decode_encode` — bytes that are written in base 64 are read back.
* `Wire.parseBigInteger_toString`, `Wire.parseBlob_encode` — so are the values that arrive as text.
-/

set_option autoImplicit false

namespace Shapewright
namespace Bytes

/-! ## UTF-8 -/

section

variable {a b c d : UInt8}

theorem char2?_of_lead (hlow : 0xC2 ≤ a.toNat) (hhigh : a.toNat ≤ 0xDF) (hb : isTail b = true) :
    char2? a b = some (Char.ofNat ((a.toNat - 0xC0) * 0x40 + (b.toNat - 0x80))) := by
  rw [char2?, hb, decide_eq_true hlow, decide_eq_true hhigh]
  rfl

theorem char2?_of_out (h : ¬ (0xC2 ≤ a.toNat ∧ a.toNat ≤ 0xDF)) (b : UInt8) : char2? a b = none :=
  if_neg fun hif => h (by simp only [Bool.and_eq_true, decide_eq_true_eq] at hif; exact hif.1)

/-- Three bytes, unless they would be a surrogate or could do with two. -/
theorem char3?_of_lead (hlow : 0xE0 ≤ a.toNat) (hhigh : a.toNat ≤ 0xEF) (hb : isTail b = true)
    (hc : isTail c = true) (hlong : a.toNat = 0xE0 → 0xA0 ≤ b.toNat)
    (hpair : a.toNat = 0xED → b.toNat ≤ 0x9F) :
    char3? a b c =
      some (Char.ofNat ((a.toNat - 0xE0) * 0x1000 + (b.toNat - 0x80) * 0x40 + (c.toNat - 0x80))) := by
  have hlong' : (a.toNat != 0xE0 || decide (0xA0 ≤ b.toNat)) = true := by
    simpa [Decidable.imp_iff_not_or] using hlong
  have hpair' : (a.toNat != 0xED || decide (b.toNat ≤ 0x9F)) = true := by
    simpa [Decidable.imp_iff_not_or] using hpair
  rw [char3?, hb, hc, hlong', hpair', decide_eq_true hlow, decide_eq_true hhigh]
  rfl

theorem char3?_of_out (h : ¬ (0xE0 ≤ a.toNat ∧ a.toNat ≤ 0xEF)) (b c : UInt8) :
    char3? a b c = none :=
  if_neg fun hif => h (by simp only [Bool.and_eq_true, decide_eq_true_eq] at hif; exact hif.1.1.1.1)

/-- Four bytes, unless they could do with three or would be no character. -/
theorem char4?_of_lead (hlow : 0xF0 ≤ a.toNat) (hhigh : a.toNat ≤ 0xF4) (hb : isTail b = true)
    (hc : isTail c = true) (hd : isTail d = true) (hlong : a.toNat = 0xF0 → 0x90 ≤ b.toNat)
    (hlast : a.toNat = 0xF4 → b.toNat ≤ 0x8F) :
    char4? a b c d = some (Char.ofNat ((a.toNat - 0xF0) * 0x40000 + (b.toNat - 0x80) * 0x1000
      + (c.toNat - 0x80) * 0x40 + (d.toNat - 0x80))) := by
  have hlong' : (a.toNat != 0xF0 || decide (0x90 ≤ b.toNat)) = true := by
    simpa [Decidable.imp_iff_not_or] using hlong
  have hlast' : (a.toNat != 0xF4 || decide (b.toNat ≤ 0x8F)) = true := by
    simpa [Decidable.imp_iff_not_or] using hlast
  rw [char4?, hb, hc, hd, hlong', hlast', decide_eq_true hlow, decide_eq_true hhigh]
  rfl

theorem char4?_of_out (h : ¬ (0xF0 ≤ a.toNat ∧ a.toNat ≤ 0xF4)) (b c d : UInt8) :
    char4? a b c d = none :=
  if_neg fun hif => h (by simp only [Bool.and_eq_true, decide_eq_true_eq] at hif; exact hif.1.1.1.1.1)

end

/-- The bytes that spell a character, in the four lengths that there are. -/
inductive Spells : Bytes → Char → Prop
  | one {a : UInt8} (h : a.toNat < 0x80) : Spells [a] (Char.ofNat a.toNat)
  | two {a b : UInt8} {ch : Char} (h : char2? a b = some ch) : Spells [a, b] ch
  | three {a b c : UInt8} {ch : Char} (h2 : char2? a b = none) (h : char3? a b c = some ch) :
    Spells [a, b, c] ch
  | four {a b c d : UInt8} {ch : Char} (h2 : char2? a b = none) (h3 : char3? a b c = none)
    (h : char4? a b c d = some ch) : Spells [a, b, c, d] ch

/-- The bytes of a character are read as that character. What follows them does not matter, but
`pieces` looks at up to four bytes, so the cases go through the number of those that are left. -/
theorem pieces_of_spells {bs : Bytes} {ch : Char} (h : Spells bs ch) (rest : Bytes) :
    pieces (bs ++ rest) = .char ch :: pieces rest := by
  cases h with
  | @one a h =>
    have h2 := char2?_of_out (a := a) (by omega)
    have h3 := char3?_of_out (a := a) (by omega)
    have h4 := char4?_of_out (a := a) (by omega)
    rcases rest with _ | ⟨b, _ | ⟨c, _ | ⟨d, rest⟩⟩⟩ <;>
      simp only [List.cons_append, List.nil_append, pieces, h2, h3, h4, piece1, if_pos h]
  | two h =>
    rcases rest with _ | ⟨c, _ | ⟨d, rest⟩⟩ <;>
      simp only [List.cons_append, List.nil_append, pieces, h]
  | three h2 h =>
    rcases rest with _ | ⟨d, rest⟩ <;>
      simp only [List.cons_append, List.nil_append, pieces, h2, h]
  | four h2 h3 h => simp only [List.cons_append, List.nil_append, pieces, h2, h3, h]

theorem toNat_ofNat {n : Nat} (h : n < 256) : (UInt8.ofNat n).toNat = n :=
  Nat.mod_eq_of_lt h

theorem utf8EncodeChar_of_ascii {c : Char} (h : c.toNat < 128) :
    String.utf8EncodeChar c = [UInt8.ofNat c.toNat] :=
  if_pos (Nat.le_of_lt_succ h)

/-- Six bits of a character in a byte that continues it. -/
theorem isTail_low (v : Nat) : isTail (UInt8.ofNat (v % 64 + 128)) = true := by
  have hlow : 0x80 ≤ v % 64 + 128 := by omega
  have hhigh : v % 64 + 128 ≤ 0xBF := by omega
  rw [isTail, toNat_ofNat (by omega), decide_eq_true hlow, decide_eq_true hhigh]
  rfl

theorem toNat_low (v : Nat) : (UInt8.ofNat (v % 64 + 128)).toNat - 0x80 = v % 64 := by
  rw [toNat_ofNat (by omega), Nat.add_sub_cancel]

/-- **A character** is spelled by its own bytes. -/
theorem spells_utf8EncodeChar (ch : Char) : Spells (String.utf8EncodeChar ch) ch := by
  have hvalid : ch.toNat < 0xD800 ∨ 0xDFFF < ch.toNat ∧ ch.toNat < 0x110000 := ch.valid
  have hback : Char.ofNat ch.toNat = ch := Char.ofNat_toNat ch
  have htoNat : ch.val.toNat = ch.toNat := rfl
  unfold String.utf8EncodeChar
  simp only [htoNat]
  generalize ch.toNat = v at *
  subst hback
  split
  · rename_i h1
    have ha : (UInt8.ofNat v).toNat = v := toNat_ofNat (by omega)
    have hspells := Spells.one (a := UInt8.ofNat v) (by omega)
    rwa [ha] at hspells
  split
  · rename_i h1 h2
    have ha : (UInt8.ofNat (v / 64 % 32 + 192)).toNat = v / 64 % 32 + 192 := toNat_ofNat (by omega)
    refine .two ?_
    rw [char2?_of_lead (by omega) (by omega) (isTail_low v), ha, toNat_low,
      show (v / 64 % 32 + 192 - 0xC0) * 0x40 + v % 64 = v by omega]
  split
  · rename_i h1 h2 h3
    have ha : (UInt8.ofNat (v / 4096 % 16 + 224)).toNat = v / 4096 % 16 + 224 :=
      toNat_ofNat (by omega)
    have hb : (UInt8.ofNat (v / 64 % 64 + 128)).toNat = v / 64 % 64 + 128 := toNat_ofNat (by omega)
    refine .three (char2?_of_out (by omega) _) ?_
    rw [char3?_of_lead (by omega) (by omega) (isTail_low _) (isTail_low _) (by omega) (by omega), ha,
      toNat_low, toNat_low,
      show (v / 4096 % 16 + 224 - 0xE0) * 0x1000 + v / 64 % 64 * 0x40 + v % 64 = v by omega]
  · rename_i h1 h2 h3
    have ha : (UInt8.ofNat (v / 262144 % 8 + 240)).toNat = v / 262144 % 8 + 240 :=
      toNat_ofNat (by omega)
    have hb : (UInt8.ofNat (v / 4096 % 64 + 128)).toNat = v / 4096 % 64 + 128 :=
      toNat_ofNat (by omega)
    refine .four (char2?_of_out (by omega) _) (char3?_of_out (by omega) _ _) ?_
    rw [char4?_of_lead (by omega) (by omega) (isTail_low _) (isTail_low _) (isTail_low _) (by omega)
      (by omega), ha, toNat_low, toNat_low, toNat_low,
      show (v / 262144 % 8 + 240 - 0xF0) * 0x40000 + v / 4096 % 64 * 0x1000 + v / 64 % 64 * 0x40
        + v % 64 = v by omega]

/-- The bytes of some characters are cut into these characters. -/
theorem pieces_flatMap (cs : List Char) : pieces (cs.flatMap String.utf8EncodeChar) = cs.map .char := by
  induction cs with
  | nil => rfl
  | cons c cs ih =>
    rw [List.flatMap_cons, pieces_of_spells (spells_utf8EncodeChar c), ih, List.map_cons]

/-- **The bytes of a text** are read back as that text. -/
theorem readable_encode (s : String) : readable (encode s) = s := by
  rw [readable, encode, pieces_flatMap, List.map_map]
  simp [Function.comp_def, Piece.char?]

end Bytes

/-! ## Base 64 -/

namespace Base64

/-- The alphabet by the numbers of its characters. -/
def codes : List Nat := List.range' 65 26 ++ List.range' 97 26 ++ List.range' 48 10 ++ [43, 47]

theorem map_toNat_alphabet : alphabet.map Char.toNat = codes :=
  congrArg (List.map Char.toNat) String.toList_ofList

theorem digitValue?_eq (b : UInt8) : digitValue? b = codes.findIdx? (· == b.toNat) := by
  rw [← map_toNat_alphabet, List.findIdx?_map]
  rfl

/-- The byte of a digit. -/
def digitByte (n : Nat) : UInt8 := UInt8.ofNat (digit n).toNat

theorem toNat_digit {n : Nat} (h : n < 64) : (digit n).toNat = codes.getD n 0 := by
  have hn : n < alphabet.length := by
    have hlength := congrArg List.length map_toNat_alphabet
    rw [List.length_map] at hlength
    rw [hlength]
    exact h
  rw [← map_toNat_alphabet, digit, List.getD_eq_getElem?_getD, List.getD_eq_getElem?_getD,
    List.getElem?_map, List.getElem?_eq_getElem hn, Option.map_some, Option.getD_some,
    Option.getD_some]

theorem toNat_digit_lt {n : Nat} (h : n < 64) : (digit n).toNat < 128 := by
  have hcodes : ∀ n < 64, codes.getD n 0 < 128 := by decide
  rw [toNat_digit h]
  exact hcodes n h

theorem digitValue?_digitByte {n : Nat} (h : n < 64) : digitValue? (digitByte n) = some n := by
  have hcodes : ∀ n < 64, codes.findIdx? (· == codes.getD n 0) = some n := by decide
  have hlt := toNat_digit_lt h
  rw [digitValue?_eq, digitByte, Bytes.toNat_ofNat (by omega), toNat_digit h]
  exact hcodes n h

theorem utf8EncodeChar_digit {n : Nat} (h : n < 64) :
    String.utf8EncodeChar (digit n) = [digitByte n] :=
  Bytes.utf8EncodeChar_of_ascii (toNat_digit_lt h)

section

variable (total : Nat) (values : List Nat) (i : Nat) (rest : Bytes)

/-- A digit goes to the group that is under way, and the fourth one completes it. -/
theorem decodeFrom_cons {b : UInt8} {n : Nat} (h : digitValue? b = some n) :
    decodeFrom total values i (b :: rest) =
      if values.length == 3 then
        (decodeFrom total [] (i + 1) rest).map (group (values ++ [n]) ++ ·)
      else decodeFrom total (values ++ [n]) (i + 1) rest := by
  simp only [decodeFrom, h]

variable {values}

theorem decodeFrom_digit {n : Nat} (hn : n < 64) (h : values.length < 3) :
    decodeFrom total values i (digitByte n :: rest) =
      decodeFrom total (values ++ [n]) (i + 1) rest := by
  have hnext : (values.length == 3) = false := beq_false_of_ne (by omega)
  rw [decodeFrom_cons total values i rest (digitValue?_digitByte hn), hnext]
  rfl

theorem decodeFrom_last {n : Nat} (hn : n < 64) (h : values.length = 3) :
    decodeFrom total values i (digitByte n :: rest) =
      (decodeFrom total [] (i + 1) rest).map (group (values ++ [n]) ++ ·) := by
  rw [decodeFrom_cons total values i rest (digitValue?_digitByte hn), h]
  rfl

variable (values)

theorem decodeFrom_pad :
    decodeFrom total values i (0x3D :: rest) = padding total values (i + 1) rest := by
  have hvalue : digitValue? 0x3D = none := by
    rw [digitValue?_eq]
    decide
  have hend : isLineEnd 0x3D = false := by decide
  have hpad : isPad 0x3D = true := by decide
  simp only [decodeFrom, hvalue, hend, hpad, Bool.false_eq_true, if_false, if_true]

end

theorem decodeFrom_encode (bs : Bytes) (total i : Nat) :
    decodeFrom total [] i ((encode bs).flatMap String.utf8EncodeChar) = .ok bs := by
  have hpad : String.utf8EncodeChar '=' = [0x3D] := rfl
  -- A byte is put together again from the digits that it was spread over.
  have hback : ∀ (b : UInt8) (n : Nat), n = b.toNat → UInt8.ofNat n = b := by
    rintro b n rfl
    exact UInt8.ofNat_toNat
  induction bs using encode.induct generalizing i with
  | case1 => rfl
  | case2 a =>
    have ha : a.toNat < 256 := a.toNat_lt
    have h1 : a.toNat / 4 < 64 := by omega
    have h2 : a.toNat % 4 * 16 < 64 := by omega
    simp only [encode, List.flatMap_cons, List.flatMap_nil, utf8EncodeChar_digit h1,
      utf8EncodeChar_digit h2, hpad, List.singleton_append, List.append_nil]
    rw [decodeFrom_digit _ _ _ h1 (by simp), decodeFrom_digit _ _ _ h2 (by simp), decodeFrom_pad]
    show Except.ok [_] = Except.ok [a]
    rw [hback a _ (by omega)]
  | case3 a b =>
    have ha : a.toNat < 256 := a.toNat_lt
    have hb : b.toNat < 256 := b.toNat_lt
    have h1 : a.toNat / 4 < 64 := by omega
    have h2 : a.toNat % 4 * 16 + b.toNat / 16 < 64 := by omega
    have h3 : b.toNat % 16 * 4 < 64 := by omega
    simp only [encode, List.flatMap_cons, List.flatMap_nil, utf8EncodeChar_digit h1,
      utf8EncodeChar_digit h2, utf8EncodeChar_digit h3, hpad, List.singleton_append,
      List.append_nil]
    rw [decodeFrom_digit _ _ _ h1 (by simp), decodeFrom_digit _ _ _ h2 (by simp),
      decodeFrom_digit _ _ _ h3 (by simp), decodeFrom_pad]
    show Except.ok [_, _] = Except.ok [a, b]
    rw [hback a _ (by omega), hback b _ (by omega)]
  | case4 a b c rest ih =>
    have ha : a.toNat < 256 := a.toNat_lt
    have hb : b.toNat < 256 := b.toNat_lt
    have hc : c.toNat < 256 := c.toNat_lt
    have h1 : a.toNat / 4 < 64 := by omega
    have h2 : a.toNat % 4 * 16 + b.toNat / 16 < 64 := by omega
    have h3 : b.toNat % 16 * 4 + c.toNat / 64 < 64 := by omega
    have h4 : c.toNat % 64 < 64 := by omega
    simp only [encode, List.flatMap_cons, utf8EncodeChar_digit h1, utf8EncodeChar_digit h2,
      utf8EncodeChar_digit h3, utf8EncodeChar_digit h4, List.singleton_append]
    rw [decodeFrom_digit _ _ _ h1 (by simp), decodeFrom_digit _ _ _ h2 (by simp),
      decodeFrom_digit _ _ _ h3 (by simp), decodeFrom_last _ _ _ h4 (by simp), ih]
    show Except.ok ([_, _, _] ++ rest) = Except.ok ([a, b, c] ++ rest)
    rw [hback a _ (by omega), hback b _ (by omega), hback c _ (by omega)]

/-- **Bytes in base 64** are read back. -/
theorem decode_encode (bs : Bytes) :
    decode (Bytes.encode (String.ofList (encode bs))) = .ok bs := by
  rw [decode, Bytes.encode, String.toList_ofList]
  exact decodeFrom_encode bs _ 0

end Base64

/-! ## Values as text -/

namespace Wire

theorem parseBigInteger_toString (field : String) (n : Int) :
    parseBigInteger field (Bytes.encode (toString n)) = .ok n := by
  rw [parseBigInteger, Bytes.readable_encode, Number.readInt?_toString]

theorem parseBlob_encode (field : String) (bs : Bytes) :
    parseBlob field (Bytes.encode (String.ofList (Base64.encode bs))) = .ok bs := by
  rw [parseBlob, Base64.decode_encode]

end Wire
end Shapewright
