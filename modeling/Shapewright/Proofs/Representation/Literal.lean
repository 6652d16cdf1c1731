import Shapewright.Proofs.Text.Quoted
import Shapewright.Proofs.Wire.Bytes
import Shapewright.Representation.Literal

/-!
# Literals are read back

The literal of a default value stands in generated code, and the same value may arrive as the text of
a request.  Both are read alike: what is written for a value is what the readers of the wire take for
it.

* `toWholeNumber_of_readInt?` — an integer of 64 bits is not rounded on its way.
* `Wire.parseInt_toString_wrap`, `Wire.parseBool_boolLiteral` — the readers of the wire take what is
  written.
* `readable_literal` — the payoff, for integers of each width, truth values and texts.
-/

set_option autoImplicit false

namespace Shapewright

variable {bits : Nat}

/-- The kinds of integers have a width that is not zero. -/
theorem Kind.width?_pos {k : Kind} (h : k.width? = some bits) : 0 < bits := by
  cases k <;> cases h <;> decide

/-- An integer of 64 bits stays as it is. -/
theorem toWholeNumber_of_readInt? {text : String} {n : Int} (h : Number.readInt? text = some n)
    (hlow : -2 ^ 63 ≤ n) (hhigh : n < 2 ^ 63) : toWholeNumber text = n := by
  have hlimit : ((Nat.pow 2 (64 - 1) : Nat) : Int) = 2 ^ 63 := by decide
  have hread : Number.readWord 64 text = .ok n :=
    Number.readWord_of_readInt? (by decide) h (by omega) (by omega)
  rw [toWholeNumber, hread]

theorem literal_eq_numberLiteral (s : Shape) (text : String) :
    literal s (some ⟨.number text⟩) = numberLiteral s text := rfl

theorem literal_number {s : Shape} (h : s.kind.width? = some bits) (text : String) :
    literal s (some ⟨.number text⟩) = .ok (toString (Number.wrap bits (toWholeNumber text))) := by
  rw [literal_eq_numberLiteral, numberLiteral, h]

namespace Wire

/-- What remains of an integer in a word is read by the reader for such words. -/
theorem parseInt_toString_wrap (hbits : 0 < bits) (field : String) (n : Int) :
    parseInt bits field (Bytes.encode (toString (Number.wrap bits n))) =
      .ok (Number.wrap bits n) := by
  obtain ⟨hlow, hhigh⟩ := Number.wrap_fits hbits n
  rw [parseInt, Bytes.readable_encode, Number.readWord_toString hbits hlow hhigh]

theorem parseBool_boolLiteral (field : String) (b : Bool) :
    parseBool field (Bytes.encode (boolLiteral b)) = .ok b := by
  have htruth : Text.truth? (boolLiteral b) = some b := by cases b <;> decide
  rw [parseBool, Bytes.readable_encode, htruth]

end Wire

/-- **Literals are read back.** Every number has a literal for a kind of integers, and the reader of
the wire for integers of that width takes it; the integer is the number, cut to the width, if the
number is an integer of 64 bits.  A truth value is read back from its literal.  The literal of a text
stands between quotes on one line, without control characters, and what it stands for is the text. -/
theorem readable_literal (s : Shape) (field : String) :
    (∀ bits, s.kind.width? = some bits → ∀ text, ∃ written m,
      literal s (some ⟨.number text⟩) = .ok written ∧
      Wire.parseInt bits field (Bytes.encode written) = .ok m ∧
      ∀ n, Number.readInt? text = some n → -2 ^ 63 ≤ n → n < 2 ^ 63 → m = n.bmod (2 ^ bits)) ∧
    (∀ b, ∃ written, literal s (some ⟨.bool b⟩) = .ok written ∧
      Wire.parseBool field (Bytes.encode written) = .ok b) ∧
    (∀ text, ∃ written, literal s (some ⟨.string text⟩) = .ok written ∧
      Text.unquote? written = some text ∧ ∀ c ∈ written.toList, Text.isControl c = false) := by
  refine ⟨fun bits hbits text => ?_, fun b => ?_, fun text => ?_⟩
  · refine ⟨_, _, literal_number hbits text,
      Wire.parseInt_toString_wrap (Kind.width?_pos hbits) field _, fun n hn hlow hhigh => ?_⟩
    rw [toWholeNumber_of_readInt? hn hlow hhigh]
    rfl
  · exact ⟨_, rfl, Wire.parseBool_boolLiteral field b⟩
  · exact ⟨_, rfl, Text.unquote?_quote text, fun _ => Text.isControl_of_mem_quote⟩

/-- An integer that is too large for its width, and a text with what has to be written by its
number. -/
theorem readable_literal_of_byte :
    (∃ written m, literal { id := ⟨""⟩, kind := .byte } (some ⟨.number "-129"⟩) = .ok written ∧
      Wire.parseInt 8 "size" (Bytes.encode written) = .ok m ∧ m = 127) ∧
    (∃ written, literal { id := ⟨""⟩, kind := .byte } (some ⟨.string "\"\n\x00😀"⟩) = .ok written ∧
      Text.unquote? written = some "\"\n\x00😀") := by
  obtain ⟨hnumber, -, hstring⟩ := readable_literal { id := ⟨""⟩, kind := .byte } "size"
  obtain ⟨written, m, hwritten, hm, hvalue⟩ := hnumber 8 rfl "-129"
  obtain ⟨quoted, hquoted, hback, -⟩ := hstring "\"\n\x00😀"
  exact ⟨⟨written, m, hwritten, hm,
      (hvalue (-129) (by decide +kernel) (by decide) (by decide)).trans (by decide)⟩,
    ⟨quoted, hquoted, hback⟩⟩

end Shapewright
