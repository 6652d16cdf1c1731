import Shapewright.Number.Decimal
import Shapewright.Number.Numeral
import Shapewright.Text.Base64
import Shapewright.Text.Truth
import Shapewright.Time.Layout
import Shapewright.Wire.Fault

/-!
# Reading values from text

Each function reads a text that was given for a field; what it refuses is reported as a malformed
value of that field.  The text is given by its bytes, since it need not be one: a stray byte has no place
in any value that is read here.

* `parseBool`, `parseInt`, `parseFloat`, `parseBigInteger`, `parseDecimal`, `parseBlob`.
* `parseTimestamp`, `formatTimestamp` — times in the format that is chosen.
-/

set_option autoImplicit false

namespace Shapewright
namespace Wire

/-- Reads a truth value. -/
def parseBool (field : String) (text : Bytes) : Served Bool :=
  match Text.truth? (Bytes.readable text) with
  | some b => .ok b
  | none => .error (.malformed "boolean" field text none)

/-- Reads an integer of some bits in base ten. -/
def parseInt (bits : Nat) (field : String) (text : Bytes) : Served Int :=
  match Number.readWord bits (Bytes.readable text) with
  | .ok n => .ok n
  | .error cause => .error (.malformed "integer" field text (some cause.message))

/-- Reads a floating point number. -/
def parseFloat (f : Number.Format) (field : String) (text : Bytes) : Served Number.Binary :=
  match f.read (Bytes.readable text) with
  | .ok x => .ok x
  | .error cause => .error (.malformed "number" field text (some cause.message))

/-- Reads an integer without bounds. -/
def parseBigInteger (field : String) (text : Bytes) : Served Int :=
  match Number.readInt? (Bytes.readable text) with
  | some n => .ok n
  | none => .error (.malformed "bigInteger" field text none)

/-- Reads a decimal. -/
def parseDecimal (field : String) (text : Bytes) : Served Number.Decimal :=
  match Number.Decimal.read (Bytes.readable text) with
  | .ok d => .ok d
  | .error refusal => .error (.malformed "bigDecimal" field text (some refusal.message))

/-- Reads bytes in base 64. -/
def parseBlob (field : String) (text : Bytes) : Served Bytes :=
  match Base64.decode text with
  | .ok bs => .ok bs
  | .error position => .error (.malformed "blob" field text
      (some ("illegal base64 data at input byte " ++ toString position)))

/-! ## Times -/

/-- Carries whole seconds out of a count of nanoseconds, in words of 64 bits. -/
def carryNanos (seconds nanos : Int) : Time.Instant :=
  let word := Number.wrap 64
  let carried := nanos.tdiv 1000000000
  let seconds := word (seconds + carried)
  let nanos := nanos - carried * 1000000000
  if nanos < 0 then { seconds := word (seconds - 1), nanos := (nanos + 1000000000).toNat }
  else { seconds, nanos := nanos.toNat }

/-- The instant that is a number of seconds after the start of 1970; the fraction is cut to
nanoseconds. -/
def instantOfSeconds (x : Number.Binary) : Time.Instant :=
  let f := Number.double
  let whole := x.toWord
  let rest := x.sub f (f.ofRat whole)
  carryNanos whole (rest.mul f (f.ofRat 1000000000)).toWord

/-- The instant that a text writes in a format; the empty format is the usual one. -/
def readTime? (s format : String) : Option Time.Instant :=
  match format with
  | "http-date" => Time.readHttpDate? s
  | "epoch-seconds" => (Number.double.read s).toOption.map instantOfSeconds
  | "date-time" | "" => Time.dateTime.read? s
  | _ => none

/-- Reads a time. -/
def parseTimestamp (field : String) (text : Bytes) (format : String) : Served Time.Instant :=
  match readTime? (Bytes.readable text) format with
  | some t => .ok t
  | none => .error (.malformed "timestamp" field text none)

/-- Writes a time. -/
def formatTimestamp (t : Time.Instant) (format : String) : String :=
  match format with
  | "http-date" => t.httpDate
  | "epoch-seconds" => toString t.seconds
  | _ => t.dateTime

end Wire
end Shapewright
