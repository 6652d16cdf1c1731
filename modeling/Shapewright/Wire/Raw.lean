import Shapewright.Number.Shortest
import Shapewright.Wire.Parse

/-!
# Reading values from decoded documents

* `Raw` — a decoded document. Its texts are bytes, which need not be a text; its numbers are texts, or
  numbers where they were decoded further.
* `Raw.shown` — its informal text in messages.
* `boolFromRaw` and its like — conversion to a type.
* `listFromRaw`, `mapFromRaw` — conversion element by element.
* `timestampToRaw` and its like — the way back.
-/

set_option autoImplicit false

namespace Shapewright
namespace Wire

/-- A number of a decoded document. -/
inductive RawNumber where
  /-- By its spelling. -/
  | text (s : String)
  | float (f : Number.Format) (x : Number.Binary)
  | int (n : Int)

namespace RawNumber

/-- The informal text of a number. -/
def shown : RawNumber → String
  | .text s => s
  | .float f x => x.general f
  | .int n => toString n

/-- The number in plain notation. -/
def plain : RawNumber → String
  | .text s => s
  | .float f x => x.positional f
  | .int n => toString n

/-- The bytes of the number in plain notation. -/
def bytes (n : RawNumber) : Bytes := Bytes.encode n.plain

end RawNumber

/-- A decoded document; the fields of objects are sorted, each key once. -/
inductive Raw where
  | null
  | bool (b : Bool)
  | number (n : RawNumber)
  | string (text : Bytes)
  | list (items : List Raw)
  | object (fields : List (String × Raw))

namespace Raw

instance : Inhabited Raw := ⟨.null⟩

mutual

/-- The decoded document of a value. -/
def ofCanonical (number : String → RawNumber) : Json → Raw
  | .null => .null
  | .bool b => .bool b
  | .number text => .number (number text)
  | .string s => .string (Bytes.encode s)
  | .array items => .list (ofItems number items)
  | .object fields => .object (ofFields number fields)

/-- The decoded documents of items. -/
def ofItems (number : String → RawNumber) : List Json → List Raw
  | [] => []
  | v :: rest => ofCanonical number v :: ofItems number rest

/-- The decoded documents of fields. -/
def ofFields (number : String → RawNumber) : List (String × Json) → List (String × Raw)
  | [] => []
  | (k, v) :: rest => (k, ofCanonical number v) :: ofFields number rest

end

/-- The decoded document of a value, its numbers kept as they are spelled. -/
def ofJson (v : Json) : Raw := ofCanonical .text v.canonical

/-- A text as a number of 64 bits. -/
def double (text : String) : RawNumber :=
  .float Number.double ((Number.double.readUnbounded? text).getD .nan)

/-- The decoded document of a value, its numbers read with 64 bits. -/
def ofJsonDoubles (v : Json) : Raw := ofCanonical double v.canonical

mutual

/-- The informal text of a document. -/
def shown : Raw → Bytes
  | .null => Bytes.encode "<nil>"
  | .bool b => Bytes.encode (if b then "true" else "false")
  | .number n => Bytes.encode n.shown
  | .string text => text
  | .list items => Bytes.encode "[" ++ [0x20].intercalate (shownItems items) ++ Bytes.encode "]"
  | .object fields =>
    Bytes.encode "map[" ++ [0x20].intercalate (shownFields fields) ++ Bytes.encode "]"

/-- The informal texts of items. -/
def shownItems : List Raw → List Bytes
  | [] => []
  | v :: rest => shown v :: shownItems rest

/-- The informal texts of fields. -/
def shownFields : List (String × Raw) → List Bytes
  | [] => []
  | (k, v) :: rest => (Bytes.encode (k ++ ":") ++ shown v) :: shownFields rest

end

/-- The plain text of a number. -/
def numberText? : Raw → Option String
  | .number n => some n.plain
  | _ => none

/-- Whether there is no value. -/
def isNull : Raw → Bool
  | .null => true
  | _ => false

end Raw

/-- A part of a document that is not what it should be. -/
def misfit {α : Type} (kind field : String) (raw : Raw) : Served α :=
  .error (.malformed kind field raw.shown none)

/-! ## From documents -/

/-- Reads a truth value. -/
def boolFromRaw (field : String) : Raw → Served Bool
  | .bool b => .ok b
  | raw => misfit "boolean" field raw

/-- Reads a text. -/
def stringFromRaw (field : String) : Raw → Served Bytes
  | .string text => .ok text
  | raw => misfit "string" field raw

/-- Whether a number is within a word of some bits. -/
def fits (bits : Nat) (n : Int) : Bool :=
  -Nat.pow 2 (bits - 1) ≤ n && n < Nat.pow 2 (bits - 1)

/-- An integer that is spelled as one, or with a point or an exponent. -/
def integralValue? (bits : Nat) (text : String) : Option Int := do
  let x ← (Number.double.read text).toOption
  let n ← x.truncate?
  if x.isIntegral && fits bits n then some n else none

/-- Reads an integer of some bits. -/
def intFromRaw (bits : Nat) (field : String) (raw : Raw) : Served Int :=
  match raw.numberText? with
  | none => misfit "number" field raw
  | some text => match Number.readWord bits text with
    | .ok n => .ok n
    | .error cause => match integralValue? bits text with
      | some n => .ok n
      | none => .error (.ofText "integer" field text (some cause.message))

/-- Reads a floating point number. -/
def floatFromRaw (f : Number.Format) (field : String) (raw : Raw) : Served Number.Binary :=
  match raw.numberText? with
  | none => misfit "number" field raw
  | some text => parseFloat f field (Bytes.encode text)

/-- Reads a time: a text in the given format, or a number of seconds. -/
def timestampFromRaw (format field : String) : Raw → Served Time.Instant
  | .string text => parseTimestamp field text format
  | .number n => parseTimestamp field n.bytes "epoch-seconds"
  | raw => misfit "timestamp" field raw

/-- Reads bytes in base 64. -/
def blobFromRaw (field : String) : Raw → Served Bytes
  | .string text => parseBlob field text
  | raw => misfit "blob" field raw

/-- Reads an integer without bounds, from a number or a text. -/
def bigIntegerFromRaw (field : String) : Raw → Served Int
  | .string text => parseBigInteger field text
  | .number n => parseBigInteger field n.bytes
  | raw => misfit "bigInteger" field raw

/-- Reads a decimal, from a number or a text. -/
def decimalFromRaw (field : String) : Raw → Served Number.Decimal
  | .string text => parseDecimal field text
  | .number n => parseDecimal field n.bytes
  | raw => misfit "bigDecimal" field raw

/-- Reads an object. -/
def objectFromRaw (field : String) : Raw → Served (List (String × Raw))
  | .object fields => .ok fields
  | raw => misfit "object" field raw

/-- Reads a constant of an enumeration by the function that knows its constants. -/
def enumFromRaw {α : Type} (parse : String → Bytes → Served α) (field : String) :
    Raw → Served α
  | .string text => parse field text
  | raw => misfit "enum" field raw

/-- Reads a list; elements are known by their position. -/
def listFromRaw {α : Type} (convert : String → Raw → Served α) (field : String) :
    Raw → Served (List α)
  | .list items => items.zipIdx.mapM fun (item, i) =>
      convert (field ++ "[" ++ toString i ++ "]") item
  | raw => misfit "list" field raw

/-- Reads a map; values are known by their key. -/
def mapFromRaw {α : Type} (convert : String → Raw → Served α) (field : String) (raw : Raw) :
    Served (List (String × α)) := do
  let fields ← objectFromRaw field raw
  fields.mapM fun (k, item) => do return (k, ← convert (field ++ "." ++ k) item)

/-! ## To documents -/

/-- Writes a time: seconds as a number, everything else as text. -/
def timestampToRaw (t : Time.Instant) (format : String) : Raw :=
  if format == "epoch-seconds" then .number (.int t.seconds)
  else .string (Bytes.encode (formatTimestamp t format))

/-- Writes bytes in base 64. -/
def blobToRaw (bs : Bytes) : Raw := .string (Bytes.encode (String.ofList (Base64.encode bs)))

/-- Writes an integer without bounds as text; one may be absent. -/
def bigIntegerToRaw : Option Int → Raw
  | none => .null
  | some n => .string (Bytes.encode (toString n))

/-- Writes a decimal as text. -/
def decimalToRaw (d : Number.Decimal) : Raw := .string (Bytes.encode d.text)

/-- Writes a list. -/
def listToRaw {α : Type} (convert : α → Raw) (items : List α) : Raw :=
  .list (items.map convert)

/-- Writes a map. -/
def mapToRaw {α : Type} (convert : α → Raw) (fields : List (String × α)) : Raw :=
  .object (fields.map fun (k, v) => (k, convert v))

end Wire
end Shapewright
