import Shapewright.Wire.Parts
import Shapewright.Wire.Raw

/-!
# Values by their type

The types that values have on the wire, as data: what a value of a type is, and how it is read from
text and from documents.

* `WireType` — the types; `Value` — their values.
* `WireType.parse` — reading from text.
* `WireType.fromRaw` — reading from a document.
* `Value.key` — what two values of a set are compared by.
* `WireType.parseList` — reading the parts of a list or set.
-/

set_option autoImplicit false

namespace Shapewright
namespace Wire

/-- The type of a value. -/
inductive WireType where
  | bool
  | int (bits : Nat)
  | float (f : Number.Format)
  | bigInteger
  | decimal
  | blob
  | timestamp (format : String)
  /-- One of some constants. -/
  | enum (constants : List String)
  | string
  | object
  | list (element : WireType)
  | map (value : WireType)

instance : Inhabited WireType := ⟨.bool⟩

/-- A value. -/
inductive Value where
  | bool (b : Bool)
  | int (n : Int)
  | float (f : Number.Format) (x : Number.Binary)
  | decimal (d : Number.Decimal)
  | blob (bs : Bytes)
  | time (t : Time.Instant)
  | text (bs : Bytes)
  | object (fields : List (String × Raw))
  | list (items : List Value)
  | map (fields : List (String × Value))

/-- What values of a set are compared by: times by the instant, bytes as they are, and all others by
their text. -/
def Value.key : Value → Bytes
  | .bool b => Bytes.encode (if b then "true" else "false")
  | .int n => Bytes.encode (toString n)
  | .float f x => Bytes.encode (x.general f)
  | .decimal d => Bytes.encode d.text
  | .blob bs => bs
  | .time t => Bytes.encode t.dateTime
  | .text bs => bs
  | _ => []

/-- Reads a constant of an enumeration. -/
def parseEnum (constants : List String) (field : String) (text : Bytes) : Served Bytes :=
  if constants.any fun c => Bytes.encode c == text then .ok text
  else .error (.malformed "enum" field text none)

namespace WireType

/-- Reads a text. Containers are not read from text, and an object is not either. -/
def parse (t : WireType) (field : String) (text : Bytes) : Served Value :=
  match t with
  | .bool => (parseBool field text).map .bool
  | .int bits => (parseInt bits field text).map .int
  | .float f => (parseFloat f field text).map (.float f)
  | .bigInteger => (parseBigInteger field text).map .int
  | .decimal => (parseDecimal field text).map .decimal
  | .blob => (parseBlob field text).map .blob
  | .timestamp format => (parseTimestamp field text format).map .time
  | .enum constants => (parseEnum constants field text).map .text
  | .string => .ok (.text text)
  | .object => misfit "object" field (.string text)
  | .list _ => misfit "list" field (.string text)
  | .map _ => misfit "object" field (.string text)

/-- Reads the parts of a list, or of a set, which keeps each value once. -/
def parseList (t : WireType) (isSet : Bool) (field : String) (parts : List Bytes) :
    Served (List Value) :=
  if isSet then convertSet Value.key field parts t.parse else convertEach field parts t.parse

/-- Reads a part of a document. -/
def fromRaw : WireType → String → Raw → Served Value
  | .bool, field, raw => (boolFromRaw field raw).map .bool
  | .int bits, field, raw => (intFromRaw bits field raw).map .int
  | .float f, field, raw => (floatFromRaw f field raw).map (.float f)
  | .bigInteger, field, raw => (bigIntegerFromRaw field raw).map .int
  | .decimal, field, raw => (decimalFromRaw field raw).map .decimal
  | .blob, field, raw => (blobFromRaw field raw).map .blob
  | .timestamp format, field, raw => (timestampFromRaw format field raw).map .time
  | .enum constants, field, raw => (enumFromRaw (parseEnum constants) field raw).map .text
  | .string, field, raw => (stringFromRaw field raw).map .text
  | .object, field, raw => (objectFromRaw field raw).map .object
  | .list element, field, raw => (listFromRaw element.fromRaw field raw).map .list
  | .map value, field, raw => (mapFromRaw value.fromRaw field raw).map .map

end WireType
end Wire
end Shapewright
