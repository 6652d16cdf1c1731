import Shapewright.Json.Basic
import Shapewright.Number.Numeral
import Shapewright.Number.Shortest
import Shapewright.Text.Base64
import Shapewright.Time.Layout

/-!
# Scalars of YAML documents

A plain text stands for a truth value, for nothing, for a number or for itself.  A tag says what a text
has to stand for.

* `Scalar.ofWord` — what a plain text stands for.
* `Scalar.ofTagged?` — what a text with a tag stands for.
* `Scalar.toJson?` — the value as a document; numbers are rounded to doubles.
* `Scalar.key?` — the value as a key.
-/

set_option autoImplicit false

namespace Shapewright
namespace Yaml

open Number

/-- What a text stands for. -/
inductive Scalar where
  | null
  | bool (b : Bool)
  | int (n : Int)
  | float (x : Binary)
  | text (s : String)
  deriving DecidableEq, Repr

/-- The words for true. -/
def trueWords : List String :=
  ["y", "Y", "yes", "Yes", "YES", "true", "True", "TRUE", "on", "On", "ON"]

/-- The words for false. -/
def falseWords : List String :=
  ["n", "N", "no", "No", "NO", "false", "False", "FALSE", "off", "Off", "OFF"]

/-- The words for nothing. -/
def nullWords : List String := ["", "~", "null", "Null", "NULL"]

/-- The words for numbers that are not finite. -/
def infiniteWords : List (String × Binary) :=
  [(".nan", .nan), (".NaN", .nan), (".NAN", .nan)]
    ++ [".inf", ".Inf", ".INF", "+.inf", "+.Inf", "+.INF"].map (fun w => (w, .infinite false))
    ++ ["-.inf", "-.Inf", "-.INF"].map fun w => (w, .infinite true)

/-! ## Numbers -/

/-- The base that the start of a number announces, and its digits. -/
def base : List Char → Nat × List Char
  | '0' :: 'x' :: rest | '0' :: 'X' :: rest => (16, rest)
  | '0' :: 'o' :: rest | '0' :: 'O' :: rest => (8, rest)
  | '0' :: 'b' :: rest | '0' :: 'B' :: rest => (2, rest)
  | '0' :: c :: rest => (8, c :: rest)
  | cs => (10, cs)

/-- The value of a digit in any base up to sixteen. -/
def digit? (c : Char) : Option Nat :=
  if isDigit c then some (digitValue c)
  else if 'a' ≤ c ∧ c ≤ 'f' then some (c.toNat - 0x57)
  else if 'A' ≤ c ∧ c ≤ 'F' then some (c.toNat - 0x37)
  else none

/-- The number that digits of a base spell. -/
def natOf? (base : Nat) (cs : List Char) : Option Nat :=
  if cs.isEmpty then none
  else cs.foldlM (fun n c => do
    let d ← digit? c
    if d < base then some (n * base + d) else none) 0

/-- An integer in the base that its start announces. With a sign it has to be a word of sixty-four bits with
a sign, without one it may be a word without. -/
def int? (cs : List Char) : Option Int := do
  let (negative, digits) := splitSign cs
  let (base, rest) := base digits
  let n := signed negative (← natOf? base rest)
  let bound := if digits.length < cs.length then Nat.pow 2 63 else Nat.pow 2 64
  if Binary.minWord ≤ n ∧ n < bound then some n else none

/-- An integer of base two with its sign behind the mark of the base. -/
def signedBinary? : List Char → Option Int
  | '0' :: 'b' :: rest => do
    let (negative, digits) := splitSign rest
    let n := signed negative (← natOf? 2 digits)
    if Binary.minWord ≤ n ∧ n < Nat.pow 2 63 then some n else none
  | _ => none

/-- Whether a text is a number with a point or an exponent, or a long integer. -/
def isDecimal (cs : List Char) : Bool :=
  let rest := (splitSign cs).2
  let whole := rest.takeWhile isDigit
  let rest := rest.dropWhile isDigit
  let (fraction, rest) := match rest with
    | '.' :: rest => (rest.takeWhile isDigit, rest.dropWhile isDigit)
    | _ => ([], rest)
  let tail := match rest with
    | [] => true
    | 'e' :: rest | 'E' :: rest => (readNat? (splitSign rest).2).isSome
    | _ => false
  tail && !(whole.isEmpty && fraction.isEmpty)

/-- The number that a word spells, if it is one. -/
def number? (word : String) : Option Scalar :=
  let cs := word.toList.filter (· != '_')
  match word.toList with
  | '.' :: _ => (double.read word).toOption.map .float
  | c :: _ =>
    if !(isDigit c || c == '-' || c == '+') then none
    else match int? cs with
      | some n => some (.int n)
      | none =>
        if isDecimal cs then (double.read (String.ofList cs)).toOption.map .float
        else (signedBinary? cs).map .int
  | [] => none

/-! ## Words -/

namespace Scalar

/-- What a word without quotes stands for. -/
def ofWord (word : String) : Scalar :=
  if trueWords.contains word then .bool true
  else if falseWords.contains word then .bool false
  else if nullWords.contains word then .null
  else match infiniteWords.lookup word with
    | some x => .float x
    | none => (number? word).getD (.text word)

/-! ## Tags -/

/-- What the names of the standard tags start with. -/
def standardStart : String := "tag:yaml.org,2002:"

/-- The forms of times: a date with a time and an offset, with a time alone, or a date alone. -/
def timeLayouts : List Time.Layout :=
  let date : Time.Layout := [.year, .text "-", .plainMonth, .text "-", .plainDay]
  let clock : Time.Layout :=
    [.hour, .text ":", .plainMinute, .text ":", .plainSecond]
  [date ++ [.text "T"] ++ clock ++ [.offset], date ++ [.text "t"] ++ clock ++ [.offset],
   date ++ [.text " "] ++ clock, date]

/-- Whether a text is a time. -/
def isTime (text : String) : Bool := timeLayouts.any fun l => (l.read? text).isSome

/-- The text that bytes encode; a byte that belongs to no character counts as `U+FFFD`. -/
def textOf (bs : Bytes) : String :=
  String.ofList ((Bytes.pieces bs).map fun p => p.char?.getD '\uFFFD')

/-- What a text stands for if its tag does not leave it open; a text that cannot stand for that is an
error. Tags that are not known leave a text as it is. -/
def ofTagged? (tag text : String) : Option Scalar :=
  let is := fun (name : String) => tag == standardStart ++ name
  if is "bool" then match ofWord text with
    | .bool b => some (.bool b)
    | _ => none
  else if is "null" then if nullWords.contains text then some .null else none
  else if is "int" then match ofWord text with
    | .int n => some (.int n)
    | _ => none
  else if is "float" then match ofWord text with
    | .float x => some (.float x)
    | .int n => if n < Nat.pow 2 63 then some (.float (double.ofRat n)) else none
    | _ => none
  else if is "timestamp" then if isTime text then some (.text text) else none
  else if is "binary" then (Base64.decode (Bytes.encode text)).toOption.map (.text ∘ textOf)
  else some (.text text)

/-- What a text with a tag stands for, which may be empty. -/
def ofText? (tag : String) (isPlain : Bool) (text : String) : Option Scalar :=
  if tag == "" then some (if isPlain then ofWord text else .text text) else ofTagged? tag text

/-! ## Values and keys -/

/-- Numbers have an exponent from `10 ^ 21` on and below `10 ^ (-6)`. -/
def layout (d : Decimals) : List Char :=
  if d.digits.isEmpty then ['0']
  else if d.point - 1 < -6 ∨ 21 ≤ d.point - 1 then d.scientific 1
  else d.plain

/-- The value as a document. Numbers that are not finite have none. -/
def toJson? : Scalar → Option Json
  | .null => some .null
  | .bool b => some (.bool b)
  | .int n => some (.number ((double.ofRat n).textBy double layout))
  | .float x => if x.isFinite then some (.number (x.textBy double layout)) else none
  | .text s => some (.string s)

/-- The value as a key; nothing is no key, nor is an integer beyond the words with a sign. -/
def key? : Scalar → Option String
  | .null => none
  | .bool b => some (if b then "true" else "false")
  | .int n => if n < Nat.pow 2 63 then some (toString n) else none
  | .float .nan => some ".nan"
  | .float (.infinite negative) => some (if negative then "-.inf" else ".inf")
  | .float x => some (((x.toRat?.map single.ofRat).getD x).general single)
  | .text s => some s

end Scalar
end Yaml
end Shapewright
