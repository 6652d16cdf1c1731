import Shapewright.Text.Percent

/-!
# Targets of requests

The url of a request is a reference: an optional scheme, an optional host, a path, a query and a
fragment.  Only path and query are kept, but a url with a malformed part is refused as a whole.

* `Target` — path and query as they were written.
* `Target.parse?` — reads a url.
* `isHost`, `isUserInfo`, `isAddress` — what the parts of an authority have to look like.
-/

set_option autoImplicit false

namespace Shapewright
namespace Wire

/-- What a request asks for. -/
structure Target where
  /-- The path as it was written. -/
  path : Bytes := []
  /-- What is behind the first `?`. -/
  query : Bytes := []
  deriving Repr

namespace Target

/-- Splits bytes at the first occurrence of a separator. -/
def cut (separator : Char) (bs : Bytes) : Bytes × Bytes :=
  let isSeparator := fun b => b == Percent.byte separator
  (bs.takeWhile fun b => !isSeparator b, (bs.dropWhile fun b => !isSeparator b).drop 1)

/-- Splits bytes at the last occurrence of a separator; the separator goes with neither side. -/
def cutLast? (separator : Char) (bs : Bytes) : Option (Bytes × Bytes) :=
  let (after, before) := cut separator bs.reverse
  if bs.contains (Percent.byte separator) then some (before.reverse, after.reverse) else none

/-- Whether a byte is a control character, which no url may hold. -/
def isControl (b : UInt8) : Bool := b.toNat < 0x20 || b.toNat == 0x7F

/-- Whether a byte is one of some ASCII characters. -/
def isOneOf (chars : String) (b : UInt8) : Bool :=
  chars.toList.any (·.toNat == b.toNat)

/-- Whether a byte is a letter. -/
def isLetter (b : UInt8) : Bool :=
  (Char.ofNat b.toNat).isAlpha && b.toNat < 0x80

/-- Whether a byte is a digit. -/
def isDigit (b : UInt8) : Bool :=
  (Char.ofNat b.toNat).isDigit

/-! ## Schemes -/

/-- Takes the scheme off a url: whether there is one, and what follows. A url that begins with a colon
is refused. -/
def scheme? (bs : Bytes) : Option (Bool × Bytes) :=
  let word := bs.takeWhile fun b => isLetter b || isDigit b || isOneOf "+-." b
  match bs.drop word.length with
  | b :: rest =>
    if b != Percent.byte ':' then some (false, bs)
    else if word.isEmpty then none
    else if word.head?.any isLetter then some (true, rest)
    else some (false, bs)
  | [] => some (false, bs)

/-! ## Addresses in brackets -/

/-- Reads a number below 256 without needless zeros. -/
def isOctet (bs : Bytes) : Bool :=
  !bs.isEmpty && bs.all isDigit && (bs.length == 1 || bs.head? != some (Percent.byte '0'))
    && bs.length ≤ 3 && bs.foldl (fun n b => n * 10 + (b.toNat - 0x30)) 0 ≤ 255

/-- Whether bytes are four numbers between points. -/
def isDottedQuad (bs : Bytes) : Bool :=
  let parts := bs.splitOn (Percent.byte '.')
  parts.length == 4 && parts.all isOctet

/-- The number of groups of two bytes that the fields of an address stand for, if they are sound. Only
the last may be a dotted quad. -/
def groups? : List Bytes → Option Nat
  | [] => some 0
  | [last] =>
    if last.contains (Percent.byte '.') then (if isDottedQuad last then some 2 else none)
    else if isGroup last then some 1 else none
  | field :: rest => if isGroup field then (groups? rest).map (· + 1) else none
where
  /-- One to four digits of base sixteen. -/
  isGroup (bs : Bytes) : Bool :=
    1 ≤ bs.length && bs.length ≤ 4 && bs.all fun b => (Percent.digit? b).isSome

/-- The fields between the colons; bytes that hold nothing have none. -/
def fields (bs : Bytes) : List Bytes :=
  if bs.isEmpty then [] else bs.splitOn (Percent.byte ':')

/-- The sides of the first two colons in a row. -/
def cutEllipsis? : Bytes → Option (Bytes × Bytes)
  | a :: b :: rest =>
    if a == Percent.byte ':' && b == Percent.byte ':' then some ([], rest)
    else (cutEllipsis? (b :: rest)).map fun (before, after) => (a :: before, after)
  | _ => none

/-- Whether bytes are an address of eight groups: `::` stands for one or more groups of zeros, and a
zone may follow. -/
def isAddress (bs : Bytes) : Bool :=
  let percent := Percent.byte '%'
  let (address, zone) := cut '%' bs
  let zoned := !bs.contains percent || !zone.isEmpty
  zoned && address.contains (Percent.byte ':') && match cutEllipsis? address with
    | some (before, after) =>
      match groups? (fields before), groups? (fields after) with
      | some m, some n => m + n < 8 && !before.contains (Percent.byte '.')
      | _, _ => false
    | none => groups? (fields address) == some 8

/-! ## Authorities -/

/-- The bytes that may stand in a host. -/
def isHostByte (b : UInt8) : Bool :=
  Percent.isUnreserved b || isOneOf "!$&'()*+,;=:[]<>\"" b || 0x80 ≤ b.toNat

/-- Whether the escapes of a host are sound: they are for bytes beyond ASCII and for `%`, and with
`zone` also for blanks and what may stand in a host. -/
def isHostText (zone : Bool) : Bytes → Bool
  | [] => true
  | b :: rest =>
    if b == Percent.byte '%' then
      match rest with
      | hi :: lo :: tail =>
        match Percent.digit? hi, Percent.digit? lo with
        | some h, some l =>
          let value := UInt8.ofNat (h * 16 + l)
          (value == Percent.byte '%' || (if zone then value == Percent.byte ' ' || isHostByte value
            else 8 ≤ h)) && isHostText zone tail
        | _, _ => false
      | _ => false
    else isHostByte b && isHostText zone rest

/-- Whether bytes are a number behind a colon, or nothing. -/
def isColonNumber : Bytes → Bool
  | [] => true
  | b :: rest => b == Percent.byte ':' && rest.all isDigit

/-- The sides of the first escaped `%`, which begins the zone of an address; the escape goes with the
zone. -/
def cutZone : Bytes → Bytes × Bytes
  | [] => ([], [])
  | b :: rest =>
    if (Bytes.encode "%25").isPrefixOf (b :: rest) then ([], b :: rest)
    else ((b :: (cutZone rest).1), (cutZone rest).2)

/-- Whether bytes are a host, with a number behind a colon or without. -/
def isHost (bs : Bytes) : Bool :=
  match cutLast? '[' bs with
  | some (before, inside) =>
    match cutLast? ']' inside with
    | some (name, number) =>
      let (address, zone) := cutZone name
      before.isEmpty && isColonNumber number && isHostText false address && isHostText true zone
        && (Percent.unescape? false name).any isAddress
    | none => false
  | none =>
    (match cutLast? ':' bs with
      | some (_, number) => number.all isDigit
      | none => true) && isHostText false bs

/-- Whether bytes are a user, with a password or not. -/
def isUserInfo (bs : Bytes) : Bool :=
  (bs.all fun b => isLetter b || isDigit b || isOneOf "-._:~!$&'()*+,;=%@" b)
    && (Percent.unescape? false bs).isSome

/-- Whether bytes are what stands between `//` and the path. -/
def isAuthority (bs : Bytes) : Bool :=
  match cutLast? '@' bs with
  | some (user, host) => isHost host && isUserInfo user
  | none => isHost bs

/-! ## Urls -/

/-- The path behind the authority, if there is a sound one. -/
def withoutAuthority? (hasScheme : Bool) (bs : Bytes) : Option Bytes :=
  if (Bytes.encode "//").isPrefixOf bs && (hasScheme || !(Bytes.encode "///").isPrefixOf bs) then
    let isSlash := fun b => b == Percent.byte '/'
    let rest := bs.drop 2
    if isAuthority (rest.takeWhile fun b => !isSlash b) then
      some (rest.dropWhile fun b => !isSlash b)
    else none
  else some bs

/-- Reads a url. What follows a scheme without a slash is no path. Refused are control characters,
malformed escapes, a malformed authority and a relative path whose first segment holds a colon. -/
def parse? (url : String) : Option Target := do
  let (front, fragment) := cut '#' (Bytes.encode url)
  if front.any isControl then none
  let (hasScheme, rest) ← scheme? front
  let (path, query) := cut '?' rest
  if path.head? != some (Percent.byte '/') && hasScheme then
    discard (Percent.unescape? false fragment)
    return { query }
  if path.head? != some (Percent.byte '/')
      && (path.takeWhile (· != Percent.byte '/')).contains (Percent.byte ':') then none
  let path ← withoutAuthority? hasScheme path
  discard (Percent.unescape? false path)
  discard (Percent.unescape? false fragment)
  return { path, query }

end Target
end Wire
end Shapewright
