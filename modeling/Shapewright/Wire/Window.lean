import Shapewright.Text.Bytes

/-!
# A text that arrives in pieces

A body is read through a window: a stretch of bytes that ends in a NUL.  When a reader meets a NUL it
asks for more, and the next piece is written from there on.  A NUL that is itself part of the text looks
the same, so the next piece is written over what follows it; and what a short piece does not cover stays
in sight.  Once the text is used up, a NUL is just a NUL.

* `Window` — what is in sight, and what is still to come.
* `Window.ofText` — the window before anything has arrived.
* `Window.more` — fetches the next piece; the request that finds nothing left ends the text.
* `Window.settle` — fetches pieces until the current byte is no NUL, or the text has ended.
* `Window.skipSpace` — settles on something that is not white space.
-/

set_option autoImplicit false

namespace Shapewright
namespace Wire

/-- A stretch of bytes in sight, with a current one among them. -/
structure Window where
  /-- The current byte and those behind it, to the end of the stretch. -/
  ahead : Bytes
  /-- How many bytes of the stretch come before the current one. -/
  passed : Nat := 0
  /-- How many bytes from the current one on count as text. It is negative when reading has gone beyond
  them. -/
  loaded : Int := 0
  /-- The length of a stretch; it doubles when a stretch that was filled is not enough. -/
  size : Nat
  /-- Whether the last piece took all the room there was. -/
  isFull : Bool := false
  /-- Whether nothing was left the last time. -/
  hasEnded : Bool := false
  /-- What has not arrived. -/
  pending : Bytes
  deriving DecidableEq, Repr

namespace Window

/-- The length of the first stretch. -/
def firstSize : Nat := 512

/-- The window on a text of which nothing has arrived. -/
def ofText (text : Bytes) : Window :=
  { ahead := List.replicate firstSize 0, size := firstSize, pending := text }

/-- The current byte; beyond the stretch there are only NULs. -/
def current (w : Window) : UInt8 := w.ahead.headD 0

/-- Whether the current byte asks for more, and there may be more. -/
def isWaiting (w : Window) : Bool := w.current == 0 && !w.hasEnded

/-- Goes on behind some bytes, in whose place others now stand that count as passed. -/
def replace (w : Window) (old new : Nat) : Window :=
  { w with ahead := w.ahead.drop old, passed := w.passed + new, loaded := w.loaded - old }

/-- Goes on to the next byte. -/
def next (w : Window) : Window := w.replace 1 1

/-- Lets go of what has been passed, which makes room. -/
def forget (w : Window) : Window := { w with passed := 0 }

/-- A stretch of twice the length, if the one there is was filled. -/
def grow (w : Window) : Window :=
  if w.isFull then
    let size := 2 * w.size
    let room := size - w.passed
    { w with size, ahead := w.ahead.take room ++ List.replicate (room - w.ahead.length) 0 }
  else w

/-- Writes bytes over the front of others and sets the last of those to NUL. -/
def overwrite (new old : Bytes) : Bytes :=
  new ++ (old.drop new.length).dropLast ++ [0]

/-- Fetches the next piece. It goes behind the bytes that count as text, or onto the first NUL among
them. -/
def more (w : Window) : Window :=
  let w := w.grow
  let kept := (w.ahead.take w.loaded.toNat).takeWhile (· != 0)
  let old := w.ahead.drop kept.length
  let piece := w.pending.take (old.length - 1)
  { w with
    ahead := kept ++ overwrite piece old
    loaded := kept.length + piece.length
    isFull := piece.length == old.length - 1
    hasEnded := w.pending.isEmpty
    pending := w.pending.drop piece.length }

/-- Fetches pieces while the current byte asks for more, some times at most. -/
def settle : Nat → Window → Window
  | 0, w => w
  | fuel + 1, w => if w.isWaiting then settle fuel w.more else w

/-- Whether a byte is white space. -/
def isSpace (b : UInt8) : Bool :=
  b == 0x20 || b == 0x09 || b == 0x0A || b == 0x0D

/-- Passes white space, fetching pieces on the way; the first argument bounds the number of steps. -/
def skipSpace : Nat → Window → Window
  | 0, w => w
  | fuel + 1, w =>
    if isSpace w.current then skipSpace fuel w.next
    else if w.isWaiting then skipSpace fuel w.more
    else w

end Window
end Wire
end Shapewright
