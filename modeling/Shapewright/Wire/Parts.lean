import Shapewright.Text.Blank
import Shapewright.Text.Percent
import Shapewright.Wire.Fault

/-!
# Lists as text

A list in a query or a header is one text with commas.

* `joinLists` — lists that arrive one by one, as one text.
* `listParts`, `setParts`, `dateParts` — the parts of a text.
* `convertEach`, `convertSet` — the parts one by one; of a set, each value once.
* `withoutRepeats` — what makes a list a set. The list is not copied: items that are kept are moved to
  the front of it while the others are still to be read.
-/

set_option autoImplicit false

namespace Shapewright
namespace Wire

/-! ## Lists -/

/-- What stands between the parts of a list. -/
def delimiter : UInt8 := Percent.byte ','

/-- Several lists as one. -/
def joinLists (texts : List Bytes) : Bytes :=
  List.intercalate [delimiter] texts

/-- The parts of a list, without blanks around them. A blank text has none. -/
def listParts (text : Bytes) : List Bytes :=
  if (Bytes.trim text).isEmpty then [] else (text.splitOn delimiter).map Bytes.trim

/-- Joins neighbours in pairs. -/
def pairUp {α : Type} (join : α → α → α) : List α → List α
  | a :: b :: rest => join a b :: pairUp join rest
  | rest => rest

/-- A day and what follows its comma. -/
def joinDate (day rest : Bytes) : Bytes :=
  day ++ [Percent.byte ',', Percent.byte ' '] ++ rest

/-- The parts of a list of dates, each of which has a comma behind the day. -/
def dateParts (text : Bytes) : List Bytes :=
  pairUp joinDate (listParts text)

/-- Converts the parts of a list; the first that fails decides. -/
def convertEach {α : Type} (field : String) (parts : List Bytes)
    (convert : String → Bytes → Served α) : Served (List α) :=
  parts.mapM (convert field)

/-! ## Sets -/

/-- A list that loses what is repeated in it. -/
structure Sieve (α κ : Type) where
  /-- What is kept so far, up to `kept`, then what happens to be left there, and what is not yet read. -/
  buffer : List α
  kept : Nat := 0
  seen : List κ := []

section

variable {α κ : Type} [BEq κ]

/-- Reads the item in one position, and keeps it if its key is new. -/
def Sieve.step (key : α → κ) (s : Sieve α κ) (i : Nat) : Sieve α κ :=
  match s.buffer[i]? with
  | none => s
  | some x =>
    if s.seen.contains (key x) then s
    else { buffer := s.buffer.set s.kept x, kept := s.kept + 1, seen := key x :: s.seen }

/-- The items of a list, of those with the same key the first. -/
def withoutRepeats (key : α → κ) (items : List α) : List α :=
  let s := (List.range items.length).foldl (Sieve.step key) { buffer := items }
  s.buffer.take s.kept

/-- Converts the parts of a set. Of values with the same key the first is kept. -/
def convertSet (key : α → κ) (field : String) (parts : List Bytes)
    (convert : String → Bytes → Served α) : Served (List α) :=
  (convertEach field parts convert).map (withoutRepeats key)

end

/-- The parts of a set: those of a list, each once. -/
def setParts (text : Bytes) : List Bytes :=
  withoutRepeats id (listParts text)

end Wire
end Shapewright
