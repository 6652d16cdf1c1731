import Shapewright.Json.Printer

/-!
# Documents on many lines

* `Outline` — a document whose texts are already spelled; what remains is where lines break.
* `Outline.ofJson` — the outline of a value.
* `Outline.render` — one item per line, nested ones two blanks further in.
-/

set_option autoImplicit false

namespace Shapewright

/-- A document whose keys and simple values are already spelled. -/
inductive Outline where
  | leaf (text : String)
  | array (items : List Outline)
  | object (fields : List (String × Outline))
  deriving Repr

namespace Outline

instance : Inhabited Outline := ⟨.leaf ""⟩

mutual

/-- The outline of a value. -/
def ofJson : Json → Outline
  | .array items => .array (ofItems items)
  | .object fields => .object (ofFields fields)
  | v => .leaf v.compact

/-- The outlines of items. -/
def ofItems : List Json → List Outline
  | [] => []
  | v :: rest => ofJson v :: ofItems rest

/-- The outlines of fields. -/
def ofFields : List (String × Json) → List (String × Outline)
  | [] => []
  | (k, v) :: rest => (Json.quoted true k, ofJson v) :: ofFields rest

end

/-- Entries between brackets, each on a line of its own. -/
def enclose (left right indent : String) (entries : List String) : String :=
  if entries.isEmpty then left ++ right
  else left ++ "\n" ++ ",\n".intercalate (entries.map (indent ++ "  " ++ ·)) ++ "\n" ++ indent
    ++ right

mutual

/-- The text of an outline that stands at an indentation. -/
def renderAt (indent : String) : Outline → String
  | .leaf text => text
  | .array items => enclose "[" "]" indent (renderItems (indent ++ "  ") items)
  | .object fields => enclose "\x7b" "\x7d" indent (renderFields (indent ++ "  ") fields)

/-- The texts of items. -/
def renderItems (indent : String) : List Outline → List String
  | [] => []
  | v :: rest => renderAt indent v :: renderItems indent rest

/-- The texts of fields. -/
def renderFields (indent : String) : List (String × Outline) → List String
  | [] => []
  | (k, v) :: rest => (k ++ ": " ++ renderAt indent v) :: renderFields indent rest

end

/-- The text of an outline, with a line end. -/
def render (o : Outline) : String :=
  renderAt "" o ++ "\n"

end Outline
end Shapewright
